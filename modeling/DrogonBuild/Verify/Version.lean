import Mathlib.Data.String.Basic
import DrogonBuild.Python.Text

/-!
# Reading and comparing tool versions

`parse_version` takes the first match of `(\d+\.\d+(\.\d+)?)` in a program's
output, pads it to three components and reads them as integers;
`compare_versions` compares the two lists as Python compares lists. `\d` is
read as an ASCII digit. The pattern never backtracks usefully: a digit run
followed by a dot is taken whole, so the match at a position is the greedy one,
and `re.search` returns the one at the leftmost position that has a match.
-/

namespace DrogonBuild.Verify

/-- `\d+` at the start of `cs`, greedy: the maximal run of digits and the rest. -/
def digitRun (cs : List Char) : Option (List Char × List Char) :=
  if (cs.takeWhile Char.isDigit).isEmpty then none
  else some (cs.takeWhile Char.isDigit, cs.dropWhile Char.isDigit)

/-- `\d+\.\d+(\.\d+)?` anchored at the start of `cs`: the components of the match. -/
def matchVersion (cs : List Char) : Option (List (List Char)) :=
  match digitRun cs with
  | some (a, '.' :: r) =>
    match digitRun r with
    | some (b, '.' :: r) =>
      match digitRun r with
      | some (c, _) => some [a, b, c]
      | none => some [a, b]
    | some (b, _) => some [a, b]
    | none => none
  | _ => none

/-- `re.search`: the match at the leftmost position that has one. -/
def searchVersion : List Char → Option (List (List Char))
  | [] => none
  | c :: cs =>
    match matchVersion (c :: cs) with
    | some m => some m
    | none => searchVersion cs

/-- `int(c)` of a digit string. -/
def digitsValue (ds : List Char) : Nat := ds.foldl (fun n d => 10 * n + (d.toNat - '0'.toNat)) 0

/-- `parse_version`: the components of the first dotted version, padded with
`'0'` to three, as integers; `[0, 0, 0]` when the text has none. -/
def parseVersion (versionStr : String) : List Nat :=
  match searchVersion versionStr.toList with
  | some components => (components ++ List.replicate (3 - components.length) ['0']).map digitsValue
  | none => [0, 0, 0]

/-- `v1 >= v2` on lists of integers: the first differing item decides, then the length. -/
def listGe : List Nat → List Nat → Bool
  | [], [] => true
  | [], _ :: _ => false
  | _ :: _, [] => true
  | a :: as, b :: bs => if a = b then listGe as bs else b < a

/-- `compare_versions(version1, version2)`: whether `version1 >= version2`. -/
def compareVersions (version1 version2 : String) : Bool :=
  listGe (parseVersion version1) (parseVersion version2)

/-! ## Decimal numerals -/

theorem digitChar_spec : ∀ k < 10, (Nat.digitChar k).isDigit ∧ (Nat.digitChar k).toNat - '0'.toNat = k := by
  decide

theorem digitsValue_append_singleton (ds : List Char) (d : Char) :
    digitsValue (ds ++ [d]) = 10 * digitsValue ds + (d.toNat - '0'.toNat) := by
  simp [digitsValue, List.foldl_append]

theorem toDigitsCore_succ (f n : Nat) (acc : List Char) :
    Nat.toDigitsCore 10 (f + 1) n acc = if n / 10 = 0 then Nat.digitChar (n % 10) :: acc
      else Nat.toDigitsCore 10 f (n / 10) (Nat.digitChar (n % 10) :: acc) := rfl

/-- With enough fuel, `toDigitsCore` puts the decimal digits of `n` before `acc`. -/
theorem toDigitsCore_ten (f n : Nat) (acc : List Char) (hf : n < f) :
    ∃ ds, Nat.toDigitsCore 10 f n acc = ds ++ acc ∧ ds ≠ [] ∧ (∀ c ∈ ds, c.isDigit) ∧
      digitsValue ds = n := by
  induction f generalizing n acc with
  | zero => omega
  | succ f ih =>
    have hd := digitChar_spec (n % 10) (Nat.mod_lt _ (by decide))
    rw [toDigitsCore_succ]
    by_cases h0 : n / 10 = 0
    · refine ⟨[Nat.digitChar (n % 10)], by simp [h0], by simp, by simpa using hd.1, ?_⟩
      have := digitsValue_append_singleton [] (Nat.digitChar (n % 10))
      simp only [List.nil_append] at this
      rw [this, hd.2]
      simp [digitsValue]
      omega
    · obtain ⟨ds, hds, hne, hdig, hval⟩ := ih (n / 10) (Nat.digitChar (n % 10) :: acc) (by omega)
      refine ⟨ds ++ [Nat.digitChar (n % 10)], by simp [h0, hds], by simp, fun c hc => ?_, ?_⟩
      · rcases List.mem_append.1 hc with hc | hc
        · exact hdig c hc
        · exact (List.mem_singleton.1 hc) ▸ hd.1
      · rw [digitsValue_append_singleton, hval, hd.2]
        omega

/-- The decimal numeral of `n` is a non-empty run of digits worth `n`. -/
theorem repr_digits (n : Nat) :
    (toString n).toList ≠ [] ∧ (∀ c ∈ (toString n).toList, c.isDigit) ∧
      digitsValue (toString n).toList = n := by
  obtain ⟨ds, hds, hne, hdig, hval⟩ := toDigitsCore_ten (n + 1) n [] (by omega)
  have : (toString n).toList = ds := by
    rw [← List.append_nil ds, ← hds]
    rfl
  exact this ▸ ⟨hne, hdig, hval⟩

/-! ## The match -/

theorem digitRun_append {ds rest : List Char} (hne : ds ≠ []) (hdig : ∀ c ∈ ds, c.isDigit)
    (hrest : ∀ c ∈ rest.head?, ¬ c.isDigit) : digitRun (ds ++ rest) = some (ds, rest) := by
  have ht : rest.takeWhile Char.isDigit = [] := by
    cases rest with
    | nil => rfl
    | cons c cs => simpa using hrest c rfl
  have hd : rest.dropWhile Char.isDigit = rest := by
    cases rest with
    | nil => rfl
    | cons c cs => exact List.dropWhile_cons_of_neg (hrest c rfl)
  simp [digitRun, List.takeWhile_append_of_pos hdig, List.dropWhile_append_of_pos hdig, ht, hd, hne]

theorem digitRun_of_not_digit {c : Char} {cs : List Char} (h : ¬ c.isDigit) : digitRun (c :: cs) = none := by
  simp [digitRun, h]

/-- Text without digits before the version is skipped by the search. -/
theorem searchVersion_skip {pre : List Char} (cs : List Char) (hpre : ∀ c ∈ pre, ¬ c.isDigit) :
    searchVersion (pre ++ cs) = searchVersion cs := by
  induction pre with
  | nil => rfl
  | cons c pre ih =>
    have hm : matchVersion (c :: (pre ++ cs)) = none := by
      simp [matchVersion, digitRun_of_not_digit (hpre c (List.mem_cons_self _ _))]
    rw [List.cons_append, searchVersion, hm]
    exact ih fun d hd => hpre d (List.mem_cons_of_mem _ hd)

theorem searchVersion_of_match {cs : List Char} {m : List (List Char)} (h : matchVersion cs = some m) :
    searchVersion cs = some m := by
  cases cs with
  | nil => simp [matchVersion, digitRun] at h
  | cons c cs => simp [searchVersion, h]

theorem digitRun_some {cs a r : List Char} (h : digitRun cs = some (a, r)) :
    cs = a ++ r ∧ a ≠ [] ∧ ∀ c ∈ a, c.isDigit := by
  unfold digitRun at h
  split at h
  · cases h
  · rename_i hne
    cases h
    refine ⟨(List.takeWhile_append_dropWhile _ _).symm, by simpa using hne, fun c hc => ?_⟩
    exact List.mem_takeWhile_imp hc

/-- A match shows a digit, a dot and a digit next to each other. -/
theorem matchVersion_digit_dot_digit {cs : List Char} {m : List (List Char)} (h : matchVersion cs = some m) :
    ∃ d₁ d₂, d₁.isDigit ∧ d₂.isDigit ∧ [d₁, '.', d₂] <:+: cs := by
  unfold matchVersion at h
  split at h
  · rename_i a r ha
    obtain ⟨rfl, hne, hdig⟩ := digitRun_some ha
    cases hb : digitRun r with
    | none => simp [hb] at h
    | some p =>
      obtain ⟨b, r'⟩ := p
      obtain ⟨rfl, hbne, hbdig⟩ := digitRun_some hb
      obtain ⟨a', d₁, rfl⟩ := (List.eq_nil_or_concat a).resolve_left hne
      obtain ⟨d₂, b', rfl⟩ := List.exists_cons_of_ne_nil hbne
      exact ⟨d₁, d₂, hdig d₁ (by simp), hbdig d₂ (by simp), a', b' ++ r', by simp⟩
  · cases h

/-- A text with no digit, dot, digit in a row has no version in it. -/
theorem searchVersion_none {cs : List Char}
    (h : ¬ ∃ d₁ d₂, d₁.isDigit ∧ d₂.isDigit ∧ [d₁, '.', d₂] <:+: cs) : searchVersion cs = none := by
  induction cs with
  | nil => rfl
  | cons c cs ih =>
    cases hm : matchVersion (c :: cs) with
    | some m => exact absurd (matchVersion_digit_dot_digit hm) h
    | none =>
      rw [searchVersion, hm]
      exact ih fun ⟨d₁, d₂, h₁, h₂, hi⟩ => h ⟨d₁, d₂, h₁, h₂, hi.trans (List.suffix_cons c cs).isInfix⟩

theorem matchVersion_three {a b c rest : List Char} (ha : a ≠ [] ∧ ∀ ch ∈ a, ch.isDigit)
    (hb : b ≠ [] ∧ ∀ ch ∈ b, ch.isDigit) (hc : c ≠ [] ∧ ∀ ch ∈ c, ch.isDigit)
    (hrest : ∀ ch ∈ rest.head?, ¬ ch.isDigit) :
    matchVersion (a ++ '.' :: (b ++ '.' :: (c ++ rest))) = some [a, b, c] := by
  have hdot : ∀ {r : List Char}, ∀ ch ∈ ('.' :: r).head?, ¬ ch.isDigit := by simp
  simp [matchVersion, digitRun_append ha.1 ha.2 hdot, digitRun_append hb.1 hb.2 hdot,
    digitRun_append hc.1 hc.2 hrest]

theorem matchVersion_two {a b rest : List Char} (ha : a ≠ [] ∧ ∀ ch ∈ a, ch.isDigit)
    (hb : b ≠ [] ∧ ∀ ch ∈ b, ch.isDigit) (hrest : ∀ ch ∈ rest.head?, ¬ ch.isDigit)
    (hdot : ∀ r, rest = '.' :: r → ∀ ch ∈ r.head?, ¬ ch.isDigit) :
    matchVersion (a ++ '.' :: (b ++ rest)) = some [a, b] := by
  have hd : ∀ ch ∈ ('.' :: (b ++ rest)).head?, ¬ ch.isDigit := by simp
  simp only [matchVersion, digitRun_append ha.1 ha.2 hd, digitRun_append hb.1 hb.2 hrest]
  split
  · rename_i b' r heq
    obtain ⟨rfl, rfl⟩ : b = b' ∧ rest = '.' :: r := by simpa using heq
    cases r with
    | nil => rfl
    | cons ch r => simp [digitRun_of_not_digit (hdot _ rfl ch rfl)]
  · rename_i b' _ _ heq
    obtain ⟨rfl, -⟩ : b = b' ∧ _ := by simpa using heq
    rfl
  · simp at *

/-! ## What `parse_version` reads -/

theorem parseVersion_three (a b c : Nat) {P S : String} (hP : ∀ ch ∈ P.toList, ¬ ch.isDigit)
    (hS : ∀ ch ∈ S.toList.head?, ¬ ch.isDigit) :
    parseVersion (P ++ (toString a ++ "." ++ toString b ++ "." ++ toString c) ++ S) = [a, b, c] := by
  have ha := repr_digits a
  have hb := repr_digits b
  have hc := repr_digits c
  have e : (P ++ (toString a ++ "." ++ toString b ++ "." ++ toString c) ++ S).toList =
      P.toList ++ ((toString a).toList ++ '.' :: ((toString b).toList ++ '.' :: ((toString c).toList ++
        S.toList))) := by
    simp [String.toList, List.append_assoc]
  rw [parseVersion, e, searchVersion_skip _ hP,
    searchVersion_of_match (matchVersion_three ⟨ha.1, ha.2.1⟩ ⟨hb.1, hb.2.1⟩ ⟨hc.1, hc.2.1⟩ hS)]
  show [digitsValue _, digitsValue _, digitsValue _] = _
  rw [ha.2.2, hb.2.2, hc.2.2]

theorem parseVersion_two (a b : Nat) {P S : String} (hP : ∀ ch ∈ P.toList, ¬ ch.isDigit)
    (hS : ∀ ch ∈ S.toList.head?, ¬ ch.isDigit)
    (hdot : ∀ r, S.toList = '.' :: r → ∀ ch ∈ r.head?, ¬ ch.isDigit) :
    parseVersion (P ++ (toString a ++ "." ++ toString b) ++ S) = [a, b, 0] := by
  have ha := repr_digits a
  have hb := repr_digits b
  have e : (P ++ (toString a ++ "." ++ toString b) ++ S).toList =
      P.toList ++ ((toString a).toList ++ '.' :: ((toString b).toList ++ S.toList)) := by
    simp [String.toList, List.append_assoc]
  rw [parseVersion, e, searchVersion_skip _ hP,
    searchVersion_of_match (matchVersion_two ⟨ha.1, ha.2.1⟩ ⟨hb.1, hb.2.1⟩ hS hdot)]
  show [digitsValue _, digitsValue _, digitsValue ['0']] = _
  rw [ha.2.2, hb.2.2]
  rfl

theorem parseVersion_none {t : String}
    (h : ¬ ∃ d₁ d₂, d₁.isDigit ∧ d₂.isDigit ∧ [d₁, '.', d₂] <:+: t.toList) : parseVersion t = [0, 0, 0] := by
  rw [parseVersion, searchVersion_none h]

theorem listGe_three (a b c x y z : Nat) :
    listGe [a, b, c] [x, y, z] = true ↔ x < a ∨ x = a ∧ (y < b ∨ y = b ∧ z ≤ c) := by
  simp only [listGe]
  split_ifs <;> simp <;> omega

/-! ## The version gate of `check_tool` -/

/-- What `check_tool` observes: the platform, whether the Visual Studio developer
environment is active, `shutil.which`, and `subprocess.run` with its captured
output or the text of the exception it raised. -/
structure ToolHost where
  windows : Bool
  vsEnvironment : Bool
  which : String → Bool
  run : List String → Except String (String × String)

/-- `check_tool(name, spec)` for `spec["command"] = command :: args`. -/
def checkTool (h : ToolHost) (command : String) (args : List String) (minVersion : Option String) :
    Bool × String :=
  if command = "cl" ∧ h.windows then
    if !h.vsEnvironment then (false, "Visual Studio environment not activated")
    else if !h.which command then (false, "Not found in PATH")
    else (true, "Visual Studio environment detected")
  else if !h.which command then (false, "Not found in PATH")
  else
    match h.run (command :: args) with
    | .error e => (false, "Error running command: " ++ e)
    | .ok (stdout, stderr) =>
      let output := if stdout.isEmpty then stderr else stdout
      if command = "vcpkg" then (true, "Available in PATH")
      else match minVersion with
        | some m =>
          if !m.isEmpty && !compareVersions output m then (false, "Version too old (need " ++ m ++ "+)")
          else (true, (firstLine output).trim)
        | none => (true, (firstLine output).trim)

/-- A tool that is found and runs passes the gate exactly when its output
compares at least the minimum. -/
theorem checkTool_version_gate (h : ToolHost) {command : String} (args : List String) {m out err : String}
    (hcl : ¬(command = "cl" ∧ h.windows = true)) (hv : command ≠ "vcpkg") (hw : h.which command = true)
    (hm : m ≠ "") (hr : h.run (command :: args) = .ok (out, err)) :
    (checkTool h command args (some m)).1 = compareVersions (if out.isEmpty then err else out) m := by
  simp only [checkTool, if_neg hcl, hw, Bool.not_true, hr, if_neg hv]
  have hm' : m.isEmpty = false := Bool.eq_false_iff.2 fun h => hm ((String.isEmpty_iff m).1 h)
  cases compareVersions (if out.isEmpty then err else out) m <;> simp [hm']

/-! ## The gate is monotone in the minimum -/

/-- A match has two or three components. -/
theorem matchVersion_length {cs : List Char} {m : List (List Char)} (h : matchVersion cs = some m) :
    m.length ≤ 3 := by
  unfold matchVersion at h
  repeat' split at h
  all_goals (cases h; try simp)

theorem searchVersion_length {cs : List Char} {m : List (List Char)} (h : searchVersion cs = some m) :
    m.length ≤ 3 := by
  induction cs with
  | nil => cases h
  | cons c cs ih =>
    cases hm : matchVersion (c :: cs) with
    | some m' => rw [searchVersion, hm] at h; cases h; exact matchVersion_length hm
    | none => rw [searchVersion, hm] at h; exact ih h

/-- `parse_version` always gives three integers. -/
theorem parseVersion_length (t : String) : (parseVersion t).length = 3 := by
  unfold parseVersion
  split
  · rename_i hs
    have := searchVersion_length hs
    simp only [List.length_map, List.length_append, List.length_replicate]
    omega
  · rfl

/-- Python's `>=` on lists of integers is transitive. -/
theorem listGe_trans {a b c : List Nat} (hab : listGe a b = true) (hbc : listGe b c = true) :
    listGe a c = true := by
  induction a generalizing b c with
  | nil => cases b <;> cases c <;> simp_all [listGe]
  | cons x xs ih =>
    cases b with
    | nil => cases c <;> simp_all [listGe]
    | cons y ys =>
      cases c with
      | nil => rfl
      | cons z zs =>
        simp only [listGe] at hab hbc ⊢
        split_ifs at hab hbc ⊢ <;> (try simp only [decide_eq_true_eq] at hab hbc ⊢) <;>
          first | exact ih hab hbc | omega

/-- Every version compares at least an empty minimum, read as `0.0.0`. -/
theorem compareVersions_empty (t : String) : compareVersions t "" = true := by
  obtain ⟨a, b, c, h⟩ := List.length_eq_three.1 (parseVersion_length t)
  rw [compareVersions, h, show parseVersion "" = [0, 0, 0] from rfl, listGe_three]
  omega

/-- The gate of `check_tool` fails exactly when the output compares below the minimum. -/
theorem gate_iff (out n : String) :
    (!n.isEmpty && !compareVersions out n) = true ↔ compareVersions out n = false := by
  by_cases hn : n.isEmpty = true
  · rw [(String.isEmpty_iff n).1 hn, compareVersions_empty]; decide
  · simp [hn]

/-- An output that passes the gate against `m` passes it against every `m'` at or below `m`. -/
theorem gate_lower {out m m' : String} (hm : compareVersions m m' = true)
    (h : ¬(!m.isEmpty && !compareVersions out m) = true) : ¬(!m'.isEmpty && !compareVersions out m') = true := by
  rw [gate_iff, Bool.not_eq_false] at h ⊢
  exact listGe_trans h hm

/-- Lowering a minimum version never fails a tool that passed: if `check_tool`
passes a tool against the minimum `m`, it passes it, with the same message,
against no minimum and against every minimum `m'` that `compare_versions(m, m')`
puts at or below `m`. -/
theorem lowering_minimum_keeps_tool_passing (h : ToolHost) (command : String) (args : List String)
    {m m' msg : String} (hp : checkTool h command args (some m) = (true, msg))
    (hm : compareVersions m m' = true) :
    checkTool h command args none = (true, msg) ∧ checkTool h command args (some m') = (true, msg) := by
  unfold checkTool at hp ⊢
  by_cases hcl : command = "cl" ∧ h.windows = true
  · simp only [if_pos hcl] at hp ⊢; exact ⟨hp, hp⟩
  simp only [if_neg hcl] at hp ⊢
  by_cases hw : (!h.which command) = true
  · simp only [if_pos hw] at hp ⊢; exact ⟨hp, hp⟩
  simp only [if_neg hw] at hp ⊢
  cases hr : h.run (command :: args) with
  | error e => simp only [hr] at hp; cases hp
  | ok r =>
    obtain ⟨out, err⟩ := r
    simp only [hr] at hp ⊢
    by_cases hv : command = "vcpkg"
    · simp only [if_pos hv] at hp ⊢; exact ⟨hp, hp⟩
    simp only [if_neg hv] at hp ⊢
    by_cases hg : (!m.isEmpty && !compareVersions (if out.isEmpty = true then err else out) m) = true
    · rw [if_pos hg] at hp; cases hp
    rw [if_neg hg] at hp
    exact ⟨hp, by rw [if_neg (gate_lower hm hg)]; exact hp⟩

/-- A host where `cmake --version` reports 3.28.1. -/
def cmakeHost : ToolHost := ⟨false, false, fun _ => true, fun _ => .ok ("cmake version 3.28.1\nCMake suite", "")⟩

theorem lowering_minimum_keeps_tool_passing_cmake :
    checkTool cmakeHost "cmake" ["--version"] (some "3.20") =
        (true, (firstLine "cmake version 3.28.1\nCMake suite").trim) ∧
      compareVersions "3.20" "3.14" = true ∧
      checkTool cmakeHost "cmake" ["--version"] none = (true, (firstLine "cmake version 3.28.1\nCMake suite").trim) ∧
      checkTool cmakeHost "cmake" ["--version"] (some "3.14") =
        (true, (firstLine "cmake version 3.28.1\nCMake suite").trim) :=
  have hp : checkTool cmakeHost "cmake" ["--version"] (some "3.20") =
      (true, (firstLine "cmake version 3.28.1\nCMake suite").trim) := by
    unfold checkTool
    rw [if_neg (by decide), if_neg (by decide)]
    show (if "cmake" = "vcpkg" then _ else _) = _
    rw [if_neg (by decide)]
    exact if_neg (by decide)
  have hm : compareVersions "3.20" "3.14" = true := by decide
  ⟨hp, hm, lowering_minimum_keeps_tool_passing cmakeHost "cmake" ["--version"] hp hm⟩

end DrogonBuild.Verify
