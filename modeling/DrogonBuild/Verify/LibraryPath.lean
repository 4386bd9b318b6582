import DrogonBuild.Manager.State
import Mathlib.Data.String.Basic

/-!
# Extending the library search path

`update_environment_path` prepends the platform's usual library directories to
`LD_LIBRARY_PATH` or `DYLD_LIBRARY_PATH` (the vcpkg `bin` directory to `PATH`
on windows) when they exist and the variable does not already mention them.
"Mention" is `path not in current_path`: a substring test on the whole value,
not a test on its `:`-separated entries.
-/

namespace DrogonBuild.Verify

open Manager

/-- The variable `update_environment_path` extends on each platform. -/
def libraryPathVar : Platform → String
  | .windows => "PATH"
  | .darwin => "DYLD_LIBRARY_PATH"
  | _ => "LD_LIBRARY_PATH"

/-- `paths_to_add` of the darwin branch and of the linux branch, which every
other platform takes too. -/
def pathsToAdd : Platform → List String
  | .darwin => ["/usr/local/lib", "/usr/local/opt/openssl/lib", "/usr/local/opt/jsoncpp/lib"]
  | _ => ["/usr/local/lib", "/usr/lib", "/usr/lib/x86_64-linux-gnu"]

def vcpkgBin : String := "C:\\vcpkg\\installed\\x64-windows\\bin"

/-- The loop `for path in paths_to_add`, on the current value of the variable. -/
def addPaths (pathExists : String → Bool) (current : String) : List String → String
  | [] => current
  | path :: paths =>
    addPaths pathExists
      (if pathExists path && !inStr path current then
        (if current.isEmpty then path else path ++ ":" ++ current)
      else current) paths

/-- `update_environment_path()`: the new value of the platform's variable (its
old value is `value`, empty when unset) and the lines it prints. -/
def updateEnvironmentPath (system : Platform) (pathExists : String → Bool) (value : String) :
    String × List String :=
  match system with
  | .windows =>
    if pathExists vcpkgBin && !inStr vcpkgBin value then
      (vcpkgBin ++ ";" ++ value, ["Added to PATH: " ++ vcpkgBin])
    else (value, [])
  | _ =>
    let current := addPaths pathExists value (pathsToAdd system)
    (current, ["Updated " ++ libraryPathVar system ++ ": " ++ current])

/-- The separator of the platform's search-path variable, as `find_library_in_path`
splits it. -/
def pathSeparator : Platform → Char
  | .windows => ';'
  | _ => ':'

/-- The directories `update_environment_path` may add on each platform. -/
def dirsToAdd : Platform → List String
  | .windows => [vcpkgBin]
  | system => pathsToAdd system

theorem pathsToAdd_no_colon (system : Platform) : ∀ p ∈ pathsToAdd system, ':' ∉ p.toList := by
  cases system <;> first
    | decide
    | exact (by decide : ∀ p ∈ ["/usr/local/lib", "/usr/lib", "/usr/lib/x86_64-linux-gnu"], ':' ∉ p.toList)

section
variable (pathExists : String → Bool)

theorem addPaths_suffix (current : String) (paths : List String) :
    current.toList <:+ (addPaths pathExists current paths).toList := by
  induction paths generalizing current with
  | nil => exact List.suffix_refl _
  | cons p ps ih =>
    refine List.IsSuffix.trans ?_ (ih _)
    split
    · split
      · rename_i he
        rw [(String.isEmpty_iff _).1 he]
        exact List.nil_suffix
      · exact ⟨p.toList ++ [':'], by simp [String.toList]⟩
    · exact List.suffix_refl _

/-- After the loop every existing directory of the list occurs in the value. -/
theorem addPaths_mentions (current : String) (paths : List String) (p : String) (hp : p ∈ paths)
    (he : pathExists p = true) : inStr p (addPaths pathExists current paths) = true := by
  induction paths generalizing current with
  | nil => cases hp
  | cons q qs ih =>
    rw [addPaths]
    rcases List.mem_cons.1 hp with rfl | hp
    · refine decide_eq_true (List.IsInfix.trans ?_ (addPaths_suffix pathExists _ _).isInfix)
      by_cases hin : inStr p current = true
      · rw [if_neg (by simp [hin])]
        exact of_decide_eq_true hin
      · rw [if_pos (by simp [he, hin])]
        split
        · exact List.infix_refl _
        · exact ⟨[], ':' :: current.toList, by simp [String.toList]⟩
    · exact ih _ hp

/-- A value that already mentions every existing directory of the list is left as it is. -/
theorem addPaths_of_mentioned {current : String} {paths : List String}
    (h : ∀ p ∈ paths, pathExists p = true → inStr p current = true) :
    addPaths pathExists current paths = current := by
  induction paths with
  | nil => rfl
  | cons q qs ih =>
    have hq : ¬(pathExists q && !inStr q current) = true := fun hq => by
      simp only [Bool.and_eq_true, Bool.not_eq_true'] at hq
      simp [h q (List.mem_cons_self _ _) hq.1] at hq
    rw [addPaths, if_neg hq, ih fun p hp => h p (List.mem_cons_of_mem _ hp)]

theorem inStr_prepend {p : String} (q : String) {current : String} (h : inStr p current = true) :
    inStr p (q ++ ":" ++ current) = true :=
  decide_eq_true ((of_decide_eq_true h).trans ⟨q.toList ++ [':'], [], by simp [String.toList]⟩)

/-- On a non-empty value without separators in the listed directories, the loop
puts some of them, each existing and not mentioned before, in front of the old entries. -/
theorem addPaths_entries (paths : List String) (hsep : ∀ p ∈ paths, ':' ∉ p.toList) {current : String}
    (hc : current ≠ "") : ∃ added, pySplit (addPaths pathExists current paths) ':' = added ++ pySplit current ':' ∧
      ∀ p ∈ added, p ∈ paths ∧ pathExists p = true ∧ inStr p current = false := by
  induction paths generalizing current with
  | nil => exact ⟨[], rfl, nofun⟩
  | cons q qs ih =>
    have hsep' : ∀ p ∈ qs, ':' ∉ p.toList := fun p hp => hsep p (List.mem_cons_of_mem _ hp)
    by_cases hadd : (pathExists q && !inStr q current) = true
    · have hne : (q ++ ":" ++ current) ≠ "" := fun h => by
        have := congrArg String.toList h
        simp [String.toList] at this
      obtain ⟨added, hs, hall⟩ := ih hsep' hne
      have hcur : current.isEmpty = false := Bool.eq_false_iff.2 fun h => hc ((String.isEmpty_iff _).1 h)
      simp only [Bool.and_eq_true, Bool.not_eq_true'] at hadd
      refine ⟨added ++ [q], ?_, fun p hp => ?_⟩
      · rw [addPaths, if_pos (by simp [hadd]), if_neg (by simp [hcur]), hs,
          show q ++ ":" ++ current = q ++ String.singleton ':' ++ current from rfl,
          pySplit_prepend ':' (hsep q (List.mem_cons_self _ _))]
        simp
      · rcases List.mem_append.1 hp with hp | hp
        · obtain ⟨hpq, hpe, hpc⟩ := hall p hp
          exact ⟨List.mem_cons_of_mem _ hpq, hpe, Bool.eq_false_iff.2 fun hin =>
            Bool.eq_false_iff.1 hpc (inStr_prepend q hin)⟩
        · rw [List.mem_singleton.1 hp]
          exact ⟨List.mem_cons_self _ _, hadd.1, hadd.2⟩
    · obtain ⟨added, hs, hall⟩ := ih hsep' hc
      refine ⟨added, by rw [addPaths, if_neg hadd, hs], fun p hp => ?_⟩
      obtain ⟨hpq, hpe, hpc⟩ := hall p hp
      exact ⟨List.mem_cons_of_mem _ hpq, hpe, hpc⟩

end

/-- On every platform, from a non-empty value `V`: the new value's entries are some
directories of the platform's list, each existing and not mentioned in `V`,
followed by the entries of `V` in order; and every existing directory of the list
is mentioned (as a substring) in the new value. -/
theorem update_path_prepends_unmentioned (system : Platform) (pathExists : String → Bool) {V : String}
    (hV : V ≠ "") :
    (∃ added, pySplit (updateEnvironmentPath system pathExists V).1 (pathSeparator system) =
        added ++ pySplit V (pathSeparator system) ∧
      ∀ p ∈ added, p ∈ dirsToAdd system ∧ pathExists p = true ∧ inStr p V = false) ∧
    ∀ p ∈ dirsToAdd system, pathExists p = true → inStr p (updateEnvironmentPath system pathExists V).1 = true := by
  cases system with
  | windows =>
    simp only [updateEnvironmentPath, dirsToAdd, pathSeparator, List.mem_singleton, forall_eq]
    by_cases hadd : (pathExists vcpkgBin && !inStr vcpkgBin V) = true
    · simp only [Bool.and_eq_true, Bool.not_eq_true'] at hadd
      rw [if_pos (by simp [hadd])]
      refine ⟨⟨[vcpkgBin], ?_, by simp [hadd]⟩, fun _ => decide_eq_true ⟨[], ';' :: V.toList, by simp [String.toList]⟩⟩
      rw [show vcpkgBin ++ ";" ++ V = vcpkgBin ++ String.singleton ';' ++ V from rfl, pySplit_prepend ';' (by decide)]
      rfl
    · rw [if_neg hadd]
      exact ⟨⟨[], rfl, nofun⟩, fun he => by simpa [he] using hadd⟩
  | linux | darwin | other _ =>
    exact ⟨addPaths_entries pathExists _ (pathsToAdd_no_colon _) hV,
      fun p hp he => addPaths_mentions pathExists _ _ p hp he⟩

theorem update_path_prepends_unmentioned_opt_lib :
    "/opt/lib" ≠ "" ∧
      (∃ added, pySplit (updateEnvironmentPath .linux (fun _ => true) "/opt/lib").1 (pathSeparator .linux) =
          added ++ pySplit "/opt/lib" (pathSeparator .linux) ∧
        ∀ p ∈ added, p ∈ dirsToAdd .linux ∧ true = true ∧ inStr p "/opt/lib" = false) ∧
      ∀ p ∈ dirsToAdd .linux, true = true →
        inStr p (updateEnvironmentPath .linux (fun _ => true) "/opt/lib").1 = true :=
  ⟨by decide, update_path_prepends_unmentioned .linux (fun _ => true) (by decide)⟩

/-- `update_environment_path` is idempotent: called again on the value it left,
on any platform and from any value, it leaves that value as it is, so repeated
calls never grow the variable. -/
theorem update_environment_path_idempotent (system : Platform) (pathExists : String → Bool) (value : String) :
    (updateEnvironmentPath system pathExists (updateEnvironmentPath system pathExists value).1).1 =
      (updateEnvironmentPath system pathExists value).1 := by
  cases system with
  | windows =>
    have hpre : inStr vcpkgBin (vcpkgBin ++ ";" ++ value) = true :=
      decide_eq_true ⟨[], ';' :: value.toList, by simp [String.toList]⟩
    by_cases hadd : (pathExists vcpkgBin && !inStr vcpkgBin value) = true
    · simp only [updateEnvironmentPath, if_pos hadd, hpre, Bool.not_true, Bool.and_false]
      rfl
    · simp only [updateEnvironmentPath, if_neg hadd]
  | linux | darwin | other _ =>
    exact addPaths_of_mentioned pathExists fun p hp he => addPaths_mentions pathExists _ _ p hp he

/-- On linux with every directory present and `LD_LIBRARY_PATH` holding only
`/usr/lib/x86_64-linux-gnu`, `/usr/lib` occurs in that entry as a substring, so it
is not added: the variable ends as `/usr/local/lib:/usr/lib/x86_64-linux-gnu`. -/
theorem update_path_skips_usr_lib :
    (updateEnvironmentPath .linux (fun _ => true) "/usr/lib/x86_64-linux-gnu").1 =
        "/usr/local/lib:/usr/lib/x86_64-linux-gnu" ∧
      "/usr/lib" ∈ pathsToAdd .linux ∧
      "/usr/lib" ∉ pySplit (updateEnvironmentPath .linux (fun _ => true) "/usr/lib/x86_64-linux-gnu").1 ':' := by
  decide

end DrogonBuild.Verify
