import DrogonBuild.Verify.LibraryPath
import DrogonBuild.Verify.Version

/-!
# Finding a library on the search path

`find_library_in_path(file_pattern)` splits the platform's library path variable
on its separator, appends the platform's standard directories, drops the blank
entries, and returns the first name, in the first existing directory of that
order, that matches the pattern. Listing is not guarded: an existing entry that
cannot be listed (a regular file, a directory without read permission) raises
out of the search.

`main` calls `update_environment_path` first. Except on darwin, every directory
the update may add is one of the standard directories the search appends
anyway, so the update never changes whether a library is found; on darwin it
can only add finds.
-/

namespace DrogonBuild.Verify

open Manager

/-- The machine as `verify_environment.py` sees it. The command oracles answer
for the `PATH` that `update_environment_path` leaves. -/
structure Machine where
  /-- The platform, `platform.system().lower()`. -/
  system : Platform
  /-- Whether `VSCMD_ARG_TGT_ARCH` is set. -/
  vsEnvironment : Bool
  /-- Whether `shutil.which(command)` finds the command. -/
  which : String → Bool
  /-- The stdout and stderr of `subprocess.run(cmd, capture_output=True, text=True)`,
  or the text of the exception it raises. -/
  run : List String → Except String (String × String)
  /-- The answer of `os.path.exists`. -/
  pathExists : String → Bool
  /-- The names `os.listdir` gives, in its order, or the text of the exception it raises. -/
  listdir : String → Except String (List String)
  /-- The answer of `fnmatch.fnmatch(file.lower(), file_pattern.lower())`. -/
  nameMatches : String → String → Bool
  /-- The platform's library path variable when the script starts, empty when unset. -/
  libraryPath : String
  /-- The workspace root, `Path(__file__).resolve().parent.parent`. -/
  root : String
  /-- The timestamp `datetime.now().isoformat()`. -/
  now : String

/-- The host `check_tool` sees: `platform.system() == "Windows"` holds on windows only. -/
def Machine.toolHost (m : Machine) : ToolHost :=
  ⟨decide (m.system = .windows), m.vsEnvironment, m.which, m.run⟩

/-- The directories `find_library_in_path` appends to the variable's entries. -/
def standardDirs : Platform → List String
  | .windows => ["C:\\Windows\\System32", "C:\\vcpkg\\installed\\x64-windows\\bin"]
  | .darwin => ["/usr/local/lib", "/usr/lib"]
  | _ => ["/usr/local/lib", "/usr/lib", "/usr/lib/x86_64-linux-gnu"]

/-- The list `paths` that `find_library_in_path` walks while the variable holds
`value`: its entries, then the standard directories, without blank ones. -/
def searchDirs (system : Platform) (value : String) : List String :=
  (pySplit value (pathSeparator system) ++ standardDirs system).filter fun p => !isBlank p

/-- `os.path.join(path, file)` for a name as `os.listdir` gives it (no separator,
no drive) and a directory that is not a bare drive. -/
def osJoin (system : Platform) (path file : String) : String :=
  match system with
  | .windows => if endswith path "\\" || endswith path "/" then path ++ file else path ++ "\\" ++ file
  | _ => if endswith path "/" then path ++ file else path ++ "/" ++ file

/-- The loop `for path in paths` of `find_library_in_path`. -/
def searchIn (m : Machine) (pattern : String) : List String → Except String (Bool × String)
  | [] => .ok (false, "Not found in library paths")
  | path :: paths =>
    if !m.pathExists path then searchIn m pattern paths
    else match m.listdir path with
      | .error e => .error e
      | .ok files =>
        match files.find? fun file => m.nameMatches file pattern with
        | some file => .ok (true, osJoin m.system path file)
        | none => searchIn m pattern paths

/-- `find_library_in_path(file_pattern)` while the platform's variable holds `value`. -/
def findLibraryInPath (m : Machine) (value pattern : String) : Except String (Bool × String) :=
  searchIn m pattern (searchDirs m.system value)

/-! ## The search finds the first match -/

section
variable (m : Machine) (pattern : String)

/-- The search moves past `d`: `d` does not exist, or it lists with no matching name. -/
def Passed (d : String) : Prop :=
  m.pathExists d = false ∨ ∃ files, m.listdir d = .ok files ∧ ∀ f ∈ files, m.nameMatches f pattern = false

/-- The search of `dirs` reports `p`: the first name matching in `d`, every
directory before `d` passed. -/
def FirstMatch (dirs : List String) (p : String) : Prop :=
  ∃ pre d post files file, dirs = pre ++ d :: post ∧ (∀ d' ∈ pre, Passed m pattern d') ∧
    m.pathExists d = true ∧ m.listdir d = .ok files ∧
      files.find? (fun f => m.nameMatches f pattern) = some file ∧ p = osJoin m.system d file

variable {m pattern}

theorem Passed.of_find? {d : String} {files : List String} (hl : m.listdir d = .ok files)
    (hf : files.find? (fun f => m.nameMatches f pattern) = none) : Passed m pattern d :=
  .inr ⟨files, hl, fun f hf' => by simpa using List.find?_eq_none.1 hf f hf'⟩

theorem searchIn_passed {d : String} (h : Passed m pattern d) (ds : List String) :
    searchIn m pattern (d :: ds) = searchIn m pattern ds := by
  rcases h with h | ⟨files, hl, hf⟩
  · simp [searchIn, h]
  · have hn : files.find? (fun f => m.nameMatches f pattern) = none :=
      List.find?_eq_none.2 fun f hf' => by simp [hf f hf']
    cases m.pathExists d <;> simp [searchIn, hl, hn]

/-- One step of the loop at `d`: it passes `d`, or returns the first match in
`d`, or raises listing `d`. -/
theorem searchIn_step (d : String) (ds : List String) :
    (Passed m pattern d ∧ searchIn m pattern (d :: ds) = searchIn m pattern ds) ∨
    (∃ files file, m.pathExists d = true ∧ m.listdir d = .ok files ∧
      files.find? (fun f => m.nameMatches f pattern) = some file ∧
        searchIn m pattern (d :: ds) = .ok (true, osJoin m.system d file)) ∨
    (∃ e, m.pathExists d = true ∧ m.listdir d = .error e ∧ searchIn m pattern (d :: ds) = .error e) := by
  cases he : m.pathExists d
  · exact .inl ⟨.inl he, searchIn_passed (.inl he) ds⟩
  cases hl : m.listdir d with
  | error e => exact .inr (.inr ⟨e, rfl, rfl, by simp [searchIn, he, hl]⟩)
  | ok files =>
    cases hf : files.find? fun f => m.nameMatches f pattern with
    | some file => exact .inr (.inl ⟨files, file, rfl, rfl, hf, by simp [searchIn, he, hl, hf]⟩)
    | none => exact .inl ⟨Passed.of_find? hl hf, searchIn_passed (Passed.of_find? hl hf) ds⟩

theorem FirstMatch.cons {d : String} {ds : List String} {p : String} (hd : Passed m pattern d)
    (h : FirstMatch m pattern ds p) : FirstMatch m pattern (d :: ds) p := by
  obtain ⟨pre, d', post, files, file, rfl, hpre, rest⟩ := h
  refine ⟨d :: pre, d', post, files, file, rfl, fun x hx => ?_, rest⟩
  rcases List.mem_cons.1 hx with rfl | hx
  · exact hd
  · exact hpre x hx

theorem searchIn_firstMatch {p : String} {dirs : List String} (h : FirstMatch m pattern dirs p) :
    searchIn m pattern dirs = .ok (true, p) := by
  obtain ⟨pre, d, post, files, file, rfl, hpre, he, hl, hf, rfl⟩ := h
  induction pre with
  | nil => simp [searchIn, he, hl, hf]
  | cons x pre ih =>
    rw [List.cons_append, searchIn_passed (hpre x (List.mem_cons_self _ _))]
    exact ih fun d' h => hpre d' (List.mem_cons_of_mem _ h)

theorem firstMatch_of_searchIn {p : String} :
    ∀ {dirs : List String}, searchIn m pattern dirs = .ok (true, p) → FirstMatch m pattern dirs p
  | [], h => by simp [searchIn] at h
  | d :: ds, h => by
    rcases searchIn_step d ds with ⟨hp, hs⟩ | ⟨files, file, he, hl, hf, hs⟩ | ⟨_, -, -, hs⟩ <;> rw [hs] at h
    · exact (firstMatch_of_searchIn h).cons hp
    · cases h
      exact ⟨[], d, ds, files, file, rfl, nofun, he, hl, hf, rfl⟩
    · cases h

theorem searchIn_not_found {p : String} :
    ∀ {dirs : List String}, searchIn m pattern dirs = .ok (false, p) ↔
      p = "Not found in library paths" ∧ ∀ d ∈ dirs, Passed m pattern d
  | [] => by simp [searchIn, eq_comm]
  | d :: ds => by
    constructor
    · intro h
      rcases searchIn_step d ds with ⟨hp, hs⟩ | ⟨_, _, -, -, -, hs⟩ | ⟨_, -, -, hs⟩ <;> rw [hs] at h
      · obtain ⟨hmsg, hall⟩ := searchIn_not_found.1 h
        exact ⟨hmsg, List.forall_mem_cons.2 ⟨hp, hall⟩⟩
      · cases h
      · cases h
    · rintro ⟨hp, hall⟩
      rw [searchIn_passed (hall d (List.mem_cons_self _ _)), searchIn_not_found]
      exact ⟨hp, fun d' h => hall d' (List.mem_cons_of_mem _ h)⟩

/-- The search raises only the exception of listing an existing directory. -/
theorem searchIn_error {e : String} :
    ∀ {dirs : List String}, searchIn m pattern dirs = .error e →
      ∃ d ∈ dirs, m.pathExists d = true ∧ m.listdir d = .error e
  | [], h => by simp [searchIn] at h
  | d :: ds, h => by
    rcases searchIn_step d ds with ⟨-, hs⟩ | ⟨_, _, -, -, -, hs⟩ | ⟨_, he, hl, hs⟩ <;> rw [hs] at h
    · obtain ⟨d', hm, rest⟩ := searchIn_error h
      exact ⟨d', List.mem_cons_of_mem _ hm, rest⟩
    · cases h
    · cases h
      exact ⟨d, List.mem_cons_self _ _, he, hl⟩

end

/-- `find_library_in_path` reports the first matching name of the first directory,
in search order, that holds one, joined to that directory; it reports
`"Not found in library paths"` exactly when it passes every directory; and it
raises only the exception of listing an existing directory. -/
theorem find_library_first_match (m : Machine) (value pattern : String) :
    (∀ p, findLibraryInPath m value pattern = .ok (true, p) ↔ FirstMatch m pattern (searchDirs m.system value) p) ∧
    (∀ p, findLibraryInPath m value pattern = .ok (false, p) ↔
      p = "Not found in library paths" ∧ ∀ d ∈ searchDirs m.system value, Passed m pattern d) ∧
    (∀ e, findLibraryInPath m value pattern = .error e →
      ∃ d ∈ searchDirs m.system value, m.pathExists d = true ∧ m.listdir d = .error e) :=
  ⟨fun _ => ⟨firstMatch_of_searchIn, searchIn_firstMatch⟩, fun _ => searchIn_not_found, fun _ => searchIn_error⟩

/-! ## When every existing directory can be listed -/

section
variable (m : Machine) (pattern : String)

/-- `os.listdir` succeeds on `d` whenever `d` exists. -/
def Listable (d : String) : Prop := m.pathExists d = true → ∃ files, m.listdir d = .ok files

/-- `d` exists and lists a matching name. -/
def holdsMatch (d : String) : Bool :=
  m.pathExists d && match m.listdir d with
    | .ok files => files.any fun f => m.nameMatches f pattern
    | .error _ => false

variable {m}

theorem holdsMatch_of_passed {d : String} (h : Passed m pattern d) : holdsMatch m pattern d = false := by
  rcases h with h | ⟨files, hl, hf⟩
  · simp [holdsMatch, h]
  · have hany : files.any (fun f => m.nameMatches f pattern) = false := by simpa using hf
    simp [holdsMatch, hl, hany]

theorem holdsMatch_of_find? {d file : String} {files : List String} (he : m.pathExists d = true)
    (hl : m.listdir d = .ok files) (hf : files.find? (fun f => m.nameMatches f pattern) = some file) :
    holdsMatch m pattern d = true := by
  simp only [holdsMatch, he, hl, Bool.true_and, List.any_eq_true]
  exact ⟨file, List.mem_of_find?_eq_some hf, by simpa using List.find?_some hf⟩

/-- Over listable directories the search returns, and finds a library exactly
when some directory holds a match. -/
theorem searchIn_listable :
    ∀ {dirs : List String}, (∀ d ∈ dirs, Listable m d) →
      ∃ p, searchIn m pattern dirs = .ok (dirs.any (holdsMatch m pattern), p)
  | [], _ => ⟨_, rfl⟩
  | d :: ds, hl => by
    rcases searchIn_step d ds with ⟨hp, hs⟩ | ⟨files, file, he, hf, hfind, hs⟩ | ⟨_, he, hle, -⟩
    · obtain ⟨p, h⟩ := searchIn_listable fun d' h => hl d' (List.mem_cons_of_mem _ h)
      exact ⟨p, by rw [hs, h, List.any_cons, holdsMatch_of_passed pattern hp, Bool.false_or]⟩
    · exact ⟨_, by rw [hs, List.any_cons, holdsMatch_of_find? pattern he hf hfind, Bool.true_or]⟩
    · obtain ⟨_, hok⟩ := hl d (List.mem_cons_self _ _) he
      rw [hle] at hok
      cases hok

end

/-! ## The update adds only directories the search already walks -/

section
variable {pathExists : String → Bool} {paths : List String} (hsep : ∀ p ∈ paths, ':' ∉ p.toList)
include hsep

/-- A non-empty entry of the value stays an entry after the loop. -/
theorem mem_split_addPaths {current d : String} (hd : d ∈ pySplit current ':') (hne : d ≠ "") :
    d ∈ pySplit (addPaths pathExists current paths) ':' := by
  induction paths generalizing current with
  | nil => exact hd
  | cons q qs ih =>
    refine ih (fun p hp => hsep p (List.mem_cons_of_mem _ hp)) ?_
    split
    · split
      · rename_i he
        rw [(String.isEmpty_iff _).1 he] at hd
        exact absurd (List.mem_singleton.1 hd) hne
      · rw [show q ++ ":" ++ current = q ++ String.singleton ':' ++ current from rfl,
          pySplit_prepend ':' (hsep q (List.mem_cons_self _ _))]
        exact List.mem_cons_of_mem _ hd
    · exact hd

/-- Every entry after the loop was an entry before it or is a directory of the list. -/
theorem mem_split_addPaths_of {current d : String} (hd : d ∈ pySplit (addPaths pathExists current paths) ':') :
    d ∈ pySplit current ':' ∨ d ∈ paths := by
  induction paths generalizing current with
  | nil => exact .inl hd
  | cons q qs ih =>
    have hq := hsep q (List.mem_cons_self _ _)
    rcases ih (fun p hp => hsep p (List.mem_cons_of_mem _ hp)) hd with h | h
    · split at h
      · split at h
        · rw [pySplit_of_not_mem ':' hq, List.mem_singleton] at h
          exact .inr (h ▸ List.mem_cons_self _ _)
        · rw [show q ++ ":" ++ current = q ++ String.singleton ':' ++ current from rfl, pySplit_prepend ':' hq,
            List.mem_cons] at h
          exact h.elim (fun h => .inr (h ▸ List.mem_cons_self _ _)) .inl
      · exact .inl h
    · exact .inr (List.mem_cons_of_mem _ h)

end

theorem mem_searchDirs {system : Platform} {value d : String} :
    d ∈ searchDirs system value ↔
      (d ∈ pySplit value (pathSeparator system) ∨ d ∈ standardDirs system) ∧ isBlank d = false := by
  simp [searchDirs, List.mem_filter, or_and_right]

theorem pySplit_vcpkgBin (value : String) : pySplit (vcpkgBin ++ ";" ++ value) ';' = vcpkgBin :: pySplit value ';' :=
  pySplit_prepend ';' (by decide) value

/-- Every directory the search walked before the update it walks after it. -/
theorem searchDirs_update_mono (system : Platform) (pathExists : String → Bool) {value d : String}
    (hd : d ∈ searchDirs system value) : d ∈ searchDirs system (updateEnvironmentPath system pathExists value).1 := by
  rw [mem_searchDirs] at hd ⊢
  refine ⟨hd.1.imp_left fun h => ?_, hd.2⟩
  have hne : d ≠ "" := by rintro rfl; exact absurd hd.2 (by decide)
  cases system with
  | windows =>
    simp only [updateEnvironmentPath]
    split
    · dsimp only [pathSeparator] at h ⊢
      rw [pySplit_vcpkgBin]
      exact List.mem_cons_of_mem _ h
    · exact h
  | linux | darwin | other _ => exact mem_split_addPaths (pathsToAdd_no_colon _) h hne

/-- Except on darwin, the directories the update may add are standard ones. -/
theorem searchDirs_update_sub {system : Platform} (hs : system ≠ .darwin) (pathExists : String → Bool)
    {value d : String} (hd : d ∈ searchDirs system (updateEnvironmentPath system pathExists value).1) :
    d ∈ searchDirs system value := by
  rw [mem_searchDirs] at hd ⊢
  refine ⟨hd.1.elim (fun h => ?_) .inr, hd.2⟩
  cases system with
  | windows =>
    simp only [updateEnvironmentPath] at h
    split at h
    · dsimp only [pathSeparator] at h
      rw [pySplit_vcpkgBin, List.mem_cons] at h
      rcases h with rfl | h
      · exact .inr (by decide)
      · exact .inl h
    · exact .inl h
  | darwin => exact absurd rfl hs
  | linux | other _ =>
    exact (mem_split_addPaths_of (pathsToAdd_no_colon _) h).imp_right fun h => h

/-- Running `update_environment_path` first never loses a library the search
finds, and except on darwin never changes whether it finds one. -/
theorem update_keeps_library_found (m : Machine) (hl : ∀ d, Listable m d) (value pattern : String) :
    ((∃ p, findLibraryInPath m value pattern = .ok (true, p)) →
      ∃ p, findLibraryInPath m (updateEnvironmentPath m.system m.pathExists value).1 pattern = .ok (true, p)) ∧
    (m.system ≠ .darwin →
      Except.map Prod.fst (findLibraryInPath m (updateEnvironmentPath m.system m.pathExists value).1 pattern) =
        Except.map Prod.fst (findLibraryInPath m value pattern)) := by
  have transfer : ∀ {ds ds' : List String}, (∀ d ∈ ds, d ∈ ds') → ds.any (holdsMatch m pattern) = true →
      ds'.any (holdsMatch m pattern) = true := fun hs h =>
    let ⟨d, hd, hm⟩ := List.any_eq_true.1 h
    List.any_eq_true.2 ⟨d, hs d hd, hm⟩
  have mono : ∀ d ∈ searchDirs m.system value, d ∈ searchDirs m.system (updateEnvironmentPath m.system m.pathExists value).1 :=
    fun _ => searchDirs_update_mono _ _
  obtain ⟨p, hp⟩ := searchIn_listable pattern (fun d _ => hl d : ∀ d ∈ searchDirs m.system value, Listable m d)
  obtain ⟨p', hp'⟩ := searchIn_listable pattern (fun d _ => hl d :
    ∀ d ∈ searchDirs m.system (updateEnvironmentPath m.system m.pathExists value).1, Listable m d)
  unfold findLibraryInPath
  rw [hp, hp']
  refine ⟨fun ⟨_, h⟩ => ⟨p', ?_⟩, fun hs => ?_⟩
  · simp only [Except.ok.injEq, Prod.mk.injEq] at h
    rw [transfer mono h.1]
  · have same : (searchDirs m.system (updateEnvironmentPath m.system m.pathExists value).1).any (holdsMatch m pattern) =
        (searchDirs m.system value).any (holdsMatch m pattern) :=
      Bool.eq_iff_iff.2 ⟨transfer fun _ => searchDirs_update_sub hs _, transfer mono⟩
    rw [same]
    rfl

/-- A machine of `system` where only `dir` exists, holding the one name `file`; a
name matches a pattern when it starts with the pattern's text before its first `*`. -/
def oneLibraryBox (system : Platform) (dir file : String) : Machine where
  system := system
  vsEnvironment := false
  which := fun _ => false
  run := fun _ => .error "No such file or directory"
  pathExists := fun p => p == dir
  listdir := fun p => .ok (if p == dir then [file] else [])
  nameMatches := fun f pattern => startswith f (String.mk (pattern.toList.takeWhile (· ≠ '*')))
  libraryPath := ""
  root := "/work"
  now := "2025-03-03T23:40:30"

theorem oneLibraryBox_listable (system : Platform) (dir file : String) :
    ∀ d, Listable (oneLibraryBox system dir file) d :=
  fun _ _ => ⟨_, rfl⟩

theorem update_keeps_library_found_usr_lib :
    (∀ d, Listable (oneLibraryBox .linux "/usr/lib" "libssl.so.3") d) ∧
    ((∃ p, findLibraryInPath (oneLibraryBox .linux "/usr/lib" "libssl.so.3") "" "libssl.so*" = .ok (true, p)) →
      ∃ p, findLibraryInPath (oneLibraryBox .linux "/usr/lib" "libssl.so.3")
        (updateEnvironmentPath Platform.linux (fun p => p == "/usr/lib") "").1 "libssl.so*" = .ok (true, p)) ∧
    (Platform.linux ≠ .darwin →
      Except.map Prod.fst (findLibraryInPath (oneLibraryBox .linux "/usr/lib" "libssl.so.3")
        (updateEnvironmentPath Platform.linux (fun p => p == "/usr/lib") "").1 "libssl.so*") =
        Except.map Prod.fst (findLibraryInPath (oneLibraryBox .linux "/usr/lib" "libssl.so.3") "" "libssl.so*")) :=
  ⟨oneLibraryBox_listable _ _ _, update_keeps_library_found _ (oneLibraryBox_listable _ _ _) "" "libssl.so*"⟩

/-- On darwin the update can make the search find a library: Homebrew's OpenSSL
directory is not a standard directory of the search. -/
example :
    Except.map Prod.fst (findLibraryInPath (oneLibraryBox .darwin "/usr/local/opt/openssl/lib" "libssl.3.dylib")
        "" "libssl*.dylib") = .ok false ∧
      Except.map Prod.fst (findLibraryInPath (oneLibraryBox .darwin "/usr/local/opt/openssl/lib" "libssl.3.dylib")
        (updateEnvironmentPath .darwin (fun p => p == "/usr/local/opt/openssl/lib") "").1 "libssl*.dylib") = .ok true :=
  ⟨rfl, rfl⟩

end DrogonBuild.Verify
