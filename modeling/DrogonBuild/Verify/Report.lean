import DrogonBuild.Verify.Library

/-!
# The verification report and the exit status

`main()` runs `update_environment_path`, checks the setup script and the VSCode
files, then the required tools, the required libraries and the four packages of
a CMake test project. It returns 0 exactly when every tool passes, every library
is found and CMake finds every package: the setup checks are reported and never
decide. It then checks the tools and libraries a second time to fill
`environment_report.json`.

On a run that returns, the report records the verdict: the status is 0 exactly
when the report marks every tool and library available and every package found.
The only exception that escapes `main` comes from listing an existing search
directory; the report is then not written and the script exits 1.
-/

namespace DrogonBuild.Verify

open Manager

/-- An entry of `COMMON_REQUIRED` or `PLATFORM_REQUIRED`: `spec["command"]` is
`command :: args`. -/
structure ToolSpec where
  command : String
  args : List String
  minVersion : Option String

def commonRequired : List (String × ToolSpec) :=
  [("cmake", ⟨"cmake", ["--version"], some "3.5.0"⟩), ("git", ⟨"git", ["--version"], some "2.0.0"⟩)]

/-- `PLATFORM_REQUIRED[system]`, on the platforms it has an entry for. -/
def platformRequired : Platform → Option (List (String × ToolSpec))
  | .windows => some [("ninja", ⟨"ninja", ["--version"], some "1.8.0"⟩), ("cl", ⟨"cl", ["/?"], none⟩),
      ("vcpkg", ⟨"vcpkg", ["version"], none⟩)]
  | .linux => some [("g++", ⟨"g++", ["--version"], some "7.0.0"⟩), ("make", ⟨"make", ["--version"], some "4.0"⟩)]
  | .darwin => some [("clang++", ⟨"clang++", ["--version"], some "9.0.0"⟩)]
  | .other _ => none

/-- An entry of `REQUIRED_LIBRARIES[system]`. -/
structure LibrarySpec where
  name : String
  filePattern : String

/-- `REQUIRED_LIBRARIES[system]`, on the platforms it has an entry for. -/
def requiredLibraries : Platform → Option (List LibrarySpec)
  | .windows => some [⟨"JsonCpp", "jsoncpp*.dll"⟩, ⟨"OpenSSL", "libssl*.dll"⟩,
      ⟨"OpenSSL Crypto", "libcrypto*.dll"⟩, ⟨"zlib", "zlib*.dll"⟩, ⟨"Brotli", "brotli*.dll"⟩, ⟨"UUID", "uuid*.dll"⟩]
  | .linux => some [⟨"JsonCpp", "libjsoncpp.so*"⟩, ⟨"OpenSSL", "libssl.so*"⟩,
      ⟨"OpenSSL Crypto", "libcrypto.so*"⟩, ⟨"zlib", "libz.so*"⟩, ⟨"Brotli", "libbrotli*.so*"⟩, ⟨"UUID", "libuuid.so*"⟩]
  | .darwin => some [⟨"JsonCpp", "libjsoncpp*.dylib"⟩, ⟨"OpenSSL", "libssl*.dylib"⟩,
      ⟨"OpenSSL Crypto", "libcrypto*.dylib"⟩, ⟨"zlib", "libz*.dylib"⟩, ⟨"Brotli", "libbrotli*.dylib"⟩,
      ⟨"UUID", "libuuid*.dylib"⟩]
  | .other _ => none

/-- The tools `main` checks: `COMMON_REQUIRED`, then `PLATFORM_REQUIRED[system]`
when `system in PLATFORM_REQUIRED`. -/
def requiredTools (system : Platform) : List (String × ToolSpec) :=
  commonRequired ++ (platformRequired system).getD []

/-- `check_tool(name, spec)`. -/
def ToolSpec.check (m : Machine) (spec : ToolSpec) : Bool × String :=
  checkTool m.toolHost spec.command spec.args spec.minVersion

/-! ## The checks -/

def vcpkgToolchain : String := "C:/vcpkg/scripts/buildsystems/vcpkg.cmake"

/-- `cmake_cmd` of `check_cmake_modules`, run in `build/cmake_test`. -/
def cmakeTestCommand (m : Machine) : List String :=
  ["cmake", "."] ++
    if m.system = .windows ∧ m.pathExists vcpkgToolchain then ["-DCMAKE_TOOLCHAIN_FILE=" ++ vcpkgToolchain] else []

/-- The packages of the test project, each with the line CMake prints when it finds it. -/
def cmakeProbes : List (String × String) :=
  [("OpenSSL", "OpenSSL found: 1"), ("ZLIB", "ZLIB found: 1"), ("jsoncpp", "jsoncpp found: 1"),
    ("UUID", "UUID found: 1")]

/-- `check_cmake_modules()`: `packages_found` and the text returned beside it. -/
def checkCmakeModules (m : Machine) : List (String × Bool) × String :=
  match m.run (cmakeTestCommand m) with
  | .ok (stdout, _) => (cmakeProbes.map fun probe => (probe.1, inStr probe.2 stdout), stdout)
  | .error e => (cmakeProbes.map fun probe => (probe.1, false), "Error running CMake test: " ++ e)

/-- `check_enviro_script_setup()`. -/
def checkEnviroScriptSetup (m : Machine) : Bool :=
  m.pathExists (m.system.join m.root (if m.system = .windows then "setup_env.ps1" else "setup_env.sh"))

/-- `check_vscode_integration()`: no file of `required_files` is missing. -/
def checkVscodeIntegration (m : Machine) : Bool :=
  (["settings.json", "tasks.json", "launch.json"].filter fun file =>
    !m.pathExists (m.system.join (m.system.join m.root ".vscode") file)).isEmpty

/-- A library loop of `main`: each library's name with `(success, path)`, in
order, or the exception a search raises. -/
def searchLibraries (m : Machine) (value : String) : List LibrarySpec → Except String (List (String × Bool × String))
  | [] => .ok []
  | lib :: libs => do
    let r ← findLibraryInPath m value lib.filePattern
    let rs ← searchLibraries m value libs
    pure ((lib.name, r) :: rs)

/-! ## `main` -/

/-- `report["tools"][name]`. -/
def toolEntry (r : Bool × String) : Json := .dict [("available", .bool r.1), ("message", .str r.2)]

/-- `report["libraries"][lib["name"]]`. -/
def libraryEntry (r : Bool × String) : Json :=
  .dict [("available", .bool r.1), ("path", if r.1 then .str r.2 else .null)]

/-- Assigning `report[section][key]` for each pair in turn. -/
def fillSection (entries : List (String × Json)) : List (String × Json) :=
  entries.foldl (fun d kv => setKey d kv.1 kv.2) []

/-- `main()`: the status it returns and the report it writes, or the exception
that escapes it. -/
def verifyMain (m : Machine) : Except String (Nat × Json) := do
  let value := (updateEnvironmentPath m.system m.pathExists m.libraryPath).1
  let scripts := checkEnviroScriptSetup m
  let vscode := checkVscodeIntegration m
  let allTools := (requiredTools m.system).all fun t => (t.2.check m).1
  let libs := (requiredLibraries m.system).getD []
  let found ← searchLibraries m value libs
  let packages := (checkCmakeModules m).1
  let allLibs := found.all (fun r => r.2.1) && packages.all (fun p => p.2)
  let reported ← searchLibraries m value libs
  let report := Json.dict [("timestamp", .str m.now), ("platform", .str m.system.key),
    ("tools", .dict (fillSection ((requiredTools m.system).map fun t => (t.1, toolEntry (t.2.check m))))),
    ("libraries", .dict (fillSection (reported.map fun r => (r.1, libraryEntry r.2)))),
    ("cmake_packages", .dict (packages.map fun p => (p.1, .bool p.2))),
    ("environment_setup", .dict [("scripts_setup", .bool scripts), ("vscode_integration", .bool vscode)])]
  pure (if allTools && allLibs then 0 else 1, report)

/-- The exit status: `sys.exit(main())`, and 1 when an exception escapes `main`. -/
def verifyExit (m : Machine) : Nat :=
  match verifyMain m with
  | .ok (code, _) => code
  | .error _ => 1

/-- The report the run leaves in `scripts/environment_report.json`. -/
def writtenReport (m : Machine) : Option Json :=
  match verifyMain m with
  | .ok (_, report) => some report
  | .error _ => none

/-! ## Reading the report -/

/-- The entry reads `"available": true`. -/
def markedAvailable : Json → Bool
  | .dict kvs => match lookup kvs "available" with
    | some (.bool b) => b
    | _ => false
  | _ => false

/-- The value is `true`. -/
def markedTrue : Json → Bool
  | .bool b => b
  | _ => false

/-- Every entry of a report section satisfies `p`. -/
def sectionAll (p : Json → Bool) : Option Json → Bool
  | some (.dict kvs) => kvs.all fun kv => p kv.2
  | _ => false

/-- What a reader of the report concludes: every tool and every library marked
available, every package found. -/
def reportVerdict : Json → Bool
  | .dict kvs => sectionAll markedAvailable (lookup kvs "tools") && sectionAll markedAvailable (lookup kvs "libraries") &&
      sectionAll markedTrue (lookup kvs "cmake_packages")
  | _ => false

@[simp] theorem markedAvailable_toolEntry (r : Bool × String) : markedAvailable (toolEntry r) = r.1 := rfl

@[simp] theorem markedAvailable_libraryEntry (r : Bool × String) : markedAvailable (libraryEntry r) = r.1 := by
  obtain ⟨b, p⟩ := r
  cases b <;> rfl

@[simp] theorem markedTrue_bool (b : Bool) : markedTrue (.bool b) = b := rfl

/-- `List.all` over a mapped list; the library's `List.all_map` maps a type to itself. -/
theorem all_map_entries {α β : Type} (l : List α) (f : α → β) (p : β → Bool) :
    (l.map f).all p = l.all fun x => p (f x) := by
  induction l <;> simp [*]

theorem searchLibraries_names {m : Machine} {value : String} :
    ∀ {libs : List LibrarySpec} {rs : List (String × Bool × String)}, searchLibraries m value libs = .ok rs →
      rs.map Prod.fst = libs.map LibrarySpec.name
  | [], _, h => by cases h; rfl
  | lib :: libs, rs, h => by
    simp only [searchLibraries] at h
    cases hr : findLibraryInPath m value lib.filePattern <;> cases hs : searchLibraries m value libs <;>
      rw [hr, hs] at h <;> cases h
    simp [searchLibraries_names hs]

theorem requiredTools_nodup (system : Platform) : ((requiredTools system).map Prod.fst).Nodup := by
  cases system <;> first | decide | exact (by decide : ((commonRequired ++ []).map Prod.fst).Nodup)

theorem requiredLibraries_nodup (system : Platform) :
    (((requiredLibraries system).getD []).map LibrarySpec.name).Nodup := by
  cases system <;> first | decide | exact List.nodup_nil

theorem fillSection_nodup {entries : List (String × Json)} (h : (entries.map Prod.fst).Nodup) :
    fillSection entries = entries :=
  foldl_setKey_fresh entries [] h fun _ _ => rfl

theorem reportVerdict_dict (now key : String) (tools libs packages setup : List (String × Json)) :
    reportVerdict (.dict [("timestamp", .str now), ("platform", .str key), ("tools", .dict tools),
        ("libraries", .dict libs), ("cmake_packages", .dict packages), ("environment_setup", .dict setup)]) =
      (tools.all (fun kv => markedAvailable kv.2) && libs.all (fun kv => markedAvailable kv.2) &&
        packages.all fun kv => markedTrue kv.2) := rfl

/-! ## When `main` raises -/

theorem searchLibraries_error {m : Machine} {value e : String} :
    ∀ {libs : List LibrarySpec}, searchLibraries m value libs = .error e →
      ∃ lib ∈ libs, findLibraryInPath m value lib.filePattern = .error e
  | [], h => by cases h
  | lib :: libs, h => by
    simp only [searchLibraries] at h
    cases hr : findLibraryInPath m value lib.filePattern with
    | error e' =>
      rw [hr] at h
      cases h
      exact ⟨lib, List.mem_cons_self _ _, hr⟩
    | ok r =>
      cases hs : searchLibraries m value libs <;> rw [hr, hs] at h <;> cases h
      obtain ⟨lib', hm, hf⟩ := searchLibraries_error hs
      exact ⟨lib', List.mem_cons_of_mem _ hm, hf⟩

theorem searchLibraries_listable {m : Machine} (hl : ∀ d, Listable m d) (value : String) :
    ∀ libs : List LibrarySpec, ∃ rs, searchLibraries m value libs = .ok rs
  | [] => ⟨[], rfl⟩
  | lib :: libs => by
    obtain ⟨r, hr⟩ := searchIn_listable lib.filePattern
      (fun d _ => hl d : ∀ d ∈ searchDirs m.system value, Listable m d)
    obtain ⟨rs, hs⟩ := searchLibraries_listable hl value libs
    exact ⟨_, by simp only [searchLibraries, findLibraryInPath, hr, hs]; rfl⟩

/-- A linux machine whose `LD_LIBRARY_PATH` names the regular file `/etc/hosts`,
the only path that exists. -/
def hostsFileBox : Machine :=
  { oneLibraryBox .linux "/usr/lib" "libssl.so.3" with
    pathExists := fun p => p == "/etc/hosts"
    listdir := fun _ => .error "[Errno 20] Not a directory: /etc/hosts"
    libraryPath := "/etc/hosts" }

end DrogonBuild.Verify
