import DrogonBuild.Manager.Verbs
import Mathlib.Data.String.Basic

/-!
# The entry point `auto_build.py`

`auto_build.py` exports its own directory as `DROGON_WORKSPACE_ROOT` and runs
`scripts/auto_build_manager.py` with its arguments (`build` when it has none),
returning the child's exit status. When that script is missing it first writes a
fallback script there: a `main` that runs `cmake -B build -S .` and
`cmake --build build` for `build`, empties the build directory for `clean`, and
does nothing for any other verb, ignoring every exit code.

So the exit status depends on which script the checkout holds. With the build
manager installed, a failed configure makes `auto_build.py build` exit 1. In a
checkout without it, every run from the first one on executes the fallback
script, and exits 0 whatever cmake returns.
-/

namespace DrogonBuild.Launch

open Manager

/-- The two programs `scripts/auto_build_manager.py` may hold: the build manager
of this repository, or the fallback script `auto_build.py` writes. -/
inductive Script where
  | manager
  | template
  deriving DecidableEq, Repr

/-- The checkout as `auto_build.py` sees it. -/
structure Launcher where
  /-- `Path(__file__).resolve().parent`, an absolute path. -/
  dir : String
  dir_ne : dir ≠ ""
  /-- Whether creating `scripts/` and writing the fallback script succeed. -/
  setupOk : Bool

/-- `["build"] if len(sys.argv) < 2 else sys.argv[1:]`, for `argv = sys.argv[1:]`. -/
def forwardedArgs : List String → List String
  | [] => ["build"]
  | argv => argv

/-- `main()` of `auto_build.py` while `scripts/auto_build_manager.py` holds
`installed`: the script the child runs and the arguments it passes, or `none`
when the first-time setup raises. -/
def autoBuild (l : Launcher) (installed : Option Script) (argv : List String) : Option (Script × List String) :=
  match installed with
  | some script => some (script, forwardedArgs argv)
  | none => if l.setupOk then some (.template, forwardedArgs argv) else none

/-- What `scripts/auto_build_manager.py` holds after the run. -/
def installedAfter (l : Launcher) : Option Script → Option Script
  | some script => some script
  | none => if l.setupOk then some .template else none

/-- The exit status of `python auto_build.py argv`: `main` returns the child's
return code, and an exception of the setup exits 1. -/
def autoBuildExit (l : Launcher) (child : Script → List String → Int) (installed : Option Script)
    (argv : List String) : Int :=
  match autoBuild l installed argv with
  | some (script, args) => child script args
  | none => 1

/-- Runs of `auto_build.py` one after another in one checkout: the exit status of
each, the script file that one run leaves carried to the next. -/
def launches (l : Launcher) (child : Script → List String → Int) :
    Option Script → List (List String) → List Int
  | _, [] => []
  | installed, argv :: runs => autoBuildExit l child installed argv :: launches l child (installedAfter l installed) runs

/-- The child's exit status, by the script it runs. -/
def childExit (manager template : List String → Int) : Script → List String → Int
  | .manager => manager
  | .template => template

/-! ## The build manager as a child -/

/-- The exit status of `python auto_build_manager.py args`: `sys.exit(main())`, and
1 when an exception escapes `main`. -/
def managerExit (w : World) (system : Platform) (args : List String) (host : Host) : Int :=
  match main w system args host with
  | .ok code _ => code
  | .error _ _ => 1

/-- The manager's machine with `DROGON_WORKSPACE_ROOT` set by `auto_build.py`. -/
def launchedWorld (l : Launcher) (w : World) : World := { w with workspaceEnv := l.dir }

/-- The manager `auto_build.py` starts works in the launcher's directory. -/
theorem workspaceRoot_launchedWorld (l : Launcher) (w : World) : workspaceRoot (launchedWorld l w) = l.dir := by
  have hne : l.dir.isEmpty = false := Bool.eq_false_iff.2 fun h => l.dir_ne ((String.isEmpty_iff _).1 h)
  simp [workspaceRoot, launchedWorld, hne]

/-- With the build manager installed, `auto_build.py` with no arguments or with
the verb `build` runs the manager in its own directory and exits 1 after a
configure that exits with another code than 0, whether the manager returns or raises. -/
theorem launcher_reports_failed_configure (l : Launcher) (w : World) (system : Platform) (host : Host)
    (template : List String → Int) {k : Int} (hk : exitsWith w .configure k) (h0 : k ≠ 0) {argv : List String}
    (hargv : argv = [] ∨ ∃ rest, argv = "build" :: rest) :
    workspaceRoot (launchedWorld l w) = l.dir ∧
      autoBuildExit l (childExit (fun args => managerExit (launchedWorld l w) system args host) template)
        (some .manager) argv = 1 := by
  refine ⟨workspaceRoot_launchedWorld l w, ?_⟩
  obtain ⟨rest, hf⟩ : ∃ rest, forwardedArgs argv = "build" :: rest := by
    rcases hargv with rfl | ⟨rest, rfl⟩
    · exact ⟨[], rfl⟩
    · exact ⟨rest, rfl⟩
  have h := (main_of_triple (launchedWorld l w) system _ host (EffectsSince.start _)
    (mainBody_build_after_failed_configure (launchedWorld l w) rest host hk h0)).1
  simp only [autoBuildExit, autoBuild, hf, childExit, managerExit]
  cases hm : main (launchedWorld l w) system ("build" :: rest) host with
  | ok code s => exact h code s hm
  | error e s => rfl

/-- A checkout in `/home/dev/drogon` where the first-time setup can write the fallback script. -/
def devCheckout : Launcher := ⟨"/home/dev/drogon", by decide, true⟩

theorem launcher_reports_failed_configure_cmake_error :
    exitsWith cmakeFailsWorld .configure 1 ∧ (1 : Int) ≠ 0 ∧
      (([] : List String) = [] ∨ ∃ rest, ([] : List String) = "build" :: rest) ∧
        workspaceRoot (launchedWorld devCheckout cmakeFailsWorld) = devCheckout.dir ∧
          autoBuildExit devCheckout
            (childExit (fun args => managerExit (launchedWorld devCheckout cmakeFailsWorld) .linux args
              ⟨.absent, .absent, []⟩) fun _ => 0) (some .manager) [] = 1 :=
  ⟨⟨_, rfl⟩, by decide, .inl rfl, launcher_reports_failed_configure devCheckout cmakeFailsWorld .linux
    ⟨.absent, .absent, []⟩ (fun _ => 0) ⟨_, rfl⟩ (by decide) (.inl rfl)⟩

/-! ## The fallback script -/

/-- What `Path.iterdir()` finds in the build directory. -/
inductive ItemKind where
  | file
  | dir
  | other
  deriving DecidableEq, Repr

/-- The machine as the fallback script sees it. -/
structure TemplateWorld where
  /-- The outcome of `build_dir.mkdir(exist_ok=True)`. -/
  mkdirBuild : Except String Unit
  /-- `subprocess.run(cmd)`: the exit code, or the exception when the command cannot start. -/
  spawn : List String → Except String Int
  /-- The items of the build directory and their kinds. -/
  items : List (String × ItemKind)
  /-- The outcome of `item.unlink()` or `shutil.rmtree(item)`. -/
  remove : String → Except String Unit

/-- What the fallback script does. -/
inductive TemplateEffect where
  | spawn (cmd : List String)
  | unlink (item : String)
  | rmtree (item : String)
  deriving Repr

/-- The loop `for item in build_dir.iterdir()` of the verb `clean`. -/
def cleanItems (tw : TemplateWorld) : List (String × ItemKind) → Except String (List TemplateEffect)
  | [] => .ok []
  | (item, .file) :: items => do
    tw.remove item
    return .unlink item :: (← cleanItems tw items)
  | (item, .dir) :: items => do
    tw.remove item
    return .rmtree item :: (← cleanItems tw items)
  | (_, .other) :: items => cleanItems tw items

/-- `"build" if len(sys.argv) < 2 else sys.argv[1]`, for `argv = sys.argv[1:]`. -/
def templateVerb : List String → String
  | [] => "build"
  | verb :: _ => verb

/-- `main()` of the fallback script in `dir/scripts`, with `argv = sys.argv[1:]`:
what it does, or the exception that escapes it. -/
def templateMain (tw : TemplateWorld) (system : Platform) (dir : String) (argv : List String) :
    Except String (List TemplateEffect) := do
  let buildDir := system.join dir "build"
  tw.mkdirBuild
  let cmd := templateVerb argv
  if cmd = "build" then
    let _ ← tw.spawn ["cmake", "-B", buildDir, "-S", dir]
    let _ ← tw.spawn ["cmake", "--build", buildDir]
    return [.spawn ["cmake", "-B", buildDir, "-S", dir], .spawn ["cmake", "--build", buildDir]]
  else if cmd = "clean" then cleanItems tw tw.items
  else return []

/-- The exit status of the fallback script: 0 when `main` returns, 1 when an
exception escapes it. -/
def templateExit (tw : TemplateWorld) (system : Platform) (dir : String) (argv : List String) : Int :=
  match templateMain tw system dir argv with
  | .ok _ => 0
  | .error _ => 1

section
variable {tw : TemplateWorld} (hm : tw.mkdirBuild = .ok ()) (hc : ∀ cmd, ∃ code, tw.spawn cmd = .ok code)
  (hr : ∀ item, tw.remove item = .ok ())

include hr in
theorem cleanItems_ok : ∀ items : List (String × ItemKind), ∃ effects, cleanItems tw items = .ok effects
  | [] => ⟨[], rfl⟩
  | (item, kind) :: items => by
    obtain ⟨effects, he⟩ := cleanItems_ok items
    cases kind with
    | file => exact ⟨_, by simp only [cleanItems, hr item, he]; rfl⟩
    | dir => exact ⟨_, by simp only [cleanItems, hr item, he]; rfl⟩
    | other => exact ⟨effects, he⟩

include hm hc hr in
theorem templateMain_ok (system : Platform) (dir : String) (argv : List String) :
    ∃ effects, templateMain tw system dir argv = .ok effects := by
  obtain ⟨c1, h1⟩ := hc ["cmake", "-B", system.join dir "build", "-S", dir]
  obtain ⟨c2, h2⟩ := hc ["cmake", "--build", system.join dir "build"]
  obtain ⟨effects, he⟩ := cleanItems_ok hr tw.items
  by_cases hb : templateVerb argv = "build"
  · exact ⟨_, by simp only [templateMain, hm, if_pos hb, h1, h2]; rfl⟩
  by_cases hcl : templateVerb argv = "clean"
  · exact ⟨effects, by simp only [templateMain, hm, if_neg hb, if_pos hcl, he]; rfl⟩
  · exact ⟨[], by simp only [templateMain, hm, if_neg hb, if_neg hcl]; rfl⟩

include hm hc hr in
/-- The fallback script exits 0 for every verb, whatever exit codes cmake returns,
as long as the build directory can be made, cmake starts and clean can remove
what it finds. -/
theorem templateExit_zero (system : Platform) (dir : String) (argv : List String) :
    templateExit tw system dir argv = 0 := by
  obtain ⟨effects, he⟩ := templateMain_ok hm hc hr system dir argv
  rw [templateExit, he]

end

/-! ## Runs in a fresh checkout -/

theorem installedAfter_template (l : Launcher) {installed : Option Script} (hs : l.setupOk = true)
    (hi : installed = none ∨ installed = some .template) : installedAfter l installed = some .template := by
  rcases hi with rfl | rfl <;> simp [installedAfter, hs]

theorem autoBuildExit_template (l : Launcher) (child : Script → List String → Int) {installed : Option Script}
    (hs : l.setupOk = true) (hi : installed = none ∨ installed = some .template) (argv : List String) :
    autoBuildExit l child installed argv = child .template (forwardedArgs argv) := by
  rcases hi with rfl | rfl <;> simp [autoBuildExit, autoBuild, hs]

/-- In a checkout without `scripts/auto_build_manager.py`, every run of
`auto_build.py` runs the fallback script it writes and exits 0, whatever exit
codes cmake returns: the setup succeeds, the build directory can be made, cmake
starts and clean can remove what it finds. -/
theorem fresh_checkout_runs_exit_zero (l : Launcher) (hs : l.setupOk = true) {tw : TemplateWorld}
    (hm : tw.mkdirBuild = .ok ()) (hc : ∀ cmd, ∃ code, tw.spawn cmd = .ok code) (hr : ∀ item, tw.remove item = .ok ())
    (system : Platform) (manager : List String → Int) (runs : List (List String)) :
    ∀ code ∈ launches l (childExit manager (templateExit tw system l.dir)) none runs, code = 0 := by
  suffices h : ∀ installed, (installed = none ∨ installed = some .template) →
      ∀ code ∈ launches l (childExit manager (templateExit tw system l.dir)) installed runs, code = 0 from
    h none (.inl rfl)
  induction runs with
  | nil => intro _ _ _ h; cases h
  | cons argv runs ih =>
    intro installed hi code hcode
    rcases List.mem_cons.1 hcode with rfl | hcode
    · rw [autoBuildExit_template l _ hs hi]
      exact templateExit_zero hm hc hr system l.dir _
    · exact ih _ (.inr (installedAfter_template l hs hi)) code hcode

/-- A machine where every cmake command starts and exits 2, and the build
directory holds a `CMakeCache.txt`. -/
def failingCmake : TemplateWorld :=
  ⟨.ok (), fun _ => .ok 2, [("/home/dev/drogon/build/CMakeCache.txt", .file)], fun _ => .ok ()⟩

theorem fresh_checkout_runs_exit_zero_failing_cmake :
    devCheckout.setupOk = true ∧ failingCmake.mkdirBuild = .ok () ∧ (∀ cmd, ∃ code, failingCmake.spawn cmd = .ok code) ∧
      (∀ item, failingCmake.remove item = .ok ()) ∧
        ∀ code ∈ launches devCheckout (childExit (fun _ => 1) (templateExit failingCmake .linux devCheckout.dir)) none
          [[], ["clean"], ["build", "--verbose"]], code = 0 :=
  ⟨rfl, rfl, fun _ => ⟨2, rfl⟩, fun _ => rfl,
    fresh_checkout_runs_exit_zero devCheckout rfl rfl (fun _ => ⟨2, rfl⟩) (fun _ => rfl) .linux (fun _ => 1) _⟩

end DrogonBuild.Launch
