import DrogonBuild.Manager.Frame

/-!
# Constructing the manager: loading the state files and detecting the toolchain

`BuildManager.__init__` loads the history and the optimizations, then
`_detect_environment` takes the platform's entry of the optimizations (or the
platform default) as `self.config` and overlays what it detects: compiler
versions, whether ninja runs, and on windows the first Visual Studio
installation with a `vcvarsall.bat`. The overlay only ever writes a fallback
(`Unix Makefiles`, `clang`, a Visual Studio generator); it never writes the
preferred value back.
-/

namespace DrogonBuild.Manager

/-- `os.path.join(a, b)` on windows (`ntpath`): no separator after a bare drive
or a trailing separator. -/
def ntJoin (a b : String) : String :=
  if a.isEmpty || endswith a "\\" || endswith a "/" || (a.length = 2 && endswith a ":") then a ++ b
  else a ++ "\\" ++ b

/-- The version probe of a compiler (`gcc` or `clang`): `config[versionKey]` is
the first output line, `config[hasKey]` whether it is non-empty; a missing
program only sets `hasKey` to false. -/
def detectCompiler (w : World) (tool versionKey hasKey : String) : Step Unit :=
  match w.probe tool with
  | .missing => setConfigItem hasKey (.bool false)
  | .denied => throw (.osError tool)
  | .exited _ out => do
    emit (.spawn [tool, "--version"])
    setConfigItem versionKey (.str (firstLine out))
    setConfigItem hasKey (.bool (← configItem versionKey).truthy)

/-- `subprocess.run(["ninja", "--version"], check=True)`: a non-zero exit raises
`CalledProcessError`, which the detection catches like a missing program. -/
def probeNinja (w : World) : Step Bool :=
  match w.probe "ninja" with
  | .missing => pure false
  | .denied => throw (.osError "ninja")
  | .exited code _ => do
    emit (.spawn ["ninja", "--version"])
    pure (code == 0)

/-- The ninja check of every platform, with the platform's fallback when ninja
does not run. -/
def detectNinja (w : World) (fallback : Step Unit) : Step Unit := do
  if ← probeNinja w then setConfigItem "has_ninja" (.bool true)
  else
    setConfigItem "has_ninja" (.bool false)
    fallback

/-- `vs_paths` of `_detect_windows_environment`, in search order. -/
def vsPaths (w : World) : List String :=
  [w.vsPathEnv, "C:\\Program Files\\Microsoft Visual Studio\\2022",
    "C:\\Program Files\\Microsoft Visual Studio\\2019",
    "C:\\Program Files (x86)\\Microsoft Visual Studio\\2019"]

def editions : List String := ["Community", "Professional", "Enterprise", "BuildTools"]

/-- `os.path.join(vs_path, edition, "VC", "Auxiliary", "Build", "vcvarsall.bat")`. -/
def vcvarsPath (vsPath edition : String) : String :=
  ntJoin (ntJoin (ntJoin (ntJoin (ntJoin vsPath edition) "VC") "Auxiliary") "Build") "vcvarsall.bat"

/-- The loop over editions: the first one with a `vcvarsall.bat` is recorded. -/
def findEdition (w : World) (vsPath : String) : List String → Step Unit
  | [] => pure ()
  | e :: es =>
    if w.pathExists (vcvarsPath vsPath e) then do
      setConfigItem "vs_path" (.str vsPath)
      setConfigItem "vcvars_path" (.str (vcvarsPath vsPath e))
      setConfigItem "vs_edition" (.str e)
    else findEdition w vsPath es

/-- The loop over installation roots: empty or absent roots are skipped, and the
loop stops at the first existing root after which `"vs_path" in self.config`. -/
def findVs (w : World) : List String → Step Unit
  | [] => pure ()
  | p :: ps =>
    if p.isEmpty || !w.pathExists p then findVs w ps
    else do
      findEdition w p editions
      if ← configHas "vs_path" then pure () else findVs w ps

/-- The generator `_detect_windows_environment` falls back to without ninja. -/
def vsGenerator (vsYear : String) : String :=
  let version := if vsYear = "2022" then 17 else 16
  s!"Visual Studio {version} {vsYear}"

def detectWindowsEnvironment (w : World) : Step Unit := do
  findVs w (vsPaths w)
  detectNinja w do
    if ← configHas "vs_path" then
      let vsYear := if ← liftE ((← configItem "vs_path").contains "2022") then "2022" else "2019"
      setConfigItem "generator" (.str (vsGenerator vsYear))

/-- `if not self.config["has_gcc"] and self.config["has_clang"]: self.config["compiler"] = "clang"`. -/
def preferClang : Step Unit := do
  if !(← configItem "has_gcc").truthy then
    if (← configItem "has_clang").truthy then setConfigItem "compiler" (.str "clang")

def detectLinuxEnvironment (w : World) : Step Unit := do
  detectCompiler w "gcc" "gcc_version" "has_gcc"
  detectCompiler w "clang" "clang_version" "has_clang"
  preferClang
  detectNinja w (setConfigItem "generator" (.str "Unix Makefiles"))

def detectMacosEnvironment (w : World) : Step Unit := do
  detectCompiler w "clang" "clang_version" "has_clang"
  detectNinja w (setConfigItem "generator" (.str "Unix Makefiles"))

/-- `self.config = self.optimizations.get(self.system, DEFAULT_CONFIGS[self.system])`:
the attribute `get` is looked up before the default is evaluated. -/
def selectConfig (w : World) : Step Unit := do
  let m := (← get).mgr
  match m.optimizations with
  | .dict kvs =>
    let default ← liftE ((defaultConfigs w.cpuCount).getItem m.system.key)
    setConfig ((lookup kvs m.system.key).getD default)
  | v => throw (.attributeError v.typeName "get")

/-- The detection `_detect_environment` runs for the platform. -/
def detectPlatform (w : World) : Step Unit := do
  match (← get).mgr.system with
  | .windows => detectWindowsEnvironment w
  | .linux => detectLinuxEnvironment w
  | .darwin => detectMacosEnvironment w
  | .other _ => pure ()

/-- `_detect_environment`. -/
def detectEnvironment (w : World) : Step Unit := do
  selectConfig w
  detectPlatform w

/-- A `BuildManager` object before `__init__` has set its attributes. -/
def BuildManager.fresh (root : String) (system : Platform) : BuildManager :=
  { workspaceRoot := root, system, buildHistory := .list [], optimizations := .null, config := .null }

/-- The first half of `BuildManager.__init__`: the directories and the two state files. -/
def loadState (w : World) : Step Unit := do
  let m := (← get).mgr
  emit (.mkdir m.buildDir)
  emit (.mkdir m.scriptsDir)
  setBuildHistory (← loadJson m.historyFile (← get).host.history (.list []))
  setOptimizations (← loadJson m.optimizationFile (← get).host.optimizations
    (defaultConfigs w.cpuCount))

/-- `BuildManager.__init__`. -/
def init (w : World) : Step Unit := do
  loadState w
  detectEnvironment w

/-- The process once `loadState` has run. -/
def Proc.afterLoad (s : Proc) (cpuCount : Nat) : Proc :=
  ((((s.log (.mkdir s.mgr.buildDir)).log (.mkdir s.mgr.scriptsDir)).warnUnreadable s.host.history
    s.mgr.historyFile).withBuildHistory (s.host.history.loaded (.list []))).warnUnreadable
    s.host.optimizations s.mgr.optimizationFile |>.withOptimizations
    (s.host.optimizations.loaded (defaultConfigs cpuCount))

/-- Loading never raises: unreadable files give their defaults. -/
theorem loadState_run (w : World) (s : Proc) : loadState w s = .ok () (s.afterLoad w.cpuCount) := by
  obtain ⟨⟨history, optimizations, trace⟩, m⟩ := s
  cases history <;> cases optimizations <;> rfl

@[simp] theorem Proc.afterLoad_optimizations (s : Proc) (n : Nat) :
    (s.afterLoad n).host.optimizations = s.host.optimizations := by simp [Proc.afterLoad]
@[simp] theorem Proc.afterLoad_history (s : Proc) (n : Nat) :
    (s.afterLoad n).host.history = s.host.history := by simp [Proc.afterLoad]
@[simp] theorem Proc.afterLoad_system (s : Proc) (n : Nat) : (s.afterLoad n).mgr.system = s.mgr.system := by
  simp [Proc.afterLoad]
@[simp] theorem Proc.afterLoad_loaded (s : Proc) (n : Nat) :
    (s.afterLoad n).mgr.optimizations = s.host.optimizations.loaded (defaultConfigs n) := rfl
@[simp] theorem Proc.afterLoad_buildHistory (s : Proc) (n : Nat) :
    (s.afterLoad n).mgr.buildHistory = s.host.history.loaded (.list []) := by simp [Proc.afterLoad]

/-- `self.optimizations.get(...)` raises unless the optimizations are a dict and the
platform has a default; otherwise the platform's entry, or the default, is the configuration. -/
theorem selectConfig_run (w : World) (s : Proc) :
    selectConfig w s = match s.mgr.optimizations, (defaultConfigs w.cpuCount).getItem s.mgr.system.key with
      | .dict kvs, .ok d => .ok () (s.withConfig ((lookup kvs s.mgr.system.key).getD d))
      | .dict _, .error e => .error e s
      | v, _ => .error (.attributeError v.typeName "get") s := by
  obtain ⟨host, ⟨root, system, hist, opts, config⟩⟩ := s
  cases opts with
  | dict kvs =>
    show EStateM.bind (liftE _) _ _ = _
    cases (defaultConfigs w.cpuCount).getItem system.key <;> rfl
  | _ => rfl

/-- A predicate kept by creating directories, printing and setting the loaded
attributes is kept by loading. -/
theorem loadState_keeps {P : Proc → Prop} (hd : ∀ p, Keeps P (emit (.mkdir p)))
    (hp : ∀ t, Keeps P (emit (.print t))) (hh : ∀ v, Keeps P (setBuildHistory v))
    (ho : ∀ v, Keeps P (setOptimizations v)) (w : World) : Keeps P (loadState w) :=
  .bind .get fun _ => .bind (hd _) fun _ => .bind (hd _) fun _ => .bind .get fun _ =>
    .bind (loadJson_yields hp _ _ _).keeps fun _ => .bind (hh _) fun _ => .bind .get fun _ =>
    .bind (loadJson_yields hp _ _ _).keeps fun _ => ho _

theorem selectConfig_keeps {P : Proc → Prop} (h : ∀ c, Keeps P (setConfig c)) (w : World) :
    Keeps P (selectConfig w) := by
  refine .bind .get fun _ => ?_
  dsimp only
  split
  · exact .bind (.liftE _) fun _ => h _
  · exact .throw _

/-! ## What the platform detection can do -/

/-- The keys the platform detection writes into `self.config`. -/
def detectionKeys : List String :=
  ["gcc_version", "has_gcc", "clang_version", "has_clang", "compiler", "has_ninja", "generator",
    "vs_path", "vcvars_path", "vs_edition"]

/-- The detection never writes the job count. -/
theorem ne_parallelJobs_of_mem_detectionKeys {key : String} (h : key ∈ detectionKeys) :
    key ≠ "parallel_jobs" := by
  revert key
  decide

/-- A predicate kept by every step of the platform detection: starting a
version probe and writing any value under a detection key. -/
structure DetectStable (P : Proc → Prop) : Prop where
  spawn : ∀ tool, Keeps P (emit (.spawn [tool, "--version"]))
  set : ∀ key ∈ detectionKeys, ∀ v, Keeps P (setConfigItem key v)

section
variable {P : Proc → Prop} (h : DetectStable P) (w : World)
include h

theorem detectCompiler_keeps {tool versionKey hasKey : String} (hv : versionKey ∈ detectionKeys)
    (hh : hasKey ∈ detectionKeys) : Keeps P (detectCompiler w tool versionKey hasKey) := by
  unfold detectCompiler
  split
  · exact h.set _ hh _
  · exact .throw _
  · exact .bind (h.spawn _) fun _ => .bind (h.set _ hv _) fun _ =>
      .bind (.configItem _) fun _ => h.set _ hh _

theorem probeNinja_keeps : Keeps P (probeNinja w) := by
  unfold probeNinja
  split
  · exact .pure _
  · exact .throw _
  · exact .bind (h.spawn _) fun _ => .pure _

theorem detectNinja_keeps {fallback : Step Unit} (hf : Keeps P fallback) :
    Keeps P (detectNinja w fallback) :=
  .bind (probeNinja_keeps h w) fun _ =>
    .ite (h.set _ (by decide) _) (.bind (h.set _ (by decide) _) fun _ => hf)

theorem findEdition_keeps (vsPath : String) (es : List String) : Keeps P (findEdition w vsPath es) := by
  induction es with
  | nil => exact .pure _
  | cons e es ih =>
    exact .ite (.bind (h.set _ (by decide) _) fun _ => .bind (h.set _ (by decide) _) fun _ =>
      h.set _ (by decide) _) ih

theorem findVs_keeps (ps : List String) : Keeps P (findVs w ps) := by
  induction ps with
  | nil => exact .pure _
  | cons p ps ih =>
    exact .ite ih (.bind (findEdition_keeps h w p _) fun _ =>
      .bind (.configHas _) fun _ => .ite (.pure _) ih)

theorem detectWindowsEnvironment_keeps : Keeps P (detectWindowsEnvironment w) :=
  .bind (findVs_keeps h w _) fun _ => detectNinja_keeps h w (.bind (.configHas _) fun _ =>
    .ite (.bind (.configItem _) fun _ => .bind (.liftE _) fun _ => h.set _ (by decide) _) (.pure _))

theorem preferClang_keeps : Keeps P preferClang :=
  .bind (.configItem _) fun _ =>
    .ite (.bind (.configItem _) fun _ => .ite (h.set _ (by decide) _) (.pure _)) (.pure _)

theorem detectLinuxEnvironment_keeps : Keeps P (detectLinuxEnvironment w) :=
  .bind (detectCompiler_keeps h w (by decide) (by decide)) fun _ =>
    .bind (detectCompiler_keeps h w (by decide) (by decide)) fun _ =>
    .bind (preferClang_keeps h) fun _ => detectNinja_keeps h w (h.set _ (by decide) _)

theorem detectMacosEnvironment_keeps : Keeps P (detectMacosEnvironment w) :=
  .bind (detectCompiler_keeps h w (by decide) (by decide)) fun _ =>
    detectNinja_keeps h w (h.set _ (by decide) _)

theorem detectPlatform_keeps : Keeps P (detectPlatform w) := by
  refine .bind .get fun s => ?_
  split
  · exact detectWindowsEnvironment_keeps h w
  · exact detectLinuxEnvironment_keeps h w
  · exact detectMacosEnvironment_keeps h w
  · exact .pure _

end

/-- The constructor keeps what each of its statements keeps. -/
theorem init_keeps {P : Proc → Prop} (hd : ∀ p, Keeps P (emit (.mkdir p)))
    (hp : ∀ t, Keeps P (emit (.print t))) (hh : ∀ v, Keeps P (setBuildHistory v))
    (ho : ∀ v, Keeps P (setOptimizations v)) (hc : ∀ c, Keeps P (setConfig c)) (h : DetectStable P)
    (w : World) : Keeps P (init w) :=
  .bind (loadState_keeps hd hp hh ho w) fun _ => .bind (selectConfig_keeps hc w) fun _ => detectPlatform_keeps h w

end DrogonBuild.Manager
