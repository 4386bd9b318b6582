import DrogonBuild.Manager.Command

/-!
# The executor, the adaptive heuristic and the command-line entry point

`configure`, `build` and `clean` hand their command to the executor, which on
windows runs it inside a batch file that first calls `vcvarsall.bat`.
`configure` and `build` append one record to the history and save it after the
command returns; a successful build then runs `_analyze_and_optimize`, which
nudges `parallel_jobs` and saves the optimizations.
-/

namespace DrogonBuild.Manager

open Json

/-- `subprocess.run(argv, check=False)` for the command of `phase`. -/
def launch (w : World) (phase : Phase) (argv : List String) : Step Int :=
  match w.outcome phase with
  | .missing => throw (.fileNotFound (argv.headD ""))
  | .denied => throw (.osError (argv.headD ""))
  | .exited code _ => do
    emit (.spawn argv)
    pure code

/-- The text of `temp_build_cmd.bat`. -/
def batchText (vcvarsPath : String) (cmd : List String) : String :=
  "@echo off\n" ++ s!"call \"{vcvarsPath}\" x64\n" ++ " ".intercalate cmd ++ "\n"

/-- `_run_windows_with_vcvars(cmd)`; failing to delete the batch file is ignored. -/
def runWindowsWithVcvars (w : World) (phase : Phase) (cmd : List String) : Step Int := do
  if !(← configHas "vcvars_path") then launch w phase cmd
  else
    let m := (← get).mgr
    let tempBatch := m.system.join m.buildDir "temp_build_cmd.bat"
    emit (.write tempBatch (batchText (← configItem "vcvars_path").pyStr cmd))
    let code ← launch w phase [tempBatch]
    emit (.remove tempBatch)
    pure code

/-- How configure, build and clean run `cmd`:
`if self.system == "windows" and "vcvars_path" in self.config`. -/
def execute (w : World) (phase : Phase) (cmd : List String) : Step Int := do
  emit (.exec phase cmd)
  let wrapped ← if (← get).mgr.system = .windows then configHas "vcvars_path" else pure false
  if wrapped then runWindowsWithVcvars w phase cmd else launch w phase cmd

/-- A predicate kept by everything the executor does with the command of a phase:
marking it, starting a process, writing and deleting the batch file. -/
structure ExecStable (P : Proc → Prop) (phase : Phase) (cmd : List String) : Prop where
  exec : Keeps P (emit (.exec phase cmd))
  spawn : ∀ argv, Keeps P (emit (.spawn argv))
  write : ∀ path text, Keeps P (emit (.write path text))
  remove : ∀ path, Keeps P (emit (.remove path))

/-- The command of `phase` starts and exits with `code`. -/
def exitsWith (w : World) (phase : Phase) (code : Int) : Prop := ∃ out, w.outcome phase = .exited code out

section
variable {P : Proc → Prop} {phase : Phase} {cmd : List String} (h : ExecStable P phase cmd)
  (w : World)
include h

/-- Whatever the executor returns is the exit code of the phase's command. -/
theorem launch_yields (argv : List String) : Yields P (launch w phase argv) (exitsWith w phase) := by
  unfold launch
  split
  · exact .throw _
  · exact .throw _
  · exact .bind (h.spawn _).yields fun _ _ => .pure ⟨_, ‹_›⟩

theorem runWindowsWithVcvars_yields : Yields P (runWindowsWithVcvars w phase cmd) (exitsWith w phase) :=
  .bind (Keeps.configHas _).yields fun _ _ => .ite (launch_yields h w _) (.bind Yields.get fun _ _ =>
    .bind (Keeps.configItem _).yields fun _ _ => .bind (h.write _ _).yields fun _ _ =>
    .bind (launch_yields h w _) fun _ hc => .bind (h.remove _).yields fun _ _ => .pure hc)

theorem execute_yields : Yields P (execute w phase cmd) (exitsWith w phase) := by
  refine .bind h.exec.yields fun _ _ => .bind Yields.get fun _ _ => ?_
  split
  · exact .bind (Keeps.configHas _).yields fun _ _ =>
      .ite (runWindowsWithVcvars_yields h w) (launch_yields h w _)
  · exact .bind (Keeps.pure _).yields fun _ _ => .ite (runWindowsWithVcvars_yields h w) (launch_yields h w _)

theorem execute_keeps : Keeps P (execute w phase cmd) := (execute_yields h w).keeps

end

/-- A predicate blind to the trace and to the build history, in memory and on disk. -/
structure RecordStable (P : Proc → Prop) : Prop where
  emit : ∀ e, Keeps P (emit e)
  history : ∀ h, Keeps P (setBuildHistory h)
  save : Keeps P saveHistory

theorem RecordStable.execStable {P : Proc → Prop} (h : RecordStable P) (phase : Phase)
    (cmd : List String) : ExecStable P phase cmd :=
  ⟨h.emit _, fun _ => h.emit _, fun _ _ => h.emit _, fun _ => h.emit _⟩

/-- The record `configure` and `build` append. -/
def attemptRecord (stamp type : String) (cmd : List String) (code : Int) (clock : ℚ × ℚ) : Json :=
  .dict [("timestamp", .str stamp), ("type", .str type), ("command", .str (" ".intercalate cmd)),
    ("success", .bool (code == 0)), ("duration", .float (clock.2 - clock.1)),
    ("returncode", .int code)]

/-- `self.build_history.append({...})` followed by `self._save_json(self.history_file, ...)`. -/
def recordAttempt (w : World) (phase : Phase) (type : String) (cmd : List String) (code : Int) :
    Step Unit := do
  setBuildHistory (← liftE ((← get).mgr.buildHistory.append
    (attemptRecord (w.stamp phase) type cmd code (w.clock phase))))
  saveHistory

theorem recordAttempt_keeps {P : Proc → Prop} (h : RecordStable P) (w : World) (phase : Phase)
    (type : String) (cmd : List String) (code : Int) : Keeps P (recordAttempt w phase type cmd code) :=
  .bind .get fun _ => .bind (.liftE _) fun _ => .bind (h.history _) fun _ => h.save

/-- On a list history, recording appends the record and saves. -/
theorem recordAttempt_run (w : World) (phase : Phase) (type : String) (cmd : List String) (code : Int)
    {hist : List Json} (s : Proc) (h : s.mgr.buildHistory = .list hist) :
    recordAttempt w phase type cmd code s = .ok () ((s.withBuildHistory
      (.list (hist ++ [attemptRecord (w.stamp phase) type cmd code (w.clock phase)]))).saveHistory) := by
  obtain ⟨host, ⟨root, system, bh, opts, config⟩⟩ := s
  subst h
  rfl

/-- What `configure` and `build` do once the command is generated: print it, run
it, append the record and save the history. Returns the exit code. -/
def runRecorded (w : World) (phase : Phase) (type banner : String) (cmd : List String) : Step Int := do
  emit (.print (banner ++ " ".intercalate cmd))
  let code ← execute w phase cmd
  recordAttempt w phase type cmd code
  pure code

/-- `configure`; the `" ".join` of the printed command rejects items that are not strings. -/
def configure (w : World) : Step Bool := do
  let cmakeCmd ← liftE (joinStrs 0 (← liftE (generateCmakeConfig (← get).mgr)))
  return (← runRecorded w .configure "configure" "Running CMake configuration: " cmakeCmd) == 0

theorem runRecorded_yields {P : Proc → Prop} {w : World} {phase : Phase} {cmd : List String}
    (hx : ExecStable P phase cmd) (hp : ∀ t, Keeps P (emit (.print t)))
    (hr : ∀ code, Keeps P (recordAttempt w phase type cmd code)) (banner : String) :
    Yields P (runRecorded w phase type banner cmd) (exitsWith w phase) :=
  .bind (hp _).yields fun _ _ => .bind (execute_yields hx w) fun _ hc =>
    .bind (hr _).yields fun _ _ => .pure hc

theorem runRecorded_keeps {P : Proc → Prop} (h : RecordStable P) (w : World) (phase : Phase)
    (type banner : String) (cmd : List String) : Keeps P (runRecorded w phase type banner cmd) :=
  (runRecorded_yields (h.execStable _ _) (fun _ => h.emit _) (fun _ => recordAttempt_keeps h w _ _ _ _)
    _).keeps

theorem configure_keeps {P : Proc → Prop} (h : RecordStable P) (w : World) : Keeps P (configure w) :=
  .bind .get fun _ => .bind (.liftE _) fun _ => .bind (.liftE _) fun _ =>
    .bind (runRecorded_keeps h w _ _ _ _) fun _ => .pure _

/-- `self.build_history[-10:]`. -/
def lastTen : Json → Except PyError (List Json)
  | .list xs => pure (xs.drop (xs.length - 10))
  | v => throw (.typeError s!"'{v.typeName}' object is not subscriptable")

/-- `[b for b in ... if b["type"] == "build" and b["success"]]`. -/
def successfulBuilds : List Json → Except PyError (List Json)
  | [] => pure []
  | b :: bs => do
    let keep ← if (← b.getItem "type").eqStr "build" then pure (← b.getItem "success").truthy
      else pure false
    let rest ← successfulBuilds bs
    pure (if keep then b :: rest else rest)

/-- `sum(b["duration"] for b in builds)`, starting from `0`. -/
def sumDurations (acc : Json) : List Json → Except PyError Json
  | [] => pure acc
  | b :: bs => do sumDurations (← acc.add (← b.getItem "duration")) bs

/-- `self.config["parallel_jobs"] = min(self.config["parallel_jobs"] + 1, cpu_count() * 2)`. -/
def raiseJobs (w : World) : Step Unit := do
  let raised ← liftE ((← configItem "parallel_jobs").add (.int 1))
  setConfigItem "parallel_jobs" (← liftE (raised.min (.int (w.cpuCount * 2))))

/-- `self.config["parallel_jobs"] = max(self.config["parallel_jobs"] - 1, 1)`. -/
def lowerJobs : Step Unit := do
  let lowered ← liftE ((← configItem "parallel_jobs").sub (.int 1))
  setConfigItem "parallel_jobs" (← liftE (lowered.max (.int 1)))

/-- The trend rule: one more job when the last build took under 0.9 of the
average, one fewer when it took over 1.1 of it and more than one job is set. -/
def adjustParallelJobs (w : World) (last : Json) (avg : ℚ) : Step Unit := do
  if ← liftE (last.lt (.float (avg * (9 / 10)))) then raiseJobs w
  else if ← liftE ((Json.float (avg * (11 / 10))).lt last) then
    if ← liftE ((Json.int 1).lt (← configItem "parallel_jobs")) then lowerJobs

/-- The trend step, taken with at least three successful builds. -/
def adjustOnTrend (w : World) (builds : List Json) (total : Json) : Step Unit := do
  if 3 ≤ builds.length then
    adjustParallelJobs w (← liftE ((builds.getLastD .null).getItem "duration"))
      (total.num?.getD 0 / builds.length)

/-- `self.optimizations[self.system] = self.config`, then saving the file. -/
def storeConfig : Step Unit := do
  let m := (← get).mgr
  setOptimizations (← liftE (m.optimizations.setItem m.system.key m.config))
  saveOptimizations

/-- Storing raises unless the optimizations are a dict; otherwise the platform's
entry becomes `self.config` and the file holds the document. -/
theorem storeConfig_run (s : Proc) :
    storeConfig s = match s.mgr.optimizations.setItem s.mgr.system.key s.mgr.config with
      | .ok o => .ok () (s.withOptimizations o).saveOptimizations
      | .error e => .error e s := by
  show EStateM.bind (liftE _) _ _ = _
  cases s.mgr.optimizations.setItem s.mgr.system.key s.mgr.config <;> rfl

/-- `_analyze_and_optimize`. -/
def analyzeAndOptimize (w : World) : Step Unit := do
  let builds ← liftE (successfulBuilds (← liftE (lastTen (← get).mgr.buildHistory)))
  if builds.isEmpty then pure ()
  else
    adjustOnTrend w builds (← liftE (sumDurations (.int 0) builds))
    storeConfig

/-- A predicate blind to `self.config`, `self.optimizations` and the optimizations file. -/
structure TuneStable (P : Proc → Prop) : Prop where
  config : ∀ c, Keeps P (setConfig c)
  optimizations : ∀ o, Keeps P (setOptimizations o)
  save : Keeps P saveOptimizations

section
variable {P : Proc → Prop} (h : TuneStable P) (w : World)
include h

theorem TuneStable.setConfigItem (key : String) (v : Json) : Keeps P (Manager.setConfigItem key v) :=
  .bind .getConfig fun _ => .bind (.liftE _) fun _ => h.config _

theorem adjustParallelJobs_keeps (last : Json) (avg : ℚ) : Keeps P (adjustParallelJobs w last avg) :=
  .bind (.liftE _) fun _ => .ite
    (.bind (.configItem _) fun _ => .bind (.liftE _) fun _ => .bind (.liftE _) fun _ => h.setConfigItem _ _)
    (.bind (.liftE _) fun _ => .ite (.bind (.configItem _) fun _ => .bind (.liftE _) fun _ =>
      .ite (.bind (.configItem _) fun _ => .bind (.liftE _) fun _ => .bind (.liftE _) fun _ =>
        h.setConfigItem _ _) (.pure _)) (.pure _))

theorem analyzeAndOptimize_keeps : Keeps P (analyzeAndOptimize w) :=
  .bind .get fun _ => .bind (.liftE _) fun _ => .bind (.liftE _) fun _ =>
    .ite (.pure _) (.bind (.liftE _) fun _ =>
      .bind (.ite (.bind (.liftE _) fun _ => adjustParallelJobs_keeps h w _ _) (.pure _)) fun _ =>
        .bind .get fun _ => .bind (.liftE _) fun _ => .bind (h.optimizations _) fun _ => h.save)

end

/-- `build`: a successful build is analysed. -/
def build (w : World) : Step Bool := do
  let buildCmd ← liftE (generateBuildCommand (← get).mgr w.cpuCount)
  if (← runRecorded w .build "build" "Running build: " buildCmd) == 0 then
    analyzeAndOptimize w
    pure true
  else pure false

/-- `clean`: `cmake --build ... --target clean` once CMake has configured the
build directory, otherwise the directory's contents are deleted. -/
def clean (w : World) : Step Unit := do
  let m := (← get).mgr
  if w.pathExists m.buildDir then
    if w.pathExists (m.system.join m.buildDir "CMakeCache.txt") then
      let _ ← execute w .clean ["cmake", "--build", m.buildDir, "--target", "clean"]
    else emit (.clearDir m.buildDir)

theorem clean_keeps {P : Proc → Prop} (h : ∀ e, Keeps P (emit e)) (w : World) : Keeps P (clean w) :=
  .bind .get fun _ => .ite (.ite (.bind (execute_keeps ⟨h _, fun _ => h _, fun _ _ => h _, fun _ => h _⟩ w)
    fun _ => .pure _) (h _)) (.pure _)

/-- The script `generate_makefile` writes: `auto_make.bat` on windows, a
`Makefile` elsewhere. -/
def makefilePath (m : BuildManager) : String :=
  m.system.join m.workspaceRoot (if m.system = .windows then "auto_make.bat" else "Makefile")

def makefileText (m : BuildManager) : String :=
  let script := m.system.join m.scriptsDir "auto_build_manager.py"
  if m.system = .windows then
    "@echo off\n" ++ "echo Running Drogon Auto Build System\n" ++ s!"python {script} build\n" ++
      "if %ERRORLEVEL% NEQ 0 (\n" ++ "    echo Build failed!\n" ++ "    exit /b %ERRORLEVEL%\n" ++ ")\n"
  else
    "# Auto-generated Makefile for Drogon\n" ++ "\n" ++ ".PHONY: all clean\n" ++ "\n" ++ "all:\n" ++
      s!"\tpython3 {script} build\n" ++ "\n" ++ "clean:\n" ++ s!"\tpython3 {script} clean\n"

/-- `generate_makefile`. -/
def generateMakefile : Step Unit := do
  let m := (← get).mgr
  emit (.write (makefilePath m) (makefileText m))
  emit (.print s!"Generated build script at {makefilePath m}")

/-- The build task of `tasks.json`. -/
def buildTask : Json :=
  .dict [("label", .str "Auto-Build Drogon (Intelligent)"), ("type", .str "shell"),
    ("command", .str "python"),
    ("args", .list [.str "${workspaceFolder}/scripts/auto_build_manager.py", .str "build"]),
    ("group", .dict [("kind", .str "build"), ("isDefault", .bool true)]),
    ("problemMatcher", .list [.str "$gcc", .str "$msCompile"]),
    ("presentation", .dict [("reveal", .str "always"), ("panel", .str "shared")]),
    ("runOptions", .dict [("runOn", .str "folderOpen")])]

/-- The clean task of `tasks.json`. -/
def cleanTask : Json :=
  .dict [("label", .str "Clean Drogon Build"), ("type", .str "shell"), ("command", .str "python"),
    ("args", .list [.str "${workspaceFolder}/scripts/auto_build_manager.py", .str "clean"]),
    ("problemMatcher", .list [])]

/-- `generate_vscode_integration`. -/
def generateVscodeIntegration : Step Unit := do
  let m := (← get).mgr
  let vscodeDir := m.system.join m.workspaceRoot ".vscode"
  emit (.mkdir vscodeDir)
  emit (.dump (m.system.join vscodeDir "tasks.json")
    (.dict [("version", .str "2.0.0"), ("tasks", .list [buildTask, cleanTask])]))

theorem generateMakefile_keeps {P : Proc → Prop} (h : ∀ e, Keeps P (emit e)) :
    Keeps P generateMakefile :=
  .bind .get fun _ => .bind (h _) fun _ => h _

theorem generateVscodeIntegration_keeps {P : Proc → Prop} (h : ∀ e, Keeps P (emit e)) :
    Keeps P generateVscodeIntegration :=
  .bind .get fun _ => .bind (h _) fun _ => h _

/-- `run_command(cmd)`. -/
def runCommand (w : World) (cmd : String) : Step Bool :=
  if cmd = "configure" then configure w
  else if cmd = "build" then do
    if ← configure w then build w else pure false
  else if cmd = "clean" then do clean w; pure true
  else if cmd = "generate-makefile" then do generateMakefile; pure true
  else if cmd = "setup-vscode" then do generateVscodeIntegration; pure true
  else do
    emit (.print s!"Unknown command: {cmd}")
    pure false

def usage : String :=
  "Usage: python auto_build_manager.py [configure|build|clean|generate-makefile|setup-vscode]"

/-- The body of `main()` once the manager object exists; `args` is `sys.argv[1:]`. -/
def mainBody (w : World) (args : List String) : Step Int := do
  init w
  match args with
  | [] => do
    emit (.print usage)
    pure 1
  | cmd :: _ => return if ← runCommand w cmd then 0 else 1

/-- `DROGON_WORKSPACE_ROOT`, or the parent of the scripts directory when unset or empty. -/
def workspaceRoot (w : World) : String :=
  if w.workspaceEnv.isEmpty then w.scriptRoot else w.workspaceEnv

/-- `main()` on a machine of the given platform. -/
def main (w : World) (system : Platform) (args : List String) (host : Host) :
    EStateM.Result PyError Proc Int :=
  mainBody w args { host, mgr := BuildManager.fresh (workspaceRoot w) system }

/-- Invocations of `main` one after another on one machine, each with its own
world and arguments: what one leaves in the state files, the next loads. -/
def session (system : Platform) : List (World × List String) → Host → Host
  | [], host => host
  | (w, args) :: runs, host => session system runs (finalState (main w system args host)).host

end DrogonBuild.Manager
