import DrogonBuild.Manager.Execute

/-!
# The paths a run touches

Besides its two state files, `main` creates `build/`, `scripts/` and `.vscode/`
under the workspace root, writes the generated build script (`Makefile`, or
`auto_make.bat` on windows), `.vscode/tasks.json` and the vcvars batch file
`build/temp_build_cmd.bat`, deletes only that batch file and clears only
`build/`. So whatever the verb, the tools, the exit codes and the state files,
and whether the run returns or raises, every path it creates, writes, deletes or
clears is one of these, under the root it was started with. What the commands it
starts do to the disk is theirs, not the manager's.
-/

namespace DrogonBuild.Manager.Footprint

/-- The path an effect creates, writes, deletes or clears. -/
def touched : Effect → Option String
  | .mkdir p | .write p _ | .dump p _ | .remove p | .clearDir p => some p
  | .spawn _ | .exec _ _ | .print _ => none

/-- The paths the manager object for `root` on `system` may touch. -/
def ownPaths (system : Platform) (root : String) : List String :=
  let m := BuildManager.fresh root system
  [m.buildDir, m.scriptsDir, system.join m.buildDir "temp_build_cmd.bat", makefilePath m,
    system.join root ".vscode", system.join (system.join root ".vscode") "tasks.json"]

/-- A run of the manager for `root` on `system` whose trace is `trace` followed by
effects that touch only its own paths. -/
structure Confined (system : Platform) (root : String) (trace : List Effect) (s : Proc) : Prop where
  workspace : s.mgr.workspaceRoot = root
  platform : s.mgr.system = system
  effects : ∃ new, s.host.trace = trace ++ new ∧
    ∀ e ∈ new, ∀ p, touched e = some p → p ∈ ownPaths system root

section
variable {system : Platform} {root : String} {trace : List Effect} (w : World)

/-- The paths computed from the manager object of a confined run are its own. -/
theorem Confined.own {s : Proc} (hc : Confined system root trace s) {p : String}
    (hp : p ∈ [s.mgr.buildDir, s.mgr.scriptsDir, s.mgr.system.join s.mgr.buildDir "temp_build_cmd.bat",
      makefilePath s.mgr, s.mgr.system.join s.mgr.workspaceRoot ".vscode",
      s.mgr.system.join (s.mgr.system.join s.mgr.workspaceRoot ".vscode") "tasks.json"]) :
    p ∈ ownPaths system root := by
  rw [← hc.workspace, ← hc.platform]
  exact hp

/-- Emitting an effect that touches one of the manager's own paths, or none. -/
theorem keeps_emit {e : Effect} (h : ∀ p, touched e = some p → p ∈ ownPaths system root) :
    Keeps (Confined system root trace) (emit e) := by
  intro s hc
  obtain ⟨new, ht, hnew⟩ := hc.effects
  refine ⟨hc.workspace, hc.platform, new ++ [e], by rw [← List.append_assoc, ← ht]; rfl, fun e' he' => ?_⟩
  rcases List.mem_append.1 he' with he' | he'
  · exact hnew e' he'
  · exact List.mem_singleton.1 he' ▸ h

/-- Starting a process, marking a command and printing touch no path. -/
theorem keeps_quiet {e : Effect} (h : touched e = none) : Keeps (Confined system root trace) (emit e) :=
  keeps_emit fun _ hp => nomatch h.symm.trans hp

theorem confined_tuneStable : TuneStable (Confined system root trace) :=
  ⟨fun _ _ h => ⟨h.1, h.2, h.3⟩, fun _ _ h => ⟨h.1, h.2, h.3⟩, fun _ h => ⟨h.1, h.2, h.3⟩⟩

theorem keeps_setConfigItem (key : String) (v : Json) :
    Keeps (Confined system root trace) (setConfigItem key v) :=
  confined_tuneStable.setConfigItem key v

theorem keeps_recordAttempt (phase : Phase) (type : String) (cmd : List String) (code : Int) :
    Keeps (Confined system root trace) (recordAttempt w phase type cmd code) :=
  .bind .get fun _ => .bind (.liftE _) fun _ => .bind (fun _ h => ⟨h.1, h.2, h.3⟩) fun _ _ h => ⟨h.1, h.2, h.3⟩

theorem keeps_loadState : Keeps (Confined system root trace) (loadState w) :=
  Keeps.bind_yields Yields.get fun _ hs =>
    .bind (keeps_emit fun _ hp => hs.own (by cases hp; simp)) fun _ =>
    .bind (keeps_emit fun _ hp => hs.own (by cases hp; simp)) fun _ =>
    .bind .get fun _ => .bind (loadJson_yields (fun _ => keeps_quiet rfl) _ _ _).keeps fun _ =>
    .bind (fun _ h => ⟨h.1, h.2, h.3⟩) fun _ =>
    .bind .get fun _ => .bind (loadJson_yields (fun _ => keeps_quiet rfl) _ _ _).keeps fun _ _ h => ⟨h.1, h.2, h.3⟩

theorem keeps_init : Keeps (Confined system root trace) (init w) := by
  refine .bind (keeps_loadState w) fun _ => .bind (.bind .get fun _ => ?_) fun _ =>
    detectPlatform_keeps ⟨fun _ => keeps_quiet rfl, fun k _ => keeps_setConfigItem k⟩ w
  dsimp only
  split
  · exact .bind (.liftE _) fun _ _ h => ⟨h.1, h.2, h.3⟩
  · exact .throw _

theorem keeps_launch (phase : Phase) (argv : List String) :
    Keeps (Confined system root trace) (launch w phase argv) := by
  unfold launch
  split
  · exact .throw _
  · exact .throw _
  · exact .bind (keeps_quiet rfl) fun _ => .pure _

/-- The batch file is written to, and deleted from, the build directory. -/
theorem keeps_runWindowsWithVcvars (phase : Phase) (cmd : List String) :
    Keeps (Confined system root trace) (runWindowsWithVcvars w phase cmd) :=
  .bind (.configHas _) fun _ => .ite (keeps_launch w _ _) <| Keeps.bind_yields Yields.get fun _ hs =>
    .bind (.configItem _) fun _ => .bind (keeps_emit fun _ hp => hs.own (by cases hp; simp)) fun _ =>
    .bind (keeps_launch w _ _) fun _ => .bind (keeps_emit fun _ hp => hs.own (by cases hp; simp)) fun _ =>
    .pure _

theorem keeps_execute (phase : Phase) (cmd : List String) :
    Keeps (Confined system root trace) (execute w phase cmd) := by
  refine .bind (keeps_quiet rfl) fun _ => .bind .get fun _ => ?_
  split
  · exact .bind (.configHas _) fun _ => .ite (keeps_runWindowsWithVcvars w _ _) (keeps_launch w _ _)
  · exact .bind (.pure _) fun _ => .ite (keeps_runWindowsWithVcvars w _ _) (keeps_launch w _ _)

theorem keeps_runRecorded (phase : Phase) (type banner : String) (cmd : List String) :
    Keeps (Confined system root trace) (runRecorded w phase type banner cmd) :=
  .bind (keeps_quiet rfl) fun _ => .bind (keeps_execute w _ _) fun _ =>
    .bind (keeps_recordAttempt w _ _ _ _) fun _ => .pure _

theorem keeps_configure : Keeps (Confined system root trace) (configure w) :=
  .bind .get fun _ => .bind (.liftE _) fun _ => .bind (.liftE _) fun _ =>
    .bind (keeps_runRecorded w _ _ _ _) fun _ => .pure _

theorem keeps_build : Keeps (Confined system root trace) (build w) :=
  .bind .get fun _ => .bind (.liftE _) fun _ => .bind (keeps_runRecorded w _ _ _ _) fun _ =>
    .ite (.bind (analyzeAndOptimize_keeps confined_tuneStable w) fun _ => .pure _) (.pure _)

/-- `clean` clears only the build directory. -/
theorem keeps_clean : Keeps (Confined system root trace) (clean w) :=
  Keeps.bind_yields Yields.get fun _ hs => .ite (.ite (.bind (keeps_execute w _ _) fun _ => .pure _)
    (keeps_emit fun _ hp => hs.own (by cases hp; simp))) (.pure _)

theorem keeps_generateMakefile : Keeps (Confined system root trace) generateMakefile :=
  Keeps.bind_yields Yields.get fun _ hs =>
    .bind (keeps_emit fun _ hp => hs.own (by cases hp; simp)) fun _ => keeps_quiet rfl

theorem keeps_generateVscodeIntegration : Keeps (Confined system root trace) generateVscodeIntegration :=
  Keeps.bind_yields Yields.get fun _ hs => .bind (keeps_emit fun _ hp => hs.own (by cases hp; simp)) fun _ =>
    keeps_emit fun _ hp => hs.own (by cases hp; simp)

theorem keeps_runCommand (cmd : String) : Keeps (Confined system root trace) (runCommand w cmd) :=
  .ite (keeps_configure w) <| .ite (.bind (keeps_configure w) fun _ => .ite (keeps_build w) (.pure _)) <|
    .ite (.bind (keeps_clean w) fun _ => .pure _) <| .ite (.bind keeps_generateMakefile fun _ => .pure _) <|
    .ite (.bind keeps_generateVscodeIntegration fun _ => .pure _) <| .bind (keeps_quiet rfl) fun _ => .pure _

theorem keeps_mainBody (args : List String) : Keeps (Confined system root trace) (mainBody w args) := by
  refine .bind (keeps_init w) fun _ => ?_
  split
  · exact .bind (keeps_quiet rfl) fun _ => .pure _
  · exact .bind (keeps_runCommand w _) fun _ => .pure _

end

end DrogonBuild.Manager.Footprint
