import DrogonBuild.Manager.Execute

/-!
# The parallel-job count stays within `[1, 2c]`

`c` is `multiprocessing.cpu_count()`. The defaults start below `c`, the
detection never writes `parallel_jobs`, and `_analyze_and_optimize` moves it by
one step clamped to `[1, 2c]`. So a run that starts from state files whose
platform entry (if any) has its jobs in range ends in such state files, whatever
the tools, the exit codes and the clock do, and every build command it runs
passes a job count in range.
-/

namespace DrogonBuild.Manager.Jobs

open Json

/-- A `parallel_jobs` value: an integer in `[1, 2c]`. -/
def JobsInRange (c : Nat) : Json → Prop
  | .int n => 1 ≤ n ∧ n ≤ 2 * c
  | _ => False

/-- A platform configuration whose `parallel_jobs`, when present, is in range. -/
def JobsOk (c : Nat) (cfg : Json) : Prop :=
  ∀ p, cfg.field? "parallel_jobs" = some p → JobsInRange c p

/-- An optimizations document whose entry for the platform, when present, is `JobsOk`. -/
def EntryOk (c : Nat) (sys : Platform) (opts : Json) : Prop :=
  ∀ e, opts.field? sys.key = some e → JobsOk c e

/-- `build_optimizations.json` holds an `EntryOk` document, or no document. -/
def StoreOk (c : Nat) (sys : Platform) : Stored → Prop
  | .doc v => EntryOk c sys v
  | _ => True

/-- The value a build command passes after `--parallel` is a job count in range. -/
def ParallelOk (c : Nat) : List String → Prop
  | _ :: _ :: _ :: "--parallel" :: j :: _ => ∃ n : Int, j = toString n ∧ 1 ≤ n ∧ n ≤ 2 * c
  | _ => False

/-- Every build command handed to the executor so far is `ParallelOk`. -/
def ExecsOk (c : Nat) (trace : List Effect) : Prop :=
  ∀ cmd, Effect.exec .build cmd ∈ trace → ParallelOk c cmd

/-- The invariant of a run on platform `sys` with `c` cores. -/
structure Inv (c : Nat) (sys : Platform) (s : Proc) : Prop where
  store : StoreOk c sys s.host.optimizations
  loaded : EntryOk c sys s.mgr.optimizations
  config : JobsOk c s.mgr.config
  system : s.mgr.system = sys
  execs : ExecsOk c s.host.trace

variable {c : Nat} {sys : Platform}

theorem jobsOk_setKey {kvs : List (String × Json)} {key : String} (v : Json)
    (hk : key ≠ "parallel_jobs") (h : JobsOk c (.dict kvs)) : JobsOk c (.dict (setKey kvs key v)) := by
  intro p hp
  rw [field?_dict, lookup_setKey_ne _ _ hk] at hp
  exact h p hp

/-- The default entry of each platform starts with `min c 16` or `min c 8` jobs. -/
theorem defaultConfigs_entryOk (hc : 1 ≤ c) : EntryOk c sys (defaultConfigs c) := by
  intro e he
  simp only [defaultConfigs, field?_dict, lookup_cons, lookup_nil] at he
  split_ifs at he <;> cases he <;> intro p hp <;> simp [lookup_cons] at hp <;> subst hp <;>
    simp only [JobsInRange] <;> omega

theorem keeps_emit {e : Effect} (h : ∀ cmd, e = .exec .build cmd → ParallelOk c cmd) :
    Keeps (Inv c sys) (emit e) := by
  intro s hs
  refine ⟨hs.store, hs.loaded, hs.config, hs.system, fun cmd hm => ?_⟩
  rcases List.mem_append.1 hm with hm | hm
  · exact hs.execs cmd hm
  · exact h cmd (List.mem_singleton.1 hm).symm

theorem keeps_setConfigItem {key : String} (hk : key ≠ "parallel_jobs") (v : Json) :
    Keeps (Inv c sys) (setConfigItem key v) := by
  intro s hs
  rw [setConfigItem_run]
  cases hc : s.mgr.config with
  | dict kvs => exact ⟨hs.store, hs.loaded, jobsOk_setKey v hk (hc ▸ hs.config), hs.system, hs.execs⟩
  | _ => exact hs

theorem keeps_setConfig {cfg : Json} (h : JobsOk c cfg) : Keeps (Inv c sys) (setConfig cfg) :=
  fun _ hs => ⟨hs.store, hs.loaded, h, hs.system, hs.execs⟩

theorem detectStable : DetectStable (Inv c sys) where
  spawn _ := keeps_emit nofun
  set _ hk v := keeps_setConfigItem (ne_parallelJobs_of_mem_detectionKeys hk) v

theorem keeps_detectEnvironment (hc : 1 ≤ c) (w : World) (hw : w.cpuCount = c) :
    Keeps (Inv c sys) (detectEnvironment w) := by
  refine .bind (Keeps.bind_yields Yields.get fun s0 hs0 => ?_) fun _ => detectPlatform_keeps detectStable w
  dsimp only
  split
  · rename_i kvs hkvs
    refine Keeps.bind_yields (Yields.liftE _) fun d hd => keeps_setConfig ?_
    rw [hs0.system] at hd ⊢
    cases he : lookup kvs sys.key with
    | some e => exact hs0.loaded e (by rw [hkvs, field?_dict, he])
    | none =>
      subst hw
      exact defaultConfigs_entryOk hc d (by unfold defaultConfigs at hd ⊢; exact getItem_dict_ok.1 hd)
  · exact .throw _

theorem keeps_setBuildHistory (h : Json) : Keeps (Inv c sys) (setBuildHistory h) :=
  fun _ hs => ⟨hs.store, hs.loaded, hs.config, hs.system, hs.execs⟩

theorem keeps_saveHistory : Keeps (Inv c sys) saveHistory :=
  fun _ hs => ⟨hs.store, hs.loaded, hs.config, hs.system, hs.execs⟩

theorem keeps_setOptimizations {o : Json} (h : EntryOk c sys o) :
    Keeps (Inv c sys) (setOptimizations o) :=
  fun _ hs => ⟨hs.store, h, hs.config, hs.system, hs.execs⟩

theorem keeps_saveOptimizations : Keeps (Inv c sys) saveOptimizations :=
  fun _ hs => ⟨hs.loaded, hs.loaded, hs.config, hs.system, hs.execs⟩

theorem keeps_loadState (hc : 1 ≤ c) (w : World) (hw : w.cpuCount = c) :
    Keeps (Inv c sys) (loadState w) :=
  .bind .get fun _ => .bind (keeps_emit nofun) fun _ => .bind (keeps_emit nofun) fun _ =>
    .bind .get fun _ => .bind (loadJson_yields (fun _ => keeps_emit nofun) _ _ _).keeps fun _ =>
    .bind (keeps_setBuildHistory _) fun _ => Keeps.bind_yields Yields.get fun s hs =>
    Keeps.bind_yields (loadJson_yields (fun _ => keeps_emit nofun) _ _ _) fun o ho =>
    keeps_setOptimizations (by
      have h := hs.store
      subst ho hw
      revert h
      cases s.host.optimizations with
      | doc v => exact id
      | _ => exact fun _ => defaultConfigs_entryOk hc)

theorem keeps_init (hc : 1 ≤ c) (w : World) (hw : w.cpuCount = c) : Keeps (Inv c sys) (init w) :=
  .bind (keeps_loadState hc w hw) fun _ => keeps_detectEnvironment hc w hw

theorem keeps_execute (w : World) {phase : Phase} {cmd : List String}
    (h : phase = .build → ParallelOk c cmd) : Keeps (Inv c sys) (execute w phase cmd) :=
  execute_keeps ⟨keeps_emit fun _ he => by cases he; exact h rfl, fun _ => keeps_emit nofun,
    fun _ _ => keeps_emit nofun, fun _ => keeps_emit nofun⟩ w

theorem keeps_recordAttempt (w : World) (phase : Phase) (type : String) (cmd : List String)
    (code : Int) : Keeps (Inv c sys) (recordAttempt w phase type cmd code) :=
  .bind .get fun _ => .bind (.liftE _) fun _ => .bind (keeps_setBuildHistory _) fun _ =>
    keeps_saveHistory

theorem keeps_runRecorded (w : World) (phase : Phase) {type : String} {cmd : List String}
    (h : phase = .build → ParallelOk c cmd) (banner : String) :
    Yields (Inv c sys) (runRecorded w phase type banner cmd) (exitsWith w phase) :=
  runRecorded_yields ⟨keeps_emit fun _ he => by cases he; exact h rfl, fun _ => keeps_emit nofun,
    fun _ _ => keeps_emit nofun, fun _ => keeps_emit nofun⟩ (fun _ => keeps_emit nofun)
    (fun _ => keeps_recordAttempt _ _ _ _ _) banner

theorem keeps_configure (w : World) : Keeps (Inv c sys) (configure w) :=
  .bind .get fun _ => .bind (.liftE _) fun _ => .bind (.liftE _) fun _ =>
    .bind (keeps_runRecorded w .configure nofun _).keeps fun _ => .pure _

/-- Under `JobsOk`, the build command passes a job count in range. -/
theorem generateBuildCommand_parallelOk (hc : 1 ≤ c) {m : BuildManager} {cmd : List String}
    (hj : JobsOk c m.config) (h : generateBuildCommand m c = .ok cmd) : ParallelOk c cmd := by
  simp only [generateBuildCommand, bind, Except.bind] at h
  split at h
  · cases h
  · rename_i jobs hjobs
    obtain ⟨kvs, hkvs, rfl⟩ := get_ok hjobs
    split at h
    · cases h
    · cases h
      have hr : JobsInRange c ((lookup kvs "parallel_jobs").getD (.int c)) := by
        cases hl : lookup kvs "parallel_jobs" with
        | none => simp only [Option.getD_none, JobsInRange]; omega
        | some p => exact hj p (by rw [hkvs, field?_dict, hl])
      revert hr
      generalize (lookup kvs "parallel_jobs").getD (.int c) = p
      cases p <;> simp only [JobsInRange, ParallelOk, pyStr, Json.repr, List.cons_append, false_imp_iff]
      exact fun h => ⟨_, rfl, h⟩

theorem yields_jobs : Yields (Inv c sys) (configItem "parallel_jobs") (JobsInRange c) := by
  intro s hs
  rw [configItem_run]
  cases h : s.mgr.config.getItem "parallel_jobs" with
  | ok p => exact ⟨hs, hs.config p (getItem_ok h)⟩
  | error e => exact hs

theorem keeps_setJobs {v : Json} (h : JobsInRange c v) :
    Keeps (Inv c sys) (setConfigItem "parallel_jobs" v) := by
  intro s hs
  rw [setConfigItem_run]
  cases hc : s.mgr.config with
  | dict kvs =>
    refine ⟨hs.store, hs.loaded, fun p hp => ?_, hs.system, hs.execs⟩
    simp only [setItem_dict, finalState_ok, Proc.withConfig_config, field?_dict,
      lookup_setKey_self, Option.some.injEq] at hp
    exact hp ▸ h
  | _ => exact hs

/-- Two job counts that are equal, or integers at most one apart. -/
def JobsNear (a b : Option Json) : Prop :=
  a = b ∨ ∃ m n : Int, a = some (.int m) ∧ b = some (.int n) ∧ m ≤ n + 1 ∧ n ≤ m + 1

/-- `min(p + 1, 2c)` from a job count in range is in range and one step away. -/
theorem raise_step {p r m : Json} (hp : JobsInRange c p) (hr : p.add (.int 1) = .ok r)
    (hm : r.min (.int (c * 2)) = .ok m) : JobsInRange c m ∧ JobsNear (some p) (some m) := by
  cases p with
  | int n =>
    simp only [add_int, Except.ok.injEq] at hr
    subst hr
    simp only [min_int, Except.ok.injEq] at hm
    subst hm
    simp only [JobsInRange] at hp ⊢
    exact ⟨by omega, .inr ⟨_, _, rfl, rfl, by omega, by omega⟩⟩
  | _ => exact hp.elim

/-- `max(p - 1, 1)` from a job count in range is in range and one step away. -/
theorem lower_step {p r m : Json} (hp : JobsInRange c p) (hr : p.sub (.int 1) = .ok r)
    (hm : r.max (.int 1) = .ok m) : JobsInRange c m ∧ JobsNear (some p) (some m) := by
  cases p with
  | int n =>
    simp only [sub_int, Except.ok.injEq] at hr
    subst hr
    simp only [max_int, Except.ok.injEq] at hm
    subst hm
    simp only [JobsInRange] at hp ⊢
    exact ⟨by omega, .inr ⟨_, _, rfl, rfl, by omega, by omega⟩⟩
  | _ => exact hp.elim

theorem keeps_raiseJobs (w : World) (hw : w.cpuCount = c) : Keeps (Inv c sys) (raiseJobs w) :=
  Keeps.bind_yields yields_jobs fun _ hp => Keeps.bind_yields (Yields.liftE _) fun _ hr =>
    Keeps.bind_yields (Yields.liftE _) fun _ hm => keeps_setJobs (raise_step hp hr (hw ▸ hm)).1

theorem keeps_lowerJobs : Keeps (Inv c sys) lowerJobs :=
  Keeps.bind_yields yields_jobs fun _ hp => Keeps.bind_yields (Yields.liftE _) fun _ hr =>
    Keeps.bind_yields (Yields.liftE _) fun _ hm => keeps_setJobs (lower_step hp hr hm).1

theorem keeps_adjustParallelJobs (w : World) (hw : w.cpuCount = c) (last : Json) (avg : ℚ) :
    Keeps (Inv c sys) (adjustParallelJobs w last avg) :=
  .bind (.liftE _) fun _ => .ite (keeps_raiseJobs w hw) (.bind (.liftE _) fun _ =>
    .ite (.bind (.configItem _) fun _ => .bind (.liftE _) fun _ => .ite keeps_lowerJobs (.pure _))
      (.pure _))

/-- Saving `self.config` as the platform's entry gives an `EntryOk` document. -/
theorem keeps_storeConfig : Keeps (Inv c sys) storeConfig :=
  Keeps.bind_yields Yields.get fun s hs => Keeps.bind_yields (Yields.liftE _) fun o ho =>
    .bind (keeps_setOptimizations (by
      obtain ⟨kvs, -, rfl⟩ := setItem_ok ho
      intro e he
      rw [field?_dict, ← hs.system, lookup_setKey_self, Option.some.injEq] at he
      exact he ▸ hs.config)) fun _ => keeps_saveOptimizations

theorem keeps_analyzeAndOptimize (w : World) (hw : w.cpuCount = c) :
    Keeps (Inv c sys) (analyzeAndOptimize w) :=
  .bind .get fun _ => .bind (.liftE _) fun _ => .bind (.liftE _) fun _ =>
    .ite (.pure _) (.bind (.liftE _) fun _ =>
      .bind (.ite (.bind (.liftE _) fun _ => keeps_adjustParallelJobs w hw _ _) (.pure _)) fun _ =>
        keeps_storeConfig)

theorem keeps_build (hc : 1 ≤ c) (w : World) (hw : w.cpuCount = c) : Keeps (Inv c sys) (build w) :=
  Keeps.bind_yields Yields.get fun _ hs => Keeps.bind_yields (Yields.liftE _) fun _ hcmd =>
    .bind (keeps_runRecorded w .build (fun _ => generateBuildCommand_parallelOk hc hs.config (hw ▸ hcmd)) _).keeps
      fun _ => .ite (.bind (keeps_analyzeAndOptimize w hw) fun _ => .pure _) (.pure _)

theorem keeps_clean (w : World) : Keeps (Inv c sys) (clean w) :=
  .bind .get fun _ =>
    .ite (.ite (.bind (keeps_execute w nofun) fun _ => .pure _) (keeps_emit nofun)) (.pure _)

theorem keeps_generateMakefile : Keeps (Inv c sys) generateMakefile :=
  .bind .get fun _ => .bind (keeps_emit nofun) fun _ => keeps_emit nofun

theorem keeps_generateVscodeIntegration : Keeps (Inv c sys) generateVscodeIntegration :=
  .bind .get fun _ => .bind (keeps_emit nofun) fun _ => keeps_emit nofun

theorem keeps_runCommand (hc : 1 ≤ c) (w : World) (hw : w.cpuCount = c) (cmd : String) :
    Keeps (Inv c sys) (runCommand w cmd) :=
  .ite (keeps_configure w) <| .ite (.bind (keeps_configure w) fun _ => .ite (keeps_build hc w hw) (.pure _)) <|
    .ite (.bind (keeps_clean w) fun _ => .pure _) <|
    .ite (.bind keeps_generateMakefile fun _ => .pure _) <|
    .ite (.bind keeps_generateVscodeIntegration fun _ => .pure _) <|
    .bind (keeps_emit nofun) fun _ => .pure _

theorem keeps_mainBody (hc : 1 ≤ c) (w : World) (hw : w.cpuCount = c) (args : List String) :
    Keeps (Inv c sys) (mainBody w args) := by
  refine .bind (keeps_init hc w hw) fun _ => ?_
  split
  · exact .bind (keeps_emit nofun) fun _ => .pure _
  · exact .bind (keeps_runCommand hc w hw _) fun _ => .pure _

/-- The manager object before `__init__` has set its attributes. -/
theorem inv_fresh (root : String) {host : Host} (hs : StoreOk c sys host.optimizations)
    (hx : ExecsOk c host.trace) : Inv c sys { host, mgr := BuildManager.fresh root sys } :=
  ⟨hs, (fun _ h => nomatch h), (fun _ h => nomatch h), rfl, hx⟩

/-- One run of `main` from state files with the jobs in range leaves them so. -/
theorem inv_main (hc : 1 ≤ c) (w : World) (hw : w.cpuCount = c) (args : List String) (host : Host)
    (hs : StoreOk c sys host.optimizations) (hx : ExecsOk c host.trace) :
    Inv c sys (finalState (main w sys args host)) :=
  keeps_mainBody hc w hw args _ (inv_fresh _ hs hx)

end DrogonBuild.Manager.Jobs
