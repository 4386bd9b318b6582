import DrogonBuild.Manager.Jobs

/-!
# The job count moves only after a successful build, by at most one

A run starts from the job count of the platform's entry in
`build_optimizations.json`, or of the default entry when the file or the entry
is missing. Only `_analyze_and_optimize` writes the file, it runs only after a
build that exited 0, and between loading the configuration and saving it the
trend rule takes one step clamped to `[1, 2c]`. With the invariant of `Jobs`
this holds of every run of a session, whatever the verbs, the exit codes and
the clock.
-/

namespace DrogonBuild.Manager.Tuning

open Json Jobs

/-- The job count a run on `sys` starts from when the optimizations file holds
`st`: that of the platform's entry, or of its default entry. -/
def effectiveJobs (c : Nat) (sys : Platform) (st : Stored) : Option Json :=
  match st.loaded (defaultConfigs c) with
  | .dict kvs =>
    ((lookup kvs sys.key).getD (((defaultConfigs c).field? sys.key).getD .null)).field? "parallel_jobs"
  | _ => none

/-- A run between loading its configuration and analysing a build: the file as
the run found it, and `self.config` with the job count the run started from. -/
structure Pinned (c : Nat) (sys : Platform) (st : Stored) (s : Proc) : Prop where
  file : s.host.optimizations = st
  jobs : s.mgr.config.field? "parallel_jobs" = effectiveJobs c sys st

/-- Inside `_analyze_and_optimize`: the file as found, the job count in memory
at most one step from the starting one. -/
structure Adjusted (c : Nat) (sys : Platform) (st : Stored) (s : Proc) : Prop where
  inv : Inv c sys s
  file : s.host.optimizations = st
  near : JobsNear (effectiveJobs c sys st) (s.mgr.config.field? "parallel_jobs")

/-- How a run that found the file `st` may leave it as `st'`: unchanged, or, when
`good`, with a job count at most one step from the one the run started from. -/
def Settled (c : Nat) (sys : Platform) (good : Prop) (st st' : Stored) : Prop :=
  st' = st ∨ good ∧ JobsNear (effectiveJobs c sys st) (effectiveJobs c sys st')

variable {c : Nat} {sys : Platform} {st : Stored} {good : Prop}

theorem settled_of_pinned (s : Proc) (h : Inv c sys s ∧ Pinned c sys st s) :
    Settled c sys good st s.host.optimizations :=
  .inl h.2.file

theorem pinned_recordStable : RecordStable (Pinned c sys st) :=
  ⟨fun _ _ h => ⟨h.1, h.2⟩, fun _ _ h => ⟨h.1, h.2⟩, fun _ h => ⟨h.1, h.2⟩⟩

theorem pinned_detectStable : DetectStable (Pinned c sys st) where
  spawn _ _ h := ⟨h.1, h.2⟩
  set key hk v s h := by
    rcases setConfigItem_final key v s with hs | ⟨kvs, hkvs, hs⟩
    · rw [hs]; exact h
    · rw [hs]
      refine ⟨h.file, ?_⟩
      rw [Proc.withConfig_config, field?_dict, lookup_setKey_ne _ _ (ne_parallelJobs_of_mem_detectionKeys hk),
        ← field?_dict, ← hkvs]
      exact h.jobs

/-! ## Constructing the manager pins the job count -/

theorem loadState_loaded (w : World) (hw : w.cpuCount = c) :
    Triple (fun s => s.host.optimizations = st ∧ s.mgr.system = sys) (loadState w)
      (fun _ s => s.host.optimizations = st ∧ s.mgr.system = sys ∧
        s.mgr.optimizations = st.loaded (defaultConfigs c))
      (fun s => s.host.optimizations = st) := by
  intro s ⟨hfile, hsys⟩
  rw [loadState_run]
  exact ⟨by simpa using hfile, by simpa using hsys, by simp [hfile, hw]⟩

theorem selectConfig_pinned (w : World) (hw : w.cpuCount = c) :
    Triple (fun s => s.host.optimizations = st ∧ s.mgr.system = sys ∧
        s.mgr.optimizations = st.loaded (defaultConfigs c)) (selectConfig w)
      (fun _ => Pinned c sys st) (fun s => s.host.optimizations = st) := by
  intro s ⟨hfile, hsys, hload⟩
  rw [selectConfig_run, hload, hsys, hw]
  cases hd : (defaultConfigs c).getItem sys.key with
  | ok d =>
    cases hk : st.loaded (defaultConfigs c) with
    | dict kvs => exact ⟨hfile, by simp [effectiveJobs, hk, getItem_ok hd]⟩
    | _ => exact hfile
  | error e => cases st.loaded (defaultConfigs c) <;> exact hfile

theorem init_pinned (w : World) (hw : w.cpuCount = c) :
    Triple (fun s => s.host.optimizations = st ∧ s.mgr.system = sys) (init w)
      (fun _ => Pinned c sys st) (fun s => s.host.optimizations = st) :=
  .bind (loadState_loaded w hw) fun _ => .bind (selectConfig_pinned w hw) fun _ =>
    .of_keeps (detectPlatform_keeps pinned_detectStable w) fun _ h => h.file

/-! ## `_analyze_and_optimize` takes one step -/

theorem yields_pinnedJobs :
    Yields (fun s => Inv c sys s ∧ Pinned c sys st s) (configItem "parallel_jobs")
      (fun p => JobsInRange c p ∧ effectiveJobs c sys st = some p) := by
  intro s ⟨hi, hp⟩
  rw [configItem_run]
  cases h : s.mgr.config.getItem "parallel_jobs" with
  | ok p => exact ⟨⟨hi, hp⟩, hi.config p (getItem_ok h), hp.jobs ▸ getItem_ok h⟩
  | error e => exact ⟨hi, hp⟩

theorem setJobs_adjusted {v : Json} (hr : JobsInRange c v)
    (hn : JobsNear (effectiveJobs c sys st) (some v)) :
    Triple (fun s => Inv c sys s ∧ Pinned c sys st s) (setConfigItem "parallel_jobs" v)
      (fun _ => Adjusted c sys st) (fun s => Settled c sys good st s.host.optimizations) := by
  intro s ⟨hi, hp⟩
  have hk := keeps_setJobs hr s hi
  rw [setConfigItem_run] at hk ⊢
  cases hc : s.mgr.config.setItem "parallel_jobs" v with
  | ok cfg =>
    rw [hc] at hk
    obtain ⟨kvs, -, rfl⟩ := setItem_ok hc
    exact ⟨hk, hp.file, by simpa [lookup_setKey_self] using hn⟩
  | error e => exact .inl hp.file

theorem raiseJobs_adjusted (w : World) (hw : w.cpuCount = c) :
    Triple (fun s => Inv c sys s ∧ Pinned c sys st s) (raiseJobs w)
      (fun _ => Adjusted c sys st) (fun s => Settled c sys good st s.host.optimizations) :=
  .bind_yields yields_pinnedJobs (fun _ ⟨hp, he⟩ => .bind_yields (Yields.liftE _) (fun _ hr =>
    .bind_yields (Yields.liftE _) (fun _ hm =>
      have h := raise_step hp hr (hw ▸ hm)
      setJobs_adjusted h.1 (he ▸ h.2)) settled_of_pinned) settled_of_pinned) settled_of_pinned

theorem lowerJobs_adjusted :
    Triple (fun s => Inv c sys s ∧ Pinned c sys st s) lowerJobs
      (fun _ => Adjusted c sys st) (fun s => Settled c sys good st s.host.optimizations) :=
  .bind_yields yields_pinnedJobs (fun _ ⟨hp, he⟩ => .bind_yields (Yields.liftE _) (fun _ hr =>
    .bind_yields (Yields.liftE _) (fun _ hm =>
      have h := lower_step hp hr hm
      setJobs_adjusted h.1 (he ▸ h.2)) settled_of_pinned) settled_of_pinned) settled_of_pinned

theorem adjusted_of_pinned (s : Proc) (h : Inv c sys s ∧ Pinned c sys st s) : Adjusted c sys st s :=
  ⟨h.1, h.2.file, .inl h.2.jobs.symm⟩

theorem adjustOnTrend_adjusted (w : World) (hw : w.cpuCount = c) (builds : List Json) (total : Json) :
    Triple (fun s => Inv c sys s ∧ Pinned c sys st s) (adjustOnTrend w builds total)
      (fun _ => Adjusted c sys st) (fun s => Settled c sys good st s.host.optimizations) :=
  .ite (fun _ => .bind (.of_keeps (.liftE _) settled_of_pinned) fun _ =>
    .bind (.of_keeps (.liftE _) settled_of_pinned) fun _ => .ite (fun _ => raiseJobs_adjusted w hw)
      fun _ => .bind (.of_keeps (.liftE _) settled_of_pinned) fun _ =>
        .ite (fun _ => .bind (.of_keeps (.configItem _) settled_of_pinned) fun _ =>
          .bind (.of_keeps (.liftE _) settled_of_pinned) fun _ =>
            .ite (fun _ => lowerJobs_adjusted) fun _ => .pure _ adjusted_of_pinned)
        fun _ => .pure _ adjusted_of_pinned)
    fun _ => .pure _ adjusted_of_pinned

theorem storeConfig_settled (hg : good) :
    Triple (Adjusted c sys st) storeConfig (fun _ s => Settled c sys good st s.host.optimizations)
      (fun s => Settled c sys good st s.host.optimizations) := by
  intro s h
  rw [storeConfig_run]
  cases ho : s.mgr.optimizations.setItem s.mgr.system.key s.mgr.config with
  | ok o =>
    obtain ⟨kvs, -, rfl⟩ := setItem_ok ho
    refine .inr ⟨hg, ?_⟩
    simpa [Proc.saveOptimizations, effectiveJobs, Stored.loaded, ← h.inv.system, lookup_setKey_self]
      using h.near
  | error e => exact .inl h.file

theorem analyzeAndOptimize_settled (w : World) (hw : w.cpuCount = c) (hg : good) :
    Triple (fun s => Inv c sys s ∧ Pinned c sys st s) (analyzeAndOptimize w)
      (fun _ s => Settled c sys good st s.host.optimizations)
      (fun s => Settled c sys good st s.host.optimizations) :=
  .bind (.of_keeps .get settled_of_pinned) fun _ => .bind (.of_keeps (.liftE _) settled_of_pinned) fun _ =>
    .bind (.of_keeps (.liftE _) settled_of_pinned) fun _ =>
    .ite (fun _ => .pure _ settled_of_pinned) fun _ => .bind (.of_keeps (.liftE _) settled_of_pinned)
      fun _ => .bind (adjustOnTrend_adjusted w hw _ _) fun _ => storeConfig_settled hg

/-! ## A whole run -/

theorem keeps_pinned_inv {α : Type} {x : Step α} (hi : Keeps (Inv c sys) x) (hp : Keeps (Pinned c sys st) x) :
    Triple (fun s => Inv c sys s ∧ Pinned c sys st s) x (fun _ s => Settled c sys good st s.host.optimizations)
      (fun s => Settled c sys good st s.host.optimizations) :=
  (Triple.of_keeps (hi.and hp) settled_of_pinned).conseq (fun _ h => h) (fun _ => settled_of_pinned)
    fun _ h => h

theorem build_settled (hc : 1 ≤ c) (w : World) (hw : w.cpuCount = c) (hg : exitsWith w .build 0 → good) :
    Triple (fun s => Inv c sys s ∧ Pinned c sys st s) (build w)
      (fun _ s => Settled c sys good st s.host.optimizations)
      (fun s => Settled c sys good st s.host.optimizations) :=
  .bind_yields Yields.get (fun _ hs => .bind_yields (Yields.liftE _) (fun _ hcmd =>
    .bind_yields ((keeps_runRecorded w .build
        (fun _ => generateBuildCommand_parallelOk hc hs.1.config (hw ▸ hcmd)) _).and_keeps
        (runRecorded_keeps pinned_recordStable w _ _ _ _)) (fun _ hcode =>
      .ite (fun h0 => .bind (analyzeAndOptimize_settled w hw (hg (beq_iff_eq.mp h0 ▸ hcode)))
          fun _ => .pure _ fun _ h => h)
        fun _ => .pure _ settled_of_pinned) settled_of_pinned) settled_of_pinned) settled_of_pinned

theorem runCommand_settled (hc : 1 ≤ c) (w : World) (hw : w.cpuCount = c) (cmd : String)
    (hg : cmd = "build" → exitsWith w .build 0 → good) :
    Triple (fun s => Inv c sys s ∧ Pinned c sys st s) (runCommand w cmd)
      (fun _ s => Settled c sys good st s.host.optimizations)
      (fun s => Settled c sys good st s.host.optimizations) := by
  have hconf : Keeps (fun s => Inv c sys s ∧ Pinned c sys st s) (configure w) :=
    (keeps_configure w).and (configure_keeps pinned_recordStable w)
  refine .ite (fun _ => keeps_pinned_inv (keeps_configure w) (configure_keeps pinned_recordStable w)) fun _ => .ite (fun hb => ?_) fun _ =>
    .ite (fun _ => ?_) fun _ => .ite (fun _ => ?_) fun _ => .ite (fun _ => ?_) fun _ => ?_
  · exact .bind (.of_keeps hconf settled_of_pinned) fun _ =>
      .ite (fun _ => build_settled hc w hw (hg hb)) fun _ => .pure _ settled_of_pinned
  · exact keeps_pinned_inv (.bind (keeps_clean w) fun _ => .pure _)
      (.bind (clean_keeps pinned_recordStable.emit w) fun _ => .pure _)
  · exact keeps_pinned_inv (.bind keeps_generateMakefile fun _ => .pure _)
      (.bind (generateMakefile_keeps pinned_recordStable.emit) fun _ => .pure _)
  · exact keeps_pinned_inv (.bind keeps_generateVscodeIntegration fun _ => .pure _)
      (.bind (generateVscodeIntegration_keeps pinned_recordStable.emit) fun _ => .pure _)
  · exact keeps_pinned_inv (.bind (keeps_emit nofun) fun _ => .pure _)
      (.bind (pinned_recordStable.emit _) fun _ => .pure _)

theorem mainBody_settled (hc : 1 ≤ c) (w : World) (hw : w.cpuCount = c) (args : List String) :
    Triple (fun s => Inv c sys s ∧ s.host.optimizations = st) (mainBody w args)
      (fun _ s => Settled c sys (args.head? = some "build" ∧ exitsWith w .build 0) st s.host.optimizations)
      (fun s => Settled c sys (args.head? = some "build" ∧ exitsWith w .build 0) st s.host.optimizations) := by
  refine .bind ((Triple.and_keeps (init_pinned w hw) (keeps_init hc w hw)).conseq
    (fun _ h => ⟨h.1, h.2, h.1.system⟩) (fun _ _ h => h) fun _ h => .inl h.2) fun _ => ?_
  split
  · exact keeps_pinned_inv (.bind (keeps_emit nofun) fun _ => .pure _)
      (.bind (pinned_recordStable.emit _) fun _ => .pure _)
  · exact .bind (runCommand_settled hc w hw _ fun h hb => ⟨by simp [h], hb⟩) fun _ => .pure _ fun _ h => h

/-! ## Sessions -/

/-- The hosts a session on `sys` with `c` cores reaches from the state files
`history` and `optimizations`, each run loading what the previous one saved. -/
inductive Reachable (c : Nat) (sys : Platform) (history optimizations : Stored) : Host → Prop
  | start : Reachable c sys history optimizations ⟨history, optimizations, []⟩
  | run {host : Host} (w : World) (args : List String) : w.cpuCount = c →
      Reachable c sys history optimizations host →
      Reachable c sys history optimizations (finalState (main w sys args host)).host

theorem reachable_inv (hc : 1 ≤ c) {history optimizations : Stored} (h0 : StoreOk c sys optimizations)
    {host : Host} (hr : Reachable c sys history optimizations host) :
    StoreOk c sys host.optimizations ∧ ExecsOk c host.trace := by
  induction hr with
  | start => exact ⟨h0, fun _ h => nomatch h⟩
  | run w args hw _ ih =>
    have h := inv_main hc w hw args _ ih.1 ih.2
    exact ⟨h.store, h.execs⟩

/-- Along a session, the saved job count and every `--parallel` value stay in
`[1, 2c]`; a run changes the file only when its verb is `build` and the build
exited 0, and then moves the job count by at most one. -/
theorem session_parallel_jobs (hc : 1 ≤ c) {history optimizations : Stored}
    (h0 : StoreOk c sys optimizations) {host : Host} (hr : Reachable c sys history optimizations host)
    (w : World) (hw : w.cpuCount = c) (args : List String) :
    StoreOk c sys (finalState (main w sys args host)).host.optimizations ∧
      ExecsOk c (finalState (main w sys args host)).host.trace ∧
      Settled c sys (args.head? = some "build" ∧ exitsWith w .build 0) host.optimizations
        (finalState (main w sys args host)).host.optimizations := by
  obtain ⟨hs, hx⟩ := reachable_inv hc h0 hr
  have hi := inv_main hc w hw args host hs hx
  exact ⟨hi.store, hi.execs, (mainBody_settled hc w hw args).final _ ⟨inv_fresh _ hs hx, rfl⟩⟩

theorem session_parallel_jobs_first_build :
    1 ≤ 4 ∧ StoreOk 4 .linux .absent ∧ Reachable 4 .linux .absent .absent ⟨.absent, .absent, []⟩ ∧
      StoreOk 4 .linux
        (finalState (main ⟨4, "", "/work", "", fun _ => .missing, fun _ => false, fun _ => .exited 0 "",
          fun _ => (0, 1), fun _ => ""⟩ .linux ["build"] ⟨.absent, .absent, []⟩)).host.optimizations :=
  ⟨by decide, trivial, .start, (session_parallel_jobs (by decide : 1 ≤ 4) (show StoreOk 4 .linux .absent from trivial)
    (.start : Reachable 4 .linux .absent .absent _) _ rfl ["build"]).1⟩

end DrogonBuild.Manager.Tuning
