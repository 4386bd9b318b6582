import DrogonBuild.Manager.Execute

/-!
# What a session does to the two state files

`build_history.json` is written only by `configure` and `build`, each appending
one record to the list it loaded; `build_optimizations.json` only by
`_analyze_and_optimize`, which sets the running platform's entry of the dict it
loaded. So over any session on one machine the history a run loads is the one
the first run loaded followed by attempt records, and every entry of the
optimizations but the platform's own is the one the first run loaded: whatever
the verbs, the tools and the exit codes, and whether the runs return or raise.

Both facts are instances of one frame: a predicate that loading establishes and
that every statement after it keeps (`WriteStable`) holds when the run ends.
-/

namespace DrogonBuild.Manager.Store

open Json

/-- A predicate kept by every statement a run executes once the state files are
loaded: the effects, setting `self.config`, appending an attempt record and
storing the platform's entry. -/
structure WriteStable (P : Proc → Prop) : Prop where
  emit : ∀ e, Keeps P (emit e)
  config : ∀ c, Keeps P (setConfig c)
  record : ∀ w phase type cmd code, type = "configure" ∨ type = "build" →
    Keeps P (recordAttempt w phase type cmd code)
  store : Keeps P storeConfig

/-- Loading never raises, so it establishes what it establishes on the state it returns. -/
theorem loadState_establishes {B P E : Proc → Prop} (w : World)
    (hl : ∀ s, B s → P (s.afterLoad w.cpuCount)) : Triple B (loadState w) (fun _ => P) E :=
  fun s hs => by rw [loadState_run]; exact hl s hs

section
variable {P : Proc → Prop} (h : WriteStable P) (w : World)
include h

theorem WriteStable.setConfigItem (key : String) (v : Json) : Keeps P (Manager.setConfigItem key v) :=
  .bind .getConfig fun _ => .bind (.liftE _) fun _ => h.config _

theorem WriteStable.execStable (phase : Phase) (cmd : List String) : ExecStable P phase cmd :=
  ⟨h.emit _, fun _ => h.emit _, fun _ _ => h.emit _, fun _ => h.emit _⟩

theorem WriteStable.detectEnvironment : Keeps P (Manager.detectEnvironment w) := by
  refine .bind (.bind .get fun _ => ?_) fun _ =>
    detectPlatform_keeps ⟨fun _ => h.emit _, fun k _ => h.setConfigItem k⟩ w
  dsimp only
  split
  · exact .bind (.liftE _) fun _ => h.config _
  · exact .throw _

theorem WriteStable.runRecorded {phase : Phase} {type : String} (ht : type = "configure" ∨ type = "build")
    (banner : String) (cmd : List String) : Keeps P (Manager.runRecorded w phase type banner cmd) :=
  (runRecorded_yields (h.execStable _ _) (fun _ => h.emit _) (fun _ => h.record _ _ _ _ _ ht) _).keeps

theorem WriteStable.configure : Keeps P (Manager.configure w) :=
  .bind .get fun _ => .bind (.liftE _) fun _ => .bind (.liftE _) fun _ =>
    .bind (h.runRecorded w (.inl rfl) _ _) fun _ => .pure _

theorem WriteStable.adjustParallelJobs (last : Json) (avg : ℚ) :
    Keeps P (Manager.adjustParallelJobs w last avg) :=
  .bind (.liftE _) fun _ => .ite
    (.bind (.configItem _) fun _ => .bind (.liftE _) fun _ => .bind (.liftE _) fun _ => h.setConfigItem _ _)
    (.bind (.liftE _) fun _ => .ite (.bind (.configItem _) fun _ => .bind (.liftE _) fun _ =>
      .ite (.bind (.configItem _) fun _ => .bind (.liftE _) fun _ => .bind (.liftE _) fun _ =>
        h.setConfigItem _ _) (.pure _)) (.pure _))

theorem WriteStable.analyzeAndOptimize : Keeps P (Manager.analyzeAndOptimize w) :=
  .bind .get fun _ => .bind (.liftE _) fun _ => .bind (.liftE _) fun _ =>
    .ite (.pure _) (.bind (.liftE _) fun _ =>
      .bind (.ite (.bind (.liftE _) fun _ => h.adjustParallelJobs w _ _) (.pure _)) fun _ => h.store)

theorem WriteStable.build : Keeps P (Manager.build w) :=
  .bind .get fun _ => .bind (.liftE _) fun _ => .bind (h.runRecorded w (.inr rfl) _ _) fun _ =>
    .ite (.bind (h.analyzeAndOptimize w) fun _ => .pure _) (.pure _)

theorem WriteStable.runCommand (cmd : String) : Keeps P (Manager.runCommand w cmd) :=
  .ite (h.configure w) <| .ite (.bind (h.configure w) fun _ => .ite (h.build w) (.pure _)) <|
    .ite (.bind (clean_keeps h.emit w) fun _ => .pure _) <|
    .ite (.bind (generateMakefile_keeps h.emit) fun _ => .pure _) <|
    .ite (.bind (generateVscodeIntegration_keeps h.emit) fun _ => .pure _) <|
    .bind (h.emit _) fun _ => .pure _

/-- What loading establishes from `B` holds when the run ends, whether it returns or raises. -/
theorem WriteStable.mainBody {B : Proc → Prop} (hl : ∀ s, B s → P (s.afterLoad w.cpuCount))
    (args : List String) : Triple B (Manager.mainBody w args) (fun _ => P) P := by
  refine .bind (.bind (loadState_establishes w hl) fun _ => .of_keeps (h.detectEnvironment w) fun _ => id)
    fun _ => ?_
  split
  · exact .of_keeps (.bind (h.emit _) fun _ => .pure _) fun _ => id
  · exact .of_keeps (.bind (h.runCommand w _) fun _ => .pure _) fun _ => id

end

/-! ## The history only grows, by attempt records -/

/-- A record `configure` or `build` appends: `attemptRecord` of its type. -/
def Attempted (r : Json) : Prop :=
  ∃ stamp type cmd code clock, (type = "configure" ∨ type = "build") ∧ r = attemptRecord stamp type cmd code clock

/-- `hist'` is `hist` followed by attempt records. -/
def Appended (hist hist' : List Json) : Prop := ∃ rs, hist' = hist ++ rs ∧ ∀ r ∈ rs, Attempted r

theorem Appended.refl (hist : List Json) : Appended hist hist := ⟨[], (List.append_nil _).symm, nofun⟩

theorem Appended.trans {a b c : List Json} (hab : Appended a b) (hbc : Appended b c) : Appended a c := by
  obtain ⟨rs, rfl, hrs⟩ := hab
  obtain ⟨rs', rfl, hrs'⟩ := hbc
  refine ⟨rs ++ rs', List.append_assoc _ _ _, fun r hr => ?_⟩
  rcases List.mem_append.1 hr with hr | hr
  exacts [hrs r hr, hrs' r hr]

theorem Appended.snoc {a b : List Json} {r : Json} (h : Appended a b) (hr : Attempted r) :
    Appended a (b ++ [r]) :=
  h.trans ⟨[r], rfl, fun _ h => List.mem_singleton.1 h ▸ hr⟩

/-- The history file loads as `hist` followed by attempt records. -/
def HistoryFrom (hist : List Json) (file : Stored) : Prop :=
  ∃ h, file.loaded (.list []) = .list h ∧ Appended hist h

/-- A run after loading: the file extends `hist`, and the list in memory extends the file. -/
def Grown (hist : List Json) (s : Proc) : Prop :=
  ∃ hf hm, s.host.history.loaded (.list []) = .list hf ∧ s.mgr.buildHistory = .list hm ∧
    Appended hist hf ∧ Appended hf hm

theorem grown_writeStable (hist : List Json) : WriteStable (Grown hist) where
  emit _ _ hs := hs
  config _ _ hs := hs
  record w phase type cmd code ht s := fun ⟨_, hm, _, hmem, hh, hfm⟩ => by
    rw [recordAttempt_run w phase type cmd code s hmem]
    exact ⟨_, _, rfl, rfl, (hh.trans hfm).snoc ⟨_, _, _, _, _, ht, rfl⟩, .refl _⟩
  store s hs := by
    rw [storeConfig_run]
    split <;> exact hs

/-- One run of `main` keeps the history file an extension of `hist` by attempt records. -/
theorem main_historyFrom (w : World) (system : Platform) (args : List String) {host : Host}
    {hist : List Json} (h : HistoryFrom hist host.history) :
    HistoryFrom hist (finalState (main w system args host)).host.history := by
  obtain ⟨hf, hfile, hh⟩ := h
  obtain ⟨_, _, hfile', -, hh', -⟩ := ((grown_writeStable hist).mainBody w
    (fun s (hs : s.host.history = host.history) => ⟨hf, hf, by rw [Proc.afterLoad_history, hs, hfile],
      by rw [Proc.afterLoad_buildHistory, hs, hfile], hh, .refl _⟩) args).final
    { host, mgr := BuildManager.fresh (workspaceRoot w) system } rfl
  exact ⟨_, hfile', hh'⟩

theorem session_historyFrom (system : Platform) (runs : List (World × List String)) {host : Host}
    {hist : List Json} (h : HistoryFrom hist host.history) :
    HistoryFrom hist (session system runs host).history := by
  induction runs generalizing host with
  | nil => exact h
  | cons r runs ih =>
    obtain ⟨w, args⟩ := r
    exact ih (main_historyFrom w system args h)

/-- A machine where every tool is missing, no path exists and every cmake command exits 0. -/
def passingWorld : World :=
  ⟨4, "", "/work", "", fun _ => .missing, fun _ => false, fun _ => .exited 0 "", fun _ => (0, 1), fun _ => ""⟩

/-! ## Only the platform's own entry of the optimizations is written -/

/-- A dict whose entry for every key but `sys`'s is that of `kvs₀`. -/
def OthersAs (sys : Platform) (kvs₀ : List (String × Json)) (o : Json) : Prop :=
  ∃ kvs, o = .dict kvs ∧ ∀ k, k ≠ sys.key → lookup kvs k = lookup kvs₀ k

/-- A run on `sys` with `c` cores after loading: what the optimizations file loads
as and the optimizations in memory both agree with `kvs₀` off the platform's key. -/
structure OthersKept (c : Nat) (sys : Platform) (kvs₀ : List (String × Json)) (s : Proc) : Prop where
  file : OthersAs sys kvs₀ (s.host.optimizations.loaded (defaultConfigs c))
  memory : OthersAs sys kvs₀ s.mgr.optimizations
  system : s.mgr.system = sys

/-- Setting the platform's own key keeps the other entries. -/
theorem OthersAs.setKey {sys : Platform} {kvs₀ kvs : List (String × Json)} (h : OthersAs sys kvs₀ (.dict kvs))
    (v : Json) : OthersAs sys kvs₀ (.dict (setKey kvs sys.key v)) := by
  obtain ⟨_, he, hk⟩ := h
  cases he
  exact ⟨_, rfl, fun k hne => by rw [lookup_setKey_ne _ _ (Ne.symm hne)]; exact hk k hne⟩

theorem othersKept_writeStable (c : Nat) (sys : Platform) (kvs₀ : List (String × Json)) :
    WriteStable (OthersKept c sys kvs₀) where
  emit _ _ h := ⟨h.1, h.2, h.3⟩
  config _ _ h := ⟨h.1, h.2, h.3⟩
  record _ _ _ _ _ _ := recordAttempt_keeps ⟨fun _ _ h => ⟨h.1, h.2, h.3⟩, fun _ _ h => ⟨h.1, h.2, h.3⟩,
    fun _ h => ⟨h.1, h.2, h.3⟩⟩ _ _ _ _ _
  store s h := by
    obtain ⟨kvs, hm, -⟩ := h.memory
    have hs := hm ▸ h.memory
    rw [storeConfig_run, hm, h.system, setItem_dict]
    exact ⟨hs.setKey _, hs.setKey _, h.system⟩

/-- One run of `main` on `system` with `c` cores keeps the optimizations file
loading as a dict that agrees with `kvs₀` off the platform's key. -/
theorem main_othersAs (w : World) {c : Nat} (hw : w.cpuCount = c) (system : Platform) (args : List String)
    {host : Host} {kvs₀ : List (String × Json)}
    (h : OthersAs system kvs₀ (host.optimizations.loaded (defaultConfigs c))) :
    OthersAs system kvs₀ ((finalState (main w system args host)).host.optimizations.loaded (defaultConfigs c)) :=
  ((othersKept_writeStable c system kvs₀).mainBody w
    (fun s (hs : s.host.optimizations = host.optimizations ∧ s.mgr.system = system) =>
      ⟨by rw [Proc.afterLoad_optimizations, hs.1]; exact h,
        by rw [Proc.afterLoad_loaded, hs.1, hw]; exact h, by rw [Proc.afterLoad_system, hs.2]⟩) args).final
    { host, mgr := BuildManager.fresh (workspaceRoot w) system } ⟨rfl, rfl⟩ |>.file

theorem session_othersAs (system : Platform) {c : Nat} (runs : List (World × List String))
    (hc : ∀ r ∈ runs, r.1.cpuCount = c) {host : Host} {kvs₀ : List (String × Json)}
    (h : OthersAs system kvs₀ (host.optimizations.loaded (defaultConfigs c))) :
    OthersAs system kvs₀ ((session system runs host).optimizations.loaded (defaultConfigs c)) := by
  induction runs generalizing host with
  | nil => exact h
  | cons r runs ih =>
    obtain ⟨w, args⟩ := r
    exact ih (fun r hr => hc r (.tail _ hr)) (main_othersAs w (hc _ (.head _)) system args h)

/-! ## A platform without a default entry -/

/-- Without a default entry for the platform, choosing the configuration raises,
whatever the optimizations hold. -/
theorem selectConfig_raises_without_default (w : World) (s : Proc) {e : PyError}
    (hd : (defaultConfigs w.cpuCount).getItem s.mgr.system.key = .error e) :
    ∃ e', selectConfig w s = .error e' s := by
  rw [selectConfig_run, hd]
  split
  · rename_i hk; cases hk
  · exact ⟨_, rfl⟩
  · exact ⟨_, rfl⟩

/-- `DEFAULT_CONFIGS[self.system]` is evaluated before the stored entry is looked
at, so on a platform other than windows, linux and darwin the constructor raises
right after loading the state files, even when `build_optimizations.json` holds
an entry for the platform: `main` runs no command and writes neither file. -/
theorem unlisted_platform_raises_after_loading (w : World) {name : String}
    (hn : name ≠ "windows" ∧ name ≠ "linux" ∧ name ≠ "darwin") (args : List String) (host : Host) :
    ∃ e, main w (.other name) args host =
      .error e (Proc.afterLoad { host, mgr := BuildManager.fresh (workspaceRoot w) (.other name) } w.cpuCount) := by
  have hd : (defaultConfigs w.cpuCount).getItem name = .error (.keyError name) := by
    simp only [defaultConfigs, getItem, lookup, Ne.symm hn.1, Ne.symm hn.2.1, Ne.symm hn.2.2, if_false]
  obtain ⟨e, he⟩ := selectConfig_raises_without_default w
    (Proc.afterLoad { host, mgr := BuildManager.fresh (workspaceRoot w) (.other name) } w.cpuCount)
    (by rw [Proc.afterLoad_system]; exact hd)
  exact ⟨e, run_bind_error _ ((run_bind_ok _ (loadState_run w _)).trans (run_bind_error _ he))⟩

theorem unlisted_platform_raises_after_loading_freebsd :
    ("freebsd" ≠ "windows" ∧ "freebsd" ≠ "linux" ∧ "freebsd" ≠ "darwin") ∧
      ∃ e, main passingWorld (.other "freebsd") ["build"]
          ⟨.absent, .doc (.dict [("freebsd", .dict [("parallel_jobs", .int 2)])]), []⟩ =
        .error e (Proc.afterLoad ⟨⟨.absent, .doc (.dict [("freebsd", .dict [("parallel_jobs", .int 2)])]), []⟩,
          BuildManager.fresh (workspaceRoot passingWorld) (.other "freebsd")⟩ passingWorld.cpuCount) :=
  ⟨by decide, unlisted_platform_raises_after_loading passingWorld (by decide) ["build"] _⟩

end DrogonBuild.Manager.Store
