import DrogonBuild.Manager.History
import DrogonBuild.Manager.Dispatch

/-!
# What each verb may leave behind

`run_command("build")` hands a command to the build phase only after a configure
that exited 0: when configure exits with another code, `main` starts no build
command, whether it returns or raises, and a run that returns gives 1.
`clean`, `generate-makefile` and `setup-vscode` write neither state file: the
history and the optimizations on disk stay as the run found them, and a run that
returns gives 0.
-/

namespace DrogonBuild.Manager

/-- Since the run started on `host`, the trace has only grown, by effects satisfying `ok`. -/
def EffectsSince (host : Host) (ok : Effect → Prop) (s : Proc) : Prop :=
  ∃ es, s.host.trace = host.trace ++ es ∧ ∀ e ∈ es, ok e

/-- An effect that hands no command to the build phase. -/
def Effect.NotBuild (e : Effect) : Prop := ∀ cmd, e ≠ .exec .build cmd

namespace EffectsSince

variable {host : Host} {ok : Effect → Prop}

theorem start (m : BuildManager) : EffectsSince host ok ⟨host, m⟩ := ⟨[], by simp, nofun⟩

theorem emit {e : Effect} (he : ok e) : Keeps (EffectsSince host ok) (Manager.emit e) := by
  rintro s ⟨es, hes, hall⟩
  refine ⟨es ++ [e], by simp [hes], fun x hx => ?_⟩
  rcases List.mem_append.1 hx with hx | hx
  · exact hall x hx
  · exact (List.mem_singleton.1 hx) ▸ he

theorem of_trace {α : Type} {x : Step α} (h : ∀ s, (finalState (x s)).host.trace = s.host.trace) :
    Keeps (EffectsSince host ok) x := by
  rintro s ⟨es, hes, hall⟩
  exact ⟨es, by rw [h s, hes], hall⟩

theorem setConfigItem (key : String) (v : Json) : Keeps (EffectsSince host ok) (Manager.setConfigItem key v) :=
  of_trace fun s => by rcases setConfigItem_final key v s with hs | ⟨_, _, hs⟩ <;> rw [hs]; rfl

/-- The constructor only creates directories, prints and probes versions. -/
theorem init (hd : ∀ p, ok (.mkdir p)) (hp : ∀ t, ok (.print t)) (hs : ∀ tool, ok (.spawn [tool, "--version"]))
    (w : World) : Keeps (EffectsSince host ok) (Manager.init w) :=
  init_keeps (fun _ => emit (hd _)) (fun _ => emit (hp _)) (fun _ => of_trace fun _ => rfl)
    (fun _ => of_trace fun _ => rfl) (fun _ => of_trace fun _ => rfl)
    ⟨fun _ => emit (hs _), fun key _ v => setConfigItem key v⟩ w

theorem recordAttempt (w : World) (phase : Phase) (type : String) (cmd : List String) (code : Int) :
    Keeps (EffectsSince host ok) (Manager.recordAttempt w phase type cmd code) :=
  .bind .get fun _ => .bind (.liftE _) fun _ => .bind (of_trace fun _ => rfl) fun _ => of_trace fun _ => rfl

end EffectsSince

theorem exitsWith_unique {w : World} {phase : Phase} {a b : Int} (ha : exitsWith w phase a)
    (hb : exitsWith w phase b) : a = b := by
  obtain ⟨_, ha⟩ := ha
  obtain ⟨_, hb⟩ := hb
  rw [ha] at hb
  cases hb
  rfl

/-- A triple of `main`'s body from the fresh manager: what `main` returns, and what
holds where it ends, whether it returns or raises. -/
theorem main_of_triple {I : Proc → Prop} {Q : Int → Prop} (w : World) (system : Platform) (args : List String)
    (host : Host) (h0 : I ⟨host, BuildManager.fresh (workspaceRoot w) system⟩)
    (h : Triple I (mainBody w args) (fun code s => Q code ∧ I s) I) :
    (∀ code s, main w system args host = .ok code s → Q code) ∧ I (finalState (main w system args host)) := by
  have h := h _ h0
  unfold main
  revert h
  cases mainBody w args ⟨host, BuildManager.fresh (workspaceRoot w) system⟩ with
  | ok code s => exact fun h => ⟨fun _ _ he => by cases he; exact h.1, h.2⟩
  | error e s => exact fun h => ⟨fun _ _ => nofun, h⟩

/-- `configure` returns whether its command exited 0. -/
theorem configure_yields {P : Proc → Prop} (w : World) (hx : ∀ cmd, ExecStable P .configure cmd)
    (hp : ∀ t, Keeps P (emit (.print t))) (hr : ∀ cmd code, Keeps P (recordAttempt w .configure "configure" cmd code)) :
    Yields P (configure w) fun ok => ∃ code, exitsWith w .configure code ∧ ok = (code == 0) :=
  .bind Yields.get fun _ _ => .bind (Keeps.liftE _).yields fun _ _ => .bind (Keeps.liftE _).yields fun cmd _ =>
    .bind (runRecorded_yields (hx cmd) hp (hr cmd) _) fun code hc => .pure ⟨code, hc, rfl⟩

/-- After a configure that exits with a code other than 0, the body of `main`
with the verb `build` hands no command to the build phase, and returns 1 if it returns. -/
theorem mainBody_build_after_failed_configure (w : World) (rest : List String) (host : Host) {k : Int}
    (hk : exitsWith w .configure k) (h0 : k ≠ 0) :
    Triple (EffectsSince host Effect.NotBuild) (mainBody w ("build" :: rest))
      (fun code s => code = 1 ∧ EffectsSince host Effect.NotBuild s) (EffectsSince host Effect.NotBuild) := by
  have hrun : Triple (EffectsSince host Effect.NotBuild) (runCommand w "build")
      (fun ok s => ok = false ∧ EffectsSince host Effect.NotBuild s) (EffectsSince host Effect.NotBuild) := by
    show Triple _ (configure w >>= fun ok => if ok then build w else pure false) _ _
    have nb : ∀ {e : Effect}, e.NotBuild → Keeps (EffectsSince host Effect.NotBuild) (emit e) :=
      EffectsSince.emit
    refine .bind_yields (configure_yields w (fun _ => ⟨nb (by rintro _ ⟨⟩), fun _ => nb (by rintro _ ⟨⟩),
      fun _ _ => nb (by rintro _ ⟨⟩), fun _ => nb (by rintro _ ⟨⟩)⟩) (fun _ => nb (by rintro _ ⟨⟩))
      (fun _ _ => EffectsSince.recordAttempt _ _ _ _ _)) (fun ok ⟨code, hc, hok⟩ => ?_) fun _ => id
    rw [exitsWith_unique hc hk, beq_false_of_ne h0] at hok
    subst hok
    exact .pure _ fun _ h => ⟨rfl, h⟩
  exact .bind (Triple.of_keeps (EffectsSince.init (by rintro _ _ ⟨⟩) (by rintro _ _ ⟨⟩) (by rintro _ _ ⟨⟩) w)
    fun _ => id) fun _ => .bind hrun fun _ => .pure _ fun _ ⟨hok, h⟩ => ⟨by simp [hok], h⟩

/-- After a configure that exits with a code other than 0, `main` with the verb
`build` hands no command to the build phase, whether it returns or raises, and
returns 1 whenever it returns. -/
theorem build_stops_after_failed_configure (w : World) (system : Platform) (rest : List String) (host : Host)
    {k : Int} (hk : exitsWith w .configure k) (h0 : k ≠ 0) :
    (∀ code s, main w system ("build" :: rest) host = .ok code s → code = 1) ∧
      EffectsSince host Effect.NotBuild (finalState (main w system ("build" :: rest) host)) :=
  main_of_triple w system _ host (EffectsSince.start _) (mainBody_build_after_failed_configure w rest host hk h0)

/-- The machine of `gccOnlyWorld` where every cmake command exits 1. -/
def cmakeFailsWorld : World := { gccOnlyWorld with outcome := fun _ => .exited 1 "CMake Error" }

theorem build_stops_after_failed_configure_exit_one :
    exitsWith cmakeFailsWorld .configure 1 ∧ (1 : Int) ≠ 0 ∧
      (∀ code s, main cmakeFailsWorld .linux ["build"] ⟨.absent, .absent, []⟩ = .ok code s → code = 1) ∧
        EffectsSince ⟨.absent, .absent, []⟩ Effect.NotBuild
          (finalState (main cmakeFailsWorld .linux ["build"] ⟨.absent, .absent, []⟩)) :=
  ⟨⟨_, rfl⟩, by decide,
    build_stops_after_failed_configure cmakeFailsWorld .linux [] ⟨.absent, .absent, []⟩ ⟨_, rfl⟩ (by decide)⟩

/-- Both state files as the run found them on `host`. -/
def FilesKept (host : Host) (s : Proc) : Prop :=
  s.host.history = host.history ∧ s.host.optimizations = host.optimizations

namespace FilesKept

variable {host : Host}

theorem emit (e : Effect) : Keeps (FilesKept host) (Manager.emit e) := fun _ h => h

theorem init (w : World) : Keeps (FilesKept host) (Manager.init w) :=
  init_keeps (fun _ => emit _) (fun _ => emit _) (fun _ _ h => h) (fun _ _ h => h) (fun _ _ h => h)
    ⟨fun _ => emit _, fun key _ v s h => by
      rcases setConfigItem_final key v s with hs | ⟨_, _, hs⟩ <;> rw [hs] <;> exact h⟩ w

end FilesKept

/-- `clean`, `generate-makefile` and `setup-vscode` write neither state file,
whether `main` returns or raises, and `main` returns 0 whenever it returns. -/
theorem other_verbs_keep_state_files (w : World) (system : Platform) {cmd : String}
    (hcmd : cmd = "clean" ∨ cmd = "generate-makefile" ∨ cmd = "setup-vscode") (rest : List String) (host : Host) :
    (∀ code s, main w system (cmd :: rest) host = .ok code s → code = 0) ∧
      FilesKept host (finalState (main w system (cmd :: rest) host)) := by
  have hrun : Triple (FilesKept host) (runCommand w cmd) (fun ok s => ok = true ∧ FilesKept host s)
      (FilesKept host) := by
    have done : Triple (FilesKept host) (pure true) (fun ok s => ok = true ∧ FilesKept host s) (FilesKept host) :=
      .pure _ fun _ h => ⟨rfl, h⟩
    rcases hcmd with rfl | rfl | rfl
    · exact .bind (Triple.of_keeps (clean_keeps FilesKept.emit w) fun _ => id) fun _ => done
    · exact .bind (Triple.of_keeps (generateMakefile_keeps FilesKept.emit) fun _ => id) fun _ => done
    · exact .bind (Triple.of_keeps (generateVscodeIntegration_keeps FilesKept.emit) fun _ => id) fun _ => done
  exact main_of_triple w system _ host ⟨rfl, rfl⟩
    (.bind (Triple.of_keeps (FilesKept.init w) fun _ => id) fun _ =>
      .bind hrun fun _ => .pure _ fun _ ⟨hok, h⟩ => ⟨by simp [hok], h⟩)

theorem other_verbs_keep_state_files_clean :
    ("clean" = "clean" ∨ "clean" = "generate-makefile" ∨ "clean" = "setup-vscode") ∧
      (∀ code s, main gccOnlyWorld .linux ["clean"] ⟨.absent, .absent, []⟩ = .ok code s → code = 0) ∧
        FilesKept ⟨.absent, .absent, []⟩ (finalState (main gccOnlyWorld .linux ["clean"] ⟨.absent, .absent, []⟩)) :=
  ⟨.inl rfl, other_verbs_keep_state_files gccOnlyWorld .linux (.inl rfl) [] ⟨.absent, .absent, []⟩⟩

end DrogonBuild.Manager
