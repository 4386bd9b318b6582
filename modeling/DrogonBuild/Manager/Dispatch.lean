import DrogonBuild.Manager.Execute

/-!
# What `main` does with an unknown verb

`main` builds the manager before it looks at the arguments, so the constructor
runs in full: it creates the two directories, loads both state files and runs
the platform detection, whose version probes are external processes. After that
an unknown verb, or no verb, only prints a line and gives exit status 1. Neither
state file is written.
-/

namespace DrogonBuild.Manager

/-- The verbs `run_command` dispatches on. -/
def verbs : List String := ["configure", "build", "clean", "generate-makefile", "setup-vscode"]

/-- An effect that starts no process other than a `[tool, "--version"]` probe and
hands no command to the executor. -/
def Effect.Harmless : Effect → Prop
  | .spawn argv => ∃ tool, argv = [tool, "--version"]
  | .exec _ _ => False
  | _ => True

/-- Since the run started on `host`: both state files as they were, and only
harmless effects. -/
structure Quiet (host : Host) (s : Proc) : Prop where
  history : s.host.history = host.history
  optimizations : s.host.optimizations = host.optimizations
  trace : ∃ es, s.host.trace = host.trace ++ es ∧ ∀ e ∈ es, e.Harmless

namespace Quiet

variable {host : Host}

theorem emit {e : Effect} (he : e.Harmless) : Keeps (Quiet host) (Manager.emit e) := by
  intro s ⟨hh, ho, es, hes, hall⟩
  refine ⟨hh, ho, es ++ [e], by simp [hes], fun x hx => ?_⟩
  rcases List.mem_append.1 hx with hx | hx
  · exact hall x hx
  · exact (List.mem_singleton.1 hx) ▸ he

theorem of_mgr {α : Type} {x : Step α} (h : ∀ s, (finalState (x s)).host = s.host) :
    Keeps (Quiet host) x := by
  intro s ⟨hh, ho, ht⟩
  exact ⟨by rw [h s, hh], by rw [h s, ho], by rw [h s]; exact ht⟩

theorem detectStable : DetectStable (Quiet host) where
  spawn _ := emit ⟨_, rfl⟩
  set key _ v := of_mgr fun s => by
    rcases setConfigItem_final key v s with hs | ⟨_, _, hs⟩ <;> rw [hs]; rfl

theorem init (w : World) : Keeps (Quiet host) (Manager.init w) :=
  init_keeps (fun _ => emit trivial) (fun _ => emit trivial) (fun _ => of_mgr fun _ => rfl)
    (fun _ => of_mgr fun _ => rfl) (fun _ => of_mgr fun _ => rfl) detectStable w

end Quiet

theorem runCommand_unknown (w : World) {cmd : String} (h : cmd ∉ verbs) :
    runCommand w cmd = (do emit (.print s!"Unknown command: {cmd}"); pure false) := by
  simp only [verbs, List.mem_cons, List.not_mem_nil, or_false, not_or] at h
  simp only [runCommand, if_neg h.1, if_neg h.2.1, if_neg h.2.2.1, if_neg h.2.2.2.1, if_neg h.2.2.2.2]

/-- Without a known verb, `main` is the constructor followed by one printed line
and exit status 1. -/
theorem mainBody_unknown_run (w : World) {args : List String} (h : ∀ cmd ∈ args.head?, cmd ∉ verbs)
    (s : Proc) :
    mainBody w args s = match init w s with
      | .ok _ s' => .ok 1 (s'.log (.print (args.head?.elim usage fun cmd => s!"Unknown command: {cmd}")))
      | .error e s' => .error e s' := by
  unfold mainBody
  cases hi : init w s with
  | ok u s' =>
    rw [run_bind_ok _ hi]
    cases args with
    | nil => rfl
    | cons cmd _ =>
      simp only [runCommand_unknown w (h cmd rfl)]
      rfl
  | error e s' => rw [run_bind_error _ hi]

/-- A machine where `gcc` answers its version probe and no other tool is installed. -/
def gccOnlyWorld : World :=
  ⟨4, "", "/work", "", fun t => if t = "gcc" then .exited 0 "gcc (GCC) 13.2.0\n" else .missing,
    fun _ => false, fun _ => .exited 0 "", fun _ => (0, 1), fun _ => ""⟩

end DrogonBuild.Manager
