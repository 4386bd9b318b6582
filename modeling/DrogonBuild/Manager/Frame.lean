import DrogonBuild.Manager.State

/-!
# What a statement keeps

`Keeps P x`: whatever state `P` holds of, `x` ends in a state where `P` holds,
whether it returns or raises. Every invariant of a run is proved this way: once
per primitive statement, then through `bind` and `if` along the script.
-/

namespace DrogonBuild.Manager

open Json

theorem run_bind_ok {α β : Type} {x : Step α} {s s' : Proc} {a : α} (f : α → Step β)
    (h : x s = .ok a s') : (x >>= f) s = f a s' := by
  show EStateM.bind x f s = _
  simp only [EStateM.bind, h]

theorem run_bind_error {α β : Type} {x : Step α} {s s' : Proc} {e : PyError} (f : α → Step β)
    (h : x s = .error e s') : (x >>= f) s = .error e s' := by
  show EStateM.bind x f s = _
  simp only [EStateM.bind, h]

@[simp] theorem emit_run (e : Effect) (s : Proc) : emit e s = .ok () (s.log e) := rfl

@[simp] theorem setConfig_run (c : Json) (s : Proc) : setConfig c s = .ok () (s.withConfig c) := rfl

@[simp] theorem getConfig_run (s : Proc) : getConfig s = .ok s.mgr.config s := rfl

theorem liftE_run {α : Type} (r : Except PyError α) (s : Proc) :
    liftE r s = match r with
      | .ok a => .ok a s
      | .error e => .error e s := by cases r <;> rfl

theorem liftE_ok_bind {α β : Type} (a : α) (f : α → Step β) (s : Proc) : (liftE (.ok a) >>= f) s = f a s :=
  rfl

@[simp] theorem Proc.log_mgr (s : Proc) (e : Effect) : (s.log e).mgr = s.mgr := rfl
@[simp] theorem Proc.log_history (s : Proc) (e : Effect) : (s.log e).host.history = s.host.history := rfl
@[simp] theorem Proc.log_optimizations (s : Proc) (e : Effect) :
    (s.log e).host.optimizations = s.host.optimizations := rfl
@[simp] theorem Proc.log_trace (s : Proc) (e : Effect) : (s.log e).host.trace = s.host.trace ++ [e] := rfl
@[simp] theorem Proc.withConfig_host (s : Proc) (c : Json) : (s.withConfig c).host = s.host := rfl
@[simp] theorem Proc.withConfig_config (s : Proc) (c : Json) : (s.withConfig c).mgr.config = c := rfl
@[simp] theorem Proc.withConfig_system (s : Proc) (c : Json) :
    (s.withConfig c).mgr.system = s.mgr.system := rfl
@[simp] theorem Proc.withConfig_optimizations (s : Proc) (c : Json) :
    (s.withConfig c).mgr.optimizations = s.mgr.optimizations := rfl
@[simp] theorem Proc.withConfig_buildHistory (s : Proc) (c : Json) :
    (s.withConfig c).mgr.buildHistory = s.mgr.buildHistory := rfl
@[simp] theorem Proc.withBuildHistory_host (s : Proc) (h : Json) : (s.withBuildHistory h).host = s.host := rfl
@[simp] theorem Proc.withOptimizations_host (s : Proc) (o : Json) :
    (s.withOptimizations o).host = s.host := rfl
@[simp] theorem Proc.withBuildHistory_mgr (s : Proc) (h : Json) :
    (s.withBuildHistory h).mgr = { s.mgr with buildHistory := h } := rfl
@[simp] theorem Proc.withOptimizations_mgr (s : Proc) (o : Json) :
    (s.withOptimizations o).mgr = { s.mgr with optimizations := o } := rfl
@[simp] theorem Proc.warnUnreadable_mgr (s : Proc) (st : Stored) (path : String) :
    (s.warnUnreadable st path).mgr = s.mgr := by cases st <;> rfl
@[simp] theorem Proc.warnUnreadable_history (s : Proc) (st : Stored) (path : String) :
    (s.warnUnreadable st path).host.history = s.host.history := by cases st <;> rfl
@[simp] theorem Proc.warnUnreadable_optimizations (s : Proc) (st : Stored) (path : String) :
    (s.warnUnreadable st path).host.optimizations = s.host.optimizations := by cases st <;> rfl

theorem setConfigItem_run (key : String) (v : Json) (s : Proc) :
    setConfigItem key v s = match s.mgr.config.setItem key v with
      | .ok c => .ok () (s.withConfig c)
      | .error e => .error e s := by
  show EStateM.bind getConfig (fun c => EStateM.bind (liftE (c.setItem key v)) setConfig) s = _
  simp only [EStateM.bind, getConfig_run, liftE_run]
  cases s.mgr.config.setItem key v <;> rfl

theorem configItem_run (key : String) (s : Proc) :
    configItem key s = match s.mgr.config.getItem key with
      | .ok v => .ok v s
      | .error e => .error e s := by
  show EStateM.bind getConfig (fun c => liftE (c.getItem key)) s = _
  simp only [EStateM.bind, getConfig_run, liftE_run]
  cases s.mgr.config.getItem key <;> rfl

theorem configHas_run (key : String) (s : Proc) :
    configHas key s = match s.mgr.config.contains key with
      | .ok b => .ok b s
      | .error e => .error e s := by
  show EStateM.bind getConfig (fun c => liftE (c.contains key)) s = _
  simp only [EStateM.bind, getConfig_run, liftE_run]
  cases s.mgr.config.contains key <;> rfl

/-- `_load_json` never raises: it returns the stored document or the default. -/
theorem loadJson_run (path : String) (file : Stored) (d : Json) (s : Proc) :
    loadJson path file d s = .ok (file.loaded d) (s.warnUnreadable file path) := by
  cases file <;> rfl

/-- `self.config[key] = v` either raises and changes nothing, or sets the key of a dict. -/
theorem setConfigItem_final (key : String) (v : Json) (s : Proc) :
    finalState (setConfigItem key v s) = s ∨ ∃ kvs, s.mgr.config = .dict kvs ∧
      finalState (setConfigItem key v s) = s.withConfig (.dict (setKey kvs key v)) := by
  rw [setConfigItem_run]
  cases h : s.mgr.config with
  | dict kvs => exact .inr ⟨kvs, rfl, rfl⟩
  | _ => exact .inl rfl

/-- `x` keeps `P`, returning or raising. -/
def Keeps (P : Proc → Prop) {α : Type} (x : Step α) : Prop := ∀ s, P s → P (finalState (x s))

namespace Keeps

variable {P : Proc → Prop} {α β : Type}

theorem pure (a : α) : Keeps P (Pure.pure a : Step α) := fun _ h => h

theorem throw (e : PyError) : Keeps P (MonadExcept.throw e : Step α) := fun _ h => h

theorem liftE (r : Except PyError α) : Keeps P (Manager.liftE r) := by
  intro s h; cases r <;> exact h

theorem get : Keeps P (MonadState.get : Step Proc) := fun _ h => h

theorem getConfig : Keeps P Manager.getConfig := fun _ h => h

theorem and {Q : Proc → Prop} {x : Step α} (hp : Keeps P x) (hq : Keeps Q x) :
    Keeps (fun s => P s ∧ Q s) x :=
  fun s h => ⟨hp s h.1, hq s h.2⟩

theorem bind {x : Step α} {f : α → Step β} (hx : Keeps P x) (hf : ∀ a, Keeps P (f a)) :
    Keeps P (x >>= f) := by
  intro s h
  have hs := hx s h
  cases hr : x s with
  | ok a s' => rw [hr] at hs; rw [run_bind_ok f hr]; exact hf a s' hs
  | error e s' => rw [hr] at hs; rw [run_bind_error f hr]; exact hs

theorem ite {c : Prop} [Decidable c] {x y : Step α} (hx : Keeps P x) (hy : Keeps P y) :
    Keeps P (if c then x else y) := by
  split <;> assumption

theorem configItem (key : String) : Keeps P (Manager.configItem key) :=
  bind getConfig fun _ => liftE _

theorem configGet (key : String) (d : Json) : Keeps P (Manager.configGet key d) :=
  bind getConfig fun _ => liftE _

theorem configHas (key : String) : Keeps P (Manager.configHas key) :=
  bind getConfig fun _ => liftE _

/-- A predicate blind to the trace is kept by every `emit`. -/
theorem emit (hP : ∀ s e, P s → P (s.log e)) (e : Effect) : Keeps P (Manager.emit e) :=
  fun s h => hP s e h

end Keeps

/-- `x` keeps `P`, and what it returns satisfies `Q`. -/
def Yields (P : Proc → Prop) {α : Type} (x : Step α) (Q : α → Prop) : Prop :=
  ∀ s, P s → match x s with
    | .ok a s' => P s' ∧ Q a
    | .error _ s' => P s'

namespace Yields

variable {P : Proc → Prop} {α β : Type}

theorem keeps {x : Step α} {Q : α → Prop} (h : Yields P x Q) : Keeps P x := by
  intro s hs
  have h := h s hs
  revert h
  cases x s with
  | ok _ _ => exact And.left
  | error _ _ => exact id

theorem get : Yields P (MonadState.get : Step Proc) P := fun _ h => ⟨h, h⟩

theorem liftE (r : Except PyError α) : Yields P (Manager.liftE r) (r = .ok ·) := by
  intro s h
  cases r with
  | ok a => exact ⟨h, rfl⟩
  | error e => exact h

theorem throw {Q : α → Prop} (e : PyError) : Yields P (MonadExcept.throw e : Step α) Q := fun _ h => h

theorem pure {Q : α → Prop} {a : α} (h : Q a) : Yields P (Pure.pure a : Step α) Q := fun _ hs => ⟨hs, h⟩

theorem bind {x : Step α} {f : α → Step β} {Q : α → Prop} {R : β → Prop} (hx : Yields P x Q)
    (hf : ∀ a, Q a → Yields P (f a) R) : Yields P (x >>= f) R := by
  intro s h
  have hs := hx s h
  cases hr : x s with
  | ok a s' => rw [hr] at hs; rw [run_bind_ok f hr]; exact hf a hs.2 s' hs.1
  | error e s' => rw [hr] at hs; rw [run_bind_error f hr]; exact hs

theorem ite {c : Prop} [Decidable c] {x y : Step α} {Q : α → Prop} (hx : Yields P x Q)
    (hy : Yields P y Q) : Yields P (if c then x else y) Q := by
  split <;> assumption

theorem and_keeps {R : Proc → Prop} {x : Step α} {Q : α → Prop} (h : Yields P x Q) (hr : Keeps R x) :
    Yields (fun s => P s ∧ R s) x Q := by
  intro s hs
  have h := h s hs.1
  have hr := hr s hs.2
  revert h hr
  cases x s with
  | ok _ _ => exact fun h hr => ⟨⟨h.1, hr⟩, h.2⟩
  | error _ _ => exact fun h hr => ⟨h, hr⟩

end Yields

theorem Keeps.yields {P : Proc → Prop} {α : Type} {x : Step α} (h : Keeps P x) :
    Yields P x fun _ => True := by
  intro s hs
  have h := h s hs
  revert h
  cases x s with
  | ok _ _ => exact fun h => ⟨h, trivial⟩
  | error _ _ => exact id

/-- From a state where `P` holds, `x` returns `a` in a state where `Q a` holds,
or raises in one where `E` holds. -/
def Triple (P : Proc → Prop) {α : Type} (x : Step α) (Q : α → Proc → Prop) (E : Proc → Prop) : Prop :=
  ∀ s, P s → match x s with
    | .ok a s' => Q a s'
    | .error _ s' => E s'

namespace Triple

variable {P E : Proc → Prop} {α β : Type}

theorem bind {x : Step α} {f : α → Step β} {Q : α → Proc → Prop} {R : β → Proc → Prop}
    (hx : Triple P x Q E) (hf : ∀ a, Triple (Q a) (f a) R E) : Triple P (x >>= f) R E := by
  intro s h
  have hs := hx s h
  cases hr : x s with
  | ok a s' => rw [hr] at hs; rw [run_bind_ok f hr]; exact hf a s' hs
  | error e s' => rw [hr] at hs; rw [run_bind_error f hr]; exact hs

theorem of_keeps {x : Step α} (h : Keeps P x) (hE : ∀ s, P s → E s) : Triple P x (fun _ => P) E := by
  intro s hs
  have h := h s hs
  revert h
  cases x s with
  | ok _ _ => exact id
  | error _ _ => exact hE _

theorem of_yields {x : Step α} {R : α → Prop} (h : Yields P x R) (hE : ∀ s, P s → E s) :
    Triple P x (fun a s => P s ∧ R a) E := by
  intro s hs
  have h := h s hs
  revert h
  cases x s with
  | ok _ _ => exact id
  | error _ _ => exact hE _

theorem pure (a : α) {Q : α → Proc → Prop} (h : ∀ s, P s → Q a s) :
    Triple P (Pure.pure a : Step α) Q E := h

theorem ite {c : Prop} [Decidable c] {x y : Step α} {Q : α → Proc → Prop}
    (hx : c → Triple P x Q E) (hy : ¬c → Triple P y Q E) : Triple P (if c then x else y) Q E := by
  split
  · exact hx ‹_›
  · exact hy ‹_›

theorem conseq {x : Step α} {P' : Proc → Prop} {Q Q' : α → Proc → Prop} {E' : Proc → Prop}
    (h : Triple P x Q E) (hP : ∀ s, P' s → P s) (hQ : ∀ a s, Q a s → Q' a s) (hE : ∀ s, E s → E' s) :
    Triple P' x Q' E' := by
  intro s hs
  have h := h s (hP s hs)
  revert h
  cases x s with
  | ok a s' => exact hQ a s'
  | error _ s' => exact hE s'

theorem bind_yields {x : Step α} {f : α → Step β} {Q : α → Prop} {R : β → Proc → Prop}
    (hx : Yields P x Q) (hf : ∀ a, Q a → Triple P (f a) R E) (hE : ∀ s, P s → E s) :
    Triple P (x >>= f) R E := by
  intro s h
  have hs := hx s h
  cases hr : x s with
  | ok a s' => rw [hr] at hs; rw [run_bind_ok f hr]; exact hf a hs.2 s' hs.1
  | error e s' => rw [hr] at hs; rw [run_bind_error f hr]; exact hE s' hs

theorem get : Triple P (MonadState.get : Step Proc) (fun a s => P s ∧ a = s) E := fun _ h => ⟨h, rfl⟩

theorem liftE_ok (v : α) : Triple P (Manager.liftE (.ok v)) (fun a s => P s ∧ a = v) E := fun _ h => ⟨h, rfl⟩

/-- Reading the state: the continuation may use what `P` says of it. -/
theorem get_bind {f : Proc → Step β} {R : β → Proc → Prop} (hf : ∀ s, P s → Triple P (f s) R E) :
    Triple P (MonadState.get >>= f) R E :=
  fun s h => by rw [run_bind_ok f (rfl : (MonadState.get : Step Proc) s = .ok s s)]; exact hf s h s h

theorem exists_pre {ι : Type} {P : ι → Proc → Prop} {x : Step α} {Q : α → Proc → Prop}
    (h : ∀ i, Triple (P i) x Q E) : Triple (fun s => ∃ i, P i s) x Q E :=
  fun s ⟨i, hs⟩ => h i s hs

/-- A statement that returns a known value is followed by the continuation at that value. -/
theorem bind_eq {x : Step α} {f : α → Step β} {v : α} {R : β → Proc → Prop}
    (hx : Triple P x (fun a s => P s ∧ a = v) E) (hf : Triple P (f v) R E) : Triple P (x >>= f) R E :=
  hx.bind fun _ s ⟨hs, ha⟩ => by subst ha; exact hf s hs

/-- A triple and an invariant kept by the same statement combine. -/
theorem and_keeps {I : Proc → Prop} {x : Step α} {Q : α → Proc → Prop} (h : Triple P x Q E)
    (hI : Keeps I x) : Triple (fun s => I s ∧ P s) x (fun a s => I s ∧ Q a s) (fun s => I s ∧ E s) := by
  intro s hs
  have h := h s hs.2
  have hI := hI s hs.1
  revert h hI
  cases x s <;> exact fun h hI => ⟨hI, h⟩

/-- Whatever the outcome, the final state satisfies the weaker of the two postconditions. -/
theorem final {x : Step α} {Q : Proc → Prop} (h : Triple P x (fun _ => Q) Q) (s : Proc) (hs : P s) :
    Q (finalState (x s)) := by
  have h := h s hs
  revert h
  cases x s <;> exact id

end Triple

/-- `_load_json` returns the default or the stored document. -/
theorem loadJson_yields {P : Proc → Prop} (hp : ∀ t, Keeps P (emit (.print t))) (path : String)
    (file : Stored) (d : Json) : Yields P (loadJson path file d) (· = file.loaded d) := by
  intro s hs
  cases file with
  | absent => exact ⟨hs, rfl⟩
  | unreadable m => exact ⟨hp _ s hs, rfl⟩
  | doc v => exact ⟨hs, rfl⟩

theorem Keeps.bind_yields {P : Proc → Prop} {α β : Type} {x : Step α} {Q : α → Prop}
    {f : α → Step β} (hx : Yields P x Q) (hf : ∀ a, Q a → Keeps P (f a)) : Keeps P (x >>= f) :=
  (hx.bind fun a ha => (hf a ha).yields).keeps

end DrogonBuild.Manager
