import Mathlib

/-!
# Stateful computations whose exceptions keep the state

In a language with exceptions and a mutable heap, what a call wrote before it threw stays written.
`Effect` is that: an exception transformer over a state monad. `exec` runs one, and the simp set
below reduces `exec` of each construct, so that a proof about a handler follows its text.
-/

namespace Foundation

/-- A computation on a state `σ` that returns an `α` or throws an `ε`. -/
abbrev Effect (ε σ α : Type) := ExceptT ε (StateM σ) α

namespace Effect

variable {ε σ τ α β : Type}

/-- Runs a computation: its outcome, and the state it leaves whichever way it ends. -/
def exec (act : Effect ε σ α) (state : σ) : Except ε α × σ := (ExceptT.run act).run state

@[simp]
theorem exec_pure (a : α) (state : σ) : (pure a : Effect ε σ α).exec state = (.ok a, state) := rfl

@[simp]
theorem exec_throw (e : ε) (state : σ) :
    (throw e : Effect ε σ α).exec state = (.error e, state) := rfl

@[simp]
theorem exec_get (state : σ) : (get : Effect ε σ σ).exec state = (.ok state, state) := rfl

@[simp]
theorem exec_set (state next : σ) : (set next : Effect ε σ PUnit).exec state = (.ok ⟨⟩, next) := rfl

@[simp]
theorem exec_modify (f : σ → σ) (state : σ) :
    (modify f : Effect ε σ PUnit).exec state = (.ok ⟨⟩, f state) := rfl

/-- A computation without state, such as a decoder, leaves the state alone. -/
@[simp]
theorem exec_liftM (x : Except ε α) (state : σ) :
    (liftM x : Effect ε σ α).exec state = (x, state) := rfl

theorem exec_liftM_ok {x : Except ε α} {a : α} (hx : x = .ok a) (state : σ) :
    (liftM x : Effect ε σ α).exec state = (.ok a, state) := by
  rw [exec_liftM, hx]

theorem exec_bind (act : Effect ε σ α) (f : α → Effect ε σ β) (state : σ) :
    (act >>= f).exec state =
      match act.exec state with
      | (.ok a, next) => (f a).exec next
      | (.error e, next) => (.error e, next) := by
  simp only [exec, ExceptT.run, bind, ExceptT.bind, ExceptT.mk, StateT.bind, StateT.run]
  cases act state with
  | mk result next => cases result <;> rfl

theorem exec_bind_ok {act : Effect ε σ α} {state next : σ} {a : α}
    (hact : act.exec state = (.ok a, next)) (f : α → Effect ε σ β) :
    (act >>= f).exec state = (f a).exec next := by
  rw [exec_bind, hact]

theorem exec_bind_error {act : Effect ε σ α} {state next : σ} {e : ε}
    (hact : act.exec state = (.error e, next)) (f : α → Effect ε σ β) :
    (act >>= f).exec state = (.error e, next) := by
  rw [exec_bind, hact]

theorem exec_map (f : α → β) (act : Effect ε σ α) (state : σ) :
    (f <$> act).exec state = ((act.exec state).1.map f, (act.exec state).2) := by
  rw [map_eq_pure_bind, exec_bind]
  cases act.exec state with
  | mk result next => cases result <;> rfl

theorem exec_tryCatch (act : Effect ε σ α) (handler : ε → Effect ε σ α) (state : σ) :
    (tryCatch act handler).exec state =
      match act.exec state with
      | (.ok a, next) => (.ok a, next)
      | (.error e, next) => (handler e).exec next := by
  simp only [exec, ExceptT.run, tryCatch, tryCatchThe, MonadExceptOf.tryCatch, ExceptT.tryCatch,
    ExceptT.mk, bind, StateT.bind, StateT.run]
  cases act state with
  | mk result next => cases result <;> rfl

/-- The state a computation leaves, if it does not throw. -/
def result (act : Effect ε σ Unit) (state : σ) : Except ε σ :=
  match act.exec state with
  | (.ok _, next) => .ok next
  | (.error e, _) => .error e

/-- Runs a computation on the part of the state that `view` reads and `put` writes back. -/
def zoom (view : σ → τ) (put : τ → σ → σ) (act : Effect ε τ α) : Effect ε σ α :=
  ExceptT.mk fun state => ((act.exec (view state)).1, put (act.exec (view state)).2 state)

@[simp]
theorem exec_zoom (view : σ → τ) (put : τ → σ → σ) (act : Effect ε τ α) (state : σ) :
    (zoom view put act).exec state =
      ((act.exec (view state)).1, put (act.exec (view state)).2 state) := rfl

/-! ### When a computation returns -/

/-- The computation returns the value and leaves the state. -/
def Returns (act : Effect ε σ α) (state : σ) (a : α) (next : σ) : Prop :=
  act.exec state = (.ok a, next)

section Returns

variable {state next : σ}

theorem returns_pure {a b : α} :
    Returns (pure a : Effect ε σ α) state b next ↔ a = b ∧ state = next := by
  simp [Returns]

theorem not_returns_throw {e : ε} {a : α} :
    ¬ Returns (throw e : Effect ε σ α) state a next := by
  simp [Returns]

theorem returns_get {a : σ} : Returns (get : Effect ε σ σ) state a next ↔ state = a ∧ state = next := by
  simp [Returns]

theorem returns_set {part : σ} {a : PUnit} :
    Returns (set part : Effect ε σ PUnit) state a next ↔ part = next := by
  simp [Returns]

theorem returns_modify {f : σ → σ} {a : PUnit} :
    Returns (modify f : Effect ε σ PUnit) state a next ↔ f state = next := by
  simp [Returns]

theorem returns_liftM {x : Except ε α} {a : α} :
    Returns (liftM x : Effect ε σ α) state a next ↔ x = .ok a ∧ state = next := by
  simp [Returns]

theorem returns_bind {act : Effect ε σ α} {f : α → Effect ε σ β} {b : β} :
    Returns (act >>= f) state b next ↔
      ∃ a middle, Returns act state a middle ∧ Returns (f a) middle b next := by
  unfold Returns
  rw [exec_bind]
  cases act.exec state with
  | mk outcome middle => cases outcome <;> simp

theorem result_eq_ok {act : Effect ε σ Unit} :
    act.result state = .ok next ↔ Returns act state () next := by
  unfold result Returns
  cases act.exec state with
  | mk outcome middle => cases outcome <;> simp

end Returns

end Effect

end Foundation
