import SecurityWallet.Foundation.Effect

/-!
# Two runs of computations with exceptions

`Alike R act state act' state'` says that the two runs return the same value, or throw the same
exception, and leave states that `R` relates. The rules step through both texts at once; what comes
without state, such as a decoder, must be the same on both sides.
-/

namespace Foundation.Effect

variable {ε σ τ α β γ : Type}

/-- Two runs end alike, in related states. -/
def Alike (R : σ → τ → Prop) (act : Effect ε σ α) (state : σ) (act' : Effect ε τ α)
    (state' : τ) : Prop :=
  (act.exec state).1 = (act'.exec state').1 ∧ R (act.exec state).2 (act'.exec state').2

section Rules

variable {R : σ → τ → Prop} {state : σ} {state' : τ}

theorem alike_pure (hrelated : R state state') {a b : α} (hvalue : a = b) :
    Alike R (pure a : Effect ε σ α) state (pure b) state' :=
  ⟨congrArg Except.ok hvalue, hrelated⟩

theorem alike_throw (hrelated : R state state') (e : ε) :
    Alike R (throw e : Effect ε σ α) state (throw e) state' :=
  ⟨rfl, hrelated⟩

theorem alike_get_bind {f : σ → Effect ε σ α} {f' : τ → Effect ε τ α}
    (hnext : Alike R (f state) state (f' state') state') :
    Alike R (get >>= f) state (get >>= f') state' := hnext

/-- The same call without state on both sides. -/
theorem alike_liftM_bind (hrelated : R state state') {x : Except ε α} {f : α → Effect ε σ β}
    {f' : α → Effect ε τ β}
    (hnext : ∀ a, x = .ok a → Alike R (f a) state (f' a) state') :
    Alike R (liftM x >>= f) state (liftM x >>= f') state' := by
  cases x with
  | error e => exact ⟨rfl, hrelated⟩
  | ok a => exact hnext a rfl

/-- A call without state whose left side returns the image of what the right side returns. -/
theorem alike_liftM_map_bind (hrelated : R state state') {x : Except ε α} {g : α → γ}
    {f : γ → Effect ε σ β} {f' : α → Effect ε τ β}
    (hnext : ∀ a, x = .ok a → Alike R (f (g a)) state (f' a) state') :
    Alike R (liftM (x.map g) >>= f) state (liftM x >>= f') state' := by
  cases x with
  | error e => exact ⟨rfl, hrelated⟩
  | ok a => exact hnext a rfl

theorem alike_ite {c : Prop} [Decidable c] {left right : Effect ε σ α}
    {left' right' : Effect ε τ α} (hthen : c → Alike R left state left' state')
    (helse : ¬ c → Alike R right state right' state') :
    Alike R (if c then left else right) state (if c then left' else right') state' := by
  by_cases hc : c
  · rw [if_pos hc, if_pos hc]
    exact hthen hc
  · rw [if_neg hc, if_neg hc]
    exact helse hc

theorem alike_bind {act : Effect ε σ α} {act' : Effect ε τ α} {f : α → Effect ε σ β}
    {f' : α → Effect ε τ β} (hact : Alike R act state act' state')
    (hnext : ∀ a, (act'.exec state').1 = .ok a →
      Alike R (f a) (act.exec state).2 (f' a) (act'.exec state').2) :
    Alike R (act >>= f) state (act' >>= f') state' := by
  obtain ⟨houtcome, hstates⟩ := hact
  unfold Alike
  rw [exec_bind, exec_bind]
  revert houtcome hstates hnext
  generalize act.exec state = run
  generalize act'.exec state' = run'
  obtain ⟨outcome, next⟩ := run
  obtain ⟨outcome', next'⟩ := run'
  rintro hnext rfl hstates
  cases outcome with
  | error e => exact ⟨rfl, hstates⟩
  | ok a => exact hnext a rfl

end Rules

end Foundation.Effect
