import SecurityWallet.Foundation.Effect

/-!
# Pre- and postconditions of computations with exceptions

`Ensures act state Q E` says that `act`, run from `state`, ends as described: in `Q` if it returns
and in `E` if it throws. There is one rule for each construct, so a goal about a handler unfolds
along the text of the handler.
-/

namespace Foundation.Effect

variable {ε σ τ α β : Type}

/-- Ends in `Q` when it returns and in `E` when it throws. -/
def Ensures (act : Effect ε σ α) (state : σ) (Q : α → σ → Prop) (E : ε → σ → Prop) : Prop :=
  match act.exec state with
  | (.ok a, next) => Q a next
  | (.error e, next) => E e next

section Rules

variable {Q : α → σ → Prop} {E : ε → σ → Prop} {state : σ}

theorem ensures_pure (a : α) : Ensures (pure a : Effect ε σ α) state Q E ↔ Q a state := Iff.rfl

theorem ensures_throw (e : ε) : Ensures (throw e : Effect ε σ α) state Q E ↔ E e state := Iff.rfl

theorem ensures_get {Q : σ → σ → Prop} :
    Ensures (get : Effect ε σ σ) state Q E ↔ Q state state := Iff.rfl

theorem ensures_set {Q : PUnit → σ → Prop} (next : σ) :
    Ensures (set next : Effect ε σ PUnit) state Q E ↔ Q ⟨⟩ next := Iff.rfl

theorem ensures_modify {Q : PUnit → σ → Prop} (f : σ → σ) :
    Ensures (modify f : Effect ε σ PUnit) state Q E ↔ Q ⟨⟩ (f state) := Iff.rfl

theorem ensures_liftM (x : Except ε α) :
    Ensures (liftM x : Effect ε σ α) state Q E ↔
      (∀ a, x = .ok a → Q a state) ∧ ∀ e, x = .error e → E e state := by
  rw [Ensures, exec_liftM]
  cases x <;> simp

theorem ensures_bind {Q : β → σ → Prop} (act : Effect ε σ α) (f : α → Effect ε σ β) :
    Ensures (act >>= f) state Q E ↔
      Ensures act state (fun a next => Ensures (f a) next Q E) E := by
  rw [Ensures, exec_bind, Ensures]
  cases act.exec state with
  | mk outcome next => cases outcome <;> rfl

theorem ensures_ite (c : Prop) [Decidable c] (act act' : Effect ε σ α) :
    Ensures (if c then act else act') state Q E ↔
      (c → Ensures act state Q E) ∧ (¬ c → Ensures act' state Q E) := by
  split <;> simp_all

theorem ensures_zoom {τ : Type} {Q : α → σ → Prop} (view : σ → τ) (put : τ → σ → σ)
    (act : Effect ε τ α) :
    Ensures (zoom view put act) state Q E ↔
      Ensures act (view state) (fun a next => Q a (put next state))
        fun e next => E e (put next state) := by
  rw [Ensures, exec_zoom, Ensures]
  cases act.exec (view state) with
  | mk outcome next => cases outcome <;> rfl

theorem Ensures.imp {act : Effect ε σ α} {Q' : α → σ → Prop} {E' : ε → σ → Prop}
    (hensures : Ensures act state Q E) (hreturn : ∀ a next, Q a next → Q' a next)
    (hthrow : ∀ e next, E e next → E' e next) : Ensures act state Q' E' := by
  unfold Ensures at hensures ⊢
  split at hensures
  · exact hreturn _ _ hensures
  · exact hthrow _ _ hensures

/-- A computation that cannot throw returns. -/
theorem Ensures.returns {act : Effect ε σ α} (hensures : Ensures act state Q fun _ _ => False) :
    ∃ a next, Returns act state a next ∧ Q a next := by
  unfold Ensures at hensures
  split at hensures
  · next a next heq => exact ⟨a, next, heq, hensures⟩
  · exact hensures.elim

/-- A loop over a list: each step keeps the invariant and returns what is asked of its element. -/
theorem Ensures.mapM {I : σ → Prop} {P : α → β → Prop} {f : α → Effect ε σ β} {as : List α}
    (hstep : ∀ a ∈ as, ∀ state, I state → Ensures (f a) state (fun b next => I next ∧ P a b) E)
    (hstart : I state) :
    Ensures (as.mapM f) state (fun bs next => I next ∧ List.Forall₂ P as bs) E := by
  induction as generalizing state with
  | nil => exact ⟨hstart, .nil⟩
  | cons a as ih =>
      rw [List.mapM_cons, ensures_bind]
      refine (hstep a List.mem_cons_self state hstart).imp ?_ fun _ _ h => h
      rintro b next ⟨hnext, hb⟩
      rw [ensures_bind]
      refine (ih (fun c hc => hstep c (List.mem_cons_of_mem a hc)) hnext).imp ?_ fun _ _ h => h
      rintro bs last ⟨hlast, hbs⟩
      exact ⟨hlast, .cons hb hbs⟩

end Rules

end Foundation.Effect
