import Mathlib

/-!
# When a computation without state returns

Inversion of the constructs of `Except`: each lemma says from what a returned value comes. Together
they peel a decoder apart in the order of its text.
-/

namespace Foundation

variable {ε ε' α β : Type}

@[simp]
theorem pure_eq_ok {a b : α} : (pure a : Except ε α) = .ok b ↔ a = b := by
  simp [pure, Except.pure]

@[simp]
theorem throw_ne_ok {e : ε} {a : α} : (throw e : Except ε α) ≠ .ok a := nofun

theorem bind_eq_ok {x : Except ε α} {f : α → Except ε β} {b : β} :
    x >>= f = .ok b ↔ ∃ a, x = .ok a ∧ f a = .ok b := by
  cases x <;> simp [bind, Except.bind]

theorem map_eq_ok {f : α → β} {x : Except ε α} {b : β} :
    f <$> x = .ok b ↔ ∃ a, x = .ok a ∧ f a = b := by
  cases x <;> simp [Functor.map, Except.map]

@[simp]
theorem mapError_eq_ok {f : ε → ε'} {x : Except ε α} {a : α} :
    x.mapError f = .ok a ↔ x = .ok a := by
  cases x <;> simp [Except.mapError]

theorem mapM_eq_ok {f : α → Except ε β} {as : List α} {bs : List β} :
    as.mapM f = .ok bs ↔ List.Forall₂ (fun a b => f a = .ok b) as bs := by
  induction as generalizing bs with
  | nil => cases bs <;> simp
  | cons a as ih =>
      rw [List.mapM_cons, bind_eq_ok, List.forall₂_cons_left_iff]
      simp only [bind_eq_ok, pure_eq_ok, ih]
      constructor
      · rintro ⟨b, hb, rest, hrest, rfl⟩
        exact ⟨b, rest, hb, hrest, rfl⟩
      · rintro ⟨b, rest, hb, hrest, rfl⟩
        exact ⟨b, hb, rest, hrest, rfl⟩

/-- A list is mapped if each of its elements is. -/
theorem exists_mapM_eq_ok {f : α → Except ε β} {as : List α} :
    (∃ bs, as.mapM f = .ok bs) ↔ ∀ a ∈ as, ∃ b, f a = .ok b := by
  simp only [mapM_eq_ok]
  induction as with
  | nil => simp
  | cons a as ih =>
      rw [List.forall_mem_cons, ← ih]
      simp only [List.forall₂_cons_left_iff]
      constructor
      · rintro ⟨_, b, bs, hb, hbs, rfl⟩
        exact ⟨⟨b, hb⟩, bs, hbs⟩
      · rintro ⟨⟨b, hb⟩, bs, hbs⟩
        exact ⟨b :: bs, b, bs, hb, hbs, rfl⟩

theorem getElem?_of_forall₂ {R : α → β → Prop} {as : List α} {bs : List β}
    (hrelated : List.Forall₂ R as bs) {index : Nat} {a : α} (hlookup : as[index]? = some a) :
    ∃ b, bs[index]? = some b ∧ R a b := by
  induction hrelated generalizing index with
  | nil => simp at hlookup
  | @cons a' b as bs hab _ ih =>
      cases index with
      | zero =>
          rw [List.getElem?_cons_zero, Option.some_inj] at hlookup
          exact ⟨b, rfl, hlookup ▸ hab⟩
      | succ index =>
          rw [List.getElem?_cons_succ] at hlookup ⊢
          exact ih hlookup

theorem exists_mem_of_forall₂ {R : α → β → Prop} {as : List α} {bs : List β}
    (hrelated : List.Forall₂ R as bs) {b : β} (hmem : b ∈ bs) : ∃ a ∈ as, R a b := by
  induction hrelated with
  | nil => cases hmem
  | @cons a b' as bs hab _ ih =>
      rcases List.mem_cons.1 hmem with rfl | hmem
      · exact ⟨a, List.mem_cons_self, hab⟩
      · obtain ⟨c, hc, hcb⟩ := ih hmem
        exact ⟨c, List.mem_cons_of_mem a hc, hcb⟩

/-! ### Two computations -/

/-- Both throw the same, or they return what is related. -/
def SameOutcome (R : α → β → Prop) : Except ε α → Except ε β → Prop
  | .ok a, .ok b => R a b
  | .error e, .error e' => e = e'
  | _, _ => False

theorem SameOutcome.of_eq {x y : Except ε α} (heq : x = y) : SameOutcome Eq x y := by
  subst heq
  cases x <;> rfl

theorem SameOutcome.eq {x y : Except ε α} (hsame : SameOutcome Eq x y) : x = y := by
  cases x <;> cases y <;> first | exact congrArg _ hsame | exact hsame.elim

theorem SameOutcome.bind {γ δ : Type} {R : α → β → Prop} {S : γ → δ → Prop} {x : Except ε α}
    {y : Except ε β} {f : α → Except ε γ} {g : β → Except ε δ} (hsame : SameOutcome R x y)
    (hnext : ∀ a b, x = .ok a → y = .ok b → R a b → SameOutcome S (f a) (g b)) :
    SameOutcome S (x >>= f) (y >>= g) := by
  cases x with
  | ok a =>
      cases y with
      | ok b => exact hnext a b rfl rfl hsame
      | error e => exact hsame.elim
  | error e =>
      cases y with
      | ok b => exact hsame.elim
      | error e' => exact hsame

/-! ### Errors as they are reported -/

section MapError

variable (f : ε → ε')

@[simp]
theorem mapError_ok (a : α) : (Except.ok a : Except ε α).mapError f = .ok a := rfl

@[simp]
theorem mapError_error (e : ε) : (Except.error e : Except ε α).mapError f = .error (f e) := rfl

theorem mapError_map (g : α → β) (x : Except ε α) :
    (x.map g).mapError f = (x.mapError f).map g := by
  cases x <;> rfl

end MapError

end Foundation
