import SecurityWallet.Foundation.StdMap

/-!
# A map kept under hashes of its keys

An abstract map from keys to values is often kept in a table under a hash of the key, with no check
of the key at a lookup. `HashedBy` relates the two. A lookup of a key is right exactly as long as
no other present key has its hash, and as long as that is so, an insertion and an erasure keep the
relation.
-/

namespace Foundation

variable {κ η α : Type}

/-- A key other than `k` is present in the abstract map and has the hash of `k`. -/
def Collides (hash : κ → η) (abstract : κ → Option α) (k : κ) : Prop :=
  ∃ k', k' ≠ k ∧ (abstract k').isSome ∧ hash k' = hash k

variable [Ord η] [Std.TransOrd η]

/-- The table holds exactly the values of the abstract map, each under the hash of its key. -/
structure HashedBy (hash : κ → η) (key : α → κ) (abstract : κ → Option α) (table : StdMap η α) :
    Prop where
  keyed : ∀ k v, abstract k = some v → key v = k
  lookup : ∀ (h : η) v, table[h]? = some v ↔ hash (key v) = h ∧ abstract (key v) = some v

namespace HashedBy

variable {hash : κ → η} {key : α → κ} {abstract : κ → Option α} {table : StdMap η α} {k : κ}

theorem empty : HashedBy hash key (fun _ => none) (∅ : StdMap η α) where
  keyed := by simp
  lookup := by simp

/-- What is present is found. -/
theorem found (hhashed : HashedBy hash key abstract table) {v : α} (hpresent : abstract k = some v) :
    table[hash k]? = some v := by
  have hkey := hhashed.keyed k v hpresent
  exact (hhashed.lookup (hash k) v).2 ⟨by rw [hkey], by rw [hkey, hpresent]⟩

/-- Without a collision a lookup under the hash of a key is one of the key. -/
theorem lookup_eq (hhashed : HashedBy hash key abstract table)
    (hfree : ¬ Collides hash abstract k) : table[hash k]? = abstract k := by
  apply Option.ext
  intro v
  constructor
  · intro hfound
    obtain ⟨hhash, hpresent⟩ := (hhashed.lookup (hash k) v).1 hfound
    by_cases hkey : key v = k
    · rwa [hkey] at hpresent
    · exact absurd ⟨key v, hkey, by rw [hpresent, Option.isSome_some], hhash⟩ hfree
  · exact hhashed.found

/-- With a collision a lookup finds the value of another key, and `k` itself is absent. -/
theorem of_collides (hhashed : HashedBy hash key abstract table)
    (hcollides : Collides hash abstract k) :
    abstract k = none ∧ ∃ v, abstract (key v) = some v ∧ table[hash k]? = some v := by
  obtain ⟨k', hne, hpresent, hhash⟩ := hcollides
  obtain ⟨v, hv⟩ := Option.isSome_iff_exists.1 hpresent
  have hfound : table[hash k]? = some v := by
    rw [← hhash]
    exact hhashed.found hv
  obtain rfl := hhashed.keyed k' v hv
  refine ⟨?_, v, hv, hfound⟩
  cases hk : abstract k with
  | none => rfl
  | some w =>
      obtain rfl := Option.some.inj (hfound.symm.trans (hhashed.found hk))
      exact absurd (hhashed.keyed k v hk) hne

variable [DecidableEq κ] [DecidableEq η]

/-- A table that changes at one hash follows the abstract map as it changes at one key. -/
theorem update (hhashed : HashedBy hash key abstract table) (hfree : ¬ Collides hash abstract k)
    {value : Option α} (hvalue : ∀ v, value = some v → key v = k) {next : StdMap η α}
    (hnext : ∀ h : η, next[h]? = if hash k = h then value else table[h]?) :
    HashedBy hash key (Function.update abstract k value) next where
  keyed := by
    intro k' v hv
    by_cases hk : k' = k
    · subst hk
      rw [Function.update_self] at hv
      exact hvalue v hv
    · rw [Function.update_of_ne hk] at hv
      exact hhashed.keyed k' v hv
  lookup := by
    intro h v
    rw [hnext]
    by_cases hk : key v = k
    · rw [hk, Function.update_self]
      split
      · next hh => simp [hh]
      · next hh => simp [hhashed.lookup, hk, hh]
    · rw [Function.update_of_ne hk]
      split
      · next hh =>
          -- The hash of `k` is that of no other present key, and no new value is under another key.
          subst hh
          constructor
          · intro hv
            exact absurd (hvalue v hv) hk
          · rintro ⟨hhash, hpresent⟩
            exact absurd ⟨key v, hk, by rw [hpresent, Option.isSome_some], hhash⟩ hfree
      · exact hhashed.lookup h v

end HashedBy

end Foundation
