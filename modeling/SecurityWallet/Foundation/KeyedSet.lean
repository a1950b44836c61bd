import Mathlib.Data.Finset.Dedup
import Mathlib.Data.Finset.Lattice.Lemmas
import SecurityWallet.Foundation.HashedMap

/-!
# Finite sets whose values have a key

In a keyed set no two values have the same key. It is what a table under hashes of keys stands for:
a lookup in the table is a search of the set, and the table lists each value of the set once.
-/

namespace Foundation

@[ext]
structure KeyedSet {κ α : Type} (key : α → κ) where
  values : Finset α
  unique : Set.InjOn key values

namespace KeyedSet

variable {κ α : Type} {key : α → κ}

open Classical in
/-- The value of a key. -/
noncomputable def find? (set : KeyedSet key) (k : κ) : Option α :=
  if h : ∃ v ∈ set.values, key v = k then some h.choose else none

theorem find?_eq_some {set : KeyedSet key} {k : κ} {v : α} :
    set.find? k = some v ↔ v ∈ set.values ∧ key v = k := by
  unfold find?
  split
  · next hfound =>
      obtain ⟨hmem, hkey⟩ := hfound.choose_spec
      rw [Option.some_inj]
      constructor
      · intro heq
        exact heq ▸ ⟨hmem, hkey⟩
      · rintro ⟨hv, rfl⟩
        exact set.unique hmem hv hkey
  · next hnone => exact iff_of_false (by simp) fun hv => hnone ⟨v, hv⟩

section Write

variable [DecidableEq κ] [DecidableEq α]

/-- Puts a value in the place of its key, or takes the value of a key away. -/
def write (set : KeyedSet key) (k : κ) (value : Option α) (hvalue : ∀ v, value = some v → key v = k) :
    KeyedSet key where
  values := set.values.filter (fun v => key v ≠ k) ∪ value.toFinset
  unique := by
    intro v hv w hw hkey
    simp only [Finset.coe_union, Finset.coe_filter, Set.mem_union, Set.mem_ofPred_eq,
      Finset.mem_coe, Option.mem_toFinset, Option.mem_def] at hv hw
    rcases hv with ⟨hv, hne⟩ | hv <;> rcases hw with ⟨hw, hne'⟩ | hw
    · exact set.unique hv hw hkey
    · exact absurd (hkey.trans (hvalue w hw)) hne
    · exact absurd (hkey.symm.trans (hvalue v hv)) hne'
    · exact Option.some.inj (hv.symm.trans hw)

theorem mem_write {set : KeyedSet key} {k : κ} {value : Option α}
    {hvalue : ∀ v, value = some v → key v = k} {v : α} :
    v ∈ (set.write k value hvalue).values ↔ v ∈ set.values ∧ key v ≠ k ∨ value = some v := by
  rw [write, Finset.mem_union, Finset.mem_filter, Option.mem_toFinset, Option.mem_def]

theorem find?_write (set : KeyedSet key) (k : κ) (value : Option α)
    (hvalue : ∀ v, value = some v → key v = k) :
    (set.write k value hvalue).find? = Function.update set.find? k value := by
  funext j
  apply Option.ext
  intro v
  rw [find?_eq_some, mem_write]
  by_cases hj : j = k
  · subst hj
    rw [Function.update_self]
    constructor
    · rintro ⟨⟨-, hne⟩ | hv, hkey⟩
      · exact absurd hkey hne
      · exact hv
    · intro hv
      exact ⟨.inr hv, hvalue v hv⟩
  · rw [Function.update_of_ne hj, find?_eq_some]
    constructor
    · rintro ⟨⟨hmem, -⟩ | hv, hkey⟩
      · exact ⟨hmem, hkey⟩
      · exact absurd (hkey.symm.trans (hvalue v hv)) hj
    · rintro ⟨hmem, hkey⟩
      exact ⟨.inl ⟨hmem, fun hk => hj (hkey.symm.trans hk)⟩, hkey⟩

end Write

section Tables

variable {η : Type} [Ord η] [Std.TransOrd η] [Std.LawfulEqOrd η] {hash : κ → η}
  {table : StdMap η α}

/-- A table lists each value of the set that it stands for once. -/
theorem coe_valueList {set : KeyedSet key} (hhashed : HashedBy hash key set.find? table) :
    (table.valueList : Multiset α) = set.values.val := by
  have hnodup : table.valueList.Nodup := by
    refine (StdMap.pairwise_valueList (fun v => hash (key v)) fun h v hv =>
      ((hhashed.lookup h v).1 hv).1).imp ?_
    rintro v _ hlt rfl
    simp at hlt
  refine (Multiset.Nodup.ext (Multiset.coe_nodup.2 hnodup) set.values.nodup).2 fun v => ?_
  rw [Multiset.mem_coe, StdMap.mem_valueList, Finset.mem_val]
  constructor
  · rintro ⟨h, hv⟩
    exact (find?_eq_some.1 ((hhashed.lookup h v).1 hv).2).1
  · intro hmem
    exact ⟨hash (key v), (hhashed.lookup _ v).2 ⟨rfl, find?_eq_some.2 ⟨hmem, rfl⟩⟩⟩

variable [DecidableEq α]

/-- What a table stands for that has each value under the hash of its key. -/
def ofTable (hash : κ → η) (table : StdMap η α)
    (hkeyed : ∀ (h : η) (v : α), table[h]? = some v → hash (key v) = h) : KeyedSet key where
  values := table.valueList.toFinset
  unique := by
    intro v hv w hw hkey
    simp only [List.coe_toFinset, Set.mem_ofPred_eq, StdMap.mem_valueList] at hv hw
    obtain ⟨h, hv⟩ := hv
    obtain ⟨j, hw⟩ := hw
    have heq : h = j := by
      rw [← hkeyed h v hv, ← hkeyed j w hw, hkey]
    subst heq
    exact Option.some.inj (hv.symm.trans hw)

theorem hashedBy_ofTable
    (hkeyed : ∀ (h : η) (v : α), table[h]? = some v → hash (key v) = h) :
    HashedBy hash key (ofTable hash table hkeyed).find? table where
  keyed := fun _ _ hv => (find?_eq_some.1 hv).2
  lookup := by
    intro h v
    rw [find?_eq_some, ofTable, List.mem_toFinset, StdMap.mem_valueList]
    constructor
    · intro hv
      exact ⟨hkeyed h v hv, ⟨h, hv⟩, rfl⟩
    · rintro ⟨rfl, ⟨j, hv⟩, -⟩
      rwa [hkeyed j v hv]

end Tables

end KeyedSet

end Foundation
