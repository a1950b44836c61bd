import Mathlib

/-!
# Ordered maps and sets

The maps and sets of the C++ standard library are ordered by their keys and iterate in that order.
They are the extensional tree maps and sets of the Lean library, at the order of the key type; what
is added is the lookup simp set at lawful keys, and an index built from a list of values.
-/

namespace Foundation

/-- A map that iterates in the order of its keys. -/
abbrev StdMap (κ α : Type) [Ord κ] := Std.ExtTreeMap κ α compare

/-- A set that iterates in order. -/
abbrev StdSet (κ : Type) [Ord κ] := Std.ExtTreeSet κ compare

namespace StdMap

section

variable {κ α β : Type} [Ord κ] [Std.TransOrd κ]

theorem contains_eq_isSome (m : StdMap κ α) (k : κ) : m.contains k = m[k]?.isSome := by
  simp

/-- The values in the order of their keys. -/
def valueList (m : StdMap κ α) : List α := m.toList.map Prod.snd

/-- Keeps the entries whose value passes a test. -/
def filterValues (q : α → Bool) (m : StdMap κ α) : StdMap κ α := m.filter fun _ => q

@[simp]
theorem valueList_filterValues (q : α → Bool) (m : StdMap κ α) :
    valueList (filterValues q m) = (valueList m).filter q := by
  simp [valueList, filterValues, List.filter_map, Function.comp_def]

/-- Applies a function to every value. -/
def mapValues (f : α → β) (m : StdMap κ α) : StdMap κ β := m.map fun _ => f

@[simp]
theorem valueList_mapValues (f : α → β) (m : StdMap κ α) :
    valueList (mapValues f m) = (valueList m).map f := by
  simp [valueList, mapValues]

@[simp]
theorem keys_mapValues (f : α → β) (m : StdMap κ α) :
    (mapValues f m).keys = m.keys := by
  simp [mapValues]

/-- Indexes values by a key of theirs; a later value replaces an earlier one of the same key. -/
def indexBy (key : α → κ) (vs : List α) (m : StdMap κ α) : StdMap κ α :=
  vs.foldl (fun m v => m.insert (key v) v) m

@[simp]
theorem indexBy_nil (key : α → κ) (m : StdMap κ α) : indexBy key [] m = m := rfl

@[simp]
theorem indexBy_cons (key : α → κ) (v : α) (vs : List α) (m : StdMap κ α) :
    indexBy key (v :: vs) m = indexBy key vs (m.insert (key v) v) := rfl

@[simp]
theorem isEmpty_indexBy (key : α → κ) (vs : List α) (m : StdMap κ α) :
    (indexBy key vs m).isEmpty = (vs.isEmpty && m.isEmpty) := by
  induction vs generalizing m with
  | nil => simp
  | cons v vs ih =>
      have hinsert : (m.insert (key v) v).isEmpty = false := by simp
      rw [indexBy_cons, ih, hinsert, Bool.and_false, List.isEmpty_cons, Bool.false_and]

/-- Counts the keys of a list. -/
def tally (keys : List κ) (counts : StdMap κ Nat) : StdMap κ Nat :=
  keys.foldl (fun counts k => counts.insert k (counts[k]?.getD 0 + 1)) counts

@[simp]
theorem tally_nil (counts : StdMap κ Nat) : tally [] counts = counts := rfl

@[simp]
theorem tally_cons (k : κ) (keys : List κ) (counts : StdMap κ Nat) :
    tally (k :: keys) counts = tally keys (counts.insert k (counts[k]?.getD 0 + 1)) := rfl

end

section Lawful

variable {κ α : Type} [Ord κ] [Std.TransOrd κ] [Std.LawfulEqOrd κ]

theorem lookup_insert [DecidableEq κ] (m : StdMap κ α) (k a : κ) (v : α) :
    (m.insert k v)[a]? = if k = a then some v else m[a]? := by
  simp [Std.ExtTreeMap.getElem?_insert]

theorem lookup_erase [DecidableEq κ] (m : StdMap κ α) (k a : κ) :
    (m.erase k)[a]? = if k = a then none else m[a]? := by
  simp [Std.ExtTreeMap.getElem?_erase]

omit [Std.LawfulEqOrd κ] in
@[simp]
theorem lookup_filterValues (q : α → Bool) (m : StdMap κ α) (k : κ) :
    (filterValues q m)[k]? = m[k]?.filter q := by
  simp [filterValues]

section MapValues

variable {β : Type} (f : α → β) (m : StdMap κ α)

@[simp]
theorem lookup_mapValues (k : κ) : (mapValues f m)[k]? = m[k]?.map f := by
  simp [mapValues]

/-- Two maps agree under a function exactly if they do so key by key. -/
theorem mapValues_eq_iff {m m' : StdMap κ α} :
    mapValues f m = mapValues f m' ↔
      ∀ k : κ, Option.Rel (fun v v' => f v = f v') m[k]? m'[k]? := by
  have hkey : ∀ k : κ, (mapValues f m)[k]? = (mapValues f m')[k]? ↔
      Option.Rel (fun v v' => f v = f v') m[k]? m'[k]? := by
    intro k
    rw [lookup_mapValues, lookup_mapValues]
    cases m[k]? <;> cases m'[k]? <;> simp
  constructor
  · intro heq k
    rw [← hkey, heq]
  · intro hrel
    exact Std.ExtTreeMap.ext_getElem? fun k => (hkey k).2 (hrel k)

theorem mapValues_mapValues {γ : Type} (g : β → γ) :
    mapValues g (mapValues f m) = mapValues (fun v => g (f v)) m := by
  apply Std.ExtTreeMap.ext_getElem?
  intro k
  simp [Function.comp_def]

theorem mapValues_insert [DecidableEq κ] (k : κ) (v : α) :
    mapValues f (m.insert k v) = (mapValues f m).insert k (f v) := by
  apply Std.ExtTreeMap.ext_getElem?
  intro a
  rw [lookup_mapValues, lookup_insert, lookup_insert, lookup_mapValues]
  split <;> rfl

theorem mapValues_erase [DecidableEq κ] (k : κ) :
    mapValues f (m.erase k) = (mapValues f m).erase k := by
  apply Std.ExtTreeMap.ext_getElem?
  intro a
  rw [lookup_mapValues, lookup_erase, lookup_erase, lookup_mapValues]
  split <;> rfl

end MapValues

/-- The list of the pairs finds what the map finds. -/
theorem find?_toList [DecidableEq κ] (m : StdMap κ α) (k : κ) :
    (m.toList.find? fun pair => pair.1 = k).map Prod.snd = m[k]? := by
  cases hfind : m.toList.find? fun pair => pair.1 = k with
  | some pair =>
      obtain ⟨key, v⟩ := pair
      obtain rfl : key = k := by simpa using List.find?_some hfind
      exact (Std.ExtTreeMap.mem_toList_iff_getElem?_eq_some.1 (List.mem_of_find?_eq_some hfind)).symm
  | none =>
      cases hk : m[k]? with
      | none => rfl
      | some v =>
          rw [List.find?_eq_none] at hfind
          exact absurd (decide_eq_true rfl)
            (hfind (k, v) (Std.ExtTreeMap.mem_toList_iff_getElem?_eq_some.2 hk))

theorem mem_valueList {m : StdMap κ α} {v : α} :
    v ∈ valueList m ↔ ∃ k : κ, m[k]? = some v := by
  simp [valueList, Std.ExtTreeMap.mem_toList_iff_getElem?_eq_some]

/-- Values that have their keys are listed in the strict order of these. -/
theorem pairwise_valueList (key : α → κ) {m : StdMap κ α}
    (hkey : ∀ k v, m[k]? = some v → key v = k) :
    (valueList m).Pairwise fun v w => compare (key v) (key w) = .lt := by
  rw [valueList, List.pairwise_map]
  refine Std.ExtTreeMap.ordered_keys_toList.imp_of_mem ?_
  intro entry other hentry hother hlt
  rwa [hkey entry.1 entry.2 (Std.ExtTreeMap.mem_toList_iff_getElem?_eq_some.1 hentry),
    hkey other.1 other.2 (Std.ExtTreeMap.mem_toList_iff_getElem?_eq_some.1 hother)]

/-- An index finds the last value of a key, if there is one. -/
theorem lookup_indexBy [DecidableEq κ] (key : α → κ) (vs : List α) (m : StdMap κ α) (k : κ) :
    (indexBy key vs m)[k]? = (vs.filter fun v => key v = k).getLast?.or m[k]? := by
  induction vs generalizing m with
  | nil => simp
  | cons v vs ih =>
      rw [indexBy_cons, ih, lookup_insert, List.filter_cons]
      by_cases hk : key v = k
      · rw [if_pos hk, if_pos (by simpa using hk), List.getLast?_cons]
        cases (vs.filter fun w => key w = k).getLast? <;> rfl
      · rw [if_neg hk, if_neg (by simpa using hk)]

/-- What an index finds under a key is a value of that key, or was there before. -/
theorem of_lookup_indexBy [DecidableEq κ] {key : α → κ} {vs : List α} {m : StdMap κ α} {k : κ}
    {v : α} (hlookup : (indexBy key vs m)[k]? = some v) :
    (v ∈ vs ∧ key v = k) ∨ m[k]? = some v := by
  rw [lookup_indexBy, Option.or_eq_some_iff] at hlookup
  rcases hlookup with hlast | ⟨-, hbefore⟩
  · exact .inl (by simpa using List.mem_filter.1 (List.mem_of_getLast? hlast))
  · exact .inr hbefore

/-- A map whose keys are a key of its values is the index of its values. -/
theorem indexBy_valueList [DecidableEq κ] (key : α → κ) (m : StdMap κ α)
    (hkey : ∀ k v, m[k]? = some v → key v = k) : indexBy key (valueList m) ∅ = m := by
  have hvalues : ∀ k, ∀ v ∈ (valueList m).filter fun v => key v = k, m[k]? = some v := by
    intro k v hv
    obtain ⟨hmem, hvk⟩ := List.mem_filter.1 hv
    obtain ⟨k', hk'⟩ := mem_valueList.1 hmem
    rwa [← of_decide_eq_true hvk, hkey k' v hk']
  apply Std.ExtTreeMap.ext_getElem?
  intro k
  rw [lookup_indexBy, Std.ExtTreeMap.getElem?_empty, Option.or_none]
  cases hlast : ((valueList m).filter fun v => key v = k).getLast? with
  | some v => exact (hvalues k v (List.mem_of_getLast? hlast)).symm
  | none =>
      rw [List.getLast?_eq_none_iff, List.filter_eq_nil_iff] at hlast
      cases hk : m[k]? with
      | none => rfl
      | some v => exact absurd (hkey k v hk) (by simpa using hlast v (mem_valueList.2 ⟨k, hk⟩))

/-- A key of the list has its occurrences added; every other key keeps what it has. -/
theorem lookup_tally [DecidableEq κ] (keys : List κ) (counts : StdMap κ Nat) (k : κ) :
    (tally keys counts)[k]? =
      if k ∈ keys then some (counts[k]?.getD 0 + keys.count k) else counts[k]? := by
  induction keys generalizing counts with
  | nil => rfl
  | cons head keys ih =>
      rw [tally_cons, ih, lookup_insert]
      by_cases hhead : head = k
      · subst hhead
        rw [if_pos rfl, if_pos List.mem_cons_self, List.count_cons_self, Option.getD_some]
        by_cases hmem : head ∈ keys
        · rw [if_pos hmem]
          congr 1
          omega
        · rw [if_neg hmem, List.count_eq_zero_of_not_mem hmem]
      · rw [if_neg hhead, List.count_cons_of_ne hhead]
        simp only [List.mem_cons, Ne.symm hhead, false_or]

/-- The counts of all keys add up to the length of the list. -/
theorem sum_tally [DecidableEq κ] (keys : List κ) :
    (valueList (tally keys ∅)).sum = keys.length := by
  have hcounts : ∀ entry ∈ (tally keys ∅).toList, entry.2 = keys.count entry.1 := by
    rintro ⟨k, count⟩ hentry
    rw [Std.ExtTreeMap.mem_toList_iff_getElem?_eq_some, lookup_tally] at hentry
    split at hentry
    · simpa using (Option.some.inj hentry).symm
    · simp at hentry
  have hkeys : (tally keys ∅).keys.Perm keys.dedup := by
    rw [List.perm_ext_iff_of_nodup Std.ExtTreeMap.nodup_keys keys.nodup_dedup]
    intro k
    rw [Std.ExtTreeMap.mem_keys, List.mem_dedup, Std.ExtTreeMap.mem_iff_isSome_getElem?,
      lookup_tally]
    split <;> simp [*]
  calc (valueList (tally keys ∅)).sum
      = ((tally keys ∅).toList.map fun entry => keys.count entry.1).sum := by
        rw [valueList, List.map_congr_left hcounts]
    _ = ((tally keys ∅).keys.map fun k => keys.count k).sum := by
        rw [← Std.ExtTreeMap.map_fst_toList_eq_keys, List.map_map]
        rfl
    _ = (keys.dedup.map fun k => keys.count k).sum := (hkeys.map _).sum_eq
    _ = keys.length := List.sum_map_count_dedup_eq_length keys

instance [DecidableEq κ] [DecidableEq α] : DecidableEq (StdMap κ α) := fun m n =>
  decidable_of_iff (m.toList = n.toList) Std.ExtTreeMap.toList_inj

end Lawful

end StdMap

namespace StdSet

variable {κ : Type} [Ord κ] [Std.TransOrd κ]

/-- The sets have an element in common. -/
def Meets (s t : StdSet κ) : Prop := ∃ k, k ∈ s ∧ k ∈ t

theorem size_ne_zero_of_mem {s : StdSet κ} {k : κ} (hmem : k ∈ s) : s.size ≠ 0 := by
  rw [ne_eq, ← Std.ExtTreeSet.eq_empty_iff_size_eq_zero]
  rintro rfl
  exact Std.ExtTreeSet.not_mem_empty hmem

variable [Std.LawfulEqOrd κ]

theorem ofList_toList [DecidableEq κ] (s : StdSet κ) : Std.ExtTreeSet.ofList s.toList = s := by
  apply Std.ExtTreeSet.ext_mem
  intro k
  rw [Std.ExtTreeSet.mem_ofList, List.contains_iff_mem, Std.ExtTreeSet.mem_toList]

instance [DecidableEq κ] (s t : StdSet κ) : Decidable (Meets s t) :=
  decidable_of_iff (∃ k ∈ s.toList, k ∈ t) (by simp only [Std.ExtTreeSet.mem_toList, Meets])

end StdSet

end Foundation
