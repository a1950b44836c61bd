import SecurityWallet.Foundation.StdMap

/-!
# A map with a secondary index

A store keeps its values in a primary map and once more in a secondary one, under a name of each
value. `Indexes` says that the two agree; it is kept by inserting a value with a free name, by
erasing and by replacing a value, when both maps are edited together. Two indexes built from one
list agree exactly if keys and names are repeated together in it.
-/

namespace Foundation

variable {κ ν α : Type} [Ord κ] [Std.TransOrd κ] [Std.LawfulEqOrd κ] [DecidableEq κ]
  [Ord ν] [Std.TransOrd ν] [Std.LawfulEqOrd ν] [DecidableEq ν]

/-- `secondary` holds the values of `primary`, each under its name, and no two share a name. -/
structure Indexes (name : α → ν) (primary : StdMap κ α) (secondary : StdMap ν α) : Prop where
  unique : ∀ {i j : κ} {v w : α},
    primary[i]? = some v → primary[j]? = some w → name v = name w → i = j
  lookup : ∀ (n : ν) (v : α),
    secondary[n]? = some v ↔ name v = n ∧ ∃ i : κ, primary[i]? = some v

namespace Indexes

variable {name : α → ν} {primary : StdMap κ α} {secondary : StdMap ν α}

omit [DecidableEq κ] [DecidableEq ν] [Std.LawfulEqOrd κ] [Std.LawfulEqOrd ν] in
theorem empty : Indexes name (∅ : StdMap κ α) (∅ : StdMap ν α) where
  unique := by simp
  lookup := by simp

omit [DecidableEq κ] [DecidableEq ν] [Std.LawfulEqOrd κ] [Std.LawfulEqOrd ν] in
/-- A name is in the secondary map exactly if a value has it. -/
theorem contains_iff (hindexes : Indexes name primary secondary) (n : ν) :
    secondary.contains n = true ↔ ∃ (i : κ) (v : α), primary[i]? = some v ∧ name v = n := by
  rw [StdMap.contains_eq_isSome, Option.isSome_iff_exists]
  constructor
  · rintro ⟨v, hv⟩
    obtain ⟨hname, i, hi⟩ := (hindexes.lookup n v).1 hv
    exact ⟨i, v, hi, hname⟩
  · rintro ⟨i, v, hi, hname⟩
    exact ⟨v, (hindexes.lookup n v).2 ⟨hname, i, hi⟩⟩

theorem insert (hindexes : Indexes name primary secondary) {i : κ} {v : α}
    (hkey : primary[i]? = none) (hname : secondary.contains (name v) = false) :
    Indexes name (primary.insert i v) (secondary.insert (name v) v) where
  unique := by
    have hfree : ∀ {j : κ} {w : α}, primary[j]? = some w → name v ≠ name w := by
      intro j w hw heq
      have htaken := (hindexes.contains_iff (name v)).2 ⟨j, w, hw, heq.symm⟩
      rw [hname] at htaken
      exact Bool.false_ne_true htaken
    intro j k w u hw hu heq
    rw [StdMap.lookup_insert] at hw hu
    split at hw <;> split at hu
    · next hj hk => rw [← hj, ← hk]
    · cases hw
      exact absurd heq (hfree hu)
    · cases hu
      exact absurd heq.symm (hfree hw)
    · exact hindexes.unique hw hu heq
  lookup := by
    intro n w
    rw [StdMap.lookup_insert]
    by_cases hn : name v = n
    · rw [if_pos hn, Option.some_inj]
      constructor
      · rintro rfl
        exact ⟨hn, i, by simp⟩
      · rintro ⟨hw, j, hj⟩
        rw [StdMap.lookup_insert] at hj
        split at hj
        · exact Option.some_inj.1 hj
        · have htaken := (hindexes.contains_iff (name v)).2 ⟨j, w, hj, hw.trans hn.symm⟩
          rw [hname] at htaken
          exact absurd htaken Bool.false_ne_true
    · rw [if_neg hn, hindexes.lookup]
      refine and_congr_right fun hw => exists_congr fun j => ?_
      rw [StdMap.lookup_insert]
      by_cases hj : i = j
      · rw [if_pos hj, ← hj, hkey]
        constructor
        · simp
        · intro heq
          exact absurd ((congrArg name (Option.some_inj.1 heq)).trans hw) hn
      · rw [if_neg hj]

theorem erase (hindexes : Indexes name primary secondary) {i : κ} {v : α}
    (hkey : primary[i]? = some v) :
    Indexes name (primary.erase i) (secondary.erase (name v)) where
  unique := by
    intro j k w u hw hu heq
    rw [StdMap.lookup_erase] at hw hu
    split at hw
    · simp at hw
    · split at hu
      · simp at hu
      · exact hindexes.unique hw hu heq
  lookup := by
    intro n w
    rw [StdMap.lookup_erase]
    constructor
    · intro h
      split at h
      · simp at h
      · next hn =>
          obtain ⟨hw, j, hj⟩ := (hindexes.lookup n w).1 h
          refine ⟨hw, j, ?_⟩
          rw [StdMap.lookup_erase, if_neg, hj]
          rintro rfl
          rw [hkey] at hj
          exact hn ((congrArg name (Option.some_inj.1 hj)).trans hw)
    · rintro ⟨hw, j, hj⟩
      rw [StdMap.lookup_erase] at hj
      split at hj
      · simp at hj
      · next hne =>
          rw [if_neg]
          · exact (hindexes.lookup n w).2 ⟨hw, j, hj⟩
          · intro hn
            exact hne (hindexes.unique hkey hj (hn.trans hw.symm))

/-- Replacing a value, possibly by one with another name that is free. -/
theorem replace (hindexes : Indexes name primary secondary) {i : κ} {v w : α}
    (hkey : primary[i]? = some v)
    (hname : name w = name v ∨ secondary.contains (name w) = false) :
    Indexes name (primary.insert i w) ((secondary.erase (name v)).insert (name w) w) := by
  have hfree : (secondary.erase (name v)).contains (name w) = false := by
    rw [StdMap.contains_eq_isSome, StdMap.lookup_erase]
    rcases hname with hname | hname
    · simp [hname]
    · rw [StdMap.contains_eq_isSome] at hname
      split <;> simp_all
  have hinsert := (hindexes.erase hkey).insert (i := i) (v := w) (by simp)
    hfree
  have hprimary : (primary.erase i).insert i w = primary.insert i w := by
    apply Std.ExtTreeMap.ext_getElem?
    intro j
    simp only [StdMap.lookup_insert, StdMap.lookup_erase]
    split <;> simp_all
  rwa [hprimary] at hinsert

end Indexes

/-! ### Two indexes of one list -/

/-- The last value of the list that `f` maps to `k`. -/
def lastOf {β : Type} [DecidableEq β] (f : α → β) (vs : List α) (k : β) : Option α :=
  (vs.filter fun v => f v = k).getLast?

section LastOf

variable {β : Type} [DecidableEq β] {f : α → β} {v : α} {vs : List α}

theorem of_lastOf {k : β} (hlast : lastOf f vs k = some v) : v ∈ vs ∧ f v = k := by
  simpa using List.mem_filter.1 (List.mem_of_getLast? hlast)

/-- In front of a list that has values of the same image a value is never the last. -/
theorem lastOf_cons_of_mem {w : α} (hmem : w ∈ vs) :
    lastOf f (v :: vs) (f w) = lastOf f vs (f w) := by
  have hne : (vs.filter fun u => f u = f w) ≠ [] :=
    List.ne_nil_of_mem (List.mem_filter.2 ⟨hmem, by simp⟩)
  unfold lastOf
  rw [List.filter_cons]
  split
  · rw [List.getLast?_cons_of_ne_nil hne]
  · rfl

/-- A value in front of a list it is not in is the last if its image is not repeated. -/
theorem lastOf_cons_self (hmem : v ∉ vs) :
    lastOf f (v :: vs) (f v) = some v ↔ ¬ ∃ w ∈ vs, f w = f v := by
  unfold lastOf
  rw [List.filter_cons_of_pos (by simp), List.getLast?_cons, Option.some_inj]
  cases hlast : (vs.filter fun w => f w = f v).getLast? with
  | none =>
      rw [List.getLast?_eq_none_iff, List.filter_eq_nil_iff] at hlast
      refine iff_of_true rfl ?_
      rintro ⟨w, hw, himage⟩
      exact hlast w hw (by simpa using himage)
  | some u =>
      obtain ⟨hu, himage⟩ := List.mem_filter.1 (List.mem_of_getLast? hlast)
      refine iff_of_false ?_ (not_not.2 ⟨u, hu, by simpa using himage⟩)
      intro hv
      rw [Option.getD_some] at hv
      exact hmem (hv ▸ hu)

end LastOf

/-- Later values repeat the key of a value exactly if later ones repeat its name. -/
def RepeatTogether (key : α → κ) (name : α → ν) : List α → Prop
  | [] => True
  | v :: vs =>
      ((∃ w ∈ vs, key w = key v) ↔ ∃ w ∈ vs, name w = name v) ∧ RepeatTogether key name vs

instance decidableRepeatTogether (key : α → κ) (name : α → ν) :
    (vs : List α) → Decidable (RepeatTogether key name vs)
  | [] => inferInstanceAs (Decidable True)
  | v :: vs =>
      have := decidableRepeatTogether key name vs
      inferInstanceAs (Decidable (((∃ w ∈ vs, key w = key v) ↔ ∃ w ∈ vs, name w = name v) ∧
        RepeatTogether key name vs))

omit [Ord κ] [Std.TransOrd κ] [Std.LawfulEqOrd κ] [Ord ν] [Std.TransOrd ν] [Std.LawfulEqOrd ν] in
theorem repeatTogether_iff {key : α → κ} {name : α → ν} {vs : List α} :
    RepeatTogether key name vs ↔
      ∀ v ∈ vs, lastOf key vs (key v) = some v ↔ lastOf name vs (name v) = some v := by
  induction vs with
  | nil => simp [RepeatTogether]
  | cons v vs ih =>
      rw [RepeatTogether, ih]
      constructor
      · rintro ⟨hhead, hrest⟩ w hw
        by_cases hmem : w ∈ vs
        · rw [lastOf_cons_of_mem hmem, lastOf_cons_of_mem hmem]
          exact hrest w hmem
        · obtain rfl := (List.mem_cons.1 hw).resolve_right hmem
          rw [lastOf_cons_self hmem, lastOf_cons_self hmem, hhead]
      · intro hlast
        constructor
        · by_cases hmem : v ∈ vs
          · exact iff_of_true ⟨v, hmem, rfl⟩ ⟨v, hmem, rfl⟩
          · have hhead := hlast v List.mem_cons_self
            rwa [lastOf_cons_self hmem, lastOf_cons_self hmem, not_iff_not] at hhead
        · intro w hw
          have hrest := hlast w (List.mem_cons_of_mem v hw)
          rwa [lastOf_cons_of_mem hw, lastOf_cons_of_mem hw] at hrest

theorem lookup_indexBy_empty (key : α → κ) (vs : List α) (k : κ) :
    (StdMap.indexBy key vs ∅)[k]? = lastOf key vs k := by
  rw [StdMap.lookup_indexBy, Std.ExtTreeMap.getElem?_empty, Option.or_none, lastOf]

/-- Indexing a list by key and by name gives two maps that agree in exactly one case. -/
theorem indexes_indexBy_iff {key : α → κ} {name : α → ν} {vs : List α} :
    Indexes name (StdMap.indexBy key vs ∅) (StdMap.indexBy name vs ∅) ↔
      RepeatTogether key name vs := by
  rw [repeatTogether_iff]
  constructor
  · intro hindexes v hv
    rw [← lookup_indexBy_empty, ← lookup_indexBy_empty, hindexes.lookup]
    constructor
    · intro hkey
      exact ⟨rfl, key v, hkey⟩
    · rintro ⟨-, i, hi⟩
      have hki := (of_lastOf (lookup_indexBy_empty key vs i ▸ hi)).2
      rwa [hki]
  · intro hlast
    have hstored : ∀ {i v}, (StdMap.indexBy key vs ∅)[i]? = some v ↔
        key v = i ∧ lastOf name vs (name v) = some v := by
      intro i v
      rw [lookup_indexBy_empty]
      constructor
      · intro hv
        obtain ⟨hmem, rfl⟩ := of_lastOf hv
        exact ⟨rfl, (hlast v hmem).1 hv⟩
      · rintro ⟨rfl, hv⟩
        exact (hlast v (of_lastOf hv).1).2 hv
    refine ⟨?_, ?_⟩
    · intro i j v w hv hw hname
      obtain ⟨rfl, hlastv⟩ := hstored.1 hv
      obtain ⟨rfl, hlastw⟩ := hstored.1 hw
      rw [hname, hlastw] at hlastv
      rw [Option.some.inj hlastv]
    · intro n v
      rw [lookup_indexBy_empty]
      constructor
      · intro hv
        obtain ⟨-, rfl⟩ := of_lastOf hv
        exact ⟨rfl, key v, hstored.2 ⟨rfl, hv⟩⟩
      · rintro ⟨rfl, i, hi⟩
        exact (hstored.1 hi).2

end Foundation
