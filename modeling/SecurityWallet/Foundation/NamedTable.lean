import SecurityWallet.Foundation.StdMap

/-!
# Tables whose rows have a key and a name

A table holds rows under a key of theirs, and no two rows have the same name. Both are fields of the
structure, so a row can only be put where its name is free. There is one lookup lemma for each way to
find a row and each operation.
-/

namespace Foundation

/-- In a list with distinct keys, a search for a key finds the one element that has it. -/
theorem find?_eq_some_of_nodup {κ α : Type} [DecidableEq κ] {key : α → κ} {list : List α}
    (hnodup : (list.map key).Nodup) {k : κ} {v : α} :
    list.find? (fun w => key w = k) = some v ↔ v ∈ list ∧ key v = k := by
  constructor
  · intro hfind
    exact ⟨List.mem_of_find?_eq_some hfind, by simpa using List.find?_some hfind⟩
  · rintro ⟨hmem, hkey⟩
    cases hfind : list.find? fun w => key w = k with
    | none => exact absurd hkey (by simpa using List.find?_eq_none.1 hfind v hmem)
    | some w =>
        have hw : key w = key v := by
          rw [hkey]
          simpa using List.find?_some hfind
        rw [List.inj_on_of_nodup_map hnodup (List.mem_of_find?_eq_some hfind) hmem hw]

/-- A table of rows `α` with a unique key and a unique name. -/
@[ext]
structure NamedTable {κ ν α : Type} [Ord κ] [Std.TransOrd κ] (key : α → κ) (name : α → ν) where
  rows : StdMap κ α
  keyed : ∀ {k : κ} {v : α}, rows[k]? = some v → key v = k
  named : ∀ {k j : κ} {v w : α}, rows[k]? = some v → rows[j]? = some w → name v = name w → k = j

namespace NamedTable

variable {κ ν α : Type} [Ord κ] [Std.TransOrd κ] {key : α → κ} {name : α → ν}

/-- The rows in the order of their keys. -/
def list (table : NamedTable key name) : List α := table.rows.valueList

/-- The row of the name. -/
def find? [DecidableEq ν] (table : NamedTable key name) (n : ν) : Option α :=
  table.list.find? fun v => name v = n

variable [Std.LawfulEqOrd κ]

theorem mem_list {table : NamedTable key name} {v : α} :
    v ∈ table.list ↔ ∃ k : κ, table.rows[k]? = some v :=
  StdMap.mem_valueList

theorem mem_list_iff {table : NamedTable key name} {v : α} :
    v ∈ table.list ↔ table.rows[key v]? = some v := by
  rw [mem_list]
  constructor
  · rintro ⟨k, hk⟩
    rwa [table.keyed hk]
  · intro hv
    exact ⟨key v, hv⟩

theorem find?_eq_some [DecidableEq ν] {table : NamedTable key name} {n : ν} {v : α} :
    table.find? n = some v ↔ name v = n ∧ table.rows[key v]? = some v := by
  rw [← mem_list_iff]
  constructor
  · intro hfind
    exact ⟨by simpa using List.find?_some hfind, List.mem_of_find?_eq_some hfind⟩
  · rintro ⟨rfl, hmem⟩
    cases hfind : table.find? (name v) with
    | none =>
        rw [find?, List.find?_eq_none] at hfind
        exact absurd (decide_eq_true rfl) (hfind v hmem)
    | some w =>
        have hw := List.mem_of_find?_eq_some hfind
        have hname : name w = name v := by simpa using List.find?_some hfind
        rw [mem_list_iff] at hmem hw
        have hkey := table.named hw hmem hname
        rw [hkey, hmem] at hw
        exact hw.symm

/-- A search of the rows for a key is a lookup of the key. -/
theorem find?_key [DecidableEq κ] (table : NamedTable key name) (k : κ) :
    (table.list.find? fun v => key v = k) = table.rows[k]? := by
  have hfound : ∀ {v : α}, (table.list.find? fun v => key v = k) = some v →
      table.rows[k]? = some v := by
    intro v hfind
    have hkey : key v = k := by simpa using List.find?_some hfind
    rw [← hkey]
    exact mem_list_iff.1 (List.mem_of_find?_eq_some hfind)
  cases hfind : table.list.find? fun v => key v = k with
  | some v => exact (hfound hfind).symm
  | none =>
      symm
      rw [Option.eq_none_iff_forall_ne_some]
      intro v hv
      exact absurd (table.keyed hv) (by
        simpa using List.find?_eq_none.1 hfind v (mem_list.2 ⟨k, hv⟩))

theorem find?_eq_none [DecidableEq ν] {table : NamedTable key name} {n : ν} :
    table.find? n = none ↔ ∀ (k : κ) (v : α), table.rows[k]? = some v → name v ≠ n := by
  rw [find?, List.find?_eq_none]
  constructor
  · intro hnone k v hv
    simpa using hnone v (mem_list.2 ⟨k, hv⟩)
  · intro hnone v hmem
    obtain ⟨k, hk⟩ := mem_list.1 hmem
    simpa using hnone k v hk

/-- No other row has the name of the row. -/
def Free (table : NamedTable key name) (v : α) : Prop :=
  ∀ w ∈ table.list, name w = name v → key w = key v

instance [DecidableEq κ] [DecidableEq ν] (table : NamedTable key name) (v : α) :
    Decidable (table.Free v) :=
  inferInstanceAs (Decidable (∀ w ∈ table.list, name w = name v → key w = key v))

variable [DecidableEq κ]

/-- Puts a row in the place of its key. -/
def put (table : NamedTable key name) (v : α) (hfree : table.Free v) : NamedTable key name where
  rows := table.rows.insert (key v) v
  keyed := by
    intro k w hw
    rw [StdMap.lookup_insert] at hw
    by_cases hk : key v = k
    · rw [if_pos hk, Option.some_inj] at hw
      rw [← hw, hk]
    · rw [if_neg hk] at hw
      exact table.keyed hw
  named := by
    have hother : ∀ {j : κ} {w : α}, table.rows[j]? = some w → name w = name v → j = key v := by
      intro j w hw hname
      rw [← table.keyed hw]
      exact hfree w (mem_list.2 ⟨j, hw⟩) hname
    intro k j w u hw hu hname
    rw [StdMap.lookup_insert] at hw hu
    by_cases hk : key v = k
    · rw [if_pos hk, Option.some_inj] at hw
      by_cases hj : key v = j
      · rw [← hk, hj]
      · rw [if_neg hj] at hu
        rw [← hk, hother hu (by rw [← hname, hw])]
    · rw [if_neg hk] at hw
      by_cases hj : key v = j
      · rw [if_pos hj, Option.some_inj] at hu
        rw [← hj, hother hw (by rw [hname, hu])]
      · rw [if_neg hj] at hu
        exact table.named hw hu hname

/-- Takes the row of a key out. -/
def erase (table : NamedTable key name) (k : κ) : NamedTable key name where
  rows := table.rows.erase k
  keyed := by
    intro j v hv
    rw [StdMap.lookup_erase] at hv
    by_cases hj : k = j
    · simp [hj] at hv
    · rw [if_neg hj] at hv
      exact table.keyed hv
  named := by
    intro i j v w hv hw hname
    rw [StdMap.lookup_erase] at hv hw
    by_cases hi : k = i
    · simp [hi] at hv
    · by_cases hj : k = j
      · simp [hj] at hw
      · rw [if_neg hi] at hv
        rw [if_neg hj] at hw
        exact table.named hv hw hname

@[simp]
theorem rows_put (table : NamedTable key name) (v : α) (hfree : table.Free v) :
    (table.put v hfree).rows = table.rows.insert (key v) v := rfl

@[simp]
theorem rows_erase (table : NamedTable key name) (k : κ) :
    (table.erase k).rows = table.rows.erase k := rfl

end NamedTable

end Foundation
