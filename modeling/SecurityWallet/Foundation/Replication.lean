import Mathlib.Data.Set.Basic
import Mathlib.Data.List.Basic
import Mathlib.Logic.Function.Basic

/-!
# Copies of a map that lag behind

A map changes by writes to one key at a time, and each write is put on a stream. A copy of the map
takes the writes from the stream in order, but later, and may read keys of the map at any moment in
between. It then reads values whose writes it is still to be handed; that these are replayed over
newer values does no harm in the end, because the stream ends with what the map has.
-/

namespace Foundation

/-- A write to one key: its new value, or `none` if it is taken away. -/
structure Write (κ α : Type) where
  key : κ
  value : Option α

namespace Write

variable {κ α : Type} [DecidableEq κ]

def apply (write : Write κ α) (map : κ → Option α) : κ → Option α :=
  Function.update map write.key write.value

theorem apply_self (write : Write κ α) (map : κ → Option α) :
    write.apply map write.key = write.value :=
  Function.update_self _ _ _

theorem apply_of_ne {write : Write κ α} {k : κ} (hother : k ≠ write.key) (map : κ → Option α) :
    write.apply map k = map k :=
  Function.update_of_ne hother _ _

theorem apply_congr {copy map : κ → Option α} {k : κ} (hkey : copy k = map k)
    (write : Write κ α) : write.apply copy k = write.apply map k := by
  by_cases hwritten : k = write.key
  · rw [hwritten, apply_self, apply_self]
  · rw [apply_of_ne hwritten, apply_of_ne hwritten, hkey]

def replay (writes : List (Write κ α)) (map : κ → Option α) : κ → Option α :=
  writes.foldl (fun map write => write.apply map) map

@[simp]
theorem replay_nil (map : κ → Option α) : replay [] map = map := rfl

@[simp]
theorem replay_cons (write : Write κ α) (writes : List (Write κ α)) (map : κ → Option α) :
    replay (write :: writes) map = replay writes (write.apply map) := rfl

theorem replay_append_singleton (writes : List (Write κ α)) (write : Write κ α)
    (map : κ → Option α) : replay (writes ++ [write]) map = write.apply (replay writes map) := by
  rw [replay, List.foldl_append]
  rfl

theorem replay_congr {copy map : κ → Option α} {k : κ} (hkey : copy k = map k)
    (writes : List (Write κ α)) : replay writes copy k = replay writes map k := by
  induction writes generalizing copy map with
  | nil => exact hkey
  | cons write writes ih =>
      rw [replay_cons, replay_cons]
      exact ih (apply_congr hkey write)

/-- From wherever the writes are replayed over the map, they end with the map. -/
def EndIn (writes : List (Write κ α)) (map : κ → Option α) : Prop :=
  ∀ n, replay (writes.drop n) map = map

theorem EndIn.nil (map : κ → Option α) : EndIn [] map := by
  intro n
  rw [List.drop_nil, replay_nil]

theorem EndIn.append {writes : List (Write κ α)} {map : κ → Option α} (hend : EndIn writes map)
    (write : Write κ α) : EndIn (writes ++ [write]) (write.apply map) := by
  intro n
  by_cases hn : n ≤ writes.length
  · rw [List.drop_append_of_le_length hn, replay_append_singleton]
    funext k
    by_cases hwritten : k = write.key
    · rw [hwritten, apply_self, apply_self]
    · have hkey : write.apply map k = map k := apply_of_ne hwritten map
      calc write.apply (replay (writes.drop n) (write.apply map)) k
          = replay (writes.drop n) (write.apply map) k := apply_of_ne hwritten _
        _ = replay (writes.drop n) map k := replay_congr hkey _
        _ = write.apply map k := by rw [hend n, hkey]
  · rw [List.drop_eq_nil_of_le (by simp; omega), replay_nil]

/-- With the pending writes replayed, the copy has what the map has under the keys. -/
def CatchesUp (pending : List (Write κ α)) (copy map : κ → Option α) (keys : Set κ) : Prop :=
  ∀ k ∈ keys, replay pending copy k = map k

namespace CatchesUp

variable {pending : List (Write κ α)} {copy map : κ → Option α} {keys : Set κ}

/-- The map is written to, and the write is put on the stream. -/
theorem write (hcatches : CatchesUp pending copy map keys) (write : Write κ α) :
    CatchesUp (pending ++ [write]) copy (write.apply map) keys := by
  intro k hk
  rw [replay_append_singleton]
  exact apply_congr (hcatches k hk) write

/-- The copy takes a write from the stream. -/
theorem take {write : Write κ α} (hcatches : CatchesUp (write :: pending) copy map keys) :
    CatchesUp pending (write.apply copy) map keys := hcatches

/-- The copy reads keys of the map while writes are pending. -/
theorem read {writes : List (Write κ α)} {n : Nat}
    (hcatches : CatchesUp (writes.drop n) copy map keys) (hend : EndIn writes map)
    {read : Set κ} {next : κ → Option α} (hread : ∀ k ∈ read, next k = map k)
    (hother : ∀ k ∉ read, next k = copy k) : CatchesUp (writes.drop n) next map (read ∪ keys) := by
  intro k hk
  by_cases hmem : k ∈ read
  · rw [replay_congr (hread k hmem), hend n]
  · rw [replay_congr (hother k hmem), hcatches k (hk.resolve_left hmem)]

end CatchesUp

end Write

end Foundation
