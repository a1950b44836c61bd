import Mathlib

/-!
# Chained encryption of bytes with a block cipher

A block cipher under a fixed key is a permutation of blocks. Cipher block chaining with padding
turns it into an encryption of bytes. Both directions come in two calls, as a streaming interface
has them: an update for what is already complete and a final call for the rest.
-/

namespace Foundation

/-- Four bytes. -/
structure Column where
  a : UInt8
  b : UInt8
  c : UInt8
  d : UInt8
deriving DecidableEq, Repr

/-- Sixteen bytes, as four columns. -/
structure Block where
  p : Column
  q : Column
  r : Column
  s : Column
deriving DecidableEq, Repr

namespace Column

def xor (x y : Column) : Column := ⟨x.a ^^^ y.a, x.b ^^^ y.b, x.c ^^^ y.c, x.d ^^^ y.d⟩

@[simp]
theorem xor_xor_cancel (x y : Column) : (x.xor y).xor y = x := by simp [xor]

def bytes (x : Column) : List UInt8 := [x.a, x.b, x.c, x.d]

end Column

namespace Block

def xor (x y : Block) : Block := ⟨x.p.xor y.p, x.q.xor y.q, x.r.xor y.r, x.s.xor y.s⟩

@[simp]
theorem xor_xor_cancel (x y : Block) : (x.xor y).xor y = x := by simp [xor]

def bytes (x : Block) : List UInt8 := x.p.bytes ++ x.q.bytes ++ x.r.bytes ++ x.s.bytes

@[simp]
theorem length_bytes (x : Block) : x.bytes.length = 16 := rfl

/-- The complete blocks of some bytes and the bytes that are left. -/
def split : List UInt8 → List Block × List UInt8
  | a :: b :: c :: d :: e :: f :: g :: h :: i :: j :: k :: l :: m :: n :: o :: p :: rest =>
      (⟨⟨a, b, c, d⟩, ⟨e, f, g, h⟩, ⟨i, j, k, l⟩, ⟨m, n, o, p⟩⟩ :: (split rest).1, (split rest).2)
  | rest => ([], rest)

@[simp]
theorem split_bytes_append (x : Block) (data : List UInt8) :
    split (x.bytes ++ data) = (x :: (split data).1, (split data).2) := rfl

theorem bytes_injective : Function.Injective bytes := by
  intro x y hbytes
  have hsplit := split_bytes_append x []
  rw [hbytes, split_bytes_append] at hsplit
  exact (List.cons.inj (Prod.mk.inj hsplit).1).1.symm

/-- Splitting loses nothing. -/
theorem flatMap_bytes_split (data : List UInt8) :
    (split data).1.flatMap bytes ++ (split data).2 = data := by
  fun_induction split data with
  | case1 a b c d e f g h i j k l m n o p rest ih => simp [bytes, Column.bytes, ih]
  | case2 => rfl

theorem length_split_lt (data : List UInt8) : (split data).2.length < 16 := by
  fun_induction split data with
  | case1 a b c d e f g h i j k l m n o p rest ih => exact ih
  | case2 rest hshort =>
      rcases rest with _ | ⟨a, _ | ⟨b, _ | ⟨c, _ | ⟨d, _ | ⟨e, _ | ⟨f, _ | ⟨g, _ | ⟨h, _ | ⟨i, _ |
        ⟨j, _ | ⟨k, _ | ⟨l, _ | ⟨m, _ | ⟨n, _ | ⟨o, _ | ⟨p, rest⟩⟩⟩⟩⟩⟩⟩⟩⟩⟩⟩⟩⟩⟩⟩⟩
      case cons.cons.cons.cons.cons.cons.cons.cons.cons.cons.cons.cons.cons.cons.cons.cons =>
        exact (hshort _ _ _ _ _ _ _ _ _ _ _ _ _ _ _ _ rest rfl).elim
      all_goals simp

@[simp]
theorem length_flatMap_bytes (xs : List Block) : (xs.flatMap bytes).length = 16 * xs.length := by
  rw [List.length_flatMap, List.map_congr_left fun x _ => length_bytes x, List.map_const',
    List.sum_replicate]
  simp [mul_comm]

/-- The bytes are all in complete blocks exactly if their number is a multiple of that of a block. -/
theorem split_snd_eq_nil_iff {data : List UInt8} : (split data).2 = [] ↔ 16 ∣ data.length := by
  have hlength := congrArg List.length (flatMap_bytes_split data)
  have hlt := length_split_lt data
  rw [List.length_append, length_flatMap_bytes] at hlength
  rw [← List.length_eq_zero_iff]
  omega

theorem flatMap_bytes_of_dvd {data : List UInt8} (hdata : 16 ∣ data.length) :
    (split data).1.flatMap bytes = data := by
  have hjoin := flatMap_bytes_split data
  rwa [split_snd_eq_nil_iff.2 hdata, List.append_nil] at hjoin

/-- As many bytes as a block has are those of one. -/
theorem exists_bytes_eq {data : List UInt8} (hdata : data.length = 16) : ∃ x, bytes x = data := by
  have hdvd : 16 ∣ data.length := by rw [hdata]
  have hjoin := flatMap_bytes_of_dvd hdvd
  have hlength := congrArg List.length hjoin
  rw [length_flatMap_bytes, hdata] at hlength
  obtain ⟨x, hx⟩ := List.length_eq_one_iff.1 (show (split data).1.length = 1 by omega)
  rw [hx, List.flatMap_singleton] at hjoin
  exact ⟨x, hjoin⟩

@[simp]
theorem split_flatMap_bytes (xs : List Block) : split (xs.flatMap bytes) = (xs, []) := by
  induction xs with
  | nil => rfl
  | cons x xs ih => rw [List.flatMap_cons, split_bytes_append, ih]

end Block

/-! ### Padding -/

/-- The bytes that complete the last block; each tells their number. -/
def padding (length : Nat) : List UInt8 :=
  List.replicate (16 - length % 16) (UInt8.ofNat (16 - length % 16))

/-- Takes the padding off the last block. -/
def unpad (block : List UInt8) : Option (List UInt8) :=
  let n := (block.getLastD 0).toNat
  if n = 0 ∨ 16 < n then none
  else if (block.drop (16 - n)).all fun byte => byte.toNat = n then some (block.take (16 - n))
  else none

theorem unpad_append {front : List UInt8} {n : Nat} (hlength : front.length + n = 16)
    (hn : 0 < n) : unpad (front ++ List.replicate n (UInt8.ofNat n)) = some front := by
  have htoNat : (UInt8.ofNat n).toNat = n := by
    rw [UInt8.toNat_ofNat']
    omega
  have hlast : ((front ++ List.replicate n (UInt8.ofNat n)).getLastD 0).toNat = n := by
    rw [List.getLastD_eq_getLast?, List.getLast?_append_of_ne_nil _ (by simp; omega),
      List.getLast?_replicate, if_neg (by omega)]
    exact htoNat
  have hfront : front.length = 16 - n := by omega
  rw [unpad, hlast, if_neg (by omega), ← hfront, List.drop_left, List.take_left, if_pos]
  simp [htoNat]

/-- What the padding was taken off is the block with the padding put back. -/
theorem of_unpad {block front : List UInt8} (hblock : block.length = 16)
    (hunpad : unpad block = some front) :
    ∃ n, 0 < n ∧ front.length + n = 16 ∧
      block = front ++ List.replicate n (UInt8.ofNat n) := by
  unfold unpad at hunpad
  dsimp only at hunpad
  split at hunpad
  · cases hunpad
  · next hrange =>
      split at hunpad
      · next hall =>
          obtain rfl := Option.some.inj hunpad
          generalize (block.getLastD 0).toNat = n at hrange hall
          refine ⟨n, by omega, ?_, ?_⟩
          · rw [List.length_take]
            omega
          · have hpadding : block.drop (16 - n) = List.replicate n (UInt8.ofNat n) := by
              rw [List.eq_replicate_iff]
              constructor
              · rw [List.length_drop]
                omega
              · intro byte hbyte
                have hvalue := of_decide_eq_true (List.all_eq_true.1 hall byte hbyte)
                rw [← hvalue, UInt8.ofNat_toNat]
            rw [← hpadding, List.take_append_drop]
      · cases hunpad

/-- The last bytes of the block all tell their number. -/
def ValidPadding (block : List UInt8) : Prop :=
  ∃ n, 0 < n ∧ n ≤ 16 ∧ block.drop (16 - n) = List.replicate n (UInt8.ofNat n)

theorem isSome_unpad_iff {block : List UInt8} (hblock : block.length = 16) :
    (unpad block).isSome ↔ ValidPadding block := by
  constructor
  · intro hsome
    obtain ⟨front, hunpad⟩ := Option.isSome_iff_exists.1 hsome
    obtain ⟨n, hpos, hlength, hsplit⟩ := of_unpad hblock hunpad
    have hfront : 16 - n = front.length := by omega
    refine ⟨n, hpos, by omega, ?_⟩
    rw [hsplit, hfront, List.drop_left]
  · rintro ⟨n, hpos, hle, hpadding⟩
    have hlength : (block.take (16 - n)).length + n = 16 := by
      rw [List.length_take]
      omega
    have hunpad := unpad_append hlength hpos
    rw [← hpadding, List.take_append_drop] at hunpad
    rw [hunpad, Option.isSome_some]

/-! ### Chaining -/

/-- A block cipher under a fixed key. -/
abbrev BlockCipher := Equiv.Perm Block

namespace BlockCipher

variable (σ : BlockCipher)

def encryptBlocks : (iv : Block) → List Block → List Block
  | _, [] => []
  | iv, x :: xs => σ (x.xor iv) :: encryptBlocks (σ (x.xor iv)) xs

def decryptBlocks : (iv : Block) → List Block → List Block
  | _, [] => []
  | iv, y :: ys => (σ.symm y).xor iv :: decryptBlocks y ys

theorem decryptBlocks_encryptBlocks (iv : Block) (xs : List Block) :
    σ.decryptBlocks iv (σ.encryptBlocks iv xs) = xs := by
  induction xs generalizing iv with
  | nil => rfl
  | cons x xs ih => rw [encryptBlocks, decryptBlocks, ih, Equiv.symm_apply_apply,
      Block.xor_xor_cancel]

theorem encryptBlocks_decryptBlocks (iv : Block) (ys : List Block) :
    σ.encryptBlocks iv (σ.decryptBlocks iv ys) = ys := by
  induction ys generalizing iv with
  | nil => rfl
  | cons y ys ih => rw [decryptBlocks, encryptBlocks, Block.xor_xor_cancel,
      Equiv.apply_symm_apply, ih]

@[simp]
theorem length_encryptBlocks (iv : Block) (xs : List Block) :
    (σ.encryptBlocks iv xs).length = xs.length := by
  induction xs generalizing iv with
  | nil => rfl
  | cons x xs ih => rw [encryptBlocks, List.length_cons, ih, List.length_cons]

/-! ### Encryption and decryption of bytes -/

/-- The blocks of padded bytes. -/
def paddedBlocks (data : List UInt8) : List Block := (Block.split (data ++ padding data.length)).1

theorem flatMap_paddedBlocks (data : List UInt8) :
    (paddedBlocks data).flatMap Block.bytes = data ++ padding data.length := by
  apply Block.flatMap_bytes_of_dvd
  rw [List.length_append, padding, List.length_replicate]
  omega

/-- The blocks that do not depend on the padding. -/
def encryptUpdate (iv : Block) (data : List UInt8) : List UInt8 :=
  ((σ.encryptBlocks iv (paddedBlocks data)).take (data.length / 16)).flatMap Block.bytes

def encryptFinal (iv : Block) (data : List UInt8) : List UInt8 :=
  ((σ.encryptBlocks iv (paddedBlocks data)).drop (data.length / 16)).flatMap Block.bytes

theorem encryptUpdate_append_encryptFinal (iv : Block) (data : List UInt8) :
    σ.encryptUpdate iv data ++ σ.encryptFinal iv data =
      (σ.encryptBlocks iv (paddedBlocks data)).flatMap Block.bytes := by
  rw [encryptUpdate, encryptFinal, ← List.flatMap_append, List.take_append_drop]

/-- Even no bytes give a block, the one with the padding. -/
theorem encrypt_ne_nil (iv : Block) (data : List UInt8) :
    σ.encryptUpdate iv data ++ σ.encryptFinal iv data ≠ [] := by
  intro hnil
  have hlength := congrArg List.length (flatMap_paddedBlocks data)
  rw [encryptUpdate_append_encryptFinal, List.flatMap_eq_nil_iff] at hnil
  cases hblocks : paddedBlocks data with
  | nil =>
      rw [hblocks, List.length_append, padding, List.length_replicate] at hlength
      simp only [List.flatMap_nil, List.length_nil] at hlength
      omega
  | cons x xs =>
      rw [hblocks, encryptBlocks] at hnil
      exact absurd (congrArg List.length (hnil _ List.mem_cons_self)) (by simp)

/-- If only complete blocks came in, the last one is withheld: it may be the one with the padding. -/
def decryptUpdate (iv : Block) (data : List UInt8) : List UInt8 :=
  let plain := σ.decryptBlocks iv (Block.split data).1
  (if (Block.split data).2.isEmpty then plain.dropLast else plain).flatMap Block.bytes

/-- Fails unless only complete blocks came in and the last one ends in a padding. -/
def decryptFinal (iv : Block) (data : List UInt8) : Option (List UInt8) :=
  if (Block.split data).2.isEmpty then
    (σ.decryptBlocks iv (Block.split data).1).getLast?.bind fun last => unpad last.bytes
  else none

/-- The last block of padded bytes ends in the padding. -/
theorem last_of_padded {front data : List UInt8} {last : Block}
    (hpadded : front ++ last.bytes = data ++ padding data.length) :
    ∃ tail, last.bytes = tail ++ padding data.length ∧ front ++ tail = data := by
  have hn : (padding data.length).length ≤ last.bytes.length := by
    rw [padding, List.length_replicate, Block.length_bytes]
    omega
  obtain ⟨tail, rest, hsplit, hrest⟩ : ∃ tail rest, last.bytes = tail ++ rest ∧
      rest.length = (padding data.length).length :=
    ⟨_, _, (List.take_append_drop (last.bytes.length - (padding data.length).length) _).symm, by
      rw [List.length_drop]
      omega⟩
  rw [hsplit, ← List.append_assoc] at hpadded
  obtain ⟨hfront, rfl⟩ := List.append_inj' hpadded hrest
  exact ⟨tail, hsplit, hfront⟩

/-- Decryption undoes encryption. -/
theorem decrypt_encrypt (iv : Block) (data : List UInt8) :
    ∃ last,
      σ.decryptFinal iv (σ.encryptUpdate iv data ++ σ.encryptFinal iv data) = some last ∧
        σ.decryptUpdate iv (σ.encryptUpdate iv data ++ σ.encryptFinal iv data) ++ last = data := by
  have hpadded := flatMap_paddedBlocks data
  rw [encryptUpdate_append_encryptFinal, decryptFinal, decryptUpdate, Block.split_flatMap_bytes]
  simp only [decryptBlocks_encryptBlocks, List.isEmpty_nil, if_true]
  generalize paddedBlocks data = xs at hpadded
  rcases List.eq_nil_or_concat xs with rfl | ⟨front, last, rfl⟩
  · have hlength := congrArg List.length hpadded
    rw [List.flatMap_nil, List.length_append, padding, List.length_replicate] at hlength
    simp only [List.length_nil] at hlength
    omega
  · rw [List.concat_eq_append, List.flatMap_append, List.flatMap_singleton] at hpadded
    obtain ⟨tail, hlast, hfront⟩ := last_of_padded hpadded
    have hlength : tail.length + (16 - data.length % 16) = 16 := by
      simpa [padding] using (congrArg List.length hlast).symm
    refine ⟨tail, ?_, ?_⟩
    · rw [List.concat_eq_append, List.getLast?_concat, Option.bind_some, hlast, padding]
      exact unpad_append hlength (by omega)
    · rw [List.concat_eq_append, List.dropLast_concat, hfront]

/-- The final call succeeds exactly on complete blocks of which the last one ends in a padding. -/
theorem isSome_decryptFinal_iff (iv : Block) (data : List UInt8) :
    (σ.decryptFinal iv data).isSome ↔
      16 ∣ data.length ∧ ∃ last, (σ.decryptBlocks iv (Block.split data).1).getLast? = some last ∧
        ValidPadding last.bytes := by
  unfold decryptFinal
  rw [← Block.split_snd_eq_nil_iff, ← List.isEmpty_iff]
  split
  · next hcomplete =>
      cases hlast : (σ.decryptBlocks iv (Block.split data).1).getLast? with
      | none => simp
      | some last => simp [hcomplete, isSome_unpad_iff last.length_bytes]
  · next hrest => simp [hrest]

/-- What the final call accepts is the encryption of what both calls return. -/
theorem encrypt_of_decryptFinal {iv : Block} {data tail : List UInt8}
    (hfinal : σ.decryptFinal iv data = some tail) :
    σ.encryptUpdate iv (σ.decryptUpdate iv data ++ tail) ++
      σ.encryptFinal iv (σ.decryptUpdate iv data ++ tail) = data := by
  unfold decryptFinal at hfinal
  split at hfinal
  · next hcomplete =>
      obtain ⟨last, hlast, hunpad⟩ := Option.bind_eq_some_iff.1 hfinal
      obtain ⟨n, hpos, hlength, hbytes⟩ := of_unpad last.length_bytes hunpad
      obtain ⟨front, hblocks⟩ := List.getLast?_eq_some_iff.1 hlast
      have hupdate : σ.decryptUpdate iv data = front.flatMap Block.bytes := by
        unfold decryptUpdate
        dsimp only
        rw [if_pos hcomplete, hblocks, List.dropLast_concat]
      have hn : 16 - (front.flatMap Block.bytes ++ tail).length % 16 = n := by
        rw [List.length_append, Block.length_flatMap_bytes]
        omega
      have hpadded : paddedBlocks (front.flatMap Block.bytes ++ tail) =
          σ.decryptBlocks iv (Block.split data).1 := by
        rw [paddedBlocks, padding, hn, List.append_assoc, ← hbytes, hblocks,
          ← List.flatMap_singleton Block.bytes last, ← List.flatMap_append,
          Block.split_flatMap_bytes]
      rw [hupdate, encryptUpdate_append_encryptFinal, hpadded, encryptBlocks_decryptBlocks]
      apply Block.flatMap_bytes_of_dvd
      exact Block.split_snd_eq_nil_iff.1 (List.isEmpty_iff.1 hcomplete)
  · cases hfinal

/--
Bytes are the encryption of what both calls return for them, a failing final call adding nothing,
exactly if the final call succeeds.
-/
theorem encrypt_decrypt_iff (iv : Block) (data : List UInt8) :
    σ.encryptUpdate iv (σ.decryptUpdate iv data ++ (σ.decryptFinal iv data).getD []) ++
        σ.encryptFinal iv (σ.decryptUpdate iv data ++ (σ.decryptFinal iv data).getD []) = data ↔
      (σ.decryptFinal iv data).isSome := by
  constructor
  · intro hgenuine
    generalize σ.decryptUpdate iv data ++ (σ.decryptFinal iv data).getD [] = plain at hgenuine
    obtain ⟨last, hfinal, -⟩ := σ.decrypt_encrypt iv plain
    rw [hgenuine] at hfinal
    rw [hfinal, Option.isSome_some]
  · intro hsome
    obtain ⟨tail, hfinal⟩ := Option.isSome_iff_exists.1 hsome
    rw [hfinal, Option.getD_some]
    exact σ.encrypt_of_decryptFinal hfinal

end BlockCipher

end Foundation
