import SecurityWallet.Foundation.BlockCipher

/-!
# The AES block cipher with keys of 256 bits

Each step of a round is given as a permutation of blocks, together with its inverse, so the cipher
is one as well. The substitution is a table; that its inverse is one is checked byte by byte.
-/

namespace Foundation.Aes

theorem forall_byte {P : UInt8 → Prop} (hall : ∀ n : Fin 256, P (UInt8.ofNat n)) (x : UInt8) :
    P x := by
  have hx := hall ⟨x.toNat, x.toNat_lt⟩
  rwa [UInt8.ofNat_toNat] at hx

/-! ### Substitution -/

/-- The entry of a byte in a table that has 32 entries in each row. -/
def entry (table : List Nat) (x : UInt8) : UInt8 :=
  UInt8.ofNat (table.getD (x.toNat / 32) 0 >>> (8 * (31 - x.toNat % 32)))

def sBox : List Nat :=
  [0x637c777bf26b6fc53001672bfed7ab76ca82c97dfa5947f0add4a2af9ca472c0,
    0xb7fd9326363ff7cc34a5e5f171d8311504c723c31896059a071280e2eb27b275,
    0x09832c1a1b6e5aa0523bd6b329e32f8453d100ed20fcb15b6acbbe394a4c58cf,
    0xd0efaafb434d338545f9027f503c9fa851a3408f929d38f5bcb6da2110fff3d2,
    0xcd0c13ec5f974417c4a77e3d645d197360814fdc222a908846eeb814de5e0bdb,
    0xe0323a0a4906245cc2d3ac629195e479e7c8376d8dd54ea96c56f4ea657aae08,
    0xba78252e1ca6b4c6e8dd741f4bbd8b8a703eb5664803f60e613557b986c11d9e,
    0xe1f8981169d98e949b1e87e9ce5528df8ca1890dbfe6426841992d0fb054bb16]

def invSBox : List Nat :=
  [0x52096ad53036a538bf40a39e81f3d7fb7ce339829b2fff87348e4344c4dee9cb,
    0x547b9432a6c2233dee4c950b42fac34e082ea16628d924b2765ba2496d8bd125,
    0x72f8f66486689816d4a45ccc5d65b6926c704850fdedb9da5e154657a78d9d84,
    0x90d8ab008cbcd30af7e45805b8b34506d02c1e8fca3f0f02c1afbd0301138a6b,
    0x3a9111414f67dcea97f2cfcef0b4e67396ac7422e7ad3585e2f937e81c75df6e,
    0x47f11a711d29c5896fb7620eaa18be1bfc563e4bc6d279209adbc0fe78cd5af4,
    0x1fdda8338807c731b11210592780ec5f60517fa919b54a0d2de57a9f93c99cef,
    0xa0e03b4dae2af5b0c8ebbb3c83539961172b047eba77d626e169146355210c7d]

def subByte : Equiv.Perm UInt8 where
  toFun := entry sBox
  invFun := entry invSBox
  left_inv := forall_byte (by decide +kernel)
  right_inv := forall_byte (by decide +kernel)

def subColumn : Equiv.Perm Column where
  toFun x := ⟨subByte x.a, subByte x.b, subByte x.c, subByte x.d⟩
  invFun x := ⟨subByte.symm x.a, subByte.symm x.b, subByte.symm x.c, subByte.symm x.d⟩
  left_inv x := by simp
  right_inv x := by simp

/-! ### Mixing of a column -/

/-- A byte times `x` modulo `x ^ 8 + x ^ 4 + x ^ 3 + x + 1`. -/
def xtime (x : UInt8) : UInt8 := (x <<< 1) ^^^ (if x.toBitVec.msb then 0x1b else 0)

theorem xor_left_comm (x y z : UInt8) : x ^^^ (y ^^^ z) = y ^^^ (x ^^^ z) := by
  rw [← UInt8.xor_assoc, UInt8.xor_comm x, UInt8.xor_assoc]

theorem xor_cancel_left (x y : UInt8) : x ^^^ (x ^^^ y) = y := by
  rw [← UInt8.xor_assoc, UInt8.xor_self, UInt8.zero_xor]

theorem xtime_xor (x y : UInt8) : xtime (x ^^^ y) = xtime x ^^^ xtime y := by
  rw [xtime, UInt8.shiftLeft_xor, UInt8.toBitVec_xor, BitVec.msb_xor, xtime, xtime]
  cases x.toBitVec.msb <;> cases y.toBitVec.msb <;>
    simp [UInt8.xor_comm, UInt8.xor_assoc, xor_left_comm]

def mixColumn (x : Column) : Column where
  a := xtime x.a ^^^ xtime x.b ^^^ x.b ^^^ x.c ^^^ x.d
  b := x.a ^^^ xtime x.b ^^^ xtime x.c ^^^ x.c ^^^ x.d
  c := x.a ^^^ x.b ^^^ xtime x.c ^^^ xtime x.d ^^^ x.d
  d := xtime x.a ^^^ x.a ^^^ x.b ^^^ x.c ^^^ xtime x.d

theorem mixColumn_mixColumn (x : Column) :
    mixColumn (mixColumn x) =
      ⟨xtime (xtime (x.a ^^^ x.c)) ^^^ x.a, xtime (xtime (x.b ^^^ x.d)) ^^^ x.b,
        xtime (xtime (x.a ^^^ x.c)) ^^^ x.c, xtime (xtime (x.b ^^^ x.d)) ^^^ x.d⟩ := by
  simp only [mixColumn, xtime_xor, Column.mk.injEq]
  refine ⟨?_, ?_, ?_, ?_⟩ <;>
    simp only [UInt8.xor_comm, UInt8.xor_assoc, xor_left_comm, xor_cancel_left, UInt8.xor_self,
      UInt8.zero_xor]

theorem mixColumn_four (x : Column) :
    mixColumn (mixColumn (mixColumn (mixColumn x))) = x := by
  have hcancel : ∀ u y z : UInt8, (u ^^^ y) ^^^ (u ^^^ z) = y ^^^ z := by
    intro u y z
    rw [UInt8.xor_comm u y, UInt8.xor_assoc, xor_cancel_left]
  simp only [mixColumn_mixColumn, hcancel, xor_cancel_left]

/-- The polynomial of the mixing has order 4. -/
def mixing : Equiv.Perm Column where
  toFun := mixColumn
  invFun x := mixColumn (mixColumn (mixColumn x))
  left_inv := mixColumn_four
  right_inv := mixColumn_four

/-! ### Rounds -/

/-- The same permutation in every column. -/
def inColumns (σ : Equiv.Perm Column) : Equiv.Perm Block where
  toFun x := ⟨σ x.p, σ x.q, σ x.r, σ x.s⟩
  invFun x := ⟨σ.symm x.p, σ.symm x.q, σ.symm x.r, σ.symm x.s⟩
  left_inv x := by simp
  right_inv x := by simp

def shiftRows : Equiv.Perm Block where
  toFun x :=
    ⟨⟨x.p.a, x.q.b, x.r.c, x.s.d⟩, ⟨x.q.a, x.r.b, x.s.c, x.p.d⟩,
      ⟨x.r.a, x.s.b, x.p.c, x.q.d⟩, ⟨x.s.a, x.p.b, x.q.c, x.r.d⟩⟩
  invFun x :=
    ⟨⟨x.p.a, x.s.b, x.r.c, x.q.d⟩, ⟨x.q.a, x.p.b, x.s.c, x.r.d⟩,
      ⟨x.r.a, x.q.b, x.p.c, x.s.d⟩, ⟨x.s.a, x.r.b, x.q.c, x.p.d⟩⟩
  left_inv _ := rfl
  right_inv _ := rfl

def addRoundKey (key : Block) : Equiv.Perm Block where
  toFun x := x.xor key
  invFun x := x.xor key
  left_inv x := x.xor_xor_cancel key
  right_inv x := x.xor_xor_cancel key

/-- The rounds under the keys that are left; the last one does not mix. -/
def rounds : List Block → Equiv.Perm Block
  | [] => Equiv.refl Block
  | [key] => ((inColumns subColumn).trans shiftRows).trans (addRoundKey key)
  | key :: keys =>
      ((((inColumns subColumn).trans shiftRows).trans (inColumns mixing)).trans
        (addRoundKey key)).trans (rounds keys)

/-! ### Round keys -/

/-- The next two round keys. -/
def nextKeys (rcon : UInt8) (key : Block × Block) : Block × Block :=
  let (low, high) := key
  let last := subColumn ⟨high.s.b, high.s.c, high.s.d, high.s.a⟩
  let p := low.p.xor (last.xor ⟨rcon, 0, 0, 0⟩)
  let q := low.q.xor p
  let r := low.r.xor q
  let s := low.s.xor r
  let p' := high.p.xor (subColumn s)
  let q' := high.q.xor p'
  let r' := high.r.xor q'
  (⟨p, q, r, s⟩, ⟨p', q', r', high.s.xor r'⟩)

def expand : List UInt8 → Block × Block → List Block
  | [], key => [key.1]
  | rcon :: rcons, key => key.1 :: key.2 :: expand rcons (nextKeys rcon key)

def roundKeys (key : Block × Block) : List Block :=
  expand [0x01, 0x02, 0x04, 0x08, 0x10, 0x20, 0x40] key

/-- The cipher under a key of two blocks. -/
def cipher (key : Block × Block) : BlockCipher :=
  (addRoundKey key.1).trans (rounds (roundKeys key).tail)

example :
    cipher
        (⟨⟨0x00, 0x01, 0x02, 0x03⟩, ⟨0x04, 0x05, 0x06, 0x07⟩, ⟨0x08, 0x09, 0x0a, 0x0b⟩,
          ⟨0x0c, 0x0d, 0x0e, 0x0f⟩⟩,
          ⟨⟨0x10, 0x11, 0x12, 0x13⟩, ⟨0x14, 0x15, 0x16, 0x17⟩, ⟨0x18, 0x19, 0x1a, 0x1b⟩,
            ⟨0x1c, 0x1d, 0x1e, 0x1f⟩⟩)
        ⟨⟨0x00, 0x11, 0x22, 0x33⟩, ⟨0x44, 0x55, 0x66, 0x77⟩, ⟨0x88, 0x99, 0xaa, 0xbb⟩,
          ⟨0xcc, 0xdd, 0xee, 0xff⟩⟩ =
      ⟨⟨0x8e, 0xa2, 0xb7, 0xca⟩, ⟨0x51, 0x67, 0x45, 0xbf⟩, ⟨0xea, 0xfc, 0x49, 0x90⟩,
        ⟨0x4b, 0x49, 0x60, 0x89⟩⟩ := by
  decide +kernel

end Foundation.Aes
