import Mathlib

/-!
# SHA-256

The digest of a list of bytes: eight words, so thirty-two bytes whatever the message is.
-/

namespace Foundation.Sha256

structure State where
  a : UInt32
  b : UInt32
  c : UInt32
  d : UInt32
  e : UInt32
  f : UInt32
  g : UInt32
  h : UInt32
deriving DecidableEq, Repr

def rotr (x n : UInt32) : UInt32 := (x >>> n) ||| (x <<< (32 - n))

def constants : List UInt32 :=
  [0x428a2f98, 0x71374491, 0xb5c0fbcf, 0xe9b5dba5, 0x3956c25b, 0x59f111f1, 0x923f82a4, 0xab1c5ed5,
    0xd807aa98, 0x12835b01, 0x243185be, 0x550c7dc3, 0x72be5d74, 0x80deb1fe, 0x9bdc06a7, 0xc19bf174,
    0xe49b69c1, 0xefbe4786, 0x0fc19dc6, 0x240ca1cc, 0x2de92c6f, 0x4a7484aa, 0x5cb0a9dc, 0x76f988da,
    0x983e5152, 0xa831c66d, 0xb00327c8, 0xbf597fc7, 0xc6e00bf3, 0xd5a79147, 0x06ca6351, 0x14292967,
    0x27b70a85, 0x2e1b2138, 0x4d2c6dfc, 0x53380d13, 0x650a7354, 0x766a0abb, 0x81c2c92e, 0x92722c85,
    0xa2bfe8a1, 0xa81a664b, 0xc24b8b70, 0xc76c51a3, 0xd192e819, 0xd6990624, 0xf40e3585, 0x106aa070,
    0x19a4c116, 0x1e376c08, 0x2748774c, 0x34b0bcb5, 0x391c0cb3, 0x4ed8aa4a, 0x5b9cca4f, 0x682e6ff3,
    0x748f82ee, 0x78a5636f, 0x84c87814, 0x8cc70208, 0x90befffa, 0xa4506ceb, 0xbef9a3f7, 0xc67178f2]

def initial : State :=
  ⟨0x6a09e667, 0xbb67ae85, 0x3c6ef372, 0xa54ff53a, 0x510e527f, 0x9b05688c, 0x1f83d9ab, 0x5be0cd19⟩

/-- The words of a schedule from the sixteen before them. -/
def schedule : Nat → List UInt32 → List UInt32
  | 0, _ => []
  | _, [] => []
  | n + 1, word :: window =>
      let before15 := window.getD 0 0
      let before7 := window.getD 8 0
      let before2 := window.getD 13 0
      let next := word + (rotr before15 7 ^^^ rotr before15 18 ^^^ (before15 >>> 3)) + before7 +
        (rotr before2 17 ^^^ rotr before2 19 ^^^ (before2 >>> 10))
      word :: schedule n (window ++ [next])

def round (state : State) (word : UInt32 × UInt32) : State :=
  let ⟨a, b, c, d, e, f, g, h⟩ := state
  let choice := (e &&& f) ^^^ (~~~e &&& g)
  let majority := (a &&& b) ^^^ (a &&& c) ^^^ (b &&& c)
  let t := h + (rotr e 6 ^^^ rotr e 11 ^^^ rotr e 25) + choice + word.1 + word.2
  ⟨t + (rotr a 2 ^^^ rotr a 13 ^^^ rotr a 22) + majority, a, b, c, d + t, e, f, g⟩

def compress (state : State) (block : List UInt32) : State :=
  let next := (constants.zip (schedule 64 block)).foldl round state
  ⟨state.a + next.a, state.b + next.b, state.c + next.c, state.d + next.d, state.e + next.e,
    state.f + next.f, state.g + next.g, state.h + next.h⟩

def word (a b c d : UInt8) : UInt32 :=
  (a.toUInt32 <<< 24) ||| (b.toUInt32 <<< 16) ||| (c.toUInt32 <<< 8) ||| d.toUInt32

def words : List UInt8 → List UInt32
  | a :: b :: c :: d :: rest => word a b c d :: words rest
  | _ => []

def wordBytes (x : UInt32) : List UInt8 :=
  [(x >>> 24).toUInt8, (x >>> 16).toUInt8, (x >>> 8).toUInt8, x.toUInt8]

/-- A one bit, zeros up to 8 bytes before the end of a block, and the length in bits. -/
def padding (length : Nat) : List UInt8 :=
  0x80 :: List.replicate ((119 - length % 64) % 64) 0 ++
    wordBytes (UInt32.ofNat (length * 8 / 2 ^ 32)) ++ wordBytes (UInt32.ofNat (length * 8))

def digest (data : List UInt8) : List UInt8 :=
  let message := words (data ++ padding data.length)
  let state := (List.range (message.length / 16)).foldl
    (fun state n => compress state ((message.drop (16 * n)).take 16)) initial
  wordBytes state.a ++ wordBytes state.b ++ wordBytes state.c ++ wordBytes state.d ++
    wordBytes state.e ++ wordBytes state.f ++ wordBytes state.g ++ wordBytes state.h

@[simp]
theorem length_digest (data : List UInt8) : (digest data).length = 32 := rfl

example : digest [0x61, 0x62, 0x63] =
    [0xba, 0x78, 0x16, 0xbf, 0x8f, 0x01, 0xcf, 0xea, 0x41, 0x41, 0x40, 0xde, 0x5d, 0xae, 0x22, 0x23,
      0xb0, 0x03, 0x61, 0xa3, 0x96, 0x17, 0x7a, 0x9c, 0xb4, 0x10, 0xff, 0x61, 0xf2, 0x00, 0x15,
      0xad] := by
  decide +kernel

end Foundation.Sha256
