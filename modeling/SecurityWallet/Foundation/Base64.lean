import Mathlib

/-!
# Base64

Three bytes are written as four digits of six bits; one or two bytes at the end are completed with
equals signs. All texts are given by their bytes. Decoding undoes encoding.
-/

namespace Foundation.Base64

/-- The digit of a number below 64. -/
def digit (n : Nat) : UInt8 :=
  UInt8.ofNat (if n < 26 then 65 + n else if n < 52 then 71 + n else if n < 62 then n - 4
    else if n = 62 then 43 else 47)

def value (byte : UInt8) : Option Nat :=
  let n := byte.toNat
  if 65 ≤ n ∧ n ≤ 90 then some (n - 65)
  else if 97 ≤ n ∧ n ≤ 122 then some (n - 71)
  else if 48 ≤ n ∧ n ≤ 57 then some (n + 4)
  else if n = 43 then some 62
  else if n = 47 then some 63
  else none

def equals : UInt8 := 61

theorem value_digit : ∀ n < 64, value (digit n) = some n := by decide

theorem digit_lt : ∀ n < 64, digit n < 128 := by decide

def encode : List UInt8 → List UInt8
  | [] => []
  | [a] =>
      let n := a.toNat * 16
      [digit (n / 64), digit (n % 64), equals, equals]
  | [a, b] =>
      let n := (a.toNat * 256 + b.toNat) * 4
      [digit (n / 4096), digit (n / 64 % 64), digit (n % 64), equals]
  | a :: b :: c :: rest =>
      let n := (a.toNat * 256 + b.toNat) * 256 + c.toNat
      digit (n / 262144) :: digit (n / 4096 % 64) :: digit (n / 64 % 64) :: digit (n % 64) ::
        encode rest

/-- Reads four digits; equals signs may stand for the last two or the last one. -/
def decodeQuad (w x y z : UInt8) : Option (List UInt8) :=
  match value w, value x, value y, value z with
  | some w, some x, some y, some z =>
      let n := ((w * 64 + x) * 64 + y) * 64 + z
      some [UInt8.ofNat (n / 65536), UInt8.ofNat (n / 256), UInt8.ofNat n]
  | some w, some x, some y, none =>
      let n := ((w * 64 + x) * 64 + y) / 4
      if z = equals then some [UInt8.ofNat (n / 256), UInt8.ofNat n] else none
  | some w, some x, none, none =>
      if y = equals ∧ z = equals then some [UInt8.ofNat ((w * 64 + x) / 16)] else none
  | _, _, _, _ => none

/-- Reads complete groups of four; only the last one may have equals signs. -/
def decode : List UInt8 → Option (List UInt8)
  | [] => some []
  | w :: x :: y :: z :: rest => do
      let front ← decodeQuad w x y z
      if front.length < 3 ∧ rest ≠ [] then none
      else return front ++ (← decode rest)
  | _ => none

theorem ofNat_eq_of_mod {n : Nat} {a : UInt8} (hmod : n % 256 = a.toNat) : UInt8.ofNat n = a := by
  apply UInt8.toNat_inj.1
  rw [UInt8.toNat_ofNat', ← hmod]

section Quads

variable {w x y z : Nat} (hw : w < 64) (hx : x < 64)
include hw hx

theorem decodeQuad_one :
    decodeQuad (digit w) (digit x) equals equals = some [UInt8.ofNat ((w * 64 + x) / 16)] := by
  rw [decodeQuad, value_digit w hw, value_digit x hx]
  rfl

theorem decodeQuad_two (hy : y < 64) :
    decodeQuad (digit w) (digit x) (digit y) equals =
      some [UInt8.ofNat (((w * 64 + x) * 64 + y) / 4 / 256),
        UInt8.ofNat (((w * 64 + x) * 64 + y) / 4)] := by
  rw [decodeQuad, value_digit w hw, value_digit x hx, value_digit y hy]
  rfl

theorem decodeQuad_three (hy : y < 64) (hz : z < 64) :
    decodeQuad (digit w) (digit x) (digit y) (digit z) =
      some [UInt8.ofNat ((((w * 64 + x) * 64 + y) * 64 + z) / 65536),
        UInt8.ofNat ((((w * 64 + x) * 64 + y) * 64 + z) / 256),
        UInt8.ofNat (((w * 64 + x) * 64 + y) * 64 + z)] := by
  rw [decodeQuad, value_digit w hw, value_digit x hx, value_digit y hy, value_digit z hz]

end Quads

theorem decode_encode (data : List UInt8) : decode (encode data) = some data := by
  fun_induction encode data with
  | case1 => rfl
  | case2 a n =>
      have ha := a.toNat_lt
      rw [decode, decodeQuad_one (by omega) (by omega),
        ofNat_eq_of_mod (a := a) (by omega)]
      rfl
  | case3 a b n =>
      have ha := a.toNat_lt
      have hb := b.toNat_lt
      rw [decode, decodeQuad_two (by omega) (by omega) (by omega),
        ofNat_eq_of_mod (a := a) (by omega), ofNat_eq_of_mod (a := b) (by omega)]
      rfl
  | case4 a b c rest n ih =>
      have ha := a.toNat_lt
      have hb := b.toNat_lt
      have hc := c.toNat_lt
      rw [decode, decodeQuad_three (by omega) (by omega) (by omega) (by omega),
        ofNat_eq_of_mod (a := a) (by omega), ofNat_eq_of_mod (a := b) (by omega),
        ofNat_eq_of_mod (a := c) (by omega), ih]
      rfl

theorem length_encode (data : List UInt8) : (encode data).length = 4 * ((data.length + 2) / 3) := by
  fun_induction encode data with
  | case1 => rfl
  | case2 => simp
  | case3 => simp
  | case4 a b c rest n ih =>
      simp only [List.length_cons, ih]
      omega

theorem lt_of_mem_encode {data : List UInt8} : ∀ byte ∈ encode data, byte < 128 := by
  fun_induction encode data with
  | case1 => simp
  | case2 a n =>
      have ha := a.toNat_lt
      simp only [List.forall_mem_cons]
      exact ⟨digit_lt _ (by omega), digit_lt _ (by omega), by decide, by decide, by simp⟩
  | case3 a b n =>
      have ha := a.toNat_lt
      have hb := b.toNat_lt
      simp only [List.forall_mem_cons]
      exact ⟨digit_lt _ (by omega), digit_lt _ (by omega), digit_lt _ (by omega), by decide,
        by simp⟩
  | case4 a b c rest n ih =>
      have ha := a.toNat_lt
      have hb := b.toNat_lt
      have hc := c.toNat_lt
      simp only [List.forall_mem_cons]
      exact ⟨digit_lt _ (by omega), digit_lt _ (by omega), digit_lt _ (by omega),
        digit_lt _ (by omega), ih⟩

/-- The text of ASCII codes. -/
def text (bytes : List UInt8) : String := String.ofList (bytes.map fun byte => Char.ofNat byte.toNat)

theorem utf8EncodeChar_ascii :
    ∀ n < 128, String.utf8EncodeChar (Char.ofNat n) = [UInt8.ofNat n] := by decide

theorem bytes_text {bytes : List UInt8} (hascii : ∀ byte ∈ bytes, byte < 128) :
    (text bytes).toUTF8.data.toList = bytes := by
  have hbyte : ∀ byte ∈ bytes, String.utf8EncodeChar (Char.ofNat byte.toNat) = [byte] := by
    intro byte hbyte
    rw [utf8EncodeChar_ascii byte.toNat (UInt8.lt_iff_toNat_lt.1 (hascii byte hbyte)),
      UInt8.ofNat_toNat]
  calc (text bytes).toUTF8.data.toList
      = bytes.flatMap fun byte => String.utf8EncodeChar (Char.ofNat byte.toNat) := by
        simp [text, List.utf8Encode, List.flatMap_map]
    _ = bytes.flatMap fun byte => [byte] := by
        rw [List.flatMap_def, List.flatMap_def, List.map_congr_left hbyte]
    _ = bytes := List.flatMap_singleton' bytes

end Foundation.Base64
