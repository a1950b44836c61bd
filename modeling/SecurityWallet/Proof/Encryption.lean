import SecurityWallet.Foundation.Hoare
import SecurityWallet.Helpers

/-!
# Decrypting what was encrypted

The initial vector is found again at its fixed width in front of the colon, so a text is decrypted
with the passphrase it was encrypted with.
-/

open Foundation Effect

namespace Secw

theorem strToBytes_append (s t : String) : strToBytes (s ++ t) = strToBytes s ++ strToBytes t := by
  simp [strToBytes]

theorem strToBytes_inj {s t : String} : strToBytes s = strToBytes t ↔ s = t := by
  rw [strToBytes, strToBytes, Array.toList_inj, ← ByteArray.ext_iff]
  exact String.toByteArray_inj

variable [OpenSSL]

/-- The cyphered text of a plain one, with a given initial vector. -/
def cyphered (iv : ByteField) (plainData passphrase : String) : String :=
  let key := generateSHA256Digest (strToBytes passphrase)
  base64Encode iv ++ ":" ++ base64Encode
    (OpenSSL.encryptUpdate key iv (strToBytes plainData) ++
      OpenSSL.encryptFinal key iv (strToBytes plainData))

theorem aes256cbcEncrypt_eq_ok {key iv : ByteField} (hkey : key.length = 32)
    (hiv : iv.length = ivByteSize) (data : ByteField) :
    aes256cbcEncrypt data key iv =
      .ok (OpenSSL.encryptUpdate key iv data ++ OpenSSL.encryptFinal key iv data) := by
  simp [aes256cbcEncrypt, hkey, hiv]

variable [LawfulOpenSSL]

theorem aes256cbcDecrypt_encrypt {key iv : ByteField} (hkey : key.length = 32)
    (hiv : iv.length = ivByteSize) (data : ByteField) :
    aes256cbcDecrypt (OpenSSL.encryptUpdate key iv data ++ OpenSSL.encryptFinal key iv data) key iv =
      .ok data := by
  obtain ⟨last, hfinal, hdata⟩ := LawfulOpenSSL.decrypt_encrypt key iv data hkey hiv
  have hcipher := LawfulOpenSSL.encrypt_ne_nil key iv data
  simp [aes256cbcDecrypt, hkey, hiv, hfinal, hdata, hcipher]

/-- Both base64 parts are found: the first by its width, the second behind the colon. -/
theorem decrypt_of_bytes {text passphrase : String} {iv cipher : ByteField}
    (hiv : iv.length = ivByteSize) (hcipher : cipher ≠ [])
    (hbytes : strToBytes text =
      strToBytes (OpenSSL.base64Write iv) ++ ':'.toUInt8 :: strToBytes (OpenSSL.base64Write cipher)) :
    decrypt text passphrase =
      aes256cbcDecrypt cipher (generateSHA256Digest (strToBytes passphrase)) iv := by
  have hwidth := LawfulOpenSSL.length_base64Write iv hiv
  have hiv_ne : iv ≠ [] := by
    rintro rfl
    cases hiv
  have hnonempty : ¬ text.isEmpty = true := by
    rw [String.isEmpty_iff]
    rintro rfl
    exact absurd hbytes.symm (by simp [strToBytes])
  have hformat : ¬ ((strToBytes text).length ≤ ivBase64Size ∨
      (strToBytes text)[ivBase64Size]? ≠ some ':'.toUInt8) := by
    rw [hbytes, ← hwidth, List.getElem?_append_right (le_refl _), Nat.sub_self]
    simp
  have hfirst : base64Decode text 0 (some ivBase64Size) = .ok iv := by
    rw [base64Decode, hbytes, List.drop_zero, ← hwidth]
    simp only [List.take_left, LawfulOpenSSL.base64Read_write iv hiv_ne]
  have hsecond : base64Decode text (ivBase64Size + 1) none = .ok cipher := by
    rw [base64Decode, hbytes, ← hwidth, List.drop_length_add_append]
    simp only [List.drop_one, List.tail_cons, LawfulOpenSSL.base64Read_write cipher hcipher]
  unfold decrypt
  rw [if_neg hnonempty]
  dsimp only
  rw [if_neg hformat, hfirst, hsecond]
  rfl

theorem decrypt_cyphered {iv : ByteField} (hiv : iv.length = ivByteSize)
    (plainData passphrase : String) :
    decrypt (cyphered iv plainData passphrase) passphrase = .ok (strToBytes plainData) := by
  have hkey := LawfulOpenSSL.length_sha256 (strToBytes passphrase)
  have hcipher := LawfulOpenSSL.encrypt_ne_nil
    (generateSHA256Digest (strToBytes passphrase)) iv (strToBytes plainData)
  rw [decrypt_of_bytes hiv hcipher]
  · exact aes256cbcDecrypt_encrypt hkey hiv (strToBytes plainData)
  · have hcolon : strToBytes ":" = [':'.toUInt8] := rfl
    have hiv_ne : iv ≠ [] := by
      rintro rfl
      cases hiv
    rw [cyphered, strToBytes_append, strToBytes_append, hcolon, base64Encode, base64Encode,
      if_neg (by simpa using hiv_ne), if_neg (by simpa using hcipher), List.append_assoc]
    rfl

/-- Encryption succeeds with a generator that does, and what it returns is decrypted again. -/
theorem encrypt_ensures (plainData passphrase : String) {source : RandomSource}
    (hsource : source.NeverFails) :
    Ensures (encrypt plainData passphrase) source
      (fun encryptedData next => next.NeverFails ∧
        decrypt encryptedData passphrase = .ok (strToBytes plainData))
      fun _ _ => False := by
  obtain ⟨iv, hdraw⟩ := Option.isSome_iff_exists.1 (hsource source.calls ivByteSize)
  have hiv := source.length_draw hdraw
  have hkey : (generateSHA256Digest (strToBytes passphrase)).length = 32 :=
    LawfulOpenSSL.length_sha256 (strToBytes passphrase)
  simp only [encrypt, randomVector, ensures_bind, ensures_get, ensures_set, hdraw, ensures_pure,
    ensures_liftM, aes256cbcEncrypt_eq_ok hkey hiv, Except.ok.injEq, reduceCtorEq, false_imp_iff,
    implies_true, and_true]
  rintro _ rfl
  exact ⟨hsource, decrypt_cyphered hiv plainData passphrase⟩

end Secw
