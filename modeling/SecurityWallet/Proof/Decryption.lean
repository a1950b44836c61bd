import SecurityWallet.Foundation.BlockCipher
import SecurityWallet.Proof.Encryption
import SecurityWallet.Reference

/-!
# Decrypting what was not encrypted

OpenSSL tells in its final call whether some bytes are a ciphertext at all. The wrapper does not
look, so bytes that are none are decrypted as well, to what the update call has written so far.
-/

open Foundation

namespace Secw

/-- What OpenSSL documents of AES-256-CBC: a block cipher under each key, chained and padded. -/
class Aes256Cbc [OpenSSL] where
  cipher : (key : ByteField) → BlockCipher
  encryptUpdate_eq (key data : ByteField) (iv : Block) (hkey : key.length = 32) :
    OpenSSL.encryptUpdate key iv.bytes data = (cipher key).encryptUpdate iv data
  encryptFinal_eq (key data : ByteField) (iv : Block) (hkey : key.length = 32) :
    OpenSSL.encryptFinal key iv.bytes data = (cipher key).encryptFinal iv data
  decryptUpdate_eq (key data : ByteField) (iv : Block) (hkey : key.length = 32) :
    OpenSSL.decryptUpdate key iv.bytes data = (cipher key).decryptUpdate iv data
  decryptFinal_eq (key data : ByteField) (iv : Block) (hkey : key.length = 32) :
    OpenSSL.decryptFinal key iv.bytes data = (cipher key).decryptFinal iv data

section Wrapper

variable [OpenSSL] {cipherData key iv : ByteField}

/-- With a key and an initial vector of the right size some bytes are always decrypted. -/
theorem aes256cbcDecrypt_eq_ok (hkey : key.length = 32) (hiv : iv.length = ivByteSize)
    (hdata : cipherData ≠ []) :
    aes256cbcDecrypt cipherData key iv =
      .ok (OpenSSL.decryptUpdate key iv cipherData ++
        (OpenSSL.decryptFinal key iv cipherData).getD []) := by
  simp [aes256cbcDecrypt, hkey, hiv, hdata]

/-- The bytes are those of complete blocks, and the last one decrypts to one with a valid padding. -/
def Padded [Aes256Cbc] (cipherData key iv : ByteField) : Prop :=
  16 ∣ cipherData.length ∧ ∃ first last : Block, first.bytes = iv ∧
    ((Aes256Cbc.cipher key).decryptBlocks first (Block.split cipherData).1).getLast? = some last ∧
      ValidPadding last.bytes

variable [Aes256Cbc]

theorem isSome_decryptFinal_iff (hkey : key.length = 32) (hiv : iv.length = ivByteSize) :
    (OpenSSL.decryptFinal key iv cipherData).isSome ↔ Padded cipherData key iv := by
  obtain ⟨first, rfl⟩ := Block.exists_bytes_eq hiv
  rw [Aes256Cbc.decryptFinal_eq key cipherData first hkey, BlockCipher.isSome_decryptFinal_iff]
  refine and_congr_right fun _ => ?_
  constructor
  · rintro ⟨last, hlast, hpadding⟩
    exact ⟨first, last, rfl, hlast, hpadding⟩
  · rintro ⟨first', last, hfirst, hlast, hpadding⟩
    obtain rfl := Block.bytes_injective hfirst
    exact ⟨last, hlast, hpadding⟩

/-- Encrypting gives back what was decrypted exactly if the final call had succeeded. -/
theorem encrypt_decrypt_iff (hkey : key.length = 32) (hiv : iv.length = ivByteSize) :
    aes256cbcEncrypt (OpenSSL.decryptUpdate key iv cipherData ++
        (OpenSSL.decryptFinal key iv cipherData).getD []) key iv = .ok cipherData ↔
      (OpenSSL.decryptFinal key iv cipherData).isSome := by
  rw [aes256cbcEncrypt_eq_ok hkey hiv, Except.ok.injEq]
  obtain ⟨first, rfl⟩ := Block.exists_bytes_eq hiv
  rw [Aes256Cbc.encryptUpdate_eq _ _ _ hkey, Aes256Cbc.encryptFinal_eq _ _ _ hkey,
    Aes256Cbc.decryptUpdate_eq _ _ _ hkey, Aes256Cbc.decryptFinal_eq _ _ _ hkey]
  exact (Aes256Cbc.cipher key).encrypt_decrypt_iff first cipherData

/--
What is decrypted encrypts to the bytes it came from exactly if these are complete blocks and the
last one carries a valid padding.
-/
theorem decrypts_genuine_iff (cipherData key iv : ByteField) (hkey : key.length = 32)
    (hiv : iv.length = ivByteSize) (hdata : cipherData ≠ []) :
    (∀ plainData, aes256cbcDecrypt cipherData key iv = .ok plainData →
        aes256cbcEncrypt plainData key iv = .ok cipherData) ↔
      Padded cipherData key iv := by
  rw [aes256cbcDecrypt_eq_ok hkey hiv hdata, ← isSome_decryptFinal_iff hkey hiv,
    ← encrypt_decrypt_iff hkey hiv]
  constructor
  · intro hgenuine
    exact hgenuine _ rfl
  · rintro hgenuine _ ⟨⟩
    exact hgenuine

end Wrapper

/-! ### Bytes that are no ciphertext -/

namespace Reference

open scoped Reference

scoped instance : Aes256Cbc where
  cipher := aes256
  encryptUpdate_eq _ _ _ _ := rfl
  encryptFinal_eq _ _ _ _ := rfl
  decryptUpdate_eq _ _ _ _ := rfl
  decryptFinal_eq _ _ _ _ := rfl

def key : ByteField := List.replicate 32 0

def iv : ByteField := List.replicate ivByteSize 0

/-- One byte is decrypted to no bytes, whose encryption is a block. -/
theorem decrypts_one_byte :
    ¬ ∀ cipherData key iv : ByteField, key.length = 32 → iv.length = ivByteSize →
      cipherData ≠ [] → ∀ plainData, aes256cbcDecrypt cipherData key iv = .ok plainData →
        aes256cbcEncrypt plainData key iv = .ok cipherData := by
  intro hgenuine
  have hencrypt := hgenuine [0] key iv rfl rfl (by decide) _
    (aes256cbcDecrypt_eq_ok rfl rfl (by decide))
  rw [encrypt_decrypt_iff rfl rfl, isSome_decryptFinal_iff rfl rfl] at hencrypt
  exact absurd hencrypt.1 (by decide)

/-- A text encrypted. -/
def encrypted : ByteField :=
  OpenSSL.encryptUpdate key iv (strToBytes "secret") ++
    OpenSSL.encryptFinal key iv (strToBytes "secret")

theorem decrypts_encrypted :
    (∀ plainData, aes256cbcDecrypt encrypted key iv = .ok plainData →
        aes256cbcEncrypt plainData key iv = .ok encrypted) ∧
      Padded encrypted key iv := by
  have hencrypted : encrypted ≠ [] := LawfulOpenSSL.encrypt_ne_nil key iv _
  have hpadded : Padded encrypted key iv := by
    obtain ⟨last, hfinal, -⟩ := LawfulOpenSSL.decrypt_encrypt key iv (strToBytes "secret") rfl rfl
    rw [← isSome_decryptFinal_iff rfl rfl, encrypted, hfinal, Option.isSome_some]
  exact ⟨(decrypts_genuine_iff encrypted key iv rfl rfl hencrypted).2 hpadded, hpadded⟩

end Reference

end Secw
