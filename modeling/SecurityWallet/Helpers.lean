import SecurityWallet.Exception
import SecurityWallet.Foundation.Effect

/-!
# Helpers and the OpenSSL wrapper

Encryption with a passphrase. A cyphered text is the initial vector in base64, a colon and the
cyphered bytes in base64; OpenSSL's own functions are parameters. The wrapper does not look at what
the final call of a decryption returns, so a failing one only adds no bytes. Sizes are taken to fit
the `int` they are passed as.
-/

open Foundation

namespace Secw

abbrev Byte := UInt8
abbrev ByteField := List Byte

def ivByteSize : Nat := 16
def ivBase64Size : Nat := 24

/-- What the wrapper calls of OpenSSL. `none` is a call that reports a failure. -/
class OpenSSL where
  sha256 : ByteField → ByteField
  encryptUpdate : (key iv data : ByteField) → ByteField
  encryptFinal : (key iv data : ByteField) → ByteField
  decryptUpdate : (key iv data : ByteField) → ByteField
  decryptFinal : (key iv data : ByteField) → Option ByteField
  base64Write : ByteField → String
  base64Read : ByteField → Option ByteField

/-- Digests have 32 bytes, decryption inverts encryption and base64 decoding inverts encoding. -/
class LawfulOpenSSL [OpenSSL] : Prop where
  length_sha256 (data : ByteField) : (OpenSSL.sha256 data).length = 32
  encrypt_ne_nil (key iv data : ByteField) :
    OpenSSL.encryptUpdate key iv data ++ OpenSSL.encryptFinal key iv data ≠ []
  decrypt_encrypt (key iv data : ByteField) (hkey : key.length = 32) (hiv : iv.length = ivByteSize) :
    ∃ last, OpenSSL.decryptFinal key iv
          (OpenSSL.encryptUpdate key iv data ++ OpenSSL.encryptFinal key iv data) = some last ∧
      OpenSSL.decryptUpdate key iv
          (OpenSSL.encryptUpdate key iv data ++ OpenSSL.encryptFinal key iv data) ++ last = data
  base64Read_write (data : ByteField) (hdata : data ≠ []) :
    OpenSSL.base64Read (strToBytes (OpenSSL.base64Write data)) = some data
  length_base64Write (iv : ByteField) (hiv : iv.length = ivByteSize) :
    (strToBytes (OpenSSL.base64Write iv)).length = ivBase64Size

/-- The calls to the random generator, in the order they are made; `none` is a failing call. -/
structure RandomSource where
  draw : Nat → (nbBytes : Nat) → Option ByteField
  length_draw : ∀ {call nbBytes bytes}, draw call nbBytes = some bytes → bytes.length = nbBytes
  calls : Nat := 0

/-- The generator never fails. -/
def RandomSource.NeverFails (source : RandomSource) : Prop :=
  ∀ call nbBytes, (source.draw call nbBytes).isSome

/-- A source that always fails. -/
def RandomSource.exhausted : RandomSource where
  draw _ _ := none
  length_draw := nofun

def deserialize [Cxxtools] (json : ByteField) : Except Exn SerializationInfo :=
  orThrow (liftStd (Cxxtools.deserialize json)) fun e =>
    .protocolErrorException ("Error in the json from server: " ++ e.what)

def serialize [Cxxtools] (si : SerializationInfo) : String := Cxxtools.serialize false si

@[simp]
theorem deserialize_serialize [Cxxtools] [LawfulCxxtools] (si : SerializationInfo) :
    deserialize (strToBytes (serialize si)) = .ok si := by
  simp [deserialize, serialize]

theorem serialize_inj [Cxxtools] [LawfulCxxtools] {si other : SerializationInfo} :
    serialize si = serialize other ↔ si = other := by
  constructor
  · intro heq
    have hread := deserialize_serialize si
    rw [heq, deserialize_serialize] at hread
    exact (Except.ok.inj hread).symm
  · exact congrArg serialize

section Crypto

variable [OpenSSL]

def randomVector (nbBytes : Nat) : Effect Exn RandomSource ByteField := do
  let source ← get
  set { source with calls := source.calls + 1 }
  match source.draw source.calls nbBytes with
  | some bytes => return bytes
  | none => throw (.std "Unable to generate a strong random bytes array")

def base64Encode (data : ByteField) : String :=
  if data.isEmpty then "" else OpenSSL.base64Write data

/-- `count` is `none` where the source reads to the end of the string. -/
def base64Decode (encodedData : String) (off : Nat) (count : Option Nat) : Except Exn ByteField :=
  let bytes := (strToBytes encodedData).drop off
  let bytes := match count with
    | some n => bytes.take n
    | none => bytes
  match OpenSSL.base64Read bytes with
  | some data => .ok data
  | none => .error (.std "vector::_M_default_append")

def generateSHA256Digest (data : ByteField) : ByteField := OpenSSL.sha256 data

def aes256cbcEncrypt (data key iv : ByteField) : Except Exn ByteField := do
  if key.length ≠ 32 then throw (.std "Invalid key size")
  if iv.length ≠ ivByteSize then throw (.std "Invalid initial vector size")
  return OpenSSL.encryptUpdate key iv data ++ OpenSSL.encryptFinal key iv data

def aes256cbcDecrypt (cipherData key iv : ByteField) : Except Exn ByteField := do
  if key.length ≠ 32 then throw (.std "Invalid key size")
  if iv.length ≠ ivByteSize then throw (.std "Invalid initial vector size")
  if cipherData.isEmpty ∨ key.length ≠ 32 then throw (.std "Empty cyphered binary")
  return OpenSSL.decryptUpdate key iv cipherData ++
    (OpenSSL.decryptFinal key iv cipherData).getD []

def encrypt (plainData passphrase : String) : Effect Exn RandomSource String := do
  let plainBinary := strToBytes plainData
  let key := generateSHA256Digest (strToBytes passphrase)
  let iv ← randomVector ivByteSize
  let cyphered := base64Encode iv
  let cyphered := cyphered ++ ":"
  return cyphered ++ base64Encode (← aes256cbcEncrypt plainBinary key iv)

/-- The plain data is left as bytes: it need not be text. -/
def decrypt (encryptedData passphrase : String) : Except Exn ByteField := do
  if encryptedData.isEmpty then return []
  let bytes := strToBytes encryptedData
  if bytes.length ≤ ivBase64Size ∨ bytes[ivBase64Size]? ≠ some ':'.toUInt8 then
    throw (.std "Invalid cyphered format")
  let key := generateSHA256Digest (strToBytes passphrase)
  let iv ← base64Decode encryptedData 0 (some ivBase64Size)
  aes256cbcDecrypt (← base64Decode encryptedData (ivBase64Size + 1) none) key iv

end Crypto

def hasCommonUsageIds (usages1 usages2 : StdSet String) : Bool :=
  usages1.toList.any fun usage1 => usages2.contains usage1

end Secw
