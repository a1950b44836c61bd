import SecurityWallet.Helpers

/-!
# Document types

The public and private sections of the five types of documents: how they are written to a tree, how
a tree is read over them, and when they are valid.
-/

open Foundation SerializationInfo

namespace Secw

def docSnmpv3SecurityLevel : String := "secw_snmpv3_security_level"
def docSnmpv3SecurityName : String := "secw_snmpv3_security_name"
def docSnmpv3AuthProtocol : String := "secw_snmpv3_auth_protocol"
def docSnmpv3AuthPassword : String := "secw_snmpv3_auth_password"
def docSnmpv3PrivProtocol : String := "secw_snmpv3_priv_protocol"
def docSnmpv3PrivPassword : String := "secw_snmpv3_priv_password"
def docSnmpv1CommunityName : String := "secw_snmpv1_community_name"
def docUserAndPasswordUsername : String := "secw_user_and_password_username"
def docUserAndPasswordPassword : String := "secw_user_and_password_password"
def docExternalCertificatePem : String := "secw_external_certificate_pem"
def docInternalCertificatePem : String := "secw_internal_certificate_pem"
def docInternalCertificatePrivateKeyPem : String := "secw_internal_certificate_private_key_pem"

/-- What the wallet calls of the certificate library; `none` is a call that throws. -/
class Certificates where
  isCertificate : (pem : String) → Bool
  certificatePublicKey : (pem : String) → Option String
  keysPublicKey : (privateKeyPem : String) → Option String

/-! ### Fields of the sections -/

/-- A field whose reading is wrapped by a `try` that names the field. -/
def readField {α : Type} (field : String) (call : Except Exn α) : Except Exn α :=
  orThrow call fun _ => secwInvalidDocumentFormatException field

@[simp]
theorem readField_eq_ok {α : Type} {field : String} {call : Except Exn α} {a : α} :
    readField field call = .ok a ↔ call = .ok a :=
  orThrow_eq_ok

section Fields

variable [Cxxtools]

def readString (field : String) (si : SerializationInfo) : Except Exn String :=
  readField field (liftStd (getStringMember si field))

/-- Secrets may be left out, and then keep their value. -/
def updateSecret (field : String) (si : SerializationInfo) (secret : String) : Except Exn String :=
  readField field (liftStd
    (match findMember si field with
    | some member => Cxxtools.getString member
    | none => .ok secret))

/-- An enumerator is read as a number, which must be below the size of the enumeration. -/
def readEnum {α : Type} (field : String) (ofUInt8? : UInt8 → Option α) (si : SerializationInfo) :
    Except Exn α :=
  readField field do
    let tmp ← liftStd (getUInt8Member si field)
    match ofUInt8? tmp with
    | some value => return value
    | none => throw (.secw (secwInvalidDocumentFormatException field))

end Fields

/-- Secrets that are empty are not written. -/
def fillSecret (field secret : String) (si : SerializationInfo) : SerializationInfo :=
  if secret.isEmpty then si else addMember si field (.str secret)

def checkNotEmpty (field value : String) : Except Exn Unit :=
  if value.isEmpty then throw (.secw (secwInvalidDocumentFormatException field)) else return

/-! ### Snmpv3 -/

inductive Snmpv3SecurityLevel where
  | noAuthNoPriv
  | authNoPriv
  | authPriv
deriving DecidableEq, Repr

inductive Snmpv3AuthProtocol where
  | md5
  | sha
deriving DecidableEq, Repr

inductive Snmpv3PrivProtocol where
  | des
  | aes
deriving DecidableEq, Repr

namespace Snmpv3SecurityLevel

def toUInt8 : Snmpv3SecurityLevel → UInt8
  | noAuthNoPriv => 0
  | authNoPriv => 1
  | authPriv => 2

/-- `none` from `MAX_SECURITY_LEVEL` on. -/
def ofUInt8? (tmp : UInt8) : Option Snmpv3SecurityLevel :=
  [noAuthNoPriv, authNoPriv, authPriv][tmp.toNat]?

@[simp]
theorem ofUInt8?_toUInt8 (level : Snmpv3SecurityLevel) : ofUInt8? level.toUInt8 = some level := by
  cases level <;> rfl

end Snmpv3SecurityLevel

namespace Snmpv3AuthProtocol

def toUInt8 : Snmpv3AuthProtocol → UInt8
  | md5 => 0
  | sha => 1

/-- `none` from `MAX_AUTH_PROTOCOL` on. -/
def ofUInt8? (tmp : UInt8) : Option Snmpv3AuthProtocol := [md5, sha][tmp.toNat]?

@[simp]
theorem ofUInt8?_toUInt8 (protocol : Snmpv3AuthProtocol) :
    ofUInt8? protocol.toUInt8 = some protocol := by
  cases protocol <;> rfl

end Snmpv3AuthProtocol

namespace Snmpv3PrivProtocol

def toUInt8 : Snmpv3PrivProtocol → UInt8
  | des => 0
  | aes => 1

/-- `none` from `MAX_PRIV_PROTOCOL` on. -/
def ofUInt8? (tmp : UInt8) : Option Snmpv3PrivProtocol := [des, aes][tmp.toNat]?

@[simp]
theorem ofUInt8?_toUInt8 (protocol : Snmpv3PrivProtocol) :
    ofUInt8? protocol.toUInt8 = some protocol := by
  cases protocol <;> rfl

end Snmpv3PrivProtocol

structure Snmpv3 where
  securityLevel : Snmpv3SecurityLevel := .noAuthNoPriv
  authProtocol : Snmpv3AuthProtocol := .md5
  privProtocol : Snmpv3PrivProtocol := .des
  securityName : String := ""
  authPassword : String := ""
  privPassword : String := ""
deriving DecidableEq, Repr

namespace Snmpv3

def validate (containPrivateData : Bool) (doc : Snmpv3) : Except Exn Unit := do
  if ¬ containPrivateData then
    checkNotEmpty docSnmpv3AuthPassword doc.authPassword
    checkNotEmpty docSnmpv3PrivPassword doc.privPassword
  checkNotEmpty docSnmpv3SecurityName doc.securityName
  match doc.securityLevel with
  | .authPriv =>
      checkNotEmpty docSnmpv3AuthPassword doc.authPassword
      checkNotEmpty docSnmpv3PrivPassword doc.privPassword
  | .authNoPriv => checkNotEmpty docSnmpv3AuthPassword doc.authPassword
  | .noAuthNoPriv => return

def fillSerializationInfoPrivateDoc (doc : Snmpv3) (si : SerializationInfo) : SerializationInfo :=
  fillSecret docSnmpv3PrivPassword doc.privPassword
    (fillSecret docSnmpv3AuthPassword doc.authPassword si)

def fillSerializationInfoPublicDoc (doc : Snmpv3) (si : SerializationInfo) : SerializationInfo :=
  let si := addMember si docSnmpv3SecurityLevel (ofUInt8 doc.securityLevel.toUInt8)
  let si := addMember si docSnmpv3SecurityName (.str doc.securityName)
  let si := addMember si docSnmpv3AuthProtocol (ofUInt8 doc.authProtocol.toUInt8)
  addMember si docSnmpv3PrivProtocol (ofUInt8 doc.privProtocol.toUInt8)

def updatePrivateDocFromSerializationInfo [Cxxtools] (doc : Snmpv3) (si : SerializationInfo) :
    Except Exn Snmpv3 := do
  let authPassword ← updateSecret docSnmpv3AuthPassword si doc.authPassword
  let privPassword ← updateSecret docSnmpv3PrivPassword si doc.privPassword
  return { doc with authPassword, privPassword }

def updatePublicDocFromSerializationInfo [Cxxtools] (doc : Snmpv3) (si : SerializationInfo) :
    Except Exn Snmpv3 := do
  let securityLevel ← readEnum docSnmpv3SecurityLevel Snmpv3SecurityLevel.ofUInt8? si
  let securityName ← readString docSnmpv3SecurityName si
  let authProtocol ← readEnum docSnmpv3AuthProtocol Snmpv3AuthProtocol.ofUInt8? si
  let privProtocol ← readEnum docSnmpv3PrivProtocol Snmpv3PrivProtocol.ofUInt8? si
  return { doc with securityLevel, securityName, authProtocol, privProtocol }

end Snmpv3

/-! ### Snmpv1 -/

structure Snmpv1 where
  communityName : String := ""
deriving DecidableEq, Repr

namespace Snmpv1

def validate (doc : Snmpv1) : Except Exn Unit :=
  checkNotEmpty docSnmpv1CommunityName doc.communityName

def fillSerializationInfoPublicDoc (doc : Snmpv1) (si : SerializationInfo) : SerializationInfo :=
  addMember si docSnmpv1CommunityName (.str doc.communityName)

def updatePublicDocFromSerializationInfo [Cxxtools] (doc : Snmpv1) (si : SerializationInfo) :
    Except Exn Snmpv1 := do
  return { doc with communityName := ← readString docSnmpv1CommunityName si }

end Snmpv1

/-! ### UserAndPassword -/

structure UserAndPassword where
  username : String := ""
  password : String := ""
deriving DecidableEq, Repr

namespace UserAndPassword

def validate (containPrivateData : Bool) (doc : UserAndPassword) : Except Exn Unit := do
  if ¬ containPrivateData then
    throw (.secw (secwInvalidDocumentFormatException docUserAndPasswordPassword))
  checkNotEmpty docUserAndPasswordUsername doc.username
  checkNotEmpty docUserAndPasswordPassword doc.password

def fillSerializationInfoPrivateDoc (doc : UserAndPassword) (si : SerializationInfo) :
    SerializationInfo :=
  fillSecret docUserAndPasswordPassword doc.password si

def fillSerializationInfoPublicDoc (doc : UserAndPassword) (si : SerializationInfo) :
    SerializationInfo :=
  addMember si docUserAndPasswordUsername (.str doc.username)

def updatePrivateDocFromSerializationInfo [Cxxtools] (doc : UserAndPassword)
    (si : SerializationInfo) : Except Exn UserAndPassword := do
  return { doc with password := ← updateSecret docUserAndPasswordPassword si doc.password }

def updatePublicDocFromSerializationInfo [Cxxtools] (doc : UserAndPassword)
    (si : SerializationInfo) : Except Exn UserAndPassword := do
  return { doc with username := ← readString docUserAndPasswordUsername si }

end UserAndPassword

/-! ### ExternalCertificate -/

structure ExternalCertificate where
  pem : String := ""
deriving DecidableEq, Repr

namespace ExternalCertificate

def validate [Certificates] (doc : ExternalCertificate) : Except Exn Unit := do
  checkNotEmpty docExternalCertificatePem doc.pem
  if ¬ Certificates.isCertificate doc.pem then
    throw (.secw (secwInvalidDocumentFormatException docExternalCertificatePem))

def fillSerializationInfoPublicDoc (doc : ExternalCertificate) (si : SerializationInfo) :
    SerializationInfo :=
  addMember si docExternalCertificatePem (.str doc.pem)

def updatePublicDocFromSerializationInfo [Cxxtools] (doc : ExternalCertificate)
    (si : SerializationInfo) : Except Exn ExternalCertificate := do
  return { doc with pem := ← readString docExternalCertificatePem si }

end ExternalCertificate

/-! ### InternalCertificate -/

structure InternalCertificate where
  pem : String := ""
  privateKeyPem : String := ""
deriving DecidableEq, Repr

namespace InternalCertificate

def validate [Certificates] (containPrivateData : Bool) (doc : InternalCertificate) :
    Except Exn Unit := do
  if ¬ containPrivateData then
    throw (.secw (secwInvalidDocumentFormatException docInternalCertificatePrivateKeyPem))
  checkNotEmpty docInternalCertificatePem doc.pem
  checkNotEmpty docInternalCertificatePrivateKeyPem doc.privateKeyPem
  match Certificates.certificatePublicKey doc.pem, Certificates.keysPublicKey doc.privateKeyPem with
  | some certKey, some key =>
      if key ≠ certKey then
        throw (.secw (secwInvalidDocumentFormatException docInternalCertificatePem))
  | _, _ => throw (.secw (secwInvalidDocumentFormatException docInternalCertificatePem))

def fillSerializationInfoPrivateDoc (doc : InternalCertificate) (si : SerializationInfo) :
    SerializationInfo :=
  fillSecret docInternalCertificatePrivateKeyPem doc.privateKeyPem si

def fillSerializationInfoPublicDoc (doc : InternalCertificate) (si : SerializationInfo) :
    SerializationInfo :=
  addMember si docInternalCertificatePem (.str doc.pem)

def updatePrivateDocFromSerializationInfo [Cxxtools] (doc : InternalCertificate)
    (si : SerializationInfo) : Except Exn InternalCertificate := do
  return { doc with
    privateKeyPem := ← updateSecret docInternalCertificatePrivateKeyPem si doc.privateKeyPem }

def updatePublicDocFromSerializationInfo [Cxxtools] (doc : InternalCertificate)
    (si : SerializationInfo) : Except Exn InternalCertificate := do
  return { doc with pem := ← readString docInternalCertificatePem si }

end InternalCertificate
end Secw
