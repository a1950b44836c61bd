import SecurityWallet.DocumentTypes

/-!
# Documents

A document is a header, a public section and a private section. It is written with its secrets,
without them, or with them encrypted, and it is read either as a new document or over an existing
one. Documents are values: a `clone` of the source is the document itself.
-/

open Foundation SerializationInfo

namespace Secw

abbrev Id := String
abbrev UsageId := String
abbrev Tag := String
abbrev DocumentType := String

def docIdEntry : String := "secw_doc_id"
def docNameEntry : String := "secw_doc_name"
def docTypeEntry : String := "secw_doc_type"
def docTagsEntry : String := "secw_doc_tags"
def docUsagesEntry : String := "secw_doc_usages"
def docPublicEntry : String := "secw_doc_public"
def docPrivateEntry : String := "secw_doc_private"

/-- The sections of a document of each type. -/
inductive Body where
  | snmpv3 (doc : Snmpv3)
  | snmpv1 (doc : Snmpv1)
  | userAndPassword (doc : UserAndPassword)
  | externalCertificate (doc : ExternalCertificate)
  | internalCertificate (doc : InternalCertificate)
deriving DecidableEq, Repr

namespace Body

def type : Body → DocumentType
  | snmpv3 _ => "Snmpv3"
  | snmpv1 _ => "Snmpv1"
  | userAndPassword _ => "UserAndPassword"
  | externalCertificate _ => "ExternalCertificate"
  | internalCertificate _ => "InternalCertificate"

def validate [Certificates] (containPrivateData : Bool) : Body → Except Exn Unit
  | snmpv3 doc => doc.validate containPrivateData
  | snmpv1 doc => doc.validate
  | userAndPassword doc => doc.validate containPrivateData
  | externalCertificate doc => doc.validate
  | internalCertificate doc => doc.validate containPrivateData

/-- Snmpv1 documents and external certificates have no private field. -/
def fillSerializationInfoPrivateDoc (si : SerializationInfo) : Body → SerializationInfo
  | snmpv3 doc => doc.fillSerializationInfoPrivateDoc si
  | snmpv1 _ => si
  | userAndPassword doc => doc.fillSerializationInfoPrivateDoc si
  | externalCertificate _ => si
  | internalCertificate doc => doc.fillSerializationInfoPrivateDoc si

def fillSerializationInfoPublicDoc (si : SerializationInfo) : Body → SerializationInfo
  | snmpv3 doc => doc.fillSerializationInfoPublicDoc si
  | snmpv1 doc => doc.fillSerializationInfoPublicDoc si
  | userAndPassword doc => doc.fillSerializationInfoPublicDoc si
  | externalCertificate doc => doc.fillSerializationInfoPublicDoc si
  | internalCertificate doc => doc.fillSerializationInfoPublicDoc si

variable [Cxxtools]

def updatePrivateDocFromSerializationInfo (si : SerializationInfo) : Body → Except Exn Body
  | snmpv3 doc => snmpv3 <$> doc.updatePrivateDocFromSerializationInfo si
  | snmpv1 doc => .ok (snmpv1 doc)
  | userAndPassword doc => userAndPassword <$> doc.updatePrivateDocFromSerializationInfo si
  | externalCertificate doc => .ok (externalCertificate doc)
  | internalCertificate doc => internalCertificate <$> doc.updatePrivateDocFromSerializationInfo si

def updatePublicDocFromSerializationInfo (si : SerializationInfo) : Body → Except Exn Body
  | snmpv3 doc => snmpv3 <$> doc.updatePublicDocFromSerializationInfo si
  | snmpv1 doc => snmpv1 <$> doc.updatePublicDocFromSerializationInfo si
  | userAndPassword doc => userAndPassword <$> doc.updatePublicDocFromSerializationInfo si
  | externalCertificate doc => externalCertificate <$> doc.updatePublicDocFromSerializationInfo si
  | internalCertificate doc => internalCertificate <$> doc.updatePublicDocFromSerializationInfo si

end Body

/-- The supported types with the document each one starts from. -/
def documentFactoryFunctions : List Body :=
  [.snmpv3 {}, .snmpv1 {}, .userAndPassword {}, .externalCertificate {}, .internalCertificate {}]

def documentFactory (type : DocumentType) : Except Exn Body :=
  match documentFactoryFunctions.find? fun body => body.type = type with
  | some body => .ok body
  | none => .error (.std "map::at")

@[ext]
structure Document where
  name : String := ""
  id : Id := ""
  tags : StdSet Tag := ∅
  usages : StdSet UsageId := ∅
  containPrivateData : Bool := true
  body : Body
deriving DecidableEq

namespace Document

def getType (doc : Document) : DocumentType := doc.body.type

def validate [Certificates] (doc : Document) : Except Exn Unit :=
  doc.body.validate doc.containPrivateData

/-! ### Writing -/

def fillSerializationInfoHeaderDoc (doc : Document) (si : SerializationInfo) :
    SerializationInfo :=
  let si := addMember si docIdEntry (.str doc.id)
  let si := addMember si docNameEntry (.str doc.name)
  let si := addMember si docTypeEntry (.str doc.getType)
  let si := addMember si docTagsEntry (ofSet doc.tags)
  addMember si docUsagesEntry (ofSet doc.usages)

def fillSerializationInfoWithoutSecret (doc : Document) (si : SerializationInfo) :
    SerializationInfo :=
  let si := doc.fillSerializationInfoHeaderDoc si
  addMember si docPublicEntry (doc.body.fillSerializationInfoPublicDoc .null)

def fillSerializationInfoWithSecret (doc : Document) (si : SerializationInfo) :
    SerializationInfo :=
  let si := doc.fillSerializationInfoHeaderDoc si
  let si := addMember si docPublicEntry (doc.body.fillSerializationInfoPublicDoc .null)
  addMember si docPrivateEntry (doc.body.fillSerializationInfoPrivateDoc .null)

def fillSerializationInfoSRR [Cxxtools] [OpenSSL] (doc : Document) (encryptionKey : String)
    (si : SerializationInfo) : Effect Exn RandomSource SerializationInfo := do
  let si := doc.fillSerializationInfoHeaderDoc si
  let si := addMember si docPublicEntry (doc.body.fillSerializationInfoPublicDoc .null)
  let privateSi := addMember .null "format" (.str "ENC")
  let dataToEncrypt := serialize (doc.body.fillSerializationInfoPrivateDoc .null)
  let privateSi := addMember privateSi "data" (.str (← encrypt dataToEncrypt encryptionKey))
  return addMember si docPrivateEntry privateSi

/-! ### Reading -/

/-- A `try` that lets the wallet's own exceptions through and wraps all others. -/
def rethrow {α : Type} (call : Except Exn α) : Except Exn α :=
  call.mapError fun
    | .secw exception => .secw exception
    | .std whatArg => .secw (.genericException whatArg)

@[simp]
theorem rethrow_eq_ok {α : Type} {call : Except Exn α} {a : α} :
    rethrow call = .ok a ↔ call = .ok a :=
  mapError_eq_ok

section Reading

variable [Cxxtools]

/-- The id is set by the portfolio and the type by the object. -/
def updateHeaderFromSerializationInfo (doc : Document) (si : SerializationInfo) :
    Except Exn Document := do
  let name ← readString docNameEntry si
  let tags ← readField docTagsEntry (liftStd (getMember si docTagsEntry >>= getSet))
  let usages ← readField docUsagesEntry (liftStd (getMember si docUsagesEntry >>= getSet))
  return { doc with name, tags, usages }

def updatePublicDoc (doc : Document) (si : SerializationInfo) : Except Exn Document := do
  return { doc with body := ← doc.body.updatePublicDocFromSerializationInfo si }

def updatePrivateDoc (doc : Document) (si : SerializationInfo) : Except Exn Document := do
  return { doc with body := ← doc.body.updatePrivateDocFromSerializationInfo si }

/-- The document to read into: the existing one, if it has the type and the id of the tree. -/
def documentToUpdate (existing : Option Document) (type : DocumentType) (id : Id) :
    Except Exn Document :=
  match existing with
  | some doc =>
      if doc.getType ≠ type then
        .error (.secw (secwInvalidDocumentFormatException docTypeEntry))
      else if doc.id ≠ id then
        .error (.secw (secwInvalidDocumentFormatException docIdEntry))
      else .ok doc
  | none => do return { id, body := ← documentFactory type }

/-- The `operator>>=`, into a null pointer or over an existing document. -/
def read (si : SerializationInfo) (existing : Option Document) : Except Exn Document :=
  rethrow do
    let type ← liftStd (getStringMember si docTypeEntry)
    let id ← liftStd (getStringMember si docIdEntry)
    let publicEntry ← liftStd (getMember si docPublicEntry)
    let privateEntry := findMember si docPrivateEntry
    let doc ← documentToUpdate existing type id
    let doc ← doc.updateHeaderFromSerializationInfo si
    let doc ← doc.updatePublicDoc publicEntry
    match privateEntry with
    | some privateEntry =>
        let doc ← doc.updatePrivateDoc privateEntry
        return if existing.isNone then { doc with containPrivateData := true } else doc
    | none => return if existing.isNone then { doc with containPrivateData := false } else doc

/-- The private section of an SRR document, in the format it names. -/
def readPrivateSRR [OpenSSL] (doc : Document) (privateSection : SerializationInfo)
    (encryptionKey : String) : Except Exn Document := do
  let format ← liftStd (getStringMember privateSection "format")
  if format = "plaintext" then
    doc.updatePrivateDoc (← liftStd (getMember privateSection "data"))
  else if format = "ENC" ∧ ¬ encryptionKey.isEmpty then
    let encryptedData ← liftStd (getStringMember privateSection "data")
    doc.updatePrivateDoc (← deserialize (← decrypt encryptedData encryptionKey))
  else
    throw (.secw (.genericException "Bad data format"))

def createFromSRR [OpenSSL] (si : SerializationInfo) (encryptionKey : String) :
    Except Exn Document :=
  rethrow do
    let type ← liftStd (getStringMember si docTypeEntry)
    let id ← liftStd (getStringMember si docIdEntry)
    let publicEntry ← liftStd (getMember si docPublicEntry)
    let privateSection ← liftStd (getMember si docPrivateEntry)
    let doc : Document := { id, body := ← documentFactory type }
    let doc ← doc.updateHeaderFromSerializationInfo si
    let doc ← doc.updatePublicDoc publicEntry
    let doc ← doc.readPrivateSRR privateSection encryptionKey
    return { doc with containPrivateData := true }

end Reading

/-! ### Comparing -/

section Comparing

variable [Cxxtools]

def isNonSecretEquals (doc other : Document) : Bool :=
  let doc1 := serialize (addMember .null docPublicEntry
    (doc.body.fillSerializationInfoPublicDoc .null))
  let doc2 := serialize (addMember .null docPublicEntry
    (other.body.fillSerializationInfoPublicDoc .null))
  doc1 = doc2

def isSecretEquals (doc other : Document) : Bool :=
  if doc.getType ≠ other.getType then false
  else if ¬ doc.containPrivateData ∨ ¬ other.containPrivateData then false
  else
    let doc1 := serialize (addMember .null docPrivateEntry
      (doc.body.fillSerializationInfoPrivateDoc .null))
    let doc2 := serialize (addMember .null docPrivateEntry
      (other.body.fillSerializationInfoPrivateDoc .null))
    doc1 = doc2

end Comparing

end Document

end Secw
