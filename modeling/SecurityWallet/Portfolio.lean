import SecurityWallet.Configuration

/-!
# Portfolios

A portfolio holds its documents twice, by id and by name. It is written to the database and to SRR
as a version, a name and the list of its documents; reading skips every document that does not
decode or is not valid.
-/

open Foundation SerializationInfo

namespace Secw

/-- All the code outside the wallet that it calls. -/
class Platform extends Cxxtools, OpenSSL, Certificates, Regex

/-- The ids drawn for new documents, in order: whatever ids are used, a fresh one comes up later. -/
structure UuidSource where
  draw : Nat → Id
  draws : Nat := 0
  live : ∀ (used : StdSet Id) (n : Nat), ∃ k, n ≤ k ∧ draw k ∉ used

namespace UuidSource

/-- Draws until an id comes up that is not used. -/
def next (source : UuidSource) (used : StdSet Id) : Id × UuidSource :=
  let k := Nat.find (source.live used source.draws)
  (source.draw k, { source with draws := k + 1 })

theorem next_fresh (source : UuidSource) (used : StdSet Id) : (source.next used).1 ∉ used :=
  (Nat.find_spec (source.live used source.draws)).2

end UuidSource

structure Portfolio where
  name : String := "default"
  documents : StdMap Id Document := ∅
  mapNameDocuments : StdMap String Document := ∅
deriving DecidableEq

namespace Portfolio

def portfolioVersion : UInt8 := 1

/-- The ids under which documents are stored. -/
def usedIds (portfolio : Portfolio) : StdSet Id := Std.ExtTreeSet.ofList portfolio.documents.keys

/-- Stores a document under its id and under its name. -/
def store (portfolio : Portfolio) (id : Id) (doc : Document) : Portfolio :=
  { portfolio with
    documents := portfolio.documents.insert id doc
    mapNameDocuments := portfolio.mapNameDocuments.insert doc.name doc }

def add (doc : Document) : Effect Exn (Portfolio × UuidSource) Id := do
  let (portfolio, uuids) ← get
  if portfolio.mapNameDocuments.contains doc.name then
    throw (.secw (secwNameAlreadyExistsException doc.name))
  let (id, uuids) := uuids.next portfolio.usedIds
  let copyDoc := { doc with id }
  set (portfolio.store id copyDoc, uuids)
  return id

def remove (id : Id) : Effect Exn Portfolio Unit := do
  let portfolio ← get
  match portfolio.documents[id]? with
  | none => throw (.secw (secwDocumentDoNotExistException id))
  | some doc =>
      set { portfolio with
        documents := portfolio.documents.erase id
        mapNameDocuments := portfolio.mapNameDocuments.erase doc.name }

def update (doc : Document) : Effect Exn Portfolio Unit := do
  let portfolio ← get
  match portfolio.documents[doc.id]? with
  | none => throw (.secw (secwDocumentDoNotExistException doc.id))
  | some oldDoc =>
      if doc.name ≠ oldDoc.name then
        if portfolio.mapNameDocuments.contains doc.name then
          throw (.secw (secwNameAlreadyExistsException doc.name))
        set { portfolio with
          mapNameDocuments := portfolio.mapNameDocuments.erase oldDoc.name }
      modify fun portfolio => portfolio.store doc.id doc

def getDocument (portfolio : Portfolio) (id : Id) : Except Exn Document :=
  match portfolio.documents[id]? with
  | some doc => .ok doc
  | none => .error (.secw (secwDocumentDoNotExistException id))

def getDocumentByName (portfolio : Portfolio) (name : String) : Except Exn Document :=
  match portfolio.mapNameDocuments[name]? with
  | some doc => .ok doc
  | none => .error (.secw (secwNameDoesNotExistException name))

def getListDocuments (portfolio : Portfolio) : List Document := portfolio.documents.valueList

/-! ### Writing -/

def serializePortfolio (portfolio : Portfolio) (si : SerializationInfo) : SerializationInfo :=
  let si := addMember si "version" (ofUInt8 portfolioVersion)
  let si := addMember si "name" (.str portfolio.name)
  addMember si "documents"
    (ofList (fun doc => doc.fillSerializationInfoWithSecret .null) portfolio.getListDocuments)

def serializePortfolioSRR [Cxxtools] [OpenSSL] (portfolio : Portfolio) (encryptiondKey : String)
    (si : SerializationInfo) : Effect Exn RandomSource SerializationInfo := do
  let si := addMember si "version" (ofUInt8 portfolioVersion)
  let si := addMember si "name" (.str portfolio.name)
  let siDocuments ← portfolio.getListDocuments.mapM fun doc =>
    doc.fillSerializationInfoSRR encryptiondKey .null
  return addMember si "documents" (.arr siDocuments)

/-! ### Reading -/

section Reading

variable [Cxxtools] [Certificates]

/-- The body of the loading loop: stores what was read, unless that was skipped or threw. -/
def loadDocument (portfolio : Portfolio) (document : Except Exn (Option Document)) : Portfolio :=
  match document with
  | .ok (some doc) => portfolio.store doc.id doc
  | .ok none => portfolio
  | .error _ => portfolio

def badFormat {α : Type} (call : Except String α) (text : String) : Except Exn α :=
  orThrow (liftStd call) fun _ => .impossibleToLoadPortfolioException text

/-- Reads a document of the database and validates it. -/
def readDocument (si : SerializationInfo) : Except Exn (Option Document) := do
  let doc ← Document.read si none
  doc.validate
  return some doc

/-- The loading loop: a document that cannot be read is skipped. -/
def loadDocuments (readDocument : SerializationInfo → Except Exn (Option Document))
    (si : SerializationInfo) : Effect Exn Portfolio Unit := do
  let portfolio ← get
  let text := "Bad format of the serialization data in portfolio "
  let name ← badFormat (getStringMember si "name") (text ++ portfolio.name)
  modify fun portfolio => { portfolio with name }
  let documents ← badFormat (getMember si "documents") (text ++ name)
  modify fun portfolio => (children documents).foldl
    (fun portfolio document => portfolio.loadDocument (readDocument document)) portfolio

def loadPortfolioVersion1 (si : SerializationInfo) : Effect Exn Portfolio Unit :=
  loadDocuments readDocument si

/-- What loading from the database and loading from SRR have in common. -/
def loadVersioned (loadPortfolioVersion1 : Effect Exn Portfolio Unit) (si : SerializationInfo) :
    Effect Exn Portfolio Unit := do
  let version ← badFormat (getUInt8Member si "version") "Bad format of the serialization data"
  modify fun portfolio => { portfolio with documents := ∅, mapNameDocuments := ∅ }
  if version = 1 then
    loadPortfolioVersion1
  else
    throw (.secw (.impossibleToLoadPortfolioException
      ("Version " ++ toString version.toNat ++ " not supported")))

def loadPortfolio (si : SerializationInfo) : Effect Exn Portfolio Unit :=
  loadVersioned (loadPortfolioVersion1 si) si

variable [OpenSSL]

/-- Reads a document of SRR; an internal certificate is only kept on the platform it comes from. -/
def readDocumentSRR (encryptiondKey : String) (isSameInstance : Bool) (si : SerializationInfo) :
    Except Exn (Option Document) := do
  let doc ← Document.createFromSRR si encryptiondKey
  if ¬ isSameInstance ∧ doc.getType = "InternalCertificate" then
    return none
  doc.validate
  return some doc

def loadPortfolioSRRVersion1 (si : SerializationInfo) (encryptiondKey : String)
    (isSameInstance : Bool) : Effect Exn Portfolio Unit :=
  loadDocuments (readDocumentSRR encryptiondKey isSameInstance) si

def loadPortfolioFromSRR (si : SerializationInfo) (encryptiondKey : String)
    (isSameInstance : Bool) : Effect Exn Portfolio Unit :=
  loadVersioned (loadPortfolioSRRVersion1 si encryptiondKey isSameInstance) si

end Reading

end Portfolio

end Secw
