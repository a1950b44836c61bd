import SecurityWallet.Document
import SecurityWallet.Proof.Encryption

/-!
# Reading and writing documents

What the reader keeps of an existing document, and that a document is read back from every form it
is written in: with its secrets, and with them encrypted.
-/

open Foundation SerializationInfo Effect

namespace Secw

namespace Body

/-- The private fields of each type, emptied. -/
def withoutSecret : Body → Body
  | snmpv3 doc => snmpv3 { doc with authPassword := "", privPassword := "" }
  | snmpv1 doc => snmpv1 doc
  | userAndPassword doc => userAndPassword { doc with password := "" }
  | externalCertificate doc => externalCertificate doc
  | internalCertificate doc => internalCertificate { doc with privateKeyPem := "" }

@[simp]
theorem type_withoutSecret (body : Body) : body.withoutSecret.type = body.type := by
  cases body <;> rfl

/-- The public section of each type holds no private field. -/
@[simp]
theorem fillPublic_withoutSecret (si : SerializationInfo) (body : Body) :
    body.withoutSecret.fillSerializationInfoPublicDoc si =
      body.fillSerializationInfoPublicDoc si := by
  cases body <;> rfl

/-- The document the type of a body starts from. -/
def blank : Body → Body
  | snmpv3 _ => snmpv3 {}
  | snmpv1 _ => snmpv1 {}
  | userAndPassword _ => userAndPassword {}
  | externalCertificate _ => externalCertificate {}
  | internalCertificate _ => internalCertificate {}

end Body

namespace Document

def withoutSecret (doc : Document) : Document := { doc with body := doc.body.withoutSecret }

/-- A document up to the flag for private data, which is not written to any file. -/
def content (doc : Document) : Document := { doc with containPrivateData := true }

/-- Same id, name, type, tags, usages and fields. -/
def SameContent (doc other : Document) : Prop := doc.content = other.content

@[simp]
theorem content_id (doc : Document) : doc.content.id = doc.id := rfl

@[simp]
theorem content_content (doc : Document) : doc.content.content = doc.content := rfl

variable {si : SerializationInfo} {doc start : Document}

/-! ### What reading keeps -/

/-- Same id, same type and same flag: what reading into a document does not touch. -/
def SameIdentity (doc other : Document) : Prop :=
  doc.id = other.id ∧ doc.getType = other.getType ∧
    doc.containPrivateData = other.containPrivateData

theorem SameIdentity.trans {other third : Document} (hfirst : doc.SameIdentity other)
    (hsecond : other.SameIdentity third) : doc.SameIdentity third :=
  ⟨hfirst.1.trans hsecond.1, hfirst.2.1.trans hsecond.2.1, hfirst.2.2.trans hsecond.2.2⟩

theorem documentToUpdate_eq_ok {existing : Option Document} {type : DocumentType} {id : Id}
    (hstart : documentToUpdate existing type id = .ok start) :
    start.id = id ∧ ∀ old, existing = some old → start = old := by
  unfold documentToUpdate at hstart
  cases existing with
  | none =>
      simp only [bind_eq_ok, pure_eq_ok] at hstart
      obtain ⟨body, -, rfl⟩ := hstart
      exact ⟨rfl, by simp⟩
  | some old =>
      dsimp only at hstart
      split at hstart
      · exact absurd hstart (by simp)
      · split at hstart
        · exact absurd hstart (by simp)
        · next hid =>
            cases hstart
            exact ⟨not_not.1 hid, by simp⟩

variable [Cxxtools]

theorem updateHeader_sameIdentity (hupdate : start.updateHeaderFromSerializationInfo si = .ok doc) :
    doc.SameIdentity start ∧ doc.body = start.body := by
  simp only [updateHeaderFromSerializationInfo, bind_eq_ok, pure_eq_ok] at hupdate
  obtain ⟨name, -, tags, -, usages, -, rfl⟩ := hupdate
  exact ⟨⟨rfl, rfl, rfl⟩, rfl⟩

theorem updatePublic_type {body next : Body}
    (hupdate : body.updatePublicDocFromSerializationInfo si = .ok next) :
    next.type = body.type := by
  cases body <;> obtain ⟨_, -, rfl⟩ := map_eq_ok.1 hupdate <;> rfl

theorem updatePrivate_type {body next : Body}
    (hupdate : body.updatePrivateDocFromSerializationInfo si = .ok next) :
    next.type = body.type := by
  cases body
  case snmpv1 | externalCertificate => cases hupdate; rfl
  all_goals obtain ⟨_, -, rfl⟩ := map_eq_ok.1 hupdate; rfl

theorem updatePublicDoc_sameIdentity (hupdate : start.updatePublicDoc si = .ok doc) :
    doc.SameIdentity start := by
  simp only [updatePublicDoc, bind_eq_ok, pure_eq_ok] at hupdate
  obtain ⟨body, hbody, rfl⟩ := hupdate
  exact ⟨rfl, updatePublic_type hbody, rfl⟩

theorem updatePrivateDoc_sameIdentity (hupdate : start.updatePrivateDoc si = .ok doc) :
    doc.SameIdentity start := by
  simp only [updatePrivateDoc, bind_eq_ok, pure_eq_ok] at hupdate
  obtain ⟨body, hbody, rfl⟩ := hupdate
  exact ⟨rfl, updatePrivate_type hbody, rfl⟩

theorem updatePublicDoc_usages (hupdate : start.updatePublicDoc si = .ok doc) :
    doc.usages = start.usages := by
  simp only [updatePublicDoc, bind_eq_ok, pure_eq_ok] at hupdate
  obtain ⟨body, -, rfl⟩ := hupdate
  rfl

theorem updatePrivateDoc_usages (hupdate : start.updatePrivateDoc si = .ok doc) :
    doc.usages = start.usages := by
  simp only [updatePrivateDoc, bind_eq_ok, pure_eq_ok] at hupdate
  obtain ⟨body, -, rfl⟩ := hupdate
  rfl

/-- The steps of a reading that returns, in the order of the decoder. -/
theorem read_eq_ok {existing : Option Document} :
    read si existing = .ok doc ↔
      ∃ type id publicEntry start header withPublic withPrivate,
        getStringMember si docTypeEntry = .ok type ∧ getStringMember si docIdEntry = .ok id ∧
          getMember si docPublicEntry = .ok publicEntry ∧
          documentToUpdate existing type id = .ok start ∧
          start.updateHeaderFromSerializationInfo si = .ok header ∧
          header.updatePublicDoc publicEntry = .ok withPublic ∧
          (match findMember si docPrivateEntry with
            | some privateEntry => withPublic.updatePrivateDoc privateEntry
            | none => .ok withPublic) = .ok withPrivate ∧
          doc = if existing.isNone then
              { withPrivate with containPrivateData := (findMember si docPrivateEntry).isSome }
            else withPrivate := by
  simp only [read, rethrow_eq_ok, bind_eq_ok, liftStd_eq_ok]
  cases findMember si docPrivateEntry with
  | none =>
      simp only [pure_eq_ok, Except.ok.injEq, Option.isSome_none]
      constructor
      · rintro ⟨type, htype, id, hid, publicEntry, hentry, start, hstart, header, hheader,
          withPublic, hpublic, rfl⟩
        exact ⟨type, id, publicEntry, start, header, withPublic, withPublic, htype, hid, hentry,
          hstart, hheader, hpublic, rfl, rfl⟩
      · rintro ⟨type, id, publicEntry, start, header, withPublic, _, htype, hid, hentry, hstart,
          hheader, hpublic, rfl, rfl⟩
        exact ⟨type, htype, id, hid, publicEntry, hentry, start, hstart, header, hheader,
          withPublic, hpublic, rfl⟩
  | some privateEntry =>
      simp only [bind_eq_ok, pure_eq_ok, Option.isSome_some]
      constructor
      · rintro ⟨type, htype, id, hid, publicEntry, hentry, start, hstart, header, hheader,
          withPublic, hpublic, withPrivate, hprivate, rfl⟩
        exact ⟨type, id, publicEntry, start, header, withPublic, withPrivate, htype, hid, hentry,
          hstart, hheader, hpublic, hprivate, rfl⟩
      · rintro ⟨type, id, publicEntry, start, header, withPublic, withPrivate, htype, hid, hentry,
          hstart, hheader, hpublic, hprivate, rfl⟩
        exact ⟨type, htype, id, hid, publicEntry, hentry, start, hstart, header, hheader,
          withPublic, hpublic, withPrivate, hprivate, rfl⟩

/-- Reading the private section, if there is one, keeps the identity and the usages. -/
theorem of_readPrivate
    (hprivate : (match findMember si docPrivateEntry with
      | some privateEntry => start.updatePrivateDoc privateEntry
      | none => .ok start) = .ok doc) : doc.SameIdentity start ∧ doc.usages = start.usages := by
  split at hprivate
  · exact ⟨updatePrivateDoc_sameIdentity hprivate, updatePrivateDoc_usages hprivate⟩
  · cases hprivate
    exact ⟨⟨rfl, rfl, rfl⟩, rfl⟩

/-- A document that was read has the id in the tree; an existing one keeps its identity. -/
theorem read_identity {existing : Option Document} (hread : read si existing = .ok doc) :
    getStringMember si docIdEntry = .ok doc.id ∧
      ∀ old, existing = some old → doc.SameIdentity old := by
  obtain ⟨type, id, _, start, header, withPublic, withPrivate, -, hid, -, hstart, hheader, hpublic,
    hprivate, rfl⟩ := read_eq_ok.1 hread
  obtain ⟨rfl, hold⟩ := documentToUpdate_eq_ok hstart
  have hsame : withPrivate.SameIdentity start :=
    (of_readPrivate hprivate).1.trans
      ((updatePublicDoc_sameIdentity hpublic).trans (updateHeader_sameIdentity hheader).1)
  constructor
  · rw [hid, ← hsame.1]
    split <;> rfl
  · rintro old rfl
    rw [if_neg (by simp), ← hold old rfl]
    exact hsame

/-- The usages of a document that was read are those of the tree, whatever it was read over. -/
theorem read_usages {existing : Option Document} (hread : read si existing = .ok doc) :
    getMember si docUsagesEntry >>= getSet = .ok doc.usages := by
  obtain ⟨_, _, _, start, header, withPublic, withPrivate, -, -, -, -, hheader, hpublic, hprivate,
    rfl⟩ := read_eq_ok.1 hread
  simp only [updateHeaderFromSerializationInfo, bind_eq_ok, readField_eq_ok, liftStd_eq_ok,
    pure_eq_ok] at hheader
  obtain ⟨_, -, _, -, usages, ⟨member, hmember, husages⟩, rfl⟩ := hheader
  have hkeep : withPrivate.usages = usages := by
    rw [(of_readPrivate hprivate).2, updatePublicDoc_usages hpublic]
  rw [bind_eq_ok]
  refine ⟨member, hmember, ?_⟩
  rw [husages, ← hkeep]
  split <;> rfl

end Document

/-! ### Reading what was written -/

section RoundTrip

variable {si : SerializationInfo}

/-- The member a secret is written to; there is none for an empty one. -/
def secretMember (secret : String) : Option SerializationInfo :=
  if secret.isEmpty then none else some (.str secret)

theorem findMember_fillSecret (si : SerializationInfo) (field other secret : String) :
    findMember (fillSecret field secret si) other =
      (findMember si other).or (if field = other then secretMember secret else none) := by
  unfold fillSecret secretMember
  split
  · simp
  · rw [findMember_addMember]

variable [Cxxtools] [LawfulCxxtools]

theorem readString_of_findMember {field value : String}
    (hfind : findMember si field = some (.str value)) : readString field si = .ok value := by
  rw [readString, readField_eq_ok, liftStd_eq_ok]
  exact getStringMember_of_findMember hfind

theorem readEnum_of_findMember {α : Type} {field : String} {ofUInt8? : UInt8 → Option α}
    {tmp : UInt8} {value : α} (hfind : findMember si field = some (ofUInt8 tmp))
    (hvalue : ofUInt8? tmp = some value) : readEnum field ofUInt8? si = .ok value := by
  rw [readEnum, readField_eq_ok, bind_eq_ok]
  refine ⟨tmp, ?_, by rw [hvalue]; rfl⟩
  rw [liftStd_eq_ok, getUInt8Member, getMember, hfind]
  exact LawfulCxxtools.getUInt8_ofUInt8 tmp

/-- An empty secret is read back as the empty one the document started with. -/
theorem updateSecret_of_findMember {field secret : String}
    (hfind : findMember si field = secretMember secret) : updateSecret field si "" = .ok secret := by
  rw [updateSecret, readField_eq_ok, liftStd_eq_ok, hfind, secretMember]
  by_cases hempty : secret.isEmpty
  · rw [if_pos hempty]
    exact congrArg Except.ok (String.isEmpty_iff.1 hempty).symm
  · rw [if_neg hempty]
    exact LawfulCxxtools.getString_str secret

namespace Body

omit [Cxxtools] [LawfulCxxtools] in
theorem documentFactory_type (body : Body) : documentFactory body.type = .ok body.blank := by
  cases body <;> rfl

theorem updatePublic_fillPublic (body : Body) :
    body.blank.updatePublicDocFromSerializationInfo (body.fillSerializationInfoPublicDoc .null) =
      .ok body.withoutSecret := by
  cases body with
  | snmpv3 doc =>
      refine map_eq_ok.2 ⟨_, ?_, rfl⟩
      simp only [Snmpv3.updatePublicDocFromSerializationInfo, bind_eq_ok, pure_eq_ok]
      refine ⟨_, readEnum_of_findMember rfl doc.securityLevel.ofUInt8?_toUInt8, _,
        readString_of_findMember rfl, _,
        readEnum_of_findMember rfl doc.authProtocol.ofUInt8?_toUInt8, _,
        readEnum_of_findMember rfl doc.privProtocol.ofUInt8?_toUInt8, rfl⟩
  | snmpv1 doc =>
      refine map_eq_ok.2 ⟨_, ?_, rfl⟩
      simp only [Snmpv1.updatePublicDocFromSerializationInfo, bind_eq_ok, pure_eq_ok]
      exact ⟨doc.communityName, readString_of_findMember rfl, rfl⟩
  | userAndPassword doc =>
      refine map_eq_ok.2 ⟨_, ?_, rfl⟩
      simp only [UserAndPassword.updatePublicDocFromSerializationInfo, bind_eq_ok, pure_eq_ok]
      exact ⟨doc.username, readString_of_findMember rfl, rfl⟩
  | externalCertificate doc =>
      refine map_eq_ok.2 ⟨_, ?_, rfl⟩
      simp only [ExternalCertificate.updatePublicDocFromSerializationInfo, bind_eq_ok, pure_eq_ok]
      exact ⟨doc.pem, readString_of_findMember rfl, rfl⟩
  | internalCertificate doc =>
      refine map_eq_ok.2 ⟨_, ?_, rfl⟩
      simp only [InternalCertificate.updatePublicDocFromSerializationInfo, bind_eq_ok, pure_eq_ok]
      exact ⟨doc.pem, readString_of_findMember rfl, rfl⟩

theorem updatePrivate_fillPrivate (body : Body) :
    body.withoutSecret.updatePrivateDocFromSerializationInfo
      (body.fillSerializationInfoPrivateDoc .null) = .ok body := by
  cases body with
  | snmpv3 doc =>
      refine map_eq_ok.2 ⟨_, ?_, rfl⟩
      simp only [Snmpv3.updatePrivateDocFromSerializationInfo, bind_eq_ok, pure_eq_ok]
      refine ⟨doc.authPassword, updateSecret_of_findMember ?_, doc.privPassword,
        updateSecret_of_findMember ?_, rfl⟩
      all_goals
        rw [fillSerializationInfoPrivateDoc, Snmpv3.fillSerializationInfoPrivateDoc]
        simp [findMember_fillSecret, docSnmpv3AuthPassword, docSnmpv3PrivPassword]
  | userAndPassword doc =>
      refine map_eq_ok.2 ⟨_, ?_, rfl⟩
      simp only [UserAndPassword.updatePrivateDocFromSerializationInfo, bind_eq_ok, pure_eq_ok]
      refine ⟨doc.password, updateSecret_of_findMember ?_, rfl⟩
      rw [fillSerializationInfoPrivateDoc, UserAndPassword.fillSerializationInfoPrivateDoc]
      simp [findMember_fillSecret]
  | internalCertificate doc =>
      refine map_eq_ok.2 ⟨_, ?_, rfl⟩
      simp only [InternalCertificate.updatePrivateDocFromSerializationInfo, bind_eq_ok, pure_eq_ok]
      refine ⟨doc.privateKeyPem, updateSecret_of_findMember ?_, rfl⟩
      rw [fillSerializationInfoPrivateDoc, InternalCertificate.fillSerializationInfoPrivateDoc]
      simp [findMember_fillSecret]
  | snmpv1 doc => rfl
  | externalCertificate doc => rfl

end Body

namespace Document

variable (doc : Document)

/-- A new document of the type and with the id of another one. -/
def blank : Document := { id := doc.id, body := doc.body.blank }

omit [Cxxtools] [LawfulCxxtools] in
theorem documentToUpdate_none : documentToUpdate none doc.getType doc.id = .ok doc.blank := by
  rw [documentToUpdate, bind_eq_ok]
  exact ⟨doc.body.blank, doc.body.documentFactory_type, rfl⟩

/-- The header and the public section are where the decoder looks for them. -/
structure WrittenIn (doc : Document) (si : SerializationInfo) : Prop where
  id : findMember si docIdEntry = some (.str doc.id)
  name : findMember si docNameEntry = some (.str doc.name)
  type : findMember si docTypeEntry = some (.str doc.getType)
  tags : findMember si docTagsEntry = some (ofSet doc.tags)
  usages : findMember si docUsagesEntry = some (ofSet doc.usages)
  publicSection :
    findMember si docPublicEntry = some (doc.body.fillSerializationInfoPublicDoc .null)

variable {doc}

/-- Header and public section are read back; the secrets are those of a new document. -/
theorem WrittenIn.updatePublic (hwritten : doc.WrittenIn si) :
    (doc.blank.updateHeaderFromSerializationInfo si >>= fun header =>
        header.updatePublicDoc (doc.body.fillSerializationInfoPublicDoc .null)) =
      .ok doc.withoutSecret.content := by
  simp only [updateHeaderFromSerializationInfo, updatePublicDoc, bind_eq_ok, pure_eq_ok,
    readField_eq_ok, liftStd_eq_ok]
  exact ⟨_, ⟨doc.name, readString_of_findMember hwritten.name,
    doc.tags, ⟨_, getMember_of_findMember hwritten.tags, getSet_ofSet doc.tags⟩,
    doc.usages, ⟨_, getMember_of_findMember hwritten.usages, getSet_ofSet doc.usages⟩, rfl⟩,
    _, doc.body.updatePublic_fillPublic, rfl⟩

theorem updatePrivateDoc_withoutSecret :
    doc.withoutSecret.content.updatePrivateDoc
        (doc.body.fillSerializationInfoPrivateDoc .null) =
      .ok doc.content := by
  rw [updatePrivateDoc, bind_eq_ok]
  exact ⟨doc.body, doc.body.updatePrivate_fillPrivate, rfl⟩

variable (doc)

omit [Cxxtools] [LawfulCxxtools] in
theorem writtenIn_withSecret : doc.WrittenIn (doc.fillSerializationInfoWithSecret .null) := by
  constructor <;> rfl

/-- A document written with its secrets is read back. -/
theorem read_withSecret :
    read (doc.fillSerializationInfoWithSecret .null) none =
      .ok doc.content := by
  have hwritten := doc.writtenIn_withSecret
  obtain ⟨header, hheader, hpublic⟩ := bind_eq_ok.1 hwritten.updatePublic
  simp only [read, rethrow_eq_ok, bind_eq_ok, liftStd_eq_ok]
  exact ⟨doc.getType, getStringMember_of_findMember hwritten.type,
    doc.id, getStringMember_of_findMember hwritten.id,
    _, getMember_of_findMember hwritten.publicSection,
    doc.blank, doc.documentToUpdate_none, header, hheader, _, hpublic,
    bind_eq_ok.2 ⟨_, updatePrivateDoc_withoutSecret, rfl⟩⟩

/-- A document written for SRR is read back with the key it was encrypted with. -/
theorem fillSerializationInfoSRR_ensures [OpenSSL] [LawfulOpenSSL] {encryptionKey : String}
    (hkey : encryptionKey.isEmpty = false) {source : RandomSource} (hsource : source.NeverFails) :
    Ensures (doc.fillSerializationInfoSRR encryptionKey .null) source
      (fun si next => next.NeverFails ∧
        createFromSRR si encryptionKey = .ok doc.content)
      fun _ _ => False := by
  simp only [fillSerializationInfoSRR, ensures_bind, ensures_pure]
  refine (encrypt_ensures _ encryptionKey hsource).imp ?_ fun _ _ h => h
  rintro data next ⟨hnext, hdecrypt⟩
  refine ⟨hnext, ?_⟩
  generalize hprivate : addMember (addMember .null "format" (.str "ENC")) "data" (.str data) =
    privateSection
  generalize hsi : addMember _ docPrivateEntry privateSection = si
  have hwritten : doc.WrittenIn si := by
    subst hsi
    constructor <;> rfl
  have hsection : findMember si docPrivateEntry = some privateSection := by
    rw [← hsi]
    rfl
  have hread : doc.withoutSecret.content.readPrivateSRR privateSection
      encryptionKey = .ok doc.content := by
    have hformat : getStringMember privateSection "format" = .ok "ENC" :=
      getStringMember_of_findMember (by rw [← hprivate]; rfl)
    have hdata : getStringMember privateSection "data" = .ok data :=
      getStringMember_of_findMember (by rw [← hprivate]; rfl)
    simp only [readPrivateSRR, bind_eq_ok, liftStd_eq_ok]
    refine ⟨"ENC", hformat, ?_⟩
    rw [if_neg (by decide), if_pos ⟨rfl, by simp [hkey]⟩]
    simp only [bind_eq_ok, liftStd_eq_ok]
    exact ⟨data, hdata, _, hdecrypt, _, deserialize_serialize _, updatePrivateDoc_withoutSecret⟩
  obtain ⟨header, hheader, hpublic⟩ := bind_eq_ok.1 hwritten.updatePublic
  simp only [createFromSRR, rethrow_eq_ok, bind_eq_ok, liftStd_eq_ok]
  exact ⟨doc.getType, getStringMember_of_findMember hwritten.type,
    doc.id, getStringMember_of_findMember hwritten.id,
    _, getMember_of_findMember hwritten.publicSection,
    privateSection, getMember_of_findMember hsection,
    doc.body.blank, doc.body.documentFactory_type, header, hheader, _, hpublic, _, hread, rfl⟩

end Document

end RoundTrip

/-! ### Validity -/

section Validity

variable [Certificates]

/-- What is valid without the flag is valid with it. -/
theorem Body.validate_containPrivateData {flag : Bool} {body : Body}
    (hvalid : body.validate flag = .ok ()) : body.validate true = .ok () := by
  cases flag with
  | true => exact hvalid
  | false =>
      cases body with
      | snmpv3 doc =>
          obtain ⟨_, -, hpriv⟩ := bind_eq_ok.1 hvalid
          obtain ⟨_, -, hrest⟩ := bind_eq_ok.1 hpriv
          exact hrest
      | snmpv1 doc => exact hvalid
      | externalCertificate doc => exact hvalid
      | userAndPassword doc => cases hvalid
      | internalCertificate doc => cases hvalid

theorem Document.validate_content {doc : Document} (hvalid : doc.validate = .ok ()) :
    doc.content.validate = .ok () :=
  Body.validate_containPrivateData hvalid

end Validity

end Secw
