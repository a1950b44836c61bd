import SecurityWallet.Proof.DocumentCodec
import SecurityWallet.Reference

/-!
# What the decoder of documents returns

Whatever the tree, the decoder throws an exception of the wallet or returns a document of the type
the tree names, with the enumerators whose numbers are in the tree. A document that was written
without its secrets comes back without them, flagged as such.
-/

open Foundation SerializationInfo

namespace Secw

def maxSecurityLevel : UInt8 := 3
def maxAuthProtocol : UInt8 := 2
def maxPrivProtocol : UInt8 := 2

/-! ### Enumerators -/

/-- The enumerators are listed in the order of their numbers. -/
theorem enumerator_of_getElem? {α : Type} {enumerators : List α} {toUInt8 : α → UInt8}
    {tmp : UInt8} {value : α}
    (hnumbers : enumerators.map (fun value => (toUInt8 value).toNat) =
      List.range enumerators.length)
    (hvalue : enumerators[tmp.toNat]? = some value) :
    tmp.toNat < enumerators.length ∧ toUInt8 value = tmp := by
  have hlt := (List.getElem?_eq_some_iff.1 hvalue).1
  have hnumber : (enumerators.map fun value => (toUInt8 value).toNat)[tmp.toNat]? =
      some (toUInt8 value).toNat := by
    rw [List.getElem?_map, hvalue, Option.map_some]
  rw [hnumbers, List.getElem?_range hlt, Option.some_inj] at hnumber
  exact ⟨hlt, UInt8.toNat_inj.1 hnumber.symm⟩

section Decoder

variable [Cxxtools]

theorem readEnum_eq_ok {α : Type} {field : String} {ofUInt8? : UInt8 → Option α}
    {si : SerializationInfo} {value : α} :
    readEnum field ofUInt8? si = .ok value ↔
      ∃ tmp, getUInt8Member si field = .ok tmp ∧ ofUInt8? tmp = some value := by
  simp only [readEnum, readField_eq_ok, bind_eq_ok, liftStd_eq_ok]
  refine exists_congr fun tmp => and_congr_right fun _ => ?_
  cases ofUInt8? tmp <;> simp

/-- The member is a number below the bound, the one of the enumerator. -/
def ReadsNumber (si : SerializationInfo) (field : String) (bound number : UInt8) : Prop :=
  getUInt8Member si field = .ok number ∧ number < bound

theorem readsNumber_of_readEnum {α : Type} {field : String} {enumerators : List α}
    {toUInt8 : α → UInt8} {bound : UInt8} {si : SerializationInfo} {value : α}
    (hread : readEnum field (fun tmp => enumerators[tmp.toNat]?) si = .ok value)
    (hnumbers : enumerators.map (fun value => (toUInt8 value).toNat) =
      List.range enumerators.length)
    (hbound : bound.toNat = enumerators.length) :
    ReadsNumber si field bound (toUInt8 value) := by
  obtain ⟨tmp, hmember, hvalue⟩ := readEnum_eq_ok.1 hread
  obtain ⟨hlt, rfl⟩ := enumerator_of_getElem? hnumbers hvalue
  exact ⟨hmember, UInt8.lt_iff_toNat_lt.2 (hbound ▸ hlt)⟩

/-- The enumerators of a document are those whose numbers are in a public section. -/
structure Snmpv3.EnumeratorsOf (si : SerializationInfo) (doc : Snmpv3) : Prop where
  securityLevel : ReadsNumber si docSnmpv3SecurityLevel maxSecurityLevel doc.securityLevel.toUInt8
  authProtocol : ReadsNumber si docSnmpv3AuthProtocol maxAuthProtocol doc.authProtocol.toUInt8
  privProtocol : ReadsNumber si docSnmpv3PrivProtocol maxPrivProtocol doc.privProtocol.toUInt8

theorem Snmpv3.enumeratorsOf_updatePublic {si : SerializationInfo} {start doc : Snmpv3}
    (hupdate : start.updatePublicDocFromSerializationInfo si = .ok doc) :
    doc.EnumeratorsOf si := by
  simp only [updatePublicDocFromSerializationInfo, bind_eq_ok, pure_eq_ok] at hupdate
  obtain ⟨_, hlevel, _, -, _, hauth, _, hpriv, rfl⟩ := hupdate
  exact ⟨readsNumber_of_readEnum hlevel rfl rfl, readsNumber_of_readEnum hauth rfl rfl,
    readsNumber_of_readEnum hpriv rfl rfl⟩

/-- The enumerators of a body, if its type has any, are those of a public section. -/
def Body.EnumeratorsOf (si : SerializationInfo) : Body → Prop
  | snmpv3 doc => doc.EnumeratorsOf si
  | _ => True

theorem Body.enumeratorsOf_updatePublic {si : SerializationInfo} {start body : Body}
    (hupdate : start.updatePublicDocFromSerializationInfo si = .ok body) :
    body.EnumeratorsOf si := by
  cases start with
  | snmpv3 doc =>
      obtain ⟨next, hnext, rfl⟩ := map_eq_ok.1 hupdate
      exact Snmpv3.enumeratorsOf_updatePublic hnext
  | snmpv1 | userAndPassword | externalCertificate | internalCertificate =>
      obtain ⟨_, -, rfl⟩ := map_eq_ok.1 hupdate
      trivial

/-- Reading the private section keeps the enumerators. -/
theorem Body.EnumeratorsOf.updatePrivate {si privateSi : SerializationInfo} {start body : Body}
    (henumerators : start.EnumeratorsOf si)
    (hupdate : start.updatePrivateDocFromSerializationInfo privateSi = .ok body) :
    body.EnumeratorsOf si := by
  cases start with
  | snmpv3 doc =>
      obtain ⟨next, hnext, rfl⟩ := map_eq_ok.1 hupdate
      simp only [Snmpv3.updatePrivateDocFromSerializationInfo, bind_eq_ok, pure_eq_ok] at hnext
      obtain ⟨_, -, _, -, rfl⟩ := hnext
      exact ⟨henumerators.securityLevel, henumerators.authProtocol, henumerators.privProtocol⟩
  | snmpv1 | externalCertificate =>
      cases hupdate
      trivial
  | userAndPassword | internalCertificate =>
      obtain ⟨_, -, rfl⟩ := map_eq_ok.1 hupdate
      trivial

namespace Document

variable {si : SerializationInfo} {existing : Option Document} {doc : Document}

omit [Cxxtools] in
theorem type_of_documentFactory {type : DocumentType} {body : Body}
    (hbody : documentFactory type = .ok body) : body.type = type := by
  unfold documentFactory at hbody
  split at hbody
  · next found hfound =>
      cases hbody
      simpa using List.find?_some hfound
  · cases hbody

omit [Cxxtools] in
theorem type_of_documentToUpdate {type : DocumentType} {id : Id} {start : Document}
    (hstart : documentToUpdate existing type id = .ok start) : start.getType = type := by
  unfold documentToUpdate at hstart
  cases existing with
  | none =>
      simp only [bind_eq_ok, pure_eq_ok] at hstart
      obtain ⟨body, hbody, rfl⟩ := hstart
      exact type_of_documentFactory hbody
  | some old =>
      dsimp only at hstart
      split at hstart
      · cases hstart
      · next htype =>
          split at hstart
          · cases hstart
          · cases hstart
            exact not_not.1 htype

/-- A document that was read has the type the tree names. -/
theorem read_type (hread : read si existing = .ok doc) :
    getStringMember si docTypeEntry = .ok doc.getType := by
  obtain ⟨type, _, _, start, header, withPublic, withPrivate, htype, -, -, hstart, hheader,
    hpublic, hprivate, rfl⟩ := read_eq_ok.1 hread
  have hsame : withPrivate.getType = type := by
    rw [(of_readPrivate hprivate).1.2.1, (updatePublicDoc_sameIdentity hpublic).2.1,
      (updateHeader_sameIdentity hheader).1.2.1, type_of_documentToUpdate hstart]
  rw [htype, ← hsame]
  split <;> rfl

/-- A document that was read has the enumerators whose numbers are in the tree. -/
theorem read_enumerators (hread : read si existing = .ok doc) :
    ∃ publicEntry, getMember si docPublicEntry = .ok publicEntry ∧
      doc.body.EnumeratorsOf publicEntry := by
  obtain ⟨_, _, publicEntry, _, header, withPublic, withPrivate, -, -, hentry, -, -, hpublic,
    hprivate, rfl⟩ := read_eq_ok.1 hread
  refine ⟨publicEntry, hentry, ?_⟩
  simp only [updatePublicDoc, bind_eq_ok, pure_eq_ok] at hpublic
  obtain ⟨body, hbody, rfl⟩ := hpublic
  have henumerators := Body.enumeratorsOf_updatePublic hbody
  have hresult : withPrivate.body.EnumeratorsOf publicEntry := by
    split at hprivate
    · simp only [updatePrivateDoc, bind_eq_ok, pure_eq_ok] at hprivate
      obtain ⟨next, hnext, rfl⟩ := hprivate
      exact henumerators.updatePrivate hnext
    · cases hprivate
      exact henumerators
  split <;> exact hresult

/-- The decoder throws no exception but those of the wallet. -/
theorem read_error {e : Exn} (hread : read si existing = .error e) :
    ∃ exception, e = .secw exception := by
  unfold read rethrow Except.mapError at hread
  split at hread
  · next thrown _ =>
      cases hread
      cases thrown with
      | secw exception => exact ⟨exception, rfl⟩
      | std whatArg => exact ⟨.genericException whatArg, rfl⟩
  · cases hread

/-! ### Reading without secrets -/

/-- What is left of a document that was written without its secrets. -/
def publicView (doc : Document) : Document := { doc.withoutSecret with containPrivateData := false }

omit [Cxxtools] in
@[simp]
theorem getType_publicView (doc : Document) : doc.publicView.getType = doc.getType :=
  doc.body.type_withoutSecret

section RoundTrip

variable [LawfulCxxtools] (doc : Document)

omit [Cxxtools] [LawfulCxxtools] in
theorem writtenIn_withoutSecret : doc.WrittenIn (doc.fillSerializationInfoWithoutSecret .null) := by
  constructor <;> rfl

/-- A document written without its secrets is read back without them. -/
theorem read_withoutSecret :
    read (doc.fillSerializationInfoWithoutSecret .null) none = .ok doc.publicView := by
  have hwritten := doc.writtenIn_withoutSecret
  obtain ⟨header, hheader, hpublic⟩ := bind_eq_ok.1 hwritten.updatePublic
  rw [read_eq_ok]
  exact ⟨doc.getType, doc.id, _, doc.blank, header, _, _,
    getStringMember_of_findMember hwritten.type, getStringMember_of_findMember hwritten.id,
    getMember_of_findMember hwritten.publicSection, doc.documentToUpdate_none, hheader, hpublic,
    rfl, rfl⟩

end RoundTrip

/-- A tree is refused with an exception of the wallet, or read as a document of the type it names. -/
def DecodesSafely (si : SerializationInfo) (existing : Option Document) : Prop :=
  (∃ exception, read si existing = .error (.secw exception)) ∨
    ∃ doc, read si existing = .ok doc ∧ getStringMember si docTypeEntry = .ok doc.getType ∧
      ∃ publicEntry, getMember si docPublicEntry = .ok publicEntry ∧
        doc.body.EnumeratorsOf publicEntry

theorem decodesSafely (si : SerializationInfo) (existing : Option Document) :
    DecodesSafely si existing := by
  cases hread : read si existing with
  | error e =>
      obtain ⟨exception, rfl⟩ := read_error hread
      exact .inl ⟨exception, hread⟩
  | ok doc => exact .inr ⟨doc, hread, read_type hread, read_enumerators hread⟩

/--
Every document is read back as it was written, with its secrets or without them, and every tree is
refused with an exception of the wallet or read as a document of the type it names whose enumerators
are those of numbers in range.
-/
theorem document_codec [LawfulCxxtools] :
    (∀ doc : Document, read (doc.fillSerializationInfoWithSecret .null) none =
        .ok { doc with containPrivateData := true }) ∧
      (∀ doc : Document, read (doc.fillSerializationInfoWithoutSecret .null) none =
        .ok { doc with body := doc.body.withoutSecret, containPrivateData := false }) ∧
      ∀ si existing, DecodesSafely si existing :=
  ⟨read_withSecret, read_withoutSecret, decodesSafely⟩

end Document

end Decoder

open scoped Reference

theorem document_codec_of_reference :
    Document.read ((Reference.document ["u1"] "secret").fillSerializationInfoWithoutSecret .null)
        none =
      .ok { Reference.document ["u1"] "" with containPrivateData := false } :=
  Document.document_codec.2.1 (Reference.document ["u1"] "secret")

end Secw
