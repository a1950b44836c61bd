import SecurityWallet.Proof.DocumentDecoder

/-!
# What an update keeps

An update decodes one tree twice: into a new document and over the stored one. Both results have the
header and the public fields of the tree. They differ in the secrets that the tree does not give,
which are empty in the one and those of the stored document in the other.
-/

open Foundation SerializationInfo

namespace Secw

namespace Body

/-! ### Secrets -/

/-- The private fields with their values. -/
def secrets : Body → List (String × String)
  | snmpv3 doc =>
      [(docSnmpv3AuthPassword, doc.authPassword), (docSnmpv3PrivPassword, doc.privPassword)]
  | userAndPassword doc => [(docUserAndPasswordPassword, doc.password)]
  | internalCertificate doc => [(docInternalCertificatePrivateKeyPem, doc.privateKeyPem)]
  | snmpv1 _ | externalCertificate _ => []

/-- A body is its public and its private fields. -/
theorem eq_of_secrets_eq {body other : Body} (hpublic : body.withoutSecret = other.withoutSecret)
    (hsecrets : body.secrets = other.secrets) : body = other := by
  rcases body with ⟨⟨⟩⟩ | doc | ⟨⟨⟩⟩ | doc | ⟨⟨⟩⟩ <;>
    rcases other with ⟨⟨⟩⟩ | other | ⟨⟨⟩⟩ | other | ⟨⟨⟩⟩ <;>
    simp_all [withoutSecret, secrets]

theorem fillPrivate_eq_foldl (body : Body) (si : SerializationInfo) :
    body.fillSerializationInfoPrivateDoc si =
      body.secrets.foldl (fun si secret => fillSecret secret.1 secret.2 si) si := by
  cases body <;> rfl

theorem blank_eq_of_type_eq {body other : Body} (htype : body.type = other.type) :
    body.blank = other.blank := by
  have hfactory := body.documentFactory_type
  rw [htype, other.documentFactory_type] at hfactory
  exact (Except.ok.inj hfactory).symm

/-! ### Sections as they are read -/

section Read

variable [Cxxtools] {si : SerializationInfo} {body next : Body}

/-- The secret that a private section gives for a field. -/
def givenSecret (si : SerializationInfo) (field : String) : Option String :=
  (findMember si field).bind fun member => (Cxxtools.getString member).toOption

theorem updateSecret_eq_ok {field secret value : String}
    (hupdate : updateSecret field si secret = .ok value) :
    value = (givenSecret si field).getD secret := by
  rw [updateSecret, readField_eq_ok, liftStd_eq_ok] at hupdate
  unfold givenSecret
  cases hfind : findMember si field with
  | none =>
      rw [hfind] at hupdate
      exact (Except.ok.inj hupdate).symm
  | some member =>
      rw [hfind] at hupdate
      dsimp only at hupdate
      rw [Option.bind_some, hupdate]
      rfl

/-- Reading a private section replaces the secrets it gives. -/
theorem of_updatePrivate (hupdate : body.updatePrivateDocFromSerializationInfo si = .ok next) :
    next.withoutSecret = body.withoutSecret ∧
      next.secrets = body.secrets.map fun secret =>
        (secret.1, (givenSecret si secret.1).getD secret.2) := by
  cases body with
  | snmpv3 doc =>
      obtain ⟨read, hread, rfl⟩ := map_eq_ok.1 hupdate
      simp only [Snmpv3.updatePrivateDocFromSerializationInfo, bind_eq_ok, pure_eq_ok] at hread
      obtain ⟨authPassword, hauth, privPassword, hpriv, rfl⟩ := hread
      rw [updateSecret_eq_ok hauth, updateSecret_eq_ok hpriv]
      exact ⟨rfl, rfl⟩
  | userAndPassword doc =>
      obtain ⟨read, hread, rfl⟩ := map_eq_ok.1 hupdate
      simp only [UserAndPassword.updatePrivateDocFromSerializationInfo, bind_eq_ok,
        pure_eq_ok] at hread
      obtain ⟨password, hpassword, rfl⟩ := hread
      rw [updateSecret_eq_ok hpassword]
      exact ⟨rfl, rfl⟩
  | internalCertificate doc =>
      obtain ⟨read, hread, rfl⟩ := map_eq_ok.1 hupdate
      simp only [InternalCertificate.updatePrivateDocFromSerializationInfo, bind_eq_ok,
        pure_eq_ok] at hread
      obtain ⟨privateKeyPem, hkey, rfl⟩ := hread
      rw [updateSecret_eq_ok hkey]
      exact ⟨rfl, rfl⟩
  | snmpv1 | externalCertificate =>
      cases hupdate
      exact ⟨rfl, rfl⟩

/-- Reading a public section replaces all public fields and keeps the secrets. -/
theorem of_updatePublic (hupdate : body.updatePublicDocFromSerializationInfo si = .ok next) :
    body.blank.updatePublicDocFromSerializationInfo si = .ok next.withoutSecret ∧
      next.secrets = body.secrets := by
  cases body with
  | snmpv3 doc =>
      obtain ⟨read, hread, rfl⟩ := map_eq_ok.1 hupdate
      simp only [Snmpv3.updatePublicDocFromSerializationInfo, bind_eq_ok, pure_eq_ok] at hread
      obtain ⟨level, hlevel, name, hname, auth, hauth, priv, hpriv, rfl⟩ := hread
      refine ⟨map_eq_ok.2 ⟨_, ?_, rfl⟩, rfl⟩
      simp only [Snmpv3.updatePublicDocFromSerializationInfo, bind_eq_ok, pure_eq_ok]
      exact ⟨level, hlevel, name, hname, auth, hauth, priv, hpriv, rfl⟩
  | snmpv1 doc =>
      obtain ⟨read, hread, rfl⟩ := map_eq_ok.1 hupdate
      exact ⟨map_eq_ok.2 ⟨read, hread, rfl⟩, rfl⟩
  | userAndPassword doc =>
      obtain ⟨read, hread, rfl⟩ := map_eq_ok.1 hupdate
      simp only [UserAndPassword.updatePublicDocFromSerializationInfo, bind_eq_ok,
        pure_eq_ok] at hread
      obtain ⟨username, husername, rfl⟩ := hread
      refine ⟨map_eq_ok.2 ⟨_, ?_, rfl⟩, rfl⟩
      simp only [UserAndPassword.updatePublicDocFromSerializationInfo, bind_eq_ok, pure_eq_ok]
      exact ⟨username, husername, rfl⟩
  | externalCertificate doc =>
      obtain ⟨read, hread, rfl⟩ := map_eq_ok.1 hupdate
      exact ⟨map_eq_ok.2 ⟨read, hread, rfl⟩, rfl⟩
  | internalCertificate doc =>
      obtain ⟨read, hread, rfl⟩ := map_eq_ok.1 hupdate
      simp only [InternalCertificate.updatePublicDocFromSerializationInfo, bind_eq_ok,
        pure_eq_ok] at hread
      obtain ⟨pem, hpem, rfl⟩ := hread
      refine ⟨map_eq_ok.2 ⟨_, ?_, rfl⟩, rfl⟩
      simp only [InternalCertificate.updatePublicDocFromSerializationInfo, bind_eq_ok, pure_eq_ok]
      exact ⟨pem, hpem, rfl⟩

end Read

theorem secrets_blank (body : Body) :
    body.blank.secrets = body.secrets.map fun secret => (secret.1, "") := by
  cases body <;> rfl

theorem secrets_withoutSecret (body : Body) : body.withoutSecret.secrets = body.blank.secrets := by
  cases body <;> rfl

end Body

namespace Document

theorem blank_of_documentFactory {type : DocumentType} {body : Body}
    (hbody : documentFactory type = .ok body) : body.blank = body := by
  have hfactory := body.documentFactory_type
  rw [type_of_documentFactory hbody, hbody] at hfactory
  exact (Except.ok.inj hfactory).symm

section Merge

variable [Cxxtools] {si : SerializationInfo}

/-- The secret that a tree gives for a field. -/
def givenSecret (si : SerializationInfo) (field : String) : Option String :=
  (findMember si docPrivateEntry).bind fun privateEntry => Body.givenSecret privateEntry field

/-- What a document that was read takes from the tree and what from the one it was read into. -/
structure ReadFrom (si : SerializationInfo) (existing : Option Document) (doc : Document) : Prop where
  name : readString docNameEntry si = .ok doc.name
  tags : getMember si docTagsEntry >>= getSet = .ok doc.tags
  usages : getMember si docUsagesEntry >>= getSet = .ok doc.usages
  body : ∃ publicEntry start, getMember si docPublicEntry = .ok publicEntry ∧
    documentToUpdate existing doc.getType doc.id = .ok start ∧
    start.body.blank.updatePublicDocFromSerializationInfo publicEntry =
      .ok doc.body.withoutSecret ∧
    doc.body.secrets = start.body.secrets.map fun secret =>
      (secret.1, (givenSecret si secret.1).getD secret.2)
  flag : doc.containPrivateData =
    existing.elim (findMember si docPrivateEntry).isSome containPrivateData

theorem readFrom {existing : Option Document} {doc : Document}
    (hread : read si existing = .ok doc) : ReadFrom si existing doc := by
  have htype := read_type hread
  obtain ⟨hid, hidentity⟩ := read_identity hread
  obtain ⟨type, id, publicEntry, start, header, withPublic, withPrivate, htreeType, htreeId, hentry,
    hstart, hheader, hpublic, hprivate, hdoc⟩ := read_eq_ok.1 hread
  obtain rfl := Except.ok.inj (htreeType.symm.trans htype)
  obtain rfl := Except.ok.inj (htreeId.symm.trans hid)
  simp only [updateHeaderFromSerializationInfo, bind_eq_ok, readField_eq_ok, liftStd_eq_ok,
    pure_eq_ok] at hheader
  obtain ⟨name, hname, tags, htags, usages, husages, rfl⟩ := hheader
  simp only [updatePublicDoc, bind_eq_ok, pure_eq_ok] at hpublic
  obtain ⟨publicBody, hpublicBody, rfl⟩ := hpublic
  obtain ⟨hblank, hkept⟩ := Body.of_updatePublic hpublicBody
  -- Reading the private section, or not, is reading the secrets that are given.
  have hsecrets : ∃ body, withPrivate =
        { start with name, tags, usages, body } ∧
      body.withoutSecret = publicBody.withoutSecret ∧
      body.secrets = publicBody.secrets.map fun secret =>
        (secret.1, (givenSecret si secret.1).getD secret.2) := by
    unfold givenSecret
    cases hfind : findMember si docPrivateEntry with
    | none =>
        rw [hfind] at hprivate
        refine ⟨publicBody, (Except.ok.inj hprivate).symm, rfl, ?_⟩
        simp
    | some privateEntry =>
        rw [hfind] at hprivate
        simp only [updatePrivateDoc, bind_eq_ok, pure_eq_ok] at hprivate
        obtain ⟨body, hbody, rfl⟩ := hprivate
        exact ⟨body, rfl, Body.of_updatePrivate hbody⟩
  obtain ⟨body, rfl, hwithout, hgiven⟩ := hsecrets
  have hbody : doc.body = body ∧ doc.name = name ∧ doc.tags = tags ∧ doc.usages = usages := by
    rw [hdoc]
    split <;> exact ⟨rfl, rfl, rfl, rfl⟩
  obtain ⟨rfl, rfl, rfl, rfl⟩ := hbody
  refine ⟨hname, bind_eq_ok.2 htags, bind_eq_ok.2 husages, ⟨publicEntry, start, hentry, hstart, ?_,
    ?_⟩, ?_⟩
  · rw [hwithout]
    exact hblank
  · rw [hgiven, hkept]
  · cases existing with
    | none =>
        rw [if_pos Option.isNone_none] at hdoc
        rw [hdoc]
        rfl
    | some old => exact (hidentity old rfl).2.2

/-- How the two documents of an update come from the tree and the stored one. -/
structure Merges (si : SerializationInfo) (old received merged : Document) : Prop where
  identity : merged.SameIdentity old
  publicView : merged.publicView = received.publicView
  flag : received.containPrivateData = (findMember si docPrivateEntry).isSome
  receivedSecrets : received.body.secrets = old.body.secrets.map fun secret =>
    (secret.1, (givenSecret si secret.1).getD "")
  secrets : merged.body.secrets = old.body.secrets.map fun secret =>
    (secret.1, (givenSecret si secret.1).getD secret.2)

theorem merges {old received merged : Document} (hread : read si none = .ok received)
    (hmerge : read si (some old) = .ok merged) : Merges si old received merged := by
  have hreceived := readFrom hread
  have hmerged := readFrom hmerge
  have hidentity := (read_identity hmerge).2 old rfl
  have hid : merged.id = received.id :=
    Except.ok.inj ((read_identity hmerge).1.symm.trans (read_identity hread).1)
  have htype : merged.getType = received.getType :=
    Except.ok.inj ((read_type hmerge).symm.trans (read_type hread))
  obtain ⟨publicEntry, start, hentry, hstart, hpublic, hsecrets⟩ := hreceived.body
  obtain ⟨mergedEntry, mergedStart, hmergedEntry, hmergedStart, hmergedPublic, hmergedSecrets⟩ :=
    hmerged.body
  obtain rfl := Except.ok.inj (hentry.symm.trans hmergedEntry)
  obtain rfl := (documentToUpdate_eq_ok hmergedStart).2 old rfl
  -- The new document starts from the blank one of the type of the stored one.
  have hblank : mergedStart.body.blank = start.body := by
    rw [documentToUpdate, bind_eq_ok] at hstart
    obtain ⟨body, hbody, hstart⟩ := hstart
    obtain rfl := pure_eq_ok.1 hstart
    rw [← blank_of_documentFactory hbody]
    apply Body.blank_eq_of_type_eq
    rw [type_of_documentFactory hbody, ← htype]
    exact hidentity.2.1.symm
  have hwithout : merged.body.withoutSecret = received.body.withoutSecret := by
    have hblanks : start.body.blank = mergedStart.body.blank := by
      rw [← hblank]
      cases mergedStart.body <;> rfl
    rw [hblanks] at hpublic
    exact Except.ok.inj (hmergedPublic.symm.trans hpublic)
  refine ⟨hidentity, ?_, hreceived.flag, ?_, hmergedSecrets⟩
  · exact Document.ext (Except.ok.inj (hmerged.name.symm.trans hreceived.name)) hid
      (Except.ok.inj (hmerged.tags.symm.trans hreceived.tags))
      (Except.ok.inj (hmerged.usages.symm.trans hreceived.usages)) rfl hwithout
  · rw [hsecrets, ← hblank, Body.secrets_blank, List.map_map]
    rfl

theorem Merges.type_received {old received merged : Document}
    (hmerges : Merges si old received merged) : received.getType = old.getType := by
  rw [← getType_publicView received, ← hmerges.publicView, getType_publicView,
    hmerges.identity.2.1]

theorem Merges.id_received {old received merged : Document}
    (hmerges : Merges si old received merged) : received.id = merged.id := by
  have hid : received.publicView.id = merged.publicView.id := by rw [hmerges.publicView]
  exact hid

end Merge

/-- The public view of a document has no secrets. -/
theorem secrets_publicView (doc : Document) :
    ∀ secret ∈ doc.publicView.body.secrets, secret.2 = "" := by
  have hbody : doc.publicView.body.secrets = doc.body.secrets.map fun secret => (secret.1, "") :=
    doc.body.secrets_withoutSecret.trans doc.body.secrets_blank
  rw [hbody]
  intro secret hmem
  obtain ⟨_, -, rfl⟩ := List.mem_map.1 hmem
  rfl

end Document

end Secw
