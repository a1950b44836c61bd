import SecurityWallet.Proof.UpdateMerge
import SecurityWallet.Vault

/-!
# Updated documents

Reading what a client sends over a stored document gives the document of the client, with the secrets
of the stored one where it has none. It is valid with the flag of the stored document exactly if it is
valid as a document with its secrets.
-/

open Foundation SerializationInfo Effect

namespace Secw

section Keeping

variable {si : SerializationInfo} [Cxxtools] [LawfulCxxtools]

/-- A secret that is written replaces the one there was. -/
theorem updateSecret_keep {field secret kept : String}
    (hfind : findMember si field = secretMember secret) :
    updateSecret field si kept = .ok (if secret.isEmpty then kept else secret) := by
  rw [updateSecret, readField_eq_ok, liftStd_eq_ok, hfind, secretMember]
  by_cases hempty : secret.isEmpty
  · rw [if_pos hempty, if_pos hempty]
  · rw [if_neg hempty, if_neg hempty]
    exact LawfulCxxtools.getString_str secret

theorem Body.updatePrivate_keeping {body old middle : Body} (htype : body.type = old.type)
    (hpublic : old.updatePublicDocFromSerializationInfo
      (body.fillSerializationInfoPublicDoc .null) = .ok middle) :
    middle.updatePrivateDocFromSerializationInfo (body.fillSerializationInfoPrivateDoc .null) =
      .ok (body.keeping old) := by
  obtain ⟨hblank, hsecrets⟩ := of_updatePublic hpublic
  have hwithout : middle.withoutSecret = body.withoutSecret := by
    rw [← blank_eq_of_type_eq htype, body.updatePublic_fillPublic] at hblank
    exact (Except.ok.inj hblank).symm
  -- the public fields of the middle document are those of the client, its secrets the stored ones
  cases body with
  | snmpv3 doc =>
      cases old <;> simp only [Body.type] at htype <;> first | contradiction | skip
      rename_i old
      obtain rfl : middle = .snmpv3 { doc with
          authPassword := old.authPassword, privPassword := old.privPassword } :=
        eq_of_secrets_eq hwithout hsecrets
      refine map_eq_ok.2 ⟨_, ?_, rfl⟩
      simp only [Snmpv3.updatePrivateDocFromSerializationInfo, bind_eq_ok, pure_eq_ok]
      refine ⟨_, updateSecret_keep ?_, _, updateSecret_keep ?_, rfl⟩
      all_goals
        rw [fillSerializationInfoPrivateDoc, Snmpv3.fillSerializationInfoPrivateDoc]
        simp [findMember_fillSecret, docSnmpv3AuthPassword, docSnmpv3PrivPassword]
  | userAndPassword doc =>
      cases old <;> simp only [Body.type] at htype <;> first | contradiction | skip
      rename_i old
      obtain rfl : middle = .userAndPassword { doc with password := old.password } :=
        eq_of_secrets_eq hwithout hsecrets
      refine map_eq_ok.2 ⟨_, ?_, rfl⟩
      simp only [UserAndPassword.updatePrivateDocFromSerializationInfo, bind_eq_ok, pure_eq_ok]
      refine ⟨_, updateSecret_keep ?_, rfl⟩
      rw [fillSerializationInfoPrivateDoc, UserAndPassword.fillSerializationInfoPrivateDoc]
      simp [findMember_fillSecret]
  | internalCertificate doc =>
      cases old <;> simp only [Body.type] at htype <;> first | contradiction | skip
      rename_i old
      obtain rfl : middle = .internalCertificate { doc with privateKeyPem := old.privateKeyPem } :=
        eq_of_secrets_eq hwithout hsecrets
      refine map_eq_ok.2 ⟨_, ?_, rfl⟩
      simp only [InternalCertificate.updatePrivateDocFromSerializationInfo, bind_eq_ok, pure_eq_ok]
      refine ⟨_, updateSecret_keep ?_, rfl⟩
      rw [fillSerializationInfoPrivateDoc, InternalCertificate.fillSerializationInfoPrivateDoc]
      simp [findMember_fillSecret]
  | snmpv1 doc =>
      cases old <;> simp only [Body.type] at htype <;> first | contradiction | skip
      obtain rfl : middle = .snmpv1 doc := eq_of_secrets_eq hwithout hsecrets
      rfl
  | externalCertificate doc =>
      cases old <;> simp only [Body.type] at htype <;> first | contradiction | skip
      obtain rfl : middle = .externalCertificate doc := eq_of_secrets_eq hwithout hsecrets
      rfl

theorem Body.exists_updatePublic_fill {body old : Body} (htype : body.type = old.type) :
    ∃ middle, old.updatePublicDocFromSerializationInfo
      (body.fillSerializationInfoPublicDoc .null) = .ok middle := by
  have hblank := body.updatePublic_fillPublic
  rw [blank_eq_of_type_eq htype] at hblank
  exact exists_updatePublic hblank

namespace Document

variable {doc old : Document}

/-- What a client sends is read over a document of its id and type. -/
theorem read_keeping (htype : old.getType = doc.getType) (hid : old.id = doc.id) :
    read (doc.fillSerializationInfoWithSecret .null) (some old) =
      .ok { doc.keeping old with containPrivateData := old.containPrivateData } := by
  have hwritten := doc.writtenIn_withSecret
  have hheader : old.updateHeaderFromSerializationInfo
        (doc.fillSerializationInfoWithSecret .null) =
      .ok { old with name := doc.name, tags := doc.tags, usages := doc.usages } := by
    simp only [updateHeaderFromSerializationInfo, bind_eq_ok, pure_eq_ok, readField_eq_ok,
      liftStd_eq_ok]
    exact ⟨doc.name, readString_of_findMember hwritten.name,
      doc.tags, ⟨_, getMember_of_findMember hwritten.tags, getSet_ofSet doc.tags⟩,
      doc.usages, ⟨_, getMember_of_findMember hwritten.usages, getSet_ofSet doc.usages⟩, rfl⟩
  have hstart : documentToUpdate (some old) doc.getType doc.id = .ok old := by
    rw [documentToUpdate, if_neg (not_not.2 htype), if_neg (not_not.2 hid)]
  obtain ⟨middle, hmiddle⟩ := Body.exists_updatePublic_fill htype.symm
  rw [read_eq_ok]
  refine ⟨_, _, _, old, _, _, _, getStringMember_of_findMember hwritten.type,
    getStringMember_of_findMember hwritten.id, getMember_of_findMember hwritten.publicSection,
    hstart, hheader, bind_eq_ok.2 ⟨middle, hmiddle, rfl⟩,
    bind_eq_ok.2 ⟨_, Body.updatePrivate_keeping htype.symm hmiddle, rfl⟩, ?_⟩
  rw [if_neg (by simp)]
  exact Document.ext rfl hid.symm rfl rfl rfl rfl

theorem read_of_type_ne (htype : old.getType ≠ doc.getType) :
    read (doc.fillSerializationInfoWithSecret .null) (some old) =
      .error (.secw (secwInvalidDocumentFormatException docTypeEntry)) := by
  have hwritten := doc.writtenIn_withSecret
  have hstart : documentToUpdate (some old) doc.getType doc.id =
      .error (.secw (secwInvalidDocumentFormatException docTypeEntry)) := by
    rw [documentToUpdate, if_pos htype]
  unfold read
  rw [getStringMember_of_findMember hwritten.type, getStringMember_of_findMember hwritten.id,
    getMember_of_findMember hwritten.publicSection]
  change rethrow (documentToUpdate (some old) doc.getType doc.id >>= _) = _
  rw [hstart]
  rfl

end Document

end Keeping

/-! ### Validity -/

section Validity

theorem checkNotEmpty_of_ne {field value : String} (hvalue : value.isEmpty = false) :
    checkNotEmpty field value = .ok () := by
  rw [checkNotEmpty, hvalue]
  rfl

theorem not_isEmpty_of_checkNotEmpty {field value : String}
    (hcheck : checkNotEmpty field value = .ok ()) : value.isEmpty = false := by
  unfold checkNotEmpty at hcheck
  by_cases hempty : value.isEmpty
  · rw [if_pos hempty] at hcheck
    cases hcheck
  · exact Bool.eq_false_iff.2 hempty

theorem isEmpty_keep {secret kept : String} (hkept : kept.isEmpty = false) :
    (if secret.isEmpty then kept else secret).isEmpty = false := by
  by_cases hempty : secret.isEmpty
  · rw [if_pos hempty, hkept]
  · rw [if_neg hempty, Bool.eq_false_iff.2 hempty]

variable [Certificates] {doc old : Document}

/-- Over a valid document the flag makes no difference to the check of what replaces it. -/
theorem Body.validate_keeping {flag : Bool} {body old : Body} (htype : body.type = old.type)
    (hvalid : old.validate flag = .ok ()) :
    (body.keeping old).validate flag = (body.keeping old).validate true := by
  cases flag with
  | true => rfl
  | false =>
      cases old with
      | snmpv3 old =>
          cases body <;> simp only [Body.type] at htype <;> first | contradiction | skip
          obtain ⟨_, hauth, hrest⟩ := bind_eq_ok.1 hvalid
          obtain ⟨_, hpriv, -⟩ := bind_eq_ok.1 hrest
          -- both passwords of the stored document are there, and so they are kept or replaced
          simp only [Body.keeping, Body.validate, Snmpv3.validate, Bool.false_eq_true,
            not_false_eq_true, if_true]
          rw [checkNotEmpty_of_ne (isEmpty_keep (not_isEmpty_of_checkNotEmpty hauth)),
            checkNotEmpty_of_ne (isEmpty_keep (not_isEmpty_of_checkNotEmpty hpriv))]
          rfl
      | snmpv1 old =>
          cases body <;> simp only [Body.type] at htype <;> first | contradiction | rfl
      | externalCertificate old =>
          cases body <;> simp only [Body.type] at htype <;> first | contradiction | rfl
      | userAndPassword old => cases hvalid
      | internalCertificate old => cases hvalid

theorem Document.validate_keeping (htype : old.getType = doc.getType)
    (hvalid : old.validate = .ok ()) :
    { doc.keeping old with containPrivateData := old.containPrivateData : Document }.validate =
      (doc.keeping old).validate :=
  Body.validate_keeping htype.symm hvalid

/-- The check of a document, as it is reported. -/
theorem Document.checked_eq_ok {found : { doc : Document // doc.Storable }} :
    doc.checked = .ok found ↔ doc.content.validate = .ok () ∧ found.1 = doc.content := by
  unfold checked
  split
  · next hvalid =>
      rw [Except.ok.injEq, Subtype.ext_iff]
      exact ⟨fun heq => ⟨hvalid, heq.symm⟩, fun heq => heq.2.symm⟩
  · next e hinvalid => simp [hinvalid]

theorem Document.checked_eq_error {refusal : Refusal} :
    doc.checked = .error refusal ↔ ∃ e, doc.content.validate = .error e ∧ Refusal.of e = refusal := by
  unfold checked
  split
  · next hvalid => simp [hvalid]
  · next e hinvalid => simp [hinvalid]

end Validity

end Secw
