import SecurityWallet.Proof.ClientCalls
import SecurityWallet.Proof.DocumentMerge
import SecurityWallet.Proof.Ownership
import SecurityWallet.Proof.Persistence

/-!
# Updates by a client

A client reads a document without its secrets, edits it and sends it back. The server stores what the
client sent and keeps the secrets that were left empty, so a document that comes back unedited is
stored as it was.
-/

open Foundation SerializationInfo Effect

namespace Secw

namespace Body

/-- The value of a private field, if the type has it. -/
def secret (body : Body) (field : String) : Option String := body.secrets.lookup field

theorem lookup_map_value (secrets : List (String × String)) (value : String → String → String)
    (field : String) :
    (secrets.map fun secret => (secret.1, value secret.1 secret.2)).lookup field =
      (secrets.lookup field).map (value field) := by
  induction secrets with
  | nil => rfl
  | cons secret secrets ih =>
      rw [List.map_cons, List.lookup_cons, List.lookup_cons, ih]
      by_cases hfield : field = secret.1
      · rw [beq_iff_eq.2 hfield, hfield]
        rfl
      · rw [beq_eq_false_iff_ne.2 hfield]

theorem secret_blank (body : Body) (field : String) :
    body.blank.secret field = (body.secret field).map fun _ => "" := by
  rw [secret, secrets_blank]
  exact lookup_map_value body.secrets (fun _ _ => "") field

/-- Bodies of one type have the same private fields. -/
theorem isSome_secret {body other : Body} (htype : body.type = other.type) (field : String) :
    (body.secret field).isSome = (other.secret field).isSome := by
  have hblank := body.secret_blank field
  rw [blank_eq_of_type_eq htype, secret_blank] at hblank
  simpa using (congrArg Option.isSome hblank).symm

theorem nodup_fields (body : Body) : (body.secrets.map Prod.fst).Nodup := by
  cases body <;> simp [secrets, docSnmpv3AuthPassword, docSnmpv3PrivPassword]

theorem findMember_foldl_fillSecret {secrets : List (String × String)}
    (hnodup : (secrets.map Prod.fst).Nodup) (si : SerializationInfo) (field : String) :
    findMember (secrets.foldl (fun si secret => fillSecret secret.1 secret.2 si) si) field =
      (findMember si field).or ((secrets.lookup field).bind secretMember) := by
  induction secrets generalizing si with
  | nil => simp
  | cons secret secrets ih =>
      rw [List.map_cons, List.nodup_cons] at hnodup
      rw [List.foldl_cons, ih hnodup.2, findMember_fillSecret, Option.or_assoc, List.lookup_cons]
      by_cases hfield : field = secret.1
      · have hnone : secrets.lookup field = none := by
          rw [List.lookup_eq_none_iff]
          intro other hother
          rw [hfield, bne_iff_ne]
          intro heq
          exact hnodup.1 (heq ▸ List.mem_map_of_mem hother)
        rw [hnone, beq_iff_eq.2 hfield, if_pos hfield.symm, Option.bind_none, Option.or_none]
        rfl
      · rw [beq_eq_false_iff_ne.2 hfield, if_neg (Ne.symm hfield), Option.none_or]

section Written

variable [Cxxtools] [LawfulCxxtools]

/-- A private section gives the secrets that are not empty. -/
theorem givenSecret_fillPrivate (body : Body) (field : String) :
    givenSecret (body.fillSerializationInfoPrivateDoc .null) field =
      (body.secret field).filter fun value => value ≠ "" := by
  rw [givenSecret, fillPrivate_eq_foldl, findMember_foldl_fillSecret body.nodup_fields,
    findMember_null, Option.none_or, secret]
  cases body.secrets.lookup field with
  | none => rfl
  | some value =>
      rw [Option.bind_some, secretMember, Option.filter_some]
      by_cases hempty : value = ""
      · simp [hempty]
      · simp [hempty, Except.toOption]

/-- Of the secrets that were read, the empty ones are those of the document read into. -/
theorem secret_of_merge {old client stored : Body} (htype : client.type = old.type)
    (hsecrets : stored.secrets = old.secrets.map fun secret =>
      (secret.1, (givenSecret (client.fillSerializationInfoPrivateDoc .null) secret.1).getD
        secret.2)) (field : String) :
    stored.secret field =
      if client.secret field = some "" then old.secret field else client.secret field := by
  have hstored : stored.secret field = (old.secret field).map fun value =>
      ((client.secret field).filter fun value => value ≠ "").getD value := by
    rw [secret, hsecrets, ← givenSecret_fillPrivate]
    exact lookup_map_value old.secrets (fun field value =>
      (givenSecret (client.fillSerializationInfoPrivateDoc .null) field).getD value) field
  have hfields := isSome_secret htype field
  rw [hstored]
  cases hclient : client.secret field with
  | none =>
      rw [hclient, Option.isSome_none, eq_comm, Option.isSome_eq_false_iff] at hfields
      simpa using hfields
  | some value =>
      rw [hclient, Option.isSome_some, eq_comm, Option.isSome_iff_exists] at hfields
      obtain ⟨oldValue, hold⟩ := hfields
      by_cases hempty : value = ""
      · simp [hempty, Option.filter_some]
      · simp [hempty, hold, Option.filter_some]

omit [LawfulCxxtools] in
/-- Whether a public section can be read does not depend on the document it is read into. -/
theorem exists_updatePublic {body read : Body} {si : SerializationInfo}
    (hread : body.blank.updatePublicDocFromSerializationInfo si = .ok read) :
    ∃ next, body.updatePublicDocFromSerializationInfo si = .ok next := by
  cases body with
  | snmpv3 doc =>
      obtain ⟨new, hnew, rfl⟩ := map_eq_ok.1 hread
      simp only [Snmpv3.updatePublicDocFromSerializationInfo, bind_eq_ok, pure_eq_ok] at hnew
      obtain ⟨level, hlevel, name, hname, auth, hauth, priv, hpriv, rfl⟩ := hnew
      have hnext : ∃ next, doc.updatePublicDocFromSerializationInfo si = .ok next := by
        simp only [Snmpv3.updatePublicDocFromSerializationInfo, bind_eq_ok, pure_eq_ok]
        exact ⟨_, level, hlevel, name, hname, auth, hauth, priv, hpriv, rfl⟩
      obtain ⟨next, hnext⟩ := hnext
      exact ⟨.snmpv3 next, map_eq_ok.2 ⟨next, hnext, rfl⟩⟩
  | snmpv1 doc => exact ⟨read, hread⟩
  | userAndPassword doc =>
      obtain ⟨new, hnew, rfl⟩ := map_eq_ok.1 hread
      simp only [UserAndPassword.updatePublicDocFromSerializationInfo, bind_eq_ok,
        pure_eq_ok] at hnew
      obtain ⟨username, husername, rfl⟩ := hnew
      have hnext : ∃ next, doc.updatePublicDocFromSerializationInfo si = .ok next := by
        simp only [UserAndPassword.updatePublicDocFromSerializationInfo, bind_eq_ok, pure_eq_ok]
        exact ⟨_, username, husername, rfl⟩
      obtain ⟨next, hnext⟩ := hnext
      exact ⟨.userAndPassword next, map_eq_ok.2 ⟨next, hnext, rfl⟩⟩
  | externalCertificate doc => exact ⟨read, hread⟩
  | internalCertificate doc =>
      obtain ⟨new, hnew, rfl⟩ := map_eq_ok.1 hread
      simp only [InternalCertificate.updatePublicDocFromSerializationInfo, bind_eq_ok,
        pure_eq_ok] at hnew
      obtain ⟨pem, hpem, rfl⟩ := hnew
      have hnext : ∃ next, doc.updatePublicDocFromSerializationInfo si = .ok next := by
        simp only [InternalCertificate.updatePublicDocFromSerializationInfo, bind_eq_ok, pure_eq_ok]
        exact ⟨_, pem, hpem, rfl⟩
      obtain ⟨next, hnext⟩ := hnext
      exact ⟨.internalCertificate next, map_eq_ok.2 ⟨next, hnext, rfl⟩⟩

/-- A body is read over itself as it is. -/
theorem updatePublic_self (body : Body) :
    body.updatePublicDocFromSerializationInfo (body.fillSerializationInfoPublicDoc .null) =
      .ok body := by
  obtain ⟨next, hnext⟩ := exists_updatePublic body.updatePublic_fillPublic
  obtain ⟨hpublic, hsecrets⟩ := of_updatePublic hnext
  rw [hnext, eq_of_secrets_eq (Except.ok.inj (hpublic.symm.trans body.updatePublic_fillPublic))
    hsecrets]

omit [LawfulCxxtools] in
/-- An empty private section changes nothing. -/
theorem updatePrivate_withoutSecret (body : Body) :
    body.updatePrivateDocFromSerializationInfo
        (body.withoutSecret.fillSerializationInfoPrivateDoc .null) = .ok body := by
  cases body <;> rfl

end Written

end Body

namespace Document

section Written

variable [Cxxtools] [LawfulCxxtools]

/-- A document that comes back without its secrets is merged into itself. -/
theorem read_unedited (old : Document) :
    read (old.publicView.fillSerializationInfoWithSecret .null) (some old) = .ok old := by
  have hwritten := old.publicView.writtenIn_withSecret
  have hheader : old.updateHeaderFromSerializationInfo
      (old.publicView.fillSerializationInfoWithSecret .null) = .ok old := by
    simp only [updateHeaderFromSerializationInfo, bind_eq_ok, pure_eq_ok, readField_eq_ok,
      liftStd_eq_ok]
    exact ⟨old.name, readString_of_findMember hwritten.name,
      old.tags, ⟨_, getMember_of_findMember hwritten.tags, getSet_ofSet old.tags⟩,
      old.usages, ⟨_, getMember_of_findMember hwritten.usages, getSet_ofSet old.usages⟩, rfl⟩
  have hstart : documentToUpdate (some old) old.publicView.getType old.publicView.id = .ok old := by
    have hid : old.id = old.publicView.id := rfl
    rw [getType_publicView, documentToUpdate, if_neg (not_not.2 rfl), if_neg (not_not.2 hid)]
  have hpublic : old.updatePublicDoc
      (old.publicView.body.fillSerializationInfoPublicDoc .null) = .ok old := by
    have hfill : old.publicView.body = old.body.withoutSecret := rfl
    rw [updatePublicDoc, bind_eq_ok, hfill, Body.fillPublic_withoutSecret]
    exact ⟨old.body, old.body.updatePublic_self, rfl⟩
  have hprivate : old.updatePrivateDoc
      (old.publicView.body.fillSerializationInfoPrivateDoc .null) = .ok old := by
    rw [updatePrivateDoc, bind_eq_ok]
    exact ⟨old.body, old.body.updatePrivate_withoutSecret, rfl⟩
  rw [read_eq_ok]
  exact ⟨_, _, _, old, old, old, old, getStringMember_of_findMember hwritten.type,
    getStringMember_of_findMember hwritten.id, getMember_of_findMember hwritten.publicSection,
    hstart, hheader, hpublic, hprivate, rfl⟩

/--
What an update by a client makes of a stored document: one with the header and the public fields of
the client, in which the private fields that the client leaves empty are kept.
-/
structure MergeOf (old client stored : Document) : Prop where
  identity : stored.SameIdentity old
  name : stored.name = client.name
  tags : stored.tags = client.tags
  usages : stored.usages = client.usages
  publicFields : stored.body.withoutSecret = client.body.withoutSecret
  secret : ∀ field, stored.body.secret field =
    if client.body.secret field = some "" then old.body.secret field else client.body.secret field

theorem mergeOf {old client stored : Document}
    (hmerge : read (client.fillSerializationInfoWithSecret .null) (some old) = .ok stored) :
    MergeOf old client stored := by
  have hmerges := merges client.read_withSecret hmerge
  have hview : stored.publicView = client.publicView := hmerges.publicView
  simp only [publicView, withoutSecret, Document.mk.injEq] at hview
  obtain ⟨hname, -, htags, husages, -, hpublic⟩ := hview
  exact ⟨hmerges.identity, hname, htags, husages, hpublic,
    Body.secret_of_merge hmerges.type_received hmerges.secrets⟩

end Written

end Document

namespace SecurityWalletServer

variable [Platform]

/-- The request of `updateDocument`. -/
def updateRequest (client : ClientId) (portfolioName : String) (doc : Document) : Request :=
  ⟨client, [Command.update.name, portfolioName,
    serialize (doc.fillSerializationInfoWithSecret .null)]⟩

section Update

variable [LawfulCxxtools] {server : SecurityWalletServer} {portfolioName : String} {index : Nat}
  {portfolio : Portfolio} {old : Document}

theorem getDocumentWithoutPrivateData_exec [CxxtoolsTexts]
    (hplace : server.activeWallet.getPortfolio portfolioName = .ok index)
    (hlookup : server.activeWallet.portfolios[index]? = some portfolio) {id : Id}
    (hstored : portfolio.documents[id]? = some old) (client : ClientId) :
    (ProducerAccessor.getDocumentWithoutPrivateData client portfolioName id).exec server =
      (.ok old.publicView, server) := by
  have hfind : (server.activeWallet.portfolioAt index).getDocument id = .ok old := by
    rw [SecurityWallet.portfolioAt_eq hlookup, Portfolio.getDocument_eq_ok, hstored]
  have hexec : (handler .getWithoutSecret client [portfolioName, id]).exec server =
      (.ok (serialize (old.fillSerializationInfoWithoutSecret .null)), server) := by
    rw [handler, handleGetDocumentWithoutSecret, handleGetWithoutSecret, exec_bind_ok (exec_get _)]
    dsimp only
    rw [exec_bind_ok (exec_liftM_ok hplace _), exec_bind_ok (exec_liftM_ok hfind _)]
    rfl
  rw [ProducerAccessor.getDocumentWithoutPrivateData, exec_bind_ok
    (ClientAccessor.sendCommand_of_ok hexec (CxxtoolsTexts.serialize_ne_error false _)), exec_liftM,
    ClientAccessor.receive_serialize old.read_withoutSecret]

omit [LawfulCxxtools] in
theorem updateDocument_of_change {client : ClientId} {doc : Document}
    {next : SecurityWalletServer}
    (hchange : Change server client .update
      [portfolioName, serialize (doc.fillSerializationInfoWithSecret .null)] "OK" next) :
    (ProducerAccessor.updateDocument client portfolioName doc).exec server = (.ok (), next) := by
  rw [ProducerAccessor.updateDocument, exec_bind_ok
    (ClientAccessor.sendCommand_of_ok hchange.exec_handler (by decide))]
  rfl

/-- An update that is not answered with an error stores the merge of the two documents. -/
theorem update_stores_merge {client : ClientId} {doc : Document}
    (hplace : server.activeWallet.getPortfolio portfolioName = .ok index)
    (hlookup : server.activeWallet.portfolios[index]? = some portfolio)
    (hstored : portfolio.documents[doc.id]? = some old)
    (hok : ¬ Failed (handleRequest (updateRequest client portfolioName doc) server).1) :
    (ProducerAccessor.updateDocument client portfolioName doc).exec server =
        (.ok (), (handleRequest (updateRequest client portfolioName doc) server).2) ∧
      ∃ stored, (handleRequest (updateRequest client portfolioName doc) server).2.activeWallet.documentAt
          index doc.id = some stored ∧ Document.MergeOf old doc stored := by
  obtain ⟨result, next, hchange, hreply⟩ := change_of_not_failed rfl hok
  rw [updateRequest, hreply]
  cases id hchange with
  | @update _ _ _ _ place found si received oldDoc merged haccess hsi hread hold husages hmerge
      hvalid hkept hname =>
      refine ⟨updateDocument_of_change hchange, ?_⟩
      obtain rfl := Except.ok.inj ((deserialize_serialize _).symm.trans hsi)
      obtain rfl := Except.ok.inj (doc.read_withSecret.symm.trans hread)
      obtain rfl := Except.ok.inj (hplace.symm.trans haccess.place)
      obtain rfl := Option.some.inj (hlookup.symm.trans haccess.lookup)
      obtain rfl := Option.some.inj (hstored.symm.trans hold)
      have hid : merged.id = doc.id := (Document.merges hread hmerge).id_received.symm
      refine ⟨merged, ?_, Document.mergeOf hmerge⟩
      rw [documentAt_commit _ _ _ haccess.lookup, if_pos rfl, Portfolio.replaced,
        StdMap.lookup_insert, if_pos hid]

/-- An update with the document as it was read is accepted and changes nothing. -/
theorem update_unedited {client : ClientId} {id : Id}
    (hplace : server.activeWallet.getPortfolio portfolioName = .ok index)
    (hlookup : server.activeWallet.portfolios[index]? = some portfolio)
    (hloadable : portfolio.Loadable) (hstored : portfolio.documents[id]? = some old)
    (hproducer : ∃ usage, Owns server client portfolioName usage) :
    ∃ next, (ProducerAccessor.updateDocument client portfolioName old.publicView).exec server =
        (.ok (), next) ∧ next.activeWallet.documentAt index id = some old := by
  obtain ⟨usage, allowedUsageIds, hrights, hallowed⟩ := hproducer
  have hname : portfolio.name = portfolioName := by
    obtain ⟨_, hfound, hnamed, -⟩ := SecurityWallet.getPortfolio_eq_ok.1 hplace
    rwa [← Option.some.inj (hfound.symm.trans hlookup)]
  have haccess : ProducerAccess server.activeWallet client portfolioName allowedUsageIds index
      portfolio :=
    ⟨hrights, StdSet.size_ne_zero_of_mem hallowed, hplace, hlookup, hname⟩
  obtain rfl : old.id = id := hloadable.keyed hstored
  have hsame : ∀ usage ∈ differenceBetween2UsagesIdSet old.publicView.usages old.usages,
      usage ∈ allowedUsageIds := by
    intro usage hmem
    rw [mem_differenceBetween2UsagesIdSet] at hmem
    exact absurd Iff.rfl hmem
  have hchange : Change server client .update
      [portfolioName, serialize (old.publicView.fillSerializationInfoWithSecret .null)] "OK" _ :=
    .update haccess (deserialize_serialize _) old.publicView.read_withSecret hstored hsame
      old.read_unedited (hloadable.valid hstored) hstored (.inl rfl)
  refine ⟨_, updateDocument_of_change hchange, ?_⟩
  rw [documentAt_commit _ _ _ hlookup, if_pos rfl, Portfolio.replaced, StdMap.lookup_insert,
    if_pos rfl]

end Update

/--
A client reads a stored document without its secrets. Whatever it then sends back under the same id,
if the server does not answer with an error the two documents are merged; and the document as it was
read is accepted from every producer and leaves the stored one as it is.
-/
theorem update_keeps_secrets [LawfulCxxtools] [CxxtoolsTexts] (server : SecurityWalletServer)
    (portfolioName : String) (index : Nat) (id : Id) (old : Document)
    (hreachable : Reachable server)
    (hplace : server.activeWallet.getPortfolio portfolioName = .ok index)
    (hstored : server.activeWallet.documentAt index id = some old) :
    (∀ client, (ProducerAccessor.getDocumentWithoutPrivateData client portfolioName id).exec server =
        (.ok old.publicView, server)) ∧
      (∀ client doc, doc.id = old.publicView.id →
        ¬ Failed (handleRequest (updateRequest client portfolioName doc) server).1 →
          (ProducerAccessor.updateDocument client portfolioName doc).exec server =
              (.ok (), (handleRequest (updateRequest client portfolioName doc) server).2) ∧
            ∃ stored,
              (handleRequest (updateRequest client portfolioName doc) server).2.activeWallet.documentAt
                index id = some stored ∧ Document.MergeOf old doc stored) ∧
      ∀ client, (∃ usage, Owns server client portfolioName usage) →
        ∃ next, (ProducerAccessor.updateDocument client portfolioName old.publicView).exec server =
            (.ok (), next) ∧ next.activeWallet.documentAt index id = some old := by
  obtain ⟨portfolio, hlookup, hdoc⟩ := Option.bind_eq_some_iff.1 hstored
  have hloadable := hreachable.persisted.loadable portfolio (List.mem_of_getElem? hlookup)
  obtain rfl : old.id = id := hloadable.keyed hdoc
  refine ⟨?_, ?_, ?_⟩
  · intro client
    exact getDocumentWithoutPrivateData_exec hplace hlookup hdoc client
  · intro client doc hid hok
    have hfound : portfolio.documents[doc.id]? = some old := by
      rw [hid]
      exact hdoc
    have hmerge := update_stores_merge hplace hlookup hfound hok
    rwa [hid] at hmerge
  · intro client hproducer
    exact update_unedited hplace hlookup hloadable hdoc hproducer

end SecurityWalletServer

/-! ### The document of a started server -/

namespace Reference

open scoped Reference

theorem started_update_keeps_secrets :
    (∀ client, (ProducerAccessor.getDocumentWithoutPrivateData client "default" "0").exec started =
        (.ok (document ["u1"] "secret").publicView, started)) ∧
      (∀ client doc, doc.id = (document ["u1"] "secret").publicView.id →
        ¬ SecurityWalletServer.Failed (SecurityWalletServer.handleRequest
            (SecurityWalletServer.updateRequest client "default" doc) started).1 →
          (ProducerAccessor.updateDocument client "default" doc).exec started =
              (.ok (), (SecurityWalletServer.handleRequest
                (SecurityWalletServer.updateRequest client "default" doc) started).2) ∧
            ∃ stored, (SecurityWalletServer.handleRequest
                (SecurityWalletServer.updateRequest client "default" doc)
                started).2.activeWallet.documentAt 0 "0" = some stored ∧
              Document.MergeOf (document ["u1"] "secret") doc stored) ∧
      ∀ client, (∃ usage, SecurityWalletServer.Owns started client "default" usage) →
        ∃ next, (ProducerAccessor.updateDocument client "default"
              (document ["u1"] "secret").publicView).exec started = (.ok (), next) ∧
          next.activeWallet.documentAt 0 "0" = some (document ["u1"] "secret") :=
  SecurityWalletServer.update_keeps_secrets started "default" 0 "0" (document ["u1"] "secret")
    reachable_started rfl rfl

end Reference

end Secw
