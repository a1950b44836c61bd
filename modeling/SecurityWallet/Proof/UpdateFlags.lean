import SecurityWallet.Proof.Atomicity
import SecurityWallet.Proof.DocumentMerge
import SecurityWallet.Proof.Escalation

/-!
# The flags of an update

The message about an update compares the stored document with the one the request was decoded into,
not with the one that is then stored. For the public fields this is the same; for the secrets it is
not when the request leaves some of them out.
-/

open Foundation SerializationInfo

namespace Secw

section Compare

variable [Cxxtools] [LawfulCxxtools]

namespace Body

variable {body other : Body}

/-- The public sections of two bodies of one type are equal if the public fields are. -/
theorem fillPublic_inj (htype : body.type = other.type) :
    body.fillSerializationInfoPublicDoc .null = other.fillSerializationInfoPublicDoc .null ↔
      body.withoutSecret = other.withoutSecret := by
  constructor
  · intro hfill
    have hread := body.updatePublic_fillPublic
    rw [hfill, blank_eq_of_type_eq htype, other.updatePublic_fillPublic] at hread
    exact (Except.ok.inj hread).symm
  · intro hwithout
    rw [← fillPublic_withoutSecret, hwithout, fillPublic_withoutSecret]

/-- The private sections of two bodies of one type are equal if the secrets are. -/
theorem fillPrivate_inj (htype : body.type = other.type) :
    body.fillSerializationInfoPrivateDoc .null = other.fillSerializationInfoPrivateDoc .null ↔
      body.secrets = other.secrets := by
  have hread : ∀ body : Body, body.secrets = body.blank.secrets.map fun secret =>
      (secret.1, (givenSecret (body.fillSerializationInfoPrivateDoc .null) secret.1).getD
        secret.2) := by
    intro body
    rw [← secrets_withoutSecret]
    exact (of_updatePrivate body.updatePrivate_fillPrivate).2
  constructor
  · intro hfill
    rw [hread body, hfill, blank_eq_of_type_eq htype, ← hread other]
  · intro hsecrets
    rw [fillPrivate_eq_foldl, hsecrets, ← fillPrivate_eq_foldl]

end Body

namespace Document

variable {doc other : Document}

theorem isNonSecretEquals_iff (htype : doc.getType = other.getType) :
    doc.isNonSecretEquals other = true ↔ doc.body.withoutSecret = other.body.withoutSecret := by
  rw [isNonSecretEquals, decide_eq_true_iff, serialize_inj, ← Body.fillPublic_inj htype]
  simp [addMember]

theorem isSecretEquals_iff (htype : doc.getType = other.getType) :
    doc.isSecretEquals other = true ↔ doc.containPrivateData = true ∧
      other.containPrivateData = true ∧ doc.body.secrets = other.body.secrets := by
  rw [isSecretEquals, if_neg (not_not.2 htype), ← Body.fillPrivate_inj htype]
  by_cases hflags : ¬ doc.containPrivateData ∨ ¬ other.containPrivateData
  · rw [if_pos hflags]
    refine iff_of_false (by simp) ?_
    rintro ⟨hdoc, hother, -⟩
    exact hflags.elim (absurd hdoc) (absurd hother)
  · rw [if_neg hflags, decide_eq_true_iff, serialize_inj]
    rw [not_or, not_not, not_not] at hflags
    simp [addMember, hflags]

end Document

end Compare

/-! ### Successful updates -/

/-- The public fields of the two documents differ. -/
def Document.PublicChanged (old new : Document) : Prop :=
  old.body.withoutSecret ≠ new.body.withoutSecret

/-- The private fields of the two documents differ. -/
def Document.SecretChanged (old new : Document) : Prop := old.body.secrets ≠ new.body.secrets

theorem map_secrets_eq_iff {secrets : List (String × String)} {value : String × String → String} :
    (secrets.map fun secret => (secret.1, value secret)) = secrets ↔
      ∀ secret ∈ secrets, value secret = secret.2 := by
  conv_lhs => rhs; rw [← List.map_id secrets]
  rw [List.map_inj_left]
  refine forall₂_congr fun secret _ => ?_
  rw [id, Prod.ext_iff]
  exact and_iff_right rfl

namespace SecurityWalletServer

variable [Platform]

/-- A successful update with its tree, the stored documents before and after, and its message. -/
structure Updated (server : SecurityWalletServer) (request : Request) (si : SerializationInfo)
    (old new : Document) (notification : SerializationInfo) : Prop where
  payload : ∃ portfolioName document rest index,
    request.payload = Command.update.name :: portfolioName :: document :: rest ∧
      deserialize (strToBytes document) = .ok si ∧
      getStringMember si docIdEntry = .ok old.id ∧
      server.activeWallet.getPortfolio portfolioName = .ok index ∧
      server.activeWallet.documentAt index old.id = some old ∧
      (handleRequest request server).2.activeWallet.documentAt index old.id = some new
  reply : (handleRequest request server).1 = ["OK"]
  published : (handleRequest request server).2.published =
    server.published ++ [[serialize notification]]

/-- The flags of a message tell which fields differ. -/
structure FlagsTruthful (notification : SerializationInfo) (old new : Document) : Prop where
  secret : ∃ flag, findMember notification "secret_changed" = some (.bool flag) ∧
    (flag = true ↔ old.SecretChanged new)
  nonSecret : ∃ flag, findMember notification "non_secret_changed" = some (.bool flag) ∧
    (flag = true ↔ old.PublicChanged new)

/--
A secret that the request gives is a new one, or the request has a private section that gives every
secret of a document whose flag for private data is set.
-/
def SecretsTold (si : SerializationInfo) (old : Document) : Prop :=
  (∃ secret ∈ old.body.secrets, ∃ value,
      Document.givenSecret si secret.1 = some value ∧ value ≠ secret.2) ∨
    (findMember si docPrivateEntry).isSome ∧ old.containPrivateData = true ∧
      ∀ secret ∈ old.body.secrets, secret.2 ≠ "" → (Document.givenSecret si secret.1).isSome

section Flags

variable {si : SerializationInfo} {old received merged : Document}

theorem secretChanged_iff (hmerges : Document.Merges si old received merged) :
    old.SecretChanged merged ↔ ∃ secret ∈ old.body.secrets, ∃ value,
      Document.givenSecret si secret.1 = some value ∧ value ≠ secret.2 := by
  rw [Document.SecretChanged, ne_comm, hmerges.secrets, ne_eq, map_secrets_eq_iff]
  push Not
  refine exists_congr fun secret => and_congr_right fun _ => ?_
  cases Document.givenSecret si secret.1 <;> simp

theorem publicChanged_iff (hmerges : Document.Merges si old received merged) :
    old.PublicChanged merged ↔ received.body.withoutSecret ≠ old.body.withoutSecret := by
  have hwithout : merged.body.withoutSecret = received.body.withoutSecret :=
    congrArg Document.body hmerges.publicView
  rw [Document.PublicChanged, ne_comm, hwithout]

variable [LawfulCxxtools]

/-- The message about an update is truthful exactly if the secrets are told. -/
theorem flagsTruthful_iff (hmerges : Document.Merges si old received merged)
    (portfolioName : String) :
    FlagsTruthful (notificationOnUpdate portfolioName old received) old merged ↔
      SecretsTold si old := by
  have htype := hmerges.type_received
  have hnonSecret : ∃ flag, findMember (notificationOnUpdate portfolioName old received)
        "non_secret_changed" = some (.bool flag) ∧
      (flag = true ↔ old.PublicChanged merged) := by
    refine ⟨_, rfl, ?_⟩
    rw [decide_eq_true_iff, publicChanged_iff hmerges, ne_eq,
      ← Document.isNonSecretEquals_iff htype]
  have hsecret : (∃ flag, findMember (notificationOnUpdate portfolioName old received)
          "secret_changed" = some (.bool flag) ∧ (flag = true ↔ old.SecretChanged merged)) ↔
      (¬ (received.containPrivateData = true ∧ old.containPrivateData = true ∧
        received.body.secrets = old.body.secrets) ↔ old.SecretChanged merged) := by
    rw [← Document.isSecretEquals_iff htype]
    constructor
    · rintro ⟨flag, hfind, hflag⟩
      obtain rfl : decide (¬ received.isSecretEquals old = true) = flag := by
        simpa [notificationOnUpdate, findMember, addMember] using hfind
      rwa [decide_eq_true_iff] at hflag
    · intro hflag
      exact ⟨_, rfl, by rwa [decide_eq_true_iff]⟩
  rw [show FlagsTruthful _ old merged ↔ _ from
    ⟨fun htruthful => htruthful.secret, fun htold => ⟨htold, hnonSecret⟩⟩, hsecret,
    secretChanged_iff hmerges, hmerges.flag, hmerges.receivedSecrets, map_secrets_eq_iff,
    SecretsTold]
  by_cases hchanged : ∃ secret ∈ old.body.secrets, ∃ value,
      Document.givenSecret si secret.1 = some value ∧ value ≠ secret.2
  · obtain ⟨secret, hmem, value, hgiven, hvalue⟩ := hchanged
    have hdiffer : ¬ ∀ secret ∈ old.body.secrets,
        (Document.givenSecret si secret.1).getD "" = secret.2 := by
      intro hall
      have hsame := hall secret hmem
      rw [hgiven, Option.getD_some] at hsame
      exact hvalue hsame
    simp only [hdiffer, and_false, not_false_eq_true, true_iff]
    exact iff_of_true ⟨secret, hmem, value, hgiven, hvalue⟩
      (.inl ⟨secret, hmem, value, hgiven, hvalue⟩)
  · -- Where no new secret is given, the received secrets are the stored ones if none is left out.
    have hresent : (∀ secret ∈ old.body.secrets,
          (Document.givenSecret si secret.1).getD "" = secret.2) ↔
        ∀ secret ∈ old.body.secrets, secret.2 ≠ "" →
          (Document.givenSecret si secret.1).isSome := by
      refine forall₂_congr fun secret hmem => ?_
      cases hgiven : Document.givenSecret si secret.1 with
      | none =>
          rw [Option.getD_none, Option.isSome_none, eq_comm]
          simp
      | some value =>
          have hvalue : value = secret.2 := by
            by_contra hne
            exact hchanged ⟨secret, hmem, value, hgiven, hne⟩
          simp [hvalue]
    simp only [hchanged, iff_false, not_not, false_or, hresent]

end Flags

/-- A request to update that is not answered with an error has updated a document. -/
theorem Change.updated {server next : SecurityWalletServer} {sender : Sender}
    {portfolioName document : String} {rest : List String} {result : String}
    (hchange : Change server sender .update (portfolioName :: document :: rest) result next) :
    ∃ si old new received,
      Updated server ⟨sender, Command.update.name :: portfolioName :: document :: rest⟩ si old new
          (notificationOnUpdate portfolioName old received) ∧
        Document.Merges si old received new := by
  have hreply := handleRequest_of_ok hchange.exec_handler
  cases hchange with
  | @update _ _ _ _ index portfolio si received old merged haccess hsi hread hold husages hmerge
      hvalid hstored hname =>
      have hmerges := Document.merges hread hmerge
      have hid : received.id = old.id := hmerges.id_received.trans hmerges.identity.1
      rw [hid] at hold
      refine ⟨si, old, merged, received, ⟨⟨portfolioName, document, rest, index, rfl, hsi, ?_,
        haccess.place, ?_, ?_⟩, ?_, ?_⟩, hmerges⟩
      · rw [← hid]
        exact (Document.read_identity hread).1
      · rw [SecurityWallet.documentAt, haccess.lookup, Option.bind_some, hold]
      · rw [hreply, documentAt_commit _ _ _ haccess.lookup, if_pos rfl, Portfolio.replaced,
          StdMap.lookup_insert, if_pos hmerges.identity.1]
      · rw [hreply]
      · rw [hreply]
        rfl

theorem exists_updated {request : Request} {server : SecurityWalletServer}
    (hupdate : request.payload.head? = some Command.update.name)
    (hok : ¬ Failed (handleRequest request server).1) :
    ∃ portfolioName si old new received,
      Updated server request si old new (notificationOnUpdate portfolioName old received) ∧
        Document.Merges si old received new := by
  obtain ⟨sender, payload⟩ := request
  obtain ⟨params, rfl⟩ := List.head?_eq_some_iff.1 hupdate
  obtain ⟨result, next, hchange, -⟩ := change_of_not_failed rfl hok
  obtain ⟨portfolioName, document, rest, rfl⟩ :
      ∃ portfolioName document rest, params = portfolioName :: document :: rest := by
    cases hchange
    exact ⟨_, _, _, rfl⟩
  exact ⟨portfolioName, hchange.updated⟩

theorem Updated.not_failed {server : SecurityWalletServer} {request : Request}
    {si notification : SerializationInfo} {old new : Document}
    (hupdated : Updated server request si old new notification) :
    ¬ Failed (handleRequest request server).1 := by
  rw [hupdated.reply]
  exact not_failed_singleton "OK"

variable [LawfulCxxtools]

/-- A request determines what it updates and the message about it. -/
theorem Updated.unique {server : SecurityWalletServer} {request : Request}
    {si other notification message : SerializationInfo} {old new old' new' : Document}
    (hupdated : Updated server request si old new notification)
    (hother : Updated server request other old' new' message) :
    si = other ∧ old = old' ∧ new = new' ∧ notification = message := by
  obtain ⟨⟨portfolioName, document, rest, index, hpayload, hsi, hid, hplace, hold, hnew⟩, -,
    hpublished⟩ := hupdated
  obtain ⟨⟨_, _, _, otherIndex, hpayload', hsi', hid', hplace', hold', hnew'⟩, -, hpublished'⟩ :=
    hother
  rw [hpayload] at hpayload'
  simp only [List.cons.injEq, true_and] at hpayload'
  obtain ⟨rfl, rfl, rfl⟩ := hpayload'
  obtain rfl := Except.ok.inj (hsi.symm.trans hsi')
  obtain rfl := Except.ok.inj (hplace.symm.trans hplace')
  have hids : old.id = old'.id := Except.ok.inj (hid.symm.trans hid')
  rw [← hids] at hold' hnew'
  obtain rfl := Option.some.inj (hold.symm.trans hold')
  obtain rfl := Option.some.inj (hnew.symm.trans hnew')
  have hmessages := List.append_cancel_left (hpublished.symm.trans hpublished')
  simp only [List.cons.injEq, and_true, serialize_inj] at hmessages
  exact ⟨rfl, rfl, rfl, hmessages⟩

/-- The message about the update of a request, if it makes one, is truthful. -/
def FlagsTruthfulAt (request : Request) (server : SecurityWalletServer) : Prop :=
  request.payload.head? = some Command.update.name → ¬ Failed (handleRequest request server).1 →
    ∃ si old new notification, Updated server request si old new notification ∧
      FlagsTruthful notification old new

/-- The secrets are told by a request that makes an update. -/
def SecretsToldAt (request : Request) (server : SecurityWalletServer) : Prop :=
  request.payload.head? = some Command.update.name → ¬ Failed (handleRequest request server).1 →
    ∃ si old new notification, Updated server request si old new notification ∧
      SecretsTold si old

theorem flagsTruthfulAt_iff (request : Request) (server : SecurityWalletServer) :
    FlagsTruthfulAt request server ↔ SecretsToldAt request server := by
  refine forall_congr' fun hupdate => forall_congr' fun hok => ?_
  obtain ⟨portfolioName, si, old, new, received, hupdated, hmerges⟩ := exists_updated hupdate hok
  have hiff := flagsTruthful_iff hmerges portfolioName
  constructor
  · rintro ⟨_, _, _, _, hother, htruthful⟩
    obtain ⟨rfl, rfl, rfl, rfl⟩ := hupdated.unique hother
    exact ⟨_, _, _, _, hupdated, hiff.1 htruthful⟩
  · rintro ⟨_, _, _, _, hother, htold⟩
    obtain ⟨rfl, rfl, rfl, rfl⟩ := hupdated.unique hother
    exact ⟨_, _, _, _, hupdated, hiff.2 htold⟩

/--
In every run the messages about the updates are truthful exactly if each update tells the secrets:
its request gives a new one, or has a private section that gives all of them and the flag of the
document is set.
-/
theorem update_flags_truthful_iff (requests : List Request) (server : SecurityWalletServer) :
    Machine.Along handleRequest FlagsTruthfulAt requests server ↔
      Machine.Along handleRequest SecretsToldAt requests server := by
  have hguards : FlagsTruthfulAt = SecretsToldAt := by
    funext request server
    exact propext (flagsTruthfulAt_iff request server)
  rw [hguards]

end SecurityWalletServer

/-! ### An update that leaves the password out -/

namespace Reference

open scoped Reference

/-- The message about an update that leaves the password out says that a secret has changed. -/
theorem widened_flags_not_truthful :
    ¬ ∀ (server : SecurityWalletServer) (request : SecurityWalletServer.Request),
      SecurityWalletServer.Reachable server →
      SecurityWalletServer.FlagsTruthfulAt request server := by
  intro htruthful
  obtain ⟨si, old, new, received, hupdated, hmerges⟩ := change_widened.updated
  obtain ⟨portfolioName, document, rest, index, hpayload, hsi, -⟩ := hupdated.payload
  simp only [List.cons.injEq] at hpayload
  rw [← hpayload.2.2.1, deserialize_serialize] at hsi
  obtain rfl := Except.ok.inj hsi
  obtain ⟨_, _, _, _, hother, hflags⟩ :=
    htruthful _ _ reachable_started rfl hupdated.not_failed
  obtain ⟨rfl, rfl, rfl, rfl⟩ := hupdated.unique hother
  -- The tree has no private section.
  rcases (SecurityWalletServer.flagsTruthful_iff hmerges "default").1 hflags with
    ⟨secret, -, value, hgiven, -⟩ | ⟨hsection, -⟩
  · cases hgiven
  · exact absurd hsection (by decide +kernel)

/-- An update of `bob` that gives a new password. -/
def resendSi : SerializationInfo :=
  (document ["u1", "u2"] "other").fillSerializationInfoWithSecret .null

theorem given_resent :
    Document.givenSecret resendSi docUserAndPasswordPassword = some "other" := by
  decide +kernel

theorem resent_flags_truthful :
    Machine.Along SecurityWalletServer.handleRequest SecurityWalletServer.FlagsTruthfulAt
      [⟨"bob", [Command.update.name, "default", serialize resendSi]⟩] started := by
  rw [SecurityWalletServer.update_flags_truthful_iff]
  refine ⟨fun hupdate hok => ?_, trivial⟩
  obtain ⟨portfolioName, si, old, new, received, hupdated, -⟩ :=
    SecurityWalletServer.exists_updated hupdate hok
  refine ⟨si, old, new, _, hupdated, .inl ?_⟩
  obtain ⟨name, document, rest, index, hpayload, hsi, hid, hplace, hold, -⟩ := hupdated.payload
  simp only [List.cons.injEq, true_and] at hpayload
  obtain ⟨rfl, rfl, rfl⟩ := hpayload
  rw [deserialize_serialize] at hsi
  obtain rfl := Except.ok.inj hsi
  obtain rfl : 0 = index := Except.ok.inj hplace
  have hzero : "0" = old.id := Except.ok.inj hid
  rw [← hzero] at hold
  obtain rfl := Option.some.inj ((documentAt_server _).symm.trans hold)
  exact ⟨_, List.mem_cons_self, "other", given_resent, by decide⟩

end Reference

end Secw
