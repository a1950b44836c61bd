import SecurityWallet.Proof.Escalation
import SecurityWallet.Proof.NotificationReplay

/-!
# What the messages of the stream mean

The server writes three kinds of messages and a client reads four. Whatever callbacks a client has
set, a message of the server calls the one of its kind with the public parts of documents, or is
passed over if that one is not set. None is dropped for an error, and none calls the callback on
start.
-/

open Foundation SerializationInfo Effect

namespace Secw

/-- What a message tells a client. -/
inductive Notice where
  | created (portfolio : String) (newData : Document)
  | updated (portfolio : String) (oldData newData : Document)
      (nonSecretChanged secretChanged : Bool)
  | deleted (portfolio : String) (oldData : Document)

namespace Notice

/-- The call of the one callback for it, if that is set. -/
def handle {σ : Type} (callbacks : ClientAccessor.Callbacks σ) : Notice → σ → σ
  | created portfolio newData, state =>
      match callbacks.createdCallback with
      | some createdCallback => createdCallback portfolio newData state
      | none => state
  | updated portfolio oldData newData nonSecretChanged secretChanged, state =>
      match callbacks.updatedCallback with
      | some updatedCallback =>
          updatedCallback portfolio oldData newData nonSecretChanged secretChanged state
      | none => state
  | deleted portfolio oldData, state =>
      match callbacks.deletedCallback with
      | some deletedCallback => deletedCallback portfolio oldData state
      | none => state

def documents : Notice → List Document
  | created _ newData => [newData]
  | updated _ oldData newData _ _ => [oldData, newData]
  | deleted _ oldData => [oldData]

/-- No document of the notice has secrets, and both of an update have the same id and type. -/
structure Proper (notice : Notice) : Prop where
  withoutSecrets : ∀ doc ∈ notice.documents,
    doc.containPrivateData = false ∧ ∀ secret ∈ doc.body.secrets, secret.2 = ""
  same : ∀ doc ∈ notice.documents, ∀ other ∈ notice.documents,
    doc.id = other.id ∧ doc.getType = other.getType

theorem proper_of_views {notice : Notice} (doc other : Document)
    (hdocuments : ∀ view ∈ notice.documents, view = doc.publicView ∨ view = other.publicView)
    (hid : doc.id = other.id) (htype : doc.getType = other.getType) : notice.Proper := by
  constructor
  · intro view hmem
    rcases hdocuments view hmem with rfl | rfl
    · exact ⟨rfl, doc.secrets_publicView⟩
    · exact ⟨rfl, other.secrets_publicView⟩
  · have hsame : ∀ view ∈ notice.documents, view.id = doc.id ∧ view.getType = doc.getType := by
      intro view hmem
      rcases hdocuments view hmem with rfl | rfl
      · exact ⟨rfl, doc.getType_publicView⟩
      · exact ⟨hid.symm, other.getType_publicView.trans htype.symm⟩
    intro view hview another hanother
    obtain ⟨hviewId, hviewType⟩ := hsame view hview
    obtain ⟨hanotherId, hanotherType⟩ := hsame another hanother
    exact ⟨hviewId.trans hanotherId.symm, hviewType.trans hanotherType.symm⟩

end Notice

namespace SecurityWalletServer

variable [Platform] [CxxtoolsClient]

/-- Any client, with any callbacks, is told the notice by the message. -/
def Means (message : List String) (notice : Notice) : Prop :=
  ∀ (σ : Type) (callbacks : ClientAccessor.Callbacks σ) (state : σ),
    ClientAccessor.handlePayload callbacks message state = .ok (notice.handle callbacks state)

section Messages

variable [LawfulCxxtools] (portfolioName : String) (oldDocument newDocument : Document)

theorem means_created :
    Means [serialize (notificationOnCreate portfolioName newDocument)]
      (.created portfolioName newDocument.publicView) := by
  intro σ callbacks state
  have haction : getStringMember (notificationOnCreate portfolioName newDocument) "action" =
      .ok "CREATED" := getStringMember_of_findMember rfl
  have hportfolio : getStringMember (notificationOnCreate portfolioName newDocument) "portfolio" =
      .ok portfolioName := getStringMember_of_findMember rfl
  refine bind_eq_ok.2 ⟨_, deserialize_serialize _,
    bind_eq_ok.2 ⟨_, liftStd_eq_ok.2 haction, ?_⟩⟩
  rw [if_pos rfl, Notice.handle]
  cases callbacks.createdCallback with
  | none => rfl
  | some createdCallback =>
      exact bind_eq_ok.2 ⟨_, liftStd_eq_ok.2 hportfolio,
        bind_eq_ok.2 ⟨_, liftStd_eq_ok.2 (getMember_of_findMember rfl),
          bind_eq_ok.2 ⟨_, newDocument.read_withoutSecret, rfl⟩⟩⟩

theorem means_deleted :
    Means [serialize (notificationOnDelete portfolioName oldDocument)]
      (.deleted portfolioName oldDocument.publicView) := by
  intro σ callbacks state
  have haction : getStringMember (notificationOnDelete portfolioName oldDocument) "action" =
      .ok "DELETED" := getStringMember_of_findMember rfl
  have hportfolio : getStringMember (notificationOnDelete portfolioName oldDocument) "portfolio" =
      .ok portfolioName := getStringMember_of_findMember rfl
  refine bind_eq_ok.2 ⟨_, deserialize_serialize _,
    bind_eq_ok.2 ⟨_, liftStd_eq_ok.2 haction, ?_⟩⟩
  rw [if_neg (by decide), if_neg (by decide), if_pos rfl, Notice.handle]
  cases callbacks.deletedCallback with
  | none => rfl
  | some deletedCallback =>
      exact bind_eq_ok.2 ⟨_, liftStd_eq_ok.2 hportfolio,
        bind_eq_ok.2 ⟨_, liftStd_eq_ok.2 (getMember_of_findMember rfl),
          bind_eq_ok.2 ⟨_, oldDocument.read_withoutSecret, rfl⟩⟩⟩

theorem means_updated [LawfulCxxtoolsClient] :
    Means [serialize (notificationOnUpdate portfolioName oldDocument newDocument)]
      (.updated portfolioName oldDocument.publicView newDocument.publicView
        (¬ newDocument.isNonSecretEquals oldDocument)
        (¬ newDocument.isSecretEquals oldDocument)) := by
  intro σ callbacks state
  have haction : getStringMember (notificationOnUpdate portfolioName oldDocument newDocument)
      "action" = .ok "UPDATED" := getStringMember_of_findMember rfl
  have hportfolio : getStringMember (notificationOnUpdate portfolioName oldDocument newDocument)
      "portfolio" = .ok portfolioName := getStringMember_of_findMember rfl
  refine bind_eq_ok.2 ⟨_, deserialize_serialize _,
    bind_eq_ok.2 ⟨_, liftStd_eq_ok.2 haction, ?_⟩⟩
  rw [if_neg (by decide), if_pos rfl, Notice.handle]
  cases callbacks.updatedCallback with
  | none => rfl
  | some updatedCallback =>
      exact bind_eq_ok.2 ⟨_, liftStd_eq_ok.2 hportfolio,
        bind_eq_ok.2 ⟨_, liftStd_eq_ok.2 (getMember_of_findMember rfl),
          bind_eq_ok.2 ⟨_, oldDocument.read_withoutSecret,
            bind_eq_ok.2 ⟨_, liftStd_eq_ok.2 (getMember_of_findMember rfl),
              bind_eq_ok.2 ⟨_, newDocument.read_withoutSecret,
                bind_eq_ok.2 ⟨_, liftStd_eq_ok.2 (getMember_of_findMember rfl),
                  bind_eq_ok.2 ⟨_, liftStd_eq_ok.2 (LawfulCxxtoolsClient.getBool_bool _),
                    bind_eq_ok.2 ⟨_, liftStd_eq_ok.2 (getMember_of_findMember rfl),
                      bind_eq_ok.2 ⟨_, liftStd_eq_ok.2 (LawfulCxxtoolsClient.getBool_bool _),
                        rfl⟩⟩⟩⟩⟩⟩⟩⟩⟩

end Messages

/-! ### What is published -/

/-- A change publishes one message, which means a proper notice. -/
theorem Change.notice [LawfulCxxtools] [LawfulCxxtoolsClient] {server next : SecurityWalletServer}
    {sender : Sender} {command : Command} {params : List String} {result : String}
    (hchange : Change server sender command params result next)
    (hloadable : ∀ portfolio ∈ server.activeWallet.portfolios, portfolio.Loadable) :
    ∃ message notice, next.published = server.published ++ [message] ∧ Means message notice ∧
      notice.Proper := by
  cases hchange with
  | @create portfolioName document rest allowedUsageIds index portfolio si doc =>
      refine ⟨_, _, rfl, means_created portfolioName (newDocument server portfolio doc), ?_⟩
      refine Notice.proper_of_views (newDocument server portfolio doc) _ (fun view hmem => ?_) rfl rfl
      exact .inl (List.mem_singleton.1 hmem)
  | @delete portfolioName id rest allowedUsageIds index portfolio doc =>
      refine ⟨_, _, rfl, means_deleted portfolioName doc, ?_⟩
      refine Notice.proper_of_views doc _ (fun view hmem => ?_) rfl rfl
      exact .inl (List.mem_singleton.1 hmem)
  | @update portfolioName document rest allowedUsageIds index portfolio si received oldDoc merged
      haccess hsi hread hold husages hmerge hvalid hstored hname =>
      have hmerges := Document.merges hread hmerge
      have hkeyed : oldDoc.id = merged.id :=
        (hloadable portfolio (List.mem_of_getElem? haccess.lookup)).keyed hstored
      refine ⟨_, _, rfl, means_updated portfolioName oldDoc received, ?_⟩
      refine Notice.proper_of_views oldDoc received (fun view hmem => ?_) (hkeyed.trans hmerges.id_received.symm)
        hmerges.type_received.symm
      rcases List.mem_cons.1 hmem with rfl | hmem
      · exact .inl rfl
      · exact .inr (List.mem_singleton.1 hmem)

section Srr

omit [CxxtoolsClient]

theorem handleSave_published (passpharse : String) (features : List String)
    (server : SecurityWalletServer) :
    (handleSave passpharse features server).2.published = server.published := by
  have hfeature : ∀ featureName (server : SecurityWalletServer),
      (saveFeature passpharse featureName server).2.published = server.published := by
    intro featureName server
    unfold saveFeature
    split
    · split <;> rfl
    · rfl
  unfold handleSave
  generalize (∅ : StdMap String (Feature × FeatureStatus)) = mapFeaturesData
  induction features generalizing mapFeaturesData server with
  | nil => rfl
  | cons featureName features ih =>
      rw [List.foldl_cons]
      exact (ih _ _).trans (hfeature featureName server)

/-- A restore is not told to anybody. -/
theorem handleRestore_published (passpharse : String) (mapFeaturesData : StdMap String Feature)
    (server : SecurityWalletServer) :
    (handleRestore passpharse mapFeaturesData server).2.published = server.published := by
  unfold handleRestore
  generalize (∅ : StdMap String FeatureStatus) = mapStatus
  induction mapFeaturesData.toList generalizing mapStatus server with
  | nil => rfl
  | cons entry entries ih =>
      rw [List.foldl_cons]
      have hfeature : (restoreFeature passpharse entry.1 entry.2 server).2.published =
          server.published := by
        rcases restoreFeature_snd passpharse entry.1 entry.2 server with heq | ⟨si, -, heq⟩
        · rw [heq]
        · rw [heq]
      exact (ih _ _).trans hfeature

end Srr

/--
Whatever files a server was started with, and whatever it was sent, backed up and restored: each
message that it has published tells every client a notice, in the order of the messages. Both
documents of a notice are of one id and one type, and none has secrets.
-/
theorem Reachable.published_means [LawfulCxxtools] [LawfulCxxtoolsClient]
    {server : SecurityWalletServer} (hreachable : Reachable server) :
    ∃ notices, List.Forall₂ Means server.published notices ∧
      ∀ notice ∈ notices, Notice.Proper notice := by
  induction hreachable with
  | start uuids randoms hconstruct => exact ⟨[], .nil, by simp⟩
  | @request server request hreachable ih =>
      obtain ⟨notices, hmeans, hproper⟩ := ih
      have houtcome := handleRequest_outcome request server
      generalize (handleRequest request server).1 = frames at houtcome
      generalize (handleRequest request server).2 = next at houtcome ⊢
      cases houtcome with
      | changed _ _ hchange =>
          obtain ⟨message, notice, hpublished, hmessage, hnotice⟩ :=
            hchange.notice hreachable.persisted.loadable
          refine ⟨notices ++ [notice], ?_, fun other hmem => ?_⟩
          · rw [hpublished]
            exact List.rel_append hmeans (.cons hmessage .nil)
          · rcases List.mem_append.1 hmem with hold | hnew
            · exact hproper other hold
            · exact List.mem_singleton.1 hnew ▸ hnotice
      | _ => exact ⟨notices, hmeans, hproper⟩
  | save passpharse features _ ih => rwa [handleSave_published]
  | restore passpharse mapFeaturesData _ ih => rwa [handleRestore_published]

end SecurityWalletServer

/-! ### The messages of `started` -/

namespace Reference

open scoped Reference

open SecurityWalletServer in
/-- The widened document of `started` is one notice, of one message. -/
theorem widening_is_noticed :
    (handleRequest widenRequest started).2.published.length = 1 ∧
      ∃ notices, List.Forall₂ Means (handleRequest widenRequest started).2.published notices ∧
        ∀ notice ∈ notices, Notice.Proper notice := by
  have hreachable : Reachable (handleRequest widenRequest started).2 :=
    .request widenRequest reachable_started
  have hone : (handleRequest widenRequest started).2.published.length = 1 := by
    rw [widenRequest, handleRequest_of_ok change_widened.exec_handler]
    rfl
  exact ⟨hone, hreachable.published_means⟩

end Reference

end Secw
