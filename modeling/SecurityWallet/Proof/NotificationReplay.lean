import SecurityWallet.Proof.DocumentMerge
import SecurityWallet.Proof.PortfolioNames
import SecurityWallet.Subscription

/-!
# Notifications replay the documents

A message about a change carries the public view of the document before and after it: that of the
stored document, although the message about an update is made from the received one. A subscriber
that starts with the public view of all documents and takes in every message keeps it.
-/

open Foundation SerializationInfo Effect

namespace Secw

namespace SecurityWalletServer

/-- The document is stored under the id in a portfolio of the name. -/
def Stores (server : SecurityWalletServer) (portfolioName : String) (id : Id) (doc : Document) :
    Prop :=
  ∃ portfolio ∈ server.activeWallet.portfolios,
    portfolio.name = portfolioName ∧ portfolio.documents[id]? = some doc

/-- The copy has the public view of each stored document and nothing else. -/
def MirroredBy (server : SecurityWalletServer) (mirror : Mirror) : Prop :=
  ∀ portfolioName id doc, mirror (portfolioName, id) = some doc ↔
    ∃ stored, server.Stores portfolioName id stored ∧ doc = stored.publicView

section Mirrored

variable {server next : SecurityWalletServer} {mirror : Mirror}

theorem stores_iff (hnodup : server.activeWallet.names.Nodup) {index : Nat} {portfolioName : String}
    (hname : server.activeWallet.names[index]? = some portfolioName) {id : Id} {doc : Document} :
    server.Stores portfolioName id doc ↔ server.activeWallet.documentAt index id = some doc := by
  rw [SecurityWallet.documentAt, Option.bind_eq_some_iff]
  rw [SecurityWallet.names, List.getElem?_map, Option.map_eq_some_iff] at hname
  obtain ⟨portfolio, hlookup, rfl⟩ := hname
  constructor
  · rintro ⟨found, hmem, hfound, hdoc⟩
    obtain ⟨place, hplace⟩ := List.mem_iff_getElem?.1 hmem
    have hsame := SecurityWallet.getPortfolio_of_nodup hnodup hplace
    rw [hfound, SecurityWallet.getPortfolio_of_nodup hnodup hlookup] at hsame
    obtain rfl := Except.ok.inj hsame
    exact ⟨found, hplace, hdoc⟩
  · rintro ⟨found, hfound, hdoc⟩
    obtain rfl := Option.some.inj (hlookup.symm.trans hfound)
    exact ⟨portfolio, List.mem_of_getElem? hlookup, rfl, hdoc⟩

/-- Where names are distinct, a copy is given place by place. -/
theorem mirroredBy_iff (hnodup : server.activeWallet.names.Nodup) :
    server.MirroredBy mirror ↔
      (∀ index portfolioName, server.activeWallet.names[index]? = some portfolioName → ∀ id,
        mirror (portfolioName, id) =
          (server.activeWallet.documentAt index id).map Document.publicView) ∧
        ∀ portfolioName, portfolioName ∉ server.activeWallet.names → ∀ id,
          mirror (portfolioName, id) = none := by
  constructor
  · intro hmirrored
    refine ⟨fun index portfolioName hname id => ?_, fun portfolioName hmissing id => ?_⟩
    · apply Option.ext
      intro doc
      rw [hmirrored, Option.map_eq_some_iff]
      simp only [stores_iff hnodup hname, eq_comm]
    · rw [Option.eq_none_iff_forall_ne_some]
      intro doc hdoc
      obtain ⟨stored, ⟨portfolio, hmem, rfl, -⟩, -⟩ := (hmirrored portfolioName id doc).1 hdoc
      exact hmissing (List.mem_map_of_mem hmem)
  · rintro ⟨hplaces, hmissing⟩ portfolioName id doc
    by_cases hmem : portfolioName ∈ server.activeWallet.names
    · obtain ⟨index, hname⟩ := List.mem_iff_getElem?.1 hmem
      rw [hplaces index portfolioName hname, Option.map_eq_some_iff]
      simp only [stores_iff hnodup hname, eq_comm]
    · rw [hmissing portfolioName hmem]
      constructor
      · rintro ⟨⟩
      · rintro ⟨stored, ⟨portfolio, hportfolio, rfl, -⟩, -⟩
        exact absurd (List.mem_map_of_mem hportfolio) hmem

/-- A copy stays one if what changes is written to it. -/
theorem MirroredBy.update [Platform] (hmirrored : server.MirroredBy mirror)
    (hnodup : server.activeWallet.names.Nodup) {index : Nat} {portfolio : Portfolio}
    (hlookup : server.activeWallet.portfolios[index]? = some portfolio) {id : Id}
    {before after : Option Document} (hreplaces : Replaces server next index id before after)
    (hnames : next.activeWallet.names = server.activeWallet.names) :
    next.MirroredBy
      (Function.update mirror (portfolio.name, id) (after.map Document.publicView)) := by
  have hname : server.activeWallet.names[index]? = some portfolio.name := by
    rw [SecurityWallet.names, List.getElem?_map, hlookup, Option.map_some]
  rw [mirroredBy_iff hnodup] at hmirrored
  rw [mirroredBy_iff (hnames ▸ hnodup), hnames]
  refine ⟨fun place placeName hplace other => ?_, fun missing hmissing other => ?_⟩
  · by_cases hsame : place = index ∧ other = id
    · obtain ⟨rfl, rfl⟩ := hsame
      obtain rfl := Option.some.inj (hname.symm.trans hplace)
      rw [Function.update_self, hreplaces.after]
    · have hkey : (placeName, other) ≠ (portfolio.name, id) := by
        intro heq
        obtain ⟨rfl, rfl⟩ := Prod.mk.inj heq
        have hlength : place < server.activeWallet.names.length :=
          (List.getElem?_eq_some_iff.1 hplace).1
        exact hsame ⟨(List.getElem?_inj hlength hnodup).1 (hplace.trans hname.symm), rfl⟩
      rw [Function.update_of_ne hkey, hmirrored.1 place placeName hplace,
        hreplaces.others place other hsame]
  · have hkey : (missing, other) ≠ (portfolio.name, id) := by
      intro heq
      obtain ⟨rfl, rfl⟩ := Prod.mk.inj heq
      exact hmissing (List.mem_of_getElem? hname)
    rw [Function.update_of_ne hkey, hmirrored.2 missing hmissing]

end Mirrored

/-! ### Messages -/

section Messages

variable [Platform] [LawfulCxxtools] [CxxtoolsClient] (portfolioName : String)
  (oldDocument newDocument : Document) (subscriber : Subscriber)

omit [LawfulCxxtools] in
theorem callbackHandler_of_payload {payload : List String} {next : Subscriber}
    (hpayload : ClientAccessor.handlePayload Subscriber.callbacks payload subscriber = .ok next) :
    ClientAccessor.callbackHandler Subscriber.callbacks payload subscriber = next := by
  rw [ClientAccessor.callbackHandler, hpayload]

theorem callbackHandler_created :
    ClientAccessor.callbackHandler Subscriber.callbacks
        [serialize (notificationOnCreate portfolioName newDocument)] subscriber =
      subscriber.receive newDocument.id
        ⟨portfolioName, none, some newDocument.publicView⟩ := by
  have haction : getStringMember (notificationOnCreate portfolioName newDocument) "action" =
      .ok "CREATED" :=
    getStringMember_of_findMember rfl
  have hportfolio : getStringMember (notificationOnCreate portfolioName newDocument) "portfolio" =
      .ok portfolioName :=
    getStringMember_of_findMember rfl
  apply callbackHandler_of_payload
  refine bind_eq_ok.2 ⟨_, deserialize_serialize _,
    bind_eq_ok.2 ⟨_, liftStd_eq_ok.2 haction, ?_⟩⟩
  rw [if_pos rfl]
  exact bind_eq_ok.2 ⟨_, liftStd_eq_ok.2 hportfolio,
    bind_eq_ok.2 ⟨_, liftStd_eq_ok.2 (getMember_of_findMember rfl),
      bind_eq_ok.2 ⟨_, newDocument.read_withoutSecret, rfl⟩⟩⟩

theorem callbackHandler_deleted :
    ClientAccessor.callbackHandler Subscriber.callbacks
        [serialize (notificationOnDelete portfolioName oldDocument)] subscriber =
      subscriber.receive oldDocument.id
        ⟨portfolioName, some oldDocument.publicView, none⟩ := by
  have haction : getStringMember (notificationOnDelete portfolioName oldDocument) "action" =
      .ok "DELETED" :=
    getStringMember_of_findMember rfl
  have hportfolio : getStringMember (notificationOnDelete portfolioName oldDocument) "portfolio" =
      .ok portfolioName :=
    getStringMember_of_findMember rfl
  apply callbackHandler_of_payload
  refine bind_eq_ok.2 ⟨_, deserialize_serialize _,
    bind_eq_ok.2 ⟨_, liftStd_eq_ok.2 haction, ?_⟩⟩
  rw [if_neg (by decide), if_neg (by decide), if_pos rfl]
  exact bind_eq_ok.2 ⟨_, liftStd_eq_ok.2 hportfolio,
    bind_eq_ok.2 ⟨_, liftStd_eq_ok.2 (getMember_of_findMember rfl),
      bind_eq_ok.2 ⟨_, oldDocument.read_withoutSecret, rfl⟩⟩⟩

variable [LawfulCxxtoolsClient]

theorem callbackHandler_updated :
    ClientAccessor.callbackHandler Subscriber.callbacks
        [serialize (notificationOnUpdate portfolioName oldDocument newDocument)] subscriber =
      subscriber.receive newDocument.id
        ⟨portfolioName, some oldDocument.publicView, some newDocument.publicView⟩ := by
  have haction : getStringMember (notificationOnUpdate portfolioName oldDocument newDocument)
      "action" = .ok "UPDATED" :=
    getStringMember_of_findMember rfl
  have hportfolio : getStringMember (notificationOnUpdate portfolioName oldDocument newDocument)
      "portfolio" = .ok portfolioName :=
    getStringMember_of_findMember rfl
  apply callbackHandler_of_payload
  refine bind_eq_ok.2 ⟨_, deserialize_serialize _,
    bind_eq_ok.2 ⟨_, liftStd_eq_ok.2 haction, ?_⟩⟩
  rw [if_neg (by decide), if_pos rfl]
  exact bind_eq_ok.2 ⟨_, liftStd_eq_ok.2 hportfolio,
    bind_eq_ok.2 ⟨_, liftStd_eq_ok.2 (getMember_of_findMember rfl),
      bind_eq_ok.2 ⟨_, oldDocument.read_withoutSecret,
        bind_eq_ok.2 ⟨_, liftStd_eq_ok.2 (getMember_of_findMember rfl),
          bind_eq_ok.2 ⟨_, newDocument.read_withoutSecret,
            bind_eq_ok.2 ⟨_, liftStd_eq_ok.2 (getMember_of_findMember rfl),
              bind_eq_ok.2 ⟨_, liftStd_eq_ok.2 (LawfulCxxtoolsClient.getBool_bool _),
                bind_eq_ok.2 ⟨_, liftStd_eq_ok.2 (getMember_of_findMember rfl),
                  bind_eq_ok.2 ⟨_, liftStd_eq_ok.2 (LawfulCxxtoolsClient.getBool_bool _),
                    rfl⟩⟩⟩⟩⟩⟩⟩⟩⟩

/-- The message about a change has the public view of the document before and after it. -/
theorem Change.delivered {server next : SecurityWalletServer} {sender : Sender} {command : Command}
    {params : List String} {result : String}
    (hchange : Change server sender command params result next)
    (hloadable : ∀ portfolio ∈ server.activeWallet.portfolios, portfolio.Loadable) :
    ∃ index portfolio id before after message,
      server.activeWallet.portfolios[index]? = some portfolio ∧
        Replaces server next index id before after ∧
        next.published = server.published ++ [message] ∧
        (∀ doc, before = some doc → doc.id = id) ∧
        ∀ subscriber, ClientAccessor.callbackHandler Subscriber.callbacks message subscriber =
          subscriber.receive id ⟨portfolio.name, before.map Document.publicView,
            after.map Document.publicView⟩ := by
  cases hchange with
  | @create portfolioName document rest allowedUsageIds index portfolio si doc haccess hsi hread
      hvalid husages hname =>
      obtain rfl := haccess.named
      refine ⟨index, portfolio, _, none, _, _, haccess.lookup,
        replaces_store haccess.lookup _ _ (portfolio.lookup_next_usedIds server.uuids), rfl, nofun,
        fun subscriber => ?_⟩
      exact callbackHandler_created portfolio.name (newDocument server portfolio doc) subscriber
  | @delete portfolioName id rest allowedUsageIds index portfolio doc haccess hdoc husages =>
      obtain rfl := haccess.named
      have hkeyed : doc.id = id :=
        (hloadable portfolio (List.mem_of_getElem? haccess.lookup)).keyed hdoc
      refine ⟨index, portfolio, id, some doc, none, _, haccess.lookup,
        replaces_removed haccess.lookup _ _ hdoc, rfl, ?_, fun subscriber => ?_⟩
      · rintro _ ⟨⟩
        exact hkeyed
      · rw [callbackHandler_deleted, hkeyed]
        rfl
  | @update portfolioName document rest allowedUsageIds index portfolio si received oldDoc merged
      haccess hsi hread hold husages hmerge hvalid hstored hname =>
      obtain rfl := haccess.named
      have hmerges := Document.merges hread hmerge
      have hkeyed : oldDoc.id = merged.id :=
        (hloadable portfolio (List.mem_of_getElem? haccess.lookup)).keyed hstored
      refine ⟨index, portfolio, merged.id, some oldDoc, some merged, _, haccess.lookup,
        replaces_replaced haccess.lookup _ _ hstored, rfl, ?_, fun subscriber => ?_⟩
      · rintro _ ⟨⟩
        exact hkeyed
      · -- The message has the received document, whose public view is that of the merged one.
        rw [callbackHandler_updated, hmerges.id_received, ← hmerges.publicView]
        rfl

end Messages

/-! ### Runs -/

/-- What was delivered has no secrets, and an old document is the one that was stored. -/
structure Faithful (server : SecurityWalletServer) (delivery : Delivery) : Prop where
  old : ∀ doc, delivery.oldData = some doc →
    ∃ stored, server.Stores delivery.portfolio doc.id stored ∧ doc = stored.publicView
  withoutSecrets : ∀ doc, delivery.oldData = some doc ∨ delivery.newData = some doc →
    doc.containPrivateData = false ∧ ∀ secret ∈ doc.body.secrets, secret.2 = ""

theorem faithful_publicView {server : SecurityWalletServer} {portfolioName : String} {id : Id}
    {before after : Option Document}
    (hstored : ∀ doc, before = some doc → doc.id = id ∧ server.Stores portfolioName id doc) :
    Faithful server
      ⟨portfolioName, before.map Document.publicView, after.map Document.publicView⟩ := by
  constructor
  · intro doc hdoc
    obtain ⟨stored, hbefore, rfl⟩ := Option.map_eq_some_iff.1 hdoc
    obtain ⟨rfl, hstores⟩ := hstored stored hbefore
    exact ⟨stored, hstores, rfl⟩
  · intro doc hdoc
    have hview : ∃ stored : Document, doc = stored.publicView := by
      rcases hdoc with hdoc | hdoc
      all_goals
        obtain ⟨stored, -, rfl⟩ := Option.map_eq_some_iff.1 hdoc
        exact ⟨stored, rfl⟩
    obtain ⟨stored, rfl⟩ := hview
    exact ⟨rfl, stored.secrets_publicView⟩

variable [Platform] [CxxtoolsClient]

/--
After the request the copy is the public view of the server, every delivery was faithful, and an
error published nothing.
-/
structure Replays (request : Request) (state : SecurityWalletServer × Subscriber) : Prop where
  mirrored : (handleRequestWatched request state).2.1.MirroredBy
    (handleRequestWatched request state).2.2.mirror
  delivered : ∃ deliveries, (handleRequestWatched request state).2.2.delivered =
      state.2.delivered ++ deliveries ∧
    ∀ delivery ∈ deliveries, Faithful state.1 delivery
  silent : Failed (handleRequestWatched request state).1 →
    (handleRequestWatched request state).2.1.published = state.1.published

/-- A request that changes nothing publishes nothing. -/
theorem replays_of_unchanged {server : SecurityWalletServer} {request : Request}
    {frames : List String} {subscriber : Subscriber}
    (hresult : handleRequest request server = (frames, server))
    (hmirrored : server.MirroredBy subscriber.mirror) : Replays request (server, subscriber) := by
  have hpublished : server.published = server.published ++ [] := by rw [List.append_nil]
  have hwatched : handleRequestWatched request (server, subscriber) =
      (frames, server, subscriber) := by
    rw [handleRequestWatched, Machine.watched_eq hresult hpublished, List.foldl_nil]
  constructor
  · rw [hwatched]
    exact hmirrored
  · rw [hwatched]
    refine ⟨[], ?_, fun _ hmem => absurd hmem List.not_mem_nil⟩
    rw [List.append_nil]
  · rw [hwatched]
    exact fun _ => rfl

variable [LawfulCxxtools] [LawfulCxxtoolsClient]

theorem Change.replays {server next : SecurityWalletServer} {request : Request} {command : Command}
    {params : List String} {result : String} {subscriber : Subscriber}
    (hresult : handleRequest request server = ([result], next))
    (hchange : Change server request.sender command params result next)
    (hloadable : ∀ portfolio ∈ server.activeWallet.portfolios, portfolio.Loadable)
    (hnodup : server.activeWallet.names.Nodup) (hmirrored : server.MirroredBy subscriber.mirror) :
    Replays request (server, subscriber) := by
  obtain ⟨index, portfolio, id, before, after, message, hlookup, hreplaces, hpublished, hkeyed,
    hmessage⟩ := hchange.delivered hloadable
  have hname : server.activeWallet.names[index]? = some portfolio.name := by
    rw [SecurityWallet.names, List.getElem?_map, hlookup, Option.map_some]
  have hwatched : handleRequestWatched request (server, subscriber) =
      ([result], next, subscriber.receive id ⟨portfolio.name, before.map Document.publicView,
        after.map Document.publicView⟩) := by
    rw [handleRequestWatched, Machine.watched_eq hresult hpublished, List.foldl_cons,
      List.foldl_nil, hmessage]
  constructor
  · rw [hwatched]
    exact hmirrored.update hnodup hlookup hreplaces hchange.sameFrame.names_eq
  · rw [hwatched]
    refine ⟨_, rfl, fun delivery hmem => ?_⟩
    rw [List.mem_singleton.1 hmem]
    refine faithful_publicView fun doc hdoc => ⟨hkeyed doc hdoc, ?_⟩
    rw [stores_iff hnodup hname, hreplaces.before, hdoc]
  · rw [hwatched]
    exact fun hfailed => absurd hfailed (not_failed_singleton result)

theorem handleRequest_replays (request : Request) {server : SecurityWalletServer}
    {subscriber : Subscriber}
    (hloadable : ∀ portfolio ∈ server.activeWallet.portfolios, portfolio.Loadable)
    (hnodup : server.activeWallet.names.Nodup) (hmirrored : server.MirroredBy subscriber.mirror) :
    Replays request (server, subscriber) := by
  have houtcome := handleRequest_outcome request server
  cases hresult : handleRequest request server with
  | mk frames next =>
      rw [hresult] at houtcome
      cases houtcome with
      | changed _ _ hchange => exact hchange.replays hresult hloadable hnodup hmirrored
      | failed e => exact replays_of_unchanged hresult hmirrored
      | ignored _ _ => exact replays_of_unchanged hresult hmirrored
      | read _ _ _ => exact replays_of_unchanged hresult hmirrored

/-- What a run of requests keeps. -/
structure Watching (state : SecurityWalletServer × Subscriber) : Prop where
  persisted : state.1.activeWallet.Persisted
  nodup : state.1.activeWallet.names.Nodup
  mirrored : state.1.MirroredBy state.2.mirror

theorem Watching.step (request : Request) (state : SecurityWalletServer × Subscriber)
    (hwatching : Watching state) :
    Watching (handleRequestWatched request state).2 ∧ Replays request state := by
  have hreplays := handleRequest_replays request hwatching.persisted.loadable hwatching.nodup
    hwatching.mirrored
  refine ⟨⟨handleRequest_persisted request hwatching.persisted, ?_, hreplays.mirrored⟩, hreplays⟩
  have hnames : (handleRequestWatched request state).2.1.activeWallet.names =
      state.1.activeWallet.names := (handleRequest_sameFrame request state.1).names_eq
  rw [hnames]
  exact hwatching.nodup

omit [CxxtoolsClient] [LawfulCxxtools] [LawfulCxxtoolsClient] in
/-- Started without a database, a wallet has one portfolio of each name. -/
theorem ReachableFromEmpty.names_nodup {server : SecurityWalletServer}
    (hreachable : ReachableFromEmpty server) : server.activeWallet.names.Nodup := by
  induction hreachable with
  | start uuids randoms hempty hconstruct =>
      rw [SecurityWallet.nodup_of_construct hconstruct, SecurityWallet.DatabaseNamesDistinct, hempty]
      rintro _ _ ⟨⟩
  | serve request _ ih => rwa [(handleRequest_sameFrame request _).names_eq]

/--
A subscriber that starts with the public view of all documents has it after each request of every
run. Each old document it is given is the public view from just before the request, and no document
it is given has a secret.
-/
theorem notifications_replay_documents (requests : List Request) (server : SecurityWalletServer)
    (subscriber : Subscriber) (hreachable : ReachableFromEmpty server)
    (hmirrored : server.MirroredBy subscriber.mirror) :
    Machine.Along handleRequestWatched Replays requests (server, subscriber) :=
  Machine.along_of_invariant (P := Watching) Watching.step requests
    ⟨hreachable.reachable.persisted, hreachable.names_nodup, hmirrored⟩

end SecurityWalletServer

/-! ### A subscriber from the start -/

namespace Reference

open scoped Reference

theorem created_document_is_replayed :
    Machine.Along SecurityWalletServer.handleRequestWatched SecurityWalletServer.Replays
      [createRequest] (server [{}], { mirror := fun _ => none }) := by
  refine SecurityWalletServer.notifications_replay_documents _ (server [{}]) _
    reachableFromEmpty_reference ?_
  intro portfolioName id doc
  constructor
  · rintro ⟨⟩
  · rintro ⟨stored, ⟨portfolio, hmem, -, hstored⟩, -⟩
    obtain rfl := List.mem_singleton.1 hmem
    exact absurd hstored (by simp)

end Reference

end Secw
