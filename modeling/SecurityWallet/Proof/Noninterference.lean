import SecurityWallet.Reference
import SecurityWallet.Foundation.Relational
import SecurityWallet.Proof.Redaction

/-!
# Secrets do not flow to clients

Two servers that differ only in secrets a client may not read answer its requests alike, publish the
same and end in servers that again differ only in such secrets. UPDATE is left out: it tells whether
the secrets it is sent are the stored ones.
-/

open Foundation SerializationInfo Effect

namespace Secw

/-- The documents differ in private fields at most, and not at all if a usage is consumed. -/
def Document.DifferInSecrets (usages : Except Exn (StdSet UsageId)) (doc other : Document) : Prop :=
  doc.withoutSecret = other.withoutSecret ∧
    ∀ allowedUsageIds, usages = .ok allowedUsageIds →
      hasCommonUsageIds allowedUsageIds doc.usages = true → doc = other

theorem Document.visible_eq_iff (usages : Except Exn (StdSet UsageId)) (doc other : Document) :
    doc.visible usages = other.visible usages ↔ doc.DifferInSecrets usages other := by
  unfold DifferInSecrets
  cases usages with
  | error e => simp [visible]
  | ok allowedUsageIds =>
      have hkeep : doc.visible (.ok allowedUsageIds) = other.visible (.ok allowedUsageIds) →
          doc.withoutSecret = other.withoutSecret := by
        intro heq
        have herase := congrArg withoutSecret heq
        rcases doc.visible_eq_or (.ok allowedUsageIds) with hdoc | hdoc <;>
          rcases other.visible_eq_or (.ok allowedUsageIds) with hother | hother <;>
            simpa [hdoc, hother, withoutSecret] using herase
      have husages : doc.withoutSecret = other.withoutSecret → doc.usages = other.usages :=
        congrArg usages
      constructor
      · intro heq
        have herase := hkeep heq
        refine ⟨herase, ?_⟩
        rintro _ ⟨⟩ hcommon
        rwa [visible_of_common _ hcommon, visible_of_common _ (husages herase ▸ hcommon)] at heq
      · rintro ⟨heq, hcommon⟩
        unfold visible
        dsimp only
        rw [← husages heq]
        split
        · next hdoc => exact hcommon _ rfl hdoc
        · exact heq

/-- Portfolios of one name whose documents differ in secrets at most. -/
structure Portfolio.DifferInSecrets (usages : Except Exn (StdSet UsageId))
    (portfolio other : Portfolio) : Prop where
  name : portfolio.name = other.name
  documents : ∀ id : Id, Option.Rel (Document.DifferInSecrets usages)
    portfolio.documents[id]? other.documents[id]?
  mapNameDocuments : ∀ name : String, Option.Rel (Document.DifferInSecrets usages)
    portfolio.mapNameDocuments[name]? other.mapNameDocuments[name]?

theorem Portfolio.redact_eq_iff (usages : Except Exn (StdSet UsageId))
    (portfolio other : Portfolio) :
    portfolio.redact usages = other.redact usages ↔ portfolio.DifferInSecrets usages other := by
  have hdocument : (fun doc doc' => Document.visible usages doc = Document.visible usages doc') =
      Document.DifferInSecrets usages := by
    funext doc doc'
    exact propext (Document.visible_eq_iff usages doc doc')
  have hmaps : portfolio.redact usages = other.redact usages ↔
      portfolio.name = other.name ∧
        portfolio.documents.mapValues (Document.visible usages) =
          other.documents.mapValues (Document.visible usages) ∧
        portfolio.mapNameDocuments.mapValues (Document.visible usages) =
          other.mapNameDocuments.mapValues (Document.visible usages) := by
    rw [redact, redact, Portfolio.mk.injEq]
  rw [hmaps, StdMap.mapValues_eq_iff, StdMap.mapValues_eq_iff, hdocument]
  constructor
  · rintro ⟨hname, hid, hmap⟩
    exact ⟨hname, hid, hmap⟩
  · rintro ⟨hname, hid, hmap⟩
    exact ⟨hname, hid, hmap⟩

namespace SecurityWalletServer

variable [Platform]

/--
Servers with the same configuration, ids to come and messages, whose documents differ in secrets of
documents the client consumes no usage of. Nothing is said of their files.
-/
structure DifferInSecrets (client : ClientId) (server other : SecurityWalletServer) : Prop where
  configurations : server.activeWallet.configurations = other.activeWallet.configurations
  portfolios : List.Forall₂
    (fun portfolio portfolio' => Portfolio.DifferInSecrets
      (server.activeWallet.consumerUsages portfolio.name client) portfolio portfolio')
    server.activeWallet.portfolios other.activeWallet.portfolios
  uuids : server.uuids = other.uuids
  published : server.published = other.published

/-- The server as a client sees it. -/
def redact (client : ClientId) (server : SecurityWalletServer) : SecurityWalletServer :=
  { server with
    activeWallet := server.activeWallet.redact client
    randoms := RandomSource.exhausted }

@[simp]
theorem redact_activeWallet (client : ClientId) (server : SecurityWalletServer) :
    (redact client server).activeWallet = server.activeWallet.redact client := rfl

theorem redact_eq_iff (client : ClientId) (server other : SecurityWalletServer) :
    redact client server = redact client other ↔ DifferInSecrets client server other := by
  have hparts : redact client server = redact client other ↔
      server.activeWallet.configurations = other.activeWallet.configurations ∧
        (server.activeWallet.redact client).portfolios =
          (other.activeWallet.redact client).portfolios ∧
        server.uuids = other.uuids ∧ server.published = other.published := by
    unfold redact SecurityWallet.redact
    simp [and_assoc]
  have hportfolios (hconfigurations : server.activeWallet.configurations =
      other.activeWallet.configurations) : (server.activeWallet.redact client).portfolios =
          (other.activeWallet.redact client).portfolios ↔
        List.Forall₂ (fun portfolio portfolio' => Portfolio.DifferInSecrets
          (server.activeWallet.consumerUsages portfolio.name client) portfolio portfolio')
          server.activeWallet.portfolios other.activeWallet.portfolios := by
    have husages : other.activeWallet.consumerUsages = server.activeWallet.consumerUsages := by
      unfold SecurityWallet.consumerUsages SecurityWallet.getConfiguration
      rw [hconfigurations]
    rw [SecurityWallet.redact, SecurityWallet.redact, husages, ← List.forall₂_eq_eq_eq,
      List.forall₂_map_left_iff, List.forall₂_map_right_iff]
    have hportfolio (portfolio portfolio' : Portfolio) :
        portfolio.redact (server.activeWallet.consumerUsages portfolio.name client) =
          portfolio'.redact (server.activeWallet.consumerUsages portfolio'.name client) ↔
        Portfolio.DifferInSecrets (server.activeWallet.consumerUsages portfolio.name client)
          portfolio portfolio' := by
      rw [← Portfolio.redact_eq_iff]
      constructor
      · intro heq
        have hname := congrArg Portfolio.name heq
        rw [Portfolio.redact_name, Portfolio.redact_name] at hname
        rwa [← hname] at heq
      · intro heq
        have hname := congrArg Portfolio.name heq
        rw [Portfolio.redact_name, Portfolio.redact_name] at hname
        rwa [← hname]
    simp only [hportfolio]
  rw [hparts]
  constructor
  · rintro ⟨hconfigurations, hredact, huuids, hpublished⟩
    exact ⟨hconfigurations, (hportfolios hconfigurations).1 hredact, huuids, hpublished⟩
  · intro h
    exact ⟨h.configurations, (hportfolios h.configurations).2 h.portfolios, h.uuids, h.published⟩

/-- The client sees the same of both servers. -/
def LooksLike (client : ClientId) (server other : SecurityWalletServer) : Prop :=
  redact client server = redact client other

/-- The computation does not tell a server from the server as the client sees it. -/
def Blind {α : Type} (client : ClientId) (act : Effect Exn SecurityWalletServer α) : Prop :=
  ∀ server, Alike (LooksLike client) act (redact client server) act server

theorem looksLike_redact (client : ClientId) (server : SecurityWalletServer) :
    LooksLike client (redact client server) server := by
  unfold LooksLike redact
  simp

theorem redact_lookup (client : ClientId) {server : SecurityWalletServer} {index : Nat}
    {portfolio : Portfolio} (hlookup : server.activeWallet.portfolios[index]? = some portfolio) :
    (redact client server).activeWallet.portfolios[index]? =
      some (portfolio.redact (server.activeWallet.consumerUsages portfolio.name client)) := by
  rw [redact_activeWallet, SecurityWallet.redact, List.getElem?_map, hlookup, Option.map_some]

/-! ### Reading commands -/

section Reading

variable (client : ClientId)

theorem handleGetListPortfolio_blind (params : List String) :
    Blind client (handleGetListPortfolio client params) :=
  fun server => alike_get_bind (alike_pure (looksLike_redact client server) rfl)

theorem handleGetUsages_blind
    {usagesOf : SecurityWallet → String → ClientId → Except Exn (StdSet UsageId)}
    (husages : ∀ wallet portfolioName,
      usagesOf (SecurityWallet.redact client wallet) portfolioName client =
        usagesOf wallet portfolioName client)
    (params : List String) : Blind client (handleGetUsages usagesOf client params) := by
  intro server
  unfold handleGetUsages
  split
  · refine alike_get_bind ?_
    dsimp only
    rw [redact_activeWallet, husages]
    exact alike_liftM_bind (looksLike_redact client server) fun usages _ =>
      alike_pure (looksLike_redact client server) rfl
  · exact alike_throw (looksLike_redact client server) _

/-- A search that finds in a redacted portfolio what it finds in the portfolio, redacted. -/
def FindsRedacted (find : Portfolio → String → Except Exn Document) : Prop :=
  ∀ usages portfolio key, find (Portfolio.redact usages portfolio) key =
    (find portfolio key).map (Document.visible usages)

theorem handleGetWithoutSecret_blind {find : Portfolio → String → Except Exn Document}
    (hfind : FindsRedacted find) (params : List String) :
    Blind client (handleGetWithoutSecret find client params) := by
  intro server
  have hself := looksLike_redact client server
  unfold handleGetWithoutSecret
  split
  · next portfolioName key =>
      refine alike_get_bind ?_
      dsimp only
      rw [redact_activeWallet, SecurityWallet.redact_getPortfolio]
      refine alike_liftM_bind hself fun index hplace => ?_
      obtain ⟨portfolio, hlookup, -, -⟩ := SecurityWallet.getPortfolio_eq_ok.1 hplace
      rw [SecurityWallet.redact_portfolioAt _ _ hlookup, hfind,
        SecurityWallet.portfolioAt_eq hlookup]
      refine alike_liftM_map_bind hself fun doc _ => alike_pure hself ?_
      rw [Document.fill_visible]
  · exact alike_throw hself _

theorem handleGetWithSecret_blind {find : Portfolio → String → Except Exn Document}
    (hfind : FindsRedacted find) (params : List String) :
    Blind client (handleGetWithSecret find client params) := by
  intro server
  have hself := looksLike_redact client server
  unfold handleGetWithSecret
  split
  · next portfolioName key =>
      refine alike_get_bind ?_
      dsimp only
      rw [redact_activeWallet, SecurityWallet.redact_consumerUsages,
        SecurityWallet.redact_getPortfolio]
      refine alike_liftM_bind hself fun allowedUsageIds hrights => ?_
      refine alike_liftM_bind hself fun index hplace => ?_
      obtain ⟨portfolio, hlookup, hname, -⟩ := SecurityWallet.getPortfolio_eq_ok.1 hplace
      rw [SecurityWallet.redact_portfolioAt _ _ hlookup, hfind, hname,
        (checkGlobalAccess_eq_ok.1 hrights).1, SecurityWallet.portfolioAt_eq hlookup]
      refine alike_liftM_map_bind hself fun doc _ => ?_
      rw [Document.visible_usages]
      refine alike_ite (fun _ => alike_throw hself _) fun hcommon => ?_
      -- the usages that let the document through are those that show its secrets
      exact alike_pure hself (by rw [Document.visible_of_common _ (not_not.1 hcommon)])
  · exact alike_throw hself _

theorem serializeListDocumentsPublic_blind (portfolioName : String)
    (usages : StdSet UsageId) : Blind client (serializeListDocumentsPublic portfolioName usages) := by
  intro server
  have hself := looksLike_redact client server
  unfold serializeListDocumentsPublic
  refine alike_get_bind ?_
  dsimp only
  rw [redact_activeWallet, SecurityWallet.redact_getPortfolio]
  refine alike_liftM_bind hself fun index hplace => alike_pure hself ?_
  obtain ⟨portfolio, hlookup, -, -⟩ := SecurityWallet.getPortfolio_eq_ok.1 hplace
  rw [SecurityWallet.redact_portfolioAt _ _ hlookup, Portfolio.redact_getListDocuments,
    SecurityWallet.portfolioAt_eq hlookup]
  simp [ofList, List.filter_map, Function.comp_def]

omit [Platform] in
/-- A document with one of the usages that are asked for is seen as it is. -/
theorem filter_visible {allowedUsageIds usages : StdSet UsageId}
    (hsubset : ∀ usage ∈ usages, usage ∈ allowedUsageIds) (docs : List Document) :
    ((docs.map (Document.visible (.ok allowedUsageIds))).filter fun pDoc =>
        hasCommonUsageIds pDoc.usages usages) =
      docs.filter fun pDoc => hasCommonUsageIds pDoc.usages usages := by
  rw [List.filter_map]
  simp only [Function.comp_def, Document.visible_usages]
  refine (List.map_congr_left fun doc hdoc => ?_).trans (List.map_id _)
  obtain ⟨usage, hdocument, husage⟩ :=
    (hasCommonUsageIds_iff _ _).1 (List.mem_filter.1 hdoc).2
  exact Document.visible_of_common doc
    ((hasCommonUsageIds_iff _ _).2 ⟨usage, hsubset usage husage, hdocument⟩)

/-- The private list is only asked for usages the client consumes. -/
theorem serializeListDocumentsPrivate_alike {portfolioName : String}
    {allowedUsageIds usages : StdSet UsageId} {server : SecurityWalletServer}
    (hrights : server.activeWallet.consumerUsages portfolioName client = .ok allowedUsageIds)
    (hsubset : ∀ usage ∈ usages, usage ∈ allowedUsageIds) :
    Alike (LooksLike client)
      (serializeListDocumentsPrivate portfolioName usages) (redact client server)
      (serializeListDocumentsPrivate portfolioName usages) server := by
  have hself := looksLike_redact client server
  unfold serializeListDocumentsPrivate
  refine alike_get_bind ?_
  dsimp only
  rw [redact_activeWallet, SecurityWallet.redact_getPortfolio]
  refine alike_liftM_bind hself fun index hplace => alike_pure hself ?_
  obtain ⟨portfolio, hlookup, hname, -⟩ := SecurityWallet.getPortfolio_eq_ok.1 hplace
  rw [SecurityWallet.redact_portfolioAt _ _ hlookup, Portfolio.redact_getListDocuments, hname,
    hrights, SecurityWallet.portfolioAt_eq hlookup, filter_visible hsubset]

theorem handleGetListDocumentsWithSecret_blind (params : List String) :
    Blind client (handleGetListDocumentsWithSecret client params) := by
  intro server
  have hself := looksLike_redact client server
  unfold handleGetListDocumentsWithSecret
  split
  · exact alike_throw hself _
  · next portfolioName rest =>
      refine alike_get_bind ?_
      dsimp only
      rw [redact_activeWallet, SecurityWallet.redact_consumerUsages]
      refine alike_liftM_bind hself fun allowedUsageIds hrights => ?_
      obtain ⟨hconsumed, -⟩ := checkGlobalAccess_eq_ok.1 hrights
      refine alike_ite (fun _ => ?_) fun _ =>
        serializeListDocumentsPrivate_alike client hconsumed fun usage husage => husage
      refine alike_ite (fun _ => alike_throw hself _) fun hallowed => ?_
      exact serializeListDocumentsPrivate_alike client hconsumed (by simpa using hallowed)

theorem handleGetListDocumentsWithoutSecret_blind (params : List String) :
    Blind client (handleGetListDocumentsWithoutSecret client params) := by
  intro server
  have hself := looksLike_redact client server
  unfold handleGetListDocumentsWithoutSecret
  split
  · exact alike_throw hself _
  · next portfolioName rest =>
      refine alike_get_bind ?_
      dsimp only
      rw [redact_activeWallet, SecurityWallet.redact_getConfiguration]
      refine alike_liftM_bind hself fun configuration _ => ?_
      refine alike_ite (fun _ => alike_throw hself _) fun _ => ?_
      exact alike_ite (fun _ => serializeListDocumentsPublic_blind client portfolioName _ server)
        fun _ => serializeListDocumentsPublic_blind client portfolioName _ server

end Reading

/-! ### Writing commands -/

/-- Committing portfolios that look the same to servers that look the same. -/
theorem looksLike_commit (client : ClientId) (server : SecurityWalletServer) (index : Nat)
    {portfolio next : Portfolio} (uuids : UuidSource) (notification : SerializationInfo)
    (hname : portfolio.name = next.name)
    (hredact : portfolio.redact (server.activeWallet.consumerUsages next.name client) =
      next.redact (server.activeWallet.consumerUsages next.name client)) :
    LooksLike client (commit (redact client server) index portfolio uuids notification)
      (commit server index next uuids notification) := by
  have hwallet := server.activeWallet.redact_setPortfolio client index hname hredact
  have hcommit : redact client (commit (redact client server) index portfolio uuids notification) =
      { server with
        activeWallet :=
          ((server.activeWallet.redact client).setPortfolio index portfolio).redact client
        uuids
        randoms := RandomSource.exhausted
        published := server.published ++ [[serialize notification]] } := rfl
  rw [LooksLike, hcommit, hwallet]
  rfl

omit [Platform] in
theorem notificationOnDelete_visible (portfolioName : String)
    (usages : Except Exn (StdSet UsageId)) (doc : Document) :
    notificationOnDelete portfolioName (doc.visible usages) =
      notificationOnDelete portfolioName doc := by
  simp [notificationOnDelete]

theorem onWallet_save_exec (server : SecurityWalletServer) :
    (onWallet SecurityWallet.save).exec server =
      (.ok (), { server with
        activeWallet :=
          { server.activeWallet with
            disk.database := some (Cxxtools.serialize true
              (SecurityWallet.databaseTree server.activeWallet.portfolios)) } }) := rfl

section Changing

variable {server : SecurityWalletServer} {index : Nat} {portfolio : Portfolio}

/-- The last steps of a DELETE. -/
theorem delete_exec {id : Id} {doc : Document} (portfolioName : String)
    (hlookup : server.activeWallet.portfolios[index]? = some portfolio)
    (hdoc : portfolio.documents[id]? = some doc) :
    (do onPortfolio index (withoutUuids (Portfolio.remove id))
        onWallet SecurityWallet.save
        sendNotificationOnDelete portfolioName doc
        return "OK" : Effect Exn SecurityWalletServer String).exec server =
      (.ok "OK", commit server index (portfolio.removed id doc) server.uuids
        (notificationOnDelete portfolioName doc)) := by
  have hremove : (onPortfolio index (withoutUuids (Portfolio.remove id))).exec server =
      (.ok (), { server with
        activeWallet := server.activeWallet.setPortfolio index (portfolio.removed id doc) }) := by
    rw [onPortfolio, exec_zoom, withoutUuids, exec_zoom, SecurityWallet.portfolioAt_eq hlookup,
      Portfolio.remove_exec, hdoc]
  rw [exec_bind_ok hremove]
  rfl

/-- The last steps of a CREATE. -/
theorem create_exec (portfolioName : String) (doc : Document)
    (hlookup : server.activeWallet.portfolios[index]? = some portfolio) :
    (do let newId ← onPortfolio index (Portfolio.add doc)
        onWallet SecurityWallet.save
        let newDocument ← ((← get).activeWallet.portfolioAt index).getDocument newId
        sendNotificationOnCreate portfolioName newDocument
        return newId : Effect Exn SecurityWalletServer String).exec server =
      if portfolio.mapNameDocuments.contains doc.name then
        (.error (.secw (secwNameAlreadyExistsException doc.name)), server)
      else
        (.ok (newDocument server portfolio doc).id, commit server index
          (portfolio.store (newDocument server portfolio doc).id (newDocument server portfolio doc))
          (server.uuids.next portfolio.usedIds).2
          (notificationOnCreate portfolioName (newDocument server portfolio doc))) := by
  rw [exec_bind, onPortfolio, exec_zoom, SecurityWallet.portfolioAt_eq hlookup, Portfolio.add_exec]
  by_cases htaken : portfolio.mapNameDocuments.contains doc.name
  · rw [if_pos htaken, if_pos htaken]
    dsimp only
    rw [setPortfolio_unchanged hlookup]
  · rw [if_neg htaken, if_neg htaken]
    -- the document that was just added is found again under its new id
    have hfound := SecurityWallet.getDocument_store hlookup
      (newDocument server portfolio doc).id (newDocument server portfolio doc)
    dsimp only
    rw [exec_bind_ok (onWallet_save_exec _), exec_bind_ok (exec_get _)]
    exact exec_bind_ok ((exec_liftM _ _).trans (congrArg (·, _) hfound)) _

end Changing

theorem handleDelete_blind (client : ClientId) (params : List String) :
    Blind client (handleDelete client params) := by
  intro server
  have hself := looksLike_redact client server
  unfold handleDelete
  split
  · next portfolioName id rest =>
      refine alike_get_bind ?_
      dsimp only
      rw [redact_activeWallet, SecurityWallet.redact_getPortfolio,
        SecurityWallet.redact_producerUsages]
      refine alike_liftM_bind hself fun allowedUsageIds _ => ?_
      refine alike_liftM_bind hself fun index hplace => ?_
      obtain ⟨portfolio, hlookup, -, -⟩ := SecurityWallet.getPortfolio_eq_ok.1 hplace
      rw [SecurityWallet.redact_portfolioAt _ _ hlookup, Portfolio.redact_getDocument,
        SecurityWallet.portfolioAt_eq hlookup]
      refine alike_liftM_map_bind hself fun doc hdoc => ?_
      rw [Document.visible_usages]
      refine alike_liftM_bind hself fun _ _ => ?_
      rw [Portfolio.getDocument_eq_ok] at hdoc
      have hlookup' := redact_lookup client hlookup
      generalize husages : server.activeWallet.consumerUsages portfolio.name client = usages
        at hlookup'
      have hdoc' : (portfolio.redact usages).documents[id]? = some (doc.visible usages) := by
        rw [Portfolio.redact, StdMap.lookup_mapValues, hdoc, Option.map_some]
      rw [Alike, delete_exec portfolioName hlookup' hdoc', delete_exec portfolioName hlookup hdoc,
        notificationOnDelete_visible]
      refine ⟨rfl, looksLike_commit client server index _ _ rfl ?_⟩
      exact husages ▸ portfolio.redact_removed usages id doc
  · exact alike_throw hself _

theorem handleCreate_blind (client : ClientId) (params : List String) :
    Blind client (handleCreate client params) := by
  intro server
  have hself := looksLike_redact client server
  unfold handleCreate
  split
  · next portfolioName document rest =>
      refine alike_get_bind ?_
      dsimp only
      rw [redact_activeWallet, SecurityWallet.redact_getPortfolio,
        SecurityWallet.redact_producerUsages]
      refine alike_liftM_bind hself fun allowedUsageIds _ => ?_
      refine alike_liftM_bind hself fun index hplace => ?_
      obtain ⟨portfolio, hlookup, -, -⟩ := SecurityWallet.getPortfolio_eq_ok.1 hplace
      refine alike_liftM_bind hself fun si _ => ?_
      refine alike_liftM_bind hself fun doc _ => ?_
      refine alike_liftM_bind hself fun _ _ => ?_
      refine alike_liftM_bind hself fun _ _ => ?_
      have hlookup' := redact_lookup client hlookup
      generalize husages : server.activeWallet.consumerUsages portfolio.name client = usages
        at hlookup'
      have hnew : newDocument (redact client server) (portfolio.redact usages) doc =
          newDocument server portfolio doc := by
        rw [newDocument, newDocument, Portfolio.redact_usedIds]
        rfl
      rw [Alike, create_exec portfolioName doc hlookup', create_exec portfolioName doc hlookup,
        Portfolio.redact_contains, hnew, Portfolio.redact_usedIds]
      by_cases htaken : portfolio.mapNameDocuments.contains doc.name
      · rw [if_pos htaken, if_pos htaken]
        exact ⟨rfl, hself⟩
      · rw [if_neg htaken, if_neg htaken]
        refine ⟨rfl, looksLike_commit client server index _ _ rfl ?_⟩
        exact husages ▸ portfolio.redact_store usages _ _
  · exact alike_throw hself _

/-! ### Requests -/

omit [Platform] in
theorem findsRedacted_getDocument : FindsRedacted Portfolio.getDocument :=
  fun usages portfolio id => portfolio.redact_getDocument usages id

omit [Platform] in
theorem findsRedacted_getDocumentByName : FindsRedacted Portfolio.getDocumentByName :=
  fun usages portfolio name => portfolio.redact_getDocumentByName usages name

theorem handler_blind (client : ClientId) {command : Command} (hcommand : command ≠ .update)
    (params : List String) : Blind client (handler command client params) := by
  cases command with
  | getPortfolioList => exact handleGetListPortfolio_blind client params
  | getConsumerUsages => exact handleGetUsages_blind client (fun _ _ => rfl) params
  | getProducerUsages => exact handleGetUsages_blind client (fun _ _ => rfl) params
  | getListWithSecret => exact handleGetListDocumentsWithSecret_blind client params
  | getListWithoutSecret => exact handleGetListDocumentsWithoutSecret_blind client params
  | getWithoutSecret => exact handleGetWithoutSecret_blind client findsRedacted_getDocument params
  | getWithoutSecretByName =>
      exact handleGetWithoutSecret_blind client findsRedacted_getDocumentByName params
  | getWithSecret => exact handleGetWithSecret_blind client findsRedacted_getDocument params
  | getWithSecretByName =>
      exact handleGetWithSecret_blind client findsRedacted_getDocumentByName params
  | create => exact handleCreate_blind client params
  | delete => exact handleDelete_blind client params
  | update => exact absurd rfl hcommand

theorem processRequest_blind {request : Request}
    (hrequest : request.payload.head? ≠ some Command.update.name) :
    Blind request.sender (processRequest request) := by
  intro server
  have hself := looksLike_redact request.sender server
  unfold processRequest
  split
  · exact alike_throw hself _
  · next cmd params hpayload =>
      refine alike_ite (fun _ => alike_pure hself rfl) fun _ => ?_
      split
      · exact alike_throw hself _
      · next command hfind =>
          have hcommand : command ≠ .update := by
            rintro rfl
            refine hrequest ?_
            rw [hpayload, Command.name_of_ofName? hfind]
            rfl
          refine alike_bind (handler_blind request.sender hcommand params server) fun _ _ => ?_
          exact alike_pure (handler_blind request.sender hcommand params server).2 rfl

theorem handleRequest_blind {request : Request}
    (hrequest : request.payload.head? ≠ some Command.update.name)
    (server : SecurityWalletServer) :
    (handleRequest request (redact request.sender server)).1 = (handleRequest request server).1 ∧
      LooksLike request.sender (handleRequest request (redact request.sender server)).2
        (handleRequest request server).2 := by
  obtain ⟨houtcome, hnext⟩ := processRequest_blind hrequest server
  unfold handleRequest
  revert houtcome hnext
  generalize (processRequest request).exec (redact request.sender server) = run
  generalize (processRequest request).exec server = run'
  obtain ⟨outcome, next⟩ := run
  obtain ⟨outcome', next'⟩ := run'
  rintro rfl hnext
  cases outcome <;> exact ⟨rfl, hnext⟩

/--
A request other than UPDATE is answered alike by two servers that differ in secrets of documents its
sender consumes no usage of; they publish the same and still differ in such secrets only.
-/
theorem secrets_do_not_interfere (request : Request) (server other : SecurityWalletServer)
    (hrequest : request.payload.head? ≠ some Command.update.name)
    (hdiffer : DifferInSecrets request.sender server other) :
    (handleRequest request server).1 = (handleRequest request other).1 ∧
      (handleRequest request server).2.published = (handleRequest request other).2.published ∧
      DifferInSecrets request.sender (handleRequest request server).2
        (handleRequest request other).2 := by
  obtain ⟨hanswer, hnext⟩ := handleRequest_blind hrequest server
  obtain ⟨hanswer', hnext'⟩ := handleRequest_blind hrequest other
  rw [(redact_eq_iff request.sender server other).2 hdiffer] at hanswer hnext
  have hafter : DifferInSecrets request.sender (handleRequest request server).2
      (handleRequest request other).2 :=
    (redact_eq_iff _ _ _).1 (hnext.symm.trans hnext')
  exact ⟨hanswer.symm.trans hanswer', hafter.published, hafter⟩

end SecurityWalletServer

open scoped Reference

/-- Servers whose one document, of a usage `bob` does not consume, differs in its password. -/
theorem differInSecrets_reference :
    SecurityWalletServer.DifferInSecrets "bob" (Reference.server [Reference.portfolio (Reference.document ["u1"] "old")])
      (Reference.server [Reference.portfolio (Reference.document ["u1"] "new")]) := by
  have hdocument : Document.DifferInSecrets (.ok (Std.ExtTreeSet.ofList ["u2"]))
      (Reference.document ["u1"] "old") (Reference.document ["u1"] "new") := by
    refine ⟨rfl, ?_⟩
    rintro _ ⟨⟩ hcommon
    exact absurd hcommon (by decide +kernel)
  refine ⟨rfl, .cons ?_ .nil, rfl, rfl⟩
  change Portfolio.DifferInSecrets
    ((Reference.server [Reference.portfolio (Reference.document ["u1"] "old")]).activeWallet.consumerUsages "default"
      "bob") _ _
  rw [Reference.consumerUsages_bob]
  refine ⟨rfl, fun id => ?_, fun name => ?_⟩
  · rw [Reference.portfolio, Reference.portfolio, Portfolio.store, Portfolio.store,
      StdMap.lookup_insert, StdMap.lookup_insert]
    change Option.Rel _ (if "0" = id then _ else _) (if "0" = id then _ else _)
    split
    · exact .some hdocument
    · simp
  · rw [Reference.portfolio, Reference.portfolio, Portfolio.store, Portfolio.store,
      StdMap.lookup_insert, StdMap.lookup_insert]
    change Option.Rel _ (if "document" = name then _ else _) (if "document" = name then _ else _)
    split
    · exact .some hdocument
    · simp

theorem read_does_not_interfere :
    (SecurityWalletServer.handleRequest ⟨"bob", ["GET_LIST_WITHOUT_SECRET", "default"]⟩
        (Reference.server [Reference.portfolio (Reference.document ["u1"] "old")])).1 =
      (SecurityWalletServer.handleRequest ⟨"bob", ["GET_LIST_WITHOUT_SECRET", "default"]⟩
        (Reference.server [Reference.portfolio (Reference.document ["u1"] "new")])).1 :=
  (SecurityWalletServer.secrets_do_not_interfere
    ⟨"bob", ["GET_LIST_WITHOUT_SECRET", "default"]⟩ _ _ (by decide) differInSecrets_reference).1

end Secw
