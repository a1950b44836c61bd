import SecurityWallet.Foundation.Hoare
import SecurityWallet.Proof.DocumentCodec
import SecurityWallet.Proof.PortfolioIndex
import SecurityWallet.Server

/-!
# What a request can do

A request is answered without touching the server, or it is a successful CREATE, DELETE or UPDATE.
`Change` says of these three which checks were passed and what state they leave; the facts about
requests are derived from it.
-/

open Foundation SerializationInfo Effect

namespace Secw

theorem SecurityWallet.getPortfolio_eq_ok {wallet : SecurityWallet} {name : String} {index : Nat} :
    wallet.getPortfolio name = .ok index ↔
      ∃ portfolio, wallet.portfolios[index]? = some portfolio ∧ portfolio.name = name ∧
        ∀ earlier < index, ∀ other, wallet.portfolios[earlier]? = some other →
          other.name ≠ name := by
  unfold getPortfolio
  cases hfind : wallet.portfolios.findIdx? fun portfolio => portfolio.name = name with
  | none =>
      rw [List.findIdx?_eq_none_iff] at hfind
      constructor
      · simp
      · rintro ⟨portfolio, hportfolio, hname, -⟩
        exact absurd hname (by simpa using hfind portfolio (List.mem_of_getElem? hportfolio))
  | some found =>
      rw [List.findIdx?_eq_some_iff_getElem] at hfind
      obtain ⟨hfound, hname, hearlier⟩ := hfind
      simp only [Except.ok.injEq]
      constructor
      · rintro rfl
        refine ⟨_, List.getElem?_eq_getElem hfound, by simpa using hname, ?_⟩
        intro earlier hlt other hother
        obtain ⟨hlength, rfl⟩ := List.getElem?_eq_some_iff.1 hother
        simpa using hearlier earlier hlt
      · rintro ⟨portfolio, hportfolio, hother, hfirst⟩
        rcases Nat.lt_trichotomy found index with hlt | heq | hgt
        · exact absurd (by simpa using hname)
            (hfirst found hlt _ (List.getElem?_eq_getElem hfound))
        · exact heq
        · obtain ⟨hlength, rfl⟩ := List.getElem?_eq_some_iff.1 hportfolio
          exact absurd hother (by simpa using hearlier index hgt)

theorem SecurityWallet.portfolioAt_eq {wallet : SecurityWallet} {index : Nat}
    {portfolio : Portfolio} (hportfolio : wallet.portfolios[index]? = some portfolio) :
    wallet.portfolioAt index = portfolio := by
  rw [portfolioAt, List.getD_eq_getElem?_getD, hportfolio, Option.getD_some]

theorem SecurityWallet.portfolioAt_setPortfolio {wallet : SecurityWallet} {index : Nat}
    {portfolio : Portfolio} (hportfolio : wallet.portfolios[index]? = some portfolio)
    (next : Portfolio) : (wallet.setPortfolio index next).portfolioAt index = next := by
  have hlength := (List.getElem?_eq_some_iff.1 hportfolio).1
  exact portfolioAt_eq (by simp [setPortfolio, hlength])

theorem SecurityWallet.setPortfolio_self {wallet : SecurityWallet} {index : Nat}
    {portfolio : Portfolio} (hportfolio : wallet.portfolios[index]? = some portfolio) :
    wallet.setPortfolio index portfolio = wallet := by
  obtain ⟨hlength, rfl⟩ := List.getElem?_eq_some_iff.1 hportfolio
  rw [setPortfolio, List.set_getElem_self]

theorem Portfolio.getDocument_eq_ok {portfolio : Portfolio} {id : Id} {doc : Document} :
    portfolio.getDocument id = .ok doc ↔ portfolio.documents[id]? = some doc := by
  unfold getDocument
  cases portfolio.documents[id]? <;> simp

/-- A document that was just stored is found again under its id. -/
theorem SecurityWallet.getDocument_store {wallet : SecurityWallet} {index : Nat}
    {portfolio : Portfolio} (hportfolio : wallet.portfolios[index]? = some portfolio) (id : Id)
    (doc : Document) :
    ((wallet.setPortfolio index (portfolio.store id doc)).portfolioAt index).getDocument id =
      .ok doc := by
  rw [portfolioAt_setPortfolio hportfolio, Portfolio.getDocument_eq_ok, Portfolio.store,
    StdMap.lookup_insert, if_pos rfl]

namespace SecurityWalletServer

theorem checkUsages_eq_ok {allowedUsageIds usages : StdSet UsageId} :
    checkUsages allowedUsageIds usages = .ok () ↔ ∀ usage ∈ usages, usage ∈ allowedUsageIds := by
  unfold checkUsages
  cases hfind : usages.toList.find? fun usage => ¬ allowedUsageIds.contains usage with
  | none =>
      rw [List.find?_eq_none] at hfind
      simpa [pure, Except.pure] using hfind
  | some usage =>
      have hmem := List.mem_of_find?_eq_some hfind
      have hnot := List.find?_some hfind
      simp only [throw, throwThe, MonadExceptOf.throw, reduceCtorEq, false_iff, not_forall]
      exact ⟨usage, Std.ExtTreeSet.mem_toList.1 hmem, by simpa using hnot⟩

theorem checkGlobalAccess_eq_ok {usages : Except Exn (StdSet UsageId)} {whatArg : String}
    {allowedUsageIds : StdSet UsageId} :
    checkGlobalAccess usages whatArg = .ok allowedUsageIds ↔
      usages = .ok allowedUsageIds ∧ allowedUsageIds.size ≠ 0 := by
  unfold checkGlobalAccess
  rw [bind_eq_ok]
  constructor
  · rintro ⟨found, hfound, hrest⟩
    by_cases hsize : found.size = 0
    · rw [if_pos hsize] at hrest
      cases hrest
    · rw [if_neg hsize] at hrest
      cases hrest
      exact ⟨hfound, hsize⟩
  · rintro ⟨hfound, hsize⟩
    refine ⟨allowedUsageIds, hfound, ?_⟩
    rw [if_neg hsize]
    rfl

/-- Writing a portfolio back as it was read changes nothing. -/
theorem setPortfolio_unchanged {server : SecurityWalletServer} {index : Nat}
    {portfolio : Portfolio} (hportfolio : server.activeWallet.portfolios[index]? = some portfolio) :
    { server with activeWallet := server.activeWallet.setPortfolio index portfolio } = server := by
  rw [SecurityWallet.setPortfolio_self hportfolio]

variable [Platform]

/-- The server after a change of a portfolio: saved and published. -/
def commit (server : SecurityWalletServer) (index : Nat) (portfolio : Portfolio)
    (uuids : UuidSource) (notification : SerializationInfo) : SecurityWalletServer :=
  let wallet := server.activeWallet.setPortfolio index portfolio
  { server with
    activeWallet :=
      { wallet with
        disk.database :=
          some (Cxxtools.serialize true (SecurityWallet.databaseTree wallet.portfolios)) }
    uuids
    published := server.published ++ [[serialize notification]] }

/-- The sender produces the usages in the portfolio of the name, which is at the place. -/
structure ProducerAccess (wallet : SecurityWallet) (sender : Sender) (portfolioName : String)
    (allowedUsageIds : StdSet UsageId) (index : Nat) (portfolio : Portfolio) : Prop where
  rights : wallet.producerUsages portfolioName sender = .ok allowedUsageIds
  nonempty : allowedUsageIds.size ≠ 0
  place : wallet.getPortfolio portfolioName = .ok index
  lookup : wallet.portfolios[index]? = some portfolio
  named : portfolio.name = portfolioName

theorem ProducerAccess.check {wallet : SecurityWallet} {sender : Sender} {portfolioName : String}
    {allowedUsageIds : StdSet UsageId} {index : Nat} {portfolio : Portfolio}
    (haccess : ProducerAccess wallet sender portfolioName allowedUsageIds index portfolio) :
    checkGlobalAccess (wallet.producerUsages portfolioName sender)
        "You do not have access to this command" =
      .ok allowedUsageIds :=
  checkGlobalAccess_eq_ok.2 ⟨haccess.rights, haccess.nonempty⟩

/-- The document of a CREATE under the id it is given. -/
def newDocument (server : SecurityWalletServer) (portfolio : Portfolio) (doc : Document) :
    Document :=
  { doc with id := (server.uuids.next portfolio.usedIds).1 }

/-- The successful changes with the reply and the state they end in. -/
inductive Change (server : SecurityWalletServer) (sender : Sender) :
    Command → List String → String → SecurityWalletServer → Prop
  | create {portfolioName document rest allowedUsageIds index portfolio si doc}
      (haccess : ProducerAccess server.activeWallet sender portfolioName allowedUsageIds index
        portfolio)
      (hsi : deserialize (strToBytes document) = .ok si)
      (hread : Document.read si none = .ok doc)
      (hvalid : doc.validate = .ok ())
      (husages : ∀ usage ∈ doc.usages, usage ∈ allowedUsageIds)
      (hname : portfolio.mapNameDocuments.contains doc.name = false) :
      Change server sender .create (portfolioName :: document :: rest)
        (newDocument server portfolio doc).id
        (commit server index
          (portfolio.store (newDocument server portfolio doc).id (newDocument server portfolio doc))
          (server.uuids.next portfolio.usedIds).2
          (notificationOnCreate portfolioName (newDocument server portfolio doc)))
  | delete {portfolioName id rest allowedUsageIds index portfolio doc}
      (haccess : ProducerAccess server.activeWallet sender portfolioName allowedUsageIds index
        portfolio)
      (hdoc : portfolio.documents[id]? = some doc)
      (husages : ∀ usage ∈ doc.usages, usage ∈ allowedUsageIds) :
      Change server sender .delete (portfolioName :: id :: rest) "OK"
        (commit server index (portfolio.removed id doc) server.uuids
          (notificationOnDelete portfolioName doc))
  | update {portfolioName document rest allowedUsageIds index portfolio si received oldDoc merged}
      (haccess : ProducerAccess server.activeWallet sender portfolioName allowedUsageIds index
        portfolio)
      (hsi : deserialize (strToBytes document) = .ok si)
      (hread : Document.read si none = .ok received)
      (hold : portfolio.documents[received.id]? = some oldDoc)
      (husages : ∀ usage ∈ differenceBetween2UsagesIdSet received.usages oldDoc.usages,
        usage ∈ allowedUsageIds)
      (hmerge : Document.read si (some oldDoc) = .ok merged)
      (hvalid : merged.validate = .ok ())
      (hstored : portfolio.documents[merged.id]? = some oldDoc)
      (hname : merged.name = oldDoc.name ∨
        portfolio.mapNameDocuments.contains merged.name = false) :
      Change server sender .update (portfolioName :: document :: rest) "OK"
        (commit server index (portfolio.replaced oldDoc merged) server.uuids
          (notificationOnUpdate portfolioName oldDoc received))

theorem producerAccess {server : SecurityWalletServer} {sender : Sender} {portfolioName : String}
    {whatArg : String} {allowedUsageIds : StdSet UsageId} {index : Nat}
    (hrights : checkGlobalAccess (server.activeWallet.producerUsages portfolioName sender) whatArg =
      .ok allowedUsageIds)
    (hplace : server.activeWallet.getPortfolio portfolioName = .ok index) :
    ∃ portfolio, ProducerAccess server.activeWallet sender portfolioName allowedUsageIds index
        portfolio ∧ server.activeWallet.portfolioAt index = portfolio := by
  obtain ⟨portfolio, hportfolio, hname, -⟩ := SecurityWallet.getPortfolio_eq_ok.1 hplace
  obtain ⟨husages, hnonempty⟩ := checkGlobalAccess_eq_ok.1 hrights
  exact ⟨portfolio, ⟨husages, hnonempty, hplace, hportfolio, hname⟩,
    SecurityWallet.portfolioAt_eq hportfolio⟩

theorem handleDelete_ensures (sender : Sender) (params : List String)
    (server : SecurityWalletServer) :
    Ensures (handleDelete sender params) server (Change server sender .delete params)
      (fun _ next => next = server) := by
  unfold handleDelete
  split
  · next portfolioName id rest =>
      simp only [ensures_bind, ensures_get, ensures_liftM, onPortfolio, onWallet, ensures_zoom,
        withoutUuids, sendNotificationOnDelete, publish, SecurityWallet.save, ensures_modify,
        ensures_pure, implies_true, and_true]
      intro allowedUsageIds hrights index hplace doc hdoc _ husages
      obtain ⟨portfolio, haccess, hat⟩ := producerAccess hrights hplace
      rw [hat] at hdoc ⊢
      rw [Portfolio.getDocument_eq_ok] at hdoc
      rw [Ensures, Portfolio.remove_exec, hdoc]
      exact Change.delete haccess hdoc (checkUsages_eq_ok.1 husages)
  · rfl

theorem handleCreate_ensures (sender : Sender) (params : List String)
    (server : SecurityWalletServer) :
    Ensures (handleCreate sender params) server (Change server sender .create params)
      (fun _ next => next = server) := by
  unfold handleCreate
  split
  · next portfolioName document rest =>
      simp only [ensures_bind, ensures_get, ensures_liftM, onPortfolio, onWallet, ensures_zoom,
        sendNotificationOnCreate, publish, SecurityWallet.save, ensures_modify, ensures_pure,
        implies_true, and_true]
      intro allowedUsageIds hrights index hplace si hsi doc hread _ hvalid _ husages
      obtain ⟨portfolio, haccess, hat⟩ := producerAccess hrights hplace
      rw [hat, Ensures, Portfolio.add_exec]
      cases hname : portfolio.mapNameDocuments.contains doc.name with
      | true => exact setPortfolio_unchanged haccess.lookup
      | false =>
          have hfound := SecurityWallet.getDocument_store haccess.lookup
            (newDocument server portfolio doc).id (newDocument server portfolio doc)
          constructor
          · intro found hgetDocument
            obtain rfl := Except.ok.inj (hfound.symm.trans hgetDocument)
            exact Change.create haccess hsi hread hvalid (checkUsages_eq_ok.1 husages) hname
          · intro e herror
            exact absurd (hfound.symm.trans herror) (by simp)
  · rfl

theorem handleUpdate_ensures (sender : Sender) (params : List String)
    (server : SecurityWalletServer) :
    Ensures (handleUpdate sender params) server (Change server sender .update params)
      (fun _ next => next = server) := by
  unfold handleUpdate
  split
  · next portfolioName document rest =>
      simp only [ensures_bind, ensures_get, ensures_liftM, onPortfolio, onWallet, ensures_zoom,
        withoutUuids, sendNotificationOnUpdate, publish, SecurityWallet.save, ensures_modify,
        ensures_pure, implies_true, and_true]
      intro allowedUsageIds hrights index hplace si hsi received hread oldDoc hold _ husages
        merged hmerge _ hvalid
      obtain ⟨portfolio, haccess, hat⟩ := producerAccess hrights hplace
      rw [hat, Portfolio.getDocument_eq_ok] at hold
      have hid : merged.id = received.id := by
        have hmergeId := (Document.read_identity hmerge).1
        exact Except.ok.inj (hmergeId.symm.trans (Document.read_identity hread).1)
      rw [hat, Ensures, Portfolio.update_exec, hid, hold]
      dsimp only
      by_cases hname : merged.name ≠ oldDoc.name ∧
          portfolio.mapNameDocuments.contains merged.name = true
      · rw [if_pos hname]
        exact setPortfolio_unchanged haccess.lookup
      · rw [if_neg hname]
        refine Change.update haccess hsi hread hold (checkUsages_eq_ok.1 husages) hmerge hvalid
          (by rwa [hid]) ?_
        rw [← Bool.not_eq_true]
        tauto
  · rfl

/-- The handler of a change that passes its checks makes it. -/
theorem Change.exec_handler {server next : SecurityWalletServer} {sender : Sender}
    {command : Command} {params : List String} {result : String}
    (hchange : Change server sender command params result next) :
    (handler command sender params).exec server = (.ok result, next) := by
  cases hchange with
  | @create portfolioName document rest allowedUsageIds index portfolio si doc haccess hsi hread
      hvalid husages hname =>
      have hfound := SecurityWallet.getDocument_store haccess.lookup
        (newDocument server portfolio doc).id (newDocument server portfolio doc)
      rw [handler, handleCreate, exec_bind_ok (exec_get _)]
      dsimp only
      rw [exec_bind_ok (exec_liftM_ok haccess.check _),
        exec_bind_ok (exec_liftM_ok haccess.place _), exec_bind_ok (exec_liftM_ok hsi _),
        exec_bind_ok (exec_liftM_ok hread _), exec_bind_ok (exec_liftM_ok hvalid _),
        exec_bind_ok (exec_liftM_ok (checkUsages_eq_ok.2 husages) _), onPortfolio, exec_bind,
        exec_zoom, SecurityWallet.portfolioAt_eq haccess.lookup, Portfolio.add_exec, hname]
      simp only [Bool.false_eq_true, if_false]
      rw [onWallet, exec_bind, exec_zoom, SecurityWallet.save, exec_modify]
      dsimp only
      rw [exec_bind_ok (exec_get _)]
      exact (exec_bind_ok (exec_liftM_ok hfound _) _).trans rfl
  | @delete portfolioName id rest allowedUsageIds index portfolio doc haccess hdoc husages =>
      have hget : (server.activeWallet.portfolioAt index).getDocument id = .ok doc := by
        rw [SecurityWallet.portfolioAt_eq haccess.lookup, Portfolio.getDocument_eq_ok, hdoc]
      rw [handler, handleDelete, exec_bind_ok (exec_get _)]
      dsimp only
      rw [exec_bind_ok (exec_liftM_ok haccess.check _),
        exec_bind_ok (exec_liftM_ok haccess.place _), exec_bind_ok (exec_liftM_ok hget _),
        exec_bind_ok (exec_liftM_ok (checkUsages_eq_ok.2 husages) _), onPortfolio, exec_bind,
        exec_zoom, withoutUuids, exec_zoom, SecurityWallet.portfolioAt_eq haccess.lookup,
        Portfolio.remove_exec, hdoc]
      rfl
  | @update portfolioName document rest allowedUsageIds index portfolio si received oldDoc merged
      haccess hsi hread hold husages hmerge hvalid hstored hname =>
      have hget : (server.activeWallet.portfolioAt index).getDocument received.id = .ok oldDoc := by
        rw [SecurityWallet.portfolioAt_eq haccess.lookup, Portfolio.getDocument_eq_ok, hold]
      have hfree : ¬ (merged.name ≠ oldDoc.name ∧
          portfolio.mapNameDocuments.contains merged.name = true) := by
        rw [← Bool.not_eq_true] at hname
        tauto
      rw [handler, handleUpdate, exec_bind_ok (exec_get _)]
      dsimp only
      rw [exec_bind_ok (exec_liftM_ok haccess.check _),
        exec_bind_ok (exec_liftM_ok haccess.place _), exec_bind_ok (exec_liftM_ok hsi _),
        exec_bind_ok (exec_liftM_ok hread _), exec_bind_ok (exec_liftM_ok hget _),
        exec_bind_ok (exec_liftM_ok (checkUsages_eq_ok.2 husages) _),
        exec_bind_ok (exec_liftM_ok hmerge _), exec_bind_ok (exec_liftM_ok hvalid _), onPortfolio,
        exec_bind, exec_zoom, withoutUuids, exec_zoom,
        SecurityWallet.portfolioAt_eq haccess.lookup, Portfolio.update_exec, hstored]
      dsimp only
      rw [if_neg hfree]
      rfl

/-! ### Reading commands -/

/-- The computation leaves the server as it is, whichever way it ends. -/
def ReadsOnly {α : Type} (act : Effect Exn SecurityWalletServer α) : Prop :=
  ∀ server, Ensures act server (fun _ next => next = server) (fun _ next => next = server)

theorem handleGetUsages_readsOnly
    (usagesOf : SecurityWallet → String → ClientId → Except Exn (StdSet UsageId))
    (sender : Sender) (params : List String) :
    ReadsOnly (handleGetUsages usagesOf sender params) := by
  intro server
  unfold handleGetUsages
  split
  · simp only [ensures_bind, ensures_get, ensures_liftM, ensures_pure, implies_true, and_true]
  · rfl

theorem handleGetWithSecret_readsOnly (find : Portfolio → String → Except Exn Document)
    (sender : Sender) (params : List String) :
    ReadsOnly (handleGetWithSecret find sender params) := by
  intro server
  unfold handleGetWithSecret
  split
  · simp only [ensures_bind, ensures_get, ensures_liftM, ensures_ite, ensures_throw, ensures_pure,
      implies_true, and_self]
  · rfl

theorem handleGetWithoutSecret_readsOnly (find : Portfolio → String → Except Exn Document)
    (sender : Sender) (params : List String) :
    ReadsOnly (handleGetWithoutSecret find sender params) := by
  intro server
  unfold handleGetWithoutSecret
  split
  · simp only [ensures_bind, ensures_get, ensures_liftM, ensures_pure, implies_true, and_true]
  · rfl

theorem serializeListDocumentsPublic_readsOnly (portfolioName : String) (usages : StdSet UsageId) :
    ReadsOnly (serializeListDocumentsPublic portfolioName usages) := by
  intro server
  simp only [serializeListDocumentsPublic, ensures_bind, ensures_get, ensures_liftM, ensures_pure,
    implies_true, and_true]

theorem serializeListDocumentsPrivate_readsOnly (portfolioName : String)
    (usages : StdSet UsageId) :
    ReadsOnly (serializeListDocumentsPrivate portfolioName usages) := by
  intro server
  simp only [serializeListDocumentsPrivate, ensures_bind, ensures_get, ensures_liftM, ensures_pure,
    implies_true, and_true]

theorem handleGetListDocumentsWithSecret_readsOnly (sender : Sender) (params : List String) :
    ReadsOnly (handleGetListDocumentsWithSecret sender params) := by
  intro server
  unfold handleGetListDocumentsWithSecret
  split
  · rfl
  · simp only [ensures_bind, ensures_get, ensures_liftM, ensures_ite, ensures_throw, implies_true,
      and_self, serializeListDocumentsPrivate_readsOnly _ _ server]

theorem handleGetListDocumentsWithoutSecret_readsOnly (sender : Sender) (params : List String) :
    ReadsOnly (handleGetListDocumentsWithoutSecret sender params) := by
  intro server
  unfold handleGetListDocumentsWithoutSecret
  split
  · rfl
  · simp only [ensures_bind, ensures_get, ensures_liftM, ensures_ite, ensures_throw, implies_true,
      and_self, serializeListDocumentsPublic_readsOnly _ _ server]

/-- The commands that change documents. -/
def isWriting : Command → Bool
  | .create | .delete | .update => true
  | _ => false

theorem handler_readsOnly {command : Command} (hreading : isWriting command = false)
    (sender : Sender) (params : List String) : ReadsOnly (handler command sender params) := by
  cases command with
  | getPortfolioList => exact fun _ => rfl
  | getConsumerUsages => exact handleGetUsages_readsOnly _ sender params
  | getProducerUsages => exact handleGetUsages_readsOnly _ sender params
  | getListWithSecret => exact handleGetListDocumentsWithSecret_readsOnly sender params
  | getListWithoutSecret => exact handleGetListDocumentsWithoutSecret_readsOnly sender params
  | getWithoutSecret => exact handleGetWithoutSecret_readsOnly _ sender params
  | getWithoutSecretByName => exact handleGetWithoutSecret_readsOnly _ sender params
  | getWithSecret => exact handleGetWithSecret_readsOnly _ sender params
  | getWithSecretByName => exact handleGetWithSecret_readsOnly _ sender params
  | create | delete | update => exact absurd hreading (by decide)

theorem handler_ensures {command : Command} (hwriting : isWriting command = true)
    (sender : Sender) (params : List String) (server : SecurityWalletServer) :
    Ensures (handler command sender params) server (Change server sender command params)
      (fun _ next => next = server) := by
  cases command with
  | create => exact handleCreate_ensures sender params server
  | delete => exact handleDelete_ensures sender params server
  | update => exact handleUpdate_ensures sender params server
  | _ => exact absurd hwriting (by decide)

/-- How a request can end. -/
inductive Outcome (request : Request) (server : SecurityWalletServer) :
    List String → SecurityWalletServer → Prop
  | failed (e : Exn) : Outcome request server (errorReply e) server
  | ignored {cmd params} (hpayload : request.payload = cmd :: params)
      (hcmd : cmd = "ERROR" ∨ cmd = "OK") : Outcome request server [] server
  | read {command params} (result : String) (hpayload : request.payload = Command.name command :: params)
      (hreading : isWriting command = false) : Outcome request server [result] server
  | changed {command params result next}
      (hpayload : request.payload = Command.name command :: params)
      (hwriting : isWriting command = true)
      (hchange : Change server request.sender command params result next) :
      Outcome request server [result] next

theorem processRequest_ensures (request : Request) (server : SecurityWalletServer) :
    Ensures (processRequest request) server (Outcome request server)
      (fun _ next => next = server) := by
  unfold processRequest
  split
  · rfl
  · next cmd params hpayload =>
      split
      · next hcmd => exact .ignored hpayload hcmd
      · split
        · rfl
        · next command hcommand =>
            rw [← Command.name_of_ofName? hcommand] at hpayload
            simp only [ensures_bind, ensures_pure]
            cases hwriting : isWriting command with
            | false =>
                refine (handler_readsOnly hwriting _ _ server).imp ?_ fun _ _ h => h
                rintro result _ rfl
                exact .read result hpayload hwriting
            | true =>
                refine (handler_ensures hwriting _ _ server).imp ?_ fun _ _ h => h
                intro result next hchange
                exact .changed hpayload hwriting hchange

theorem processRequest_name (sender : Sender) (command : Command) (params : List String) :
    processRequest ⟨sender, command.name :: params⟩ =
      handler command sender params >>= fun result => return [result] := by
  have hname : ¬ (command.name = "ERROR" ∨ command.name = "OK") := by
    cases command <;> decide
  simp only [processRequest, if_neg hname, Command.ofName?_name]

section Replies

variable {sender : Sender} {command : Command} {params : List String}
  {server next : SecurityWalletServer}

theorem handleRequest_of_ok {result : String}
    (hexec : (handler command sender params).exec server = (.ok result, next)) :
    handleRequest ⟨sender, command.name :: params⟩ server = ([result], next) := by
  rw [handleRequest, processRequest_name, exec_bind_ok hexec]
  rfl

theorem handleRequest_of_error {e : Exn}
    (hexec : (handler command sender params).exec server = (.error e, next)) :
    handleRequest ⟨sender, command.name :: params⟩ server = (errorReply e, next) := by
  rw [handleRequest, processRequest_name, exec_bind_error hexec]

end Replies

/-- Every request ends in one of the ways of `Outcome`. -/
theorem handleRequest_outcome (request : Request) (server : SecurityWalletServer) :
    Outcome request server (handleRequest request server).1 (handleRequest request server).2 := by
  have hensures := processRequest_ensures request server
  unfold Ensures at hensures
  unfold handleRequest
  split at hensures
  · next hexec =>
      rw [hexec]
      exact hensures
  · next hexec =>
      rw [hexec, hensures]
      exact .failed _

/-! ### The document a change is about -/

section Commit

variable {server : SecurityWalletServer} {index : Nat} {portfolio : Portfolio}
  (next : Portfolio) (uuids : UuidSource) (notification : SerializationInfo)

@[simp]
theorem commit_configurations :
    (commit server index next uuids notification).activeWallet.configurations =
      server.activeWallet.configurations := rfl

@[simp]
theorem commit_portfolios :
    (commit server index next uuids notification).activeWallet.portfolios =
      server.activeWallet.portfolios.set index next := rfl

theorem documentAt_commit (hlookup : server.activeWallet.portfolios[index]? = some portfolio)
    (place : Nat) (id : Id) :
    (commit server index next uuids notification).activeWallet.documentAt place id =
      if index = place then next.documents[id]? else server.activeWallet.documentAt place id := by
  have hlength := (List.getElem?_eq_some_iff.1 hlookup).1
  rw [SecurityWallet.documentAt, commit_portfolios, List.getElem?_set]
  by_cases hplace : index = place
  · rw [if_pos hplace, if_pos hlength, if_pos hplace, Option.bind_some]
  · rw [if_neg hplace, if_neg hplace]
    rfl

end Commit

/-- Between the two states one document, at one place under one id, changes. -/
structure Replaces (server next : SecurityWalletServer) (index : Nat) (id : Id)
    (before after : Option Document) : Prop where
  before : server.activeWallet.documentAt index id = before
  after : next.activeWallet.documentAt index id = after
  others : ∀ place other, ¬ (place = index ∧ other = id) →
    next.activeWallet.documentAt place other = server.activeWallet.documentAt place other
  places : ∀ place, place ≠ index →
    next.activeWallet.portfolios[place]? = server.activeWallet.portfolios[place]?

theorem replaces_commit {server : SecurityWalletServer} {index : Nat} {portfolio next : Portfolio}
    {id : Id} {before after : Option Document}
    (hlookup : server.activeWallet.portfolios[index]? = some portfolio) (uuids : UuidSource)
    (notification : SerializationInfo) (hbefore : portfolio.documents[id]? = before)
    (hafter : next.documents[id]? = after)
    (hothers : ∀ other, other ≠ id → next.documents[other]? = portfolio.documents[other]?) :
    Replaces server (commit server index next uuids notification) index id before after where
  before := by rw [SecurityWallet.documentAt, hlookup, Option.bind_some, hbefore]
  after := by rw [documentAt_commit next uuids notification hlookup, if_pos rfl, hafter]
  others := by
    intro place other hne
    rw [documentAt_commit next uuids notification hlookup]
    split
    · next heq =>
        subst heq
        rw [SecurityWallet.documentAt, hlookup, Option.bind_some]
        exact hothers other fun hid => hne ⟨rfl, hid⟩
    · rfl
  places := by
    intro place hne
    rw [commit_portfolios, List.getElem?_set, if_neg hne.symm]

section Kinds

variable {server : SecurityWalletServer} {index : Nat} {portfolio : Portfolio} {doc oldDoc : Document}
  (hlookup : server.activeWallet.portfolios[index]? = some portfolio) (uuids : UuidSource)
  (notification : SerializationInfo)

include hlookup

theorem replaces_store (hfresh : portfolio.documents[doc.id]? = none) :
    Replaces server (commit server index (portfolio.store doc.id doc) uuids notification) index
      doc.id none (some doc) := by
  apply replaces_commit hlookup uuids notification hfresh
  · rw [Portfolio.store, StdMap.lookup_insert, if_pos rfl]
  · intro other hne
    rw [Portfolio.store, StdMap.lookup_insert, if_neg hne.symm]

theorem replaces_removed {id : Id} (hdoc : portfolio.documents[id]? = some doc) :
    Replaces server (commit server index (portfolio.removed id doc) uuids notification) index id
      (some doc) none := by
  apply replaces_commit hlookup uuids notification hdoc
  · rw [Portfolio.removed, StdMap.lookup_erase, if_pos rfl]
  · intro other hne
    rw [Portfolio.removed, StdMap.lookup_erase, if_neg hne.symm]

theorem replaces_replaced (hstored : portfolio.documents[doc.id]? = some oldDoc) :
    Replaces server (commit server index (portfolio.replaced oldDoc doc) uuids notification) index
      doc.id (some oldDoc) (some doc) := by
  apply replaces_commit hlookup uuids notification hstored
  · rw [Portfolio.replaced, StdMap.lookup_insert, if_pos rfl]
  · intro other hne
    rw [Portfolio.replaced, StdMap.lookup_insert, if_neg hne.symm]

end Kinds

/-- The usages a document, if there is one, carries. -/
def CarriedBy (doc : Option Document) (usage : UsageId) : Prop := ∃ d, doc = some d ∧ usage ∈ d.usages

/-- What the writing commands do to the document they are about. -/
def Shape : Command → Option Document → Option Document → Prop
  | .create, before, after => before = none ∧ after.isSome
  | .delete, before, after => before.isSome ∧ after = none
  | .update, before, after => before.isSome ∧ after.isSome
  | _, _, _ => False

/-- A change is about one document, whose usages it changes only where the sender produces them. -/
theorem Change.replaces {server next : SecurityWalletServer} {sender : Sender} {command : Command}
    {params : List String} {result : String}
    (hchange : Change server sender command params result next) :
    ∃ portfolioName allowedUsageIds index portfolio id before after,
      params.head? = some portfolioName ∧
        ProducerAccess server.activeWallet sender portfolioName allowedUsageIds index portfolio ∧
        Replaces server next index id before after ∧ Shape command before after ∧
        ∀ usage, ¬ (CarriedBy before usage ↔ CarriedBy after usage) →
          usage ∈ allowedUsageIds := by
  cases hchange with
  | @create portfolioName document rest allowedUsageIds index portfolio si doc haccess hsi hread
      hvalid husages hname =>
      have hfresh : portfolio.documents[(newDocument server portfolio doc).id]? = none :=
        portfolio.lookup_next_usedIds server.uuids
      refine ⟨portfolioName, allowedUsageIds, index, portfolio, _, _, _, rfl, haccess,
        replaces_store haccess.lookup _ _ hfresh, ⟨rfl, rfl⟩, fun usage hcarried => ?_⟩
      refine husages usage ?_
      simpa [CarriedBy, newDocument] using hcarried
  | @delete portfolioName id rest allowedUsageIds index portfolio doc haccess hdoc husages =>
      refine ⟨portfolioName, allowedUsageIds, index, portfolio, _, _, _, rfl, haccess,
        replaces_removed haccess.lookup _ _ hdoc, ⟨rfl, rfl⟩, fun usage hcarried => ?_⟩
      refine husages usage ?_
      simpa [CarriedBy] using hcarried
  | @update portfolioName document rest allowedUsageIds index portfolio si received oldDoc merged
      haccess hsi hread hold husages hmerge hvalid hstored hname =>
      have hmerged : merged.usages = received.usages :=
        Except.ok.inj ((Document.read_usages hmerge).symm.trans (Document.read_usages hread))
      refine ⟨portfolioName, allowedUsageIds, index, portfolio, _, _, _, rfl, haccess,
        replaces_replaced haccess.lookup _ _ hstored, ⟨rfl, rfl⟩, fun usage hcarried => ?_⟩
      refine husages usage ?_
      rw [mem_differenceBetween2UsagesIdSet, ← hmerged]
      simpa [CarriedBy, iff_comm] using hcarried

/-! ### What no request changes -/

/-- A change commits a portfolio of the same name in the place of the old one. -/
theorem Change.eq_commit {server next : SecurityWalletServer} {sender : Sender}
    {command : Command} {params : List String} {result : String}
    (hchange : Change server sender command params result next) :
    ∃ index portfolio nextPortfolio uuids notification,
      server.activeWallet.portfolios[index]? = some portfolio ∧
        next = commit server index nextPortfolio uuids notification ∧
        nextPortfolio.name = portfolio.name := by
  cases hchange with
  | create haccess => exact ⟨_, _, _, _, _, haccess.lookup, rfl, rfl⟩
  | delete haccess => exact ⟨_, _, _, _, _, haccess.lookup, rfl, rfl⟩
  | update haccess => exact ⟨_, _, _, _, _, haccess.lookup, rfl, rfl⟩

/-- Same configurations and, place by place, portfolios of the same names. -/
def SameFrame (server next : SecurityWalletServer) : Prop :=
  next.activeWallet.configurations = server.activeWallet.configurations ∧
    next.activeWallet.portfolios.map Portfolio.name =
      server.activeWallet.portfolios.map Portfolio.name

theorem Change.sameFrame {server next : SecurityWalletServer} {sender : Sender}
    {command : Command} {params : List String} {result : String}
    (hchange : Change server sender command params result next) : SameFrame server next := by
  obtain ⟨index, portfolio, nextPortfolio, uuids, notification, hlookup, rfl, hname⟩ :=
    hchange.eq_commit
  refine ⟨rfl, ?_⟩
  obtain ⟨hlength, rfl⟩ := List.getElem?_eq_some_iff.1 hlookup
  rw [commit_portfolios, List.map_set, hname, ← List.getElem_map Portfolio.name,
    List.set_getElem_self]
  simpa using hlength

theorem handleRequest_sameFrame (request : Request) (server : SecurityWalletServer) :
    SameFrame server (handleRequest request server).2 := by
  have houtcome := handleRequest_outcome request server
  generalize (handleRequest request server).1 = frames at houtcome
  generalize (handleRequest request server).2 = next at houtcome ⊢
  cases houtcome with
  | changed _ _ hchange => exact hchange.sameFrame
  | _ => exact ⟨rfl, rfl⟩

end SecurityWalletServer

end Secw
