import SecurityWallet.Proof.SecretReads
import SecurityWallet.Proof.Settled
import SecurityWallet.Proof.VaultDocuments
import SecurityWallet.Site

/-!
# Reading from a vault

The server shows a vault: its portfolios have the documents of the folders, and its configurations
give the rights. What a client is told when it reads is then what the vault says, and the server
stays as it is.
-/

open Foundation SerializationInfo Effect

namespace Secw

/-! ### What a client is told -/

section Told

variable [Platform]

/-- A call leaves the server and tells the client the result. -/
def Call.Tells {α : Type} (act : Call α) (server : SecurityWalletServer)
    (result : Except Refusal α) : Prop :=
  (act.exec server).1.mapError Refusal.of = result ∧ (act.exec server).2 = server

omit [Platform] in
theorem Call.Tells.map {α β : Type} {act : Call α} {server : SecurityWalletServer}
    {result : Except Refusal α} (htells : Call.Tells act server result) (f : α → β) :
    Call.Tells (f <$> act) server (result.map f) := by
  obtain ⟨hresult, hserver⟩ := htells
  unfold Call.Tells
  rw [exec_map]
  exact ⟨by rw [← hresult, mapError_map], hserver⟩

omit [Platform] in
theorem Call.Tells.exec {α : Type} {act : Call α} {server : SecurityWalletServer}
    {result : Except Refusal α} (htells : Call.Tells act server result) :
    ∃ outcome, act.exec server = (outcome, server) ∧ outcome.mapError Refusal.of = result :=
  ⟨(act.exec server).1, Prod.ext rfl htells.2, htells.1⟩

/-- An exception that the server does not describe is not described to the client. -/
theorem Refusal.of_throwSecwException_empty [CxxtoolsEmptyText] :
    Refusal.of (throwSecwException "") = .undescribed := by
  obtain ⟨what, hwhat⟩ := CxxtoolsEmptyText.deserialize_nil
  have hbytes : strToBytes "" = [] := rfl
  rw [throwSecwException, readException, hbytes, hwhat]
  rfl

/-- A client is told what a handler returns, or the refusal. -/
theorem tells_of_handler [LawfulCxxtools] [CxxtoolsTexts] [CxxtoolsEmptyText] {α β : Type}
    {client : ClientId} {command : Command} {params : List String} {server : SecurityWalletServer}
    {outcome : Except Exn α} {write : α → SerializationInfo}
    (read : SerializationInfo → Except Exn β) (seen : α → β)
    (hexec : (SecurityWalletServer.handler command client params).exec server =
      (outcome.map fun a => serialize (write a), server))
    (hread : ∀ a, read (write a) = .ok (seen a)) :
    Call.Tells (do
        let frames ← ClientAccessor.sendCommand client command params
        ClientAccessor.receive read frames) server
      ((outcome.map seen).mapError Refusal.of) := by
  unfold Call.Tells
  cases outcome with
  | ok a =>
      rw [Except.map] at hexec
      rw [exec_bind_ok (ClientAccessor.sendCommand_of_ok hexec
        (CxxtoolsTexts.serialize_ne_error false _)), exec_liftM,
        ClientAccessor.receive_serialize (hread a)]
      exact ⟨rfl, rfl⟩
  | error e =>
      rw [Except.map] at hexec
      cases e with
      | secw exception =>
          rw [exec_bind_error (ClientAccessor.sendCommand_of_error hexec)]
          exact ⟨rfl, rfl⟩
      | std what =>
          rw [exec_bind_error (ClientAccessor.sendCommand_of_std hexec)]
          exact ⟨congrArg Except.error Refusal.of_throwSecwException_empty, rfl⟩

end Told

/-! ### Folders and portfolios -/

/-- The folder has the documents of the portfolio. -/
structure Folder.Of [Certificates] (folder : Folder) (portfolio : Portfolio) : Prop where
  rows : folder.rows = portfolio.documents.mapValues Document.content
  consistent : portfolio.Consistent
  loadable : portfolio.Loadable

namespace Folder.Of

variable [Certificates] {folder : Folder} {portfolio : Portfolio}

theorem lookup (hof : folder.Of portfolio) (id : Id) :
    folder.rows[id]? = portfolio.documents[id]?.map Document.content := by
  rw [hof.rows, StdMap.lookup_mapValues]

theorem list (hof : folder.Of portfolio) :
    folder.list = portfolio.getListDocuments.map Document.content := by
  rw [NamedTable.list, hof.rows, StdMap.valueList_mapValues]
  rfl

theorem ids (hof : folder.Of portfolio) : folder.ids = portfolio.usedIds := by
  rw [Folder.ids, hof.rows, StdMap.keys_mapValues, Portfolio.usedIds]

theorem getDocument (hof : folder.Of portfolio) (id : Id) :
    ((portfolio.getDocument id).map Document.content).mapError Refusal.of =
      folder.get (.id id) := by
  rw [Folder.get, hof.lookup, Portfolio.getDocument]
  cases portfolio.documents[id]? <;> rfl

/-- The second index finds what a search of the folder finds. -/
theorem getDocumentByName (hof : folder.Of portfolio) (name : String) :
    ((portfolio.getDocumentByName name).map Document.content).mapError Refusal.of =
      folder.get (.name name) := by
  have hfind : folder.find? name = (portfolio.mapNameDocuments[name]?).map Document.content := by
    cases hlookup : portfolio.mapNameDocuments[name]? with
    | some doc =>
        obtain ⟨hname, id, hid⟩ := (hof.consistent.indexes.lookup name doc).1 hlookup
        rw [Option.map_some, NamedTable.find?_eq_some]
        refine ⟨hname, ?_⟩
        rw [Document.content_id, hof.consistent.keyed hid, hof.lookup, hid, Option.map_some]
    | none =>
        rw [Option.map_none, NamedTable.find?_eq_none]
        intro id doc hdoc hname
        rw [hof.lookup, Option.map_eq_some_iff] at hdoc
        obtain ⟨stored, hstored, rfl⟩ := hdoc
        have htaken := (hof.consistent.indexes.lookup name stored).2 ⟨hname, id, hstored⟩
        rw [hlookup] at htaken
        cases htaken
  rw [Folder.get, hfind, Portfolio.getDocumentByName]
  cases portfolio.mapNameDocuments[name]? <;> rfl

theorem exists_of (hconsistent : portfolio.Consistent) (hloadable : portfolio.Loadable) :
    ∃ folder : Folder, folder.Of portfolio := by
  have hlookup : ∀ {id : Id} {doc : Document},
      (portfolio.documents.mapValues Document.content)[id]? = some doc →
        ∃ stored, portfolio.documents[id]? = some stored ∧ stored.content = doc := by
    intro id doc hdoc
    rwa [StdMap.lookup_mapValues, Option.map_eq_some_iff] at hdoc
  refine ⟨⟨⟨portfolio.documents.mapValues Document.content, ?_, ?_⟩, ?_⟩, rfl, hconsistent,
    hloadable⟩
  · intro id doc hdoc
    obtain ⟨stored, hstored, rfl⟩ := hlookup hdoc
    exact (Document.content_id stored).trans (hconsistent.keyed hstored)
  · intro id other doc otherDoc hdoc hother hname
    obtain ⟨stored, hstored, rfl⟩ := hlookup hdoc
    obtain ⟨otherStored, hotherStored, rfl⟩ := hlookup hother
    exact hconsistent.indexes.unique hstored hotherStored hname
  · intro id doc hdoc
    obtain ⟨stored, hstored, rfl⟩ := hlookup hdoc
    exact ⟨Document.validate_content (hloadable.valid hstored), rfl⟩

end Folder.Of

/-! ### Wallets and vaults -/

variable [Platform]

def Rights.of (configuration : PortfolioConfiguration) : Rights where
  usages := configuration.getAllUsageId
  consumers client := (configuration.getUsageIdsForConsummer client).mapError Refusal.of
  producers client := (configuration.getUsageIdsForProducer client).mapError Refusal.of

/-- The portfolios have the documents of the folders, and the configurations give the rights. -/
structure SecurityWallet.Shows (wallet : SecurityWallet) (vault : Vault) : Prop where
  settled : wallet.Settled
  rights : vault.rights = wallet.configurations.mapValues Rights.of
  folders : ∀ name, Option.Rel Folder.Of (vault.folders name)
    (wallet.portfolios.find? fun portfolio => portfolio.name = name)

namespace SecurityWallet.Shows

variable {wallet : SecurityWallet} {vault : Vault}

theorem getConfiguration (hshows : wallet.Shows vault) (name : String) :
    ((wallet.getConfiguration name).map Rights.of).mapError Refusal.of = vault.rightsTo name := by
  rw [Vault.rightsTo, hshows.rights, StdMap.lookup_mapValues, SecurityWallet.getConfiguration]
  cases wallet.configurations[name]? <;> rfl

theorem consumerUsages (hshows : wallet.Shows vault) (name : String) (client : ClientId) :
    (wallet.consumerUsages name client).mapError Refusal.of = vault.consumerUsages name client := by
  rw [Vault.consumerUsages, ← hshows.getConfiguration, SecurityWallet.consumerUsages]
  cases wallet.getConfiguration name <;> rfl

theorem producerUsages (hshows : wallet.Shows vault) (name : String) (client : ClientId) :
    (wallet.producerUsages name client).mapError Refusal.of = vault.producerUsages name client := by
  rw [Vault.producerUsages, ← hshows.getConfiguration, SecurityWallet.producerUsages]
  cases wallet.getConfiguration name <;> rfl

end SecurityWallet.Shows

/-- The name finds the portfolio at the place and the folder that has its documents. -/
structure SecurityWallet.ShowsAt (wallet : SecurityWallet) (vault : Vault) (name : String)
    (folder : Folder) (index : Nat) (portfolio : Portfolio) : Prop where
  found : vault.folder name = .ok folder
  place : wallet.getPortfolio name = .ok index
  lookup : wallet.portfolios[index]? = some portfolio
  shown : folder.Of portfolio

namespace SecurityWallet.Shows

variable {wallet : SecurityWallet} {vault : Vault}

/-- A name finds a portfolio and its folder, or neither. -/
theorem folder_cases (hshows : wallet.Shows vault) (name : String) :
    (∃ folder index portfolio, wallet.ShowsAt vault name folder index portfolio) ∨
      vault.folder name = .error (.described (secwUnknownPortfolioException name)) ∧
        wallet.getPortfolio name = .error (.secw (secwUnknownPortfolioException name)) := by
  have hrel := hshows.folders name
  rw [List.find?_eq_bind_findIdx?_getElem?] at hrel
  cases hfind : wallet.portfolios.findIdx? fun portfolio => portfolio.name = name with
  | none =>
      rw [hfind, Option.bind_none] at hrel
      cases hfolder : vault.folders name with
      | none => exact .inr ⟨by rw [Vault.folder, hfolder], by rw [getPortfolio, hfind]⟩
      | some folder =>
          rw [hfolder] at hrel
          cases hrel
  | some index =>
      obtain ⟨hlt, -⟩ := List.findIdx?_eq_some_iff_getElem.1 hfind
      have hlookup := List.getElem?_eq_getElem hlt
      rw [hfind, Option.bind_some, hlookup] at hrel
      cases hfolder : vault.folders name with
      | none =>
          rw [hfolder] at hrel
          cases hrel
      | some folder =>
          rw [hfolder] at hrel
          cases hrel with
          | some hof =>
              exact .inl ⟨folder, index, _, by rw [Vault.folder, hfolder],
                by rw [getPortfolio, hfind], hlookup, hof⟩

/-- A configured name finds a portfolio. -/
theorem of_configuration (hshows : wallet.Shows vault) {name : String}
    {configuration : PortfolioConfiguration}
    (hconfiguration : wallet.getConfiguration name = .ok configuration) :
    ∃ folder index portfolio, wallet.ShowsAt vault name folder index portfolio := by
  refine (hshows.folder_cases name).resolve_right ?_
  rintro ⟨-, hnone⟩
  have hmem : name ∈ wallet.configurations.keys := by
    rw [SecurityWallet.getConfiguration] at hconfiguration
    rw [Std.ExtTreeMap.mem_keys, Std.ExtTreeMap.mem_iff_isSome_getElem?]
    cases hlookup : wallet.configurations[name]? with
    | none =>
        rw [hlookup] at hconfiguration
        cases hconfiguration
    | some _ => rfl
  obtain ⟨portfolio, hportfolio, hname⟩ := hshows.settled.configured name hmem
  unfold SecurityWallet.getPortfolio at hnone
  split at hnone
  · cases hnone
  · next hfind =>
      rw [List.findIdx?_eq_none_iff] at hfind
      exact absurd hname (by simpa using hfind portfolio hportfolio)

theorem of_consumerUsages (hshows : wallet.Shows vault) {name : String} {client : ClientId}
    {usages : StdSet UsageId} (husages : wallet.consumerUsages name client = .ok usages) :
    ∃ folder index portfolio, wallet.ShowsAt vault name folder index portfolio := by
  obtain ⟨configuration, hconfiguration, -⟩ := bind_eq_ok.1 husages
  exact hshows.of_configuration hconfiguration

theorem of_producerUsages (hshows : wallet.Shows vault) {name : String} {client : ClientId}
    {usages : StdSet UsageId} (husages : wallet.producerUsages name client = .ok usages) :
    ∃ folder index portfolio, wallet.ShowsAt vault name folder index portfolio := by
  obtain ⟨configuration, hconfiguration, -⟩ := bind_eq_ok.1 husages
  exact hshows.of_configuration hconfiguration

end SecurityWallet.Shows

/-! ### The reading commands -/

namespace SecurityWalletServer

variable {server : SecurityWalletServer} {vault : Vault} {client : ClientId}
  {portfolioName : String} {folder : Folder} {index : Nat} {portfolio : Portfolio}

omit [Platform] in
theorem checkGlobalAccess_tells (usages : Except Exn (StdSet UsageId)) (whatArg : String) :
    (checkGlobalAccess usages whatArg).mapError Refusal.of =
      Vault.someOf (usages.mapError Refusal.of) whatArg := by
  cases usages with
  | error e => rfl
  | ok usages =>
      by_cases hempty : usages = ∅
      · subst hempty
        rfl
      · have hsize : ¬ usages.size = 0 := by
          rwa [← Std.ExtTreeSet.eq_empty_iff_size_eq_zero]
        change Except.mapError _ (if usages.size = 0 then _ else _) = if usages = ∅ then _ else _
        rw [if_neg hsize, if_neg hempty]
        rfl

omit [Platform] in
theorem hasCommonUsageIds_eq (usages usages' : StdSet UsageId) :
    hasCommonUsageIds usages usages' = decide (StdSet.Meets usages usages') := by
  rw [Bool.eq_iff_iff, hasCommonUsageIds_iff, decide_eq_true_iff, StdSet.Meets]

omit [Platform] in
/-- Both check a document with its secrets in the same way. -/
theorem secretOf_tells (usages : StdSet UsageId) (found : Except Exn Document) :
    ((secretOf (.ok usages) found).map Document.content).mapError Refusal.of =
      Vault.openTo (.ok usages) ((found.map Document.content).mapError Refusal.of) := by
  have haccess := checkGlobalAccess_tells (.ok usages) "You do not have access to this document"
  unfold secretOf Vault.openTo
  dsimp only
  rw [mapError_ok] at haccess
  rw [← haccess]
  cases checkGlobalAccess (.ok usages) "You do not have access to this document" with
  | error e => rfl
  | ok usages =>
      cases found with
      | error e => rfl
      | ok doc =>
          change Except.mapError _ (Except.map _
              (if ¬ hasCommonUsageIds usages doc.usages then _ else _)) =
            if ¬ StdSet.Meets usages doc.usages then _ else _
          rw [hasCommonUsageIds_eq]
          by_cases hmeets : StdSet.Meets usages doc.usages
          · rw [if_neg (by simpa using hmeets), if_neg (not_not.2 hmeets)]
            rfl
          · rw [if_pos (by simpa using hmeets), if_pos hmeets]
            rfl

/-- Where the rights of the sender cannot be told, the handler throws what that throws. -/
theorem handleGetWithSecret_exec_error (find : Portfolio → String → Except Exn Document)
    (key : String) {e : Exn}
    (hrights : server.activeWallet.consumerUsages portfolioName client = .error e) :
    (handleGetWithSecret find client [portfolioName, key]).exec server = (.error e, server) := by
  rw [handleGetWithSecret, exec_bind_ok (exec_get _)]
  dsimp only
  rw [hrights, exec_bind, exec_liftM]
  rfl

theorem handleGetWithSecret_tells (hshows : server.activeWallet.Shows vault) (client : ClientId)
    (portfolioName : String) {find : Portfolio → String → Except Exn Document} {text : String}
    {key : Key}
    (hfind : ∀ folder portfolio, Folder.Of folder portfolio →
      ((find portfolio text).map Document.content).mapError Refusal.of = folder.get key) :
    ∃ outcome : Except Exn Document,
      (handleGetWithSecret find client [portfolioName, text]).exec server =
          (outcome.map fun doc => serialize (doc.fillSerializationInfoWithSecret .null), server) ∧
        (outcome.map Document.content).mapError Refusal.of =
          vault.secret client portfolioName key := by
  have husages := hshows.consumerUsages portfolioName client
  rw [Vault.secret, ← husages]
  cases hrights : server.activeWallet.consumerUsages portfolioName client with
  | error e => exact ⟨.error e, handleGetWithSecret_exec_error find text hrights, rfl⟩
  | ok usages =>
      obtain ⟨folder, index, portfolio, hat⟩ := hshows.of_consumerUsages hrights
      have hexec := handleGetWithSecret_exec client find text ⟨index, hat.place, hat.lookup⟩
      rw [hrights] at hexec
      refine ⟨_, hexec, ?_⟩
      rw [secretOf_tells, hfind folder portfolio hat.shown, hat.found]
      rfl

theorem handleGetWithoutSecret_tells (hshows : server.activeWallet.Shows vault)
    (client : ClientId) (portfolioName : String)
    {find : Portfolio → String → Except Exn Document} {text : String} {key : Key}
    (hfind : ∀ folder portfolio, Folder.Of folder portfolio →
      ((find portfolio text).map Document.content).mapError Refusal.of = folder.get key) :
    ∃ outcome : Except Exn Document,
      (handleGetWithoutSecret find client [portfolioName, text]).exec server =
          (outcome.map fun doc => serialize (doc.fillSerializationInfoWithoutSecret .null),
            server) ∧
        (outcome.map Document.publicView).mapError Refusal.of = vault.view portfolioName key := by
  rw [handleGetWithoutSecret, exec_bind_ok (exec_get _), Vault.view]
  dsimp only
  rcases hshows.folder_cases portfolioName with ⟨folder, index, portfolio, hat⟩ | ⟨hfolder, hplace⟩
  · refine ⟨find portfolio text, ?_, ?_⟩
    · rw [exec_bind_ok (exec_liftM_ok hat.place _), SecurityWallet.portfolioAt_eq hat.lookup,
        exec_bind, exec_liftM]
      cases find portfolio text <;> rfl
    · rw [hat.found]
      change _ = (folder.get key >>= fun doc => pure doc.publicView)
      rw [← hfind folder portfolio hat.shown]
      cases find portfolio text <;> rfl
  · refine ⟨.error (.secw (secwUnknownPortfolioException portfolioName)), ?_, ?_⟩
    · rw [exec_bind, exec_liftM, hplace]
      rfl
    · rw [hfolder]
      rfl

/-! ### Lists -/

/-- The listed documents are those of the folder. -/
theorem filter_list (hof : Folder.Of folder portfolio) {keep keep' : Document → Bool}
    (hkeep : ∀ doc : Document, keep doc = keep' doc.content) :
    (portfolio.getListDocuments.filter keep).map Document.content = folder.list.filter keep' := by
  rw [hof.list, List.filter_map]
  congr 1
  apply List.filter_congr
  intro doc _
  exact hkeep doc

omit [Platform] in
/-- Both choose the usages of which the documents are listed in the same way. -/
theorem listedUsages_tells (usages : StdSet UsageId) (usage : UsageId) :
    (listedUsages (.ok usages) usage).mapError Refusal.of =
      Vault.usagesListed (.ok usages) usage := by
  have haccess := checkGlobalAccess_tells (.ok usages) "You do not have access to this command"
  rw [mapError_ok] at haccess
  unfold listedUsages Vault.usagesListed
  dsimp only
  rw [← haccess]
  cases checkGlobalAccess (.ok usages) "You do not have access to this command" with
  | error e => rfl
  | ok usages =>
      change Except.mapError _ (if ¬ usage.isEmpty then if ¬ usages.contains usage then _ else _
          else _) = if usage = "" then _ else if usage ∉ usages then _ else _
      by_cases hempty : usage = ""
      · rw [if_neg (by simp [hempty]), if_pos hempty]
        rfl
      · rw [if_pos (by simpa using hempty), if_neg hempty]
        by_cases hmem : usage ∈ usages
        · rw [if_neg (by simpa using hmem), if_neg (not_not.2 hmem)]
          rfl
        · rw [if_pos (by simpa using hmem), if_pos hmem]
          rfl

theorem handleGetListDocumentsWithSecret_tells (hshows : server.activeWallet.Shows vault)
    (client : ClientId) (portfolioName : String) (usage : UsageId) :
    ∃ outcome : Except Exn (List Document),
      (handleGetListDocumentsWithSecret client [portfolioName, usage]).exec server =
          (outcome.map fun docs =>
            serialize (ofList (fun doc => doc.fillSerializationInfoWithSecret .null) docs),
            server) ∧
        (outcome.map fun docs => docs.map Document.content).mapError Refusal.of =
          vault.secretsOfUsage client portfolioName usage := by
  have husages := hshows.consumerUsages portfolioName client
  rw [Vault.secretsOfUsage, ← husages]
  cases hrights : server.activeWallet.consumerUsages portfolioName client with
  | error e =>
      refine ⟨.error e, ?_, rfl⟩
      rw [handleGetListDocumentsWithSecret, exec_bind_ok (exec_get _)]
      dsimp only
      rw [hrights, exec_bind, exec_liftM]
      rfl
  | ok usages =>
      obtain ⟨folder, index, portfolio, hat⟩ := hshows.of_consumerUsages hrights
      have hexec := handleGetListDocumentsWithSecret_exec client [usage]
        ⟨index, hat.place, hat.lookup⟩
      rw [hrights, List.headD_cons] at hexec
      refine ⟨(listedUsages (.ok usages) usage).map fun listed =>
        portfolio.getListDocuments.filter fun doc => hasCommonUsageIds doc.usages listed, ?_, ?_⟩
      · rw [hexec]
        cases listedUsages (.ok usages) usage <;> rfl
      · rw [mapError_ok, ← listedUsages_tells, hat.found]
        cases listedUsages (.ok usages) usage with
        | error e => rfl
        | ok listed =>
            refine congrArg Except.ok (filter_list hat.shown fun doc => ?_)
            exact hasCommonUsageIds_eq doc.usages listed

theorem serializeListDocumentsPublic_exec
    (hat : server.activeWallet.ShowsAt vault portfolioName folder index portfolio)
    (usages : StdSet UsageId) :
    (serializeListDocumentsPublic portfolioName usages).exec server =
      (.ok (serialize (ofList (fun doc => doc.fillSerializationInfoWithoutSecret .null)
        (portfolio.getListDocuments.filter fun doc =>
          usages.isEmpty ∨ hasCommonUsageIds doc.usages usages))), server) := by
  rw [serializeListDocumentsPublic, exec_bind_ok (exec_get _)]
  dsimp only
  rw [exec_bind_ok (exec_liftM_ok hat.place _), SecurityWallet.portfolioAt_eq hat.lookup]
  rfl

/-- The documents of one usage, or without one all of them. -/
theorem filter_public (hof : folder.Of portfolio) (usage : UsageId) :
    ((portfolio.getListDocuments.filter fun doc =>
        (if usage = "" then ∅ else {usage} : StdSet UsageId).isEmpty ∨
          hasCommonUsageIds doc.usages (if usage = "" then ∅ else {usage})).map
        Document.publicView) =
      (folder.list.filter fun doc => usage = "" ∨ usage ∈ doc.usages).map Document.publicView := by
  rw [← filter_list hof fun doc => ?_, List.map_map]
  · rfl
  · by_cases hempty : usage = ""
    · simp [hempty]
    · have hmeets : StdSet.Meets doc.usages {usage} ↔ usage ∈ doc.usages := by
        simp [StdSet.Meets]
      have hlisted : ({usage} : StdSet UsageId).isEmpty = false := by simp
      rw [if_neg hempty, hasCommonUsageIds_eq, hlisted]
      simp only [hempty, hmeets, Bool.false_eq_true, decide_eq_true_eq, false_or]
      rfl

theorem handleGetListDocumentsWithoutSecret_tells (hshows : server.activeWallet.Shows vault)
    (client : ClientId) (portfolioName : String) (usage : UsageId) :
    ∃ outcome : Except Exn (List Document),
      (handleGetListDocumentsWithoutSecret client [portfolioName, usage]).exec server =
          (outcome.map fun docs =>
            serialize (ofList (fun doc => doc.fillSerializationInfoWithoutSecret .null) docs),
            server) ∧
        (outcome.map fun docs => docs.map Document.publicView).mapError Refusal.of =
          vault.viewsOfUsage portfolioName usage := by
  rw [handleGetListDocumentsWithoutSecret, exec_bind_ok (exec_get _), Vault.viewsOfUsage,
    ← hshows.getConfiguration]
  dsimp only
  cases hconfiguration : server.activeWallet.getConfiguration portfolioName with
  | error e => exact ⟨.error e, rfl, rfl⟩
  | ok configuration =>
      obtain ⟨folder, index, portfolio, hat⟩ := hshows.of_configuration hconfiguration
      rw [exec_bind_ok (exec_liftM_ok rfl _), List.headD_cons, hat.found]
      by_cases hunknown : usage ≠ "" ∧ usage ∉ configuration.getAllUsageId
      · refine ⟨.error (.secw (secwUnknownUsageIDException usage)), ?_, ?_⟩
        · rw [if_pos (by simpa using hunknown)]
          rfl
        · exact (if_pos hunknown).symm
      · refine ⟨.ok (portfolio.getListDocuments.filter fun doc =>
          (if usage = "" then ∅ else {usage} : StdSet UsageId).isEmpty ∨
            hasCommonUsageIds doc.usages (if usage = "" then ∅ else {usage})), ?_, ?_⟩
        · rw [if_neg (by simpa using hunknown)]
          refine Eq.trans ?_ (serializeListDocumentsPublic_exec hat _)
          by_cases hempty : usage = ""
          · rw [if_neg (by simp [hempty]), if_pos hempty]
          · rw [if_pos (by simpa using hempty), if_neg hempty]
        · refine (congrArg Except.ok (filter_public hat.shown usage)).trans ?_
          exact (if_neg hunknown).symm

end SecurityWalletServer

/-! ### The calls that read -/

section Reading

variable [LawfulCxxtools] [CxxtoolsTexts] [CxxtoolsEmptyText] {server : SecurityWalletServer}
  {vault : Vault}

open SecurityWalletServer

omit [LawfulCxxtools] [CxxtoolsTexts] [CxxtoolsEmptyText] in
theorem readDocuments_ofList {write : Document → SerializationInfo} {seen : Document → Document}
    (hread : ∀ doc, Document.read (write doc) none = .ok (seen doc)) (docs : List Document) :
    ClientAccessor.readDocuments (ofList write docs) = .ok (docs.map seen) := by
  rw [ClientAccessor.readDocuments, ofList, children_arr, mapM_eq_ok, List.forall₂_map_left_iff,
    List.forall₂_map_right_iff]
  exact List.forall₂_same.2 fun doc _ => hread doc

theorem getPortfolioList_tells (hshows : server.activeWallet.Shows vault) (client : ClientId) :
    Call.Tells (ClientAccessor.getPortfolioList client) server (.ok vault.rights.keys) := by
  have hexec : (handler .getPortfolioList client []).exec server =
      ((Except.ok server.activeWallet.getPortfolioNames).map fun names =>
        serialize (ofList .str names), server) := rfl
  rw [hshows.rights, StdMap.keys_mapValues]
  exact tells_of_handler (fun si => liftStd (getList Cxxtools.getString si)) (fun names => names)
    hexec fun names => liftStd_eq_ok.2 (getList_ofList LawfulCxxtools.getString_str names)

theorem getUsages_tells {command : Command} {client : ClientId} {portfolioName : String}
    {usages : Except Exn (StdSet UsageId)}
    (hexec : (handler command client [portfolioName]).exec server =
      (usages.map fun usages => serialize (ofSet usages), server)) :
    Call.Tells (ClientAccessor.getUsages command client portfolioName) server
      (usages.mapError Refusal.of) := by
  have htells := tells_of_handler (fun si => liftStd (getSet si)) (fun usages => usages) hexec
    fun usages => liftStd_eq_ok.2 (getSet_ofSet usages)
  have hsame : usages.map (fun usages => usages) = usages := by cases usages <;> rfl
  rwa [hsame] at htells

omit [LawfulCxxtools] [CxxtoolsTexts] [CxxtoolsEmptyText] in
theorem handleGetUsages_exec
    (usagesOf : SecurityWallet → String → ClientId → Except Exn (StdSet UsageId))
    (client : ClientId) (portfolioName : String) (server : SecurityWalletServer) :
    (handleGetUsages usagesOf client [portfolioName]).exec server =
      ((usagesOf server.activeWallet portfolioName client).map fun usages =>
        serialize (ofSet usages), server) := by
  rw [handleGetUsages, exec_bind_ok (exec_get _)]
  dsimp only
  rw [exec_bind, exec_liftM]
  cases usagesOf server.activeWallet portfolioName client <;> rfl

theorem getConsumerUsages_tells (hshows : server.activeWallet.Shows vault) (client : ClientId)
    (portfolioName : String) :
    Call.Tells (ConsumerAccessor.getConsumerUsages client portfolioName) server
      (vault.consumerUsages portfolioName client) := by
  rw [← hshows.consumerUsages]
  exact getUsages_tells (handleGetUsages_exec SecurityWallet.consumerUsages client portfolioName
    server)

theorem getProducerUsages_tells (hshows : server.activeWallet.Shows vault) (client : ClientId)
    (portfolioName : String) :
    Call.Tells (ProducerAccessor.getProducerUsages client portfolioName) server
      (vault.producerUsages portfolioName client) := by
  rw [← hshows.producerUsages]
  exact getUsages_tells (handleGetUsages_exec SecurityWallet.producerUsages client portfolioName
    server)

theorem getDocumentWithPrivateData_tells (hshows : server.activeWallet.Shows vault)
    (client : ClientId) (portfolioName : String) (id : Id) :
    Call.Tells (ConsumerAccessor.getDocumentWithPrivateData client portfolioName id) server
      (vault.secret client portfolioName (.id id)) := by
  obtain ⟨outcome, hexec, hsecret⟩ := handleGetWithSecret_tells hshows client portfolioName
    fun folder portfolio hof => hof.getDocument id
  rw [← hsecret]
  exact tells_of_handler _ _ hexec fun doc => doc.read_withSecret

theorem getDocumentWithPrivateDataByName_tells (hshows : server.activeWallet.Shows vault)
    (client : ClientId) (portfolioName name : String) :
    Call.Tells (ConsumerAccessor.getDocumentWithPrivateDataByName client portfolioName name) server
      (vault.secret client portfolioName (.name name)) := by
  obtain ⟨outcome, hexec, hsecret⟩ := handleGetWithSecret_tells hshows client portfolioName
    fun folder portfolio hof => hof.getDocumentByName name
  rw [← hsecret]
  exact tells_of_handler _ _ hexec fun doc => doc.read_withSecret

theorem getDocumentWithoutPrivateData_tells (hshows : server.activeWallet.Shows vault)
    (client : ClientId) (portfolioName : String) (id : Id) :
    Call.Tells (ProducerAccessor.getDocumentWithoutPrivateData client portfolioName id) server
      (vault.view portfolioName (.id id)) := by
  obtain ⟨outcome, hexec, hview⟩ := handleGetWithoutSecret_tells hshows client portfolioName
    fun folder portfolio hof => hof.getDocument id
  rw [← hview]
  exact tells_of_handler _ _ hexec fun doc => doc.read_withoutSecret

theorem getDocumentWithoutPrivateDataByName_tells (hshows : server.activeWallet.Shows vault)
    (client : ClientId) (portfolioName name : String) :
    Call.Tells (ProducerAccessor.getDocumentWithoutPrivateDataByName client portfolioName name)
      server (vault.view portfolioName (.name name)) := by
  obtain ⟨outcome, hexec, hview⟩ := handleGetWithoutSecret_tells hshows client portfolioName
    fun folder portfolio hof => hof.getDocumentByName name
  rw [← hview]
  exact tells_of_handler _ _ hexec fun doc => doc.read_withoutSecret

theorem getListDocumentsWithPrivateDataOfUsage_tells (hshows : server.activeWallet.Shows vault)
    (client : ClientId) (portfolioName : String) (usage : UsageId) :
    Call.Tells
      (ConsumerAccessor.getListDocumentsWithPrivateDataOfUsage client portfolioName usage) server
      (vault.secretsOfUsage client portfolioName usage) := by
  obtain ⟨outcome, hexec, hsecrets⟩ :=
    handleGetListDocumentsWithSecret_tells hshows client portfolioName usage
  rw [← hsecrets]
  exact tells_of_handler _ _ hexec (readDocuments_ofList fun doc => doc.read_withSecret)

theorem getListDocumentsWithoutPrivateDataOfUsage_tells
    (hshows : server.activeWallet.Shows vault) (client : ClientId) (portfolioName : String)
    (usage : UsageId) :
    Call.Tells
      (ProducerAccessor.getListDocumentsWithoutPrivateDataOfUsage client portfolioName usage)
      server (vault.viewsOfUsage portfolioName usage) := by
  obtain ⟨outcome, hexec, hviews⟩ :=
    handleGetListDocumentsWithoutSecret_tells hshows client portfolioName usage
  rw [← hviews]
  exact tells_of_handler _ _ hexec (readDocuments_ofList fun doc => doc.read_withoutSecret)

omit [Platform] [LawfulCxxtools] [CxxtoolsTexts] [CxxtoolsEmptyText] in
/-- What the loop of a client over ids leaves out, the vault leaves out. -/
theorem eachOf_cons_of_filtered {read : Id → Except Refusal Document} {id : Id}
    {exception : SecwException} (hread : read id = .error (.described exception))
    (hfiltered : ConsumerAccessor.isFiltered exception = true) (ids : List Id) :
    Vault.eachOf read (id :: ids) = Vault.eachOf read ids := by
  rw [Vault.eachOf, hread]
  cases exception <;>
    first | rfl | simp [ConsumerAccessor.isFiltered, SecwException.errorCode] at hfiltered

omit [Platform] [LawfulCxxtools] [CxxtoolsTexts] [CxxtoolsEmptyText] in
theorem eachOf_cons_of_thrown {read : Id → Except Refusal Document} {id : Id}
    {exception : SecwException} (hread : read id = .error (.described exception))
    (hfiltered : ¬ ConsumerAccessor.isFiltered exception = true) (ids : List Id) :
    Vault.eachOf read (id :: ids) = .error (.described exception) := by
  rw [Vault.eachOf, hread]
  cases exception <;> first | rfl | exact absurd rfl hfiltered

omit [Platform] [LawfulCxxtools] [CxxtoolsTexts] [CxxtoolsEmptyText] in
theorem collect_tells {get : Id → Call Document} {read : Id → Except Refusal Document}
    (hget : ∀ id, Call.Tells (get id) server (read id)) (ids : List Id) :
    Call.Tells (ClientAccessor.collect get ids) server (Vault.eachOf read ids) := by
  induction ids with
  | nil => exact ⟨rfl, rfl⟩
  | cons id ids ih =>
      obtain ⟨outcome, hexec, hread⟩ := (hget id).exec
      obtain ⟨rest, hrest, hresult⟩ := ih.exec
      unfold Call.Tells
      rw [ClientAccessor.collect, exec_bind, exec_tryCatch, exec_map, hexec]
      cases outcome with
      | ok doc =>
          rw [Vault.eachOf, ← hread, ← hresult]
          simp only [Except.map, mapError_ok]
          rw [exec_bind, hrest]
          cases rest <;> exact ⟨rfl, rfl⟩
      | error e =>
          simp only [Except.map]
          cases e with
          | std what =>
              rw [Vault.eachOf, ← hread]
              exact ⟨rfl, rfl⟩
          | secw exception =>
              dsimp only
              by_cases hfiltered : ConsumerAccessor.isFiltered exception = true
              · rw [if_pos hfiltered, exec_pure, eachOf_cons_of_filtered hread.symm hfiltered,
                  ← hresult]
                dsimp only
                rw [exec_bind, hrest]
                cases rest <;> exact ⟨rfl, rfl⟩
              · rw [if_neg hfiltered, exec_throw, eachOf_cons_of_thrown hread.symm hfiltered]
                exact ⟨rfl, rfl⟩

end Reading

end Secw
