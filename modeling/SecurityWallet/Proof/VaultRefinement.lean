import SecurityWallet.Proof.VaultSteps
import SecurityWallet.Proof.VaultWrites

/-!
# A site and its vault

Whatever the clients call, whenever the process is restarted, and whatever is backed up and restored
in between, a site answers what its vault answers.
-/

open Foundation SerializationInfo Effect Machine

namespace Secw

/-! ### Folders that come back -/

theorem Folder.Of.asLoaded [Certificates] {folder : Folder} {portfolio : Portfolio}
    (hof : folder.Of portfolio) : folder.Of portfolio.asLoaded where
  rows := by
    rw [hof.rows, hof.loadable.asLoaded_documents, StdMap.mapValues_mapValues]
    rfl
  consistent := hof.consistent.asLoaded
  loadable := hof.loadable.asLoaded

/-- The folders are those of the portfolios, each under the name that finds it. -/
def FoldersOf [Certificates] (folders : String → Option Folder) (portfolios : List Portfolio) :
    Prop :=
  ∀ name, Option.Rel Folder.Of (folders name) (portfolios.find? fun portfolio =>
    portfolio.name = name)

theorem FoldersOf.asLoaded [Certificates] {folders : String → Option Folder}
    {portfolios : List Portfolio} (hof : FoldersOf folders portfolios) :
    FoldersOf folders (portfolios.map Portfolio.asLoaded) := by
  intro name
  have hname : ((fun portfolio => decide (portfolio.name = name)) ∘ Portfolio.asLoaded) =
      fun portfolio => decide (portfolio.name = name) := rfl
  rw [List.find?_map, hname]
  have hfound := hof name
  generalize folders name = folder at hfound ⊢
  generalize (portfolios.find? fun portfolio => portfolio.name = name) = portfolio at hfound ⊢
  cases hfound with
  | none => exact .none
  | some hfolder => exact .some hfolder.asLoaded

/-- A restore on the same platform drops nothing. -/
theorem Portfolio.keepFor_true (portfolio : Portfolio) : portfolio.keepFor true = portfolio := by
  have hall : portfolio.documents.filterValues (keptBy true) = portfolio.documents := by
    apply Std.ExtTreeMap.ext_getElem?
    intro id
    rw [StdMap.lookup_filterValues]
    cases portfolio.documents[id]? <;> rfl
  rw [keepFor, hall]

section OnPlatform

variable [Platform]

theorem SecurityWallet.Shows.rebuilt {wallet : SecurityWallet} {vault : Vault}
    (hshows : wallet.Shows vault) : wallet.rebuilt.Shows vault where
  settled := hshows.settled.rebuilt
  rights := hshows.rights
  folders := FoldersOf.asLoaded hshows.folders

/-! ### Calls -/

section Calls

variable [LawfulCxxtools] [CxxtoolsTexts] [CxxtoolsEmptyText] {server : SecurityWalletServer}
  {vault : Vault} {uuid : String}

/-- A client is answered what the vault answers. -/
theorem WalletCall.exec_follows (hshows : server.Shows uuid vault) (client : ClientId)
    (call : WalletCall) :
    Call.Follows (call.exec client) server uuid vault (vault.answer client call) := by
  have hwallet := hshows.wallet
  cases call with
  | portfolios => exact (getPortfolioList_tells hwallet client).follows hshows .names
  | consumerUsages portfolio =>
      exact (getConsumerUsages_tells hwallet client portfolio).follows hshows .usages
  | producerUsages portfolio =>
      exact (getProducerUsages_tells hwallet client portfolio).follows hshows .usages
  | secret portfolio key =>
      cases key with
      | id id =>
          exact (getDocumentWithPrivateData_tells hwallet client portfolio id).follows hshows
            .document
      | name name =>
          exact (getDocumentWithPrivateDataByName_tells hwallet client portfolio name).follows
            hshows .document
  | secretsOfUsage portfolio usage =>
      exact (getListDocumentsWithPrivateDataOfUsage_tells hwallet client portfolio usage).follows
        hshows .documents
  | secretsOfIds portfolio ids =>
      have hcollect := collect_tells
        (fun id => getDocumentWithPrivateData_tells hwallet client portfolio id) ids
      rw [← ConsumerAccessor.getListDocumentsWithPrivateData_eq_collect] at hcollect
      exact hcollect.follows hshows .documents
  | view portfolio key =>
      cases key with
      | id id =>
          exact (getDocumentWithoutPrivateData_tells hwallet client portfolio id).follows hshows
            .document
      | name name =>
          exact (getDocumentWithoutPrivateDataByName_tells hwallet client portfolio name).follows
            hshows .document
  | viewsOfUsage portfolio usage =>
      exact (getListDocumentsWithoutPrivateDataOfUsage_tells hwallet client portfolio usage).follows
        hshows .documents
  | viewsOfIds portfolio ids =>
      exact (collect_tells
        (fun id => getDocumentWithoutPrivateData_tells hwallet client portfolio id) ids).follows
        hshows .documents
  | insert portfolio doc => exact insertNewDocument_follows hshows client portfolio doc
  | update portfolio doc => exact updateDocument_follows hshows client portfolio doc
  | delete portfolio id => exact deleteDocument_follows hshows client portfolio id

end Calls

/-! ### Restarts -/

namespace SecurityWalletServer

variable {server : SecurityWalletServer} {vault : Vault} {uuid : String}

/-- A server whose wallet was replaced by one with the same files of the platform. -/
theorem Shows.of_wallet (hshows : server.Shows uuid vault) {activeWallet : SecurityWallet}
    {next : Vault} (hwallet : activeWallet.Shows next) (huuids : next.uuids = vault.uuids)
    (hdetails : activeWallet.disk.releaseDetails = server.activeWallet.disk.releaseDetails) :
    { server with activeWallet }.Shows uuid next := by
  refine ⟨hwallet, huuids.trans hshows.uuids, hshows.ids, hshows.randoms, ?_⟩
  rw [← hshows.hardware, SecurityWallet.getHardwareUuid, SecurityWallet.getHardwareUuid, hdetails]

/-! ### Backups -/

/-- The feature is a backup of the folders with the passphrase. -/
structure Archived (names : List String) (uuid passphrase : String) (feature : Feature)
    (folders : String → Option Folder) : Prop where
  version : feature.version = "1.0"
  length : 8 ≤ (strToBytes passphrase).length
  data : ∃ (wallet : SecurityWallet) (si : SerializationInfo), wallet.Settled ∧
    SecurityWallet.Configured names wallet.portfolios ∧ FoldersOf folders wallet.portfolios ∧
    wallet.Backup passphrase uuid si ∧ deserialize (strToBytes feature.data) = .ok si

theorem handleSave_singleton (passphrase : String) (server : SecurityWalletServer) :
    handleSave passphrase [featureSrrSecw] server =
      ((∅ : StdMap String (Feature × FeatureStatus)).insert featureSrrSecw
          (saveFeature passphrase featureSrrSecw server).1,
        (saveFeature passphrase featureSrrSecw server).2) := rfl

theorem handleRestore_singleton (passphrase : String) (feature : Feature)
    (server : SecurityWalletServer) :
    handleRestore passphrase ((∅ : StdMap String Feature).insert featureSrrSecw feature) server =
      ((∅ : StdMap String FeatureStatus).insert featureSrrSecw
          (restoreFeature passphrase featureSrrSecw feature server).1,
        (restoreFeature passphrase featureSrrSecw feature server).2) := rfl

theorem saveFeature_short {passphrase : String} (hlength : ¬ 8 ≤ (strToBytes passphrase).length)
    (server : SecurityWalletServer) :
    saveFeature passphrase featureSrrSecw server =
      (({ version := activeVersion }, .failed "Passphrase must be at least 8 characters!"),
        server) := by
  have hexec : (server.activeWallet.getSrrSaveData passphrase).exec server.randoms =
      (.error (.std "Passphrase must be at least 8 characters!"), server.randoms) := by
    rw [SecurityWallet.getSrrSaveData, if_pos (not_le.1 hlength)]
    rfl
  rw [saveFeature, if_pos rfl, hexec]
  rfl

theorem restoreFeature_of_returns {passphrase : String} {feature : Feature}
    {si : SerializationInfo} {activeWallet : SecurityWallet}
    (hdata : deserialize (strToBytes feature.data) = .ok si)
    (hrestore : Returns (SecurityWallet.restoreSRRData si passphrase feature.version)
      server.activeWallet () activeWallet) :
    restoreFeature passphrase featureSrrSecw feature server =
      (.success, { server with activeWallet }) := by
  unfold restoreFeature
  rw [if_pos rfl, hdata]
  dsimp only
  rw [exec_bind_ok (exec_liftM _ _), onWallet, exec_zoom, hrestore]

variable [LawfulCxxtools] [LawfulOpenSSL]

theorem Shows.saveFeature (hshows : server.Shows uuid vault) {passphrase : String}
    (hlength : 8 ≤ (strToBytes passphrase).length) :
    ∃ feature randoms, SecurityWalletServer.saveFeature passphrase featureSrrSecw server =
        ((feature, .success), { server with randoms }) ∧
      { server with randoms }.Shows uuid vault ∧
      Archived vault.rights.keys uuid passphrase feature vault.folders := by
  have hsettled := hshows.wallet.settled
  obtain ⟨si, randoms, hsave, hrandoms, hbackup⟩ := (SecurityWallet.getSrrSaveData_spec
    hsettled.loadable hlength hshows.hardware hshows.randoms).returns
  refine ⟨{ version := activeVersion, data := serialize si }, randoms, ?_,
    ⟨hshows.wallet, hshows.uuids, hshows.ids, hrandoms, hshows.hardware⟩,
    ⟨rfl, hlength, server.activeWallet, si, hsettled, ?_, hshows.wallet.folders, hbackup,
      deserialize_serialize si⟩⟩
  · rw [SecurityWalletServer.saveFeature, if_pos rfl, hsave]
  · rw [hshows.wallet.rights, StdMap.keys_mapValues]
    exact hsettled.configured

omit [LawfulOpenSSL] in
theorem Shows.restoreFeature (hshows : server.Shows uuid vault) {passphrase : String}
    {feature : Feature} {folders : String → Option Folder}
    (harchived : Archived vault.rights.keys uuid passphrase feature folders) :
    ∃ next, SecurityWalletServer.restoreFeature passphrase featureSrrSecw feature server =
        (.success, next) ∧
      next.Shows uuid { vault with folders } := by
  obtain ⟨wallet, si, hsettled, hconfigured, hfolders, hbackup, hdata⟩ := harchived.data
  have hread := hbackup.readSRRData harchived.length hshows.hardware
  have hportfolios : (wallet.portfolios.map fun portfolio =>
      (portfolio.keepFor (decide (uuid = uuid))).asLoaded) = wallet.rebuilt.portfolios := by
    simp only [decide_true, Portfolio.keepFor_true]
    rfl
  rw [hportfolios] at hread
  have hnames : SecurityWallet.Configured server.activeWallet.configurations.keys
      wallet.rebuilt.portfolios := by
    have hkeys : server.activeWallet.configurations.keys = vault.rights.keys := by
      rw [hshows.wallet.rights, StdMap.keys_mapValues]
    rw [hkeys]
    exact hconfigured.asLoaded
  obtain ⟨hreload, hinstalled⟩ :=
    hsettled.rebuilt.reload_installed hshows.wallet.settled hnames
  have hrestore := (SecurityWallet.restoreSRRData_installed hread).trans hreload
  rw [← harchived.version] at hrestore
  exact ⟨_, restoreFeature_of_returns hdata hrestore,
    hshows.of_wallet ⟨hinstalled, hshows.wallet.rights, hfolders.asLoaded.asLoaded⟩ rfl rfl⟩

end SecurityWalletServer

/-! ### Sites -/

/-- The server shows the vault, and the site has its backups. -/
structure Site.Represents (site : Site) (uuid : String) (vault : Vault) : Prop where
  server : site.server.Shows uuid vault
  backups : List.Forall₂
    (fun (backup : String × SecurityWalletServer.Feature) folders =>
      SecurityWalletServer.Archived vault.rights.keys uuid backup.1 backup.2 folders)
    site.backups vault.backups

namespace Site

variable {site : Site} {vault : Vault} {uuid : String}

/-- An event is answered alike, and the site represents the vault after it. -/
def Agrees (site : Site) (uuid : String) (vault : Vault) (event : VaultEvent) : Prop :=
  (Vault.respond event vault).1 = (perform event site).1 ∧
    (perform event site).2.Represents uuid (Vault.respond event vault).2

theorem Represents.call [LawfulCxxtools] [CxxtoolsTexts] [CxxtoolsEmptyText]
    (hrep : site.Represents uuid vault) (client : ClientId) (call : WalletCall) :
    site.Agrees uuid vault (.call client call) := by
  obtain ⟨hresult, hshows⟩ := WalletCall.exec_follows hrep.server client call
  unfold Agrees
  rw [Vault.respond, perform]
  dsimp only
  cases hanswer : vault.answer client call with
  | error refusal =>
      rw [hanswer] at hresult hshows
      exact ⟨hresult.symm, hshows, hrep.backups⟩
  | ok answered =>
      obtain ⟨answer, next⟩ := answered
      rw [hanswer] at hresult hshows
      have hstep := Vault.answer_step hanswer
      refine ⟨hresult.symm, hshows, ?_⟩
      dsimp only
      rw [hstep.rights, hstep.backups_of_call]
      exact hrep.backups

theorem Represents.restart [LawfulCxxtools] (hrep : site.Represents uuid vault) :
    site.Agrees uuid vault .restart := by
  have hwallet := hrep.server.wallet
  have hrestart : site.restart = (.ok .done, { site with
      server.activeWallet := site.server.activeWallet.rebuilt }) := by
    rw [Site.restart, hwallet.settled.construct]
  unfold Agrees
  rw [Vault.respond, perform, hrestart]
  exact ⟨rfl, hrep.server.of_wallet hwallet.rebuilt rfl rfl, hrep.backups⟩

variable [LawfulCxxtools] [LawfulOpenSSL]

theorem Represents.backup (hrep : site.Represents uuid vault) (passphrase : String) :
    site.Agrees uuid vault (.backup passphrase) := by
  unfold Agrees
  rw [Vault.respond, perform, Site.backup, SecurityWalletServer.handleSave_singleton]
  by_cases hlength : 8 ≤ (strToBytes passphrase).length
  · obtain ⟨feature, randoms, hsave, hshows, harchived⟩ := hrep.server.saveFeature hlength
    have hwallet := hshows.wallet
    rw [if_pos hlength, hsave]
    dsimp only
    rw [StdMap.lookup_insert, if_pos rfl]
    refine ⟨rfl, ⟨⟨hwallet.settled, hwallet.rights, hwallet.folders⟩, hshows.uuids, hshows.ids,
      hshows.randoms, hshows.hardware⟩, List.rel_append hrep.backups (.cons harchived .nil)⟩
  · rw [if_neg hlength, SecurityWalletServer.saveFeature_short hlength]
    dsimp only
    rw [StdMap.lookup_insert, if_pos rfl]
    exact ⟨rfl, hrep.server, hrep.backups⟩

omit [LawfulOpenSSL] in
theorem Represents.restore (hrep : site.Represents uuid vault) (number : Nat) :
    site.Agrees uuid vault (.restore number) := by
  unfold Agrees
  rw [Vault.respond, perform, Site.restore]
  cases hbackup : site.backups[number]? with
  | none =>
      have hnone : vault.backups[number]? = none := by
        rw [List.getElem?_eq_none_iff] at hbackup ⊢
        rwa [← hrep.backups.length_eq]
      rw [hnone]
      exact ⟨rfl, hrep⟩
  | some backup =>
      obtain ⟨passphrase, feature⟩ := backup
      obtain ⟨folders, hfolders, harchived⟩ := getElem?_of_forall₂ hrep.backups hbackup
      obtain ⟨next, hrestore, hshows⟩ := hrep.server.restoreFeature harchived
      rw [hfolders]
      dsimp only
      rw [SecurityWalletServer.handleRestore_singleton, hrestore]
      dsimp only
      rw [StdMap.lookup_insert, if_pos rfl]
      exact ⟨rfl, hshows, hrep.backups⟩

/-- One event of a site is that event of its vault. -/
theorem Represents.perform [CxxtoolsTexts] [CxxtoolsEmptyText] (hrep : site.Represents uuid vault)
    (event : VaultEvent) : site.Agrees uuid vault event := by
  cases event with
  | call client call => exact hrep.call client call
  | restart => exact hrep.restart
  | backup passphrase => exact hrep.backup passphrase
  | restore number => exact hrep.restore number

end Site

/-! ### Whole runs -/

/-- A settled wallet shows a vault. -/
theorem SecurityWallet.Settled.exists_shows {wallet : SecurityWallet} (hsettled : wallet.Settled)
    (uuids : UuidSource) :
    ∃ vault : Vault, wallet.Shows vault ∧ vault.uuids = uuids ∧ vault.backups = [] := by
  have hfolder : ∀ name, ∃ folder, Option.Rel Folder.Of folder
      (wallet.portfolios.find? fun portfolio => portfolio.name = name) := by
    intro name
    cases hfind : wallet.portfolios.find? fun portfolio => portfolio.name = name with
    | none => exact ⟨none, .none⟩
    | some portfolio =>
        have hmem := List.mem_of_find?_eq_some hfind
        obtain ⟨folder, hof⟩ := Folder.Of.exists_of (hsettled.consistent portfolio hmem)
          (hsettled.loadable portfolio hmem)
        exact ⟨some folder, .some hof⟩
  choose folders hfolders using hfolder
  exact ⟨{ rights := wallet.configurations.mapValues Rights.of, folders, uuids },
    ⟨hsettled, rfl, hfolders⟩, rfl, rfl⟩

section Runs

variable [LawfulCxxtools] [LawfulOpenSSL] [CxxtoolsTexts] [CxxtoolsEmptyText]

/-- A site answers what its vault answers, and represents it all along. -/
theorem Site.Represents.run {site : Site} {uuid : String} {vault : Vault}
    (hrep : site.Represents uuid vault) (events : List VaultEvent) :
    (Machine.run Vault.respond events vault).1 = (Machine.run Site.perform events site).1 ∧
      (Machine.run Site.perform events site).2.Represents uuid
        (Machine.run Vault.respond events vault).2 :=
  run_refines (R := fun vault site => Site.Represents site uuid vault) events
    (fun event _ _ _ hrep => hrep.perform event) hrep

theorem Site.Represents.log {site : Site} {uuid : String} {vault : Vault}
    (hrep : site.Represents uuid vault) (events : List VaultEvent) :
    Machine.log Vault.respond events vault = Machine.log Site.perform events site := by
  rw [Machine.log, Machine.log, (hrep.run events).1]

omit [LawfulOpenSSL] [CxxtoolsTexts] [CxxtoolsEmptyText] in
theorem SecurityWalletServer.ReachableFromEmpty.exists_represents {server : SecurityWalletServer}
    (hreachable : SecurityWalletServer.ReachableFromEmpty server) {uuid : String}
    (hids : ∀ n, server.uuids.draw n ≠ "ERROR") (hrandoms : server.randoms.NeverFails)
    (hhardware : server.activeWallet.getHardwareUuid = .ok uuid) :
    ∃ vault : Vault, ({ server } : Site).Represents uuid vault ∧ vault.backups = [] := by
  obtain ⟨vault, hwallet, huuids, hbackups⟩ := hreachable.settled.exists_shows server.uuids
  refine ⟨vault, ⟨⟨hwallet, huuids, hids, hrandoms, hhardware⟩, ?_⟩, hbackups⟩
  rw [hbackups]
  exact .nil

/--
A reachable server shows a vault, and whatever is then called, restarted, backed up and restored, it
answers what that vault answers.
-/
theorem Site.run_eq_run_vault (server : SecurityWalletServer)
    (hreachable : SecurityWalletServer.ReachableFromEmpty server) (uuid : String)
    (hids : ∀ n, server.uuids.draw n ≠ "ERROR") (hrandoms : server.randoms.NeverFails)
    (hhardware : server.activeWallet.getHardwareUuid = .ok uuid) :
    ∃ vault, server.Shows uuid vault ∧ ∀ events,
      (Machine.run Vault.respond events vault).1 =
          (Machine.run Site.perform events { server }).1 ∧
        (Machine.run Site.perform events { server }).2.Represents uuid
          (Machine.run Vault.respond events vault).2 := by
  obtain ⟨vault, hrep, -⟩ := hreachable.exists_represents hids hrandoms hhardware
  exact ⟨vault, hrep.server, hrep.run⟩

end Runs

end OnPlatform

open scoped Reference

theorem Reference.uuids_ne_error (n : Nat) : Reference.uuids.draw n ≠ "ERROR" := by
  intro herror
  have hletter : 'E' ∈ Nat.toDigits 10 n := by
    have hdigits : Nat.toDigits 10 n = "ERROR".toList := by
      rw [← herror]
      exact String.toList_ofList.symm
    rw [hdigits]
    decide
  exact absurd (Nat.isDigit_of_mem_toDigits (by decide) (le_refl 10) hletter) (by decide)

theorem run_of_reference_eq_run_vault :
    ∃ vault, (Reference.server [{}]).Shows "uuid" vault ∧ ∀ events,
      (run Vault.respond events vault).1 =
          (run Site.perform events { server := Reference.server [{}] }).1 ∧
        (run Site.perform events { server := Reference.server [{}] }).2.Represents "uuid"
          (run Vault.respond events vault).2 :=
  Site.run_eq_run_vault (Reference.server [{}]) reachableFromEmpty_reference "uuid"
    Reference.uuids_ne_error (fun _ _ => rfl) (Reference.getHardwareUuid_server _)

end Secw
