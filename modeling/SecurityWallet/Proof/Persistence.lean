import SecurityWallet.Proof.Atomicity
import SecurityWallet.Proof.Loading

/-!
# Memory and disk agree

Every stored document stays valid, so what is saved is loaded again: a wallet built from the files of
a running one holds the same documents. This is kept by requests and by restores, which are the only
ways to change either.
-/

open Foundation SerializationInfo Effect

namespace Secw

/-- The same documents under the same ids, up to the flag for private data. -/
structure Portfolio.SameDocuments (portfolio other : Portfolio) : Prop where
  name : portfolio.name = other.name
  documents : ∀ id : Id,
    Option.Rel Document.SameContent portfolio.documents[id]? other.documents[id]?

theorem Portfolio.SameDocuments.refl (portfolio : Portfolio) :
    portfolio.SameDocuments portfolio where
  name := rfl
  documents id := by cases portfolio.documents[id]? <;> simp [Document.SameContent]

theorem Portfolio.Loadable.asLoaded_sameDocuments [Certificates] {portfolio : Portfolio}
    (hloadable : portfolio.Loadable) : portfolio.asLoaded.SameDocuments portfolio where
  name := rfl
  documents id := by
    rw [hloadable.asLoaded_documents, StdMap.lookup_mapValues]
    cases portfolio.documents[id]? <;> simp [Document.SameContent]

namespace SecurityWallet

variable [Platform]

/-- Loading the files again gives the same configurations and the same documents. -/
structure Persisted (wallet : SecurityWallet) : Prop where
  loadable : ∀ portfolio ∈ wallet.portfolios, portfolio.Loadable
  configured : Configured wallet.configurations.keys wallet.portfolios
  configuration :
    Returns (loadConfiguration wallet.disk.configuration) ∅ () wallet.configurations
  database : ∃ loaded,
    Returns (loadDatabase wallet.disk.database wallet.configurations.keys) [] () loaded ∧
      List.Forall₂ Portfolio.SameDocuments loaded wallet.portfolios

theorem persisted_of_saved [LawfulCxxtools] {wallet : SecurityWallet}
    (hloadable : ∀ portfolio ∈ wallet.portfolios, portfolio.Loadable)
    (hconfigured : Configured wallet.configurations.keys wallet.portfolios)
    (hconfiguration :
      Returns (loadConfiguration wallet.disk.configuration) ∅ () wallet.configurations)
    (hsaved : wallet.disk.database =
      some (Cxxtools.serialize true (databaseTree wallet.portfolios))) : wallet.Persisted where
  loadable := hloadable
  configured := hconfigured
  configuration := hconfiguration
  database := by
    refine ⟨wallet.portfolios.map Portfolio.asLoaded, ?_, ?_⟩
    · have hnames : Configured wallet.configurations.keys
          (wallet.portfolios.map Portfolio.asLoaded) := by
        intro name hname
        obtain ⟨portfolio, hmem, heq⟩ := hconfigured name hname
        exact ⟨portfolio.asLoaded, List.mem_map_of_mem hmem, heq⟩
      have hload := loadDatabase_databaseTree hloadable wallet.configurations.keys []
      rwa [addMissingPortfolios_of_configured hnames, ← hsaved] at hload
    · rw [List.forall₂_map_left_iff]
      exact List.forall₂_same.2 fun portfolio hmem =>
        (hloadable portfolio hmem).asLoaded_sameDocuments

theorem persisted_of_construct [LawfulCxxtools] {disk : Disk} {wallet : SecurityWallet}
    (hconstruct : construct disk = some wallet) : wallet.Persisted := by
  obtain ⟨configurations, portfolios, hconfiguration, hdatabase, rfl⟩ :=
    start_returns.1 (construct_eq_some.1 hconstruct)
  obtain ⟨hloadable, hconfigured⟩ := of_loadDatabase hdatabase
  exact persisted_of_saved hloadable hconfigured hconfiguration rfl

/-- A restore leaves a persisted wallet, whether it is refused or goes through. -/
theorem Persisted.restoreSRRData [LawfulCxxtools] {wallet : SecurityWallet}
    (hpersisted : wallet.Persisted) (si : SerializationInfo) (passphrase version : String) :
    ((SecurityWallet.restoreSRRData si passphrase version).exec wallet).2.Persisted := by
  cases hread : wallet.readSRRData si passphrase version with
  | error e =>
      rw [restoreSRRData_refused hread]
      exact hpersisted
  | ok portfolios =>
      have hloadable := loadable_of_readSRRData hread
      have hdatabase := loadDatabase_databaseTree hloadable wallet.configurations.keys []
      obtain ⟨hloaded, hconfigured⟩ := of_loadDatabase hdatabase
      rw [restoreSRRData_installed hread, reload_installed hloadable hpersisted.configuration]
      -- the database is loaded as the restore itself has just loaded it
      refine ⟨hloaded, hconfigured, hpersisted.configuration, _, hdatabase, ?_⟩
      exact List.forall₂_same.2 fun portfolio _ => Portfolio.SameDocuments.refl portfolio

/-- Building a wallet from the files of a persisted one gives the same documents. -/
theorem Persisted.construct {wallet : SecurityWallet} (hpersisted : wallet.Persisted) :
    ∃ built, SecurityWallet.construct wallet.disk = some built ∧
      built.configurations = wallet.configurations ∧
      List.Forall₂ Portfolio.SameDocuments built.portfolios wallet.portfolios := by
  obtain ⟨loaded, hdatabase, hsame⟩ := hpersisted.database
  exact ⟨_, construct_eq_some.2 (start_returns.2 ⟨_, _, hpersisted.configuration, hdatabase, rfl⟩),
    rfl, hsame⟩

end SecurityWallet

theorem Portfolio.Loadable.store [Certificates] {portfolio : Portfolio}
    (hloadable : portfolio.Loadable) {doc : Document} (hvalid : doc.validate = .ok ()) :
    (portfolio.store doc.id doc).Loadable where
  keyed := by
    intro id other hother
    rw [Portfolio.store, StdMap.lookup_insert] at hother
    split at hother
    · next hid =>
        cases hother
        exact hid
    · exact hloadable.keyed hother
  valid := by
    intro id other hother
    rw [Portfolio.store, StdMap.lookup_insert] at hother
    split at hother
    · cases hother
      exact hvalid
    · exact hloadable.valid hother

theorem Portfolio.Loadable.replaced [Certificates] {portfolio : Portfolio}
    (hloadable : portfolio.Loadable) (oldDoc : Document) {doc : Document}
    (hvalid : doc.validate = .ok ()) : (portfolio.replaced oldDoc doc).Loadable :=
  ⟨(hloadable.store hvalid).keyed, (hloadable.store hvalid).valid⟩

theorem Portfolio.Loadable.removed [Certificates] {portfolio : Portfolio}
    (hloadable : portfolio.Loadable) (id : Id) (doc : Document) :
    (portfolio.removed id doc).Loadable where
  keyed := by
    intro other stored hstored
    rw [Portfolio.removed, StdMap.lookup_erase] at hstored
    split at hstored
    · cases hstored
    · exact hloadable.keyed hstored
  valid := by
    intro other stored hstored
    rw [Portfolio.removed, StdMap.lookup_erase] at hstored
    split at hstored
    · cases hstored
    · exact hloadable.valid hstored

namespace SecurityWalletServer

variable [Platform]

/-- A change commits a portfolio that can be loaded again. -/
theorem Change.eq_commit_loadable {server next : SecurityWalletServer} {sender : Sender}
    {command : Command} {params : List String} {result : String}
    (hchange : Change server sender command params result next)
    (hloadable : ∀ portfolio ∈ server.activeWallet.portfolios, portfolio.Loadable) :
    ∃ index nextPortfolio uuids notification,
      next = commit server index nextPortfolio uuids notification ∧ nextPortfolio.Loadable := by
  cases hchange with
  | @create _ _ _ _ _ portfolio _ doc haccess _ _ hvalid =>
      have hportfolio := hloadable portfolio (List.mem_of_getElem? haccess.lookup)
      have hnew : (newDocument server portfolio doc).validate = .ok () := hvalid
      exact ⟨_, _, _, _, rfl, hportfolio.store hnew⟩
  | @delete _ _ _ _ _ portfolio doc haccess =>
      have hportfolio := hloadable portfolio (List.mem_of_getElem? haccess.lookup)
      exact ⟨_, _, _, _, rfl, hportfolio.removed _ _⟩
  | @update _ _ _ _ _ portfolio _ _ _ _ haccess _ _ _ _ _ hvalid =>
      have hportfolio := hloadable portfolio (List.mem_of_getElem? haccess.lookup)
      exact ⟨_, _, _, _, rfl, hportfolio.replaced _ hvalid⟩

theorem Change.persisted [LawfulCxxtools] {server next : SecurityWalletServer} {sender : Sender}
    {command : Command} {params : List String} {result : String}
    (hchange : Change server sender command params result next)
    (hpersisted : server.activeWallet.Persisted) : next.activeWallet.Persisted := by
  have hframe := hchange.sameFrame
  have hnames : SecurityWallet.Configured next.activeWallet.configurations.keys
      next.activeWallet.portfolios := by
    intro name hname
    rw [hframe.1] at hname
    obtain ⟨portfolio, hmem, heq⟩ := hpersisted.configured name hname
    have hmap : name ∈ next.activeWallet.portfolios.map Portfolio.name := by
      rw [hframe.2, ← heq]
      exact List.mem_map_of_mem hmem
    simpa using hmap
  obtain ⟨index, nextPortfolio, uuids, notification, rfl, hnext⟩ :=
    hchange.eq_commit_loadable hpersisted.loadable
  refine SecurityWallet.persisted_of_saved ?_ hnames hpersisted.configuration rfl
  intro portfolio hmem
  rcases List.mem_or_eq_of_mem_set hmem with hmem | rfl
  · exact hpersisted.loadable portfolio hmem
  · exact hnext

theorem handleRequest_persisted [LawfulCxxtools] (request : Request)
    {server : SecurityWalletServer} (hpersisted : server.activeWallet.Persisted) :
    (handleRequest request server).2.activeWallet.Persisted := by
  have houtcome := handleRequest_outcome request server
  generalize (handleRequest request server).1 = frames at houtcome
  generalize (handleRequest request server).2 = next at houtcome ⊢
  cases houtcome with
  | changed _ _ hchange => exact hchange.persisted hpersisted
  | _ => exact hpersisted

/-- The restore of a feature leaves the server or restores its wallet from the data. -/
theorem restoreFeature_snd (passpharse featureName : String) (feature : Feature)
    (server : SecurityWalletServer) :
    (restoreFeature passpharse featureName feature server).2 = server ∨
      ∃ si, deserialize (strToBytes feature.data) = .ok si ∧
        (restoreFeature passpharse featureName feature server).2 =
          { server with
            activeWallet := ((SecurityWallet.restoreSRRData si passpharse feature.version).exec
              server.activeWallet).2 } := by
  unfold restoreFeature
  split
  · cases hsi : deserialize (strToBytes feature.data) with
    | error e => exact .inl rfl
    | ok si =>
        refine .inr ⟨si, rfl, ?_⟩
        dsimp only
        rw [exec_bind_ok (exec_liftM _ _), onWallet, exec_zoom]
        cases ((SecurityWallet.restoreSRRData si passpharse feature.version).exec
          server.activeWallet).1 <;> rfl
  · exact .inl rfl

theorem restoreFeature_persisted [LawfulCxxtools] (passpharse featureName : String)
    (feature : Feature) {server : SecurityWalletServer}
    (hpersisted : server.activeWallet.Persisted) :
    (restoreFeature passpharse featureName feature server).2.activeWallet.Persisted := by
  rcases restoreFeature_snd passpharse featureName feature server with heq | ⟨si, -, heq⟩
  · rwa [heq]
  · rw [heq]
    exact hpersisted.restoreSRRData si passpharse feature.version

theorem handleRestore_persisted [LawfulCxxtools] (passpharse : String)
    (mapFeaturesData : StdMap String Feature) {server : SecurityWalletServer}
    (hpersisted : server.activeWallet.Persisted) :
    (handleRestore passpharse mapFeaturesData server).2.activeWallet.Persisted := by
  unfold handleRestore
  generalize (∅ : StdMap String FeatureStatus) = mapStatus
  induction mapFeaturesData.toList generalizing mapStatus server with
  | nil => exact hpersisted
  | cons entry entries ih =>
      rw [List.foldl_cons]
      exact ih (restoreFeature_persisted passpharse entry.1 entry.2 hpersisted) _

theorem saveFeature_activeWallet (passpharse featureName : String)
    (server : SecurityWalletServer) :
    (saveFeature passpharse featureName server).2.activeWallet = server.activeWallet := by
  unfold saveFeature
  split
  · split <;> rfl
  · rfl

theorem handleSave_activeWallet (passpharse : String) (features : List String)
    (server : SecurityWalletServer) :
    (handleSave passpharse features server).2.activeWallet = server.activeWallet := by
  unfold handleSave
  generalize (∅ : StdMap String (Feature × FeatureStatus)) = mapFeaturesData
  induction features generalizing mapFeaturesData server with
  | nil => rfl
  | cons featureName features ih =>
      rw [List.foldl_cons]
      exact (ih _ _).trans (saveFeature_activeWallet passpharse featureName server)

/-- The states of a running server: started from any files, then requests, backups and restores. -/
inductive Reachable : SecurityWalletServer → Prop
  | start {disk wallet} (uuids : UuidSource) (randoms : RandomSource)
      (hconstruct : SecurityWallet.construct disk = some wallet) :
      Reachable { activeWallet := wallet, uuids, randoms }
  | request {server} (request : Request) (hreachable : Reachable server) :
      Reachable (handleRequest request server).2
  | save {server} (passpharse : String) (features : List String)
      (hreachable : Reachable server) : Reachable (handleSave passpharse features server).2
  | restore {server} (passpharse : String) (mapFeaturesData : StdMap String Feature)
      (hreachable : Reachable server) :
      Reachable (handleRestore passpharse mapFeaturesData server).2

theorem Reachable.persisted [LawfulCxxtools] {server : SecurityWalletServer}
    (hreachable : Reachable server) : server.activeWallet.Persisted := by
  induction hreachable with
  | start uuids randoms hconstruct => exact SecurityWallet.persisted_of_construct hconstruct
  | request request _ ih => exact handleRequest_persisted request ih
  | save passpharse features _ ih => rwa [handleSave_activeWallet]
  | restore passpharse mapFeaturesData _ ih =>
      exact handleRestore_persisted passpharse mapFeaturesData ih

theorem ReachableFromEmpty.reachable {server : SecurityWalletServer}
    (hreachable : ReachableFromEmpty server) : Reachable server := by
  induction hreachable with
  | start uuids randoms _ hconstruct => exact .start uuids randoms hconstruct
  | serve request _ ih => exact .request request ih

/--
At every point between operations a wallet built from the current files has the configurations and,
place by place, the portfolios of the running one: same name and same documents under the same ids.
-/
theorem memory_agrees_with_disk [LawfulCxxtools] (server : SecurityWalletServer)
    (hreachable : Reachable server) :
    ∃ built, SecurityWallet.construct server.activeWallet.disk = some built ∧
      built.configurations = server.activeWallet.configurations ∧
      List.Forall₂ Portfolio.SameDocuments built.portfolios server.activeWallet.portfolios :=
  hreachable.persisted.construct

end SecurityWalletServer

open scoped Reference

theorem reachable_started : SecurityWalletServer.Reachable Reference.started :=
  .start Reference.uuids Reference.randoms (Reference.construct_savedDisk rfl rfl)

theorem started_agrees_with_disk :
    ∃ built, SecurityWallet.construct Reference.started.activeWallet.disk = some built ∧
      built.configurations = Reference.started.activeWallet.configurations ∧
      List.Forall₂ Portfolio.SameDocuments built.portfolios
        Reference.started.activeWallet.portfolios :=
  SecurityWalletServer.memory_agrees_with_disk Reference.started reachable_started

end Secw
