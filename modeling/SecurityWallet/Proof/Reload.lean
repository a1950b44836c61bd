import SecurityWallet.Proof.Loading
import SecurityWallet.Reference

/-!
# Reloading

What `reload`, the constructor and a restore leave, in terms of the two files they read.
-/

open Foundation SerializationInfo Effect

namespace Secw

namespace SecurityWallet

variable [Platform]

theorem reload_exec (wallet : SecurityWallet) :
    reload.exec wallet =
      match (loadConfiguration wallet.disk.configuration).exec ∅ with
      | (.error e, configurations) => (.error e, { wallet with configurations, portfolios := [] })
      | (.ok _, configurations) =>
          let (outcome, portfolios) :=
            (loadDatabase wallet.disk.database configurations.keys).exec []
          (outcome, { wallet with configurations, portfolios }) := by
  unfold reload onConfigurations onPortfolios
  rw [Effect.exec_bind_ok (Effect.exec_modify _ _), Effect.exec_bind_ok (Effect.exec_get _),
    Effect.exec_bind, Effect.exec_zoom]
  cases hload : (loadConfiguration wallet.disk.configuration).exec ∅ with
  | mk outcome configurations =>
      cases outcome with
      | error e => dsimp only
      | ok _ =>
          dsimp only
          rw [Effect.exec_bind_ok (Effect.exec_get _), Effect.exec_zoom]

theorem save_exec (wallet : SecurityWallet) :
    save.exec wallet =
      (.ok (), { wallet with
        disk.database := some (Cxxtools.serialize true (databaseTree wallet.portfolios)) }) := rfl

/-- The constructor fails without a write, or both files load and it rewrites the database. -/
theorem start_exec (disk : Disk) :
    start.exec { disk } =
      match (loadConfiguration disk.configuration).exec ∅ with
      | (.error e, configurations) => (.error e, { configurations, portfolios := [], disk })
      | (.ok _, configurations) =>
          match (loadDatabase disk.database configurations.keys).exec [] with
          | (.error e, portfolios) => (.error e, { configurations, portfolios, disk })
          | (.ok _, portfolios) => (.ok (), { configurations, portfolios, disk := { disk with
              database := some (Cxxtools.serialize true (databaseTree portfolios)) } }) := by
  rw [start, exec_bind, reload_exec]
  dsimp only
  cases (loadConfiguration disk.configuration).exec ∅ with
  | mk outcome configurations =>
      cases outcome with
      | error e => rfl
      | ok _ =>
          dsimp only
          cases (loadDatabase disk.database configurations.keys).exec [] with
          | mk outcome portfolios =>
              cases outcome with
              | error e => rfl
              | ok _ => rfl

/-- The constructor succeeds exactly if both files load. -/
theorem start_returns {disk : Disk} {wallet : SecurityWallet} :
    Returns start { disk } () wallet ↔
      ∃ configurations portfolios,
        Returns (loadConfiguration disk.configuration) ∅ () configurations ∧
          Returns (loadDatabase disk.database configurations.keys) [] () portfolios ∧
          wallet = { configurations, portfolios, disk := { disk with
            database := some (Cxxtools.serialize true (databaseTree portfolios)) } } := by
  unfold Returns
  rw [start_exec]
  cases hconfiguration : (loadConfiguration disk.configuration).exec ∅ with
  | mk outcome configurations =>
      cases outcome with
      | error e => simp
      | ok _ =>
          dsimp only
          cases hdatabase : (loadDatabase disk.database configurations.keys).exec [] with
          | mk outcome portfolios =>
              cases outcome with
              | error e => simp [hdatabase]
              | ok _ => simp [hdatabase, eq_comm]

theorem construct_eq_some {disk : Disk} {wallet : SecurityWallet} :
    construct disk = some wallet ↔ Returns start { disk } () wallet := by
  unfold construct Returns
  cases start.exec { disk } with
  | mk outcome next => cases outcome <;> simp

/-! ### Restoring -/

/-- The wallet after the portfolios of a restore were installed and saved. -/
def installed (wallet : SecurityWallet) (portfolios : List Portfolio) : SecurityWallet :=
  { wallet with
    portfolios
    disk.database := some (Cxxtools.serialize true (databaseTree portfolios)) }

variable {wallet : SecurityWallet} {si : SerializationInfo} {passphrase version : String}

/-- A restore that is refused while its data is read changes nothing. -/
theorem restoreSRRData_refused {e : Exn}
    (hread : wallet.readSRRData si passphrase version = .error e) :
    (restoreSRRData si passphrase version).exec wallet = (.error e, wallet) := by
  unfold restoreSRRData
  rw [exec_bind_ok (exec_get _)]
  exact exec_bind_error ((exec_liftM _ _).trans (congrArg (·, wallet) hread)) _

/-- Otherwise its portfolios are installed and saved, and then both files are loaded. -/
theorem restoreSRRData_installed {portfolios : List Portfolio}
    (hread : wallet.readSRRData si passphrase version = .ok portfolios) :
    (restoreSRRData si passphrase version).exec wallet =
      reload.exec (wallet.installed portfolios) := by
  unfold restoreSRRData
  rw [exec_bind_ok (exec_get _),
    exec_bind_ok ((exec_liftM _ _).trans (congrArg (·, wallet) hread)),
    exec_bind_ok (exec_modify _ _), exec_bind_ok (save_exec _)]
  rfl

/-- What a restore checks before it installs anything, and what it reads. -/
theorem readSRRData_eq_ok {portfolios : List Portfolio} :
    wallet.readSRRData si passphrase version = .ok portfolios ↔
      version = "1.0" ∧ 8 ≤ (strToBytes passphrase).length ∧
        (∃ receivedPassphrase,
          getStringMember si "check_passphrase" = .ok receivedPassphrase ∧
            decrypt receivedPassphrase passphrase = .ok (strToBytes passphrase)) ∧
        ∃ receivedUuid uuid receivedBytes portfolioSis,
          getStringMember si "check_platform" = .ok receivedUuid ∧
            wallet.getHardwareUuid = .ok uuid ∧
            decrypt receivedUuid passphrase = .ok receivedBytes ∧
            getMember si "portfolios" = .ok portfolioSis ∧
            List.Forall₂
              (fun portfolioSi portfolio => (Portfolio.loadPortfolioFromSRR portfolioSi passphrase
                (decide (strToBytes uuid = receivedBytes))).result {} = .ok portfolio)
              (children portfolioSis) portfolios := by
  unfold readSRRData
  by_cases hversion : version = "1.0"
  · rw [if_neg (not_not.2 hversion)]
    by_cases hlength : (strToBytes passphrase).length < 8
    · rw [if_pos hlength]
      constructor
      · intro hread
        cases hread
      · rintro ⟨-, hlong, -⟩
        omega
    · rw [if_neg hlength]
      simp only [bind_eq_ok, liftStd_eq_ok]
      constructor
      · rintro ⟨receivedPassphrase, hmember, plain, hplain, hread⟩
        split at hread
        · cases hread
        · next hsame =>
            simp only [bind_eq_ok, liftStd_eq_ok, mapM_eq_ok] at hread
            obtain ⟨receivedUuid, hreceived, uuid, huuid, receivedBytes, hbytes, portfolioSis, hsis,
              hportfolios⟩ := hread
            rw [← not_not.1 hsame] at hplain
            exact ⟨hversion, not_lt.1 hlength, ⟨receivedPassphrase, hmember, hplain⟩,
              receivedUuid, uuid, receivedBytes, portfolioSis, hreceived, huuid, hbytes, hsis,
              hportfolios⟩
      · rintro ⟨-, -, ⟨receivedPassphrase, hmember, hplain⟩, receivedUuid, uuid, receivedBytes,
          portfolioSis, hreceived, huuid, hbytes, hsis, hportfolios⟩
        refine ⟨receivedPassphrase, hmember, strToBytes passphrase, hplain, ?_⟩
        rw [if_neg (not_not.2 rfl)]
        simp only [bind_eq_ok, liftStd_eq_ok, mapM_eq_ok]
        exact ⟨receivedUuid, hreceived, uuid, huuid, receivedBytes, hbytes, portfolioSis, hsis,
          hportfolios⟩
  · rw [if_pos hversion]
    constructor
    · intro hread
      cases hread
    · intro hread
      exact absurd hread.1 hversion

theorem loadable_of_readSRRData {portfolios : List Portfolio}
    (hread : wallet.readSRRData si passphrase version = .ok portfolios) :
    ∀ portfolio ∈ portfolios, portfolio.Loadable := by
  obtain ⟨-, -, -, _, _, _, _, -, -, -, -, hportfolios⟩ := readSRRData_eq_ok.1 hread
  intro portfolio hmem
  obtain ⟨si, -, hportfolio⟩ := exists_mem_of_forall₂ hportfolios hmem
  exact Portfolio.loadable_of_loadPortfolioFromSRR hportfolio

/-- With a configuration file that loads, the restore succeeds. -/
theorem reload_installed [LawfulCxxtools] {portfolios : List Portfolio}
    {configurations : StdMap String PortfolioConfiguration}
    (hloadable : ∀ portfolio ∈ portfolios, portfolio.Loadable)
    (hconfiguration : Returns (loadConfiguration wallet.disk.configuration) ∅ () configurations) :
    reload.exec (wallet.installed portfolios) =
      (.ok (), { wallet.installed portfolios with
        configurations
        portfolios := addMissingPortfolios configurations.keys
          (portfolios.map Portfolio.asLoaded) }) := by
  have hdatabase := loadDatabase_databaseTree hloadable configurations.keys []
  rw [Returns] at hconfiguration hdatabase
  have hfiles : (wallet.installed portfolios).disk.configuration = wallet.disk.configuration := rfl
  rw [reload_exec, hfiles, hconfiguration]
  dsimp only [installed]
  rw [hdatabase]

end SecurityWallet

/-! ### A start of the reference platform -/

namespace Reference

open scoped Reference

theorem acceptedConfiguration :
    SecurityWallet.AcceptedConfiguration disk.configuration [configuration] :=
  ⟨_, _, rfl, LawfulCxxtools.deserialize_serialize _ _, .cons read_configurationSi .nil, by simp,
    by simp⟩

theorem construct_disk : SecurityWallet.construct disk = some (server [{}]).activeWallet := by
  refine SecurityWallet.construct_eq_some.2 (SecurityWallet.start_returns.2
    ⟨configurations, [{}], SecurityWallet.loadConfiguration_returns.2
      ⟨_, acceptedConfiguration, rfl⟩, ?_, rfl⟩)
  rw [keys_configurations]
  rfl

variable {doc : Document}

theorem lookup_portfolio {id : Id} {stored : Document}
    (hstored : (portfolio doc).documents[id]? = some stored) : stored = doc ∧ doc.id = id := by
  rw [portfolio, Portfolio.store, StdMap.lookup_insert] at hstored
  split at hstored
  · next hid => exact ⟨(Option.some.inj hstored).symm, hid⟩
  · cases hstored

theorem loadable_portfolio (hvalid : doc.validate = .ok ()) : (portfolio doc).Loadable where
  keyed hstored := by
    obtain ⟨rfl, hid⟩ := lookup_portfolio hstored
    exact hid
  valid hstored := by
    obtain ⟨rfl, -⟩ := lookup_portfolio hstored
    exact hvalid

/-- A database that was saved with the configured portfolio gives its portfolios. -/
theorem construct_of_saved {portfolios : List Portfolio}
    (hloadable : ∀ portfolio ∈ portfolios, portfolio.Loadable)
    (hloaded : portfolios.map Portfolio.asLoaded = portfolios)
    (hconfigured : SecurityWallet.Configured ["default"] portfolios) :
    SecurityWallet.construct (savedDisk portfolios) = some (server portfolios).activeWallet := by
  have hload := SecurityWallet.loadDatabase_databaseTree hloadable ["default"] []
  rw [hloaded, SecurityWallet.addMissingPortfolios_of_configured hconfigured] at hload
  refine SecurityWallet.construct_eq_some.2 (SecurityWallet.start_returns.2
    ⟨configurations, portfolios, SecurityWallet.loadConfiguration_returns.2
      ⟨_, acceptedConfiguration, rfl⟩, ?_, rfl⟩)
  rw [keys_configurations]
  exact hload

theorem asLoaded_portfolio (hcontent : doc.content = doc) :
    (portfolio doc).asLoaded = portfolio doc := by
  have hdocuments : (portfolio doc).getListDocuments = [doc] := rfl
  rw [Portfolio.asLoaded, hdocuments, List.map_singleton, hcontent]
  rfl

theorem construct_savedDisk (hvalid : doc.validate = .ok ()) (hcontent : doc.content = doc) :
    SecurityWallet.construct (savedDisk [portfolio doc]) =
      some (server [portfolio doc]).activeWallet := by
  apply construct_of_saved
  · simpa using loadable_portfolio hvalid
  · rw [List.map_singleton, asLoaded_portfolio hcontent]
  · intro name hname
    exact ⟨portfolio doc, List.mem_singleton_self _, (List.mem_singleton.1 hname).symm⟩

end Reference

end Secw
