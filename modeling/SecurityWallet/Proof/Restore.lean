import SecurityWallet.Proof.Reload

/-!
# When a failing restore changes nothing

A restore installs and saves its portfolios before it reloads, and reloading clears the wallet before
it reads the configuration file. If that file is refused the restore fails with the wallet emptied
and the database replaced.
-/

open Foundation SerializationInfo Effect

namespace Secw

namespace SecurityWallet

variable [Platform]

/-- The configurations in front of the first entry that cannot be read or repeats a name. -/
def leadingConfigurations (configurations : StdMap String PortfolioConfiguration) :
    List SerializationInfo → StdMap String PortfolioConfiguration
  | [] => configurations
  | si :: rest =>
      match PortfolioConfiguration.read si with
      | .error _ => configurations
      | .ok config =>
          if configurations.contains config.portfolioName then configurations
          else leadingConfigurations (configurations.insert config.portfolioName config) rest

/-- The leading configurations of a file; a file that is missing or no text of a tree has none. -/
def configurationsIn (file : Option String) : StdMap String PortfolioConfiguration :=
  match file with
  | none => ∅
  | some text =>
      match Cxxtools.deserialize (strToBytes text) with
      | .error _ => ∅
      | .ok root => leadingConfigurations ∅ (children root)

theorem insertConfigurations_snd (sis : List SerializationInfo)
    (configurations : StdMap String PortfolioConfiguration) :
    ((insertConfigurations sis).exec configurations).2 =
      leadingConfigurations configurations sis := by
  induction sis generalizing configurations with
  | nil => rfl
  | cons si sis ih =>
      rw [insertConfigurations, leadingConfigurations, exec_bind, exec_liftM]
      cases PortfolioConfiguration.read si with
      | error e => rfl
      | ok config =>
          have hlift : liftStd (.ok config : Except String PortfolioConfiguration) = .ok config := rfl
          rw [hlift]
          dsimp only
          rw [exec_bind_ok (exec_get _)]
          split
          · rfl
          · rw [exec_bind_ok (exec_modify _ _)]
            exact ih _

theorem loadConfiguration_snd (file : Option String) :
    ((loadConfiguration file).exec ∅).2 = configurationsIn file := by
  cases file with
  | none => rfl
  | some text =>
      unfold loadConfiguration configurationsIn readFile
      rw [if_neg (by simp), Option.getD_some, exec_bind, exec_liftM]
      dsimp only
      cases Cxxtools.deserialize (strToBytes text) with
      | error e => rfl
      | ok root =>
          have hlift : liftStd (.ok root : Except String SerializationInfo) = .ok root := rfl
          rw [hlift]
          dsimp only
          have hsnd := insertConfigurations_snd (children root) ∅
          rw [exec_bind]
          revert hsnd
          generalize (insertConfigurations (children root)).exec ∅ = run
          obtain ⟨outcome, configurations⟩ := run
          rintro rfl
          cases outcome with
          | error e => rfl
          | ok _ =>
              dsimp only
              rw [exec_bind_ok (exec_get _)]
              split <;> rfl

/-- A restore that throws leaves the portfolios, the configurations and the database. -/
def RestoreIsAtomic (wallet : SecurityWallet) (si : SerializationInfo)
    (passphrase version : String) : Prop :=
  ∀ e next, (restoreSRRData si passphrase version).exec wallet = (.error e, next) →
    next.portfolios = wallet.portfolios ∧ next.configurations = wallet.configurations ∧
      next.disk.database = wallet.disk.database

/-- The wallet is as a restore of the portfolios leaves it when the configuration is refused. -/
structure EmptiedWith (wallet : SecurityWallet) (listPortfolio : List Portfolio) : Prop where
  portfolios : wallet.portfolios = []
  configurations : wallet.configurations = configurationsIn wallet.disk.configuration
  database : wallet.disk.database = some (Cxxtools.serialize true (databaseTree listPortfolio))

variable {wallet : SecurityWallet} {si : SerializationInfo} {passphrase version : String}

/-- With a configuration file that is refused, a restore empties the wallet and fails. -/
theorem restoreSRRData_emptied {portfolios : List Portfolio}
    (hread : wallet.readSRRData si passphrase version = .ok portfolios)
    (hrefused : ∀ configs, ¬ AcceptedConfiguration wallet.disk.configuration configs) :
    ∃ e, (restoreSRRData si passphrase version).exec wallet =
      (.error e, { wallet.installed portfolios with
        portfolios := [], configurations := configurationsIn wallet.disk.configuration }) := by
  have hsnd := loadConfiguration_snd wallet.disk.configuration
  cases hload : (loadConfiguration wallet.disk.configuration).exec ∅ with
  | mk outcome configurations =>
      cases outcome with
      | ok _ =>
          obtain ⟨configs, hconfigs, -⟩ := loadConfiguration_returns.1 hload
          exact absurd hconfigs (hrefused configs)
      | error e =>
          rw [hload] at hsnd
          refine ⟨e, ?_⟩
          have hfile : (wallet.installed portfolios).disk.configuration =
              wallet.disk.configuration := rfl
          rw [restoreSRRData_installed hread, reload_exec, hfile, hload, ← hsnd]

/--
A restore is all or nothing exactly if it is refused while its data is read, or the configuration
file is accepted, or the wallet already is what the failing restore would leave.
-/
theorem restore_is_atomic_iff [LawfulCxxtools] (wallet : SecurityWallet) (si : SerializationInfo)
    (passphrase version : String) :
    wallet.RestoreIsAtomic si passphrase version ↔
      (∃ e, wallet.readSRRData si passphrase version = .error e) ∨
        (∃ configs, AcceptedConfiguration wallet.disk.configuration configs) ∨
        ∃ portfolios, wallet.readSRRData si passphrase version = .ok portfolios ∧
          wallet.EmptiedWith portfolios := by
  cases hread : wallet.readSRRData si passphrase version with
  | error e =>
      refine iff_of_true ?_ (.inl ⟨e, rfl⟩)
      intro e' next hfails
      rw [restoreSRRData_refused hread, Prod.mk.injEq] at hfails
      obtain ⟨-, rfl⟩ := hfails
      exact ⟨rfl, rfl, rfl⟩
  | ok portfolios =>
      by_cases haccepted : ∃ configs, AcceptedConfiguration wallet.disk.configuration configs
      · refine iff_of_true ?_ (.inr (.inl haccepted))
        obtain ⟨configs, hconfigs⟩ := haccepted
        intro e next hfails
        rw [restoreSRRData_installed hread, reload_installed (loadable_of_readSRRData hread)
          (loadConfiguration_returns.2 ⟨configs, hconfigs, rfl⟩)] at hfails
        cases hfails
      · obtain ⟨e, hrun⟩ := restoreSRRData_emptied hread (not_exists.1 haccepted)
        constructor
        · intro hatomic
          obtain ⟨hportfolios, hconfigurations, hdatabase⟩ := hatomic e _ hrun
          exact .inr (.inr ⟨portfolios, rfl, hportfolios.symm, hconfigurations.symm,
            hdatabase.symm⟩)
        · rintro (⟨e', herror⟩ | haccepted' | ⟨_, ⟨⟩, hemptied⟩)
          · cases herror
          · exact absurd haccepted' haccepted
          · intro e' next hfails
            rw [hrun, Prod.mk.injEq] at hfails
            obtain ⟨-, rfl⟩ := hfails
            exact ⟨hemptied.portfolios.symm, hemptied.configurations.symm,
              hemptied.database.symm⟩

end SecurityWallet

/-! ### A restore without a configuration file -/

namespace Reference

open scoped Reference

/-- A backup without portfolios of the platform. -/
def backup : SerializationInfo :=
  let iv := List.replicate 16 0
  let si := addMember .null "check_passphrase" (.str (cyphered iv "passphrase" "passphrase"))
  let si := addMember si "check_platform" (.str (cyphered iv "uuid" "passphrase"))
  addMember si "portfolios" (.arr [])

theorem readSRRData_backup {wallet : SecurityWallet} (huuid : wallet.getHardwareUuid = .ok "uuid") :
    wallet.readSRRData backup "passphrase" "1.0" = .ok [] :=
  SecurityWallet.readSRRData_eq_ok.2 ⟨rfl, by decide,
    ⟨_, getStringMember_of_findMember rfl, decrypt_cyphered rfl _ _⟩,
    _, "uuid", _, _, getStringMember_of_findMember rfl, huuid, decrypt_cyphered rfl _ _,
    getMember_of_findMember rfl, .nil⟩

theorem restore_of_backup_is_atomic :
    started.activeWallet.RestoreIsAtomic backup "passphrase" "1.0" :=
  (SecurityWallet.restore_is_atomic_iff started.activeWallet backup "passphrase" "1.0").2
    (.inr (.inl ⟨_, acceptedConfiguration⟩))

/-- The wallet of `started` after its configuration file is gone. -/
def unconfigured : SecurityWallet :=
  { started.activeWallet with disk.configuration := none }

theorem restore_empties_unconfigured :
    ¬ unconfigured.RestoreIsAtomic backup "passphrase" "1.0" := by
  have hrefused : ∀ configs,
      ¬ SecurityWallet.AcceptedConfiguration unconfigured.disk.configuration configs := by
    rintro configs ⟨text, -, htext, -⟩
    cases htext
  have huuid : unconfigured.getHardwareUuid = .ok "uuid" := getHardwareUuid_server [{}]
  obtain ⟨e, hrun⟩ := SecurityWallet.restoreSRRData_emptied (readSRRData_backup huuid) hrefused
  intro hatomic
  exact List.cons_ne_nil _ _ (hatomic e _ hrun).1.symm

end Reference

end Secw
