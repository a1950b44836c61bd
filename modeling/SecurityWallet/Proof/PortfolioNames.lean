import SecurityWallet.Proof.Persistence

/-!
# One portfolio of each name

The names of the portfolios come from the database and from the data of a restore, which may repeat
them; requests keep them and a missing configured name is added once. So a run has one portfolio of
each name throughout exactly if what it loads does not repeat a name.
-/

open Foundation SerializationInfo Effect

namespace Secw

namespace SecurityWallet

/-- The names of the portfolios, in order. -/
def names (wallet : SecurityWallet) : List String := wallet.portfolios.map Portfolio.name

/--
No two portfolios have one name and each configured name is that of one portfolio, so a configured
name finds a portfolio and the name of a portfolio finds its documents.
-/
structure OnePortfolioPerName (wallet : SecurityWallet) : Prop where
  distinct : wallet.names.Nodup
  configured : ∀ name ∈ wallet.configurations, wallet.names.count name = 1
  found : ∀ name configuration, wallet.getConfiguration name = .ok configuration →
    ∃ index, wallet.getPortfolio name = .ok index
  reachable : ∀ index id doc, wallet.documentAt index id = some doc →
    ∃ name, wallet.getPortfolio name = .ok index

theorem getPortfolio_of_nodup {wallet : SecurityWallet} (hdistinct : wallet.names.Nodup)
    {index : Nat} {portfolio : Portfolio} (hlookup : wallet.portfolios[index]? = some portfolio) :
    wallet.getPortfolio portfolio.name = .ok index := by
  refine getPortfolio_eq_ok.2 ⟨portfolio, hlookup, rfl, fun earlier hearlier other hother hname => ?_⟩
  have hnames : wallet.names[earlier]? = wallet.names[index]? := by
    rw [names, List.getElem?_map, List.getElem?_map, hother, hlookup, Option.map_some,
      Option.map_some, hname]
  have hlength : earlier < wallet.names.length := by
    rw [names, List.length_map]
    exact (List.getElem?_eq_some_iff.1 hother).1
  exact absurd ((List.getElem?_inj hlength hdistinct).1 hnames) hearlier.ne

theorem onePortfolioPerName_iff {wallet : SecurityWallet}
    (hconfigured : Configured wallet.configurations.keys wallet.portfolios) :
    wallet.OnePortfolioPerName ↔ wallet.names.Nodup := by
  constructor
  · intro hone
    exact hone.distinct
  · intro hdistinct
    have hplace : ∀ name ∈ wallet.configurations, ∃ (index : Nat) (portfolio : Portfolio),
        wallet.portfolios[index]? = some portfolio ∧ portfolio.name = name := by
      intro name hname
      obtain ⟨portfolio, hmem, heq⟩ := hconfigured name (Std.ExtTreeMap.mem_keys.2 hname)
      obtain ⟨index, hindex⟩ := List.mem_iff_getElem?.1 hmem
      exact ⟨index, portfolio, hindex, heq⟩
    refine ⟨hdistinct, ?_, ?_, ?_⟩
    · intro name hname
      obtain ⟨index, portfolio, hindex, rfl⟩ := hplace name hname
      exact List.count_eq_one_of_mem hdistinct
        (List.mem_map_of_mem (List.mem_of_getElem? hindex))
    · intro name configuration hconfiguration
      rw [getConfiguration] at hconfiguration
      split at hconfiguration
      · next hlookup =>
          have hname : name ∈ wallet.configurations := by
            rw [← Std.ExtTreeMap.isSome_getElem?_iff_mem, hlookup, Option.isSome_some]
          obtain ⟨index, portfolio, hindex, rfl⟩ := hplace name hname
          exact ⟨index, getPortfolio_of_nodup hdistinct hindex⟩
      · cases hconfiguration
    · intro index id doc hdoc
      obtain ⟨portfolio, hlookup, -⟩ := Option.bind_eq_some_iff.1 hdoc
      exact ⟨portfolio.name, getPortfolio_of_nodup hdistinct hlookup⟩

/-- Adding the missing portfolios repeats no name. -/
theorem nodup_addMissingPortfolios {names : List String} {portfolios : List Portfolio} :
    ((addMissingPortfolios names portfolios).map Portfolio.name).Nodup ↔
      (portfolios.map Portfolio.name).Nodup := by
  induction names generalizing portfolios with
  | nil => rfl
  | cons name names ih =>
      rw [addMissingPortfolios_cons, ih]
      split
      · rfl
      · next hmissing =>
          have hfresh : name ∉ portfolios.map Portfolio.name := by
            intro hmem
            obtain ⟨portfolio, hportfolio, hname⟩ := List.mem_map.1 hmem
            exact hmissing (List.any_eq_true.2 ⟨portfolio, hportfolio, by simpa using hname⟩)
          rw [List.map_append, List.nodup_append]
          constructor
          · intro happend
            exact happend.1
          · intro hnodup
            refine ⟨hnodup, List.nodup_singleton name, fun other hother added hadded heq => hfresh ?_⟩
            rwa [← show added = name from List.mem_singleton.1 hadded, ← heq]

variable [Platform]

/-- The names of the portfolios a tree lists, as they are read. -/
def portfolioNames (root : SerializationInfo) : List (Except String String) :=
  match getMember root "portfolios" with
  | .ok portfolios => (children portfolios).map fun si => getStringMember si "name"
  | .error _ => []

/-- A database that is read, one of version 1, repeats no name. -/
def DatabaseNamesDistinct (database : Option String) : Prop :=
  ∀ text root, database = some text → Cxxtools.deserialize (strToBytes text) = .ok root →
    getUInt8Member root "version" = .ok 1 → (portfolioNames root).Nodup

/-- Loaded portfolios have the names of their trees. -/
theorem names_of_forall₂ {load : SerializationInfo → Except Exn Portfolio}
    (hload : ∀ si portfolio, load si = .ok portfolio →
      getStringMember si "name" = .ok portfolio.name)
    {sis : List SerializationInfo} {portfolios : List Portfolio}
    (hloaded : List.Forall₂ (fun si portfolio => load si = .ok portfolio) sis portfolios) :
    (sis.map fun si => getStringMember si "name") =
      (portfolios.map Portfolio.name).map Except.ok := by
  induction hloaded with
  | nil => rfl
  | cons hportfolio _ ih =>
      rw [List.map_cons, List.map_cons, List.map_cons, hload _ _ hportfolio, ih]

theorem nodup_portfolioNames {root portfolioSis : SerializationInfo}
    (hportfolios : getMember root "portfolios" = .ok portfolioSis)
    {load : SerializationInfo → Except Exn Portfolio}
    (hload : ∀ si portfolio, load si = .ok portfolio →
      getStringMember si "name" = .ok portfolio.name)
    {portfolios : List Portfolio}
    (hloaded : List.Forall₂ (fun si portfolio => load si = .ok portfolio)
      (children portfolioSis) portfolios) :
    (portfolioNames root).Nodup ↔ (portfolios.map Portfolio.name).Nodup := by
  rw [portfolioNames, hportfolios]
  dsimp only
  rw [names_of_forall₂ hload hloaded]
  exact List.nodup_map_iff fun _ _ heq => Except.ok.inj heq

theorem name_of_load {readDocument : SerializationInfo → Except Exn (Option Document)}
    {si : SerializationInfo} {start portfolio : Portfolio}
    (hload : (Portfolio.loadVersioned (Portfolio.loadDocuments readDocument si) si).result start =
      .ok portfolio) : getStringMember si "name" = .ok portfolio.name := by
  obtain ⟨name, _, -, hname, -, rfl⟩ := Portfolio.loadVersioned_result.1 hload
  exact hname

/-- After a start the names are distinct exactly if those in the database are. -/
theorem nodup_of_construct {disk : Disk} {wallet : SecurityWallet}
    (hconstruct : construct disk = some wallet) :
    wallet.names.Nodup ↔ DatabaseNamesDistinct disk.database := by
  obtain ⟨configurations, portfolios, -, hdatabase, rfl⟩ :=
    start_returns.1 (construct_eq_some.1 hconstruct)
  rw [names]
  dsimp only
  cases hfile : disk.database with
  | none =>
      rw [hfile] at hdatabase
      obtain rfl := returns_modify.1 hdatabase
      rw [nodup_addMissingPortfolios]
      exact iff_of_true List.nodup_nil (by rintro _ _ ⟨⟩)
  | some text =>
      rw [hfile] at hdatabase
      obtain ⟨root, version, hroot, hversion, hload⟩ := loadDatabase_returns.1 hdatabase
      split at hload
      · next hone =>
          obtain ⟨portfolioSis, loaded, hportfolios, hloaded, rfl⟩ := hload
          rw [nodup_addMissingPortfolios,
            ← nodup_portfolioNames hportfolios (fun _ _ => name_of_load) hloaded]
          constructor
          · rintro hnodup _ root' ⟨⟩ hroot' -
            rw [← Except.ok.inj (hroot.symm.trans hroot')]
            exact hnodup
          · intro hdistinct
            exact hdistinct text root rfl hroot (hone ▸ hversion)
      · next hother =>
          rw [hload, nodup_addMissingPortfolios]
          refine iff_of_true List.nodup_nil ?_
          rintro _ root' ⟨⟩ hroot' hone
          rw [← Except.ok.inj (hroot.symm.trans hroot'), hversion] at hone
          exact absurd (Except.ok.inj hone) hother

/-- The data of a restore repeats no name. -/
def RestoredNamesDistinct (feature : SecurityWalletServer.Feature) : Prop :=
  ∀ si, deserialize (strToBytes feature.data) = .ok si → (portfolioNames si).Nodup

/-- The names of the data of a restore are those of the portfolios it installs. -/
theorem nodup_of_readSRRData {wallet : SecurityWallet} {si : SerializationInfo}
    {passphrase version : String} {portfolios : List Portfolio}
    (hread : wallet.readSRRData si passphrase version = .ok portfolios) :
    (portfolioNames si).Nodup ↔ (portfolios.map Portfolio.name).Nodup := by
  obtain ⟨-, -, -, _, _, _, portfolioSis, -, -, -, hsis, hloaded⟩ := readSRRData_eq_ok.1 hread
  exact nodup_portfolioNames hsis (fun _ _ => name_of_load) hloaded

end SecurityWallet

namespace SecurityWalletServer

variable [Platform]

/-- A request, or the data of an SRR restore with its passphrase. -/
inductive Step where
  | request (request : Request)
  | restore (passpharse : String) (feature : Feature)

/-- What a step is answered with: frames, or the status of the restore. -/
def step : Machine SecurityWalletServer Step (List String ⊕ FeatureStatus)
  | .request request, server =>
      (.inl (handleRequest request server).1, (handleRequest request server).2)
  | .restore passpharse feature, server =>
      (.inr (restoreFeature passpharse featureSrrSecw feature server).1,
        (restoreFeature passpharse featureSrrSecw feature server).2)

/-- A restore is answered with success. -/
def Succeeds (input : Step) (server : SecurityWalletServer) : Prop :=
  ∀ error, (step input server).1 ≠ .inr (.failed error)

theorem step_persisted [LawfulCxxtools] (input : Step) {server : SecurityWalletServer}
    (hpersisted : server.activeWallet.Persisted) : (step input server).2.activeWallet.Persisted := by
  cases input with
  | request request => exact handleRequest_persisted request hpersisted
  | restore passpharse feature => exact restoreFeature_persisted passpharse _ feature hpersisted

omit [Platform] in
theorem SameFrame.names_eq {server next : SecurityWalletServer} (hframe : SameFrame server next) :
    next.activeWallet.names = server.activeWallet.names := hframe.2

/-- After a successful restore the names are distinct exactly if those in its data are. -/
theorem nodup_of_restore [LawfulCxxtools] {server : SecurityWalletServer} {passpharse : String}
    {feature : Feature} (hpersisted : server.activeWallet.Persisted)
    (hsucceeds : Succeeds (.restore passpharse feature) server) :
    (step (.restore passpharse feature) server).2.activeWallet.names.Nodup ↔
      SecurityWallet.RestoredNamesDistinct feature := by
  unfold SecurityWallet.RestoredNamesDistinct
  unfold Succeeds at hsucceeds
  unfold step restoreFeature at hsucceeds ⊢
  simp only [if_true] at hsucceeds ⊢
  cases hsi : deserialize (strToBytes feature.data) with
  | error e =>
      rw [hsi] at hsucceeds
      exact absurd rfl (hsucceeds e.what)
  | ok si =>
      rw [hsi] at hsucceeds
      rw [exec_bind_ok (exec_liftM _ _), onWallet, exec_zoom] at hsucceeds ⊢
      cases hread : server.activeWallet.readSRRData si passpharse feature.version with
      | error e =>
          rw [SecurityWallet.restoreSRRData_refused hread] at hsucceeds
          exact absurd rfl (hsucceeds e.what)
      | ok portfolios =>
          rw [SecurityWallet.restoreSRRData_installed hread, SecurityWallet.reload_installed
            (SecurityWallet.loadable_of_readSRRData hread) hpersisted.configuration,
            SecurityWallet.names]
          dsimp only
          rw [SecurityWallet.nodup_addMissingPortfolios, List.map_map]
          change (portfolios.map Portfolio.name).Nodup ↔ _
          rw [← SecurityWallet.nodup_of_readSRRData hread]
          constructor
          · rintro hnodup _ ⟨⟩
            exact hnodup
          · intro hdistinct
            exact hdistinct si rfl

/-- Names stay distinct along a run exactly if no restore repeats one. -/
theorem nodup_throughout_iff [LawfulCxxtools] {steps : List Step} {server : SecurityWalletServer}
    (hpersisted : server.activeWallet.Persisted)
    (hsucceed : Machine.Along step Succeeds steps server) :
    Machine.Throughout step (fun server => server.activeWallet.names.Nodup) steps server ↔
      server.activeWallet.names.Nodup ∧ ∀ passpharse feature,
        Step.restore passpharse feature ∈ steps →
          SecurityWallet.RestoredNamesDistinct feature := by
  induction steps generalizing server with
  | nil => simp [Machine.Throughout]
  | cons input steps ih =>
      rw [Machine.Throughout, ih (step_persisted input hpersisted) hsucceed.2]
      cases input with
      | request request =>
          have hnames := (handleRequest_sameFrame request server).names_eq
          simp [step, hnames]
      | restore passpharse feature =>
          rw [nodup_of_restore hpersisted hsucceed.1]
          simp only [List.mem_cons, Step.restore.injEq]
          constructor
          · rintro ⟨hstart, hfirst, hrest⟩
            refine ⟨hstart, fun passpharse' feature' hmem => ?_⟩
            rcases hmem with ⟨-, rfl⟩ | hmem
            · exact hfirst
            · exact hrest passpharse' feature' hmem
          · rintro ⟨hstart, hrestores⟩
            exact ⟨hstart, hrestores passpharse feature (.inl ⟨rfl, rfl⟩),
              fun passpharse' feature' hmem => hrestores passpharse' feature' (.inr hmem)⟩

/--
From a start on any files, along requests and successful restores, there is one portfolio of each
name in every state reached exactly if the database, where it is read, repeats no name and the data
of no restore does.
-/
theorem one_portfolio_per_name_iff [LawfulCxxtools] (disk : Disk) (wallet : SecurityWallet)
    (uuids : UuidSource) (randoms : RandomSource) (steps : List Step)
    (hconstruct : SecurityWallet.construct disk = some wallet)
    (hsucceed : Machine.Along step Succeeds steps { activeWallet := wallet, uuids, randoms }) :
    (∀ front, front <+: steps → (Machine.run step front
        { activeWallet := wallet, uuids, randoms }).2.activeWallet.OnePortfolioPerName) ↔
      SecurityWallet.DatabaseNamesDistinct disk.database ∧
        ∀ passpharse feature, Step.restore passpharse feature ∈ steps →
          SecurityWallet.RestoredNamesDistinct feature := by
  have hpersisted := SecurityWallet.persisted_of_construct hconstruct
  rw [← SecurityWallet.nodup_of_construct hconstruct]
  refine Iff.trans ?_ (nodup_throughout_iff hpersisted hsucceed)
  rw [Machine.throughout_iff]
  refine forall₂_congr fun front hfront => SecurityWallet.onePortfolioPerName_iff ?_
  exact (Machine.run_stable (P := fun server : SecurityWalletServer => server.activeWallet.Persisted)
    (fun input _ => step_persisted input) front hpersisted).configured

end SecurityWalletServer

/-! ### Two portfolios of one name -/

namespace Reference

open scoped Reference

/-- The second of two portfolios of one name, which has a document, is never found. -/
theorem construct_twin_portfolios :
    SecurityWallet.construct (savedDisk [{}, portfolio (document ["u1"] "secret")]) =
        some (server [{}, portfolio (document ["u1"] "secret")]).activeWallet ∧
      ¬ (server [{}, portfolio (document ["u1"] "secret")]).activeWallet.OnePortfolioPerName := by
  constructor
  · apply construct_of_saved
    · intro loaded hmem
      rcases List.mem_cons.1 hmem with rfl | hmem
      · exact Portfolio.loadable_named "default"
      · rw [List.mem_singleton.1 hmem]
        exact loadable_portfolio rfl
    · rw [List.map_cons, List.map_singleton, asLoaded_portfolio rfl]
      rfl
    · intro name hname
      exact ⟨{}, List.mem_cons_self, (List.mem_singleton.1 hname).symm⟩
  · intro hone
    have hdistinct := hone.distinct
    revert hdistinct
    decide

theorem started_has_one_portfolio_per_name :
    (∀ front, front <+: [SecurityWalletServer.Step.request ⟨"alice", ["GET_PORTFOLIO_LIST"]⟩] →
      (Machine.run SecurityWalletServer.step front started).2.activeWallet.OnePortfolioPerName) ↔
      SecurityWallet.DatabaseNamesDistinct
          (savedDisk [portfolio (document ["u1"] "secret")]).database ∧
        ∀ passpharse feature, SecurityWalletServer.Step.restore passpharse feature ∈
            [SecurityWalletServer.Step.request ⟨"alice", ["GET_PORTFOLIO_LIST"]⟩] →
          SecurityWallet.RestoredNamesDistinct feature :=
  SecurityWalletServer.one_portfolio_per_name_iff _ _ uuids randoms _ (construct_savedDisk rfl rfl)
    ⟨nofun, trivial⟩

end Reference

end Secw
