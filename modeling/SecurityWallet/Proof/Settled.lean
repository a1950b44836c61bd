import SecurityWallet.Proof.LoadedIndexes
import SecurityWallet.Proof.Srr

/-!
# Settled wallets

A wallet is settled when its database file is what `save` would write now, both files load, and every
portfolio is consistent. Requests keep a wallet settled, a restart rebuilds it with the same
documents, and a restore of a backup takes it to the documents of the backup.
-/

open Foundation SerializationInfo Effect

namespace Secw

/-! ### Portfolios as they are loaded -/

namespace Portfolio

/-- Distinct ids and distinct names are repeated together: never. -/
theorem namesFollowIds_of_injective {docs : List Document}
    (hnodup : (docs.map Document.id).Nodup)
    (hnames : ∀ doc ∈ docs, ∀ other ∈ docs, doc.name = other.name → doc.id = other.id) :
    NamesFollowIds docs := by
  unfold NamesFollowIds
  induction docs with
  | nil => trivial
  | cons doc docs ih =>
      rw [List.map_cons, List.nodup_cons] at hnodup
      have hid : ¬ ∃ other ∈ docs, other.id = doc.id := by
        rintro ⟨other, hother, hid⟩
        exact hnodup.1 (hid ▸ List.mem_map_of_mem hother)
      have hname : ¬ ∃ other ∈ docs, other.name = doc.name := by
        rintro ⟨other, hother, hname⟩
        exact hid ⟨other, hother,
          hnames other (List.mem_cons_of_mem doc hother) doc List.mem_cons_self hname⟩
      refine ⟨iff_of_false hid hname, ih hnodup.2 ?_⟩
      intro first hfirst second hsecond
      exact hnames first (List.mem_cons_of_mem doc hfirst) second (List.mem_cons_of_mem doc hsecond)

theorem Consistent.nodup_ids {portfolio : Portfolio} (hconsistent : portfolio.Consistent) :
    (portfolio.getListDocuments.map Document.id).Nodup := by
  rw [List.Nodup, List.pairwise_map]
  refine (StdMap.pairwise_valueList Document.id fun _ _ => hconsistent.keyed).imp ?_
  intro doc other hlt hid
  exact absurd hlt (by simp [hid])

theorem Consistent.asLoaded {portfolio : Portfolio} (hconsistent : portfolio.Consistent) :
    portfolio.asLoaded.Consistent := by
  rw [Portfolio.asLoaded, consistent_ofDocuments_iff]
  apply namesFollowIds_of_injective
  · have hnodup := hconsistent.nodup_ids
    rwa [List.map_map]
  · intro doc hdoc other hother hname
    obtain ⟨first, hfirst, rfl⟩ := List.mem_map.1 hdoc
    obtain ⟨second, hsecond, rfl⟩ := List.mem_map.1 hother
    obtain ⟨id, hid⟩ := StdMap.mem_valueList.1 hfirst
    obtain ⟨id', hid'⟩ := StdMap.mem_valueList.1 hsecond
    have heq := hconsistent.indexes.unique hid hid' hname
    rw [Document.content_id, Document.content_id, hconsistent.keyed hid, hconsistent.keyed hid', heq]

/-- What was loaded is written as what was saved. -/
theorem Loadable.serialize_asLoaded [Certificates] {portfolio : Portfolio}
    (hloadable : portfolio.Loadable) (si : SerializationInfo) :
    portfolio.asLoaded.serializePortfolio si = portfolio.serializePortfolio si := by
  have hlist : portfolio.asLoaded.getListDocuments =
      portfolio.getListDocuments.map Document.content := by
    rw [getListDocuments, hloadable.asLoaded_documents, StdMap.valueList_mapValues]
    rfl
  unfold serializePortfolio
  rw [hlist, ofList, ofList, List.map_map]
  rfl

end Portfolio

theorem AllConsistent.asLoaded {portfolios : List Portfolio} (hall : AllConsistent portfolios) :
    AllConsistent (portfolios.map Portfolio.asLoaded) := by
  intro portfolio hmem
  obtain ⟨saved, hsaved, rfl⟩ := List.mem_map.1 hmem
  exact (hall saved hsaved).asLoaded

namespace SecurityWallet

variable [Platform]

theorem databaseTree_asLoaded {portfolios : List Portfolio}
    (hloadable : ∀ portfolio ∈ portfolios, portfolio.Loadable) :
    databaseTree (portfolios.map Portfolio.asLoaded) = databaseTree portfolios := by
  have hlist : ofList (fun portfolio => Portfolio.serializePortfolio portfolio .null)
        (portfolios.map Portfolio.asLoaded) =
      ofList (fun portfolio => portfolio.serializePortfolio .null) portfolios := by
    rw [ofList, ofList, List.map_map]
    congr 1
    apply List.map_congr_left
    intro portfolio hmem
    exact (hloadable portfolio hmem).serialize_asLoaded .null
  unfold databaseTree
  rw [hlist]

/-- The files load, the database is up to date, and every portfolio is consistent. -/
structure Settled (wallet : SecurityWallet) : Prop where
  loadable : ∀ portfolio ∈ wallet.portfolios, portfolio.Loadable
  consistent : AllConsistent wallet.portfolios
  configured : Configured wallet.configurations.keys wallet.portfolios
  configuration :
    Returns (loadConfiguration wallet.disk.configuration) ∅ () wallet.configurations
  saved : wallet.disk.database =
    some (Cxxtools.serialize true (databaseTree wallet.portfolios))

omit [Platform] in
theorem Configured.asLoaded {names : List String} {portfolios : List Portfolio}
    (hconfigured : Configured names portfolios) :
    Configured names (portfolios.map Portfolio.asLoaded) := by
  intro name hname
  obtain ⟨portfolio, hmem, heq⟩ := hconfigured name hname
  exact ⟨portfolio.asLoaded, List.mem_map_of_mem hmem, heq⟩

/-- The wallet with its portfolios as they come back from the database. -/
def rebuilt (wallet : SecurityWallet) : SecurityWallet :=
  { wallet with portfolios := wallet.portfolios.map Portfolio.asLoaded }

theorem Settled.rebuilt {wallet : SecurityWallet} (hsettled : wallet.Settled) :
    wallet.rebuilt.Settled where
  loadable := by
    intro portfolio hmem
    obtain ⟨saved, hsaved, rfl⟩ := List.mem_map.1 hmem
    exact (hsettled.loadable saved hsaved).asLoaded
  consistent := hsettled.consistent.asLoaded
  configured := hsettled.configured.asLoaded
  configuration := hsettled.configuration
  saved := by
    unfold SecurityWallet.rebuilt
    dsimp only
    rw [databaseTree_asLoaded hsettled.loadable]
    exact hsettled.saved

/-- A wallet built from the files of a settled one is that wallet, rebuilt. -/
theorem Settled.construct [LawfulCxxtools] {wallet : SecurityWallet} (hsettled : wallet.Settled) :
    SecurityWallet.construct wallet.disk = some wallet.rebuilt := by
  have hload := loadDatabase_databaseTree hsettled.loadable wallet.configurations.keys []
  rw [addMissingPortfolios_of_configured hsettled.configured.asLoaded, ← hsettled.saved] at hload
  refine construct_eq_some.2 (start_returns.2 ⟨_, _, hsettled.configuration, hload, ?_⟩)
  rw [databaseTree_asLoaded hsettled.loadable, ← hsettled.saved]
  rfl

/-- With the portfolios of a settled wallet installed, a settled one is that wallet after a reload. -/
theorem Settled.reload_installed [LawfulCxxtools] {wallet other : SecurityWallet}
    (hsettled : wallet.Settled) (hother : other.Settled)
    (hconfigured : Configured other.configurations.keys wallet.portfolios) :
    reload.exec (other.installed wallet.portfolios) =
        (.ok (), (other.installed wallet.portfolios).rebuilt) ∧
      (other.installed wallet.portfolios).rebuilt.Settled := by
  refine ⟨?_, Settled.rebuilt ⟨hsettled.loadable, hsettled.consistent, hconfigured,
    hother.configuration, rfl⟩⟩
  rw [SecurityWallet.reload_installed hsettled.loadable hother.configuration,
    addMissingPortfolios_of_configured hconfigured.asLoaded]
  rfl

end SecurityWallet

namespace SecurityWalletServer

variable [Platform] [LawfulCxxtools]

theorem Change.settled {server next : SecurityWalletServer} {sender : Sender} {command : Command}
    {params : List String} {result : String}
    (hchange : Change server sender command params result next)
    (hsettled : server.activeWallet.Settled) : next.activeWallet.Settled := by
  have hpersisted := hchange.persisted (SecurityWallet.persisted_of_saved hsettled.loadable
    hsettled.configured hsettled.configuration hsettled.saved)
  refine ⟨hpersisted.loadable, hchange.consistent hsettled.consistent, hpersisted.configured,
    hpersisted.configuration, ?_⟩
  obtain ⟨index, portfolio, nextPortfolio, uuids, notification, -, rfl, -⟩ := hchange.eq_commit
  rfl

theorem ReachableFromEmpty.settled {server : SecurityWalletServer}
    (hreachable : ReachableFromEmpty server) : server.activeWallet.Settled := by
  induction hreachable with
  | start uuids randoms hempty hconstruct =>
      have hpersisted := SecurityWallet.persisted_of_construct hconstruct
      refine ⟨hpersisted.loadable,
        (ReachableFromEmpty.start uuids randoms hempty hconstruct).consistent,
        hpersisted.configured, hpersisted.configuration, ?_⟩
      obtain ⟨configurations, portfolios, -, -, rfl⟩ :=
        SecurityWallet.start_returns.1 (SecurityWallet.construct_eq_some.1 hconstruct)
      rfl
  | @serve server request _ ih =>
      have houtcome := handleRequest_outcome request server
      generalize (handleRequest request server).1 = frames at houtcome
      generalize (handleRequest request server).2 = next at houtcome ⊢
      cases houtcome with
      | changed _ _ hchange => exact hchange.settled ih
      | _ => exact ih

end SecurityWalletServer

end Secw
