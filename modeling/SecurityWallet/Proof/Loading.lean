import SecurityWallet.Proof.DocumentCodec
import SecurityWallet.Wallet

/-!
# What the loaders return

A portfolio that was loaded holds the documents of its tree that were accepted, indexed by id and by
name. A database that was loaded holds the portfolios of its tree, and empty ones for the configured
names that were missing.
-/

open Foundation SerializationInfo Effect

namespace Secw

/-! ### Portfolios -/

namespace Portfolio

/-- The document a loader stores, if it stores one. -/
def accepted : Except Exn (Option Document) → Option Document
  | .ok doc => doc
  | .error _ => none

/-- A portfolio in which the documents were stored one after the other. -/
def ofDocuments (name : String) (docs : List Document) : Portfolio where
  name
  documents := StdMap.indexBy Document.id docs ∅
  mapNameDocuments := StdMap.indexBy Document.name docs ∅

theorem of_lookup_ofDocuments {name : String} {docs : List Document} {id : Id} {doc : Document}
    (hlookup : (ofDocuments name docs).documents[id]? = some doc) : doc ∈ docs ∧ doc.id = id := by
  simpa using StdMap.of_lookup_indexBy hlookup

theorem foldl_loadDocument (readDocument : SerializationInfo → Except Exn (Option Document))
    (documents : List SerializationInfo) (portfolio : Portfolio) :
    documents.foldl (fun portfolio si => portfolio.loadDocument (readDocument si)) portfolio =
      { portfolio with
        documents := StdMap.indexBy Document.id
          (documents.filterMap fun si => accepted (readDocument si)) portfolio.documents
        mapNameDocuments := StdMap.indexBy Document.name
          (documents.filterMap fun si => accepted (readDocument si))
          portfolio.mapNameDocuments } := by
  induction documents generalizing portfolio with
  | nil => rfl
  | cons si documents ih =>
      rw [List.foldl_cons, ih, List.filterMap_cons]
      cases readDocument si with
      | error e => rfl
      | ok doc => cases doc <;> rfl

/-- Documents are stored under their id and are valid: what the loader keeps and finds again. -/
structure Loadable [Certificates] (portfolio : Portfolio) : Prop where
  keyed : ∀ {id : Id} {doc : Document}, portfolio.documents[id]? = some doc → doc.id = id
  valid : ∀ {id : Id} {doc : Document}, portfolio.documents[id]? = some doc → doc.validate = .ok ()

variable [Cxxtools]

theorem loadVersioned_result {readDocument : SerializationInfo → Except Exn (Option Document)}
    {si : SerializationInfo} {start next : Portfolio} :
    (loadVersioned (loadDocuments readDocument si) si).result start = .ok next ↔
      ∃ name documents, getUInt8Member si "version" = .ok 1 ∧
        getStringMember si "name" = .ok name ∧ getMember si "documents" = .ok documents ∧
        next = ofDocuments name
          ((children documents).filterMap fun si => accepted (readDocument si)) := by
  rw [result_eq_ok, loadVersioned]
  simp only [returns_bind, returns_liftM, returns_modify, badFormat, orThrow_eq_ok, liftStd_eq_ok]
  constructor
  · rintro ⟨version, _, ⟨hversion, rfl⟩, ⟨⟩, _, rfl, hload⟩
    split at hload
    · next hone =>
        subst hone
        simp only [loadDocuments, returns_bind, returns_get, returns_liftM, returns_modify,
          badFormat, orThrow_eq_ok, liftStd_eq_ok, foldl_loadDocument] at hload
        obtain ⟨_, _, ⟨rfl, rfl⟩, name, _, ⟨hname, rfl⟩, ⟨⟩, _, rfl, documents, _,
          ⟨hdocuments, rfl⟩, rfl⟩ := hload
        exact ⟨name, documents, hversion, hname, hdocuments, rfl⟩
    · exact absurd hload not_returns_throw
  · rintro ⟨name, documents, hversion, hname, hdocuments, rfl⟩
    refine ⟨1, _, ⟨hversion, rfl⟩, ⟨⟩, _, rfl, ?_⟩
    rw [if_pos rfl]
    simp only [loadDocuments, returns_bind, returns_get, returns_liftM, returns_modify,
      badFormat, orThrow_eq_ok, liftStd_eq_ok, foldl_loadDocument]
    exact ⟨_, _, ⟨rfl, rfl⟩, name, _, ⟨hname, rfl⟩, ⟨⟩, _, rfl, documents, _,
      ⟨hdocuments, rfl⟩, rfl⟩

variable [Certificates]

theorem accepted_readDocument {si : SerializationInfo} {doc : Document} :
    accepted (readDocument si) = some doc ↔ Document.read si none = .ok doc ∧ doc.validate = .ok () := by
  have hread : accepted (readDocument si) = some doc ↔ readDocument si = .ok (some doc) := by
    unfold accepted
    cases readDocument si <;> simp
  rw [hread, readDocument]
  simp only [bind_eq_ok, pure_eq_ok, Option.some_inj]
  constructor
  · rintro ⟨_, hdoc, _, hvalid, rfl⟩
    exact ⟨hdoc, hvalid⟩
  · rintro ⟨hdoc, hvalid⟩
    exact ⟨doc, hdoc, (), hvalid, rfl⟩

omit [Cxxtools] in
theorem loadable_ofDocuments (name : String) {docs : List Document}
    (hvalid : ∀ doc ∈ docs, doc.validate = .ok ()) : (ofDocuments name docs).Loadable where
  keyed hdoc := (of_lookup_ofDocuments hdoc).2
  valid hdoc := hvalid _ (of_lookup_ofDocuments hdoc).1

omit [Cxxtools] in
theorem loadable_named (name : String) : Loadable { name } where
  keyed := by simp
  valid := by simp

/-- Whatever the tree, what was loaded from a database could be loaded again. -/
theorem loadable_of_loadPortfolio {si : SerializationInfo} {start next : Portfolio}
    (hload : (loadPortfolio si).result start = .ok next) : next.Loadable := by
  obtain ⟨name, documents, -, -, -, rfl⟩ := loadVersioned_result.1 hload
  refine loadable_ofDocuments name fun doc hdoc => ?_
  obtain ⟨si, -, haccepted⟩ := List.mem_filterMap.1 hdoc
  exact (accepted_readDocument.1 haccepted).2

theorem accepted_readDocumentSRR [OpenSSL] {encryptiondKey : String} {isSameInstance : Bool}
    {si : SerializationInfo} {doc : Document} :
    accepted (readDocumentSRR encryptiondKey isSameInstance si) = some doc ↔
      Document.createFromSRR si encryptiondKey = .ok doc ∧
        (isSameInstance = true ∨ doc.getType ≠ "InternalCertificate") ∧ doc.validate = .ok () := by
  have hread : accepted (readDocumentSRR encryptiondKey isSameInstance si) = some doc ↔
      readDocumentSRR encryptiondKey isSameInstance si = .ok (some doc) := by
    unfold accepted
    cases readDocumentSRR encryptiondKey isSameInstance si <;> simp
  rw [hread, readDocumentSRR]
  simp only [bind_eq_ok]
  constructor
  · rintro ⟨created, hcreated, hrest⟩
    split at hrest
    · cases hrest
    · next hkept =>
        simp only [bind_eq_ok, pure_eq_ok, Option.some_inj] at hrest
        obtain ⟨_, hvalid, rfl⟩ := hrest
        refine ⟨hcreated, ?_, hvalid⟩
        by_cases hsame : isSameInstance = true
        · exact .inl hsame
        · exact .inr fun htype => hkept ⟨hsame, htype⟩
  · rintro ⟨hcreated, hkept, hvalid⟩
    refine ⟨doc, hcreated, ?_⟩
    rw [if_neg (by tauto)]
    exact bind_eq_ok.2 ⟨(), hvalid, rfl⟩

theorem loadable_of_loadPortfolioFromSRR [OpenSSL] {si : SerializationInfo}
    {encryptiondKey : String} {isSameInstance : Bool} {start next : Portfolio}
    (hload : (loadPortfolioFromSRR si encryptiondKey isSameInstance).result start = .ok next) :
    next.Loadable := by
  obtain ⟨name, documents, -, -, -, rfl⟩ := loadVersioned_result.1 hload
  refine loadable_ofDocuments name fun doc hdoc => ?_
  obtain ⟨si, -, haccepted⟩ := List.mem_filterMap.1 hdoc
  exact (accepted_readDocumentSRR.1 haccepted).2.2

/-- A portfolio as it comes back from the database. -/
def asLoaded (portfolio : Portfolio) : Portfolio :=
  ofDocuments portfolio.name (portfolio.getListDocuments.map Document.content)

omit [Cxxtools] in
theorem Loadable.asLoaded_documents {portfolio : Portfolio} (hloadable : portfolio.Loadable) :
    portfolio.asLoaded.documents = portfolio.documents.mapValues Document.content := by
  rw [asLoaded, ofDocuments, getListDocuments, ← StdMap.valueList_mapValues]
  refine StdMap.indexBy_valueList Document.id _ fun id doc hdoc => ?_
  rw [StdMap.lookup_mapValues, Option.map_eq_some_iff] at hdoc
  obtain ⟨stored, hstored, rfl⟩ := hdoc
  rw [Document.content_id]
  exact hloadable.keyed hstored

omit [Cxxtools] in
theorem Loadable.asLoaded {portfolio : Portfolio} (hloadable : portfolio.Loadable) :
    portfolio.asLoaded.Loadable := by
  refine loadable_ofDocuments portfolio.name fun doc hdoc => ?_
  obtain ⟨stored, hstored, rfl⟩ := List.mem_map.1 hdoc
  obtain ⟨id, hid⟩ := StdMap.mem_valueList.1 hstored
  exact Document.validate_content (hloadable.valid hid)

/-- Every document of a loadable portfolio is accepted again as it was written. -/
theorem Loadable.accepted_written [LawfulCxxtools] {portfolio : Portfolio}
    (hloadable : portfolio.Loadable) :
    (portfolio.getListDocuments.map fun doc => doc.fillSerializationInfoWithSecret .null).filterMap
        (fun si => accepted (readDocument si)) =
      portfolio.getListDocuments.map Document.content := by
  rw [List.filterMap_map, ← List.filterMap_eq_map]
  refine List.filterMap_congr fun doc hdoc => ?_
  obtain ⟨id, hid⟩ := StdMap.mem_valueList.1 hdoc
  exact accepted_readDocument.2 ⟨doc.read_withSecret,
    Document.validate_content (hloadable.valid hid)⟩

theorem Loadable.loadPortfolio_serialize [LawfulCxxtools] {portfolio : Portfolio}
    (hloadable : portfolio.Loadable) (start : Portfolio) :
    (loadPortfolio (portfolio.serializePortfolio .null)).result start =
      .ok portfolio.asLoaded := by
  rw [loadPortfolio, loadPortfolioVersion1, loadVersioned_result]
  refine ⟨portfolio.name, _, ?_, getStringMember_of_findMember rfl, getMember_of_findMember rfl, ?_⟩
  · rw [getUInt8Member, bind_eq_ok]
    exact ⟨_, getMember_of_findMember rfl, LawfulCxxtools.getUInt8_ofUInt8 1⟩
  · rw [ofList, children_arr, hloadable.accepted_written]
    rfl

end Portfolio

/-! ### The database -/

namespace SecurityWallet

/-- Every name of the list is that of a portfolio. -/
def Configured (names : List String) (portfolios : List Portfolio) : Prop :=
  ∀ name ∈ names, ∃ portfolio ∈ portfolios, portfolio.name = name

theorem addMissingPortfolios_cons (name : String) (names : List String)
    (portfolios : List Portfolio) :
    addMissingPortfolios (name :: names) portfolios =
      addMissingPortfolios names
        (if portfolios.any fun portfolio => portfolio.name = name then portfolios
          else portfolios ++ [{ name := name }]) := rfl

theorem addMissingPortfolios_of_configured {names : List String} {portfolios : List Portfolio}
    (hconfigured : Configured names portfolios) :
    addMissingPortfolios names portfolios = portfolios := by
  induction names with
  | nil => rfl
  | cons name names ih =>
      obtain ⟨portfolio, hmem, hname⟩ := hconfigured name List.mem_cons_self
      rw [addMissingPortfolios_cons, if_pos]
      · exact ih fun other hother => hconfigured other (List.mem_cons_of_mem name hother)
      · exact List.any_eq_true.2 ⟨portfolio, hmem, by simpa using hname⟩

/-- Empty portfolios are appended, so that every configured name has a portfolio. -/
theorem addMissingPortfolios_append (names : List String) (portfolios : List Portfolio) :
    ∃ added, addMissingPortfolios names portfolios = portfolios ++ added ∧
      (∀ portfolio ∈ added, ∃ name, portfolio = { name := name }) ∧
      Configured names (addMissingPortfolios names portfolios) := by
  induction names generalizing portfolios with
  | nil => exact ⟨[], by simp [addMissingPortfolios], by simp, by simp [Configured]⟩
  | cons name names ih =>
      rw [addMissingPortfolios_cons]
      split
      · next hfound =>
          obtain ⟨portfolio, hmem, hname⟩ := List.any_eq_true.1 hfound
          obtain ⟨added, happend, hempty, hconfigured⟩ := ih portfolios
          refine ⟨added, happend, hempty, ?_⟩
          rintro other (_ | ⟨_, hother⟩)
          · refine ⟨portfolio, ?_, by simpa using hname⟩
            rw [happend]
            exact List.mem_append_left _ hmem
          · exact hconfigured other hother
      · obtain ⟨added, happend, hempty, hconfigured⟩ := ih (portfolios ++ [{ name := name }])
        refine ⟨{ name := name } :: added, ?_, ?_, ?_⟩
        · rw [happend, List.append_assoc]
          rfl
        · rintro portfolio (_ | ⟨_, hportfolio⟩)
          · exact ⟨name, rfl⟩
          · exact hempty portfolio hportfolio
        · rintro other (_ | ⟨_, hother⟩)
          · refine ⟨{ name := name }, ?_, rfl⟩
            rw [happend]
            simp
          · exact hconfigured other hother

variable [Platform]

theorem loadPortfolios_returns {sis : List SerializationInfo} {portfolios next : List Portfolio}
    {a : Unit} :
    Returns (loadPortfolios sis) portfolios a next ↔
      ∃ loaded, next = portfolios ++ loaded ∧
        List.Forall₂ (fun si portfolio => (Portfolio.loadPortfolio si).result {} = .ok portfolio)
          sis loaded := by
  induction sis generalizing portfolios with
  | nil => simp [loadPortfolios, returns_pure, eq_comm]
  | cons si sis ih =>
      have hload : ∀ portfolio, (Portfolio.loadPortfolio si).result {} = .ok portfolio ↔
          (Portfolio.loadPortfolio si).exec {} = (.ok (), portfolio) := fun _ => result_eq_ok
      simp only [loadPortfolios, returns_bind, returns_modify, returns_liftM, hload, ih,
        List.forall₂_cons_left_iff]
      generalize (Portfolio.loadPortfolio si).exec {} = run
      obtain ⟨outcome, portfolio⟩ := run
      constructor
      · rintro ⟨⟨⟩, _, rfl, ⟨⟩, _, ⟨rfl, rfl⟩, loaded, rfl, hloaded⟩
        exact ⟨portfolio :: loaded, by simp, portfolio, loaded, rfl, hloaded, rfl⟩
      · rintro ⟨_, rfl, _, loaded, ⟨⟩, hloaded, rfl⟩
        exact ⟨⟨⟩, _, rfl, ⟨⟩, _, ⟨rfl, rfl⟩, loaded, by simp, hloaded⟩

/-- A database of version 1 gives its portfolios, one of any other version none. -/
theorem loadDatabase_returns {text : String} {names : List String} {start next : List Portfolio} :
    Returns (loadDatabase (some text) names) start () next ↔
      ∃ root version, Cxxtools.deserialize (strToBytes text) = .ok root ∧
        getUInt8Member root "version" = .ok version ∧
        if version = 1 then
          ∃ portfolios loaded, getMember root "portfolios" = .ok portfolios ∧
            List.Forall₂
              (fun si portfolio => (Portfolio.loadPortfolio si).result {} = .ok portfolio)
              (children portfolios) loaded ∧
            next = addMissingPortfolios names loaded
        else next = addMissingPortfolios names start := by
  simp only [loadDatabase, Option.isSome_some, if_true, readFile, Option.getD_some, returns_bind,
    returns_liftM, liftStd_eq_ok]
  constructor
  · rintro ⟨root, _, ⟨hroot, rfl⟩, version, _, ⟨hversion, rfl⟩, hload⟩
    refine ⟨root, version, hroot, hversion, ?_⟩
    split at hload
    · next hone =>
        rw [if_pos hone]
        simp only [returns_bind, returns_liftM, returns_set, loadPortfolios_returns, liftStd_eq_ok,
          returns_modify] at hload
        obtain ⟨portfolios, _, ⟨hportfolios, rfl⟩, ⟨⟩, _, rfl, ⟨⟩, _, ⟨loaded, rfl, hloaded⟩, rfl⟩ :=
          hload
        exact ⟨portfolios, _, hportfolios, hloaded, rfl⟩
    · next hone =>
        rw [if_neg hone]
        exact (returns_modify.1 hload).symm
  · rintro ⟨root, version, hroot, hversion, hload⟩
    refine ⟨root, _, ⟨hroot, rfl⟩, version, _, ⟨hversion, rfl⟩, ?_⟩
    split at hload
    · next hone =>
        rw [if_pos hone]
        obtain ⟨portfolios, loaded, hportfolios, hloaded, rfl⟩ := hload
        simp only [returns_bind, returns_liftM, returns_set, loadPortfolios_returns, liftStd_eq_ok,
          returns_modify]
        exact ⟨portfolios, _, ⟨hportfolios, rfl⟩, ⟨⟩, _, rfl, ⟨⟩, _, ⟨loaded, rfl, hloaded⟩, rfl⟩
    · next hone =>
        rw [if_neg hone]
        exact returns_modify.2 hload.symm

/-- Whatever the database, what was loaded from it could be loaded again. -/
theorem of_loadDatabase {file : Option String} {names : List String} {next : List Portfolio}
    (hload : Returns (loadDatabase file names) [] () next) :
    (∀ portfolio ∈ next, portfolio.Loadable) ∧ Configured names next := by
  have hloaded : ∃ loaded, next = addMissingPortfolios names loaded ∧
      ∀ portfolio ∈ loaded, portfolio.Loadable := by
    cases file with
    | none => exact ⟨[], (returns_modify.1 hload).symm, by simp⟩
    | some text =>
        obtain ⟨root, version, -, -, hversion⟩ := loadDatabase_returns.1 hload
        split at hversion
        · obtain ⟨portfolios, loaded, -, hloaded, rfl⟩ := hversion
          refine ⟨loaded, rfl, fun portfolio hmem => ?_⟩
          obtain ⟨si, -, hportfolio⟩ := exists_mem_of_forall₂ hloaded hmem
          exact Portfolio.loadable_of_loadPortfolio hportfolio
        · exact ⟨[], hversion, by simp⟩
  obtain ⟨loaded, rfl, hloadable⟩ := hloaded
  obtain ⟨added, happend, hempty, hconfigured⟩ := addMissingPortfolios_append names loaded
  refine ⟨fun portfolio hmem => ?_, hconfigured⟩
  rw [happend, List.mem_append] at hmem
  rcases hmem with hmem | hmem
  · exact hloadable portfolio hmem
  · obtain ⟨name, rfl⟩ := hempty portfolio hmem
    exact Portfolio.loadable_named name

/-- A database that was saved is loaded again. -/
theorem loadDatabase_databaseTree [LawfulCxxtools] {portfolios : List Portfolio}
    (hloadable : ∀ portfolio ∈ portfolios, portfolio.Loadable) (names : List String)
    (start : List Portfolio) :
    Returns (loadDatabase (some (Cxxtools.serialize true (databaseTree portfolios))) names) start ()
      (addMissingPortfolios names (portfolios.map Portfolio.asLoaded)) := by
  rw [loadDatabase_returns]
  refine ⟨databaseTree portfolios, 1, LawfulCxxtools.deserialize_serialize true _, ?_, ?_⟩
  · rw [getUInt8Member, bind_eq_ok]
    exact ⟨_, getMember_of_findMember rfl, LawfulCxxtools.getUInt8_ofUInt8 1⟩
  · rw [if_pos rfl]
    refine ⟨_, _, getMember_of_findMember rfl, ?_, rfl⟩
    rw [ofList, children_arr, List.forall₂_map_left_iff, List.forall₂_map_right_iff]
    exact List.forall₂_same.2 fun portfolio hmem =>
      (hloadable portfolio hmem).loadPortfolio_serialize {}

/-! ### The configuration -/

theorem insertConfigurations_returns {sis : List SerializationInfo}
    {configurations next : StdMap String PortfolioConfiguration} {a : Unit} :
    Returns (insertConfigurations sis) configurations a next ↔
      ∃ configs, List.Forall₂ (fun si config => PortfolioConfiguration.read si = .ok config)
          sis configs ∧
        (configs.map PortfolioConfiguration.portfolioName).Nodup ∧
        (∀ config ∈ configs, config.portfolioName ∉ configurations) ∧
        next = StdMap.indexBy PortfolioConfiguration.portfolioName configs configurations := by
  induction sis generalizing configurations with
  | nil => simp [insertConfigurations, returns_pure, eq_comm]
  | cons si sis ih =>
      have hinsert : ∀ (config : PortfolioConfiguration) (configs : List PortfolioConfiguration),
          (∀ other ∈ configs,
            other.portfolioName ∉ configurations.insert config.portfolioName config) ↔
          config.portfolioName ∉ configs.map PortfolioConfiguration.portfolioName ∧
            ∀ other ∈ configs, other.portfolioName ∉ configurations := by
        intro config configs
        simp only [Std.ExtTreeMap.mem_insert, compare_eq_iff_eq, not_or, List.mem_map, not_exists,
          not_and]
        constructor
        · intro h
          exact ⟨fun other hother heq => (h other hother).1 heq.symm,
            fun other hother => (h other hother).2⟩
        · intro h other hother
          exact ⟨fun heq => h.1 other hother heq.symm, h.2 other hother⟩
      simp only [insertConfigurations, returns_bind, returns_liftM, returns_get, liftStd_eq_ok,
        List.forall₂_cons_left_iff]
      constructor
      · rintro ⟨config, _, ⟨hread, rfl⟩, _, _, ⟨rfl, rfl⟩, hrest⟩
        split at hrest
        · exact absurd hrest not_returns_throw
        · next hnew =>
            simp only [returns_bind, returns_modify, ih] at hrest
            obtain ⟨⟨⟩, _, rfl, configs, hconfigs, hnodup, hfresh, rfl⟩ := hrest
            obtain ⟨hother, hfresh⟩ := (hinsert config configs).1 hfresh
            refine ⟨config :: configs, ⟨config, configs, hread, hconfigs, rfl⟩,
              List.nodup_cons.2 ⟨hother, hnodup⟩, ?_, rfl⟩
            rintro other (_ | ⟨_, hmem⟩)
            · simpa using hnew
            · exact hfresh other hmem
      · rintro ⟨_, ⟨config, configs, hread, hconfigs, rfl⟩, hnodup, hfresh, rfl⟩
        rw [List.map_cons, List.nodup_cons] at hnodup
        refine ⟨config, _, ⟨hread, rfl⟩, _, _, ⟨rfl, rfl⟩, ?_⟩
        rw [if_neg (by simpa using hfresh config List.mem_cons_self)]
        simp only [returns_bind, returns_modify, ih]
        refine ⟨⟨⟩, _, rfl, configs, hconfigs, hnodup.2, (hinsert config configs).2 ⟨hnodup.1, ?_⟩,
          rfl⟩
        exact fun other hother => hfresh other (List.mem_cons_of_mem config hother)

/-- The file lists the configurations, at least one, each of a name of its own. -/
def AcceptedConfiguration (file : Option String) (configs : List PortfolioConfiguration) : Prop :=
  ∃ text root, file = some text ∧ Cxxtools.deserialize (strToBytes text) = .ok root ∧
    List.Forall₂ (fun si config => PortfolioConfiguration.read si = .ok config)
      (children root) configs ∧
    (configs.map PortfolioConfiguration.portfolioName).Nodup ∧ configs ≠ []

theorem loadConfiguration_returns {file : Option String}
    {next : StdMap String PortfolioConfiguration} {a : Unit} :
    Returns (loadConfiguration file) ∅ a next ↔
      ∃ configs, AcceptedConfiguration file configs ∧
        next = StdMap.indexBy PortfolioConfiguration.portfolioName configs ∅ := by
  cases file with
  | none => simp [loadConfiguration, not_returns_throw, AcceptedConfiguration]
  | some text =>
      simp only [loadConfiguration, Option.isNone_some, Bool.false_eq_true, if_false, readFile,
        Option.getD_some, returns_bind, returns_liftM, liftStd_eq_ok, insertConfigurations_returns,
        returns_get]
      constructor
      · rintro ⟨root, _, ⟨hroot, rfl⟩, ⟨⟩, _, ⟨configs, hconfigs, hnodup, -, rfl⟩, _, _, ⟨rfl, rfl⟩,
          hrest⟩
        split at hrest
        · exact absurd hrest not_returns_throw
        · next hsome =>
            obtain ⟨-, rfl⟩ := returns_pure.1 hrest
            exact ⟨configs, ⟨text, root, rfl, hroot, hconfigs, hnodup, by simpa using hsome⟩, rfl⟩
      · rintro ⟨configs, ⟨_, root, ⟨⟩, hroot, hconfigs, hnodup, hsome⟩, rfl⟩
        refine ⟨root, _, ⟨hroot, rfl⟩, ⟨⟩, _, ⟨configs, hconfigs, hnodup, by simp, rfl⟩, _, _,
          ⟨rfl, rfl⟩, ?_⟩
        rw [if_neg (by simpa using hsome)]
        exact returns_pure.2 ⟨rfl, rfl⟩

end SecurityWallet

end Secw
