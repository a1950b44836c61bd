import SecurityWallet.Proof.Reload

/-!
# What a start does to the database

The constructor loads the database and at once writes what it loaded over it. A database of another
version is loaded as an empty one, so all its documents are lost.
-/

open Foundation SerializationInfo Effect

namespace Secw

namespace SecurityWallet

variable [Platform]

/-- The tree of the portfolio at a place of a database. -/
def PortfolioIn (text : String) (index : Nat) (portfolioSi : SerializationInfo) : Prop :=
  ∃ root portfolios, Cxxtools.deserialize (strToBytes text) = .ok root ∧
    getMember root "portfolios" = .ok portfolios ∧ (children portfolios)[index]? = some portfolioSi

/-- The documents of a portfolio that can be read and are valid. -/
def validDocuments (portfolioSi : SerializationInfo) : List Document :=
  match getMember portfolioSi "documents" with
  | .ok documents =>
      (children documents).filterMap fun si => Portfolio.accepted (Portfolio.readDocument si)
  | .error _ => []

/-- The document is valid and the only valid one of its id in the portfolio. -/
def Unique (portfolioSi : SerializationInfo) (doc : Document) : Prop :=
  ((validDocuments portfolioSi).filter fun other => other.id = doc.id) = [doc]

/-- The other database has the document, with the same contents, in the portfolio at the place. -/
def Kept (text : String) (index : Nat) (portfolioSi : SerializationInfo) (doc : Document) : Prop :=
  ∃ keptSi stored, PortfolioIn text index keptSi ∧
    getStringMember keptSi "name" = getStringMember portfolioSi "name" ∧
    stored ∈ validDocuments keptSi ∧ stored.SameContent doc

/-- The constructor fails and leaves the database, or rewrites it with every unique document. -/
def StartKeeps (disk : Disk) (text : String) : Prop :=
  (∃ e, (start.exec { disk }).1 = .error e ∧
      (start.exec { disk }).2.disk.database = some text) ∨
    ∃ rewritten, (start.exec { disk }).1 = .ok () ∧
      (start.exec { disk }).2.disk.database = some rewritten ∧
      ∀ index portfolioSi doc, PortfolioIn text index portfolioSi → Unique portfolioSi doc →
        Kept rewritten index portfolioSi doc

/-- A constructor that fails leaves the files. -/
theorem start_error_disk {disk : Disk} {e : Exn} (hfails : (start.exec { disk }).1 = .error e) :
    (start.exec { disk }).2.disk = disk := by
  rw [start_exec] at hfails ⊢
  split
  · rfl
  · next hconfiguration =>
      rw [hconfiguration] at hfails
      dsimp only at hfails
      split
      · rfl
      · next hdatabase =>
          rw [hdatabase] at hfails
          cases hfails

theorem validDocuments_of_load {portfolioSi : SerializationInfo} {portfolio : Portfolio}
    (hload : (Portfolio.loadPortfolio portfolioSi).result {} = .ok portfolio) :
    getStringMember portfolioSi "name" = .ok portfolio.name ∧
      portfolio = Portfolio.ofDocuments portfolio.name (validDocuments portfolioSi) := by
  obtain ⟨name, documents, -, hname, hdocuments, rfl⟩ := Portfolio.loadVersioned_result.1 hload
  refine ⟨hname, ?_⟩
  rw [validDocuments, hdocuments]
  rfl

/-- The only valid document of its id is the one that is loaded under it. -/
theorem lookup_of_unique {portfolioSi : SerializationInfo} {doc : Document}
    (hunique : Unique portfolioSi doc) (name : String) :
    (Portfolio.ofDocuments name (validDocuments portfolioSi)).documents[doc.id]? = some doc := by
  rw [Portfolio.ofDocuments, StdMap.lookup_indexBy, hunique]
  rfl

/-- What a stored portfolio is written as. -/
theorem portfolioIn_databaseTree [LawfulCxxtools] (portfolios : List Portfolio) (index : Nat)
    (portfolioSi : SerializationInfo) :
    PortfolioIn (Cxxtools.serialize true (databaseTree portfolios)) index portfolioSi ↔
      ∃ portfolio, portfolios[index]? = some portfolio ∧
        portfolioSi = portfolio.serializePortfolio .null := by
  have hmember : getMember (databaseTree portfolios) "portfolios" =
      .ok (ofList (fun portfolio => portfolio.serializePortfolio .null) portfolios) :=
    getMember_of_findMember rfl
  unfold PortfolioIn
  rw [LawfulCxxtools.deserialize_serialize]
  constructor
  · rintro ⟨root, sis, ⟨⟩, hsis, hplace⟩
    obtain rfl := Except.ok.inj (hmember.symm.trans hsis)
    rw [ofList, children_arr, List.getElem?_map, Option.map_eq_some_iff] at hplace
    obtain ⟨portfolio, hportfolio, rfl⟩ := hplace
    exact ⟨portfolio, hportfolio, rfl⟩
  · rintro ⟨portfolio, hportfolio, rfl⟩
    refine ⟨_, _, rfl, hmember, ?_⟩
    rw [ofList, children_arr, List.getElem?_map, hportfolio, Option.map_some]

theorem validDocuments_serialize [LawfulCxxtools] {portfolio : Portfolio}
    (hloadable : portfolio.Loadable) :
    validDocuments (portfolio.serializePortfolio .null) =
      portfolio.getListDocuments.map Document.content := by
  have hmember : getMember (portfolio.serializePortfolio .null) "documents" =
      .ok (ofList (fun doc => doc.fillSerializationInfoWithSecret .null)
        portfolio.getListDocuments) := getMember_of_findMember rfl
  rw [validDocuments, hmember]
  dsimp only
  rw [ofList, children_arr, hloadable.accepted_written]

/-- A start from version 1 keeps every unique document. -/
theorem kept_of_version1 [LawfulCxxtools] {text : String} {root : SerializationInfo}
    {names : List String} {portfolios : List Portfolio}
    (hroot : Cxxtools.deserialize (strToBytes text) = .ok root)
    (hversion : getUInt8Member root "version" = .ok 1)
    (hload : Returns (loadDatabase (some text) names) [] () portfolios) {index : Nat}
    {portfolioSi : SerializationInfo} {doc : Document} (hin : PortfolioIn text index portfolioSi)
    (hunique : Unique portfolioSi doc) :
    Kept (Cxxtools.serialize true (databaseTree portfolios)) index portfolioSi doc := by
  have hloadable := (of_loadDatabase hload).1
  obtain ⟨_, _, hroot', hversion', hloaded⟩ := loadDatabase_returns.1 hload
  obtain rfl := Except.ok.inj (hroot.symm.trans hroot')
  obtain rfl := Except.ok.inj (hversion.symm.trans hversion')
  rw [if_pos rfl] at hloaded
  obtain ⟨sis, loaded, hsis, hloaded, rfl⟩ := hloaded
  obtain ⟨_, _, hroot', hsis', hplace⟩ := hin
  obtain rfl := Except.ok.inj (hroot.symm.trans hroot')
  obtain rfl := Except.ok.inj (hsis.symm.trans hsis')
  obtain ⟨portfolio, hportfolio, hresult⟩ := getElem?_of_forall₂ hloaded hplace
  obtain ⟨hname, hdocuments⟩ := validDocuments_of_load hresult
  obtain ⟨added, happend, -, -⟩ := addMissingPortfolios_append names loaded
  have hfinal : (addMissingPortfolios names loaded)[index]? = some portfolio := by
    rw [happend, List.getElem?_append_left (List.getElem?_eq_some_iff.1 hportfolio).1, hportfolio]
  have hstored : portfolio.documents[doc.id]? = some doc := by
    rw [hdocuments]
    exact lookup_of_unique hunique _
  refine ⟨portfolio.serializePortfolio .null, doc.content,
    (portfolioIn_databaseTree _ _ _).2 ⟨portfolio, hfinal, rfl⟩, ?_, ?_, rfl⟩
  · rw [hname]
    exact getStringMember_of_findMember rfl
  · rw [validDocuments_serialize (hloadable portfolio (List.mem_of_getElem? hfinal))]
    exact List.mem_map_of_mem (StdMap.mem_valueList.2 ⟨doc.id, hstored⟩)

/-- What a start from another version leaves holds no documents. -/
theorem not_kept_of_empty [LawfulCxxtools] (names : List String) (index : Nat)
    (portfolioSi : SerializationInfo) (doc : Document) :
    ¬ Kept (Cxxtools.serialize true (databaseTree (addMissingPortfolios names []))) index portfolioSi
      doc := by
  rintro ⟨keptSi, stored, hin, -, hstored, -⟩
  obtain ⟨portfolio, hportfolio, rfl⟩ := (portfolioIn_databaseTree _ _ _).1 hin
  obtain ⟨added, happend, hempty, -⟩ := addMissingPortfolios_append names []
  rw [happend, List.nil_append] at hportfolio
  obtain ⟨name, rfl⟩ := hempty portfolio (List.mem_of_getElem? hportfolio)
  rw [validDocuments_serialize (Portfolio.loadable_named name)] at hstored
  simp [Portfolio.getListDocuments, StdMap.valueList] at hstored

/-- A start from another version loses the documents of the database. -/
theorem not_startKeeps [LawfulCxxtools] {disk : Disk} {text : String} {root : SerializationInfo}
    {version : UInt8} (hdatabase : disk.database = some text)
    (hroot : Cxxtools.deserialize (strToBytes text) = .ok root)
    (hversion : getUInt8Member root "version" = .ok version) (hone : version ≠ 1)
    {configs : List PortfolioConfiguration}
    (hconfigs : AcceptedConfiguration disk.configuration configs) {index : Nat}
    {portfolioSi : SerializationInfo} {doc : Document} (hin : PortfolioIn text index portfolioSi)
    (hunique : Unique portfolioSi doc) : ¬ StartKeeps disk text := by
  intro hkeeps
  have hload : ∀ names, Returns (loadDatabase disk.database names) [] ()
      (addMissingPortfolios names []) := by
    intro names
    rw [hdatabase, loadDatabase_returns]
    exact ⟨root, version, hroot, hversion, by rw [if_neg hone]⟩
  have hrun := start_returns.2
    ⟨_, _, loadConfiguration_returns.2 ⟨configs, hconfigs, rfl⟩, hload _, rfl⟩
  rw [StartKeeps, hrun] at hkeeps
  rcases hkeeps with ⟨e, hfails, -⟩ | ⟨rewritten, -, hrewritten, hkept⟩
  · cases hfails
  · obtain rfl := Option.some_inj.1 hrewritten
    exact not_kept_of_empty _ index portfolioSi doc (hkept index portfolioSi doc hin hunique)

/--
A start keeps the documents of a database with a readable version exactly if the version is 1, or
the process does not start because the configuration file is not accepted, or there are none.
-/
theorem start_keeps_iff [LawfulCxxtools] (disk : Disk) (text : String) (root : SerializationInfo)
    (version : UInt8) (hdatabase : disk.database = some text)
    (hroot : Cxxtools.deserialize (strToBytes text) = .ok root)
    (hversion : getUInt8Member root "version" = .ok version) :
    StartKeeps disk text ↔
      version = 1 ∨ (∀ configs, ¬ AcceptedConfiguration disk.configuration configs) ∨
        ∀ index portfolioSi doc, PortfolioIn text index portfolioSi → ¬ Unique portfolioSi doc := by
  constructor
  · intro hkeeps
    by_contra hcondition
    push Not at hcondition
    obtain ⟨hone, ⟨configs, hconfigs⟩, index, portfolioSi, doc, hin, hunique⟩ := hcondition
    exact not_startKeeps hdatabase hroot hversion hone hconfigs hin hunique hkeeps
  · intro hcondition
    cases houtcome : (start.exec { disk }).1 with
    | error e => exact .inl ⟨e, houtcome, by rw [start_error_disk houtcome, hdatabase]⟩
    | ok _ =>
        obtain ⟨configurations, portfolios, hconfiguration, hload, hwallet⟩ :=
          start_returns.1 (Prod.ext houtcome rfl)
        rw [hdatabase] at hload
        refine .inr ⟨_, houtcome, congrArg (fun wallet => wallet.disk.database) hwallet,
          fun index portfolioSi doc hin hunique => ?_⟩
        rcases hcondition with rfl | hrefused | hnone
        · exact kept_of_version1 hroot hversion hload hin hunique
        · obtain ⟨configs, hconfigs, -⟩ := loadConfiguration_returns.1 hconfiguration
          exact absurd hconfigs (hrefused configs)
        · exact absurd hunique (hnone index portfolioSi doc hin)

end SecurityWallet

/-! ### Two databases -/

namespace Reference

open scoped Reference

theorem start_keeps_version1 :
    SecurityWallet.StartKeeps started.activeWallet.disk
        (Cxxtools.serialize true
          (SecurityWallet.databaseTree [portfolio (document ["u1"] "secret")])) ↔
      (1 : UInt8) = 1 ∨
        (∀ configs, ¬ SecurityWallet.AcceptedConfiguration disk.configuration configs) ∨
        ∀ index portfolioSi doc,
          SecurityWallet.PortfolioIn (Cxxtools.serialize true
            (SecurityWallet.databaseTree [portfolio (document ["u1"] "secret")])) index
            portfolioSi → ¬ SecurityWallet.Unique portfolioSi doc :=
  SecurityWallet.start_keeps_iff started.activeWallet.disk _ _ 1 rfl
    (LawfulCxxtools.deserialize_serialize true _) (getUInt8Member_of_findMember rfl)

/-- A database of version 2 with one portfolio. -/
def databaseTree2 : SerializationInfo :=
  addMember (addMember .null "version" (ofUInt8 2)) "portfolios"
    (.arr [(portfolio (document ["u1"] "secret")).serializePortfolio .null])

def disk2 : Disk := { disk with database := some (Cxxtools.serialize true databaseTree2) }

theorem start_drops_version2 :
    ¬ SecurityWallet.StartKeeps disk2 (Cxxtools.serialize true databaseTree2) := by
  have hin : SecurityWallet.PortfolioIn (Cxxtools.serialize true databaseTree2) 0
      ((portfolio (document ["u1"] "secret")).serializePortfolio .null) :=
    ⟨_, _, LawfulCxxtools.deserialize_serialize true _, getMember_of_findMember rfl, rfl⟩
  have hunique : SecurityWallet.Unique
      ((portfolio (document ["u1"] "secret")).serializePortfolio .null)
      (document ["u1"] "secret") := by
    rw [SecurityWallet.Unique, SecurityWallet.validDocuments_serialize (loadable_portfolio rfl)]
    rfl
  exact SecurityWallet.not_startKeeps rfl (LawfulCxxtools.deserialize_serialize true _)
    (getUInt8Member_of_findMember rfl) (by decide) acceptedConfiguration hin hunique

end Reference

end Secw
