import SecurityWallet.Proof.Requests

/-!
# What a client may see

A client sees the secrets of the documents that carry a usage it consumes. `redact` forgets all
others, and the files with them. The functions the handlers call commute with it.
-/

open Foundation SerializationInfo

namespace Secw

/-! ### Documents -/

@[simp]
theorem Body.withoutSecret_withoutSecret (body : Body) :
    body.withoutSecret.withoutSecret = body.withoutSecret := by
  cases body <;> rfl

namespace Document

@[simp]
theorem fill_withoutSecret (doc : Document) (si : SerializationInfo) :
    doc.withoutSecret.fillSerializationInfoWithoutSecret si =
      doc.fillSerializationInfoWithoutSecret si := by
  simp [fillSerializationInfoWithoutSecret, fillSerializationInfoHeaderDoc, withoutSecret, getType]

/-- A document as a client sees it that consumes the usages, or none if they cannot be told. -/
def visible (usages : Except Exn (StdSet UsageId)) (doc : Document) : Document :=
  match usages with
  | .ok allowedUsageIds =>
      if hasCommonUsageIds allowedUsageIds doc.usages then doc else doc.withoutSecret
  | .error _ => doc.withoutSecret

section Visible

variable (usages : Except Exn (StdSet UsageId)) (doc : Document)

theorem visible_eq_or : doc.visible usages = doc ∨ doc.visible usages = doc.withoutSecret := by
  unfold visible
  split
  · split <;> simp
  · simp

@[simp]
theorem visible_name : (doc.visible usages).name = doc.name := by
  rcases doc.visible_eq_or usages with heq | heq <;> simp [heq, withoutSecret]

@[simp]
theorem visible_usages : (doc.visible usages).usages = doc.usages := by
  rcases doc.visible_eq_or usages with heq | heq <;> simp [heq, withoutSecret]

@[simp]
theorem fill_visible (si : SerializationInfo) :
    (doc.visible usages).fillSerializationInfoWithoutSecret si =
      doc.fillSerializationInfoWithoutSecret si := by
  rcases doc.visible_eq_or usages with heq | heq <;> simp [heq]

@[simp]
theorem visible_visible : (doc.visible usages).visible usages = doc.visible usages := by
  unfold visible
  cases usages with
  | error e => simp [withoutSecret]
  | ok allowedUsageIds =>
      by_cases hcommon : hasCommonUsageIds allowedUsageIds doc.usages <;>
        simp [hcommon, withoutSecret]

theorem visible_of_common {allowedUsageIds : StdSet UsageId}
    (hcommon : hasCommonUsageIds allowedUsageIds doc.usages = true) :
    doc.visible (.ok allowedUsageIds) = doc := by
  simp [visible, hcommon]

end Visible

end Document

/-! ### Portfolios -/

namespace Portfolio

def redact (usages : Except Exn (StdSet UsageId)) (portfolio : Portfolio) : Portfolio :=
  { portfolio with
    documents := portfolio.documents.mapValues (Document.visible usages)
    mapNameDocuments := portfolio.mapNameDocuments.mapValues (Document.visible usages) }

variable (usages : Except Exn (StdSet UsageId)) (portfolio : Portfolio)

@[simp]
theorem redact_name : (portfolio.redact usages).name = portfolio.name := rfl

@[simp]
theorem redact_redact : (portfolio.redact usages).redact usages = portfolio.redact usages := by
  simp only [redact, StdMap.mapValues_mapValues, Document.visible_visible]

theorem redact_getDocument (id : Id) :
    (portfolio.redact usages).getDocument id =
      (portfolio.getDocument id).map (Document.visible usages) := by
  rw [getDocument, getDocument, redact, StdMap.lookup_mapValues]
  cases portfolio.documents[id]? <;> rfl

theorem redact_getDocumentByName (name : String) :
    (portfolio.redact usages).getDocumentByName name =
      (portfolio.getDocumentByName name).map (Document.visible usages) := by
  rw [getDocumentByName, getDocumentByName, redact, StdMap.lookup_mapValues]
  cases portfolio.mapNameDocuments[name]? <;> rfl

theorem redact_getListDocuments :
    (portfolio.redact usages).getListDocuments =
      portfolio.getListDocuments.map (Document.visible usages) :=
  StdMap.valueList_mapValues _ _

@[simp]
theorem redact_usedIds : (portfolio.redact usages).usedIds = portfolio.usedIds := by
  rw [usedIds, redact, StdMap.keys_mapValues, usedIds]

@[simp]
theorem redact_contains (name : String) :
    (portfolio.redact usages).mapNameDocuments.contains name =
      portfolio.mapNameDocuments.contains name := by
  rw [StdMap.contains_eq_isSome, redact, StdMap.lookup_mapValues, StdMap.contains_eq_isSome,
    Option.isSome_map]

theorem redact_store (id : Id) (doc : Document) :
    ((portfolio.redact usages).store id doc).redact usages =
      (portfolio.store id doc).redact usages := by
  simp only [store, redact, StdMap.mapValues_insert, StdMap.mapValues_mapValues,
    Document.visible_visible]

theorem redact_removed (id : Id) (doc : Document) :
    ((portfolio.redact usages).removed id (doc.visible usages)).redact usages =
      (portfolio.removed id doc).redact usages := by
  simp only [removed, redact, StdMap.mapValues_erase, StdMap.mapValues_mapValues,
    Document.visible_visible, Document.visible_name]

end Portfolio

/-! ### Wallets -/

namespace SecurityWallet

variable [Platform]

/-- The wallet as a client sees it: without the secrets of other documents, and without files. -/
def redact (client : ClientId) (wallet : SecurityWallet) : SecurityWallet :=
  { wallet with
    portfolios := wallet.portfolios.map fun portfolio =>
      portfolio.redact (wallet.consumerUsages portfolio.name client)
    disk := {} }

variable (client : ClientId) (wallet : SecurityWallet)

@[simp]
theorem redact_consumerUsages (portfolioName : String) (other : ClientId) :
    (wallet.redact client).consumerUsages portfolioName other =
      wallet.consumerUsages portfolioName other := rfl

@[simp]
theorem redact_producerUsages (portfolioName : String) (other : ClientId) :
    (wallet.redact client).producerUsages portfolioName other =
      wallet.producerUsages portfolioName other := rfl

@[simp]
theorem redact_getConfiguration (portfolioName : String) :
    (wallet.redact client).getConfiguration portfolioName =
      wallet.getConfiguration portfolioName := rfl

@[simp]
theorem redact_getPortfolio (name : String) :
    (wallet.redact client).getPortfolio name = wallet.getPortfolio name := by
  have hfind : (wallet.redact client).portfolios.findIdx? (fun portfolio => portfolio.name = name) =
      wallet.portfolios.findIdx? fun portfolio => portfolio.name = name := by
    rw [redact, List.findIdx?_map]
    rfl
  rw [getPortfolio, hfind, getPortfolio]

theorem redact_portfolioAt {index : Nat} {portfolio : Portfolio}
    (hlookup : wallet.portfolios[index]? = some portfolio) :
    (wallet.redact client).portfolioAt index =
      portfolio.redact (wallet.consumerUsages portfolio.name client) := by
  apply portfolioAt_eq
  rw [redact, List.getElem?_map, hlookup, Option.map_some]

@[simp]
theorem redact_redact : (wallet.redact client).redact client = wallet.redact client := by
  simp [redact, Function.comp_def, consumerUsages, getConfiguration]

/-- Writing back portfolios that look the same gives wallets that look the same. -/
theorem redact_setPortfolio (index : Nat) {portfolio next : Portfolio}
    (hname : portfolio.name = next.name)
    (hredact : portfolio.redact (wallet.consumerUsages next.name client) =
      next.redact (wallet.consumerUsages next.name client)) :
    ((wallet.redact client).setPortfolio index portfolio).redact client =
      (wallet.setPortfolio index next).redact client := by
  have hportfolios : ((wallet.redact client).setPortfolio index portfolio).redact client =
      { wallet.redact client with
        portfolios := (wallet.redact client).portfolios.set index
          (portfolio.redact (wallet.consumerUsages portfolio.name client)) } := by
    have hagain := congrArg SecurityWallet.portfolios (redact_redact client wallet)
    rw [redact, setPortfolio, List.map_set]
    exact congrArg (fun portfolios => SecurityWallet.mk _ (List.set portfolios _ _) _) hagain
  rw [hportfolios, hname, hredact, redact, redact, setPortfolio, List.map_set]
  rfl

end SecurityWallet

end Secw
