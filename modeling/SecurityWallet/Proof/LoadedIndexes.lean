import SecurityWallet.Proof.Loading
import SecurityWallet.Proof.PortfolioIndex

/-!
# When loading gives two indexes that agree

The loaders store a document under its id and under its name without the checks of `add` and
`update`. The names index the documents afterwards exactly if the accepted documents of the tree
repeat ids and names together.
-/

open Foundation SerializationInfo

namespace Secw.Portfolio

/-- Wherever a later document repeats the id of a document or its name, later ones repeat both. -/
def NamesFollowIds (docs : List Document) : Prop := RepeatTogether Document.id Document.name docs

instance (docs : List Document) : Decidable (NamesFollowIds docs) :=
  inferInstanceAs (Decidable (RepeatTogether Document.id Document.name docs))

theorem consistent_ofDocuments_iff (name : String) (docs : List Document) :
    (ofDocuments name docs).Consistent ↔ NamesFollowIds docs := by
  rw [NamesFollowIds, ← indexes_indexBy_iff]
  constructor
  · intro hconsistent
    exact hconsistent.indexes
  · intro hindexes
    exact ⟨fun hdoc => (of_lookup_ofDocuments hdoc).2, hindexes⟩

section Loaders

variable [Cxxtools]

/-- The documents of a portfolio tree that a loader stores, in the order of the tree. -/
def acceptedDocuments (readDocument : SerializationInfo → Except Exn (Option Document))
    (si : SerializationInfo) : List Document :=
  match getMember si "documents" with
  | .ok documents => (children documents).filterMap fun si => accepted (readDocument si)
  | .error _ => []

theorem loadVersioned_consistent_iff
    {readDocument : SerializationInfo → Except Exn (Option Document)} {si : SerializationInfo}
    {start next : Portfolio}
    (hload : (loadVersioned (loadDocuments readDocument si) si).result start = .ok next) :
    next.Consistent ↔ NamesFollowIds (acceptedDocuments readDocument si) := by
  obtain ⟨name, documents, -, -, hdocuments, rfl⟩ := loadVersioned_result.1 hload
  rw [consistent_ofDocuments_iff, acceptedDocuments, hdocuments]

variable [Certificates] [OpenSSL]

/--
What was loaded from a database or from SRR is consistent exactly if, wherever later accepted
documents of the tree repeat the id or the name of an accepted one, they repeat both.
-/
theorem loaded_consistent_iff (si : SerializationInfo) (start next : Portfolio) :
    ((loadPortfolio si).result start = .ok next →
        (next.Consistent ↔ NamesFollowIds (acceptedDocuments readDocument si))) ∧
      ∀ encryptiondKey isSameInstance,
        (loadPortfolioFromSRR si encryptiondKey isSameInstance).result start = .ok next →
          (next.Consistent ↔ NamesFollowIds
            (acceptedDocuments (readDocumentSRR encryptiondKey isSameInstance) si)) :=
  ⟨loadVersioned_consistent_iff, fun _ _ => loadVersioned_consistent_iff⟩

end Loaders

/-! ### Two documents of one name -/

open scoped Secw.Reference

/-- A portfolio of the database with two documents of one name. -/
def twinsSi : SerializationInfo :=
  let doc := Reference.document ["u1"] "secret"
  let si := addMember .null "version" (ofUInt8 portfolioVersion)
  let si := addMember si "name" (.str "default")
  addMember si "documents" (ofList (fun doc => doc.fillSerializationInfoWithSecret .null)
    [doc, { doc with id := "1" }])

/-- The portfolio that is loaded from it. -/
def twins : Portfolio :=
  let doc := Reference.document ["u1"] "secret"
  ofDocuments "default" [doc, { doc with id := "1" }]

theorem load_twins : (loadPortfolio twinsSi).result {} = .ok twins := by
  rw [loadPortfolio, loadPortfolioVersion1, loadVersioned_result]
  refine ⟨"default", _, getUInt8Member_of_findMember rfl, getStringMember_of_findMember rfl,
    getMember_of_findMember rfl, ?_⟩
  rfl

/-- The first of the two is stored, but its name finds the second. -/
theorem load_twins_not_consistent :
    (loadPortfolio twinsSi).result {} = .ok twins ∧ ¬ twins.Consistent := by
  refine ⟨load_twins, ?_⟩
  rw [twins, consistent_ofDocuments_iff]
  decide +kernel

theorem load_twins_consistent_iff :
    twins.Consistent ↔ NamesFollowIds (acceptedDocuments readDocument twinsSi) :=
  (loaded_consistent_iff twinsSi {} twins).1 load_twins

end Secw.Portfolio
