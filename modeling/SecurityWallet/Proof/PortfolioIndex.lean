import SecurityWallet.Foundation.Machine
import SecurityWallet.Foundation.SecondaryIndex
import SecurityWallet.Reference

/-!
# The two indexes of a portfolio

What `add`, `remove` and `update` do to a portfolio, and that after any sequence of them the names
index exactly the stored documents.
-/

open Foundation

namespace Secw.Portfolio

/-! ### The operations -/

theorem contains_usedIds (portfolio : Portfolio) (id : Id) :
    id ∈ portfolio.usedIds ↔ portfolio.documents[id]?.isSome := by
  rw [usedIds, Std.ExtTreeSet.mem_ofList, List.contains_iff_mem, Std.ExtTreeMap.mem_keys,
    Std.ExtTreeMap.isSome_getElem?_iff_mem]

theorem lookup_next_usedIds (portfolio : Portfolio) (uuids : UuidSource) :
    portfolio.documents[(uuids.next portfolio.usedIds).1]? = none := by
  have hfresh := uuids.next_fresh portfolio.usedIds
  rw [contains_usedIds] at hfresh
  simpa using hfresh

theorem add_exec (doc : Document) (portfolio : Portfolio) (uuids : UuidSource) :
    (add doc).exec (portfolio, uuids) =
      if portfolio.mapNameDocuments.contains doc.name then
        (.error (.secw (secwNameAlreadyExistsException doc.name)), (portfolio, uuids))
      else
        (.ok (uuids.next portfolio.usedIds).1,
          (portfolio.store (uuids.next portfolio.usedIds).1
            { doc with id := (uuids.next portfolio.usedIds).1 },
            (uuids.next portfolio.usedIds).2)) := by
  unfold add
  rw [Effect.exec_bind_ok (Effect.exec_get _)]
  by_cases htaken : portfolio.mapNameDocuments.contains doc.name
  · simp only [if_pos htaken]
    rfl
  · simp only [if_neg htaken]
    rfl

/-- A portfolio without one of its documents. -/
def removed (portfolio : Portfolio) (id : Id) (doc : Document) : Portfolio :=
  { portfolio with
    documents := portfolio.documents.erase id
    mapNameDocuments := portfolio.mapNameDocuments.erase doc.name }

theorem remove_exec (id : Id) (portfolio : Portfolio) :
    (remove id).exec portfolio =
      match portfolio.documents[id]? with
      | none => (.error (.secw (secwDocumentDoNotExistException id)), portfolio)
      | some doc => (.ok (), portfolio.removed id doc) := by
  unfold remove
  rw [Effect.exec_bind_ok (Effect.exec_get _)]
  cases portfolio.documents[id]? <;> rfl

/-- A portfolio with one of its documents replaced by one with the same id. -/
def replaced (portfolio : Portfolio) (oldDoc doc : Document) : Portfolio :=
  { portfolio with
    documents := portfolio.documents.insert doc.id doc
    mapNameDocuments := (portfolio.mapNameDocuments.erase oldDoc.name).insert doc.name doc }

theorem store_of_name_eq (portfolio : Portfolio) {oldDoc doc : Document}
    (hname : doc.name = oldDoc.name) :
    portfolio.store doc.id doc = portfolio.replaced oldDoc doc := by
  have hinsert : portfolio.mapNameDocuments.insert doc.name doc =
      (portfolio.mapNameDocuments.erase oldDoc.name).insert doc.name doc := by
    apply Std.ExtTreeMap.ext_getElem?
    intro n
    simp only [StdMap.lookup_insert, StdMap.lookup_erase, ← hname]
    split <;> rfl
  rw [store, replaced, hinsert]

theorem update_exec (doc : Document) (portfolio : Portfolio) :
    (update doc).exec portfolio =
      match portfolio.documents[doc.id]? with
      | none => (.error (.secw (secwDocumentDoNotExistException doc.id)), portfolio)
      | some oldDoc =>
          if doc.name ≠ oldDoc.name ∧ portfolio.mapNameDocuments.contains doc.name then
            (.error (.secw (secwNameAlreadyExistsException doc.name)), portfolio)
          else (.ok (), portfolio.replaced oldDoc doc) := by
  unfold update
  rw [Effect.exec_bind_ok (Effect.exec_get _)]
  cases hold : portfolio.documents[doc.id]? with
  | none => rfl
  | some oldDoc =>
      dsimp only
      by_cases hname : doc.name = oldDoc.name
      · rw [if_neg (not_not.2 hname), if_neg (fun h => h.1 hname)]
        exact congrArg _ (portfolio.store_of_name_eq hname)
      · by_cases htaken : portfolio.mapNameDocuments.contains doc.name
        · rw [if_pos hname, if_pos htaken, if_pos ⟨hname, htaken⟩]
          rfl
        · rw [if_pos hname, if_neg htaken, if_neg (fun h => htaken h.2)]
          rfl

/-! ### The invariant -/

/-- Documents are stored under their id, and the names index them. -/
structure Consistent (portfolio : Portfolio) : Prop where
  keyed : ∀ {id : Id} {doc : Document}, portfolio.documents[id]? = some doc → doc.id = id
  indexes : Indexes Document.name portfolio.documents portfolio.mapNameDocuments

/-- Some stored document has the name. -/
def NameTaken (portfolio : Portfolio) (name : String) : Prop :=
  ∃ (id : Id) (doc : Document), portfolio.documents[id]? = some doc ∧ doc.name = name

theorem consistent_named (name : String) : Consistent { name } where
  keyed := by simp
  indexes := Indexes.empty

variable {portfolio : Portfolio}

theorem Consistent.contains_iff (hconsistent : portfolio.Consistent) (name : String) :
    portfolio.mapNameDocuments.contains name = true ↔ portfolio.NameTaken name :=
  hconsistent.indexes.contains_iff name

theorem Consistent.store (hconsistent : portfolio.Consistent) (doc : Document)
    (hid : portfolio.documents[doc.id]? = none) (hname : ¬ portfolio.NameTaken doc.name) :
    (portfolio.store doc.id doc).Consistent where
  keyed := by
    intro id other hother
    rw [Portfolio.store, StdMap.lookup_insert] at hother
    split at hother
    · next heq =>
        cases hother
        exact heq
    · exact hconsistent.keyed hother
  indexes := by
    rw [← hconsistent.contains_iff, Bool.not_eq_true] at hname
    exact hconsistent.indexes.insert hid hname

theorem Consistent.removed (hconsistent : portfolio.Consistent) {id : Id} {doc : Document}
    (hdoc : portfolio.documents[id]? = some doc) : (portfolio.removed id doc).Consistent where
  keyed := by
    intro other other' hother
    rw [Portfolio.removed, StdMap.lookup_erase] at hother
    split at hother
    · simp at hother
    · exact hconsistent.keyed hother
  indexes := hconsistent.indexes.erase hdoc

theorem Consistent.replaced (hconsistent : portfolio.Consistent) {oldDoc doc : Document}
    (hold : portfolio.documents[doc.id]? = some oldDoc)
    (hname : doc.name = oldDoc.name ∨ ¬ portfolio.NameTaken doc.name) :
    (portfolio.replaced oldDoc doc).Consistent where
  keyed := by
    intro id other hother
    rw [Portfolio.replaced, StdMap.lookup_insert] at hother
    split at hother
    · next heq =>
        cases hother
        exact heq
    · exact hconsistent.keyed hother
  indexes := by
    rw [← hconsistent.contains_iff, Bool.not_eq_true] at hname
    exact hconsistent.indexes.replace hold hname

/-! ### Sequences of operations -/

inductive Operation where
  | add (doc : Document)
  | update (doc : Document)
  | remove (id : Id)

namespace Operation

/-- Calls the operation; an exception leaves what the call has written. Only `add` returns an id. -/
def call : Machine (Portfolio × UuidSource) Operation (Except Exn (Option Id))
  | add doc, state =>
      let (outcome, next) := (Portfolio.add doc).exec state
      (outcome.map some, next)
  | update doc, (portfolio, uuids) =>
      let (outcome, next) := (Portfolio.update doc).exec portfolio
      (outcome.map fun _ => none, (next, uuids))
  | remove id, (portfolio, uuids) =>
      let (outcome, next) := (Portfolio.remove id).exec portfolio
      (outcome.map fun _ => none, (next, uuids))

/-- When the operation must fail. -/
def MustFail (portfolio : Portfolio) : Operation → Prop
  | add doc => portfolio.NameTaken doc.name
  | update doc =>
      portfolio.documents[doc.id]? = none ∨
        ∃ (id : Id) (other : Document), portfolio.documents[id]? = some other ∧ id ≠ doc.id ∧
          other.name = doc.name
  | remove id => portfolio.documents[id]? = none

/-- The operation fails exactly if it must, and an id it returns is new. -/
def OutcomeExact (operation : Operation) (state : Portfolio × UuidSource) : Prop :=
  ((∃ e, (operation.call state).1 = .error e) ↔ operation.MustFail state.1) ∧
    ∀ id, (operation.call state).1 = .ok (some id) → state.1.documents[id]? = none

end Operation

/-- A name finds exactly the stored document that has it, the same one its id finds. -/
def NameLookupExact (portfolio : Portfolio) : Prop :=
  ∀ name,
    ((∃ doc, portfolio.getDocumentByName name = .ok doc) ↔ portfolio.NameTaken name) ∧
      ∀ doc, portfolio.getDocumentByName name = .ok doc →
        doc.name = name ∧ portfolio.getDocument doc.id = .ok doc

theorem Consistent.nameLookupExact (hconsistent : portfolio.Consistent) :
    portfolio.NameLookupExact := by
  intro name
  have hlookup : ∀ doc, portfolio.getDocumentByName name = .ok doc ↔
      doc.name = name ∧ ∃ id : Id, portfolio.documents[id]? = some doc := by
    intro doc
    rw [← hconsistent.indexes.lookup, getDocumentByName]
    cases portfolio.mapNameDocuments[name]? <;> simp
  constructor
  · constructor
    · rintro ⟨doc, hdoc⟩
      obtain ⟨hname, id, hid⟩ := (hlookup doc).1 hdoc
      exact ⟨id, doc, hid, hname⟩
    · rintro ⟨id, doc, hid, hname⟩
      exact ⟨doc, (hlookup doc).2 ⟨hname, id, hid⟩⟩
  · intro doc hdoc
    obtain ⟨hname, id, hid⟩ := (hlookup doc).1 hdoc
    refine ⟨hname, ?_⟩
    rw [getDocument, hconsistent.keyed hid, hid]

theorem call_add (doc : Document) {uuids : UuidSource} (hconsistent : portfolio.Consistent) :
    ((Operation.add doc).call (portfolio, uuids)).2.1.Consistent ∧
      (Operation.add doc).OutcomeExact (portfolio, uuids) := by
  unfold Operation.OutcomeExact Operation.call
  dsimp only
  rw [add_exec]
  split
  · next htaken =>
      exact ⟨hconsistent, by simpa [Operation.MustFail, Except.map] using
        (hconsistent.contains_iff _).1 htaken⟩
  · next htaken =>
      rw [hconsistent.contains_iff] at htaken
      have hfresh := portfolio.lookup_next_usedIds uuids
      refine ⟨hconsistent.store { doc with id := _ } hfresh htaken, ?_, ?_⟩
      · simpa [Operation.MustFail, Except.map] using htaken
      · rintro id hid
        cases hid
        exact hfresh

theorem call_remove (id : Id) {uuids : UuidSource} (hconsistent : portfolio.Consistent) :
    ((Operation.remove id).call (portfolio, uuids)).2.1.Consistent ∧
      (Operation.remove id).OutcomeExact (portfolio, uuids) := by
  unfold Operation.OutcomeExact Operation.call
  dsimp only
  rw [remove_exec]
  cases hdoc : portfolio.documents[id]? with
  | none => exact ⟨hconsistent, by simp [Operation.MustFail, Except.map, hdoc]⟩
  | some doc =>
      exact ⟨hconsistent.removed hdoc, by simp [Operation.MustFail, Except.map, hdoc]⟩

/-- The name of a stored document is another one's exactly if it is taken by a rename. -/
theorem Consistent.nameTaken_iff (hconsistent : portfolio.Consistent) {oldDoc doc : Document}
    (hold : portfolio.documents[doc.id]? = some oldDoc) :
    (doc.name ≠ oldDoc.name ∧ portfolio.NameTaken doc.name) ↔
      ∃ (id : Id) (other : Document), portfolio.documents[id]? = some other ∧ id ≠ doc.id ∧
        other.name = doc.name := by
  constructor
  · rintro ⟨hrename, id, other, hother, hname⟩
    refine ⟨id, other, hother, ?_, hname⟩
    rintro rfl
    rw [hold] at hother
    cases hother
    exact hrename hname.symm
  · rintro ⟨id, other, hother, hid, hname⟩
    refine ⟨fun heq => hid ?_, id, other, hother, hname⟩
    exact hconsistent.indexes.unique hother hold (hname.trans heq)

theorem call_update (doc : Document) {uuids : UuidSource} (hconsistent : portfolio.Consistent) :
    ((Operation.update doc).call (portfolio, uuids)).2.1.Consistent ∧
      (Operation.update doc).OutcomeExact (portfolio, uuids) := by
  unfold Operation.OutcomeExact Operation.call
  dsimp only
  rw [update_exec]
  cases hold : portfolio.documents[doc.id]? with
  | none => exact ⟨hconsistent, by simp [Operation.MustFail, Except.map, hold]⟩
  | some oldDoc =>
      have hmust : (Operation.update doc).MustFail portfolio ↔
          doc.name ≠ oldDoc.name ∧ portfolio.mapNameDocuments.contains doc.name = true := by
        rw [hconsistent.contains_iff, hconsistent.nameTaken_iff hold, Operation.MustFail, hold]
        simp
      dsimp only
      rw [hmust]
      split
      · next hfail => exact ⟨hconsistent, by simpa [Except.map] using hfail⟩
      · next hfail =>
          refine ⟨hconsistent.replaced hold ?_, by simpa [Except.map] using hfail⟩
          rw [← hconsistent.contains_iff]
          tauto

theorem call_exact (operation : Operation) {state : Portfolio × UuidSource}
    (hconsistent : state.1.Consistent) :
    (operation.call state).2.1.Consistent ∧ operation.OutcomeExact state := by
  cases operation with
  | add doc => exact call_add doc hconsistent
  | update doc => exact call_update doc hconsistent
  | remove id => exact call_remove id hconsistent

/--
Along every sequence of operations on a consistent portfolio each one fails exactly if it must and
returns new ids only; at the end the portfolio is consistent and names find what ids find.
-/
theorem two_indexes_of_operations (operations : List Operation) (portfolio : Portfolio)
    (uuids : UuidSource) (hconsistent : portfolio.Consistent) :
    (Machine.run Operation.call operations (portfolio, uuids)).2.1.Consistent ∧
      (Machine.run Operation.call operations (portfolio, uuids)).2.1.NameLookupExact ∧
      Machine.Along Operation.call Operation.OutcomeExact operations (portfolio, uuids) := by
  have hfinal : (Machine.run Operation.call operations (portfolio, uuids)).2.1.Consistent :=
    Machine.run_stable (P := fun state : Portfolio × UuidSource => state.1.Consistent)
      (fun operation _ hstate => (call_exact operation hstate).1) operations hconsistent
  refine ⟨hfinal, hfinal.nameLookupExact, ?_⟩
  exact Machine.along_of_invariant (P := fun state : Portfolio × UuidSource => state.1.Consistent)
    (fun operation _ hstate => call_exact operation hstate) operations hconsistent

theorem two_indexes_of_add_and_remove :
    (Machine.run Operation.call
        [.add { name := "document", body := .snmpv1 { communityName := "public" } }, .remove "0"]
        ({}, Reference.uuids)).2.1.Consistent :=
  (two_indexes_of_operations
    [.add { name := "document", body := .snmpv1 { communityName := "public" } }, .remove "0"] {}
    Reference.uuids (consistent_named "default")).1

end Secw.Portfolio
