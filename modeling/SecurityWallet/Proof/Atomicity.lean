import SecurityWallet.Proof.Reload
import SecurityWallet.Proof.Requests

/-!
# Failed requests change nothing, successful ones one document

The states are those that requests reach from a wallet started without a database. In them every
portfolio is consistent, so a change of one document touches no other one in either index.
-/

open Foundation

namespace Secw

/-- Every portfolio of the list is consistent. -/
def AllConsistent (portfolios : List Portfolio) : Prop :=
  ∀ portfolio ∈ portfolios, portfolio.Consistent

theorem AllConsistent.set {portfolios : List Portfolio} (hall : AllConsistent portfolios)
    {next : Portfolio} (hnext : next.Consistent) (index : Nat) :
    AllConsistent (portfolios.set index next) := by
  intro portfolio hmem
  rcases List.mem_or_eq_of_mem_set hmem with hmem | rfl
  · exact hall portfolio hmem
  · exact hnext

theorem AllConsistent.addMissing {portfolios : List Portfolio} (hall : AllConsistent portfolios)
    (names : List String) : AllConsistent (SecurityWallet.addMissingPortfolios names portfolios) := by
  unfold SecurityWallet.addMissingPortfolios
  induction names generalizing portfolios with
  | nil => exact hall
  | cons name names ih =>
      rw [List.foldl_cons]
      split
      · exact ih hall
      · refine ih fun portfolio hmem => ?_
        rcases List.mem_append.1 hmem with hmem | hmem
        · exact hall portfolio hmem
        · rw [List.mem_singleton.1 hmem]
          exact Portfolio.consistent_named name

namespace SecurityWalletServer

variable [Platform]

/-- The server serves requests after a start without a database file. -/
inductive ReachableFromEmpty : SecurityWalletServer → Prop
  | start {disk wallet} (uuids : UuidSource) (randoms : RandomSource)
      (hempty : disk.database = none) (hconstruct : SecurityWallet.construct disk = some wallet) :
      ReachableFromEmpty { activeWallet := wallet, uuids, randoms }
  | serve {server} (request : Request) (hreachable : ReachableFromEmpty server) :
      ReachableFromEmpty (handleRequest request server).2

theorem Change.consistent {server next : SecurityWalletServer} {sender : Sender}
    {command : Command} {params : List String} {result : String}
    (hchange : Change server sender command params result next)
    (hall : AllConsistent server.activeWallet.portfolios) :
    AllConsistent next.activeWallet.portfolios := by
  cases hchange with
  | @create _ _ _ _ index portfolio _ doc haccess _ _ _ _ hname =>
      have hconsistent := hall portfolio (List.mem_of_getElem? haccess.lookup)
      refine hall.set (hconsistent.store _ (portfolio.lookup_next_usedIds _) ?_) index
      rw [← hconsistent.contains_iff]
      exact Bool.eq_false_iff.1 hname
  | @delete _ _ _ _ index portfolio doc haccess hdoc =>
      exact hall.set ((hall portfolio (List.mem_of_getElem? haccess.lookup)).removed hdoc) index
  | @update _ _ _ _ index portfolio _ _ oldDoc merged haccess _ _ _ _ _ _ hstored hname =>
      have hconsistent := hall portfolio (List.mem_of_getElem? haccess.lookup)
      refine hall.set (hconsistent.replaced hstored ?_) index
      rwa [← hconsistent.contains_iff, Bool.not_eq_true]

theorem ReachableFromEmpty.consistent {server : SecurityWalletServer}
    (hreachable : ReachableFromEmpty server) : AllConsistent server.activeWallet.portfolios := by
  induction hreachable with
  | @start disk wallet uuids randoms hempty hconstruct =>
      obtain ⟨configurations, portfolios, -, hdatabase, rfl⟩ :=
        SecurityWallet.start_returns.1 (SecurityWallet.construct_eq_some.1 hconstruct)
      rw [hempty] at hdatabase
      obtain rfl := Effect.returns_modify.1 hdatabase
      exact AllConsistent.addMissing (by simp [AllConsistent]) _
  | @serve server request _ ih =>
      have houtcome := handleRequest_outcome request server
      generalize (handleRequest request server).1 = frames at houtcome
      generalize (handleRequest request server).2 = next at houtcome ⊢
      cases houtcome with
      | changed _ _ hchange => exact hchange.consistent ih
      | _ => exact ih

/-- The request was answered with an error. -/
def Failed (frames : List String) : Prop := ∃ description, frames = ["ERROR", description]

theorem failed_errorReply (e : Exn) : Failed (errorReply e) := by
  cases e <;> exact ⟨_, rfl⟩

omit [Platform] in
theorem not_failed_singleton (result : String) : ¬ Failed [result] := by
  rintro ⟨description, hframes⟩
  simp at hframes

/-- A command that changes documents makes a change, unless it is answered with an error. -/
theorem change_of_not_failed {sender : Sender} {command : Command} {params : List String}
    {server : SecurityWalletServer} (hwriting : isWriting command = true)
    (hok : ¬ Failed (handleRequest ⟨sender, command.name :: params⟩ server).1) :
    ∃ result next, Change server sender command params result next ∧
      handleRequest ⟨sender, command.name :: params⟩ server = ([result], next) := by
  have hensures := handler_ensures hwriting sender params server
  unfold Effect.Ensures at hensures
  split at hensures
  · next result next hexec => exact ⟨result, next, hensures, handleRequest_of_ok hexec⟩
  · next e next hexec =>
      rw [handleRequest_of_error hexec] at hok
      exact absurd (failed_errorReply e) hok

end SecurityWalletServer

open scoped Reference

theorem reachableFromEmpty_reference :
    SecurityWalletServer.ReachableFromEmpty (Reference.server [{}]) :=
  .start Reference.uuids Reference.randoms rfl Reference.construct_disk

end Secw
