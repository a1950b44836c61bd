import SecurityWallet.Proof.Requests

/-!
# Ownership of usages

Whether a document of a portfolio carries a usage changes only at requests whose sender produces the
usage in that portfolio. A run by senders without the right therefore leaves the fact as it was.
-/

open Foundation

namespace Secw.SecurityWalletServer

theorem SameFrame.lookup_name {server next : SecurityWalletServer} (hframe : SameFrame server next)
    {index : Nat} {portfolio : Portfolio}
    (hlookup : server.activeWallet.portfolios[index]? = some portfolio) :
    ∃ nextPortfolio, next.activeWallet.portfolios[index]? = some nextPortfolio ∧
      nextPortfolio.name = portfolio.name := by
  have hname : (next.activeWallet.portfolios.map Portfolio.name)[index]? = some portfolio.name := by
    rw [hframe.2, List.getElem?_map, hlookup, Option.map_some]
  rw [List.getElem?_map, Option.map_eq_some_iff] at hname
  exact hname

variable [Platform]

/-- A document with the id is in the portfolio at the place and carries the usage. -/
def Carries (server : SecurityWalletServer) (index : Nat) (id : Id) (usage : UsageId) : Prop :=
  CarriedBy (server.activeWallet.documentAt index id) usage

/-- The sender produces the usage in the portfolio of the name. -/
def Owns (server : SecurityWalletServer) (sender : Sender) (portfolioName : String)
    (usage : UsageId) : Prop :=
  ∃ allowedUsageIds,
    server.activeWallet.producerUsages portfolioName sender = .ok allowedUsageIds ∧
      usage ∈ allowedUsageIds

/-- One request changes what documents carry only where its sender owns the usage. -/
def ChangesOwned (request : Request) (server : SecurityWalletServer) : Prop :=
  ∀ index portfolio, server.activeWallet.portfolios[index]? = some portfolio →
    ∀ id usage,
      ¬ (Carries server index id usage ↔ Carries (handleRequest request server).2 index id usage) →
        Owns server request.sender portfolio.name usage

theorem Replaces.owns_of_change {server next : SecurityWalletServer} {sender : Sender}
    {portfolioName : String} {allowedUsageIds : StdSet UsageId} {index place : Nat} {id other : Id}
    {portfolio placed : Portfolio} {before after : Option Document} {usage : UsageId}
    (hreplaces : Replaces server next index id before after)
    (haccess : ProducerAccess server.activeWallet sender portfolioName allowedUsageIds index
      portfolio)
    (husages : ∀ usage, ¬ (CarriedBy before usage ↔ CarriedBy after usage) →
      usage ∈ allowedUsageIds)
    (hplaced : server.activeWallet.portfolios[place]? = some placed)
    (hchanged : ¬ (Carries server place other usage ↔ Carries next place other usage)) :
    Owns server sender placed.name usage := by
  by_cases hsame : place = index ∧ other = id
  · obtain ⟨rfl, rfl⟩ := hsame
    rw [haccess.lookup] at hplaced
    cases hplaced
    refine ⟨allowedUsageIds, haccess.named ▸ haccess.rights, husages usage ?_⟩
    rwa [Carries, hreplaces.before, Carries, hreplaces.after] at hchanged
  · rw [Carries, Carries, hreplaces.others place other hsame] at hchanged
    exact absurd Iff.rfl hchanged

theorem handleRequest_changesOwned (request : Request) (server : SecurityWalletServer) :
    ChangesOwned request server := by
  intro place placed hplaced other usage hchanged
  have houtcome := handleRequest_outcome request server
  generalize (handleRequest request server).1 = frames at houtcome
  generalize (handleRequest request server).2 = next at houtcome hchanged
  cases houtcome with
  | changed _ _ hchange =>
      obtain ⟨portfolioName, allowedUsageIds, index, portfolio, id, before, after, -, haccess,
        hreplaces, -, husages⟩ := hchange.replaces
      exact hreplaces.owns_of_change haccess husages hplaced hchanged
  | _ => exact absurd Iff.rfl hchanged

theorem SameFrame.owns_iff {server next : SecurityWalletServer} (hframe : SameFrame server next)
    (sender : Sender) (portfolioName : String) (usage : UsageId) :
    Owns next sender portfolioName usage ↔ Owns server sender portfolioName usage := by
  unfold Owns SecurityWallet.producerUsages SecurityWallet.getConfiguration
  rw [hframe.1]

/-- A run by senders without the right neither gives the usage to a document nor takes it away. -/
theorem carries_of_not_owned (requests : List Request) {server : SecurityWalletServer}
    {index : Nat} {portfolio : Portfolio} {id : Id} {usage : UsageId}
    (hlookup : server.activeWallet.portfolios[index]? = some portfolio)
    (hsenders : ∀ request ∈ requests, ¬ Owns server request.sender portfolio.name usage) :
    Carries (Machine.run handleRequest requests server).2 index id usage ↔
      Carries server index id usage := by
  induction requests generalizing server portfolio with
  | nil => rfl
  | cons request requests ih =>
      have hframe := handleRequest_sameFrame request server
      obtain ⟨nextPortfolio, hnext, hname⟩ := hframe.lookup_name hlookup
      have hstep : Carries server index id usage ↔
          Carries (handleRequest request server).2 index id usage := by
        by_contra hchanged
        exact hsenders request List.mem_cons_self
          (handleRequest_changesOwned request server index portfolio hlookup id usage hchanged)
      rw [Machine.run_cons, hstep]
      refine ih hnext fun other hother => ?_
      rw [hframe.owns_iff, hname]
      exact hsenders other (List.mem_cons_of_mem _ hother)

/--
Along every run a request changes which documents carry a usage only if its sender owns the usage;
over a whole run by senders that do not own it, nothing about the usage changes.
-/
theorem usages_change_only_by_owners (requests : List Request) (server : SecurityWalletServer) :
    Machine.Along handleRequest ChangesOwned requests server ∧
      ∀ index portfolio, server.activeWallet.portfolios[index]? = some portfolio →
        ∀ id usage,
          (∀ request ∈ requests, ¬ Owns server request.sender portfolio.name usage) →
            (Carries (Machine.run handleRequest requests server).2 index id usage ↔
              Carries server index id usage) := by
  refine ⟨?_, fun index portfolio hlookup id usage hsenders =>
    carries_of_not_owned requests hlookup hsenders⟩
  exact Machine.along_of_invariant (P := fun _ => True)
    (fun request state _ => ⟨trivial, handleRequest_changesOwned request state⟩) requests trivial

end Secw.SecurityWalletServer
