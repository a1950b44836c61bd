import SecurityWallet.Proof.Requests

/-!
# Requests that can be left out

Whether a request may change a wallet can be told from the configuration: it is a command that
writes, and its sender produces some usage of the portfolio that it names. Every other request, in
whatever number and with whatever frames, can be left out of a run, and nobody notices.
-/

open Foundation Machine

namespace Secw

variable [Platform]

open SecurityWalletServer

/-- The request is to write, to a portfolio of which its sender produces a usage. -/
def SecurityWallet.mayChange (wallet : SecurityWallet) (request : Request) : Bool :=
  match request.payload with
  | cmd :: portfolioName :: _ =>
      ((Command.ofName? cmd).any fun command => isWriting command) &&
        match wallet.producerUsages portfolioName request.sender with
        | .ok usages => usages.size ≠ 0
        | .error _ => false
  | _ => false

theorem SecurityWallet.mayChange_congr {wallet other : SecurityWallet}
    (hconfigurations : wallet.configurations = other.configurations) (request : Request) :
    wallet.mayChange request = other.mayChange request := by
  simp only [mayChange, producerUsages, getConfiguration, hconfigurations]

namespace SecurityWalletServer

/-- A change is made by a request that may make it. -/
theorem Change.mayChange {server next : SecurityWalletServer} {request : Request}
    {command : Command} {params : List String} {result : String}
    (hchange : Change server request.sender command params result next)
    (hwriting : isWriting command = true) (hpayload : request.payload = command.name :: params) :
    server.activeWallet.mayChange request = true := by
  have haccess : ∃ portfolioName rest usages, params = portfolioName :: rest ∧
      server.activeWallet.producerUsages portfolioName request.sender = .ok usages ∧
      usages.size ≠ 0 := by
    cases hchange with
    | create haccess => exact ⟨_, _, _, rfl, haccess.rights, haccess.nonempty⟩
    | delete haccess => exact ⟨_, _, _, rfl, haccess.rights, haccess.nonempty⟩
    | update haccess => exact ⟨_, _, _, rfl, haccess.rights, haccess.nonempty⟩
  obtain ⟨portfolioName, rest, usages, rfl, hrights, hnonempty⟩ := haccess
  rw [SecurityWallet.mayChange, hpayload]
  dsimp only
  rw [Command.ofName?_name, hrights, Option.any_some, hwriting]
  simpa using hnonempty

/-- A request that may not change the wallet leaves the whole server as it is. -/
theorem handleRequest_of_not_mayChange {server : SecurityWalletServer} {request : Request}
    (hmay : server.activeWallet.mayChange request = false) :
    (handleRequest request server).2 = server := by
  have houtcome := handleRequest_outcome request server
  generalize (handleRequest request server).1 = frames at houtcome
  generalize (handleRequest request server).2 = next at houtcome ⊢
  cases houtcome with
  | changed hpayload hwriting hchange =>
      rw [hchange.mayChange hwriting hpayload] at hmay
      cases hmay
  | _ => rfl

/--
Leave out of any run of requests those whose sender may not change the portfolio they name. The
server ends in the same state, with the same files and the same messages published, and each of the
other requests is answered as before.
-/
theorem outsiders_leave_no_trace (server : SecurityWalletServer) (requests : List Request) :
    (run handleRequest (requests.filter server.activeWallet.mayChange) server).2 =
        (run handleRequest requests server).2 ∧
      log handleRequest (requests.filter server.activeWallet.mayChange) server =
        (log handleRequest requests server).filter fun entry =>
          server.activeWallet.mayChange entry.1 := by
  let Same (next : SecurityWalletServer) : Prop :=
    next.activeWallet.configurations = server.activeWallet.configurations
  refine run_filter (P := Same) ?_ ?_ requests rfl
  · intro request next hsame
    exact (handleRequest_sameFrame request next).1.trans hsame
  · intro request next hsame hmay
    apply handleRequest_of_not_mayChange
    rw [SecurityWallet.mayChange_congr hsame, hmay]

end SecurityWalletServer

end Secw
