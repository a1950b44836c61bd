import SecurityWallet.Site
import SecurityWallet.Subscription

/-!
# A server and its followers

A follower subscribes to the stream of the server and reads the portfolios it is interested in with
calls of the library, one after the other. Requests of other clients and restarts may come between
any two of its steps, and each message of the stream is handed to it at some later time.
-/

open Foundation

namespace Secw

/-- What is read of a portfolio takes the place of what the copy had of it. -/
def Mirror.withPortfolio (mirror : Mirror) (portfolio : String) (docs : List Document) : Mirror :=
  fun (name, id) =>
    if name = portfolio then docs.find? fun doc => doc.id = id else mirror (name, id)

structure Follower where
  subscriber : Subscriber
  /-- The number of messages of the stream that it was handed, or that came before it subscribed. -/
  position : Nat := 0
  /-- The portfolios that it has read since it subscribed. -/
  portfolios : List String := []

structure Network [Platform] (κ : Type) where
  server : SecurityWalletServer
  /-- The messages that were published since the network is up, oldest first. -/
  stream : List (List String) := []
  followers : κ → Follower

inductive NetworkEvent (κ : Type) where
  /-- The request of any client, with any frames. -/
  | request (request : SecurityWalletServer.Request)
  | restart
  | subscribe (follower : κ)
  /-- A follower is handed the next message of the stream. -/
  | deliver (follower : κ)
  | read (follower : κ) (client : ClientId) (portfolio : String)

namespace Network

variable [Platform] [CxxtoolsClient] {κ : Type} [DecidableEq κ]

omit [CxxtoolsClient] [DecidableEq κ] in
/-- A network whose followers have subscribed and read nothing yet. -/
def start (server : SecurityWalletServer) (subscribers : κ → Subscriber) : Network κ where
  server
  followers := fun follower => { subscriber := subscribers follower }

omit [CxxtoolsClient] in
def setFollower (network : Network κ) (follower : κ) (next : Follower) : Network κ :=
  { network with followers := Function.update network.followers follower next }

def step : Machine (Network κ) (NetworkEvent κ) Unit
  | .request request, network =>
      let server := (SecurityWalletServer.handleRequest request network.server).2
      let published := server.published.drop network.server.published.length
      ((), { network with server, stream := network.stream ++ published })
  | .restart, network =>
      ((), { network with server := (Site.restart { server := network.server }).2.server })
  | .subscribe follower, network =>
      ((), network.setFollower follower
        { subscriber := (network.followers follower).subscriber
          position := network.stream.length })
  | .deliver follower, network =>
      let state := network.followers follower
      match network.stream[state.position]? with
      | none => ((), network)
      | some message =>
          ((), network.setFollower follower
            { state with
              subscriber := ClientAccessor.callbackHandler Subscriber.callbacks message
                state.subscriber
              position := state.position + 1 })
  | .read follower client portfolio, network =>
      let state := network.followers follower
      match (ProducerAccessor.getListDocumentsWithoutPrivateDataOfUsage client portfolio "").exec
          network.server with
      | (.error _, server) => ((), { network with server })
      | (.ok docs, server) =>
          ((), { network with server }.setFollower follower
            { state with
              subscriber := { state.subscriber with
                mirror := state.subscriber.mirror.withPortfolio portfolio docs }
              portfolios := portfolio :: state.portfolios })

/-- A follower once it is handed what is still pending. -/
def caughtUp (network : Network κ) (follower : κ) : Subscriber :=
  (network.stream.drop (network.followers follower).position).foldl
    (fun subscriber message => ClientAccessor.callbackHandler Subscriber.callbacks message subscriber)
    (network.followers follower).subscriber

end Network

end Secw
