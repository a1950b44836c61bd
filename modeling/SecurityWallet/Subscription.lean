import SecurityWallet.Client

/-!
# A subscriber to the stream

A client that keeps a copy of the documents. It sets all callbacks and is handed every message of the
stream in the order of publication.
-/

open Foundation

namespace Secw

/-- The documents a subscriber knows, by the name of their portfolio and their id. -/
abbrev Mirror := String × Id → Option Document

/-- What a callback was given: a portfolio, the old and the new document. -/
structure Delivery where
  portfolio : String
  oldData : Option Document
  newData : Option Document

/-- A copy of the documents, and all that was delivered, oldest first. -/
structure Subscriber where
  mirror : Mirror
  delivered : List Delivery := []

namespace Subscriber

/-- What is told about an id is written to the copy. -/
def receive (subscriber : Subscriber) (id : Id) (delivery : Delivery) : Subscriber where
  mirror := Function.update subscriber.mirror (delivery.portfolio, id) delivery.newData
  delivered := subscriber.delivered ++ [delivery]

/-- A new document goes under its id; a deleted one is taken away under its own. -/
def callbacks : ClientAccessor.Callbacks Subscriber where
  createdCallback := some fun portfolio newData subscriber =>
    subscriber.receive newData.id { portfolio, oldData := none, newData := some newData }
  updatedCallback := some fun portfolio oldData newData _ _ subscriber =>
    subscriber.receive newData.id { portfolio, oldData := some oldData, newData := some newData }
  deletedCallback := some fun portfolio oldData subscriber =>
    subscriber.receive oldData.id { portfolio, oldData := some oldData, newData := none }
  startedCallback := some fun subscriber => subscriber

end Subscriber

/-- The server and a subscriber, who is handed the messages that each request publishes. -/
def SecurityWalletServer.handleRequestWatched [Platform] [CxxtoolsClient] :
    Machine (SecurityWalletServer × Subscriber) SecurityWalletServer.Request (List String) :=
  Machine.watched SecurityWalletServer.handleRequest SecurityWalletServer.published
    (ClientAccessor.callbackHandler Subscriber.callbacks)

end Secw
