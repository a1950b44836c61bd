import SecurityWallet.Client
import SecurityWallet.Vault

/-!
# A site

A site is a running server with the backups that were taken of it. Its clients call the accessors of
the library, its process may be killed and started again, and an administrator takes backups and
restores them with the passphrases they were taken with.
-/

open Foundation

namespace Secw

variable [Platform]

/-! ### Documents of a list of ids -/

/-- The loop over the ids, for any way to read one document. -/
def ClientAccessor.collect (get : Id → Call Document) : List Id → Call (List Document)
  | [] => return []
  | id :: ids => do
      let doc ← tryCatch (some <$> get id) fun
        | .secw exception =>
            if ConsumerAccessor.isFiltered exception then return none else throw (.secw exception)
        | e => throw e
      let docs ← collect get ids
      return doc.toList ++ docs

theorem ConsumerAccessor.getListDocumentsWithPrivateData_eq_collect (client : ClientId)
    (portfolio : String) (ids : List Id) :
    getListDocumentsWithPrivateData client portfolio ids =
      ClientAccessor.collect (getDocumentWithPrivateData client portfolio) ids := by
  induction ids with
  | nil => rfl
  | cons id ids ih =>
      rw [getListDocumentsWithPrivateData, ih]
      rfl

def ProducerAccessor.getListDocumentsWithoutPrivateData (client : ClientId) (portfolio : String)
    (ids : List Id) : Call (List Document) :=
  ClientAccessor.collect (getDocumentWithoutPrivateData client portfolio) ids

/-! ### Sites -/

/-- The function of the library that makes the call. -/
def WalletCall.exec (client : ClientId) : WalletCall → Call Answer
  | .portfolios => .names <$> ConsumerAccessor.getPortfolioList client
  | .consumerUsages portfolio => .usages <$> ConsumerAccessor.getConsumerUsages client portfolio
  | .producerUsages portfolio => .usages <$> ProducerAccessor.getProducerUsages client portfolio
  | .secret portfolio (.id id) =>
      .document <$> ConsumerAccessor.getDocumentWithPrivateData client portfolio id
  | .secret portfolio (.name name) =>
      .document <$> ConsumerAccessor.getDocumentWithPrivateDataByName client portfolio name
  | .secretsOfUsage portfolio usage =>
      .documents <$> ConsumerAccessor.getListDocumentsWithPrivateDataOfUsage client portfolio usage
  | .secretsOfIds portfolio ids =>
      .documents <$> ConsumerAccessor.getListDocumentsWithPrivateData client portfolio ids
  | .view portfolio (.id id) =>
      .document <$> ProducerAccessor.getDocumentWithoutPrivateData client portfolio id
  | .view portfolio (.name name) =>
      .document <$> ProducerAccessor.getDocumentWithoutPrivateDataByName client portfolio name
  | .viewsOfUsage portfolio usage =>
      .documents <$>
        ProducerAccessor.getListDocumentsWithoutPrivateDataOfUsage client portfolio usage
  | .viewsOfIds portfolio ids =>
      .documents <$> ProducerAccessor.getListDocumentsWithoutPrivateData client portfolio ids
  | .insert portfolio doc => .id <$> ProducerAccessor.insertNewDocument client portfolio doc
  | .update portfolio doc =>
      (fun _ => .done) <$> ProducerAccessor.updateDocument client portfolio doc
  | .delete portfolio id =>
      (fun _ => .done) <$> ProducerAccessor.deleteDocument client portfolio id

structure Site where
  server : SecurityWalletServer
  /-- What each backup returned, with its passphrase, oldest first. -/
  backups : List (String × SecurityWalletServer.Feature) := []

namespace Site

open SecurityWalletServer

/-- The process starts again on the files it left. -/
def restart (site : Site) : Except Refusal Answer × Site :=
  match SecurityWallet.construct site.server.activeWallet.disk with
  | some activeWallet => (.ok .done, { site with server.activeWallet := activeWallet })
  | none => (.error .undescribed, site)

def backup (passphrase : String) (site : Site) : Except Refusal Answer × Site :=
  let (mapFeaturesData, server) := handleSave passphrase [featureSrrSecw] site.server
  match mapFeaturesData[featureSrrSecw]? with
  | some (feature, .success) =>
      (.ok .done, { server, backups := site.backups ++ [(passphrase, feature)] })
  | _ => (.error .undescribed, { site with server })

def restore (number : Nat) (site : Site) : Except Refusal Answer × Site :=
  match site.backups[number]? with
  | some (passphrase, feature) =>
      let (mapStatus, server) := handleRestore passphrase
        ((∅ : StdMap String Feature).insert featureSrrSecw feature) site.server
      match mapStatus[featureSrrSecw]? with
      | some .success => (.ok .done, { site with server })
      | _ => (.error .undescribed, { site with server })
  | none => (.error .undescribed, site)

/-- What an event answers; of an exception it is told what a client can tell. -/
def perform : Machine Site VaultEvent (Except Refusal Answer)
  | .call client call, site =>
      let (outcome, server) := (call.exec client).exec site.server
      (outcome.mapError Refusal.of, { site with server })
  | .restart, site => site.restart
  | .backup passphrase, site => site.backup passphrase
  | .restore number, site => site.restore number

end Site

end Secw
