import SecurityWallet.Foundation.Machine
import SecurityWallet.Wallet

/-!
# The security wallet server

The twelve commands of the wallet, in the order and with the checks of the source. A request either
answers one frame or, whenever a handler throws, the two frames of an error; every change of a
document is saved and then published without its secrets.
-/

open Foundation SerializationInfo

namespace Secw

abbrev Sender := String

structure SecurityWalletServer where
  activeWallet : SecurityWallet
  uuids : UuidSource
  randoms : RandomSource
  /-- The messages handed to the stream publisher, oldest first. -/
  published : List (List String) := []

/-! ### Commands -/

inductive Command where
  | getPortfolioList
  | getConsumerUsages
  | getProducerUsages
  | getListWithSecret
  | getListWithoutSecret
  | getWithoutSecret
  | getWithoutSecretByName
  | getWithSecret
  | getWithSecretByName
  | create
  | delete
  | update
deriving DecidableEq, Repr

namespace Command

def name : Command → String
  | getPortfolioList => "GET_PORTFOLIO_LIST"
  | getConsumerUsages => "GET_CONSUMER_USAGES"
  | getProducerUsages => "GET_PRODUCER_USAGES"
  | getListWithSecret => "GET_LIST_WITH_SECRET"
  | getListWithoutSecret => "GET_LIST_WITHOUT_SECRET"
  | getWithoutSecret => "GET_WITHOUT_SECRET"
  | getWithoutSecretByName => "GET_WITHOUT_SECRET_BY_NAME"
  | getWithSecret => "GET_WITH_SECRET"
  | getWithSecretByName => "GET_WITH_SECRET_BY_NAME"
  | create => "CREATE"
  | delete => "DELETE"
  | update => "UPDATE"

def supportedCommands : List Command :=
  [getPortfolioList, getConsumerUsages, getProducerUsages, getListWithSecret,
    getListWithoutSecret, getWithoutSecret, getWithSecret, getWithoutSecretByName,
    getWithSecretByName, create, delete, update]

def ofName? (cmd : String) : Option Command :=
  supportedCommands.find? fun command => command.name = cmd

@[simp]
theorem ofName?_name (command : Command) : ofName? command.name = some command := by
  cases command <;> decide

theorem name_inj {command other : Command} : command.name = other.name ↔ command = other := by
  constructor
  · intro hname
    rw [← Option.some_inj, ← ofName?_name command, hname, ofName?_name]
  · rintro rfl
    rfl

theorem name_of_ofName? {cmd : String} {command : Command} (hfind : ofName? cmd = some command) :
    command.name = cmd := by
  simpa using List.find?_some hfind

end Command

namespace SecurityWalletServer

/-- Runs an operation on the portfolio a reference stands for. -/
def onPortfolio {α : Type} (index : Nat) (act : Effect Exn (Portfolio × UuidSource) α) :
    Effect Exn SecurityWalletServer α :=
  Effect.zoom (fun server => (server.activeWallet.portfolioAt index, server.uuids))
    (fun next server =>
      { server with
        activeWallet := server.activeWallet.setPortfolio index next.1
        uuids := next.2 })
    act

def onWallet {α : Type} (act : Effect Exn SecurityWallet α) :
    Effect Exn SecurityWalletServer α :=
  Effect.zoom activeWallet (fun activeWallet server => { server with activeWallet }) act

/-- An operation on a portfolio that draws no id. -/
def withoutUuids {α : Type} (act : Effect Exn Portfolio α) :
    Effect Exn (Portfolio × UuidSource) α :=
  Effect.zoom Prod.fst (fun portfolio next => (portfolio, next.2)) act

variable [Platform]

/-! ### Reading commands -/

def handleGetListPortfolio (_sender : Sender) (_params : List String) :
    Effect Exn SecurityWalletServer String := do
  let wallet := (← get).activeWallet
  return serialize (ofList .str wallet.getPortfolioNames)

/-- The two commands for the usages of a client. -/
def handleGetUsages
    (usagesOf : SecurityWallet → String → ClientId → Except Exn (StdSet UsageId))
    (sender : Sender) (params : List String) : Effect Exn SecurityWalletServer String :=
  match params with
  | [portfolioName] => do
      let wallet := (← get).activeWallet
      return serialize (ofSet (← usagesOf wallet portfolioName sender))
  | _ => throw (.secw (.badCommandArgumentException "Command needs at least 1 argument"))

def handleGetConsumerUsages (sender : Sender) (params : List String) :
    Effect Exn SecurityWalletServer String :=
  handleGetUsages SecurityWallet.consumerUsages sender params

def handleGetProducerUsages (sender : Sender) (params : List String) :
    Effect Exn SecurityWalletServer String :=
  handleGetUsages SecurityWallet.producerUsages sender params

/-- The usages of a client, which must have at least one. -/
def checkGlobalAccess (usages : Except Exn (StdSet UsageId)) (whatArg : String) :
    Except Exn (StdSet UsageId) := do
  let allowedUsageIds ← usages
  if allowedUsageIds.size = 0 then
    throw (.secw (.illegalAccess whatArg))
  return allowedUsageIds

/-- The two commands that read one document with its secrets, found by id or by name. -/
def handleGetWithSecret (find : Portfolio → String → Except Exn Document)
    (sender : Sender) (params : List String) : Effect Exn SecurityWalletServer String :=
  match params with
  | [portfolioName, key] => do
      let whatArg := "You do not have access to this document"
      let wallet := (← get).activeWallet
      let allowedUsageIds ← checkGlobalAccess (wallet.consumerUsages portfolioName sender) whatArg
      let doc ← find (wallet.portfolioAt (← wallet.getPortfolio portfolioName)) key
      if ¬ hasCommonUsageIds allowedUsageIds doc.usages then
        throw (.secw (.illegalAccess whatArg))
      return serialize (doc.fillSerializationInfoWithSecret .null)
  | _ => throw (.secw (.badCommandArgumentException "Command needs at least 2 arguments"))

/-- The two commands that read one document without its secrets, found by id or by name. -/
def handleGetWithoutSecret (find : Portfolio → String → Except Exn Document)
    (_sender : Sender) (params : List String) : Effect Exn SecurityWalletServer String :=
  match params with
  | [portfolioName, key] => do
      let wallet := (← get).activeWallet
      let doc ← find (wallet.portfolioAt (← wallet.getPortfolio portfolioName)) key
      return serialize (doc.fillSerializationInfoWithoutSecret .null)
  | _ => throw (.secw (.badCommandArgumentException "Command needs at least 2 arguments"))

def handleGetDocumentWithSecret (sender : Sender) (params : List String) :
    Effect Exn SecurityWalletServer String :=
  handleGetWithSecret Portfolio.getDocument sender params

def handleGetDocumentWithoutSecret (sender : Sender) (params : List String) :
    Effect Exn SecurityWalletServer String :=
  handleGetWithoutSecret Portfolio.getDocument sender params

def handleGetDocumentWithSecretByName (sender : Sender) (params : List String) :
    Effect Exn SecurityWalletServer String :=
  handleGetWithSecret Portfolio.getDocumentByName sender params

def handleGetDocumentWithoutSecretByName (sender : Sender) (params : List String) :
    Effect Exn SecurityWalletServer String :=
  handleGetWithoutSecret Portfolio.getDocumentByName sender params

/-- An empty set of usages stands for all documents. -/
def serializeListDocumentsPublic (portfolioName : String) (usages : StdSet UsageId) :
    Effect Exn SecurityWalletServer String := do
  let wallet := (← get).activeWallet
  let portfolio := wallet.portfolioAt (← wallet.getPortfolio portfolioName)
  let docs := portfolio.getListDocuments.filter fun pDoc =>
    usages.isEmpty ∨ hasCommonUsageIds pDoc.usages usages
  return serialize (ofList (fun pDoc => pDoc.fillSerializationInfoWithoutSecret .null) docs)

def serializeListDocumentsPrivate (portfolioName : String) (usages : StdSet UsageId) :
    Effect Exn SecurityWalletServer String := do
  let wallet := (← get).activeWallet
  let portfolio := wallet.portfolioAt (← wallet.getPortfolio portfolioName)
  let docs := portfolio.getListDocuments.filter fun pDoc => hasCommonUsageIds pDoc.usages usages
  return serialize (ofList (fun pDoc => pDoc.fillSerializationInfoWithSecret .null) docs)

def handleGetListDocumentsWithSecret (sender : Sender) (params : List String) :
    Effect Exn SecurityWalletServer String :=
  match params with
  | [] => throw (.secw (.badCommandArgumentException "Command needs at least argument"))
  | portfolioName :: rest => do
      let whatArg := "You do not have access to this command"
      let wallet := (← get).activeWallet
      let allowedUsageIds ← checkGlobalAccess (wallet.consumerUsages portfolioName sender) whatArg
      let usage := rest.headD ""
      if ¬ usage.isEmpty then
        if ¬ allowedUsageIds.contains usage then
          throw (.secw (.illegalAccess whatArg))
        serializeListDocumentsPrivate portfolioName {usage}
      else
        serializeListDocumentsPrivate portfolioName allowedUsageIds

def handleGetListDocumentsWithoutSecret (_sender : Sender) (params : List String) :
    Effect Exn SecurityWalletServer String :=
  match params with
  | [] => throw (.secw (.badCommandArgumentException "Command needs at least argument"))
  | portfolioName :: rest => do
      let usage := rest.headD ""
      let wallet := (← get).activeWallet
      let usageIDs := (← wallet.getConfiguration portfolioName).getAllUsageId
      if ¬ usage.isEmpty ∧ ¬ usageIDs.contains usage then
        throw (.secw (secwUnknownUsageIDException usage))
      if ¬ usage.isEmpty then
        serializeListDocumentsPublic portfolioName {usage}
      else
        serializeListDocumentsPublic portfolioName ∅

/-! ### Notifications -/

def publish (rootSi : SerializationInfo) : Effect Exn SecurityWalletServer Unit :=
  modify fun server => { server with published := server.published ++ [[serialize rootSi]] }

def notificationOnCreate (portfolio : String) (newDocument : Document) : SerializationInfo :=
  let rootSi := addMember .null "action" (.str "CREATED")
  let rootSi := addMember rootSi "portfolio" (.str portfolio)
  let rootSi := addMember rootSi "old_data" .null
  addMember rootSi "new_data" (newDocument.fillSerializationInfoWithoutSecret .null)

def notificationOnDelete (portfolio : String) (oldDocument : Document) : SerializationInfo :=
  let rootSi := addMember .null "action" (.str "DELETED")
  let rootSi := addMember rootSi "portfolio" (.str portfolio)
  let rootSi := addMember rootSi "new_data" .null
  addMember rootSi "old_data" (oldDocument.fillSerializationInfoWithoutSecret .null)

def notificationOnUpdate (portfolio : String) (oldDocument newDocument : Document) :
    SerializationInfo :=
  let rootSi := addMember .null "action" (.str "UPDATED")
  let rootSi := addMember rootSi "portfolio" (.str portfolio)
  let rootSi := addMember rootSi "old_data" (oldDocument.fillSerializationInfoWithoutSecret .null)
  let rootSi := addMember rootSi "new_data" (newDocument.fillSerializationInfoWithoutSecret .null)
  let rootSi := addMember rootSi "non_secret_changed"
    (.bool (¬ newDocument.isNonSecretEquals oldDocument))
  addMember rootSi "secret_changed" (.bool (¬ newDocument.isSecretEquals oldDocument))

def sendNotificationOnCreate (portfolio : String) (newDocument : Document) :
    Effect Exn SecurityWalletServer Unit :=
  publish (notificationOnCreate portfolio newDocument)

def sendNotificationOnDelete (portfolio : String) (oldDocument : Document) :
    Effect Exn SecurityWalletServer Unit :=
  publish (notificationOnDelete portfolio oldDocument)

def sendNotificationOnUpdate (portfolio : String) (oldDocument newDocument : Document) :
    Effect Exn SecurityWalletServer Unit :=
  publish (notificationOnUpdate portfolio oldDocument newDocument)

/-! ### Writing commands -/

/-- Every usage must belong to the user; the first one that does not is named. -/
def checkUsages (allowedUsageIds : StdSet UsageId) (usages : StdSet UsageId) :
    Except Exn Unit :=
  match usages.toList.find? fun usage => ¬ allowedUsageIds.contains usage with
  | some usage =>
      throw (.secw (.illegalAccess ("You do not have access to usage <" ++ usage ++ ">")))
  | none => return

def handleCreate (sender : Sender) (params : List String) :
    Effect Exn SecurityWalletServer String :=
  match params with
  | portfolioName :: document :: _ => do
      let wallet := (← get).activeWallet
      let allowedUsageIds ← checkGlobalAccess (wallet.producerUsages portfolioName sender)
        "You do not have access to this command"
      let portfolio ← wallet.getPortfolio portfolioName
      let si ← deserialize (strToBytes document)
      let doc ← Document.read si none
      doc.validate
      checkUsages allowedUsageIds doc.usages
      let newId ← onPortfolio portfolio (Portfolio.add doc)
      onWallet SecurityWallet.save
      let newDocument ← ((← get).activeWallet.portfolioAt portfolio).getDocument newId
      sendNotificationOnCreate portfolioName newDocument
      return newId
  | _ => throw (.secw (.badCommandArgumentException "Command need 2 arguments"))

def handleDelete (sender : Sender) (params : List String) :
    Effect Exn SecurityWalletServer String :=
  match params with
  | portfolioName :: id :: _ => do
      let wallet := (← get).activeWallet
      let allowedUsageIds ← checkGlobalAccess (wallet.producerUsages portfolioName sender)
        "You do not have access to this command"
      let portfolio ← wallet.getPortfolio portfolioName
      let doc ← (wallet.portfolioAt portfolio).getDocument id
      checkUsages allowedUsageIds doc.usages
      onPortfolio portfolio (withoutUuids (Portfolio.remove id))
      onWallet SecurityWallet.save
      sendNotificationOnDelete portfolioName doc
      return "OK"
  | _ => throw (.secw (.badCommandArgumentException "Command need 2 arguments"))

def handleUpdate (sender : Sender) (params : List String) :
    Effect Exn SecurityWalletServer String :=
  match params with
  | portfolioName :: document :: _ => do
      let wallet := (← get).activeWallet
      let allowedUsageIds ← checkGlobalAccess (wallet.producerUsages portfolioName sender)
        "You do not have access to this command"
      let portfolio ← wallet.getPortfolio portfolioName
      let si ← deserialize (strToBytes document)
      let doc ← Document.read si none
      let docBeforeUpdate ← (wallet.portfolioAt portfolio).getDocument doc.id
      let diff := differenceBetween2UsagesIdSet doc.usages docBeforeUpdate.usages
      checkUsages allowedUsageIds diff
      -- the tree is decoded a second time, over a copy of the stored document
      let copyOfExistingDoc ← Document.read si (some docBeforeUpdate)
      copyOfExistingDoc.validate
      onPortfolio portfolio (withoutUuids (Portfolio.update copyOfExistingDoc))
      onWallet SecurityWallet.save
      sendNotificationOnUpdate portfolioName docBeforeUpdate doc
      return "OK"
  | _ => throw (.secw (.badCommandArgumentException "Command need 2 arguments"))

/-! ### Requests -/

/-- The handler bound to a command. -/
def handler : Command → Sender → List String → Effect Exn SecurityWalletServer String
  | .getPortfolioList => handleGetListPortfolio
  | .getConsumerUsages => handleGetConsumerUsages
  | .getProducerUsages => handleGetProducerUsages
  | .getListWithSecret => handleGetListDocumentsWithSecret
  | .getListWithoutSecret => handleGetListDocumentsWithoutSecret
  | .getWithoutSecret => handleGetDocumentWithoutSecret
  | .getWithoutSecretByName => handleGetDocumentWithoutSecretByName
  | .getWithSecret => handleGetDocumentWithSecret
  | .getWithSecretByName => handleGetDocumentWithSecretByName
  | .create => handleCreate
  | .delete => handleDelete
  | .update => handleUpdate

/-- A request to the server: who sends it and its frames. -/
structure Request where
  sender : Sender
  payload : List String
deriving DecidableEq, Repr

/-- The body of the `try` of `handleRequest`: the frames to answer. -/
def processRequest (request : Request) : Effect Exn SecurityWalletServer (List String) :=
  match request.payload with
  | [] => throw (.secw (.protocolErrorException "Command frame is empty"))
  | cmd :: params =>
      if cmd = "ERROR" ∨ cmd = "OK" then
        return []
      else
        match Command.ofName? cmd with
        | none => throw (.secw (.unsupportedCommandException (cmd ++ " not supported")))
        | some command => do
            let result ← handler command request.sender params
            return [result]

/-- The frames for an exception; only those of the wallet are described. -/
def errorReply : Exn → List String
  | .secw exception => ["ERROR", exception.toJson]
  | .std _ => ["ERROR", ""]

def handleRequest : Machine SecurityWalletServer Request (List String) := fun request server =>
  match (processRequest request).exec server with
  | (.ok frames, next) => (frames, next)
  | (.error e, next) => (errorReply e, next)

/-! ### Save and restore queries -/

def activeVersion : String := "1.0"
def featureSrrSecw : String := "security-wallet"

/-- A feature of an SRR query or response with its data. -/
structure Feature where
  version : String := ""
  data : String := ""
deriving DecidableEq, Repr

inductive FeatureStatus where
  | success
  | failed (error : String)
deriving DecidableEq, Repr

/-- The save of one feature: its data, its status and the server it leaves. -/
def saveFeature (passpharse featureName : String) (server : SecurityWalletServer) :
    (Feature × FeatureStatus) × SecurityWalletServer :=
  if featureName = featureSrrSecw then
    match (server.activeWallet.getSrrSaveData passpharse).exec server.randoms with
    | (.ok si, randoms) =>
        (({ version := activeVersion, data := serialize si }, .success), { server with randoms })
    | (.error e, randoms) =>
        (({ version := activeVersion }, .failed e.what), { server with randoms })
  else
    (({}, .failed "Feature is not supported!"), server)

def handleSave (passpharse : String) (features : List String) (server : SecurityWalletServer) :
    StdMap String (Feature × FeatureStatus) × SecurityWalletServer :=
  features.foldl
    (fun (mapFeaturesData, server) featureName =>
      let (data, server) := saveFeature passpharse featureName server
      (mapFeaturesData.insert featureName data, server))
    (∅, server)

/-- The restore of one feature: its status and the server it leaves. -/
def restoreFeature (passpharse featureName : String) (feature : Feature)
    (server : SecurityWalletServer) : FeatureStatus × SecurityWalletServer :=
  if featureName = featureSrrSecw then
    let restore : Effect Exn SecurityWalletServer Unit := do
      let si ← deserialize (strToBytes feature.data)
      onWallet (SecurityWallet.restoreSRRData si passpharse feature.version)
    match restore.exec server with
    | (.ok _, next) => (.success, next)
    | (.error e, next) => (.failed e.what, next)
  else
    (.failed "Feature is not supported!", server)

def handleRestore (passpharse : String) (mapFeaturesData : StdMap String Feature)
    (server : SecurityWalletServer) :
    StdMap String FeatureStatus × SecurityWalletServer :=
  mapFeaturesData.toList.foldl
    (fun (mapStatus, server) (featureName, feature) =>
      let (status, server) := restoreFeature passpharse featureName feature server
      (mapStatus.insert featureName status, server))
    (∅, server)

end SecurityWalletServer

end Secw
