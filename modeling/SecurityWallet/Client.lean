import SecurityWallet.Server

/-!
# The clients of the wallet

A call of a client sends one command and reads the first frame of the reply; the description of an
error is thrown as the exception it is of. A client that listens to the stream is handed the
documents of each message whose callback it has set.
-/

open Foundation SerializationInfo

namespace Secw

/-- A call of a client; it changes the server and returns, or throws. -/
abbrev Call (α : Type) := Effect Exn SecurityWalletServer α

namespace ClientAccessor

variable [Platform]

/-! ### Commands -/

def syncRequestWithReply (client : ClientId) (payload : List String) : Call (List String) :=
  modifyGet (SecurityWalletServer.handleRequest ⟨client, payload⟩)

/-- An error reply is thrown as the exception it describes. -/
def checkReply (receivedFrames : List String) : Except Exn (List String) :=
  if receivedFrames.head? = some "ERROR" then
    match receivedFrames with
    | [_, data] => throw (throwSecwException data)
    | _ => throw (.secw (.protocolErrorException "Missing data for error"))
  else
    return receivedFrames

def sendCommand (client : ClientId) (command : Command) (frames : List String) :
    Call (List String) := do
  let receivedFrames ← syncRequestWithReply client (command.name :: frames)
  checkReply receivedFrames

/-- Reads the first frame of a reply. -/
def receive {α : Type} (read : SerializationInfo → Except Exn α) (frames : List String) :
    Except Exn α :=
  match frames with
  | [] => throw (.secw (.protocolErrorException "Empty answer from server"))
  | json :: _ => do
      let si ← deserialize (strToBytes json)
      read si

/-! ### What both kinds of clients ask for -/

def getPortfolioList (client : ClientId) : Call (List String) := do
  let frames ← sendCommand client .getPortfolioList []
  receive (fun si => liftStd (getList Cxxtools.getString si)) frames

/-- The two commands for the usages of the client. -/
def getUsages (command : Command) (client : ClientId) (portfolioName : String) :
    Call (StdSet UsageId) := do
  let frames ← sendCommand client command [portfolioName]
  receive (fun si => liftStd (getSet si)) frames

/-- Reading into a vector of documents. -/
def readDocuments (si : SerializationInfo) : Except Exn (List Document) :=
  (children si).mapM (Document.read · none)

/-- The two commands for the documents of a usage. -/
def getListDocuments (command : Command) (client : ClientId) (portfolio : String)
    (usageId : UsageId) : Call (List Document) := do
  let frames ← sendCommand client command [portfolio, usageId]
  receive readDocuments frames

/-! ### Notifications -/

/-- The callbacks of a subscriber with a state; those that are not set are `none`. -/
structure Callbacks (σ : Type) where
  createdCallback : Option (String → Document → σ → σ) := none
  updatedCallback : Option (String → Document → Document → Bool → Bool → σ → σ) := none
  deletedCallback : Option (String → Document → σ → σ) := none
  startedCallback : Option (σ → σ) := none

variable {σ : Type} [CxxtoolsClient]

/-- The body of the `try` of `callbackHandler`. -/
def handlePayload (callbacks : Callbacks σ) (payload : List String) (state : σ) : Except Exn σ :=
  match payload with
  | [json] => do
      let si ← deserialize (strToBytes json)
      let action ← liftStd (getStringMember si "action")
      if action = "CREATED" then
        match callbacks.createdCallback with
        | none => return state
        | some createdCallback => do
            let portfolio ← liftStd (getStringMember si "portfolio")
            let newData ← Document.read (← liftStd (getMember si "new_data")) none
            return createdCallback portfolio newData state
      else if action = "UPDATED" then
        match callbacks.updatedCallback with
        | none => return state
        | some updatedCallback => do
            let portfolio ← liftStd (getStringMember si "portfolio")
            let oldData ← Document.read (← liftStd (getMember si "old_data")) none
            let newData ← Document.read (← liftStd (getMember si "new_data")) none
            let nonSecretChanged ←
              liftStd (CxxtoolsClient.getBool (← liftStd (getMember si "non_secret_changed")))
            let secretChanged ←
              liftStd (CxxtoolsClient.getBool (← liftStd (getMember si "secret_changed")))
            return updatedCallback portfolio oldData newData nonSecretChanged secretChanged state
      else if action = "DELETED" then
        match callbacks.deletedCallback with
        | none => return state
        | some deletedCallback => do
            let portfolio ← liftStd (getStringMember si "portfolio")
            let oldData ← Document.read (← liftStd (getMember si "old_data")) none
            return deletedCallback portfolio oldData state
      else if action = "STARTED" then
        match callbacks.startedCallback with
        | none => return state
        | some startedCallback => return startedCallback state
      else
        return state
  | _ => return state

/-- Whatever is thrown is logged, and the message dropped. -/
def callbackHandler (callbacks : Callbacks σ) (payload : List String) (state : σ) : σ :=
  match handlePayload callbacks payload state with
  | .ok next => next
  | .error _ => state

end ClientAccessor

open ClientAccessor

variable [Platform]

/-! ### Producers -/

namespace ProducerAccessor

def getPortfolioList (client : ClientId) : Call (List String) :=
  ClientAccessor.getPortfolioList client

def getProducerUsages (client : ClientId) (portfolioName : String) : Call (StdSet UsageId) :=
  getUsages .getProducerUsages client portfolioName

def getListDocumentsWithoutPrivateDataOfUsage (client : ClientId) (portfolio : String)
    (usageId : UsageId) : Call (List Document) :=
  getListDocuments .getListWithoutSecret client portfolio usageId

def getDocumentWithoutPrivateData (client : ClientId) (portfolio : String) (id : Id) :
    Call Document := do
  let frames ← sendCommand client .getWithoutSecret [portfolio, id]
  receive (Document.read · none) frames

def updateDocument (client : ClientId) (portfolio : String) (doc : Document) : Call Unit := do
  let jsonDoc := serialize (doc.fillSerializationInfoWithSecret .null)
  let _ ← sendCommand client .update [portfolio, jsonDoc]

def getDocumentWithoutPrivateDataByName (client : ClientId) (portfolio name : String) :
    Call Document := do
  let frames ← sendCommand client .getWithoutSecretByName [portfolio, name]
  receive (Document.read · none) frames

/-- The first frame of the reply is the id, which is not looked at. -/
def insertNewDocument (client : ClientId) (portfolio : String) (doc : Document) : Call Id := do
  let jsonDoc := serialize (doc.fillSerializationInfoWithSecret .null)
  let frames ← sendCommand client .create [portfolio, jsonDoc]
  match frames with
  | [] => throw (.std "vector::_M_range_check")
  | id :: _ => return id

def deleteDocument (client : ClientId) (portfolio : String) (id : Id) : Call Unit := do
  let _ ← sendCommand client .delete [portfolio, id]

end ProducerAccessor

/-! ### Consumers -/

namespace ConsumerAccessor

def getPortfolioList (client : ClientId) : Call (List String) :=
  ClientAccessor.getPortfolioList client

def getConsumerUsages (client : ClientId) (portfolioName : String) : Call (StdSet UsageId) :=
  getUsages .getConsumerUsages client portfolioName

def getListDocumentsWithPrivateDataOfUsage (client : ClientId) (portfolio : String)
    (usageId : UsageId) : Call (List Document) :=
  getListDocuments .getListWithSecret client portfolio usageId

def getDocumentWithPrivateData (client : ClientId) (portfolio : String) (id : Id) :
    Call Document := do
  let frames ← sendCommand client .getWithSecret [portfolio, id]
  receive (Document.read · none) frames

def getDocumentWithPrivateDataByName (client : ClientId) (portfolio name : String) :
    Call Document := do
  let frames ← sendCommand client .getWithSecretByName [portfolio, name]
  receive (Document.read · none) frames

/-- The codes of a document that is not there or not accessible. -/
def isFiltered (exception : SecwException) : Bool :=
  exception.errorCode = 9 ∨ exception.errorCode = 10

/-- The documents of the ids, without those that are not there or not accessible. -/
def getListDocumentsWithPrivateData (client : ClientId) (portfolio : String) :
    List Id → Call (List Document)
  | [] => return []
  | id :: ids => do
      let doc ← tryCatch (some <$> getDocumentWithPrivateData client portfolio id) fun
        | .secw exception => if isFiltered exception then return none else throw (.secw exception)
        | e => throw e
      let docs ← getListDocumentsWithPrivateData client portfolio ids
      return doc.toList ++ docs

end ConsumerAccessor

end Secw
