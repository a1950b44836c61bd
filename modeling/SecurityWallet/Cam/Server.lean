import SecurityWallet.Cam.Storage
import SecurityWallet.Foundation.Machine

/-!
# The credential asset mapping server

The commands on mappings. A request either answers one frame or, whenever a handler throws, the two
frames of an error; only the exceptions of the mapping are described in it.
-/

open Foundation SerializationInfo

namespace Cam

abbrev Sender := String

structure CredentialAssetMappingServer where
  activeMapping : CredentialAssetMappingStorage := {}
deriving DecidableEq

/-! ### Commands -/

inductive Command where
  | createMapping
  | getMapping
  | updateMapping
  | updatePortMapping
  | updateCredentialMapping
  | updateStatusMapping
  | updateInfoMapping
  | removeMapping
  | getAssetMappings
  | getCredMappings
  | getMappings
  | getAllMappings
  | countCredMappings
deriving DecidableEq, Repr

namespace Command

def name : Command → String
  | createMapping => "CREATE_MAPPING"
  | getMapping => "GET_MAPPING"
  | updateMapping => "UPDATE_MAPPING"
  | updatePortMapping => "UPDATE_PORT_MAPPING"
  | updateCredentialMapping => "UPDATE_CREDENTIAL_MAPPING"
  | updateStatusMapping => "UPDATE_STATUS_MAPPING"
  | updateInfoMapping => "UPDATE_INFO_MAPPING"
  | removeMapping => "REMOVE_MAPPING"
  | getAssetMappings => "GET_ASSET_MAPPINGS"
  | getCredMappings => "GET_CRED_MAPPINGS"
  | getMappings => "GET_MAPPINGS"
  | getAllMappings => "GET_ALL_MAPPINGS"
  | countCredMappings => "COUNT_CRED_MAPPINGS"

def supportedCommands : List Command :=
  [createMapping, getMapping, updatePortMapping, updateCredentialMapping, updateStatusMapping,
    updateInfoMapping, updateMapping, removeMapping, getAssetMappings, getCredMappings, getMappings,
    getAllMappings, countCredMappings]

def ofName? (cmd : String) : Option Command :=
  supportedCommands.find? fun command => command.name = cmd

@[simp]
theorem ofName?_name (command : Command) : ofName? command.name = some command := by
  cases command <;> decide

end Command

variable [Cxxtools]

def deserialize (json : String) : Except Exn SerializationInfo :=
  (Cxxtools.deserialize (strToBytes json)).mapError fun what =>
    .cam (.protocolError ("Error in the json from server: " ++ what))

def serialize (si : SerializationInfo) : String := Cxxtools.serialize false si

namespace CredentialAssetMappingServer

def onStorage {α : Type} (act : Effect Exn CredentialAssetMappingStorage α) :
    Effect Exn CredentialAssetMappingServer α :=
  Effect.zoom activeMapping (fun activeMapping _ => { activeMapping }) act

/-- The parameter of the commands that take a mapping in JSON. -/
def receiveMapping (params : List String) : Except Exn CredentialAssetMapping :=
  match params with
  | [] => throw (.cam (camBadCommandArgumentException "" "Command needs at least 1 argument"))
  | json :: _ => do
      let si ← deserialize json
      liftStd (CredentialAssetMapping.fromSerializationInfo si)

/-- The parameters of the commands that take a triple; of three only two are asked for. -/
def receiveTriple (params : List String) : Except Exn (AssetId × ServiceId × Protocol) :=
  match params with
  | assetId :: serviceId :: protocol :: _ => return (assetId, serviceId, protocol)
  | [_, _] => throw (.std "vector::_M_range_check")
  | _ => throw (.cam (camBadCommandArgumentException "" "Command needs at least 2 arguments"))

def handleGetMapping (_sender : Sender) (params : List String) :
    Effect Exn CredentialAssetMappingServer String := do
  let (assetId, serviceId, protocol) ← receiveTriple params
  let mapping ← (← get).activeMapping.getMapping assetId serviceId protocol
  return serialize (mapping.fillSerializationInfo .null)

def handleCreateMapping (_sender : Sender) (params : List String) :
    Effect Exn CredentialAssetMappingServer String := do
  let mapping ← receiveMapping params
  if (← get).activeMapping.isMappingExisting mapping.assetId mapping.serviceId mapping.protocol then
    throw (.cam (camMappingAlreadyExistsException mapping.assetId mapping.serviceId
      mapping.protocol))
  onStorage (CredentialAssetMappingStorage.setMapping mapping)
  onStorage CredentialAssetMappingStorage.save
  return ""

def handleRemoveMapping (_sender : Sender) (params : List String) :
    Effect Exn CredentialAssetMappingServer String := do
  let (assetId, serviceId, protocol) ← receiveTriple params
  onStorage (CredentialAssetMappingStorage.removeMapping assetId serviceId protocol)
  onStorage CredentialAssetMappingStorage.save
  return ""

def handleUpdateMapping (_sender : Sender) (params : List String) :
    Effect Exn CredentialAssetMappingServer String := do
  let mapping ← receiveMapping params
  if ¬ (← get).activeMapping.isMappingExisting mapping.assetId mapping.serviceId
      mapping.protocol then
    throw (.cam (camMappingDoesNotExistException mapping.assetId mapping.serviceId
      mapping.protocol))
  onStorage (CredentialAssetMappingStorage.setMapping mapping)
  onStorage CredentialAssetMappingStorage.save
  return ""

/-- The commands that update one field of a mapping with that of the received one. -/
def handleUpdateField (update : (existing received : CredentialAssetMapping) →
      CredentialAssetMapping)
    (_sender : Sender) (params : List String) : Effect Exn CredentialAssetMappingServer String := do
  let receivedMapping ← receiveMapping params
  let existingMapping ← (← get).activeMapping.getMapping receivedMapping.assetId
    receivedMapping.serviceId receivedMapping.protocol
  onStorage (CredentialAssetMappingStorage.setMapping (update existingMapping receivedMapping))
  onStorage CredentialAssetMappingStorage.save
  return ""

def updatePort (existing received : CredentialAssetMapping) : CredentialAssetMapping :=
  { existing with port := received.port, status := Status.unknown }

def updateCredential (existing received : CredentialAssetMapping) : CredentialAssetMapping :=
  { existing with credentialId := received.credentialId, status := Status.unknown }

def updateStatus (existing received : CredentialAssetMapping) : CredentialAssetMapping :=
  { existing with status := received.status }

def updateInfo (existing received : CredentialAssetMapping) : CredentialAssetMapping :=
  { existing with extendedInfo := received.extendedInfo }

def handleUpdatePortMapping (sender : Sender) (params : List String) :
    Effect Exn CredentialAssetMappingServer String :=
  handleUpdateField updatePort sender params

def handleUpdateCredentialMapping (sender : Sender) (params : List String) :
    Effect Exn CredentialAssetMappingServer String :=
  handleUpdateField updateCredential sender params

def handleUpdateStatusMapping (sender : Sender) (params : List String) :
    Effect Exn CredentialAssetMappingServer String :=
  handleUpdateField updateStatus sender params

def handleUpdateInfoMapping (sender : Sender) (params : List String) :
    Effect Exn CredentialAssetMappingServer String :=
  handleUpdateField updateInfo sender params

def serializeMappings (mappings : List CredentialAssetMapping) : String :=
  serialize (ofList (fun mapping => mapping.fillSerializationInfo .null) mappings)

def handleGetAssetMappings (_sender : Sender) (params : List String) :
    Effect Exn CredentialAssetMappingServer String :=
  match params with
  | [] => throw (.cam (camBadCommandArgumentException "" "Command needs at least 1 argument"))
  | assetId :: _ => do
      return serializeMappings ((← get).activeMapping.getAssetMappings assetId)

def handleGetMappings (_sender : Sender) (params : List String) :
    Effect Exn CredentialAssetMappingServer String :=
  match params with
  | assetId :: serviceId :: _ => do
      return serializeMappings ((← get).activeMapping.getMappings assetId serviceId)
  | _ => throw (.cam (camBadCommandArgumentException "" "Command needs at least 2 arguments"))

def handleGetAllMappings (_sender : Sender) (_params : List String) :
    Effect Exn CredentialAssetMappingServer String := do
  return serializeMappings (← get).activeMapping.getAllMappings

def handleGetCredentialMappings (_sender : Sender) (params : List String) :
    Effect Exn CredentialAssetMappingServer String :=
  match params with
  | [] => throw (.cam (camBadCommandArgumentException "" "Command needs at least 1 argument"))
  | credentialId :: _ => do
      return serializeMappings ((← get).activeMapping.getCredentialMappings credentialId)

/-- The count is cast to 32 bits. -/
def handleCountCredentialMappingsForCredential (_sender : Sender) (params : List String) :
    Effect Exn CredentialAssetMappingServer String :=
  match params with
  | [] => throw (.cam (camBadCommandArgumentException "" "Command needs at least 1 argument"))
  | credentialId :: _ => do
      let mappings := (← get).activeMapping.getCredentialMappings credentialId
      return serialize (.int (mappings.length % 2 ^ 32 : Nat))

/-! ### Requests -/

def handler : Command → Sender → List String → Effect Exn CredentialAssetMappingServer String
  | .createMapping => handleCreateMapping
  | .getMapping => handleGetMapping
  | .updateMapping => handleUpdateMapping
  | .updatePortMapping => handleUpdatePortMapping
  | .updateCredentialMapping => handleUpdateCredentialMapping
  | .updateStatusMapping => handleUpdateStatusMapping
  | .updateInfoMapping => handleUpdateInfoMapping
  | .removeMapping => handleRemoveMapping
  | .getAssetMappings => handleGetAssetMappings
  | .getCredMappings => handleGetCredentialMappings
  | .getMappings => handleGetMappings
  | .getAllMappings => handleGetAllMappings
  | .countCredMappings => handleCountCredentialMappingsForCredential

structure Request where
  sender : Sender
  payload : List String
deriving DecidableEq, Repr

/-- The body of the `try` of `handleRequest`. -/
def processRequest (request : Request) :
    Effect Exn CredentialAssetMappingServer (List String) :=
  match request.payload with
  | [] => throw (.cam (.protocolError "Command frame is empty"))
  | cmd :: params =>
      if cmd = "ERROR" ∨ cmd = "OK" then
        return []
      else
        match Command.ofName? cmd with
        | none => throw (.cam (camUnsupportedCommandException (cmd ++ " not supported")))
        | some command => do
            let result ← handler command request.sender params
            return [result]

def errorReply : Exn → List String
  | .cam exception => ["ERROR", exception.toJson]
  | .std _ => ["ERROR", ""]

def handleRequest : Machine CredentialAssetMappingServer Request (List String) :=
  fun request server =>
    match (processRequest request).exec server with
    | (.ok frames, next) => (frames, next)
    | (.error e, next) => (errorReply e, next)

end CredentialAssetMappingServer

end Cam
