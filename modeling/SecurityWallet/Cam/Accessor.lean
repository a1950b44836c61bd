import SecurityWallet.Cam.Server

/-!
# The client of the mappings

Each call sends one command with its parameters and reads the reply. The update of one field sends a
whole mapping whose other fields have their defaults.
-/

open Foundation SerializationInfo

namespace Cam.Accessor

variable [Cxxtools]

/-- A call of a client; it changes the server and returns, or throws. -/
abbrev Call (α : Type) := Effect Exn CredentialAssetMappingServer α

def syncRequestWithReply (client : Sender) (payload : List String) : Call (List String) :=
  modifyGet (CredentialAssetMappingServer.handleRequest ⟨client, payload⟩)

/-- An error reply is thrown as the exception it describes. -/
def checkReply (receivedFrames : List String) : Except Exn (List String) :=
  if receivedFrames.head? = some "ERROR" then
    match receivedFrames with
    | [_, data] => throw (throwCamException data)
    | _ => throw (.cam (.protocolError "Missing data for error"))
  else
    return receivedFrames

def sendCommand (client : Sender) (command : Command) (frames : List String) :
    Call (List String) := do
  let receivedFrames ← syncRequestWithReply client (command.name :: frames)
  checkReply receivedFrames

/-- Reads the first frame of a reply. -/
def receive {α : Type} (read : SerializationInfo → Except String α) (payload : List String) :
    Except Exn α :=
  match payload with
  | [] => throw (.std "vector::_M_range_check")
  | json :: _ => do
      let si ← deserialize json
      liftStd (read si)

/-! ### Commands that take a mapping -/

/-- The calls that send a mapping. -/
def sendMapping (client : Sender) (command : Command) (mapping : CredentialAssetMapping) :
    Call Unit := do
  let _ ← sendCommand client command [serialize (mapping.fillSerializationInfo .null)]

def createMapping (client : Sender) (mapping : CredentialAssetMapping) : Call Unit :=
  sendMapping client .createMapping mapping

def updateMapping (client : Sender) (mapping : CredentialAssetMapping) : Call Unit :=
  sendMapping client .updateMapping mapping

def updateCredentialId (client : Sender) (assetId : AssetId) (serviceId : ServiceId)
    (protocol : Protocol) (credentialId : CredentialId) : Call Unit :=
  sendMapping client .updateCredentialMapping { assetId, serviceId, protocol, credentialId }

def updatePort (client : Sender) (assetId : AssetId) (serviceId : ServiceId) (protocol : Protocol)
    (port : Port) : Call Unit :=
  sendMapping client .updatePortMapping { assetId, serviceId, protocol, port }

def updateStatus (client : Sender) (assetId : AssetId) (serviceId : ServiceId)
    (protocol : Protocol) (status : Status) : Call Unit :=
  sendMapping client .updateStatusMapping { assetId, serviceId, protocol, status }

def updateExtendedInfo (client : Sender) (assetId : AssetId) (serviceId : ServiceId)
    (protocol : Protocol) (extendedInfo : MapExtendedInfo) : Call Unit :=
  sendMapping client .updateInfoMapping { assetId, serviceId, protocol, extendedInfo }

/-! ### Commands that take a triple -/

def getMapping (client : Sender) (assetId : AssetId) (serviceId : ServiceId)
    (protocol : Protocol) : Call CredentialAssetMapping := do
  let payload ← sendCommand client .getMapping [assetId, serviceId, protocol]
  receive CredentialAssetMapping.fromSerializationInfo payload

def removeMapping (client : Sender) (assetId : AssetId) (serviceId : ServiceId)
    (protocol : Protocol) : Call Unit := do
  let _ ← sendCommand client .removeMapping [assetId, serviceId, protocol]

/-- Only the exception for a missing mapping is caught. -/
def isMappingExisting (client : Sender) (assetId : AssetId) (serviceId : ServiceId)
    (protocol : Protocol) : Call Bool :=
  tryCatch
    (do
      let _ ← getMapping client assetId serviceId protocol
      return true)
    fun
      | .cam (.mappingDoesNotExist _ _ _ _) => return false
      | e => throw e

/-! ### Commands that list mappings -/

/-- The calls that receive a list of mappings. -/
def receiveMappings (client : Sender) (command : Command) (frames : List String) :
    Call (List CredentialAssetMapping) := do
  let payload ← sendCommand client command frames
  receive (getList CredentialAssetMapping.fromSerializationInfo) payload

def getAssetMappings (client : Sender) (assetId : AssetId) : Call (List CredentialAssetMapping) :=
  receiveMappings client .getAssetMappings [assetId]

def getMappings (client : Sender) (assetId : AssetId) (serviceId : ServiceId) :
    Call (List CredentialAssetMapping) :=
  receiveMappings client .getMappings [assetId, serviceId]

def getAllMappings (client : Sender) : Call (List CredentialAssetMapping) :=
  receiveMappings client .getAllMappings []

def getCredentialMappings (client : Sender) (credentialId : CredentialId) :
    Call (List CredentialAssetMapping) :=
  receiveMappings client .getCredMappings [credentialId]

def countCredentialMappingsForCredential [CxxtoolsClient] (client : Sender)
    (credentialId : CredentialId) : Call UInt32 := do
  let payload ← sendCommand client .countCredMappings [credentialId]
  receive CxxtoolsClient.getUInt32 payload

/-- The counters of the credentials of a list of mappings. -/
def countCredentials (mappings : List CredentialAssetMapping) : StdMap CredentialId UInt32 :=
  mappings.foldl
    (fun counters mapping =>
      if mapping.credentialId.isEmpty then
        counters
      else
        match counters[mapping.credentialId]? with
        | none => counters.insert mapping.credentialId 1
        | some counter => counters.insert mapping.credentialId (counter + 1))
    ∅

def getAllCredentialCounter (client : Sender) : Call (StdMap CredentialId UInt32) := do
  let mappings ← getAllMappings client
  return countCredentials mappings

end Cam.Accessor
