import SecurityWallet.Cam.Mapping
import SecurityWallet.Foundation.Effect

/-!
# The storage of the mappings

All mappings are kept in one map, under a string made of their asset, their service and their
protocol, and in a file that every change rewrites.
-/

open Foundation SerializationInfo

namespace Cam

abbrev Hash := String

structure CredentialAssetMappingStorage where
  mappings : StdMap Hash CredentialAssetMapping := ∅
  /-- The mapping file; `none` if there is none. -/
  database : Option String := none
deriving DecidableEq

namespace CredentialAssetMappingStorage

def mappingVersion : UInt8 := 1

def computeHash (assetId : AssetId) (serviceId : ServiceId) (protocol : Protocol) : Hash :=
  "A" ++ assetId ++ "|S" ++ serviceId ++ "|P:" ++ protocol

def getMapping (storage : CredentialAssetMappingStorage) (assetId : AssetId) (serviceId : ServiceId)
    (protocol : Protocol) : Except Exn CredentialAssetMapping :=
  match storage.mappings[computeHash assetId serviceId protocol]? with
  | some mapping => .ok mapping
  | none => .error (.cam (camMappingDoesNotExistException assetId serviceId protocol))

def setMapping (mapping : CredentialAssetMapping) :
    Effect Exn CredentialAssetMappingStorage Unit := do
  if mapping.assetId.isEmpty ∨ mapping.serviceId.isEmpty ∨ mapping.protocol.isEmpty then
    throw (.cam (.generic "Bad format"))
  let hash := computeHash mapping.assetId mapping.serviceId mapping.protocol
  modify fun storage => { storage with mappings := storage.mappings.insert hash mapping }

def removeMapping (assetId : AssetId) (serviceId : ServiceId) (protocol : Protocol) :
    Effect Exn CredentialAssetMappingStorage Unit := do
  let hash := computeHash assetId serviceId protocol
  let deleted := (← get).mappings.contains hash
  modify fun storage => { storage with mappings := storage.mappings.erase hash }
  if ¬ deleted then
    throw (.cam (camMappingDoesNotExistException assetId serviceId protocol))

def isMappingExisting (storage : CredentialAssetMappingStorage) (assetId : AssetId)
    (serviceId : ServiceId) (protocol : Protocol) : Bool :=
  storage.mappings.contains (computeHash assetId serviceId protocol)

/-! ### Lists of mappings -/

def getAllMappings (storage : CredentialAssetMappingStorage) : List CredentialAssetMapping :=
  storage.mappings.valueList

def getCredentialMappings (storage : CredentialAssetMappingStorage) (credentialId : CredentialId) :
    List CredentialAssetMapping :=
  storage.getAllMappings.filter fun mapping => mapping.credentialId = credentialId

def getMappings (storage : CredentialAssetMappingStorage) (assetId : AssetId)
    (serviceId : ServiceId) : List CredentialAssetMapping :=
  storage.getAllMappings.filter fun mapping =>
    mapping.assetId = assetId ∧ mapping.serviceId = serviceId

def getAssetMappings (storage : CredentialAssetMappingStorage) (assetId : AssetId) :
    List CredentialAssetMapping :=
  storage.getAllMappings.filter fun mapping => mapping.assetId = assetId

/-! ### The file -/

variable [Cxxtools]

/-- The tree of the mapping file. -/
def databaseTree (mappings : StdMap Hash CredentialAssetMapping) : SerializationInfo :=
  let rootSi := addMember .null "version" (ofUInt8 mappingVersion)
  addMember rootSi "mappings"
    (ofList (fun mapping => mapping.fillSerializationInfo .null) mappings.valueList)

def save : Effect Exn CredentialAssetMappingStorage Unit :=
  modify fun storage =>
    { storage with database := some (Cxxtools.serialize true (databaseTree storage.mappings)) }

/-- Sets the mappings of the list; those that cannot be set are skipped. -/
def setMappings : List CredentialAssetMapping → Effect Exn CredentialAssetMappingStorage Unit
  | [] => return
  | mapping :: rest => do
      tryCatch (setMapping mapping) fun _ => return
      setMappings rest

/-- The body of the constructor. -/
def start : Effect Exn CredentialAssetMappingStorage Unit := do
  match (← get).database with
  | none => save
  | some text =>
      let rootSi ← liftStd (Cxxtools.deserialize (strToBytes text))
      let version ← liftStd (getUInt8Member rootSi "version")
      if version = 1 then
        let listOfmapping ← liftStd (getMember rootSi "mappings" >>=
          getList CredentialAssetMapping.fromSerializationInfo)
        setMappings listOfmapping
        save
      else
        throw (.std "Version not supported")

/-- The constructor; `none` is the process that exits with `EXIT_FAILURE`. -/
def construct (database : Option String) : Option CredentialAssetMappingStorage :=
  match start.exec { database } with
  | (.ok _, storage) => some storage
  | (.error _, _) => none

end CredentialAssetMappingStorage

end Cam
