import SecurityWallet.Cam.Exception

/-!
# Credential asset mappings

A mapping tells which credential is used for a service of an asset over a protocol. Its status is
read as a bare number, which nothing checks against the enumeration.
-/

open Foundation SerializationInfo

namespace Cam

/-- The underlying type of the enumeration; a cast puts any number into it. -/
abbrev Status := UInt8

namespace Status

def unknown : Status := 0
def valid : Status := 1
def error : Status := 2

end Status

def serviceIdEntry : String := "cam_service"
def assetIdEntry : String := "cam_asset"
def protocolEntry : String := "cam_protocol"
def portEntry : String := "cam_port"
def credentialIdEntry : String := "cam_credential"
def credentialStatusEntry : String := "cam_status"
def extendedInfoEntry : String := "cam_extended_info"

structure CredentialAssetMapping where
  assetId : AssetId := ""
  serviceId : ServiceId := ""
  protocol : Protocol := ""
  port : Port := ""
  credentialId : CredentialId := ""
  status : Status := Status.unknown
  extendedInfo : MapExtendedInfo := ∅
deriving DecidableEq

/-- A map of strings is written as the array of its pairs, in order. -/
def ofMap (map : MapExtendedInfo) : SerializationInfo :=
  ofList (fun pair => addMember (addMember .null "first" (.str pair.1)) "second" (.str pair.2))
    map.toList

/-- Reading a map replaces its entries; the first pair of a key wins. -/
def getMap [Cxxtools] (si : SerializationInfo) : Except String MapExtendedInfo := do
  let pairs ← getList
    (fun pair => do return (← getStringMember pair "first", ← getStringMember pair "second")) si
  return pairs.foldl (fun map pair => map.insertIfNew pair.1 pair.2) ∅

namespace CredentialAssetMapping

def fillSerializationInfo (mapping : CredentialAssetMapping) (si : SerializationInfo) :
    SerializationInfo :=
  let si := addMember si serviceIdEntry (.str mapping.serviceId)
  let si := addMember si assetIdEntry (.str mapping.assetId)
  let si := addMember si protocolEntry (.str mapping.protocol)
  let si := addMember si portEntry (.str mapping.port)
  let si := addMember si credentialIdEntry (.str mapping.credentialId)
  let si := addMember si credentialStatusEntry (ofUInt8 mapping.status)
  addMember si extendedInfoEntry (ofMap mapping.extendedInfo)

def fromSerializationInfo [Cxxtools] (si : SerializationInfo) :
    Except String CredentialAssetMapping := do
  let serviceId ← getStringMember si serviceIdEntry
  let assetId ← getStringMember si assetIdEntry
  let protocol ← getStringMember si protocolEntry
  let port ← getStringMember si portEntry
  let credentialId ← getStringMember si credentialIdEntry
  let status ← getUInt8Member si credentialStatusEntry
  let extendedInfo ← getMap (← getMember si extendedInfoEntry)
  return { assetId, serviceId, protocol, port, credentialId, status, extendedInfo }

end CredentialAssetMapping

end Cam
