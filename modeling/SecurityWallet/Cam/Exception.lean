import SecurityWallet.Cxxtools
import SecurityWallet.Foundation.Outcome

/-!
# Exceptions of the credential asset mapping

Each class carries its text and its extra data; on the wire an exception is its code, its text and
that data.
-/

open Foundation SerializationInfo

namespace Cam

abbrev CredentialId := String
abbrev AssetId := String
abbrev ServiceId := String
abbrev Protocol := String
abbrev Port := String
abbrev MapExtendedInfo := StdMap String String

inductive CamException where
  | generic (whatArg : String)
  | unsupportedCommand (whatArg command : String)
  | protocolError (whatArg : String)
  | badCommandArgument (whatArg argument : String)
  | mappingDoesNotExist (whatArg : String) (asset : AssetId) (service : ServiceId)
      (protocol : Protocol)
  | mappingAlreadyExists (whatArg : String) (asset : AssetId) (service : ServiceId)
      (protocol : Protocol)
  | mappingInvalid (whatArg : String)
deriving DecidableEq, Repr

namespace CamException

def errorCode : CamException → UInt8
  | generic _ => 0
  | unsupportedCommand _ _ => 1
  | protocolError _ => 2
  | badCommandArgument _ _ => 3
  | mappingDoesNotExist _ _ _ _ => 4
  | mappingAlreadyExists _ _ _ _ => 5
  | mappingInvalid _ => 6

def what : CamException → String
  | generic whatArg | unsupportedCommand whatArg _ | protocolError whatArg
  | badCommandArgument whatArg _ | mappingDoesNotExist whatArg _ _ _
  | mappingAlreadyExists whatArg _ _ _ | mappingInvalid whatArg => whatArg

/-- The extra data of the two classes about a mapping. -/
def fillTriple (si : SerializationInfo) (asset : AssetId) (service : ServiceId)
    (protocol : Protocol) : SerializationInfo :=
  let si := addMember si "asset" (.str asset)
  let si := addMember si "service" (.str service)
  addMember si "protocol" (.str protocol)

def fillSerializationInfo (si : SerializationInfo) : CamException → SerializationInfo
  | unsupportedCommand _ command => addMember si "command" (.str command)
  | badCommandArgument _ argument => addMember si "argument" (.str argument)
  | mappingDoesNotExist _ asset service protocol => fillTriple si asset service protocol
  | mappingAlreadyExists _ asset service protocol => fillTriple si asset service protocol
  | _ => si

def toSerializationInfo (exception : CamException) : SerializationInfo :=
  let si := addMember .null "errorCode" (ofUInt8 exception.errorCode)
  let si := addMember si "whatArg" (.str exception.what)
  addMember si "extraData" (exception.fillSerializationInfo .null)

def toJson [Cxxtools] (exception : CamException) : String :=
  Cxxtools.serialize true exception.toSerializationInfo

end CamException

open CamException

def camUnsupportedCommandException (command : String) : CamException :=
  unsupportedCommand ("Unsupported command: '" ++ command ++ "'") command

def camBadCommandArgumentException (argument reason : String) : CamException :=
  badCommandArgument ("Command argument error: '" ++ argument ++ "' " ++ reason) argument

/-- The text both classes about a mapping start with. -/
def mappingText (asset : AssetId) (service : ServiceId) (protocol : Protocol) : String :=
  "Mapping for asset '" ++ asset ++ "', service '" ++ service ++ "' and protocol '" ++ protocol

def camMappingDoesNotExistException (asset : AssetId) (service : ServiceId) (protocol : Protocol) :
    CamException :=
  mappingDoesNotExist (mappingText asset service protocol ++ "' do not exist") asset service protocol

def camMappingAlreadyExistsException (asset : AssetId) (service : ServiceId)
    (protocol : Protocol) : CamException :=
  mappingAlreadyExists (mappingText asset service protocol ++ "' already exist") asset service
    protocol

/-- What a call can throw: an exception of the mapping or another `std::exception`. -/
inductive Exn where
  | cam (exception : CamException)
  | std (whatArg : String)
deriving DecidableEq, Repr

/-- A call of cxxtools whose exception is left to propagate. -/
def liftStd {α : Type} (call : Except String α) : Except Exn α := call.mapError Exn.std

@[simp]
theorem liftStd_eq_ok {α : Type} {call : Except String α} {a : α} :
    liftStd call = .ok a ↔ call = .ok a :=
  mapError_eq_ok

/-- The class of an error code, with what its constructor reads of the extra data. -/
def ofErrorCode [Cxxtools] (errorCode : UInt8) (whatArg : String) (extraData : SerializationInfo) :
    Except String CamException :=
  match errorCode with
  | 1 => return camUnsupportedCommandException whatArg
  | 2 => return .protocolError whatArg
  | 3 => return .badCommandArgument whatArg (← getStringMember extraData "argument")
  | 4 => do
      let asset ← getStringMember extraData "asset"
      let service ← getStringMember extraData "service"
      let protocol ← getStringMember extraData "protocol"
      return .mappingDoesNotExist whatArg asset service protocol
  | 5 => do
      let asset ← getStringMember extraData "asset"
      let service ← getStringMember extraData "service"
      let protocol ← getStringMember extraData "protocol"
      return .mappingAlreadyExists whatArg asset service protocol
  | 6 => return .mappingInvalid whatArg
  | _ => return .generic whatArg

/-- The members that can be read before the first that cannot. -/
def readError [Cxxtools] (si : SerializationInfo) : UInt8 × String × SerializationInfo :=
  match getUInt8Member si "errorCode" with
  | .error _ => (0, "", .null)
  | .ok errorCode =>
      match getStringMember si "whatArg" with
      | .error _ => (errorCode, "", .null)
      | .ok whatArg => (errorCode, whatArg, (findMember si "extraData").getD .null)

def readException [Cxxtools] (data : String) : Except String CamException := do
  let si ← Cxxtools.deserialize (strToBytes data)
  let (errorCode, whatArg, extraData) := readError si
  ofErrorCode errorCode whatArg extraData

/-- What `throwCamException` throws. -/
def throwCamException [Cxxtools] (data : String) : Exn :=
  match readException data with
  | .ok exception => .cam exception
  | .error what => .std what

end Cam
