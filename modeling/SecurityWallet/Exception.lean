import SecurityWallet.Cxxtools
import SecurityWallet.Foundation.Outcome

/-!
# Exceptions

The exceptions of the wallet. Each class of the hierarchy carries its text and, for some, the
offending value; on the wire an exception is its code, its text and that value.
-/

open Foundation

namespace Secw

inductive SecwException where
  | genericException (whatArg : String)
  | unsupportedCommandException (whatArg : String)
  | protocolErrorException (whatArg : String)
  | badCommandArgumentException (whatArg : String)
  | unknownDocumentTypeException (whatArg documentType : String)
  | unknownPortfolioException (whatArg portfolioName : String)
  | invalidDocumentFormatException (whatArg documentField : String)
  | impossibleToLoadPortfolioException (whatArg : String)
  | unknownTagException (whatArg : String)
  | documentDoNotExistException (whatArg documentId : String)
  | illegalAccess (whatArg : String)
  | unknownUsageIDException (whatArg usageId : String)
  | nameAlreadyExistsException (whatArg name : String)
  | nameDoesNotExistException (whatArg name : String)
deriving DecidableEq, Repr

namespace SecwException

def errorCode : SecwException → UInt8
  | genericException _ => 0
  | unsupportedCommandException _ => 1
  | protocolErrorException _ => 2
  | badCommandArgumentException _ => 3
  | unknownDocumentTypeException _ _ => 4
  | unknownPortfolioException _ _ => 5
  | invalidDocumentFormatException _ _ => 6
  | impossibleToLoadPortfolioException _ => 7
  | unknownTagException _ => 8
  | documentDoNotExistException _ _ => 9
  | illegalAccess _ => 10
  | unknownUsageIDException _ _ => 11
  | nameAlreadyExistsException _ _ => 12
  | nameDoesNotExistException _ _ => 13

def what : SecwException → String
  | genericException whatArg | unsupportedCommandException whatArg
  | protocolErrorException whatArg | badCommandArgumentException whatArg
  | unknownDocumentTypeException whatArg _ | unknownPortfolioException whatArg _
  | invalidDocumentFormatException whatArg _ | impossibleToLoadPortfolioException whatArg
  | unknownTagException whatArg | documentDoNotExistException whatArg _ | illegalAccess whatArg
  | unknownUsageIDException whatArg _ | nameAlreadyExistsException whatArg _
  | nameDoesNotExistException whatArg _ => whatArg

open SerializationInfo in
/-- The extra data of the class; classes without any leave the node void. -/
def fillSerializationInfo (si : SerializationInfo) : SecwException → SerializationInfo
  | unknownDocumentTypeException _ documentType => addMember si "documentType" (.str documentType)
  | unknownPortfolioException _ portfolioName => addMember si "portfolioName" (.str portfolioName)
  | invalidDocumentFormatException _ documentField =>
      addMember si "documentField" (.str documentField)
  | documentDoNotExistException _ documentId => addMember si "documentId" (.str documentId)
  | unknownUsageIDException _ usageId => addMember si "usageId" (.str usageId)
  | nameAlreadyExistsException _ name => addMember si "name" (.str name)
  | nameDoesNotExistException _ name => addMember si "name" (.str name)
  | _ => si

open SerializationInfo in
def toSerializationInfo (exception : SecwException) : SerializationInfo :=
  let si := addMember .null "errorCode" (ofUInt8 exception.errorCode)
  let si := addMember si "whatArg" (.str exception.what)
  addMember si "extraData" (exception.fillSerializationInfo .null)

def toJson [Cxxtools] (exception : SecwException) : String :=
  Cxxtools.serialize true exception.toSerializationInfo

end SecwException

open SecwException

def secwUnknownPortfolioException (portfolioName : String) : SecwException :=
  unknownPortfolioException ("Unknown portfolio '" ++ portfolioName ++ "'") portfolioName

def secwInvalidDocumentFormatException (documentField : String) : SecwException :=
  invalidDocumentFormatException ("Error in field '" ++ documentField ++ "'") documentField

def secwDocumentDoNotExistException (documentId : String) : SecwException :=
  documentDoNotExistException ("Document '" ++ documentId ++ "'does not exist") documentId

def secwUnknownUsageIDException (usageId : String) : SecwException :=
  unknownUsageIDException ("Unknown usage ID '" ++ usageId ++ "'") usageId

def secwNameAlreadyExistsException (name : String) : SecwException :=
  nameAlreadyExistsException ("Document with name '" ++ name ++ "' already exists") name

def secwNameDoesNotExistException (name : String) : SecwException :=
  nameDoesNotExistException ("Document with name '" ++ name ++ "' does not exist") name

/-- What a call can throw: an exception of the wallet or another `std::exception`. -/
inductive Exn where
  | secw (exception : SecwException)
  | std (whatArg : String)
deriving DecidableEq, Repr

namespace Exn

def what : Exn → String
  | secw exception => exception.what
  | std whatArg => whatArg

end Exn

/-- A call of the standard library or of cxxtools whose exception is left to propagate. -/
def liftStd {α : Type} (call : Except String α) : Except Exn α := call.mapError Exn.std

/-- A `try` whose handler catches every `std::exception`. -/
def orThrow {α : Type} (call : Except Exn α) (handler : Exn → SecwException) : Except Exn α :=
  call.mapError fun e => Exn.secw (handler e)

@[simp]
theorem liftStd_eq_ok {α : Type} {call : Except String α} {a : α} :
    liftStd call = .ok a ↔ call = .ok a :=
  mapError_eq_ok

@[simp]
theorem orThrow_eq_ok {α : Type} {call : Except Exn α} {handler : Exn → SecwException} {a : α} :
    orThrow call handler = .ok a ↔ call = .ok a :=
  mapError_eq_ok

/-! ### Exceptions as a client receives them -/

section Receiving

variable [Cxxtools]

open SerializationInfo

/-- The class of an error code, with what its constructor reads of the extra data. -/
def ofErrorCode (errorCode : UInt8) (whatArg : String) (extraData : SerializationInfo) :
    Except String SecwException :=
  match errorCode with
  | 1 => return .unsupportedCommandException whatArg
  | 2 => return .protocolErrorException whatArg
  | 3 => return .badCommandArgumentException whatArg
  | 4 => return .unknownDocumentTypeException whatArg (← getStringMember extraData "documentType")
  | 5 => return .unknownPortfolioException whatArg (← getStringMember extraData "portfolioName")
  | 6 => return .invalidDocumentFormatException whatArg (← getStringMember extraData "documentField")
  | 7 => return .impossibleToLoadPortfolioException whatArg
  | 8 => return .unknownTagException whatArg
  | 9 => return .documentDoNotExistException whatArg (← getStringMember extraData "documentId")
  | 10 => return .illegalAccess whatArg
  | 11 => return .unknownUsageIDException whatArg (← getStringMember extraData "usageId")
  | 12 => return .nameAlreadyExistsException whatArg (← getStringMember extraData "name")
  | 13 => return .nameDoesNotExistException whatArg (← getStringMember extraData "name")
  | _ => return .genericException whatArg

/-- The members that can be read before the first that cannot. -/
def readError (si : SerializationInfo) : UInt8 × String × SerializationInfo :=
  match getUInt8Member si "errorCode" with
  | .error _ => (0, "", .null)
  | .ok errorCode =>
      match getStringMember si "whatArg" with
      | .error _ => (errorCode, "", .null)
      | .ok whatArg => (errorCode, whatArg, (findMember si "extraData").getD .null)

def readException (data : String) : Except String SecwException := do
  let si ← Cxxtools.deserialize (strToBytes data)
  let (errorCode, whatArg, extraData) := readError si
  ofErrorCode errorCode whatArg extraData

/-- What `throwSecwException` throws. -/
def throwSecwException (data : String) : Exn :=
  match readException data with
  | .ok exception => .secw exception
  | .error what => .std what

end Receiving

end Secw
