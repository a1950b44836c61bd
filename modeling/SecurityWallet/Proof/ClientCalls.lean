import SecurityWallet.Client
import SecurityWallet.Proof.DocumentDecoder
import SecurityWallet.Proof.Requests

/-!
# The calls of a client of the wallet

A client reads back what the handler of its command returns. An exception of the wallet reaches it
as the one that the server threw.
-/

open Foundation SerializationInfo Effect

namespace Secw

/-! ### Exceptions -/

section Exceptions

variable [Cxxtools] [LawfulCxxtools] (exception : SecwException)

theorem readError_toSerializationInfo :
    readError exception.toSerializationInfo =
      (exception.errorCode, exception.what, exception.fillSerializationInfo .null) := by
  have hcode : getUInt8Member exception.toSerializationInfo "errorCode" =
      .ok exception.errorCode :=
    getUInt8Member_of_findMember rfl
  have hwhat : getStringMember exception.toSerializationInfo "whatArg" = .ok exception.what :=
    getStringMember_of_findMember rfl
  rw [readError, hcode]
  dsimp only
  rw [hwhat]
  rfl

theorem ofErrorCode_errorCode :
    ofErrorCode exception.errorCode exception.what (exception.fillSerializationInfo .null) =
      .ok exception := by
  cases exception with
  | unknownDocumentTypeException whatArg value | unknownPortfolioException whatArg value
  | invalidDocumentFormatException whatArg value | documentDoNotExistException whatArg value
  | unknownUsageIDException whatArg value | nameAlreadyExistsException whatArg value
  | nameDoesNotExistException whatArg value =>
      simp only [SecwException.errorCode, ofErrorCode, bind_eq_ok]
      exact ⟨value, getStringMember_of_findMember rfl, rfl⟩
  | _ => rfl

/-- A client throws the exception that the server described. -/
theorem throwSecwException_toJson : throwSecwException exception.toJson = .secw exception := by
  have hread : readException exception.toJson = .ok exception := by
    simp only [readException, SecwException.toJson, bind_eq_ok]
    refine ⟨exception.toSerializationInfo, LawfulCxxtools.deserialize_serialize true _, ?_⟩
    rw [readError_toSerializationInfo]
    exact ofErrorCode_errorCode exception
  rw [throwSecwException, hread]

end Exceptions

namespace ClientAccessor

variable [Platform]

/-! ### Commands and their replies -/

theorem exec_sendCommand (client : ClientId) (command : Command)
    (frames : List String) (server : SecurityWalletServer) :
    (sendCommand client command frames).exec server =
      (checkReply (SecurityWalletServer.handleRequest ⟨client, command.name :: frames⟩ server).1,
        (SecurityWalletServer.handleRequest ⟨client, command.name :: frames⟩ server).2) :=
  rfl

section SendCommand

variable {client : ClientId} {command : Command} {frames : List String}
  {server next : SecurityWalletServer}

theorem sendCommand_of_ok {result : String}
    (hexec : (SecurityWalletServer.handler command client frames).exec server =
      (.ok result, next))
    (hresult : result ≠ "ERROR") :
    (sendCommand client command frames).exec server = (.ok [result], next) := by
  rw [exec_sendCommand, SecurityWalletServer.handleRequest_of_ok hexec]
  unfold checkReply
  rw [if_neg (by simpa using hresult)]
  rfl

theorem sendCommand_of_error [LawfulCxxtools] {exception : SecwException}
    (hexec : (SecurityWalletServer.handler command client frames).exec server =
      (.error (.secw exception), next)) :
    (sendCommand client command frames).exec server = (.error (.secw exception), next) := by
  rw [exec_sendCommand, SecurityWalletServer.handleRequest_of_error hexec]
  exact congrArg (fun e => (Except.error e, next)) (throwSecwException_toJson exception)

/-- An exception that is not one of the wallet reaches the client without a description. -/
theorem sendCommand_of_std {what : String}
    (hexec : (SecurityWalletServer.handler command client frames).exec server =
      (.error (.std what), next)) :
    (sendCommand client command frames).exec server = (.error (throwSecwException ""), next) := by
  rw [exec_sendCommand, SecurityWalletServer.handleRequest_of_error hexec]
  rfl

end SendCommand

variable [LawfulCxxtools]

theorem receive_serialize {α : Type} {read : SerializationInfo → Except Exn α}
    {si : SerializationInfo} {value : α} (hread : read si = .ok value) :
    receive read [serialize si] = .ok value := by
  simp only [receive, bind_eq_ok]
  exact ⟨si, deserialize_serialize si, hread⟩

end ClientAccessor

end Secw
