import SecurityWallet.Proof.CamCodec
import SecurityWallet.Proof.ClientCalls
import SecurityWallet.Reference

/-!
# The exception that a client catches

A server describes an exception by its code, its text and its extra data, and a client throws what
it makes of these. The wallet makes each class from the text and the data as they are. The mappings
do so for all classes but one, whose text they put together again.
-/

open Foundation SerializationInfo Effect

namespace Secw

/--
A client throws the exception that was described, of its class and with its code, its text and its
extra data. So it does for every exception that a request makes the server throw.
-/
theorem wallet_error_codec [Platform] [LawfulCxxtools] (exception : SecwException) :
    throwSecwException exception.toJson = .secw exception ∧
      ∀ (request : SecurityWalletServer.Request) (server next : SecurityWalletServer),
        (SecurityWalletServer.processRequest request).exec server =
            (.error (.secw exception), next) →
          ClientAccessor.checkReply (SecurityWalletServer.handleRequest request server).1 =
            .error (.secw exception) := by
  have hthrow := throwSecwException_toJson exception
  refine ⟨hthrow, ?_⟩
  intro request server next hexec
  have hframes : (SecurityWalletServer.handleRequest request server).1 =
      ["ERROR", exception.toJson] := by
    rw [SecurityWalletServer.handleRequest, hexec]
    rfl
  rw [hframes]
  exact congrArg Except.error hthrow

namespace Reference

open scoped Reference

/-- A document that is not there. -/
theorem wallet_error_of_missing_document :
    throwSecwException (secwDocumentDoNotExistException "0").toJson =
      .secw (secwDocumentDoNotExistException "0") :=
  (wallet_error_codec (secwDocumentDoNotExistException "0")).1

end Reference

end Secw

namespace Cam

/-- The text of an unknown command, made again, is longer. -/
theorem camUnsupportedCommandException_ne (whatArg command : String) :
    camUnsupportedCommandException whatArg ≠ .unsupportedCommand whatArg command := by
  intro heq
  have hwhat : "Unsupported command: '" ++ whatArg ++ "'" = whatArg := congrArg CamException.what heq
  have hlength := congrArg String.length hwhat
  rw [String.length_append, String.length_append] at hlength
  have hpos : 0 < "'".length := by decide
  omega

section Codec

variable [Cxxtools] [LawfulCxxtools]

theorem throwCamException_unsupportedCommand (whatArg command : String) :
    throwCamException (CamException.unsupportedCommand whatArg command).toJson =
      .cam (camUnsupportedCommandException whatArg) :=
  throwCamException_toJson rfl

/-- A client throws the exception that was described exactly if it is of another class. -/
theorem cam_error_codec_iff (exception : CamException) :
    throwCamException exception.toJson = .cam exception ↔ ¬ exception.IsUnsupportedCommand := by
  constructor
  · intro hthrow hclass
    cases exception with
    | unsupportedCommand whatArg command =>
        rw [throwCamException_unsupportedCommand] at hthrow
        exact camUnsupportedCommandException_ne whatArg command (Exn.cam.inj hthrow)
    | _ => exact hclass
  · intro hclass
    exact throwCamException_toJson (ofErrorCode_errorCode hclass)

end Codec

open scoped Secw.Reference

theorem cam_error_of_missing_argument :
    throwCamException
        (camBadCommandArgumentException "" "Command needs at least 1 argument").toJson =
      .cam (camBadCommandArgumentException "" "Command needs at least 1 argument") :=
  (cam_error_codec_iff _).2 id

/-- For an unknown command the client makes up a text around the text of the server. -/
theorem cam_error_of_unknown_command :
    ∃ description thrown,
      (CredentialAssetMappingServer.handleRequest ⟨"client", ["FOO"]⟩ {}).1 =
        ["ERROR", description] ∧
      description = (camUnsupportedCommandException "FOO not supported").toJson ∧
      throwCamException description = .cam thrown ∧
      thrown.what ≠ (camUnsupportedCommandException "FOO not supported").what := by
  refine ⟨_, _, rfl, rfl, throwCamException_unsupportedCommand _ _, ?_⟩
  decide

end Cam
