import SecurityWallet.Cam.Accessor
import SecurityWallet.Proof.CamRequests

/-!
# The calls of a client of the mappings

A call that reads returns what the storage has and leaves the server. A mapping that is missing
reaches the client as the exception the server threw.
-/

open Foundation SerializationInfo Effect

namespace Cam.Accessor

variable [Cxxtools]

/-! ### Commands and their replies -/

theorem exec_sendCommand (client : Sender) (command : Command) (frames : List String)
    (server : CredentialAssetMappingServer) :
    (sendCommand client command frames).exec server =
      (checkReply (CredentialAssetMappingServer.handleRequest
          ⟨client, command.name :: frames⟩ server).1,
        (CredentialAssetMappingServer.handleRequest ⟨client, command.name :: frames⟩ server).2) :=
  rfl

section SendCommand

variable {client : Sender} {command : Command} {frames : List String}
  {server next : CredentialAssetMappingServer}

theorem sendCommand_of_ok {result : String}
    (hexec : (CredentialAssetMappingServer.handler command client frames).exec server =
      (.ok result, next))
    (hresult : result ≠ "ERROR") :
    (sendCommand client command frames).exec server = (.ok [result], next) := by
  rw [exec_sendCommand, CredentialAssetMappingServer.handleRequest_of_ok hexec]
  unfold checkReply
  rw [if_neg (by simpa using hresult)]
  rfl

theorem sendCommand_of_error {exception : CamException}
    (hexec : (CredentialAssetMappingServer.handler command client frames).exec server =
      (.error (.cam exception), next)) :
    (sendCommand client command frames).exec server =
      (.error (throwCamException exception.toJson), next) := by
  rw [exec_sendCommand, CredentialAssetMappingServer.handleRequest_of_error hexec]
  rfl

end SendCommand

variable [LawfulCxxtools]

theorem receive_serialize {α : Type} {read : SerializationInfo → Except String α}
    {si : SerializationInfo} {value : α} (hread : read si = .ok value) :
    receive read [serialize si] = .ok value := by
  simp only [receive, bind_eq_ok, liftStd_eq_ok]
  exact ⟨si, deserialize_serialize si, hread⟩

/-! ### Calls that read -/

variable [CxxtoolsTexts]

omit [LawfulCxxtools] in
theorem serialize_ne_error (si : SerializationInfo) : serialize si ≠ "ERROR" :=
  CxxtoolsTexts.serialize_ne_error false si

section Reads

variable (client : Sender) (server : CredentialAssetMappingServer)

theorem getMapping_exec (assetId : AssetId) (serviceId : ServiceId) (protocol : Protocol) :
    (getMapping client assetId serviceId protocol).exec server =
      (server.activeMapping.getMapping assetId serviceId protocol, server) := by
  have hexec : (CredentialAssetMappingServer.handler .getMapping client
      [assetId, serviceId, protocol]).exec server =
        ((server.activeMapping.getMapping assetId serviceId protocol).map fun mapping =>
          serialize (mapping.fillSerializationInfo .null), server) := by
    have htriple : CredentialAssetMappingServer.receiveTriple [assetId, serviceId, protocol] =
        .ok (assetId, serviceId, protocol) := rfl
    rw [CredentialAssetMappingServer.handler, CredentialAssetMappingServer.handleGetMapping,
      exec_bind_ok (exec_liftM_ok htriple _), exec_bind_ok (exec_get _), exec_bind, exec_liftM]
    cases server.activeMapping.getMapping assetId serviceId protocol <;> rfl
  unfold CredentialAssetMappingStorage.getMapping at hexec ⊢
  cases hfound : server.activeMapping.mappings[
      CredentialAssetMappingStorage.computeHash assetId serviceId protocol]? with
  | some mapping =>
      rw [hfound] at hexec
      rw [getMapping, exec_bind_ok (sendCommand_of_ok hexec (serialize_ne_error _)), exec_liftM,
        receive_serialize mapping.fromSerializationInfo_fill]
  | none =>
      rw [hfound] at hexec
      rw [getMapping, exec_bind_error (sendCommand_of_error hexec),
        throwCamException_doesNotExist]

theorem isMappingExisting_exec (assetId : AssetId) (serviceId : ServiceId) (protocol : Protocol) :
    (isMappingExisting client assetId serviceId protocol).exec server =
      (.ok (server.activeMapping.isMappingExisting assetId serviceId protocol), server) := by
  rw [isMappingExisting, exec_tryCatch, exec_bind, getMapping_exec,
    CredentialAssetMappingStorage.isMappingExisting, StdMap.contains_eq_isSome,
    CredentialAssetMappingStorage.getMapping]
  cases server.activeMapping.mappings[
    CredentialAssetMappingStorage.computeHash assetId serviceId protocol]? <;> rfl

variable {client server} in
theorem receiveMappings_exec {command : Command} {frames : List String}
    {mappings : List CredentialAssetMapping}
    (hexec : (CredentialAssetMappingServer.handler command client frames).exec server =
      (.ok (CredentialAssetMappingServer.serializeMappings mappings), server)) :
    (receiveMappings client command frames).exec server = (.ok mappings, server) := by
  rw [receiveMappings, exec_bind_ok (sendCommand_of_ok hexec (serialize_ne_error _)), exec_liftM,
    CredentialAssetMappingServer.serializeMappings, receive_serialize
      (getList_ofList CredentialAssetMapping.fromSerializationInfo_fill mappings)]

theorem getAssetMappings_exec (assetId : AssetId) :
    (getAssetMappings client assetId).exec server =
      (.ok (server.activeMapping.getAssetMappings assetId), server) :=
  receiveMappings_exec rfl

theorem getMappings_exec (assetId : AssetId) (serviceId : ServiceId) :
    (getMappings client assetId serviceId).exec server =
      (.ok (server.activeMapping.getMappings assetId serviceId), server) :=
  receiveMappings_exec rfl

theorem getAllMappings_exec :
    (getAllMappings client).exec server = (.ok server.activeMapping.getAllMappings, server) :=
  receiveMappings_exec rfl

theorem getCredentialMappings_exec (credentialId : CredentialId) :
    (getCredentialMappings client credentialId).exec server =
      (.ok (server.activeMapping.getCredentialMappings credentialId), server) :=
  receiveMappings_exec rfl

theorem getAllCredentialCounter_exec :
    (getAllCredentialCounter client).exec server =
      (.ok (countCredentials server.activeMapping.getAllMappings), server) := by
  rw [getAllCredentialCounter, exec_bind_ok (getAllMappings_exec client server)]
  rfl

theorem countCredentialMappingsForCredential_exec [CxxtoolsClient] [LawfulCxxtoolsClient]
    (credentialId : CredentialId) :
    (countCredentialMappingsForCredential client credentialId).exec server =
      (.ok (UInt32.ofNat (server.activeMapping.getCredentialMappings credentialId).length),
        server) := by
  have hexec : (CredentialAssetMappingServer.handler .countCredMappings client
      [credentialId]).exec server =
        (.ok (serialize (.int (UInt32.ofNat
          (server.activeMapping.getCredentialMappings credentialId).length).toNat)), server) :=
    rfl
  rw [countCredentialMappingsForCredential,
    exec_bind_ok (sendCommand_of_ok hexec (serialize_ne_error _)), exec_liftM,
    receive_serialize (LawfulCxxtoolsClient.getUInt32_ofUInt32 _)]

end Reads

end Cam.Accessor
