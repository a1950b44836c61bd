import SecurityWallet.Cam.Server

/-!
# Reading what was written

A mapping is read back as it was written, from a tree and from the parameter of a command, and an
exception as the one that was thrown.
-/

open Foundation SerializationInfo

namespace Cam

/-- Inserting pairs keeps what is there and finds the first pair of every other key. -/
theorem lookup_insertIfNew_pairs (pairs : List (String × String)) (map : MapExtendedInfo)
    (key : String) :
    (pairs.foldl (fun map pair => map.insertIfNew pair.1 pair.2) map)[key]? =
      map[key]?.or ((pairs.find? fun pair => pair.1 = key).map Prod.snd) := by
  induction pairs generalizing map with
  | nil => simp
  | cons pair pairs ih =>
      rw [List.foldl_cons, ih, Std.ExtTreeMap.getElem?_insertIfNew, List.find?_cons]
      by_cases hkey : pair.1 = key
      · subst hkey
        by_cases hmem : pair.1 ∈ map
        · simp [hmem]
        · rw [Std.ExtTreeMap.getElem?_eq_none hmem]
          simp [hmem]
      · simp [hkey]

variable [Cxxtools] [LawfulCxxtools]

theorem getMap_ofMap (map : MapExtendedInfo) : getMap (ofMap map) = .ok map := by
  have hpair : ∀ pair : String × String,
      (do return (← getStringMember (addMember (addMember .null "first" (.str pair.1)) "second"
            (.str pair.2)) "first",
          ← getStringMember (addMember (addMember .null "first" (.str pair.1)) "second"
            (.str pair.2)) "second") : Except String (String × String)) = .ok pair := by
    intro pair
    rw [getStringMember_of_findMember rfl, getStringMember_of_findMember rfl]
    rfl
  rw [getMap, ofMap, getList_ofList hpair]
  refine congrArg Except.ok (Std.ExtTreeMap.ext_getElem? fun key => ?_)
  rw [lookup_insertIfNew_pairs, Std.ExtTreeMap.getElem?_empty, Option.none_or,
    StdMap.find?_toList]

namespace CredentialAssetMapping

theorem fromSerializationInfo_fill (mapping : CredentialAssetMapping) :
    fromSerializationInfo (mapping.fillSerializationInfo .null) = .ok mapping := by
  simp only [fromSerializationInfo, bind_eq_ok]
  exact ⟨mapping.serviceId, getStringMember_of_findMember rfl,
    mapping.assetId, getStringMember_of_findMember rfl,
    mapping.protocol, getStringMember_of_findMember rfl,
    mapping.port, getStringMember_of_findMember rfl,
    mapping.credentialId, getStringMember_of_findMember rfl,
    mapping.status, getUInt8Member_of_findMember rfl,
    ofMap mapping.extendedInfo, getMember_of_findMember rfl,
    mapping.extendedInfo, getMap_ofMap _, rfl⟩

end CredentialAssetMapping

theorem deserialize_serialize (si : SerializationInfo) : deserialize (serialize si) = .ok si := by
  rw [deserialize, serialize, LawfulCxxtools.deserialize_serialize]
  rfl

theorem receiveMapping_serialize (mapping : CredentialAssetMapping) (params : List String) :
    CredentialAssetMappingServer.receiveMapping
        (serialize (mapping.fillSerializationInfo .null) :: params) =
      .ok mapping := by
  simp only [CredentialAssetMappingServer.receiveMapping, bind_eq_ok, liftStd_eq_ok]
  exact ⟨_, deserialize_serialize _, mapping.fromSerializationInfo_fill⟩

/-! ### Exceptions -/

theorem readError_toSerializationInfo (exception : CamException) :
    readError exception.toSerializationInfo =
      (exception.errorCode, exception.what, exception.fillSerializationInfo .null) := by
  have hcode : getUInt8Member exception.toSerializationInfo "errorCode" =
      .ok exception.errorCode :=
    getUInt8Member_of_findMember rfl
  have hwhat : getStringMember exception.toSerializationInfo "whatArg" = .ok exception.what :=
    getStringMember_of_findMember rfl
  rw [readError, hcode]
  dsimp only
  rw [hwhat]
  rfl

/-- What a client throws for an exception is what its class is made from. -/
theorem throwCamException_toJson {exception thrown : CamException}
    (hread : ofErrorCode exception.errorCode exception.what (exception.fillSerializationInfo .null) =
      .ok thrown) :
    throwCamException exception.toJson = .cam thrown := by
  have hjson : readException exception.toJson = .ok thrown := by
    simp only [readException, CamException.toJson, bind_eq_ok]
    refine ⟨exception.toSerializationInfo, LawfulCxxtools.deserialize_serialize true _, ?_⟩
    rw [readError_toSerializationInfo]
    exact hread
  rw [throwCamException, hjson]

/-- The class whose text is made again when it is read, from the text itself. -/
def CamException.IsUnsupportedCommand : CamException → Prop
  | unsupportedCommand _ _ => True
  | _ => False

/-- Every other class is made again as it was. -/
theorem ofErrorCode_errorCode {exception : CamException}
    (hclass : ¬ exception.IsUnsupportedCommand) :
    ofErrorCode exception.errorCode exception.what (exception.fillSerializationInfo .null) =
      .ok exception := by
  cases exception with
  | unsupportedCommand whatArg command => exact absurd trivial hclass
  | badCommandArgument whatArg argument =>
      simp only [CamException.errorCode, ofErrorCode, bind_eq_ok]
      exact ⟨argument, getStringMember_of_findMember rfl, rfl⟩
  | mappingDoesNotExist whatArg asset service protocol
  | mappingAlreadyExists whatArg asset service protocol =>
      simp only [CamException.errorCode, ofErrorCode, bind_eq_ok]
      exact ⟨asset, getStringMember_of_findMember rfl, service, getStringMember_of_findMember rfl,
        protocol, getStringMember_of_findMember rfl, rfl⟩
  | _ => rfl

theorem throwCamException_doesNotExist (asset : AssetId) (service : ServiceId)
    (protocol : Protocol) :
    throwCamException (camMappingDoesNotExistException asset service protocol).toJson =
      .cam (camMappingDoesNotExistException asset service protocol) :=
  throwCamException_toJson (ofErrorCode_errorCode id)

end Cam
