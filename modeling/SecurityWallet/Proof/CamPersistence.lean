import SecurityWallet.Proof.CamRequests

/-!
# The mappings and their file

The file lists the mappings without their keys, and the constructor skips a mapping with an empty
part. So a storage is read back as it was as long as each mapping has its parts and is under its
own key, and the file is written after each change. That is what a constructed storage is and what
every request keeps.
-/

open Foundation SerializationInfo Effect

namespace Cam

/-- Each mapping has its parts and is under the key of its triple. -/
def Keyed (mappings : StdMap Hash CredentialAssetMapping) : Prop :=
  ∀ (hash : Hash) mapping, mappings[hash]? = some mapping →
    mapping.triple.Filled ∧ mapping.triple.hash = hash

namespace Keyed

variable {mappings : StdMap Hash CredentialAssetMapping}

theorem empty : Keyed ∅ := by
  intro hash mapping hlookup
  simp at hlookup

theorem insert (hkeyed : Keyed mappings) {mapping : CredentialAssetMapping}
    (hfilled : mapping.triple.Filled) :
    Keyed (mappings.insert mapping.triple.hash mapping) := by
  intro hash stored hlookup
  rw [StdMap.lookup_insert] at hlookup
  split at hlookup
  · next hhash =>
      obtain rfl := Option.some.inj hlookup
      exact ⟨hfilled, hhash⟩
  · exact hkeyed hash stored hlookup

theorem erase (hkeyed : Keyed mappings) (erased : Hash) : Keyed (mappings.erase erased) := by
  intro hash stored hlookup
  rw [StdMap.lookup_erase] at hlookup
  split at hlookup
  · cases hlookup
  · exact hkeyed hash stored hlookup

theorem indexBy (listOfMapping : List CredentialAssetMapping) :
    Keyed (StdMap.indexBy (fun mapping => mapping.triple.hash)
      (listOfMapping.filter fun mapping => mapping.triple.Filled) ∅) := by
  intro hash stored hlookup
  rcases StdMap.of_lookup_indexBy hlookup with ⟨hmem, hhash⟩ | hbefore
  · exact ⟨of_decide_eq_true (List.mem_filter.1 hmem).2, hhash⟩
  · simp at hbefore

/-- Setting the mappings of a storage one by one builds it again. -/
theorem indexBy_valueList (hkeyed : Keyed mappings) :
    StdMap.indexBy (fun mapping => mapping.triple.hash)
      (mappings.valueList.filter fun mapping => mapping.triple.Filled) ∅ = mappings := by
  have hfilled : ∀ mapping ∈ mappings.valueList, decide mapping.triple.Filled = true := by
    intro mapping hmem
    obtain ⟨hash, hlookup⟩ := StdMap.mem_valueList.1 hmem
    exact decide_eq_true (hkeyed hash mapping hlookup).1
  rw [List.filter_eq_self.2 hfilled]
  exact StdMap.indexBy_valueList _ mappings fun hash mapping hlookup =>
    (hkeyed hash mapping hlookup).2

end Keyed

namespace CredentialAssetMappingStorage

/-- The constructor keeps the mappings of the file that have their parts. -/
theorem setMappings_exec (listOfMapping : List CredentialAssetMapping)
    (storage : CredentialAssetMappingStorage) :
    (setMappings listOfMapping).exec storage = (.ok (), { storage with
      mappings := StdMap.indexBy (fun mapping => mapping.triple.hash)
        (listOfMapping.filter fun mapping => mapping.triple.Filled) storage.mappings }) := by
  induction listOfMapping generalizing storage with
  | nil => rfl
  | cons mapping rest ih =>
      rw [setMappings, exec_bind, exec_tryCatch, setMapping_exec]
      by_cases hfilled : mapping.triple.Filled
      · rw [if_pos hfilled, List.filter_cons, if_pos (by simpa using hfilled)]
        exact ih _
      · rw [if_neg hfilled, List.filter_cons, if_neg (by simpa using hfilled)]
        exact ih storage

end CredentialAssetMappingStorage

namespace CredentialAssetMappingServer

variable [Cxxtools]

/-- The storage and its file agree, and the file can be read back. -/
structure Sound (server : CredentialAssetMappingServer) : Prop where
  keyed : Keyed server.activeMapping.mappings
  eq_saved : server = saved server.activeMapping.mappings

theorem sound_saved {mappings : StdMap Hash CredentialAssetMapping} (hkeyed : Keyed mappings) :
    Sound (saved mappings) where
  keyed := hkeyed
  eq_saved := rfl

/-- The file lists the mappings. -/
def Lists (database : Option String) (listOfMapping : List CredentialAssetMapping) : Prop :=
  ∃ text rootSi, database = some text ∧ Cxxtools.deserialize (strToBytes text) = .ok rootSi ∧
    (getMember rootSi "mappings" >>= getList CredentialAssetMapping.fromSerializationInfo) =
      .ok listOfMapping

/-- An accepted file is there or not; the storage is saved with the mappings it keeps of it. -/
theorem of_construct {database : Option String} {storage : CredentialAssetMappingStorage}
    (hconstruct : CredentialAssetMappingStorage.construct database = some storage) :
    (database = none ∧ storage = (saved ∅).activeMapping) ∨
      ∃ listOfMapping, Lists database listOfMapping ∧
        storage = (saved (StdMap.indexBy (fun mapping => mapping.triple.hash)
          (listOfMapping.filter fun mapping => mapping.triple.Filled) ∅)).activeMapping := by
  have hstart : Ensures CredentialAssetMappingStorage.start { database }
      (fun _ storage => (database = none ∧ storage = (saved ∅).activeMapping) ∨
        ∃ listOfMapping, Lists database listOfMapping ∧
          storage = (saved (StdMap.indexBy (fun mapping => mapping.triple.hash)
            (listOfMapping.filter fun mapping => mapping.triple.Filled) ∅)).activeMapping)
      fun _ _ => True := by
    unfold CredentialAssetMappingStorage.start
    rw [ensures_bind, ensures_get]
    cases database with
    | none => exact .inl ⟨rfl, rfl⟩
    | some text =>
        simp only [ensures_bind, ensures_liftM]
        refine ⟨fun rootSi hroot => ⟨fun version _ => ?_, fun _ _ => trivial⟩, fun _ _ => trivial⟩
        split
        · simp only [ensures_bind, ensures_liftM]
          refine ⟨fun listOfMapping hlist => ?_, fun _ _ => trivial⟩
          rw [Ensures, CredentialAssetMappingStorage.setMappings_exec]
          exact .inr ⟨listOfMapping, ⟨text, rootSi, rfl, liftStd_eq_ok.1 hroot,
            liftStd_eq_ok.1 hlist⟩, rfl⟩
        · trivial
  unfold CredentialAssetMappingStorage.construct at hconstruct
  unfold Ensures at hstart
  split at hstart
  · next hexec =>
      rw [hexec] at hconstruct
      obtain rfl := Option.some.inj hconstruct
      exact hstart
  · next hexec =>
      rw [hexec] at hconstruct
      cases hconstruct

/-- Whatever file it accepts, the constructor leaves a sound storage. -/
theorem sound_of_construct {database : Option String} {storage : CredentialAssetMappingStorage}
    (hconstruct : CredentialAssetMappingStorage.construct database = some storage) :
    Sound { activeMapping := storage } := by
  rcases of_construct hconstruct with ⟨-, rfl⟩ | ⟨listOfMapping, -, rfl⟩
  · exact sound_saved Keyed.empty
  · exact sound_saved (Keyed.indexBy listOfMapping)

theorem Sound.change {server next : CredentialAssetMappingServer} (hsound : Sound server)
    (hchange : Change server next) : Sound next := by
  cases hchange with
  | set mapping hfilled => exact sound_saved (hsound.keyed.insert hfilled)
  | erase hash => exact sound_saved (hsound.keyed.erase hash)

theorem Sound.next {server : CredentialAssetMappingServer} (hsound : Sound server)
    (request : Request) : Sound (handleRequest request server).2 := by
  have houtcome := handleRequest_outcome request server
  generalize (handleRequest request server).1 = frames at houtcome
  generalize (handleRequest request server).2 = next at houtcome ⊢
  cases houtcome with
  | changed result hpayload hwriting hchange => exact hsound.change hchange
  | _ => exact hsound

/-- What the constructor and then requests can lead to. -/
def Reachable (server : CredentialAssetMappingServer) : Prop :=
  ∃ database storage requests, CredentialAssetMappingStorage.construct database = some storage ∧
    (Machine.run handleRequest requests { activeMapping := storage }).2 = server

theorem Reachable.sound {server : CredentialAssetMappingServer} (hreachable : Reachable server) :
    Sound server := by
  obtain ⟨database, storage, requests, hconstruct, rfl⟩ := hreachable
  exact Machine.run_stable (fun request server hsound => hsound.next request) requests
    (sound_of_construct hconstruct)

variable [LawfulCxxtools]

/-- A sound storage is what its file is read back as. -/
theorem Sound.construct {server : CredentialAssetMappingServer} (hsound : Sound server) :
    CredentialAssetMappingStorage.construct server.activeMapping.database =
      some server.activeMapping := by
  obtain ⟨hkeyed, hsaved⟩ := hsound
  generalize server.activeMapping.mappings = mappings at hkeyed hsaved
  subst hsaved
  have hroot := LawfulCxxtools.deserialize_serialize true
    (CredentialAssetMappingStorage.databaseTree mappings)
  have hversion : getUInt8Member (CredentialAssetMappingStorage.databaseTree mappings) "version" =
      .ok CredentialAssetMappingStorage.mappingVersion :=
    getUInt8Member_of_findMember rfl
  have hmappings : (getMember (CredentialAssetMappingStorage.databaseTree mappings) "mappings" >>=
      getList CredentialAssetMapping.fromSerializationInfo) = .ok mappings.valueList := by
    rw [getMember_of_findMember rfl]
    exact getList_ofList CredentialAssetMapping.fromSerializationInfo_fill _
  have hstart : CredentialAssetMappingStorage.start.exec
      { database := (saved mappings).activeMapping.database } =
        (.ok (), (saved mappings).activeMapping) := by
    unfold CredentialAssetMappingStorage.start
    rw [exec_bind_ok (exec_get _)]
    dsimp only [saved]
    rw [exec_bind_ok (exec_liftM_ok (liftStd_eq_ok.2 hroot) _),
      exec_bind_ok (exec_liftM_ok (liftStd_eq_ok.2 hversion) _),
      if_pos (show CredentialAssetMappingStorage.mappingVersion = 1 from rfl),
      exec_bind_ok (exec_liftM_ok (liftStd_eq_ok.2 hmappings) _),
      exec_bind_ok (CredentialAssetMappingStorage.setMappings_exec _ _), hkeyed.indexBy_valueList]
    rfl
  rw [CredentialAssetMappingStorage.construct, hstart]

/--
From every storage the constructor accepts, through every list of requests: the file is read back
as the mappings in memory, and no request that is answered with an error changes either.
-/
theorem memory_agrees_with_file (database : Option String) (storage : CredentialAssetMappingStorage)
    (hconstruct : CredentialAssetMappingStorage.construct database = some storage)
    (requests : List Request) :
    Machine.Throughout handleRequest
        (fun server => CredentialAssetMappingStorage.construct server.activeMapping.database =
          some server.activeMapping)
        requests { activeMapping := storage } ∧
      Machine.Along handleRequest
        (fun request server => Failed (handleRequest request server).1 →
          (handleRequest request server).2 = server)
        requests { activeMapping := storage } := by
  have hstart := sound_of_construct hconstruct
  constructor
  · rw [Machine.throughout_iff]
    intro front _
    exact (Machine.run_stable (fun request server hsound => hsound.next request)
      front hstart).construct
  · exact Machine.along_of_invariant (P := Sound)
      (fun request server hsound => ⟨hsound.next request, unchanged_of_failed⟩)
      requests hstart

end CredentialAssetMappingServer

open scoped Secw.Reference

/-- The constructor accepts that there is no file. -/
theorem memory_agrees_with_new_file :
    ∃ storage, CredentialAssetMappingStorage.construct none = some storage ∧
      ∀ requests, Machine.Throughout CredentialAssetMappingServer.handleRequest
          (fun server => CredentialAssetMappingStorage.construct server.activeMapping.database =
            some server.activeMapping)
          requests { activeMapping := storage } ∧
        Machine.Along CredentialAssetMappingServer.handleRequest
          (fun request server =>
            CredentialAssetMappingServer.Failed
                (CredentialAssetMappingServer.handleRequest request server).1 →
              (CredentialAssetMappingServer.handleRequest request server).2 = server)
          requests { activeMapping := storage } :=
  ⟨_, rfl, fun requests =>
    CredentialAssetMappingServer.memory_agrees_with_file none _ rfl requests⟩

end Cam
