import SecurityWallet.Proof.CamPersistence

/-!
# Stored mappings are well formed

Every way into the store asks for the three parts of a mapping and none looks at its status, which
is cast from a number. Three commands and the file bring a status in; all others store the one that
is there or set it to unknown. So the stored mappings stay well formed exactly as long as what these
bring in is an enumerator.
-/

open Foundation SerializationInfo Effect

namespace Cam

/-- One of the enumerators. -/
def Status.Enumerated (status : Status) : Prop :=
  status = Status.unknown ∨ status = Status.valid ∨ status = Status.error

instance (status : Status) : Decidable status.Enumerated :=
  inferInstanceAs (Decidable (_ ∨ _ ∨ _))

structure CredentialAssetMapping.WellFormed (mapping : CredentialAssetMapping) : Prop where
  filled : mapping.triple.Filled
  enumerated : mapping.status.Enumerated

namespace CredentialAssetMappingServer

/-- Every stored mapping has its parts and an enumerator as its status. -/
def AllWellFormed (server : CredentialAssetMappingServer) : Prop :=
  ∀ mapping ∈ server.activeMapping.getAllMappings, mapping.WellFormed

theorem allWellFormed_iff {server : CredentialAssetMappingServer} :
    AllWellFormed server ↔ ∀ (hash : Hash) mapping,
      server.activeMapping.mappings[hash]? = some mapping → mapping.WellFormed := by
  unfold AllWellFormed
  constructor
  · intro hall hash mapping hlookup
    exact hall mapping (StdMap.mem_valueList.2 ⟨hash, hlookup⟩)
  · intro hall mapping hmem
    obtain ⟨hash, hlookup⟩ := StdMap.mem_valueList.1 hmem
    exact hall hash mapping hlookup

variable [Cxxtools]

/-! ### What a command stores -/

section Handlers

/-- The triple is a key of the store. -/
def Holds (server : CredentialAssetMappingServer) (triple : Triple) : Prop :=
  server.activeMapping.isMappingExisting triple.1 triple.2.1 triple.2.2 = true

/-- The command stores the status of the mapping that it receives. -/
def StoresStatus (server : CredentialAssetMappingServer) (received : CredentialAssetMapping) :
    Command → Prop
  | .createMapping => received.triple.Filled ∧ ¬ Holds server received.triple
  | .updateMapping => received.triple.Filled ∧ Holds server received.triple
  | .updateStatusMapping => Holds server received.triple
  | _ => False

variable {server : CredentialAssetMappingServer} {params : List String}

omit [Cxxtools] in
theorem AllWellFormed.of_getMapping (hall : AllWellFormed server) {asset : AssetId}
    {service : ServiceId} {protocol : Protocol} {existing : CredentialAssetMapping}
    (hfound : server.activeMapping.getMapping asset service protocol = .ok existing) :
    Holds server (asset, service, protocol) ∧ existing.WellFormed := by
  unfold CredentialAssetMappingStorage.getMapping at hfound
  split at hfound
  · next mapping hlookup =>
      obtain rfl := Except.ok.inj hfound
      refine ⟨?_, allWellFormed_iff.1 hall _ _ hlookup⟩
      rw [Holds, CredentialAssetMappingStorage.isMappingExisting, StdMap.contains_eq_isSome,
        hlookup, Option.isSome_some]
  · cases hfound

theorem AllWellFormed.insert (hall : AllWellFormed server) {mapping : CredentialAssetMapping}
    (hmapping : mapping.WellFormed) :
    AllWellFormed (saved (server.activeMapping.mappings.insert mapping.triple.hash mapping)) := by
  rw [allWellFormed_iff]
  intro hash stored hlookup
  rw [saved, StdMap.lookup_insert] at hlookup
  split at hlookup
  · obtain rfl := Option.some.inj hlookup
    exact hmapping
  · exact allWellFormed_iff.1 hall hash stored hlookup

theorem AllWellFormed.erase (hall : AllWellFormed server) (erased : Hash) :
    AllWellFormed (saved (server.activeMapping.mappings.erase erased)) := by
  rw [allWellFormed_iff]
  intro hash stored hlookup
  rw [saved, StdMap.lookup_erase] at hlookup
  split at hlookup
  · cases hlookup
  · exact allWellFormed_iff.1 hall hash stored hlookup

/-- However it ends, the computation leaves only well-formed mappings. -/
def LeavesWellFormed {α : Type} (act : Effect Exn CredentialAssetMappingServer α)
    (server : CredentialAssetMappingServer) : Prop :=
  Ensures act server (fun _ next => AllWellFormed next) fun _ next => AllWellFormed next

omit [Cxxtools] in
theorem ReadsOnly.leavesWellFormed {α : Type} {act : Effect Exn CredentialAssetMappingServer α}
    (hreads : ReadsOnly act) (hall : AllWellFormed server) : LeavesWellFormed act server := by
  refine (hreads server).imp ?_ ?_
  · rintro _ _ rfl
    exact hall
  · rintro _ _ rfl
    exact hall

omit [Cxxtools] in
/-- A call without state is followed by what comes after it, or it throws and leaves the server. -/
theorem AllWellFormed.bind_liftM (hall : AllWellFormed server) {α β : Type} {call : Except Exn α}
    {next : α → Effect Exn CredentialAssetMappingServer β}
    (hnext : ∀ a, call = .ok a → LeavesWellFormed (next a) server) :
    LeavesWellFormed (liftM call >>= next) server := by
  rw [LeavesWellFormed, ensures_bind, ensures_liftM]
  exact ⟨hnext, fun _ _ => hall⟩

theorem AllWellFormed.store (hall : AllWellFormed server) {mapping : CredentialAssetMapping}
    (hstatus : mapping.triple.Filled → mapping.status.Enumerated) :
    LeavesWellFormed (do
      onStorage (CredentialAssetMappingStorage.setMapping mapping)
      onStorage CredentialAssetMappingStorage.save
      return "") server := by
  rw [LeavesWellFormed, ensures_bind, onStorage, ensures_zoom, Ensures,
    CredentialAssetMappingStorage.setMapping_exec]
  by_cases hfilled : mapping.triple.Filled
  · rw [if_pos hfilled]
    exact hall.insert ⟨hfilled, hstatus hfilled⟩
  · rw [if_neg hfilled]
    exact hall

/-- An update of one field is stored with the status it gives the existing mapping. -/
theorem AllWellFormed.updateField (hall : AllWellFormed server)
    (update : (existing received : CredentialAssetMapping) → CredentialAssetMapping)
    (hstatus : ∀ existing received, receiveMapping params = .ok received →
      Holds server received.triple → existing.WellFormed →
        (update existing received).status.Enumerated)
    (sender : Sender) : LeavesWellFormed (handleUpdateField update sender params) server := by
  apply hall.bind_liftM
  intro received hreceived
  rw [LeavesWellFormed, ensures_bind, ensures_get]
  apply hall.bind_liftM
  intro existing hfound
  obtain ⟨hholds, hexisting⟩ := hall.of_getMapping hfound
  exact hall.store fun _ => hstatus existing received hreceived hholds hexisting

/-- A command keeps the mappings well formed if the status it stores is an enumerator. -/
theorem AllWellFormed.handler (hall : AllWellFormed server) {command : Command}
    (hguard : ∀ received, receiveMapping params = .ok received →
      StoresStatus server received command → received.status.Enumerated)
    (sender : Sender) : LeavesWellFormed (handler command sender params) server := by
  cases command with
  | createMapping =>
      apply hall.bind_liftM
      intro received hreceived
      rw [LeavesWellFormed, ensures_bind, ensures_get]
      split
      · exact hall
      · next habsent => exact hall.store fun hfilled => hguard received hreceived ⟨hfilled, habsent⟩
  | updateMapping =>
      apply hall.bind_liftM
      intro received hreceived
      rw [LeavesWellFormed, ensures_bind, ensures_get]
      split
      · exact hall
      · next hholds =>
          exact hall.store fun hfilled => hguard received hreceived ⟨hfilled, not_not.1 hholds⟩
  | updatePortMapping => exact hall.updateField updatePort (fun _ _ _ _ _ => .inl rfl) sender
  | updateCredentialMapping =>
      exact hall.updateField updateCredential (fun _ _ _ _ _ => .inl rfl) sender
  | updateStatusMapping =>
      exact hall.updateField updateStatus (fun _ received hreceived hholds _ =>
        hguard received hreceived hholds) sender
  | updateInfoMapping =>
      exact hall.updateField updateInfo (fun _ _ _ _ hexisting => hexisting.enumerated) sender
  | removeMapping =>
      refine (handleRemoveMapping_ensures sender params server).imp ?_ ?_
      · rintro _ _ ⟨hash, rfl⟩
        exact hall.erase hash
      · rintro _ _ rfl
        exact hall
  | _ => exact (handler_readsOnly rfl sender params).leavesWellFormed hall

omit [Cxxtools] in
theorem exists_finds_of_holds {triple : Triple} (hholds : Holds server triple) :
    ∃ existing, Finds server triple (some existing) := by
  rw [Holds, CredentialAssetMappingStorage.isMappingExisting, StdMap.contains_eq_isSome,
    Option.isSome_iff_exists] at hholds
  exact hholds

omit [Cxxtools] in
theorem finds_none_of_not_holds {triple : Triple} (habsent : ¬ Holds server triple) :
    Finds server triple none := by
  rw [Holds, CredentialAssetMappingStorage.isMappingExisting, StdMap.contains_eq_isSome,
    Bool.not_eq_true, Option.isSome_eq_false_iff, Option.isNone_iff_eq_none] at habsent
  exact habsent

/-- What an operation answers to be stored is in the store. -/
theorem mem_of_responds (hsound : Sound server) {command : Command} {operation : Operation}
    (hresponds : Responds command params operation) {found : Option CredentialAssetMapping}
    (hfound : Finds server operation.triple found) {mapping : CredentialAssetMapping}
    (hrespond : operation.respond found = (.done, some mapping)) (sender : Sender) :
    ∃ next, (handler command sender params).exec server = (.ok "", next) ∧
      mapping ∈ next.activeMapping.getAllMappings := by
  obtain ⟨next, hexec, hwrites⟩ := hresponds sender server found hfound (by
    rintro existing rfl
    exact hsound.keyed _ existing hfound)
  rw [hrespond] at hexec hwrites
  refine ⟨next, hexec, StdMap.mem_valueList.2 ⟨operation.triple.hash, ?_⟩⟩
  rw [hwrites, if_pos rfl]

/-- A command that stores the status of the mapping it receives does so. -/
theorem exists_stored (hsound : Sound server) {received : CredentialAssetMapping}
    (hreceived : receiveMapping params = .ok received) {command : Command}
    (hstores : StoresStatus server received command) (sender : Sender) :
    ∃ next, (handler command sender params).exec server = (.ok "", next) ∧
      ∃ mapping ∈ next.activeMapping.getAllMappings, mapping.status = received.status := by
  cases command with
  | createMapping =>
      obtain ⟨hfilled, habsent⟩ := hstores
      obtain ⟨next, hexec, hmem⟩ := mem_of_responds hsound (responds_create hreceived hfilled)
        (finds_none_of_not_holds habsent) rfl sender
      exact ⟨next, hexec, received, hmem, rfl⟩
  | updateMapping =>
      obtain ⟨hfilled, hholds⟩ := hstores
      obtain ⟨existing, hfound⟩ := exists_finds_of_holds hholds
      obtain ⟨next, hexec, hmem⟩ := mem_of_responds hsound (responds_update hreceived hfilled)
        hfound rfl sender
      exact ⟨next, hexec, received, hmem, rfl⟩
  | updateStatusMapping =>
      obtain ⟨existing, hfound⟩ := exists_finds_of_holds hstores
      obtain ⟨next, hexec, hmem⟩ := mem_of_responds hsound
        (responds_updateField .status hreceived) hfound rfl sender
      exact ⟨next, hexec, _, hmem, rfl⟩
  | _ => exact hstores.elim

end Handlers

/-! ### Requests -/

/-- The status that the request has stored, if it has one stored, is an enumerator. -/
def StatusEnumerated (request : Request) (server : CredentialAssetMappingServer) : Prop :=
  ∀ command params received, request.payload = Command.name command :: params →
    receiveMapping params = .ok received → StoresStatus server received command →
      received.status.Enumerated

theorem AllWellFormed.processRequest {server : CredentialAssetMappingServer}
    (hall : AllWellFormed server) {request : Request}
    (hguard : StatusEnumerated request server) :
    LeavesWellFormed (processRequest request) server := by
  unfold LeavesWellFormed CredentialAssetMappingServer.processRequest
  split
  · exact hall
  · next cmd params hpayload =>
      split
      · exact hall
      · split
        · exact hall
        · next command hcommand =>
            rw [← Command.name_of_ofName? hcommand] at hpayload
            rw [ensures_bind]
            exact hall.handler (fun received => hguard command params received hpayload)
              request.sender

/-- A request keeps the mappings well formed exactly if the status it has stored is an enumerator. -/
theorem Sound.allWellFormed_iff {server : CredentialAssetMappingServer} (hsound : Sound server)
    (hall : AllWellFormed server) (request : Request) :
    AllWellFormed (handleRequest request server).2 ↔ StatusEnumerated request server := by
  constructor
  · rintro hnext command params received hpayload hreceived hstores
    obtain ⟨sender, payload⟩ := request
    dsimp only at hpayload
    subst hpayload
    obtain ⟨next, hexec, mapping, hmem, hstatus⟩ := exists_stored hsound hreceived hstores sender
    rw [handleRequest_of_ok hexec] at hnext
    rw [← hstatus]
    exact (hnext mapping hmem).enumerated
  · intro hguard
    have hensures := hall.processRequest hguard
    unfold LeavesWellFormed Ensures at hensures
    unfold handleRequest
    split at hensures
    · next hexec =>
        rw [hexec]
        exact hensures
    · next hexec =>
        rw [hexec]
        exact hensures

/-! ### Runs -/

/-- The mapping is the last of its key among those of the file that have their parts. -/
def Kept (listOfMapping : List CredentialAssetMapping) (mapping : CredentialAssetMapping) : Prop :=
  ((listOfMapping.filter fun listed => listed.triple.Filled).filter fun listed =>
    listed.triple.hash = mapping.triple.hash).getLast? = some mapping

/-- Every mapping that is kept of the file has an enumerator as its status. -/
def FileEnumerated (database : Option String) : Prop :=
  ∀ listOfMapping, Lists database listOfMapping → ∀ mapping, Kept listOfMapping mapping →
    mapping.status.Enumerated

theorem lists_unique {database : Option String} {list list' : List CredentialAssetMapping}
    (hlist : Lists database list) (hlist' : Lists database list') : list = list' := by
  obtain ⟨text, rootSi, rfl, hroot, hread⟩ := hlist
  obtain ⟨_, rootSi', ⟨⟩, hroot', hread'⟩ := hlist'
  obtain rfl := Except.ok.inj (hroot.symm.trans hroot')
  exact Except.ok.inj (hread.symm.trans hread')

theorem allWellFormed_of_construct {database : Option String}
    {storage : CredentialAssetMappingStorage}
    (hconstruct : CredentialAssetMappingStorage.construct database = some storage) :
    AllWellFormed { activeMapping := storage } ↔ FileEnumerated database := by
  have hsound := sound_of_construct hconstruct
  rw [CredentialAssetMappingServer.allWellFormed_iff]
  rcases of_construct hconstruct with ⟨rfl, rfl⟩ | ⟨listOfMapping, hlist, rfl⟩
  · constructor
    · rintro - listOfMapping ⟨_, _, ⟨⟩, -⟩
    · intro _ hash mapping hlookup
      simp [saved] at hlookup
  · constructor
    · intro hall listed hlisted mapping hkept
      obtain rfl := lists_unique hlist hlisted
      refine (hall mapping.triple.hash mapping ?_).enumerated
      rw [saved, StdMap.lookup_indexBy, hkept, Option.some_or]
    · intro hfile hash mapping hlookup
      obtain ⟨hfilled, rfl⟩ := hsound.keyed hash mapping hlookup
      refine ⟨hfilled, hfile listOfMapping hlist mapping ?_⟩
      rwa [saved, StdMap.lookup_indexBy, Std.ExtTreeMap.getElem?_empty, Option.or_none] at hlookup

/--
From every file that the constructor accepts, through every list of requests: all stored mappings
are well formed in every state reached exactly if the file has no status but enumerators in the
mappings that are kept, and no request has another status stored.
-/
theorem mappings_wellFormed_iff (database : Option String) (storage : CredentialAssetMappingStorage)
    (hconstruct : CredentialAssetMappingStorage.construct database = some storage)
    (requests : List Request) :
    Machine.Throughout handleRequest AllWellFormed requests { activeMapping := storage } ↔
      FileEnumerated database ∧
        Machine.Along handleRequest StatusEnumerated requests { activeMapping := storage } := by
  rw [← allWellFormed_of_construct hconstruct]
  exact Machine.throughout_iff_along (fun request _ hsound => hsound.next request)
    (fun request _ hsound hall => hsound.allWellFormed_iff hall request) requests
    (sound_of_construct hconstruct)

end CredentialAssetMappingServer

/-! ### A status that is no enumerator -/

open scoped Secw.Reference

/-- A mapping with any number as its status. -/
def mappingOf (status : Status) : CredentialAssetMapping where
  assetId := "asset"
  serviceId := "service"
  protocol := "protocol"
  status

def createOf (status : Status) : CredentialAssetMappingServer.Request :=
  ⟨"client", [Command.createMapping.name,
    serialize ((mappingOf status).fillSerializationInfo .null)]⟩

/-- A new mapping is stored with the number that the client sent. -/
theorem foreign_status_is_stored :
    ∃ storage, CredentialAssetMappingStorage.construct none = some storage ∧
      ¬ Machine.Throughout CredentialAssetMappingServer.handleRequest
          CredentialAssetMappingServer.AllWellFormed [createOf 7] { activeMapping := storage } := by
  have hconstruct : CredentialAssetMappingStorage.construct none =
      some (CredentialAssetMappingServer.saved ∅).activeMapping := rfl
  refine ⟨_, hconstruct, ?_⟩
  intro hthroughout
  have hstores : CredentialAssetMappingServer.StoresStatus
      { activeMapping := (CredentialAssetMappingServer.saved ∅).activeMapping } (mappingOf 7)
      .createMapping := by
    constructor
    · decide
    · exact nofun
  obtain ⟨next, hexec, mapping, hmem, hstatus⟩ := CredentialAssetMappingServer.exists_stored
    (CredentialAssetMappingServer.sound_of_construct hconstruct)
    (receiveMapping_serialize (mappingOf 7) []) hstores "client"
  have hnext := hthroughout.2
  rw [Machine.Throughout, createOf, CredentialAssetMappingServer.handleRequest_of_ok hexec]
    at hnext
  have henumerated := (hnext mapping hmem).enumerated
  rw [hstatus] at henumerated
  exact absurd henumerated (by decide)

theorem valid_status_is_stored :
    ∃ storage, CredentialAssetMappingStorage.construct none = some storage ∧
      Machine.Throughout CredentialAssetMappingServer.handleRequest
        CredentialAssetMappingServer.AllWellFormed [createOf Status.valid]
        { activeMapping := storage } := by
  refine ⟨(CredentialAssetMappingServer.saved ∅).activeMapping, rfl, ?_⟩
  apply (CredentialAssetMappingServer.mappings_wellFormed_iff none
    (CredentialAssetMappingServer.saved ∅).activeMapping rfl _).2
  constructor
  · rintro listOfMapping ⟨_, _, ⟨⟩, -⟩
  · refine ⟨?_, trivial⟩
    intro command params received hpayload hreceived _
    obtain ⟨-, rfl⟩ := List.cons.inj hpayload
    obtain rfl := Except.ok.inj ((receiveMapping_serialize _ _).symm.trans hreceived)
    decide

end Cam
