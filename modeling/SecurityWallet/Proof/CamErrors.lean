import SecurityWallet.Proof.CamRequests

/-!
# The errors of the mappings

An error reply describes an exception of the mapping only if that is what the handler threw. Two
things throw another one: of the three parts of a triple only two are asked for before all are read,
and the members of a received mapping are read without a guard.
-/

open Foundation SerializationInfo Effect

namespace Cam

/-! ### Trees that are read as mappings -/

/-- The members of a mapping that are read as texts. -/
def textEntries : List String :=
  [serviceIdEntry, assetIdEntry, protocolEntry, portEntry, credentialIdEntry]

section Read

variable [Cxxtools] {si : SerializationInfo}

/-- The tree has the seven members of a mapping, each of the kind it is read as. -/
structure IsMapping (si : SerializationInfo) : Prop where
  texts : ∀ entry ∈ textEntries, ∃ text, getStringMember si entry = .ok text
  status : ∃ status, getUInt8Member si credentialStatusEntry = .ok status
  info : ∃ member, findMember si extendedInfoEntry = some member ∧
    ∀ pair ∈ children member, (∃ key, getStringMember pair "first" = .ok key) ∧
      ∃ value, getStringMember pair "second" = .ok value

theorem getMember_eq_ok {name : String} {member : SerializationInfo} :
    getMember si name = .ok member ↔ findMember si name = some member := by
  unfold getMember
  split <;> simp_all

theorem exists_getMap_iff {member : SerializationInfo} :
    (∃ map, getMap member = .ok map) ↔
      ∀ pair ∈ children member, (∃ key, getStringMember pair "first" = .ok key) ∧
        ∃ value, getStringMember pair "second" = .ok value := by
  have hpairs : (∃ map, getMap member = .ok map) ↔
      ∃ pairs, getList (fun pair => do
        return (← getStringMember pair "first", ← getStringMember pair "second")) member =
          .ok pairs := by
    simp only [getMap, bind_eq_ok, pure_eq_ok]
    constructor
    · rintro ⟨_, pairs, hpairs, -⟩
      exact ⟨pairs, hpairs⟩
    · rintro ⟨pairs, hpairs⟩
      exact ⟨_, pairs, hpairs, rfl⟩
  rw [hpairs, getList, exists_mapM_eq_ok]
  refine forall₂_congr fun pair _ => ?_
  simp only [bind_eq_ok, pure_eq_ok]
  constructor
  · rintro ⟨_, key, hkey, value, hvalue, -⟩
    exact ⟨⟨key, hkey⟩, value, hvalue⟩
  · rintro ⟨⟨key, hkey⟩, value, hvalue⟩
    exact ⟨_, key, hkey, value, hvalue, rfl⟩

theorem exists_fromSerializationInfo_iff :
    (∃ mapping, CredentialAssetMapping.fromSerializationInfo si = .ok mapping) ↔
      IsMapping si := by
  simp only [CredentialAssetMapping.fromSerializationInfo, bind_eq_ok, getMember_eq_ok]
  constructor
  · rintro ⟨_, service, hservice, asset, hasset, protocol, hprotocol, port, hport, credential,
      hcredential, status, hstatus, member, hmember, map, hmap, -⟩
    refine ⟨?_, ⟨status, hstatus⟩, member, hmember, exists_getMap_iff.1 ⟨map, hmap⟩⟩
    simp only [textEntries, List.forall_mem_cons]
    exact ⟨⟨service, hservice⟩, ⟨asset, hasset⟩, ⟨protocol, hprotocol⟩, ⟨port, hport⟩,
      ⟨credential, hcredential⟩, by simp⟩
  · rintro ⟨htexts, ⟨status, hstatus⟩, member, hmember, hpairs⟩
    obtain ⟨map, hmap⟩ := exists_getMap_iff.2 hpairs
    simp only [textEntries, List.forall_mem_cons] at htexts
    obtain ⟨⟨service, hservice⟩, ⟨asset, hasset⟩, ⟨protocol, hprotocol⟩, ⟨port, hport⟩,
      ⟨credential, hcredential⟩, -⟩ := htexts
    exact ⟨_, service, hservice, asset, hasset, protocol, hprotocol, port, hport, credential,
      hcredential, status, hstatus, member, hmember, map, hmap, rfl⟩

end Read

/-! ### Requests that are answered without a description -/

namespace Command

/-- The parameters the handler of a command reads. -/
def parametersRead : Command → Nat
  | getAllMappings => 0
  | getMappings => 2
  | getMapping | removeMapping => 3
  | _ => 1

def takesTriple : Command → Bool
  | getMapping | removeMapping => true
  | _ => false

def takesMapping : Command → Bool
  | createMapping | updateMapping | updatePortMapping | updateCredentialMapping
  | updateStatusMapping | updateInfoMapping => true
  | _ => false

end Command

namespace CredentialAssetMappingServer

variable [Cxxtools]

/-- The first parameter is a JSON text, but not of a mapping. -/
def MalformedMapping (params : List String) : Prop :=
  ∃ json rest si, params = json :: rest ∧ Cxxtools.deserialize (strToBytes json) = .ok si ∧
    ¬ IsMapping si

/-- What a handler does not guard against. -/
def Unguarded (command : Command) (params : List String) : Prop :=
  command.takesTriple ∧ params.length = 2 ∨ command.takesMapping ∧ MalformedMapping params

theorem receiveMapping_error {params : List String} {e : Exn}
    (herror : receiveMapping params = .error e) :
    (∃ exception, e = .cam exception) ∨ MalformedMapping params := by
  cases params with
  | nil =>
      obtain rfl := Except.error.inj herror
      exact .inl ⟨_, rfl⟩
  | cons json rest =>
      simp only [receiveMapping, deserialize] at herror
      cases hjson : Cxxtools.deserialize (strToBytes json) with
      | error what =>
          rw [hjson] at herror
          obtain rfl := Except.error.inj herror
          exact .inl ⟨_, rfl⟩
      | ok si =>
          refine .inr ⟨json, rest, si, rfl, hjson, ?_⟩
          rw [← exists_fromSerializationInfo_iff]
          rintro ⟨mapping, hmapping⟩
          rw [hjson] at herror
          change liftStd (CredentialAssetMapping.fromSerializationInfo si) = _ at herror
          rw [hmapping] at herror
          cases herror

theorem receiveMapping_malformed {params : List String} (hmalformed : MalformedMapping params) :
    ∃ what, receiveMapping params = .error (.std what) := by
  obtain ⟨json, rest, si, rfl, hjson, hsi⟩ := hmalformed
  rw [← exists_fromSerializationInfo_iff] at hsi
  simp only [receiveMapping, deserialize, hjson]
  change ∃ what, liftStd (CredentialAssetMapping.fromSerializationInfo si) = .error (.std what)
  cases hmapping : CredentialAssetMapping.fromSerializationInfo si with
  | ok mapping => exact absurd ⟨mapping, hmapping⟩ hsi
  | error what => exact ⟨what, rfl⟩

omit [Cxxtools] in
theorem receiveTriple_error {params : List String} {e : Exn}
    (herror : receiveTriple params = .error e) :
    (∃ exception, e = .cam exception) ∨ params.length = 2 := by
  unfold receiveTriple at herror
  split at herror
  · cases herror
  · exact .inr rfl
  · obtain rfl := Except.error.inj herror
    exact .inl ⟨_, rfl⟩

/-! ### What the handlers throw -/

section Handlers

/-- A result that is not the mark of an error, or an exception of the mapping if it is guarded. -/
def Describes (command : Command) (params : List String)
    (act : Effect Exn CredentialAssetMappingServer String) : Prop :=
  ∀ server, Ensures act server (fun result _ => result ≠ "ERROR")
    fun e _ => (∃ exception, e = .cam exception) ∨ Unguarded command params

variable {command : Command} {params : List String}

theorem describes_bind_receiveMapping (htakes : command.takesMapping = true)
    {next : CredentialAssetMapping → Effect Exn CredentialAssetMappingServer String}
    (hnext : ∀ mapping, Describes command params (next mapping)) :
    Describes command params (liftM (receiveMapping params) >>= next) := by
  intro server
  rw [ensures_bind, ensures_liftM]
  refine ⟨fun mapping _ => hnext mapping server, fun e herror => ?_⟩
  exact (receiveMapping_error herror).imp_right fun hmalformed => .inr ⟨htakes, hmalformed⟩

theorem describes_bind_receiveTriple (htakes : command.takesTriple = true)
    {next : AssetId × ServiceId × Protocol → Effect Exn CredentialAssetMappingServer String}
    (hnext : ∀ triple, Describes command params (next triple)) :
    Describes command params (liftM (receiveTriple params) >>= next) := by
  intro server
  rw [ensures_bind, ensures_liftM]
  refine ⟨fun triple _ => hnext triple server, fun e herror => ?_⟩
  exact (receiveTriple_error herror).imp_right fun hlength => .inl ⟨htakes, hlength⟩

theorem describes_store (mapping : CredentialAssetMapping) :
    Describes command params (do
      onStorage (CredentialAssetMappingStorage.setMapping mapping)
      onStorage CredentialAssetMappingStorage.save
      return "") := by
  intro server
  rw [ensures_bind, onStorage, ensures_zoom, Ensures, CredentialAssetMappingStorage.setMapping_exec]
  by_cases hfilled : mapping.triple.Filled
  · rw [if_pos hfilled]
    change "" ≠ "ERROR"
    decide
  · rw [if_neg hfilled]
    exact .inl ⟨_, rfl⟩

theorem describes_throw (exception : CamException) :
    Describes command params (throw (.cam exception)) :=
  fun _ => .inl ⟨exception, rfl⟩

theorem describes_bind_get
    {next : CredentialAssetMappingServer → Effect Exn CredentialAssetMappingServer String}
    (hnext : ∀ server, Describes command params (next server)) :
    Describes command params (get >>= next) := by
  intro server
  rw [ensures_bind, ensures_get]
  exact hnext server server

theorem describes_bind_getMapping (storage : CredentialAssetMappingStorage) (asset : AssetId)
    (service : ServiceId) (protocol : Protocol)
    {next : CredentialAssetMapping → Effect Exn CredentialAssetMappingServer String}
    (hnext : ∀ mapping, Describes command params (next mapping)) :
    Describes command params (liftM (storage.getMapping asset service protocol) >>= next) := by
  intro server
  rw [ensures_bind, ensures_liftM]
  refine ⟨fun mapping _ => hnext mapping server, fun e herror => ?_⟩
  unfold CredentialAssetMappingStorage.getMapping at herror
  split at herror
  · cases herror
  · obtain rfl := Except.error.inj herror
    exact .inl ⟨_, rfl⟩

theorem describes_serialize [CxxtoolsTexts] (si : SerializationInfo) :
    Describes command params (return serialize si) :=
  fun _ => CxxtoolsTexts.serialize_ne_error false si

theorem describes_removeMapping (asset : AssetId) (service : ServiceId) (protocol : Protocol) :
    Describes command params (do
      onStorage (CredentialAssetMappingStorage.removeMapping asset service protocol)
      onStorage CredentialAssetMappingStorage.save
      return "") := by
  intro server
  rw [ensures_bind, onStorage, ensures_zoom, CredentialAssetMappingStorage.removeMapping,
    ensures_bind, ensures_get, ensures_bind, ensures_modify]
  split
  · exact .inl ⟨_, rfl⟩
  · change "" ≠ "ERROR"
    decide

theorem describes_updateField (htakes : command.takesMapping = true)
    (update : (existing received : CredentialAssetMapping) → CredentialAssetMapping)
    (sender : Sender) : Describes command params (handleUpdateField update sender params) := by
  apply describes_bind_receiveMapping htakes
  intro received
  apply describes_bind_get
  intro server
  apply describes_bind_getMapping
  intro existing
  exact describes_store (update existing received)

/-- Every handler throws exceptions of the mapping only, unless it reads what it does not guard. -/
theorem handler_describes [CxxtoolsTexts] (sender : Sender) :
    Describes command params (handler command sender params) := by
  cases command with
  | createMapping =>
      apply describes_bind_receiveMapping rfl
      intro mapping
      apply describes_bind_get
      intro server
      split
      · exact describes_throw _
      · exact describes_store mapping
  | updateMapping =>
      apply describes_bind_receiveMapping rfl
      intro mapping
      apply describes_bind_get
      intro server
      split
      · exact describes_throw _
      · exact describes_store mapping
  | updatePortMapping | updateCredentialMapping | updateStatusMapping | updateInfoMapping =>
      exact describes_updateField rfl _ sender
  | getMapping =>
      apply describes_bind_receiveTriple rfl
      rintro ⟨asset, service, protocol⟩
      apply describes_bind_get
      intro server
      apply describes_bind_getMapping
      intro mapping
      exact describes_serialize _
  | removeMapping =>
      apply describes_bind_receiveTriple rfl
      rintro ⟨asset, service, protocol⟩
      exact describes_removeMapping asset service protocol
  | getAllMappings => exact describes_bind_get fun server => describes_serialize _
  | getAssetMappings | getCredMappings | countCredMappings =>
      cases params with
      | nil => exact describes_throw _
      | cons param rest => exact describes_bind_get fun server => describes_serialize _
  | getMappings =>
      change Describes _ params (handleGetMappings sender params)
      unfold handleGetMappings
      split
      · exact describes_bind_get fun server => describes_serialize _
      · exact describes_throw _

end Handlers

/-- What is not guarded is answered with no description. -/
theorem handler_unguarded {command : Command} {params : List String}
    (hunguarded : Unguarded command params) (sender : Sender)
    (server : CredentialAssetMappingServer) :
    ∃ what, (handler command sender params).exec server = (.error (.std what), server) := by
  rcases hunguarded with ⟨htakes, hlength⟩ | ⟨htakes, hmalformed⟩
  · obtain ⟨asset, service, rfl⟩ := List.length_eq_two.1 hlength
    cases command with
    | getMapping | removeMapping => exact ⟨_, rfl⟩
    | _ => cases htakes
  · obtain ⟨what, hwhat⟩ := receiveMapping_malformed hmalformed
    refine ⟨what, ?_⟩
    cases command with
    | createMapping | updateMapping | updatePortMapping | updateCredentialMapping
    | updateStatusMapping | updateInfoMapping =>
        exact exec_bind_error (by rw [exec_liftM, hwhat]) _
    | _ => cases htakes

/-- Missing parameters are told, except the last of a triple. -/
theorem handler_missing {command : Command} {params : List String}
    (hmissing : params.length < command.parametersRead) (hguarded : ¬ Unguarded command params)
    (sender : Sender) (server : CredentialAssetMappingServer) :
    ∃ reason, (handler command sender params).exec server =
      (.error (.cam (camBadCommandArgumentException "" reason)), server) := by
  match params with
  | [] =>
      cases command with
      | getAllMappings => cases hmissing
      | _ => exact ⟨_, rfl⟩
  | [param] =>
      cases command with
      | getMapping | removeMapping | getMappings => exact ⟨_, rfl⟩
      | _ => simp [Command.parametersRead] at hmissing
  | [first, second] =>
      cases command with
      | getMapping | removeMapping => exact absurd (.inl ⟨rfl, rfl⟩) hguarded
      | _ => simp [Command.parametersRead] at hmissing
  | _ :: _ :: _ :: rest =>
      cases command <;> simp [Command.parametersRead] at hmissing <;> omega

/-! ### Replies -/

/-- The second frame of the reply describes the exception. -/
def Describing (exception : CamException) (frames : List String) : Prop :=
  frames = ["ERROR", exception.toJson]

/--
An error is described by an exception of the mapping; it is one of a bad argument if parameters are
missing, and there is one if a mapping is malformed.
-/
structure ErrorsTyped (request : Request) (frames : List String) : Prop where
  described : frames.head? = some "ERROR" →
    ∃ exception : CamException, frames[1]? = some exception.toJson
  missing : ∀ command params, request.payload = Command.name command :: params →
    params.length < command.parametersRead →
      ∃ argument reason, Describing (camBadCommandArgumentException argument reason) frames
  malformed : ∀ command params, request.payload = Command.name command :: params →
    command.takesMapping = true → MalformedMapping params →
      ∃ exception, Describing exception frames

variable [CxxtoolsTexts]

theorem processRequest_describes (request : Request) (server : CredentialAssetMappingServer) :
    Ensures (processRequest request) server (fun frames _ => frames.head? ≠ some "ERROR")
      fun e _ => (∃ exception, e = .cam exception) ∨
        ∃ command params, request.payload = Command.name command :: params ∧
          Unguarded command params := by
  unfold processRequest
  split
  · exact .inl ⟨_, rfl⟩
  · next cmd params hpayload =>
      split
      · exact nofun
      · split
        · exact .inl ⟨_, rfl⟩
        · next command hcommand =>
            rw [← Command.name_of_ofName? hcommand] at hpayload
            rw [ensures_bind]
            refine (handler_describes request.sender server).imp ?_ ?_
            · intro result next hresult
              rw [ensures_pure, List.head?_cons]
              exact fun hhead => hresult (Option.some.inj hhead)
            · rintro e next (hexception | hunguarded)
              · exact .inl hexception
              · exact .inr ⟨command, params, hpayload, hunguarded⟩

/--
The errors of a request are typed exactly if it is no command on a triple with two parameters, nor
one on a mapping with the JSON text of something else.
-/
theorem errors_are_typed_iff (request : Request) (server : CredentialAssetMappingServer) :
    ErrorsTyped request (handleRequest request server).1 ↔
      ∀ command params, request.payload = Command.name command :: params →
        ¬ Unguarded command params := by
  obtain ⟨sender, payload⟩ := request
  constructor
  · rintro ⟨hdescribed, -, -⟩ command params hpayload hunguarded
    dsimp only at hpayload
    subst hpayload
    obtain ⟨what, hexec⟩ := handler_unguarded hunguarded sender server
    obtain ⟨exception, hjson⟩ := hdescribed (by rw [handleRequest_of_error hexec]; rfl)
    rw [handleRequest_of_error hexec] at hjson
    exact CxxtoolsTexts.serialize_ne_empty true exception.toSerializationInfo
      (Option.some.inj hjson).symm
  · intro hguarded
    constructor
    · intro hhead
      have hensures := processRequest_describes ⟨sender, payload⟩ server
      unfold Ensures at hensures
      unfold handleRequest at hhead ⊢
      split at hensures
      · next hexec =>
          rw [hexec] at hhead
          exact absurd hhead hensures
      · next hexec =>
          rw [hexec]
          rcases hensures with ⟨exception, rfl⟩ | ⟨command, params, hpayload, hunguarded⟩
          · exact ⟨exception, rfl⟩
          · exact absurd hunguarded (hguarded command params hpayload)
    · rintro command params hpayload hmissing
      dsimp only at hpayload
      subst hpayload
      obtain ⟨reason, hexec⟩ := handler_missing hmissing (hguarded command params rfl) sender server
      exact ⟨"", reason, by rw [handleRequest_of_error hexec]; rfl⟩
    · intro command params hpayload htakes hmalformed
      exact absurd (.inr ⟨htakes, hmalformed⟩) (hguarded command params hpayload)

end CredentialAssetMappingServer

/-! ### A triple without its protocol -/

open scoped Secw.Reference

/-- A request that leaves out the protocol is answered with an error that is not described. -/
theorem errors_of_two_parameters :
    ¬ ∀ (request : CredentialAssetMappingServer.Request) (server : CredentialAssetMappingServer),
      CredentialAssetMappingServer.ErrorsTyped request
        (CredentialAssetMappingServer.handleRequest request server).1 := by
  intro htyped
  obtain ⟨-, hmissing, -⟩ := htyped ⟨"client", ["GET_MAPPING", "asset", "service"]⟩ {}
  obtain ⟨argument, reason, hframes⟩ := hmissing .getMapping ["asset", "service"] rfl (by decide)
  have hempty : "" = (camBadCommandArgumentException argument reason).toJson :=
    congrArg (fun frames => frames.getD 1 "") hframes
  exact CxxtoolsTexts.serialize_ne_empty true _ hempty.symm

/-- A request that leaves out the service too is answered with a described error. -/
theorem errors_of_one_parameter :
    CredentialAssetMappingServer.ErrorsTyped ⟨"client", ["GET_MAPPING", "asset"]⟩
      (CredentialAssetMappingServer.handleRequest ⟨"client", ["GET_MAPPING", "asset"]⟩ {}).1 := by
  rw [CredentialAssetMappingServer.errors_are_typed_iff]
  intro command params hpayload
  obtain ⟨hname, rfl⟩ := List.cons.inj hpayload
  have hcommand : command = .getMapping := by
    cases command <;> first | rfl | exact absurd hname (by decide)
  subst hcommand
  rintro (⟨-, hlength⟩ | ⟨htakes, -⟩)
  · exact absurd hlength (by decide)
  · exact absurd htakes (by decide)

end Cam
