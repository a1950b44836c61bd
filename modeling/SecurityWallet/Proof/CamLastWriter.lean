import SecurityWallet.Proof.CamAccessor
import SecurityWallet.Proof.CamPersistence

/-!
# Clients that update different fields

Clients update the fields of one mapping and read what they like, in any order. Each field ends as
the last call that is about it left it, where a new port and a new credential are also about the
status.
-/

open Foundation SerializationInfo Effect

namespace Cam

namespace Accessor

variable [Cxxtools]

variable [LawfulCxxtools]

/-! ### Updates of one mapping -/

/-- The calls that update a mapping, with the values they carry. -/
inductive Update where
  | port (port : Port)
  | credentialId (credentialId : CredentialId)
  | status (status : Status)
  | extendedInfo (extendedInfo : MapExtendedInfo)
  | mapping (port : Port) (credentialId : CredentialId) (status : Status)
      (extendedInfo : MapExtendedInfo)

namespace Update

/-- The call, addressed to a triple. -/
def perform (client : Sender) : Triple → Update → Call Unit
  | (asset, service, protocol), .port value => updatePort client asset service protocol value
  | (asset, service, protocol), .credentialId value =>
      updateCredentialId client asset service protocol value
  | (asset, service, protocol), .status value => updateStatus client asset service protocol value
  | (asset, service, protocol), .extendedInfo value =>
      updateExtendedInfo client asset service protocol value
  | (asset, service, protocol), .mapping newPort newCredentialId newStatus newInfo =>
      updateMapping client
        { assetId := asset, serviceId := service, protocol, port := newPort,
          credentialId := newCredentialId, status := newStatus, extendedInfo := newInfo }

/-! What a call leaves in each field, if it is about the field. -/

def port? : Update → Option Port
  | .port value | .mapping value _ _ _ => some value
  | _ => none

def credentialId? : Update → Option CredentialId
  | .credentialId value | .mapping _ value _ _ => some value
  | _ => none

def status? : Update → Option Status
  | .port _ | .credentialId _ => some Status.unknown
  | .status value | .mapping _ _ value _ => some value
  | .extendedInfo _ => none

def extendedInfo? : Update → Option MapExtendedInfo
  | .extendedInfo value | .mapping _ _ _ value => some value
  | _ => none

def write (update : Update) (existing : CredentialAssetMapping) : CredentialAssetMapping :=
  { existing with
    port := update.port?.getD existing.port
    credentialId := update.credentialId?.getD existing.credentialId
    status := update.status?.getD existing.status
    extendedInfo := update.extendedInfo?.getD existing.extendedInfo }

end Update

omit [LawfulCxxtools] in
open CredentialAssetMappingServer in
theorem sendMapping_exec {client : Sender} {command : Command} {received : CredentialAssetMapping}
    {operation : Operation} {existing written : CredentialAssetMapping}
    (hresponds : Responds command [serialize (received.fillSerializationInfo .null)] operation)
    (hrespond : operation.respond (some existing) = (.done, some written))
    (hfilled : existing.triple.Filled) (htriple : existing.triple = operation.triple)
    {server : CredentialAssetMappingServer} (hfound : Finds server operation.triple (some existing)) :
    ∃ next, (sendMapping client command received).exec server = (.ok (), next) ∧
      Writes server operation.triple (some written) next := by
  obtain ⟨next, hexec, hwrites⟩ := hresponds client server (some existing) hfound (by
    rintro _ ⟨⟩
    exact ⟨hfilled, congrArg Triple.hash htriple⟩)
  rw [hrespond] at hexec hwrites
  refine ⟨next, ?_, hwrites⟩
  rw [sendMapping, exec_bind_ok (sendCommand_of_ok hexec (by decide))]
  rfl

open CredentialAssetMappingServer in
/-- An update of a mapping that is there returns, and changes that mapping only. -/
theorem Update.perform_exec (client : Sender) (update : Update) {existing : CredentialAssetMapping}
    (hfilled : existing.triple.Filled) {server : CredentialAssetMappingServer}
    (hfound : Finds server existing.triple (some existing)) :
    ∃ next, (update.perform client existing.triple).exec server = (.ok (), next) ∧
      Writes server existing.triple (some (update.write existing)) next := by
  have hfield : ∀ (field : Field) received, received.triple = existing.triple →
      field.write existing received = update.write existing →
      ∃ next, (sendMapping client field.command received).exec server = (.ok (), next) ∧
        Writes server existing.triple (some (update.write existing)) next := by
    intro field received htriple hwrite
    have hresponds := responds_updateField field (receiveMapping_serialize received [])
    have hoperation : (Operation.updateField field received).triple = existing.triple := htriple
    rw [← hoperation] at hfound ⊢
    exact sendMapping_exec hresponds (by rw [Operation.respond, hwrite]) hfilled hoperation.symm
      hfound
  cases update with
  | port value =>
      exact hfield .port { existing with
        port := value, credentialId := "", status := Status.unknown, extendedInfo := ∅ } rfl rfl
  | credentialId value =>
      exact hfield .credential { existing with
        port := "", credentialId := value, status := Status.unknown, extendedInfo := ∅ } rfl rfl
  | status value =>
      exact hfield .status { existing with
        port := "", credentialId := "", status := value, extendedInfo := ∅ } rfl rfl
  | extendedInfo value =>
      exact hfield .info { existing with
        port := "", credentialId := "", status := Status.unknown, extendedInfo := value } rfl rfl
  | mapping newPort newCredentialId newStatus newInfo =>
      have hresponds := responds_update (receiveMapping_serialize
        ((Update.mapping newPort newCredentialId newStatus newInfo).write existing) []) hfilled
      exact sendMapping_exec hresponds rfl hfilled rfl hfound

/-! ### Calls in any order -/

/-- The calls that read. -/
inductive Read where
  | getMapping (assetId : AssetId) (serviceId : ServiceId) (protocol : Protocol)
  | isMappingExisting (assetId : AssetId) (serviceId : ServiceId) (protocol : Protocol)
  | getAssetMappings (assetId : AssetId)
  | getMappings (assetId : AssetId) (serviceId : ServiceId)
  | getAllMappings
  | getCredentialMappings (credentialId : CredentialId)
  | countCredentialMappingsForCredential (credentialId : CredentialId)
  | getAllCredentialCounter

section Events

variable [CxxtoolsTexts] [CxxtoolsClient] [LawfulCxxtoolsClient]

namespace Read

/-- The call, without what it returns. -/
def perform (client : Sender) : Read → Call Unit
  | .getMapping assetId serviceId protocol => do
      let _ ← Accessor.getMapping client assetId serviceId protocol
  | .isMappingExisting assetId serviceId protocol => do
      let _ ← Accessor.isMappingExisting client assetId serviceId protocol
  | .getAssetMappings assetId => do
      let _ ← Accessor.getAssetMappings client assetId
  | .getMappings assetId serviceId => do
      let _ ← Accessor.getMappings client assetId serviceId
  | .getAllMappings => do
      let _ ← Accessor.getAllMappings client
  | .getCredentialMappings credentialId => do
      let _ ← Accessor.getCredentialMappings client credentialId
  | .countCredentialMappingsForCredential credentialId => do
      let _ ← Accessor.countCredentialMappingsForCredential client credentialId
  | .getAllCredentialCounter => do
      let _ ← Accessor.getAllCredentialCounter client

/-- How the call ends: only a mapping that is missing is an error. -/
def outcome (server : CredentialAssetMappingServer) : Read → Except Exn Unit
  | .getMapping assetId serviceId protocol =>
      if server.activeMapping.isMappingExisting assetId serviceId protocol then
        return
      else
        throw (.cam (camMappingDoesNotExistException assetId serviceId protocol))
  | _ => return

theorem perform_exec (client : Sender) (read : Read) (server : CredentialAssetMappingServer) :
    (read.perform client).exec server = (read.outcome server, server) := by
  cases read with
  | getMapping assetId serviceId protocol =>
      rw [perform, exec_bind, getMapping_exec, outcome,
        CredentialAssetMappingStorage.isMappingExisting, StdMap.contains_eq_isSome,
        CredentialAssetMappingStorage.getMapping]
      cases server.activeMapping.mappings[
        CredentialAssetMappingStorage.computeHash assetId serviceId protocol]? <;> rfl
  | isMappingExisting assetId serviceId protocol =>
      rw [perform, exec_bind_ok (isMappingExisting_exec client server assetId serviceId protocol)]
      rfl
  | getAssetMappings assetId =>
      rw [perform, exec_bind_ok (getAssetMappings_exec client server assetId)]
      rfl
  | getMappings assetId serviceId =>
      rw [perform, exec_bind_ok (getMappings_exec client server assetId serviceId)]
      rfl
  | getAllMappings =>
      rw [perform, exec_bind_ok (getAllMappings_exec client server)]
      rfl
  | getCredentialMappings credentialId =>
      rw [perform, exec_bind_ok (getCredentialMappings_exec client server credentialId)]
      rfl
  | countCredentialMappingsForCredential credentialId =>
      rw [perform,
        exec_bind_ok (countCredentialMappingsForCredential_exec client server credentialId)]
      rfl
  | getAllCredentialCounter =>
      rw [perform, exec_bind_ok (getAllCredentialCounter_exec client server)]
      rfl

end Read

/-- A call of some client: an update of the mapping, or whatever it reads. -/
inductive Event where
  | update (client : Sender) (update : Update)
  | read (client : Sender) (read : Read)

namespace Event

/-- A machine that takes the calls of the clients one by one. -/
def perform (triple : Triple) :
    Machine CredentialAssetMappingServer Event (Except Exn Unit)
  | .update client call => (call.perform client triple).exec
  | .read client call => (call.perform client).exec

def outcome (server : CredentialAssetMappingServer) : Event → Except Exn Unit
  | .update _ _ => return
  | .read _ call => call.outcome server

/-- What the call leaves in a field. -/
def written {α : Type} (field : Update → Option α) : Event → Option α
  | .update _ call => field call
  | .read _ _ => none

end Event

open CredentialAssetMappingServer

/-- The server holds a mapping of the triple, and the other mappings of `before`. -/
structure HoldsMapping (before : CredentialAssetMappingServer) (triple : Triple)
    (mapping : CredentialAssetMapping) (server : CredentialAssetMappingServer) : Prop where
  found : Finds server triple (some mapping)
  triple_eq : mapping.triple = triple
  other : ∀ hash : Hash, hash ≠ triple.hash →
    server.activeMapping.mappings[hash]? = before.activeMapping.mappings[hash]?

omit [Cxxtools] [LawfulCxxtools] [CxxtoolsTexts] [CxxtoolsClient] [LawfulCxxtoolsClient] in
/-- Reading ends the same way as long as the keys stay the same. -/
theorem Event.outcome_eq {before server : CredentialAssetMappingServer} {triple : Triple}
    {mapping existing : CredentialAssetMapping}
    (hbefore : Finds before triple (some existing))
    (hholds : HoldsMapping before triple mapping server) (event : Event) :
    event.outcome server = event.outcome before := by
  have hexisting : ∀ assetId serviceId protocol,
      server.activeMapping.isMappingExisting assetId serviceId protocol =
        before.activeMapping.isMappingExisting assetId serviceId protocol := by
    intro assetId serviceId protocol
    simp only [CredentialAssetMappingStorage.isMappingExisting, StdMap.contains_eq_isSome]
    by_cases hhash :
        CredentialAssetMappingStorage.computeHash assetId serviceId protocol = triple.hash
    · have hfound := hholds.found
      unfold Finds at hfound hbefore
      rw [hhash, hfound, hbefore, Option.isSome_some, Option.isSome_some]
    · rw [hholds.other _ hhash]
  cases event with
  | update client call => rfl
  | read client call =>
      cases call with
      | getMapping assetId serviceId protocol =>
          simp only [outcome, Read.outcome, hexisting]
      | _ => rfl

theorem HoldsMapping.perform {before server : CredentialAssetMappingServer} {triple : Triple}
    {mapping : CredentialAssetMapping} (hfilled : triple.Filled)
    (hholds : HoldsMapping before triple mapping server) (event : Event) :
    (event.perform triple server).1 = event.outcome server ∧
      HoldsMapping before triple
        { mapping with
          port := (event.written Update.port?).getD mapping.port
          credentialId := (event.written Update.credentialId?).getD mapping.credentialId
          status := (event.written Update.status?).getD mapping.status
          extendedInfo := (event.written Update.extendedInfo?).getD mapping.extendedInfo }
        (event.perform triple server).2 := by
  obtain ⟨hfound, rfl, hother⟩ := hholds
  cases event with
  | update client call =>
      obtain ⟨next, hexec, hwrites⟩ := call.perform_exec client hfilled hfound
      rw [Event.perform, hexec]
      refine ⟨rfl, ?_, rfl, ?_⟩
      · exact (hwrites _).trans (if_pos rfl)
      · intro hash hhash
        rw [hwrites, if_neg hhash.symm, hother hash hhash]
  | read client call =>
      rw [Event.perform, call.perform_exec]
      exact ⟨rfl, hfound, rfl, hother⟩

/-- Each field has its last writer along a run. -/
theorem HoldsMapping.run {before server : CredentialAssetMappingServer} {triple : Triple}
    {mapping : CredentialAssetMapping} (hfilled : triple.Filled)
    (hholds : HoldsMapping before triple mapping server) (events : List Event) :
    HoldsMapping before triple
      { mapping with
        port := Machine.lastWrite (Event.written Update.port?) events mapping.port
        credentialId :=
          Machine.lastWrite (Event.written Update.credentialId?) events mapping.credentialId
        status := Machine.lastWrite (Event.written Update.status?) events mapping.status
        extendedInfo :=
          Machine.lastWrite (Event.written Update.extendedInfo?) events mapping.extendedInfo }
      (Machine.run (Event.perform triple) events server).2 := by
  induction events generalizing server mapping with
  | nil => exact hholds
  | cons event events ih =>
      simp only [Machine.lastWrite_cons]
      exact ih (hholds.perform hfilled event).2

/--
No update is lost. From every state of the server that has a mapping, through every list of calls of
any clients that update this mapping or read, in any order: every update returns, and every call
that reads does so too unless it gets a mapping that is missing; each field is as the last call that
writes it left it; and the other mappings are as they were.
-/
theorem no_lost_update (before : CredentialAssetMappingServer) (hreachable : Reachable before)
    (mapping : CredentialAssetMapping)
    (hstored : before.activeMapping.mappings[mapping.triple.hash]? = some mapping)
    (events : List Event) :
    (Machine.run (Event.perform mapping.triple) events before).1 =
        events.map (Event.outcome before) ∧
      (Machine.run (Event.perform mapping.triple) events before).2.activeMapping.mappings[
          mapping.triple.hash]? =
        some { mapping with
          port := Machine.lastWrite (Event.written Update.port?) events mapping.port
          credentialId :=
            Machine.lastWrite (Event.written Update.credentialId?) events mapping.credentialId
          status := Machine.lastWrite (Event.written Update.status?) events mapping.status
          extendedInfo :=
            Machine.lastWrite (Event.written Update.extendedInfo?) events mapping.extendedInfo } ∧
      ∀ hash : Hash, hash ≠ mapping.triple.hash →
        (Machine.run (Event.perform mapping.triple) events before).2.activeMapping.mappings[hash]? =
          before.activeMapping.mappings[hash]? := by
  obtain ⟨hfilled, -⟩ := hreachable.sound.keyed _ mapping hstored
  have hstart : HoldsMapping before mapping.triple mapping before := ⟨hstored, rfl, fun _ _ => rfl⟩
  have hend := hstart.run hfilled events
  refine ⟨?_, hend.found, hend.other⟩
  apply Machine.run_answers_eq_map
    (P := fun server => ∃ current, HoldsMapping before mapping.triple current server)
  · rintro event server ⟨current, hholds⟩
    obtain ⟨hanswer, hnext⟩ := hholds.perform hfilled event
    exact ⟨hanswer.trans (event.outcome_eq hstored hholds), _, hnext⟩
  · exact ⟨mapping, hstart⟩

end Events

end Accessor

/-! ### A mapping that is missing -/

open scoped Secw.Reference

def updatedMapping : CredentialAssetMapping :=
  { assetId := "asset", serviceId := "service", protocol := "protocol", port := "80" }

/-- A server whose one mapping a client has created. -/
def serverOfOne : CredentialAssetMappingServer :=
  CredentialAssetMappingServer.saved
    (Std.ExtTreeMap.insert ∅ updatedMapping.triple.hash updatedMapping)

theorem lookup_serverOfOne (hash : Hash) :
    serverOfOne.activeMapping.mappings[hash]? =
      if updatedMapping.triple.hash = hash then some updatedMapping else none := by
  rw [serverOfOne, CredentialAssetMappingServer.saved, StdMap.lookup_insert,
    Std.ExtTreeMap.getElem?_empty]

theorem reachable_serverOfOne : CredentialAssetMappingServer.Reachable serverOfOne := by
  have hfilled : updatedMapping.triple.Filled := by decide
  have habsent : (CredentialAssetMappingServer.saved ∅).Finds updatedMapping.triple none :=
    Std.ExtTreeMap.getElem?_empty
  have hcreate := CredentialAssetMappingServer.exec_create
    (receiveMapping_serialize updatedMapping []) hfilled habsent "client"
  refine ⟨none, (CredentialAssetMappingServer.saved ∅).activeMapping,
    [⟨"client", [Command.createMapping.name,
      serialize (updatedMapping.fillSerializationInfo .null)]⟩], rfl, ?_⟩
  rw [Machine.run_cons, Machine.run_nil, CredentialAssetMappingServer.handleRequest_of_ok hcreate]
  rfl

/-- A client that gets a mapping that is missing is told so. -/
theorem missing_mapping_is_told :
    ¬ ∀ (before : CredentialAssetMappingServer) (mapping : CredentialAssetMapping)
      (events : List Accessor.Event),
      CredentialAssetMappingServer.Reachable before →
      before.activeMapping.mappings[mapping.triple.hash]? = some mapping →
      ∀ result ∈ (Machine.run (Accessor.Event.perform mapping.triple) events before).1,
        result = .ok () := by
  intro hall
  have hread := hall serverOfOne updatedMapping
    [.read "client" (.getMapping "asset" "service" "other")] reachable_serverOfOne
    (lookup_serverOfOne _) _ List.mem_cons_self
  rw [Accessor.Event.perform, Accessor.Read.perform_exec, Accessor.Read.outcome,
    CredentialAssetMappingStorage.isMappingExisting, StdMap.contains_eq_isSome,
    lookup_serverOfOne] at hread
  cases hread

/-- An update of the port in between does not lose the credential. -/
theorem no_update_of_one_is_lost :
    (Machine.run (Accessor.Event.perform updatedMapping.triple)
        [.update "alice" (.credentialId "id"), .update "bob" (.port "443")]
        serverOfOne).2.activeMapping.mappings[updatedMapping.triple.hash]? =
      some { updatedMapping with credentialId := "id", port := "443" } :=
  (Accessor.no_lost_update serverOfOne reachable_serverOfOne updatedMapping
    (lookup_serverOfOne _) _).2.1

end Cam
