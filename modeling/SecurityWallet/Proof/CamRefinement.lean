import SecurityWallet.Proof.CamCodec
import SecurityWallet.Reference
import SecurityWallet.Foundation.HashedMap
import SecurityWallet.Foundation.Machine

/-!
# The store of the mappings as a map of triples

A client sees a map from an asset, a service and a protocol to a mapping. The server keeps its
mappings under one string made of the three. Both answer an operation from what they find under
their key, so they differ exactly where a key finds what is stored for another triple.
-/

open Foundation SerializationInfo Effect

namespace Cam

/-! ### The map a client sees -/

abbrev Triple := AssetId × ServiceId × Protocol

namespace Triple

def Filled : Triple → Prop
  | (asset, service, protocol) => asset ≠ "" ∧ service ≠ "" ∧ protocol ≠ ""

instance (triple : Triple) : Decidable triple.Filled :=
  inferInstanceAs (Decidable (triple.1 ≠ "" ∧ triple.2.1 ≠ "" ∧ triple.2.2 ≠ ""))

def hash : Triple → Hash
  | (asset, service, protocol) =>
      CredentialAssetMappingStorage.computeHash asset service protocol

end Triple

def CredentialAssetMapping.triple (mapping : CredentialAssetMapping) : Triple :=
  (mapping.assetId, mapping.serviceId, mapping.protocol)

inductive Field where
  | port
  | credential
  | status
  | info
deriving DecidableEq, Repr

inductive Operation where
  | create (mapping : CredentialAssetMapping)
  | get (triple : Triple)
  | update (mapping : CredentialAssetMapping)
  | updateField (field : Field) (received : CredentialAssetMapping)
  | remove (triple : Triple)

/-- What a client is told. -/
inductive Answer where
  | done
  | found (mapping : CredentialAssetMapping)
  | alreadyExists (triple : Triple)
  | doesNotExist (triple : Triple)

namespace Field

def command : Field → Command
  | port => .updatePortMapping
  | credential => .updateCredentialMapping
  | status => .updateStatusMapping
  | info => .updateInfoMapping

/-- The existing mapping with the field of the received one. -/
def write : Field → (existing received : CredentialAssetMapping) → CredentialAssetMapping
  | port => CredentialAssetMappingServer.updatePort
  | credential => CredentialAssetMappingServer.updateCredential
  | status => CredentialAssetMappingServer.updateStatus
  | info => CredentialAssetMappingServer.updateInfo

@[simp]
theorem triple_write (field : Field) (existing received : CredentialAssetMapping) :
    (field.write existing received).triple = existing.triple := by
  cases field <;> rfl

end Field

namespace Operation

def triple : Operation → Triple
  | create mapping | update mapping | updateField _ mapping => mapping.triple
  | get triple | remove triple => triple

/-- The answer, and the mapping that is then stored, from the mapping that was. -/
def respond : Operation → Option CredentialAssetMapping → Answer × Option CredentialAssetMapping
  | create mapping, none => (.done, some mapping)
  | create mapping, some existing => (.alreadyExists mapping.triple, some existing)
  | get _, some existing => (.found existing, some existing)
  | update mapping, some _ => (.done, some mapping)
  | updateField field received, some existing => (.done, some (field.write existing received))
  | remove _, some _ => (.done, none)
  | operation, none => (.doesNotExist operation.triple, none)

/-- What is stored under a triple is a mapping of that triple. -/
theorem triple_of_respond {operation : Operation} {found : Option CredentialAssetMapping}
    (hfound : ∀ existing, found = some existing → existing.triple = operation.triple) :
    ∀ mapping, (operation.respond found).2 = some mapping → mapping.triple = operation.triple := by
  cases found with
  | none => cases operation <;> simp [respond, triple]
  | some existing =>
      have hexisting := hfound existing rfl
      cases operation <;> simp_all [respond, triple]

/-- The map a client sees: an operation is about its own triple and no other. -/
def step : Machine (Triple → Option CredentialAssetMapping) Operation Answer :=
  fun operation store =>
    ((operation.respond (store operation.triple)).1,
      Function.update store operation.triple (operation.respond (store operation.triple)).2)

theorem step_other (operation : Operation) (store : Triple → Option CredentialAssetMapping)
    {triple : Triple} (hother : triple ≠ operation.triple) :
    (step operation store).2 triple = store triple :=
  Function.update_of_ne hother _ _

end Operation

/-! ### The requests for the operations -/

section Refinement

variable [Cxxtools]

/-- The frames of a payload ask for the operation. -/
inductive Decodes : List String → Operation → Prop where
  | create {params : List String} {mapping : CredentialAssetMapping}
      (hmapping : CredentialAssetMappingServer.receiveMapping params = .ok mapping) :
      Decodes (Command.createMapping.name :: params) (.create mapping)
  | get {params : List String} {triple : Triple}
      (htriple : CredentialAssetMappingServer.receiveTriple params = .ok triple) :
      Decodes (Command.getMapping.name :: params) (.get triple)
  | update {params : List String} {mapping : CredentialAssetMapping}
      (hmapping : CredentialAssetMappingServer.receiveMapping params = .ok mapping) :
      Decodes (Command.updateMapping.name :: params) (.update mapping)
  | updateField {params : List String} {received : CredentialAssetMapping} (field : Field)
      (hreceived : CredentialAssetMappingServer.receiveMapping params = .ok received) :
      Decodes (field.command.name :: params) (.updateField field received)
  | remove {params : List String} {triple : Triple}
      (htriple : CredentialAssetMappingServer.receiveTriple params = .ok triple) :
      Decodes (Command.removeMapping.name :: params) (.remove triple)

/-- A request for an operation whose parameters are well formed. -/
structure WellFormedRequest where
  request : CredentialAssetMappingServer.Request
  operation : Operation
  decodes : Decodes request.payload operation
  filled : operation.triple.Filled

/-- What a handler ends with to give the answer. -/
def Answer.result : Answer → Except Exn String
  | done => .ok ""
  | found mapping => .ok (serialize (mapping.fillSerializationInfo .null))
  | alreadyExists (asset, service, protocol) =>
      .error (.cam (camMappingAlreadyExistsException asset service protocol))
  | doesNotExist (asset, service, protocol) =>
      .error (.cam (camMappingDoesNotExistException asset service protocol))

/-- The reply that tells a client the answer. -/
def Answer.frames (answer : Answer) : List String :=
  match answer.result with
  | .ok result => [result]
  | .error e => CredentialAssetMappingServer.errorReply e

/-- Whether the key is taken can be told from the reply. -/
theorem Operation.frames_respond_ne (operation : Operation) (existing : CredentialAssetMapping) :
    (operation.respond none).1.frames ≠ (operation.respond (some existing)).1.frames := by
  cases operation <;>
    simp [respond, Answer.frames, Answer.result, CredentialAssetMappingServer.errorReply]

omit [Cxxtools] in
theorem CredentialAssetMappingStorage.setMapping_exec (mapping : CredentialAssetMapping)
    (storage : CredentialAssetMappingStorage) :
    (setMapping mapping).exec storage =
      if mapping.triple.Filled then
        (.ok (), { storage with
          mappings := storage.mappings.insert mapping.triple.hash mapping })
      else (.error (.cam (.generic "Bad format")), storage) := by
  have hfilled : (mapping.assetId.isEmpty ∨ mapping.serviceId.isEmpty ∨ mapping.protocol.isEmpty) ↔
      ¬ mapping.triple.Filled := by
    simp only [CredentialAssetMapping.triple, Triple.Filled, String.isEmpty_iff]
    tauto
  unfold setMapping
  by_cases hempty : mapping.triple.Filled
  · rw [if_pos hempty, if_neg (by rwa [hfilled, not_not])]
    rfl
  · rw [if_neg hempty, if_pos (hfilled.2 hempty)]
    rfl

namespace CredentialAssetMappingServer

theorem processRequest_name (sender : Sender) (command : Command) (params : List String) :
    processRequest ⟨sender, command.name :: params⟩ =
      handler command sender params >>= fun result => return [result] := by
  have hname : ¬ (command.name = "ERROR" ∨ command.name = "OK") := by
    cases command <;> decide
  simp only [processRequest, if_neg hname, Command.ofName?_name]

section Replies

variable {sender : Sender} {command : Command} {params : List String}
  {server next : CredentialAssetMappingServer}

theorem handleRequest_of_ok {result : String}
    (hexec : (handler command sender params).exec server = (.ok result, next)) :
    handleRequest ⟨sender, command.name :: params⟩ server = ([result], next) := by
  rw [handleRequest, processRequest_name, exec_bind_ok hexec]
  rfl

theorem handleRequest_of_error {e : Exn}
    (hexec : (handler command sender params).exec server = (.error e, next)) :
    handleRequest ⟨sender, command.name :: params⟩ server = (errorReply e, next) := by
  rw [handleRequest, processRequest_name, exec_bind_error hexec]

end Replies

/-- The server that has stored and saved the mappings. -/
def saved (mappings : StdMap Hash CredentialAssetMapping) : CredentialAssetMappingServer where
  activeMapping :=
    { mappings
      database := some (Cxxtools.serialize true
        (CredentialAssetMappingStorage.databaseTree mappings)) }

/-- What the handlers that store a mapping do once they have it. -/
theorem exec_store {mapping : CredentialAssetMapping} (hfilled : mapping.triple.Filled)
    (server : CredentialAssetMappingServer) :
    (do
        onStorage (CredentialAssetMappingStorage.setMapping mapping)
        onStorage CredentialAssetMappingStorage.save
        return "" : Effect Exn CredentialAssetMappingServer String).exec server =
      (.ok "", saved (server.activeMapping.mappings.insert mapping.triple.hash mapping)) := by
  rw [onStorage, exec_bind, exec_zoom, CredentialAssetMappingStorage.setMapping_exec,
    if_pos hfilled]
  rfl

/-- The storage finds a mapping, or none, under the key of the triple. -/
def Finds (server : CredentialAssetMappingServer) (triple : Triple)
    (found : Option CredentialAssetMapping) : Prop :=
  server.activeMapping.mappings[triple.hash]? = found

/-- The storage changes at most under the key of the triple, where it then has the value. -/
def Writes (server : CredentialAssetMappingServer) (triple : Triple)
    (value : Option CredentialAssetMapping) (next : CredentialAssetMappingServer) : Prop :=
  ∀ hash : Hash, next.activeMapping.mappings[hash]? =
    if triple.hash = hash then value else server.activeMapping.mappings[hash]?

/-- The handler gives the answer of the operation to what is found under its key. -/
def Responds (command : Command) (params : List String) (operation : Operation) : Prop :=
  ∀ sender server found, Finds server operation.triple found →
    (∀ existing, found = some existing →
      existing.triple.Filled ∧ existing.triple.hash = operation.triple.hash) →
    ∃ next, (handler command sender params).exec server =
        ((operation.respond found).1.result, next) ∧
      Writes server operation.triple (operation.respond found).2 next

section Storage

variable {server : CredentialAssetMappingServer} {triple : Triple} {asset : AssetId}
  {service : ServiceId} {protocol : Protocol} {found : Option CredentialAssetMapping}

omit [Cxxtools] in
theorem Finds.isMappingExisting (hfound : Finds server (asset, service, protocol) found) :
    server.activeMapping.isMappingExisting asset service protocol = found.isSome := by
  rw [← hfound]
  exact StdMap.contains_eq_isSome _ _

omit [Cxxtools] in
theorem Finds.getMapping_some {existing : CredentialAssetMapping}
    (hfound : Finds server (asset, service, protocol) (some existing)) :
    server.activeMapping.getMapping asset service protocol = .ok existing := by
  rw [Finds, Triple.hash] at hfound
  rw [CredentialAssetMappingStorage.getMapping, hfound]

omit [Cxxtools] in
theorem Finds.getMapping_none (hfound : Finds server (asset, service, protocol) none) :
    server.activeMapping.getMapping asset service protocol =
      .error (.cam (camMappingDoesNotExistException asset service protocol)) := by
  rw [Finds, Triple.hash] at hfound
  rw [CredentialAssetMappingStorage.getMapping, hfound]

omit [Cxxtools] in
theorem Finds.writes (hfound : Finds server triple found) : Writes server triple found server := by
  intro hash
  split
  · next hhash => rw [← hhash, hfound]
  · rfl

theorem writes_insert (mapping : CredentialAssetMapping) :
    Writes server triple (some mapping)
      (saved (server.activeMapping.mappings.insert triple.hash mapping)) :=
  fun _ => StdMap.lookup_insert _ _ _ _

theorem writes_erase :
    Writes server triple none (saved (server.activeMapping.mappings.erase triple.hash)) :=
  StdMap.lookup_erase _ _

end Storage

variable {params : List String} {server : CredentialAssetMappingServer}

/-- A mapping that is not there is created. -/
theorem exec_create {mapping : CredentialAssetMapping}
    (hmapping : receiveMapping params = .ok mapping) (hfilled : mapping.triple.Filled)
    (habsent : Finds server mapping.triple none) (sender : Sender) :
    (handler .createMapping sender params).exec server =
      (.ok "", saved (server.activeMapping.mappings.insert mapping.triple.hash mapping)) := by
  have hexists := Finds.isMappingExisting habsent
  simp only [handler, handleCreateMapping, hmapping, exec_bind, exec_liftM, exec_get, hexists]
  exact exec_store hfilled server

theorem responds_create {mapping : CredentialAssetMapping}
    (hmapping : receiveMapping params = .ok mapping) (hfilled : mapping.triple.Filled) :
    Responds .createMapping params (.create mapping) := by
  intro sender server found hfound _
  cases found with
  | none => exact ⟨_, exec_create hmapping hfilled hfound sender, writes_insert mapping⟩
  | some existing =>
      have hexists := Finds.isMappingExisting hfound
      refine ⟨_, ?_, hfound.writes⟩
      simp only [handler, handleCreateMapping, hmapping, exec_bind, exec_liftM, exec_get, hexists]
      rfl

theorem responds_get {triple : Triple} (htriple : receiveTriple params = .ok triple) :
    Responds .getMapping params (.get triple) := by
  intro sender server found hfound _
  refine ⟨server, ?_, ?_⟩
  · cases found with
    | none =>
        simp only [handler, handleGetMapping, htriple, exec_bind, exec_liftM, exec_get,
          Finds.getMapping_none hfound]
        rfl
    | some existing =>
        simp only [handler, handleGetMapping, htriple, exec_bind, exec_liftM, exec_get,
          Finds.getMapping_some hfound]
        rfl
  · cases found <;> exact hfound.writes

theorem responds_update {mapping : CredentialAssetMapping}
    (hmapping : receiveMapping params = .ok mapping) (hfilled : mapping.triple.Filled) :
    Responds .updateMapping params (.update mapping) := by
  intro sender server found hfound _
  have hexists := Finds.isMappingExisting hfound
  cases found with
  | none =>
      refine ⟨_, ?_, hfound.writes⟩
      simp only [handler, handleUpdateMapping, hmapping, exec_bind, exec_liftM, exec_get, hexists]
      rfl
  | some existing =>
      refine ⟨_, ?_, writes_insert mapping⟩
      simp only [handler, handleUpdateMapping, hmapping, exec_bind, exec_liftM, exec_get, hexists]
      exact exec_store hfilled server

theorem handler_command (field : Field) :
    handler field.command = handleUpdateField field.write := by
  cases field <;> rfl

theorem responds_updateField (field : Field) {received : CredentialAssetMapping}
    (hreceived : receiveMapping params = .ok received) :
    Responds field.command params (.updateField field received) := by
  intro sender server found hfound hstored
  cases found with
  | none =>
      refine ⟨_, ?_, hfound.writes⟩
      simp only [handler_command, handleUpdateField, hreceived, exec_bind, exec_liftM, exec_get,
        Finds.getMapping_none hfound]
      rfl
  | some existing =>
      obtain ⟨hfilled, hhash⟩ := hstored existing rfl
      refine ⟨_, ?_, writes_insert (field.write existing received)⟩
      -- The written mapping keeps the triple of the existing one, which has the same key.
      have hfilled' : (field.write existing received).triple.Filled := by
        rwa [Field.triple_write]
      have hstore := exec_store hfilled' server
      rw [Field.triple_write, hhash] at hstore
      rw [handler_command, handleUpdateField, hreceived, exec_bind_ok (exec_liftM _ _),
        exec_bind_ok (exec_get _), Finds.getMapping_some hfound, exec_bind_ok (exec_liftM _ _)]
      exact hstore

theorem responds_remove {triple : Triple} (htriple : receiveTriple params = .ok triple) :
    Responds .removeMapping params (.remove triple) := by
  intro sender server found hfound _
  have hdeleted := Finds.isMappingExisting hfound
  rw [CredentialAssetMappingStorage.isMappingExisting] at hdeleted
  -- The key is erased before the test whether anything was there.
  cases found with
  | none =>
      refine ⟨⟨{ server.activeMapping with
        mappings := server.activeMapping.mappings.erase triple.hash }⟩, ?_, writes_erase⟩
      simp only [handler, handleRemoveMapping, htriple, onStorage,
        CredentialAssetMappingStorage.removeMapping, exec_bind, exec_liftM, exec_get, exec_zoom,
        exec_modify, hdeleted]
      rfl
  | some existing =>
      refine ⟨_, ?_, writes_erase⟩
      simp only [handler, handleRemoveMapping, htriple, onStorage,
        CredentialAssetMappingStorage.removeMapping, exec_bind, exec_liftM, exec_get, exec_zoom,
        exec_modify, hdeleted]
      rfl

end CredentialAssetMappingServer

/-- Every well-formed request is answered from what is found under the key of its triple. -/
theorem WellFormedRequest.responds (wellFormed : WellFormedRequest) :
    ∃ command params, wellFormed.request.payload = Command.name command :: params ∧
      CredentialAssetMappingServer.Responds command params wellFormed.operation := by
  obtain ⟨request, operation, hdecodes, hfilled⟩ := wellFormed
  dsimp only
  generalize request.payload = payload at hdecodes
  cases hdecodes with
  | create hmapping =>
      exact ⟨_, _, rfl, CredentialAssetMappingServer.responds_create hmapping hfilled⟩
  | get htriple => exact ⟨_, _, rfl, CredentialAssetMappingServer.responds_get htriple⟩
  | update hmapping =>
      exact ⟨_, _, rfl, CredentialAssetMappingServer.responds_update hmapping hfilled⟩
  | updateField field hreceived =>
      exact ⟨_, _, rfl, CredentialAssetMappingServer.responds_updateField field hreceived⟩
  | remove htriple => exact ⟨_, _, rfl, CredentialAssetMappingServer.responds_remove htriple⟩

/-! ### The refinement -/

/-- The server has the mappings of the map, each under the key of its triple. -/
structure Stores (store : Triple → Option CredentialAssetMapping)
    (server : CredentialAssetMappingServer) : Prop where
  hashed : HashedBy Triple.hash CredentialAssetMapping.triple store server.activeMapping.mappings
  filled : ∀ triple mapping, store triple = some mapping → triple.Filled

omit [Cxxtools] in
theorem stores_empty (database : Option String) :
    Stores (fun _ => none) { activeMapping := { database } } where
  hashed := HashedBy.empty
  filled := by rintro _ _ ⟨⟩

namespace WellFormedRequest

/-- The server that handles well-formed requests. -/
def handle : Machine CredentialAssetMappingServer WellFormedRequest (List String) :=
  fun wellFormed server => CredentialAssetMappingServer.handleRequest wellFormed.request server

/-- The same requests to the map a client sees. -/
def handleAbstract :
    Machine (Triple → Option CredentialAssetMapping) WellFormedRequest (List String) :=
  fun wellFormed store =>
    ((wellFormed.operation.step store).1.frames, (wellFormed.operation.step store).2)

variable {store : Triple → Option CredentialAssetMapping} {server : CredentialAssetMappingServer}
  {found : Option CredentialAssetMapping}

theorem handle_spec (wellFormed : WellFormedRequest) (hstores : Stores store server)
    (hfound : server.Finds wellFormed.operation.triple found) :
    (handle wellFormed server).1 = (wellFormed.operation.respond found).1.frames ∧
      server.Writes wellFormed.operation.triple (wellFormed.operation.respond found).2
        (handle wellFormed server).2 := by
  obtain ⟨command, params, hpayload, hresponds⟩ := wellFormed.responds
  obtain ⟨next, hexec, hwrites⟩ := hresponds wellFormed.request.sender server found hfound (by
    rintro existing rfl
    obtain ⟨hhash, hpresent⟩ := (hstores.hashed.lookup _ existing).1 hfound
    exact ⟨hstores.filled _ _ hpresent, hhash⟩)
  have hrequest : wellFormed.request = ⟨wellFormed.request.sender, command.name :: params⟩ := by
    rw [← hpayload]
  rw [handle, hrequest, Answer.frames]
  cases hresult : (wellFormed.operation.respond found).1.result with
  | ok result =>
      rw [hresult] at hexec
      rw [CredentialAssetMappingServer.handleRequest_of_ok hexec]
      exact ⟨rfl, hwrites⟩
  | error e =>
      rw [hresult] at hexec
      rw [CredentialAssetMappingServer.handleRequest_of_error hexec]
      exact ⟨rfl, hwrites⟩

/-- A request whose key is that of no other stored triple is answered as the map answers it. -/
theorem handle_agrees (wellFormed : WellFormedRequest) (hstores : Stores store server)
    (hfree : ¬ Collides Triple.hash store wellFormed.operation.triple) :
    (handleAbstract wellFormed store).1 = (handle wellFormed server).1 ∧
      Stores (handleAbstract wellFormed store).2 (handle wellFormed server).2 := by
  obtain ⟨hanswer, hwrites⟩ := handle_spec wellFormed hstores (hstores.hashed.lookup_eq hfree)
  have hkeyed := Operation.triple_of_respond fun existing hexisting =>
    hstores.hashed.keyed wellFormed.operation.triple existing hexisting
  refine ⟨hanswer.symm, hstores.hashed.update hfree hkeyed hwrites, ?_⟩
  intro triple mapping hmapping
  by_cases htriple : triple = wellFormed.operation.triple
  · rw [htriple]
    exact wellFormed.filled
  · rw [handleAbstract, Operation.step_other _ _ htriple] at hmapping
    exact hstores.filled triple mapping hmapping

/-- A request whose key is that of another stored triple is answered for that triple. -/
theorem handle_differs (wellFormed : WellFormedRequest) (hstores : Stores store server)
    (hcollides : Collides Triple.hash store wellFormed.operation.triple) :
    (handleAbstract wellFormed store).1 ≠ (handle wellFormed server).1 := by
  obtain ⟨habsent, existing, -, hfound⟩ := hstores.hashed.of_collides hcollides
  rw [(handle_spec wellFormed hstores hfound).1]
  have habstract : (handleAbstract wellFormed store).1 =
      (wellFormed.operation.respond none).1.frames := by
    rw [handleAbstract, Operation.step, habsent]
  rw [habstract]
  exact wellFormed.operation.frames_respond_ne existing

/--
From an empty store, the server gives the replies of the map of triples along a run exactly if no
request of the run is about a triple whose key is also that of another triple present in the map.
-/
theorem replies_eq_iff (requests : List WellFormedRequest) (database : Option String) :
    (Machine.run handle requests { activeMapping := { database } }).1 =
        (Machine.run handleAbstract requests fun _ => none).1 ↔
      Machine.Along handleAbstract
        (fun wellFormed store => ¬ Collides Triple.hash store wellFormed.operation.triple)
        requests fun _ => none := by
  rw [eq_comm]
  apply Machine.run_answers_eq_iff (R := Stores)
  · intro wellFormed store server hstores hfree
    exact handle_agrees wellFormed hstores hfree
  · intro wellFormed store server hstores hcollides
    exact handle_differs wellFormed hstores (not_not.1 hcollides)
  · exact stores_empty database

end WellFormedRequest

end Refinement

/-! ### Two triples of one key -/

open scoped Secw.Reference

/-- The services `b|Sc` of `a` and `c` of `a|Sb` have the same key. -/
def mappingOfSeparator : CredentialAssetMapping :=
  { assetId := "a|Sb", serviceId := "c", protocol := "p", credentialId := "credential" }

def createOfSeparator : WellFormedRequest where
  request :=
    { sender := "client"
      payload := ["CREATE_MAPPING", serialize (mappingOfSeparator.fillSerializationInfo .null)] }
  operation := .create mappingOfSeparator
  decodes := .create (receiveMapping_serialize mappingOfSeparator [])
  filled := by decide

def getOfSeparator : WellFormedRequest where
  request := { sender := "client", payload := ["GET_MAPPING", "a", "b|Sc", "p"] }
  operation := .get ("a", "b|Sc", "p")
  decodes := .get rfl
  filled := by decide

/-- A mapping is got for a triple under which none was created. -/
theorem replies_ne_of_separator :
    (Machine.run WellFormedRequest.handle [createOfSeparator, getOfSeparator] {}).1 ≠
      (Machine.run WellFormedRequest.handleAbstract [createOfSeparator, getOfSeparator]
        fun _ => none).1 := by
  have hfree : ¬ Collides Triple.hash (fun _ => (none : Option CredentialAssetMapping))
      createOfSeparator.operation.triple := by
    rintro ⟨_, _, hpresent, _⟩
    cases hpresent
  obtain ⟨-, hstores⟩ := createOfSeparator.handle_agrees (stores_empty none) hfree
  have hcollides : Collides Triple.hash
      (WellFormedRequest.handleAbstract createOfSeparator fun _ => none).2
      getOfSeparator.operation.triple :=
    ⟨("a|Sb", "c", "p"), by decide, rfl, rfl⟩
  intro heq
  exact getOfSeparator.handle_differs hstores hcollides
    (List.cons.inj (List.cons.inj heq).2).1.symm

end Cam
