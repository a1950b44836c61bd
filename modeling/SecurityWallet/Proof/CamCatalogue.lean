import SecurityWallet.Cam.Catalogue
import SecurityWallet.Proof.CamCounters

/-!
# The server keeps a catalogue

The table of a server stands for a catalogue, and the lists and counts that clients receive are those
of the catalogue. A call that names a triple is answered alike as long as its key is not that of
another triple in the catalogue, and a call that names none always is.
-/

open Foundation SerializationInfo Effect

namespace Cam

open CredentialAssetMappingServer

/-! ### Lists and counts -/

section Lists

variable {catalogue : Catalogue} {table : StdMap Hash CredentialAssetMapping}
  (hhashed : HashedBy Triple.hash CredentialAssetMapping.triple catalogue.find? table)

include hhashed

theorem Catalogue.coe_filter (P : CredentialAssetMapping → Prop) [DecidablePred P] :
    ((table.valueList.filter fun mapping => P mapping : List CredentialAssetMapping) :
      Multiset CredentialAssetMapping) = catalogue.list P := by
  rw [Catalogue.list, ← KeyedSet.coe_valueList hhashed, Multiset.filter_coe]

theorem Catalogue.length_filter (credentialId : CredentialId) :
    (table.valueList.filter fun mapping => mapping.credentialId = credentialId).length =
      catalogue.uses credentialId := by
  rw [Catalogue.uses, ← Catalogue.coe_filter hhashed, Multiset.coe_card]

/-- The counters of the client are the uses of the credentials that have some. -/
theorem Catalogue.lookup_countCredentials (credentialId : CredentialId) :
    (Accessor.countCredentials table.valueList)[credentialId]? =
      if credentialId = "" ∨ catalogue.uses credentialId = 0 then none
      else some (UInt32.ofNat (catalogue.uses credentialId)) := by
  rw [Accessor.lookup_countCredentials]
  by_cases hempty : credentialId = ""
  · rw [if_neg fun hmem => ne_empty_of_mem_credentials hmem hempty, if_pos (Or.inl hempty)]
  · have hcount : (credentials table.valueList).count credentialId = catalogue.uses credentialId := by
      rw [count_credentials _ hempty, List.countP_eq_length_filter]
      exact Catalogue.length_filter hhashed credentialId
    rw [← hcount]
    by_cases hmem : credentialId ∈ credentials table.valueList
    · have hpos := List.count_pos_iff.2 hmem
      rw [if_pos hmem, if_neg (by simp only [hempty, false_or]; omega)]
    · rw [if_neg hmem, if_pos (Or.inr (List.count_eq_zero_of_not_mem hmem))]

end Lists

section OnCxxtools

variable [Cxxtools]

/-- The server is sound, and its table stands for the catalogue. -/
structure Catalogue.ShownBy (catalogue : Catalogue) (server : CredentialAssetMappingServer) :
    Prop where
  hashed : HashedBy Triple.hash CredentialAssetMapping.triple catalogue.find?
    server.activeMapping.mappings
  sound : server.Sound

/-- A sound server shows the catalogue of its mappings. -/
theorem CredentialAssetMappingServer.Sound.exists_catalogue {server : CredentialAssetMappingServer}
    (hsound : server.Sound) :
    ∃ catalogue : Catalogue, catalogue.ShownBy server := by
  have hkeyed : ∀ (hash : Hash) mapping, server.activeMapping.mappings[hash]? = some mapping →
      mapping.triple.hash = hash := fun hash mapping hlookup => (hsound.keyed hash mapping hlookup).2
  refine ⟨⟨KeyedSet.ofTable Triple.hash server.activeMapping.mappings hkeyed, ?_⟩,
    KeyedSet.hashedBy_ofTable hkeyed, hsound⟩
  intro mapping hmem
  obtain ⟨hash, hlookup⟩ := StdMap.mem_valueList.1 (List.mem_toFinset.1 hmem)
  exact (hsound.keyed hash mapping hlookup).1

namespace Catalogue.ShownBy

variable {catalogue : Catalogue} {server next : CredentialAssetMappingServer} {triple : Triple}

theorem finds (hshown : catalogue.ShownBy server)
    (hfree : ¬ Collides Triple.hash catalogue.find? triple) :
    Finds server triple (catalogue.find? triple) :=
  hshown.hashed.lookup_eq hfree

/-- What is found under a key is a mapping of the catalogue. -/
theorem of_finds (hshown : catalogue.ShownBy server) {existing : CredentialAssetMapping}
    (hfinds : Finds server triple (some existing)) :
    existing ∈ catalogue.values ∧ existing.triple.hash = triple.hash := by
  obtain ⟨hhash, hfind⟩ := (hshown.hashed.lookup triple.hash existing).1 hfinds
  exact ⟨(KeyedSet.find?_eq_some.1 hfind).1, hhash⟩

theorem put (hshown : catalogue.ShownBy server) {mapping : CredentialAssetMapping}
    (hfilled : mapping.triple.Filled)
    (hfree : ¬ Collides Triple.hash catalogue.find? mapping.triple)
    (hwrites : Writes server mapping.triple (some mapping) next) (hsound : next.Sound) :
    (catalogue.put mapping hfilled).ShownBy next := by
  refine ⟨?_, hsound⟩
  rw [Catalogue.put, KeyedSet.find?_write]
  refine hshown.hashed.update hfree ?_ hwrites
  rintro _ ⟨⟩
  rfl

theorem erase (hshown : catalogue.ShownBy server)
    (hfree : ¬ Collides Triple.hash catalogue.find? triple) (hwrites : Writes server triple none next)
    (hsound : next.Sound) : (catalogue.erase triple).ShownBy next := by
  refine ⟨?_, hsound⟩
  rw [Catalogue.erase, KeyedSet.find?_write]
  exact hshown.hashed.update hfree (by simp) hwrites

end Catalogue.ShownBy

/-! ### Calls that read -/

section Reads

variable [CxxtoolsClient] [LawfulCxxtools] [CxxtoolsTexts] [LawfulCxxtoolsClient]
  {catalogue : Catalogue} {server : CredentialAssetMappingServer}

/-- A call that reads returns what the catalogue has, and leaves the server. -/
theorem Accessor.Read.exec_eq (hshown : catalogue.ShownBy server) (client : Sender)
    (read : Accessor.Read)
    (hfree : ∀ triple, read.triple? = some triple → ¬ Collides Triple.hash catalogue.find? triple) :
    (read.exec client).exec server = (catalogue.look read, server) := by
  have hlist := Catalogue.coe_filter hshown.hashed
  cases read with
  | getMapping asset service protocol =>
      have hfinds := hshown.finds (hfree (asset, service, protocol) rfl)
      rw [exec, exec_map, Accessor.getMapping_exec, Catalogue.look]
      cases hfind : catalogue.find? (asset, service, protocol) with
      | none =>
          rw [hfind] at hfinds
          rw [hfinds.getMapping_none]
          rfl
      | some mapping =>
          rw [hfind] at hfinds
          rw [hfinds.getMapping_some]
          rfl
  | isMappingExisting asset service protocol =>
      rw [exec, exec_map, Accessor.isMappingExisting_exec, Catalogue.look,
        (hshown.finds (hfree (asset, service, protocol) rfl)).isMappingExisting]
      rfl
  | getAssetMappings asset =>
      rw [exec, exec_map, Accessor.getAssetMappings_exec, Catalogue.look, ← hlist]
      rfl
  | getMappings asset service =>
      rw [exec, exec_map, Accessor.getMappings_exec, Catalogue.look, ← hlist]
      rfl
  | getAllMappings =>
      rw [exec, exec_map, Accessor.getAllMappings_exec, Catalogue.look,
        ← KeyedSet.coe_valueList hshown.hashed]
      rfl
  | getCredentialMappings credentialId =>
      rw [exec, exec_map, Accessor.getCredentialMappings_exec, Catalogue.look, ← hlist]
      rfl
  | countCredentialMappingsForCredential credentialId =>
      rw [exec, exec_map, Accessor.countCredentialMappingsForCredential_exec, Catalogue.look,
        ← Catalogue.length_filter hshown.hashed]
      rfl
  | getAllCredentialCounter =>
      rw [exec, exec_map, Accessor.getAllCredentialCounter_exec, Catalogue.look]
      simp only [← Catalogue.lookup_countCredentials hshown.hashed]
      rfl

omit [LawfulCxxtoolsClient] in
/-- For a triple whose key is another one's, the server finds that one. -/
theorem Accessor.Read.exec_ne (hshown : catalogue.ShownBy server) (client : Sender)
    {read : Accessor.Read} {triple : Triple} (htriple : read.triple? = some triple)
    (hcollides : Collides Triple.hash catalogue.find? triple) :
    ((read.exec client).exec server).1 ≠ catalogue.look read := by
  obtain ⟨habsent, existing, -, hfinds⟩ := hshown.hashed.of_collides hcollides
  cases read with
  | getMapping asset service protocol =>
      obtain rfl := Option.some.inj htriple
      rw [exec, exec_map, Accessor.getMapping_exec, Catalogue.look, habsent,
        Finds.getMapping_some hfinds]
      nofun
  | isMappingExisting asset service protocol =>
      obtain rfl := Option.some.inj htriple
      rw [exec, exec_map, Accessor.isMappingExisting_exec, Catalogue.look, habsent,
        Finds.isMappingExisting hfinds]
      nofun
  | _ => cases htriple

end Reads

/-! ### Calls that write -/

section Writes

variable {server : CredentialAssetMappingServer} {client : Sender} {command : Command}
  {frames : List String}

/-- How a call ends that is told the answer. -/
def Answer.outcome : Answer → Except Exn Unit
  | .alreadyExists (asset, service, protocol) =>
      .error (.cam (camMappingAlreadyExistsException asset service protocol))
  | .doesNotExist (asset, service, protocol) =>
      .error (.cam (camMappingDoesNotExistException asset service protocol))
  | _ => .ok ()

theorem CredentialAssetMappingServer.Sound.send (hsound : server.Sound) :
    ((do let _ ← Accessor.sendCommand client command frames : Accessor.Call Unit).exec
      server).2.Sound := by
  rw [exec_bind, Accessor.exec_sendCommand]
  have hnext := hsound.next ⟨client, command.name :: frames⟩
  cases Accessor.checkReply (handleRequest ⟨client, command.name :: frames⟩ server).1 <;>
    exact hnext

variable [LawfulCxxtools]

/-- A client is told an exception that a handler throws. -/
theorem Accessor.send_error {exception : CamException} (hclass : ¬ exception.IsUnsupportedCommand)
    (hexec : (handler command client frames).exec server = (.error (.cam exception), server)) :
    (do let _ ← sendCommand client command frames : Call Unit).exec server =
      (.error (.cam exception), server) := by
  rw [exec_bind_error (sendCommand_of_error hexec),
    throwCamException_toJson (ofErrorCode_errorCode hclass)]

variable {mapping : CredentialAssetMapping}

omit [LawfulCxxtools] in
theorem CredentialAssetMappingServer.exec_store_of_not_filled (hfilled : ¬ mapping.triple.Filled)
    (server : CredentialAssetMappingServer) :
    (do
        onStorage (CredentialAssetMappingStorage.setMapping mapping)
        onStorage CredentialAssetMappingStorage.save
        return "" : Effect Exn CredentialAssetMappingServer String).exec server =
      (.error (.cam (.generic "Bad format")), server) := by
  rw [onStorage, exec_bind, exec_zoom, CredentialAssetMappingStorage.setMapping_exec,
    if_neg hfilled]

theorem Accessor.createMapping_of_present {existing : CredentialAssetMapping}
    (hfinds : Finds server mapping.triple (some existing)) :
    (createMapping client mapping).exec server =
      (.error (.cam (camMappingAlreadyExistsException mapping.assetId mapping.serviceId
        mapping.protocol)), server) := by
  apply send_error id
  have hexists := Finds.isMappingExisting hfinds
  simp only [handler, handleCreateMapping, receiveMapping_serialize, exec_bind, exec_liftM, exec_get,
    hexists]
  rfl

theorem Accessor.createMapping_of_not_filled (hfilled : ¬ mapping.triple.Filled)
    (hfinds : Finds server mapping.triple none) :
    (createMapping client mapping).exec server = (.error (.cam (.generic "Bad format")), server) := by
  apply send_error id
  have hexists := Finds.isMappingExisting hfinds
  simp only [handler, handleCreateMapping, receiveMapping_serialize, exec_bind, exec_liftM, exec_get,
    hexists]
  exact exec_store_of_not_filled hfilled server

theorem Accessor.updateMapping_of_absent (hfinds : Finds server mapping.triple none) :
    (updateMapping client mapping).exec server =
      (.error (.cam (camMappingDoesNotExistException mapping.assetId mapping.serviceId
        mapping.protocol)), server) := by
  apply send_error id
  have hexists := Finds.isMappingExisting hfinds
  simp only [handler, handleUpdateMapping, receiveMapping_serialize, exec_bind, exec_liftM, exec_get,
    hexists]
  rfl

theorem Accessor.updateMapping_of_not_filled (hfilled : ¬ mapping.triple.Filled)
    {existing : CredentialAssetMapping} (hfinds : Finds server mapping.triple (some existing)) :
    (updateMapping client mapping).exec server = (.error (.cam (.generic "Bad format")), server) := by
  apply send_error id
  have hexists := Finds.isMappingExisting hfinds
  simp only [handler, handleUpdateMapping, receiveMapping_serialize, exec_bind, exec_liftM, exec_get,
    hexists]
  exact exec_store_of_not_filled hfilled server

variable [CxxtoolsTexts]

/-- A client is told the answer to what is found. -/
theorem Accessor.send_exec {operation : Operation} {found : Option CredentialAssetMapping}
    (hresponds : Responds command frames operation) (hfinds : Finds server operation.triple found)
    (hstored : ∀ existing, found = some existing →
      existing.triple.Filled ∧ existing.triple.hash = operation.triple.hash) :
    ∃ next, (do let _ ← sendCommand client command frames : Call Unit).exec server =
        ((operation.respond found).1.outcome, next) ∧
      Writes server operation.triple (operation.respond found).2 next := by
  obtain ⟨next, hexec, hwrites⟩ := hresponds client server found hfinds hstored
  refine ⟨next, ?_, hwrites⟩
  cases hanswer : (operation.respond found).1 with
  | done =>
      rw [hanswer] at hexec
      rw [exec_bind_ok (sendCommand_of_ok hexec (by decide))]
      rfl
  | found mapping =>
      rw [hanswer] at hexec
      rw [exec_bind_ok (sendCommand_of_ok hexec (serialize_ne_error _))]
      rfl
  | alreadyExists triple =>
      rw [hanswer] at hexec
      rw [exec_bind_error (sendCommand_of_error hexec),
        throwCamException_toJson (ofErrorCode_errorCode id)]
      rfl
  | doesNotExist triple =>
      rw [hanswer] at hexec
      rw [exec_bind_error (sendCommand_of_error hexec),
        throwCamException_toJson (ofErrorCode_errorCode id)]
      rfl

/-- An update of a mapping that is missing is refused, and writes nothing. -/
theorem Accessor.Update.perform_of_absent {triple : Triple} (hfinds : Finds server triple none)
    (update : Accessor.Update) :
    ∃ next, (update.perform client triple).exec server =
        (.error (.cam (camMappingDoesNotExistException triple.1 triple.2.1 triple.2.2)), next) ∧
      Writes server triple none next := by
  have hfield : ∀ (field : Field) (received : CredentialAssetMapping), received.triple = triple →
      ∃ next, (sendMapping client field.command received).exec server =
          (.error (.cam (camMappingDoesNotExistException triple.1 triple.2.1 triple.2.2)), next) ∧
        Writes server triple none next := by
    rintro field received rfl
    exact send_exec (responds_updateField field (receiveMapping_serialize received [])) hfinds
      (by simp)
  obtain ⟨asset, service, protocol⟩ := triple
  cases update with
  | port value => exact hfield .port _ rfl
  | credentialId value => exact hfield .credential _ rfl
  | status value => exact hfield .status _ rfl
  | extendedInfo value => exact hfield .info _ rfl
  | mapping newPort newCredentialId newStatus newInfo =>
      exact ⟨server, updateMapping_of_absent hfinds, hfinds.writes⟩

theorem Accessor.sendMapping_of_found {operation : Operation} {existing : CredentialAssetMapping}
    (hresponds : Responds command [serialize (mapping.fillSerializationInfo .null)] operation)
    (hfinds : Finds server operation.triple (some existing)) (hfilled : existing.triple.Filled)
    (hhash : existing.triple.hash = operation.triple.hash) :
    ∃ next, (sendMapping client command mapping).exec server =
        ((operation.respond (some existing)).1.outcome, next) ∧
      Writes server operation.triple (operation.respond (some existing)).2 next := by
  refine send_exec hresponds hfinds ?_
  rintro _ ⟨⟩
  exact ⟨hfilled, hhash⟩

theorem Accessor.updateMapping_of_found {existing : CredentialAssetMapping}
    (hfinds : Finds server mapping.triple (some existing)) (hfilled : existing.triple.Filled)
    (hhash : existing.triple.hash = mapping.triple.hash) :
    ((updateMapping client mapping).exec server).1 =
      if mapping.triple.Filled then .ok () else .error (.cam (.generic "Bad format")) := by
  by_cases hmapping : mapping.triple.Filled
  · obtain ⟨next, hexec, -⟩ : ∃ next, (sendMapping client .updateMapping mapping).exec server = _ ∧ _ :=
      sendMapping_of_found (responds_update (receiveMapping_serialize mapping []) hmapping) hfinds
        hfilled hhash
    rw [updateMapping, hexec, if_pos hmapping]
    rfl
  · rw [updateMapping_of_not_filled hmapping hfinds, if_neg hmapping]

/-- An update that finds something is not told that there is nothing. -/
theorem Accessor.Update.perform_ne {triple : Triple} {existing : CredentialAssetMapping}
    (hfinds : Finds server triple (some existing)) (hfilled : existing.triple.Filled)
    (hhash : existing.triple.hash = triple.hash) (update : Accessor.Update) (client : Sender)
    {exception : CamException} (hexception : exception ≠ .generic "Bad format") :
    ((update.perform client triple).exec server).1 ≠ .error (.cam exception) := by
  have hfield : ∀ (field : Field) (received : CredentialAssetMapping), received.triple = triple →
      ((sendMapping client field.command received).exec server).1 ≠ .error (.cam exception) := by
    rintro field received rfl
    obtain ⟨next, hexec, -⟩ : ∃ next,
        (sendMapping client field.command received).exec server = _ ∧ _ :=
      sendMapping_of_found (responds_updateField field (receiveMapping_serialize received [])) hfinds
        hfilled hhash
    rw [hexec]
    simp [Operation.respond, Answer.outcome]
  have hmapping : ∀ mapping : CredentialAssetMapping, mapping.triple = triple →
      ((updateMapping client mapping).exec server).1 ≠ .error (.cam exception) := by
    rintro mapping rfl
    rw [updateMapping_of_found hfinds hfilled hhash]
    split
    · simp
    · simpa using hexception.symm
  obtain ⟨asset, service, protocol⟩ := triple
  cases update with
  | port value => exact hfield .port _ rfl
  | credentialId value => exact hfield .credential _ rfl
  | status value => exact hfield .status _ rfl
  | extendedInfo value => exact hfield .info _ rfl
  | mapping newPort newCredentialId newStatus newInfo => exact hmapping _ rfl

end Writes

/-! ### Events -/

namespace Catalogue.ShownBy

variable {catalogue : Catalogue} {server next : CredentialAssetMappingServer} {triple : Triple}

/-- What was found under the key of the triple is written there again. -/
theorem same (hshown : catalogue.ShownBy server) {found : Option CredentialAssetMapping}
    (hfinds : Finds server triple found) (hwrites : Writes server triple found next)
    (hsound : next.Sound) : catalogue.ShownBy next := by
  refine ⟨⟨hshown.hashed.keyed, fun hash mapping => ?_⟩, hsound⟩
  rw [hwrites, ← hshown.hashed.lookup]
  by_cases hhash : triple.hash = hash
  · rw [if_pos hhash, ← hhash, hfinds]
  · rw [if_neg hhash]

variable [CxxtoolsClient]

/-- The event is answered as the catalogue answers it, and the server shows the next catalogue. -/
def Answers (catalogue : Catalogue) (server : CredentialAssetMappingServer) (event : MappingEvent) :
    Prop :=
  (Catalogue.respond event catalogue).1 = (event.perform server).1 ∧
    (Catalogue.respond event catalogue).2.ShownBy (event.perform server).2

variable [LawfulCxxtools] [CxxtoolsTexts]

theorem create (hshown : catalogue.ShownBy server) (client : Sender)
    (mapping : CredentialAssetMapping)
    (hfree : ¬ Collides Triple.hash catalogue.find? mapping.triple) :
    Answers catalogue server (.call client (.create mapping)) := by
  have hfinds := hshown.finds hfree
  have hsound : ((Accessor.createMapping client mapping).exec server).2.Sound := hshown.sound.send
  rw [Answers, MappingEvent.perform, MappingCall.exec, exec_map, Catalogue.respond, Catalogue.answer]
  cases hfind : catalogue.find? mapping.triple with
  | some existing =>
      rw [hfind] at hfinds
      rw [Accessor.createMapping_of_present hfinds]
      exact ⟨rfl, hshown⟩
  | none =>
      rw [hfind] at hfinds
      rw [if_neg (by simp)]
      by_cases hfilled : mapping.triple.Filled
      · obtain ⟨next, hexec, hwrites⟩ :
            ∃ next, (Accessor.createMapping client mapping).exec server = _ ∧ _ :=
          Accessor.send_exec (responds_create (receiveMapping_serialize mapping []) hfilled) hfinds
            (by simp)
        rw [hexec] at hsound ⊢
        rw [dif_pos hfilled]
        exact ⟨rfl, hshown.put hfilled hfree hwrites hsound⟩
      · rw [Accessor.createMapping_of_not_filled hfilled hfinds, dif_neg hfilled]
        exact ⟨rfl, hshown⟩

theorem update (hshown : catalogue.ShownBy server) (client : Sender) (triple : Triple)
    (change : Accessor.Update) (hfree : ¬ Collides Triple.hash catalogue.find? triple) :
    Answers catalogue server (.call client (.update triple change)) := by
  have hfinds := hshown.finds hfree
  have hsound : ((change.perform client triple).exec server).2.Sound := by
    obtain ⟨asset, service, protocol⟩ := triple
    cases change <;> exact hshown.sound.send
  obtain ⟨asset, service, protocol⟩ := triple
  rw [Answers, MappingEvent.perform, MappingCall.exec, exec_map, Catalogue.respond, Catalogue.answer]
  split
  · next answer next hanswer =>
      split at hanswer
      · next existing hfind =>
          obtain ⟨rfl, rfl⟩ := Prod.mk.inj (Except.ok.inj hanswer)
          rw [hfind] at hfinds
          obtain ⟨hmem, htriple⟩ := KeyedSet.find?_eq_some.1 hfind
          rw [← htriple] at hfree hfinds
          obtain ⟨next, hexec, hwrites⟩ :=
            change.perform_exec client (catalogue.filled existing hmem) hfinds
          rw [htriple] at hexec
          rw [hexec] at hsound ⊢
          have hfilled : (change.write existing).triple.Filled := catalogue.filled existing hmem
          exact ⟨rfl, hshown.put hfilled hfree hwrites hsound⟩
      · cases hanswer
  · next e hanswer =>
      split at hanswer
      · cases hanswer
      · next hfind =>
          obtain rfl := Except.error.inj hanswer
          rw [hfind] at hfinds
          obtain ⟨next, hexec, hwrites⟩ := change.perform_of_absent hfinds
          rw [hexec] at hsound ⊢
          exact ⟨rfl, hshown.same hfinds hwrites hsound⟩

theorem remove (hshown : catalogue.ShownBy server) (client : Sender) (triple : Triple)
    (hfree : ¬ Collides Triple.hash catalogue.find? triple) :
    Answers catalogue server (.call client (.remove triple)) := by
  have hfinds := hshown.finds hfree
  obtain ⟨asset, service, protocol⟩ := triple
  have hsound : ((Accessor.removeMapping client asset service protocol).exec server).2.Sound :=
    hshown.sound.send
  obtain ⟨next, hexec, hwrites⟩ :
      ∃ next, (Accessor.removeMapping client asset service protocol).exec server = _ ∧ _ :=
    Accessor.send_exec (responds_remove rfl) hfinds fun existing hfind => by
      obtain ⟨hmem, htriple⟩ := KeyedSet.find?_eq_some.1 hfind
      exact ⟨catalogue.filled existing hmem, congrArg Triple.hash htriple⟩
  rw [Answers, MappingEvent.perform, MappingCall.exec, exec_map, Catalogue.respond, Catalogue.answer]
  rw [hexec] at hsound ⊢
  cases hfind : catalogue.find? (asset, service, protocol) with
  | some existing =>
      rw [hfind] at hwrites
      exact ⟨rfl, hshown.erase hfree hwrites hsound⟩
  | none =>
      rw [hfind] at hwrites hfinds
      exact ⟨rfl, hshown.same hfinds hwrites hsound⟩

/-- A call about a triple whose key is no other one's is answered as the catalogue answers it. -/
theorem answers [LawfulCxxtoolsClient] (hshown : catalogue.ShownBy server) (event : MappingEvent)
    (hfree : ∀ triple, event.triple? = some triple → ¬ Collides Triple.hash catalogue.find? triple) :
    Answers catalogue server event := by
  cases event with
  | restart =>
      rw [Answers, MappingEvent.perform, hshown.sound.construct]
      exact ⟨rfl, hshown⟩
  | call client asked =>
      cases asked with
      | create mapping => exact hshown.create client mapping (hfree _ rfl)
      | update triple change => exact hshown.update client triple change (hfree _ rfl)
      | remove triple => exact hshown.remove client triple (hfree _ rfl)
      | read looked =>
          rw [Answers, MappingEvent.perform, MappingCall.exec, looked.exec_eq hshown client hfree,
            Catalogue.respond, Catalogue.answer]
          cases catalogue.look looked <;> exact ⟨rfl, hshown⟩

/-- A call about a triple whose key is another one's is answered for that one. -/
theorem answers_ne (hshown : catalogue.ShownBy server) (event : MappingEvent)
    {triple : Triple} (htriple : event.triple? = some triple)
    (hcollides : Collides Triple.hash catalogue.find? triple) :
    (Catalogue.respond event catalogue).1 ≠ (event.perform server).1 := by
  obtain ⟨habsent, existing, -, hfinds⟩ := hshown.hashed.of_collides hcollides
  obtain ⟨hmem, hhash⟩ := hshown.of_finds hfinds
  have hfilled := catalogue.filled existing hmem
  have hanswer : ∀ client asked, (Catalogue.respond (.call client asked) catalogue).1 =
      (catalogue.answer asked).map Prod.fst := by
    intro client asked
    rw [Catalogue.respond]
    cases catalogue.answer asked <;> rfl
  cases event with
  | restart => cases htriple
  | call client asked =>
      rw [hanswer, MappingEvent.perform]
      cases asked with
      | create mapping =>
          obtain rfl := Option.some.inj htriple
          rw [MappingCall.exec, exec_map, Accessor.createMapping_of_present hfinds, Catalogue.answer,
            habsent, if_neg (by simp)]
          by_cases hmapping : mapping.triple.Filled
          · rw [dif_pos hmapping]
            simp [Except.map]
          · rw [dif_neg hmapping]
            simp [Except.map, camMappingAlreadyExistsException]
      | update triple change =>
          obtain rfl := Option.some.inj htriple
          obtain ⟨asset, service, protocol⟩ := triple
          have hexception : camMappingDoesNotExistException asset service protocol ≠
              .generic "Bad format" := by simp [camMappingDoesNotExistException]
          have hne := change.perform_ne hfinds hfilled hhash client hexception
          rw [MappingCall.exec, exec_map, Catalogue.answer]
          split
          · next hfind =>
              rw [habsent] at hfind
              cases hfind
          · generalize ((change.perform client (asset, service, protocol)).exec server).1 = outcome
              at hne
            cases outcome with
            | ok _ => simp [Except.map]
            | error e =>
                rintro heq
                exact hne (congrArg Except.error (Except.error.inj heq).symm)
      | remove triple =>
          obtain rfl := Option.some.inj htriple
          obtain ⟨asset, service, protocol⟩ := triple
          obtain ⟨next, hexec, -⟩ :
              ∃ next, (Accessor.removeMapping client asset service protocol).exec server = _ ∧ _ :=
            Accessor.send_exec (responds_remove rfl) hfinds (by
              rintro _ ⟨⟩
              exact ⟨hfilled, hhash⟩)
          rw [MappingCall.exec, exec_map, hexec, Catalogue.answer, habsent]
          simp [Except.map, Operation.respond, Answer.outcome]
      | read looked =>
          have hne := Accessor.Read.exec_ne hshown client htriple hcollides
          rw [MappingCall.exec, Catalogue.answer]
          cases hlook : catalogue.look looked with
          | ok answer =>
              rw [hlook] at hne
              exact hne.symm
          | error e =>
              rw [hlook] at hne
              exact hne.symm

end Catalogue.ShownBy

/-! ### Runs -/

section Runs

variable [CxxtoolsClient] [LawfulCxxtools] [CxxtoolsTexts] [LawfulCxxtoolsClient]

/-- The event names a triple whose key is that of another triple in the catalogue. -/
def MappingEvent.Collides (event : MappingEvent) (catalogue : Catalogue) : Prop :=
  ∃ triple, event.triple? = some triple ∧
    Foundation.Collides Triple.hash catalogue.find? triple

/--
Every reachable server stands for the catalogue of its mappings. Whatever clients call from then on,
with restarts in between, they are told what that catalogue answers exactly if no call of theirs
names a triple whose key is that of another triple that is then in the catalogue.
-/
theorem Catalogue.answers_eq_iff (server : CredentialAssetMappingServer)
    (hreachable : CredentialAssetMappingServer.Reachable server) :
    ∃ catalogue : Catalogue,
      catalogue.values.val = server.activeMapping.getAllMappings ∧
      ∀ events, (Machine.run MappingEvent.perform events server).1 =
          (Machine.run Catalogue.respond events catalogue).1 ↔
        Machine.Along Catalogue.respond (fun event catalogue => ¬ event.Collides catalogue) events
          catalogue := by
  obtain ⟨catalogue, hshown⟩ := hreachable.sound.exists_catalogue
  refine ⟨catalogue, (KeyedSet.coe_valueList hshown.hashed).symm, fun events => ?_⟩
  rw [eq_comm]
  apply Machine.run_answers_eq_iff (R := Catalogue.ShownBy)
  · intro event catalogue server hshown hfree
    exact hshown.answers event fun triple htriple hcollides => hfree ⟨triple, htriple, hcollides⟩
  · intro event catalogue server hshown hcollides
    obtain ⟨triple, htriple, hcollides⟩ := not_not.1 hcollides
    exact hshown.answers_ne event htriple hcollides
  · exact hshown

/-! ### Names without the separator -/

/-- The separator of the key is not in the names of the asset and the service. -/
def Triple.Plain (triple : Triple) : Prop :=
  '|' ∉ triple.1.toList ∧ '|' ∉ triple.2.1.toList

def MappingEvent.Plain (event : MappingEvent) : Prop :=
  ∀ triple, event.triple? = some triple → triple.Plain

omit [Cxxtools] [CxxtoolsClient] [LawfulCxxtools] [CxxtoolsTexts] [LawfulCxxtoolsClient] in
/-- What stands before the first separator and after it can be told apart. -/
theorem eq_of_separated {separator : Char} {front front' rest rest' : List Char}
    (hfront : separator ∉ front) (hfront' : separator ∉ front')
    (heq : front ++ separator :: rest = front' ++ separator :: rest') :
    front = front' ∧ rest = rest' := by
  induction front generalizing front' with
  | nil =>
      cases front' with
      | nil => exact ⟨rfl, (List.cons.inj heq).2⟩
      | cons c front' =>
          obtain ⟨rfl, -⟩ := List.cons.inj heq
          exact absurd List.mem_cons_self hfront'
  | cons c front ih =>
      cases front' with
      | nil =>
          obtain ⟨rfl, -⟩ := List.cons.inj heq
          exact absurd List.mem_cons_self hfront
      | cons c' front' =>
          obtain ⟨rfl, htail⟩ := List.cons.inj heq
          obtain ⟨rfl, hrest⟩ := ih (fun hmem => hfront (List.mem_cons_of_mem c hmem))
            (fun hmem => hfront' (List.mem_cons_of_mem c hmem)) htail
          exact ⟨rfl, hrest⟩

omit [Cxxtools] [CxxtoolsClient] [LawfulCxxtools] [CxxtoolsTexts] [LawfulCxxtoolsClient] in
theorem Triple.Plain.hash_inj {triple other : Triple} (hplain : triple.Plain)
    (hother : other.Plain) (hhash : triple.hash = other.hash) : triple = other := by
  obtain ⟨asset, service, protocol⟩ := triple
  obtain ⟨asset', service', protocol'⟩ := other
  have hkey : ∀ asset service protocol : String,
      (CredentialAssetMappingStorage.computeHash asset service protocol).toList =
        'A' :: (asset.toList ++ '|' :: 'S' :: (service.toList ++ '|' :: 'P' :: ':' ::
          protocol.toList)) := by
    intro asset service protocol
    simp [CredentialAssetMappingStorage.computeHash]
  have hlist := congrArg String.toList hhash
  rw [Triple.hash, Triple.hash, hkey, hkey] at hlist
  obtain ⟨hasset, hrest⟩ := eq_of_separated hplain.1 hother.1 (List.cons.inj hlist).2
  obtain ⟨hservice, hrest⟩ := eq_of_separated hplain.2 hother.2 (List.cons.inj hrest).2
  have hprotocol := (List.cons.inj (List.cons.inj hrest).2).2
  exact Prod.ext (String.toList_inj.1 hasset)
    (Prod.ext (String.toList_inj.1 hservice) (String.toList_inj.1 hprotocol))

omit [Cxxtools] [CxxtoolsClient] [LawfulCxxtools] [CxxtoolsTexts] [LawfulCxxtoolsClient] in
/-- What an event leaves in a catalogue has a triple from before, or the one of the event. -/
theorem Catalogue.triple_of_respond {catalogue : Catalogue} {event : MappingEvent}
    {mapping : CredentialAssetMapping}
    (hmem : mapping ∈ (Catalogue.respond event catalogue).2.values) :
    (∃ existing ∈ catalogue.values, existing.triple = mapping.triple) ∨
      event.triple? = some mapping.triple := by
  rcases event with ⟨client, asked⟩ | _
  · rw [Catalogue.respond] at hmem
    cases hanswer : catalogue.answer asked with
    | error e =>
        rw [hanswer] at hmem
        exact .inl ⟨mapping, hmem, rfl⟩
    | ok answered =>
        rw [hanswer] at hmem
        cases asked with
        | create new =>
            rw [Catalogue.answer] at hanswer
            split at hanswer
            · cases hanswer
            · split at hanswer
              · next hfilled =>
                  obtain rfl := Except.ok.inj hanswer
                  dsimp only at hmem
                  rw [mem_put] at hmem
                  rcases hmem with ⟨hold, -⟩ | rfl
                  · exact .inl ⟨mapping, hold, rfl⟩
                  · exact .inr rfl
              · cases hanswer
        | update triple change =>
            obtain ⟨asset, service, protocol⟩ := triple
            rw [Catalogue.answer] at hanswer
            split at hanswer
            · next existing hfind =>
                obtain rfl := Except.ok.inj hanswer
                have hexisting := (KeyedSet.find?_eq_some.1 hfind).1
                dsimp only at hmem
                rw [mem_updated] at hmem
                rcases hmem with ⟨hold, -⟩ | rfl
                · exact .inl ⟨mapping, hold, rfl⟩
                · exact .inl ⟨existing, hexisting, rfl⟩
            · cases hanswer
        | remove triple =>
            obtain ⟨asset, service, protocol⟩ := triple
            rw [Catalogue.answer] at hanswer
            split at hanswer
            · obtain rfl := Except.ok.inj hanswer
              exact .inl ⟨mapping, (mem_erase.1 hmem).1, rfl⟩
            · cases hanswer
        | read looked =>
            obtain ⟨answer, -, rfl⟩ := map_eq_ok.1 hanswer
            exact .inl ⟨mapping, hmem, rfl⟩
  · exact .inl ⟨mapping, hmem, rfl⟩

/--
As long as no asset and no service has the separator of the key in its name, a reachable server
answers every run of calls and restarts as the catalogue of its mappings does.
-/
theorem Catalogue.answers_of_plain (server : CredentialAssetMappingServer)
    (hreachable : CredentialAssetMappingServer.Reachable server)
    (hstored : ∀ mapping ∈ server.activeMapping.getAllMappings, mapping.triple.Plain) :
    ∃ catalogue : Catalogue,
      catalogue.values.val = server.activeMapping.getAllMappings ∧
      ∀ events, (∀ event ∈ events, MappingEvent.Plain event) →
        (Machine.run MappingEvent.perform events server).1 =
          (Machine.run Catalogue.respond events catalogue).1 := by
  obtain ⟨catalogue, hshown⟩ := hreachable.sound.exists_catalogue
  have hvalues := KeyedSet.coe_valueList hshown.hashed
  have hplain : ∀ mapping ∈ catalogue.values, mapping.triple.Plain := by
    intro mapping hmem
    apply hstored
    rw [← Multiset.mem_coe]
    exact hvalues ▸ hmem
  refine ⟨catalogue, hvalues.symm, fun events hevents => ?_⟩
  refine (Machine.run_refines (R := fun catalogue server => Catalogue.ShownBy catalogue server ∧
    ∀ mapping ∈ catalogue.values, mapping.triple.Plain) events ?_ ⟨hshown, hplain⟩).1.symm
  rintro event hevent catalogue server ⟨hshown, hplain⟩
  have hfree : ∀ triple, event.triple? = some triple →
      ¬ Collides Triple.hash catalogue.find? triple := by
    rintro triple htriple ⟨other, hne, hpresent, hhash⟩
    obtain ⟨mapping, hfind⟩ := Option.isSome_iff_exists.1 hpresent
    obtain ⟨hmem, rfl⟩ := KeyedSet.find?_eq_some.1 hfind
    exact hne ((hplain mapping hmem).hash_inj (hevents event hevent triple htriple) hhash)
  obtain ⟨hanswer, hnext⟩ := hshown.answers event hfree
  refine ⟨hanswer, hnext, fun mapping hmem => ?_⟩
  rcases Catalogue.triple_of_respond hmem with ⟨existing, hexisting, htriple⟩ | htriple
  · exact htriple ▸ hplain existing hexisting
  · exact hevents event hevent mapping.triple htriple

end Runs

end OnCxxtools

/-! ### A server with one mapping -/

open scoped Secw.Reference

theorem serverOfOne_answers_eq_iff :
    ∃ catalogue : Catalogue, catalogue.values.val = serverOfOne.activeMapping.getAllMappings ∧
      ∀ events, (Machine.run MappingEvent.perform events serverOfOne).1 =
          (Machine.run Catalogue.respond events catalogue).1 ↔
        Machine.Along Catalogue.respond (fun event catalogue => ¬ event.Collides catalogue) events
          catalogue :=
  Catalogue.answers_eq_iff serverOfOne reachable_serverOfOne

theorem serverOfOne_answers :
    ∃ catalogue : Catalogue, catalogue.values.val = serverOfOne.activeMapping.getAllMappings ∧
      ∀ events, (∀ event ∈ events, MappingEvent.Plain event) →
        (Machine.run MappingEvent.perform events serverOfOne).1 =
          (Machine.run Catalogue.respond events catalogue).1 := by
  refine Catalogue.answers_of_plain serverOfOne reachable_serverOfOne ?_
  intro mapping hmem
  obtain ⟨hash, hlookup⟩ := StdMap.mem_valueList.1 hmem
  rw [lookup_serverOfOne] at hlookup
  split at hlookup
  · obtain rfl := Option.some.inj hlookup
    exact ⟨by decide, by decide⟩
  · cases hlookup

end Cam
