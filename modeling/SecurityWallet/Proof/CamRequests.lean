import SecurityWallet.Foundation.Hoare
import SecurityWallet.Proof.CamRefinement

/-!
# What a request to the mappings can do

A request leaves the server as it is, or it is a command that stores one mapping or erases one key
and saves. A request that is answered with an error always leaves the server.
-/

open Foundation SerializationInfo Effect

namespace Cam

theorem Command.name_of_ofName? {cmd : String} {command : Command}
    (hfind : Command.ofName? cmd = some command) : command.name = cmd := by
  simpa using List.find?_some hfind

namespace CredentialAssetMappingServer

variable [Cxxtools]

/-- What the commands that change the store leave when they return. -/
inductive Change (server : CredentialAssetMappingServer) : CredentialAssetMappingServer → Prop
  | set (mapping : CredentialAssetMapping) (hfilled : mapping.triple.Filled) :
      Change server (saved (server.activeMapping.mappings.insert mapping.triple.hash mapping))
  | erase (hash : Hash) : Change server (saved (server.activeMapping.mappings.erase hash))

/-- The computation makes a change, or throws and leaves the server. -/
def Changes {α : Type} (act : Effect Exn CredentialAssetMappingServer α) : Prop :=
  ∀ server, Ensures act server (fun _ next => Change server next) (fun _ next => next = server)

/-- The computation leaves the server, whichever way it ends. -/
def ReadsOnly {α : Type} (act : Effect Exn CredentialAssetMappingServer α) : Prop :=
  ∀ server, Ensures act server (fun _ next => next = server) (fun _ next => next = server)

/-! ### Commands that change the store -/

theorem changes_store (mapping : CredentialAssetMapping) :
    Changes (do
      onStorage (CredentialAssetMappingStorage.setMapping mapping)
      onStorage CredentialAssetMappingStorage.save
      return "") := by
  intro server
  rw [ensures_bind, onStorage, ensures_zoom, Ensures, CredentialAssetMappingStorage.setMapping_exec]
  by_cases hfilled : mapping.triple.Filled
  · rw [if_pos hfilled]
    exact Change.set mapping hfilled
  · rw [if_neg hfilled]

/-- A call without state is followed by what comes after it, or it throws and leaves the server. -/
theorem changes_liftM_bind {α β : Type} (call : Except Exn α)
    {next : α → Effect Exn CredentialAssetMappingServer β} (hnext : ∀ a, Changes (next a)) :
    Changes (liftM call >>= next) := by
  intro server
  rw [ensures_bind, ensures_liftM]
  exact ⟨fun a _ => hnext a server, fun _ _ => rfl⟩

theorem handleCreateMapping_changes (sender : Sender) (params : List String) :
    Changes (handleCreateMapping sender params) := by
  apply changes_liftM_bind
  intro mapping server
  rw [ensures_bind, ensures_get]
  split
  · rfl
  · exact changes_store mapping server

theorem handleUpdateMapping_changes (sender : Sender) (params : List String) :
    Changes (handleUpdateMapping sender params) := by
  apply changes_liftM_bind
  intro mapping server
  rw [ensures_bind, ensures_get]
  split
  · rfl
  · exact changes_store mapping server

theorem handleUpdateField_changes
    (update : (existing received : CredentialAssetMapping) → CredentialAssetMapping)
    (sender : Sender) (params : List String) : Changes (handleUpdateField update sender params) := by
  apply changes_liftM_bind
  intro received server
  rw [ensures_bind, ensures_get]
  apply changes_liftM_bind
  intro existing
  exact changes_store (update existing received)

/-- The key is erased before the test, which matters only if it was there. -/
theorem handleRemoveMapping_ensures (sender : Sender) (params : List String)
    (server : CredentialAssetMappingServer) :
    Ensures (handleRemoveMapping sender params) server
      (fun _ next => ∃ hash : Hash, next = saved (server.activeMapping.mappings.erase hash))
      fun _ next => next = server := by
  unfold handleRemoveMapping
  rw [ensures_bind, ensures_liftM]
  refine ⟨fun triple _ => ?_, fun _ _ => rfl⟩
  obtain ⟨asset, service, protocol⟩ := triple
  dsimp only
  rw [ensures_bind, onStorage, ensures_zoom, CredentialAssetMappingStorage.removeMapping,
    ensures_bind, ensures_get, ensures_bind, ensures_modify]
  split
  · next habsent =>
      have herase : server.activeMapping.mappings.erase
          (CredentialAssetMappingStorage.computeHash asset service protocol) =
            server.activeMapping.mappings := by
        apply Std.ExtTreeMap.ext_getElem?
        intro hash
        rw [StdMap.lookup_erase]
        split
        · next hhash =>
            subst hhash
            rw [StdMap.contains_eq_isSome, Option.isSome_iff_ne_none, not_not] at habsent
            exact habsent.symm
        · rfl
      rw [ensures_throw, herase]
  · exact ⟨_, rfl⟩

theorem handleRemoveMapping_changes (sender : Sender) (params : List String) :
    Changes (handleRemoveMapping sender params) := by
  intro server
  refine (handleRemoveMapping_ensures sender params server).imp ?_ fun _ _ h => h
  rintro _ _ ⟨hash, rfl⟩
  exact .erase hash

/-! ### Commands that read -/

theorem handleGetMapping_readsOnly (sender : Sender) (params : List String) :
    ReadsOnly (handleGetMapping sender params) := by
  intro server
  unfold handleGetMapping
  rw [ensures_bind, ensures_liftM]
  refine ⟨fun triple _ => ?_, fun _ _ => rfl⟩
  obtain ⟨asset, service, protocol⟩ := triple
  simp only [ensures_bind, ensures_get, ensures_liftM, ensures_pure, implies_true, and_true]

theorem handleGetAssetMappings_readsOnly (sender : Sender) (params : List String) :
    ReadsOnly (handleGetAssetMappings sender params) := by
  intro server
  unfold handleGetAssetMappings
  split <;> rfl

theorem handleGetMappings_readsOnly (sender : Sender) (params : List String) :
    ReadsOnly (handleGetMappings sender params) := by
  intro server
  unfold handleGetMappings
  split <;> rfl

theorem handleGetCredentialMappings_readsOnly (sender : Sender) (params : List String) :
    ReadsOnly (handleGetCredentialMappings sender params) := by
  intro server
  unfold handleGetCredentialMappings
  split <;> rfl

theorem handleCountCredentialMappings_readsOnly (sender : Sender) (params : List String) :
    ReadsOnly (handleCountCredentialMappingsForCredential sender params) := by
  intro server
  unfold handleCountCredentialMappingsForCredential
  split <;> rfl

/-- The commands that change the store. -/
def isWriting : Command → Bool
  | .createMapping | .updateMapping | .updatePortMapping | .updateCredentialMapping
  | .updateStatusMapping | .updateInfoMapping | .removeMapping => true
  | _ => false

theorem handler_readsOnly {command : Command} (hreading : isWriting command = false)
    (sender : Sender) (params : List String) : ReadsOnly (handler command sender params) := by
  cases command with
  | getMapping => exact handleGetMapping_readsOnly sender params
  | getAssetMappings => exact handleGetAssetMappings_readsOnly sender params
  | getCredMappings => exact handleGetCredentialMappings_readsOnly sender params
  | getMappings => exact handleGetMappings_readsOnly sender params
  | getAllMappings => exact fun _ => rfl
  | countCredMappings => exact handleCountCredentialMappings_readsOnly sender params
  | _ => exact absurd hreading (by decide)

theorem handler_changes {command : Command} (hwriting : isWriting command = true)
    (sender : Sender) (params : List String) : Changes (handler command sender params) := by
  cases command with
  | createMapping => exact handleCreateMapping_changes sender params
  | updateMapping => exact handleUpdateMapping_changes sender params
  | updatePortMapping => exact handleUpdateField_changes updatePort sender params
  | updateCredentialMapping => exact handleUpdateField_changes updateCredential sender params
  | updateStatusMapping => exact handleUpdateField_changes updateStatus sender params
  | updateInfoMapping => exact handleUpdateField_changes updateInfo sender params
  | removeMapping => exact handleRemoveMapping_changes sender params
  | _ => exact absurd hwriting (by decide)

/-! ### Requests -/

/-- How a request can end. -/
inductive Outcome (request : Request) (server : CredentialAssetMappingServer) :
    List String → CredentialAssetMappingServer → Prop
  | failed (e : Exn) : Outcome request server (errorReply e) server
  | ignored {cmd params} (hpayload : request.payload = cmd :: params)
      (hcmd : cmd = "ERROR" ∨ cmd = "OK") : Outcome request server [] server
  | read {command params} (result : String)
      (hpayload : request.payload = Command.name command :: params)
      (hreading : isWriting command = false) : Outcome request server [result] server
  | changed {command params next} (result : String)
      (hpayload : request.payload = Command.name command :: params)
      (hwriting : isWriting command = true) (hchange : Change server next) :
      Outcome request server [result] next

theorem processRequest_ensures (request : Request) (server : CredentialAssetMappingServer) :
    Ensures (processRequest request) server (Outcome request server)
      (fun _ next => next = server) := by
  unfold processRequest
  split
  · rfl
  · next cmd params hpayload =>
      split
      · next hcmd => exact .ignored hpayload hcmd
      · split
        · rfl
        · next command hcommand =>
            rw [← Command.name_of_ofName? hcommand] at hpayload
            simp only [ensures_bind, ensures_pure]
            cases hwriting : isWriting command with
            | false =>
                refine (handler_readsOnly hwriting _ _ server).imp ?_ fun _ _ h => h
                rintro result _ rfl
                exact .read result hpayload hwriting
            | true =>
                refine (handler_changes hwriting _ _ server).imp ?_ fun _ _ h => h
                intro result next hchange
                exact .changed result hpayload hwriting hchange

/-- Every request ends in one of the ways of `Outcome`. -/
theorem handleRequest_outcome (request : Request) (server : CredentialAssetMappingServer) :
    Outcome request server (handleRequest request server).1 (handleRequest request server).2 := by
  have hensures := processRequest_ensures request server
  unfold Ensures at hensures
  unfold handleRequest
  split at hensures
  · next hexec =>
      rw [hexec]
      exact hensures
  · next hexec =>
      rw [hexec, hensures]
      exact .failed _

/-- The request was answered with an error. -/
def Failed (frames : List String) : Prop := ∃ description, frames = ["ERROR", description]

theorem unchanged_of_failed {request : Request} {server : CredentialAssetMappingServer}
    (hfailed : Failed (handleRequest request server).1) :
    (handleRequest request server).2 = server := by
  have houtcome := handleRequest_outcome request server
  generalize (handleRequest request server).1 = frames at houtcome hfailed
  generalize (handleRequest request server).2 = next at houtcome ⊢
  cases houtcome with
  | changed result hpayload hwriting hchange =>
      obtain ⟨description, hframes⟩ := hfailed
      simp at hframes
  | _ => rfl

end CredentialAssetMappingServer

end Cam
