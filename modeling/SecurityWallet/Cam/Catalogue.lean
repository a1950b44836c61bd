import SecurityWallet.Foundation.KeyedSet
import SecurityWallet.Proof.CamLastWriter

/-!
# What the mappings are for

A catalogue is a set of mappings with at most one for each asset, service and protocol, all three of
them named. Clients create, update, remove, look up, list and count mappings; a list has each mapping
it is about once, in no order. There is no file, no key made of strings and no request here.
-/

open Foundation SerializationInfo

namespace Cam

/-- A call of the library of the mappings. -/
inductive MappingCall where
  | create (mapping : CredentialAssetMapping)
  | update (triple : Triple) (update : Accessor.Update)
  | remove (triple : Triple)
  | read (read : Accessor.Read)

inductive MappingAnswer where
  | done
  | found (mapping : CredentialAssetMapping)
  | existing (present : Bool)
  | listed (mappings : Multiset CredentialAssetMapping)
  | count (uses : UInt32)
  | counters (counters : CredentialId → Option UInt32)

def MappingAnswer.ofList (mappings : List CredentialAssetMapping) : MappingAnswer :=
  .listed mappings

def MappingAnswer.ofMap (counters : StdMap CredentialId UInt32) : MappingAnswer :=
  .counters fun credentialId => counters[credentialId]?

inductive MappingEvent where
  | call (client : Sender) (call : MappingCall)
  | restart

def Accessor.Read.triple? : Accessor.Read → Option Triple
  | .getMapping asset service protocol | .isMappingExisting asset service protocol =>
      some (asset, service, protocol)
  | _ => none

/-- The triple that the event is about. -/
def MappingEvent.triple? : MappingEvent → Option Triple
  | .call _ (.create mapping) => some mapping.triple
  | .call _ (.update triple _) | .call _ (.remove triple) => some triple
  | .call _ (.read read) => read.triple?
  | .restart => none

/-! ### Catalogues -/

structure Catalogue extends KeyedSet CredentialAssetMapping.triple where
  filled : ∀ mapping ∈ values, mapping.triple.Filled

namespace Catalogue

variable (catalogue : Catalogue)

def put (mapping : CredentialAssetMapping) (hfilled : mapping.triple.Filled) : Catalogue where
  toKeyedSet := catalogue.write mapping.triple (some mapping) (by simp)
  filled := by
    intro other hother
    rcases KeyedSet.mem_write.1 hother with ⟨hmem, -⟩ | hother
    · exact catalogue.filled other hmem
    · exact Option.some.inj hother ▸ hfilled

def erase (triple : Triple) : Catalogue where
  toKeyedSet := catalogue.write triple none (by simp)
  filled := by
    intro other hother
    rcases KeyedSet.mem_write.1 hother with ⟨hmem, -⟩ | hother
    · exact catalogue.filled other hmem
    · cases hother

variable {catalogue} in
theorem mem_put {mapping other : CredentialAssetMapping} {hfilled : mapping.triple.Filled} :
    other ∈ (catalogue.put mapping hfilled).values ↔
      other ∈ catalogue.values ∧ other.triple ≠ mapping.triple ∨ mapping = other := by
  rw [put, KeyedSet.mem_write, Option.some_inj]

variable {catalogue} in
theorem mem_erase {triple : Triple} {other : CredentialAssetMapping} :
    other ∈ (catalogue.erase triple).values ↔ other ∈ catalogue.values ∧ other.triple ≠ triple := by
  rw [erase, KeyedSet.mem_write]
  simp

/-- A mapping that is in the catalogue, with the fields that the update writes. -/
def updated {existing : CredentialAssetMapping} (hexisting : existing ∈ catalogue.values)
    (update : Accessor.Update) : Catalogue :=
  catalogue.put (update.write existing)
    (show (update.write existing).triple.Filled from catalogue.filled existing hexisting)

variable {catalogue} in
theorem mem_updated {existing other : CredentialAssetMapping}
    {hexisting : existing ∈ catalogue.values} {update : Accessor.Update} :
    other ∈ (catalogue.updated hexisting update).values ↔
      other ∈ catalogue.values ∧ other.triple ≠ existing.triple ∨ update.write existing = other := by
  rw [updated, mem_put]
  rfl

def list (P : CredentialAssetMapping → Prop) [DecidablePred P] : Multiset CredentialAssetMapping :=
  catalogue.values.val.filter P

def uses (credentialId : CredentialId) : Nat :=
  (catalogue.list fun mapping => mapping.credentialId = credentialId).card

/-- What a call that reads is answered. -/
noncomputable def look : Accessor.Read → Except Exn MappingAnswer
  | .getMapping asset service protocol =>
      match catalogue.find? (asset, service, protocol) with
      | some mapping => .ok (.found mapping)
      | none => .error (.cam (camMappingDoesNotExistException asset service protocol))
  | .isMappingExisting asset service protocol =>
      .ok (.existing (catalogue.find? (asset, service, protocol)).isSome)
  | .getAssetMappings asset => .ok (.listed (catalogue.list fun mapping => mapping.assetId = asset))
  | .getMappings asset service =>
      .ok (.listed (catalogue.list fun mapping =>
        mapping.assetId = asset ∧ mapping.serviceId = service))
  | .getAllMappings => .ok (.listed catalogue.values.val)
  | .getCredentialMappings credentialId =>
      .ok (.listed (catalogue.list fun mapping => mapping.credentialId = credentialId))
  | .countCredentialMappingsForCredential credentialId =>
      .ok (.count (UInt32.ofNat (catalogue.uses credentialId)))
  | .getAllCredentialCounter =>
      .ok (.counters fun credentialId =>
        if credentialId = "" ∨ catalogue.uses credentialId = 0 then none
        else some (UInt32.ofNat (catalogue.uses credentialId)))

noncomputable def answer : MappingCall → Except Exn (MappingAnswer × Catalogue)
  | .create mapping =>
      if (catalogue.find? mapping.triple).isSome then
        .error (.cam (camMappingAlreadyExistsException mapping.assetId mapping.serviceId
          mapping.protocol))
      else if hfilled : mapping.triple.Filled then
        .ok (.done, catalogue.put mapping hfilled)
      else .error (.cam (.generic "Bad format"))
  | .update (asset, service, protocol) update =>
      match hfind : catalogue.find? (asset, service, protocol) with
      | some _ => .ok (.done, catalogue.updated (KeyedSet.find?_eq_some.1 hfind).1 update)
      | none => .error (.cam (camMappingDoesNotExistException asset service protocol))
  | .remove (asset, service, protocol) =>
      if (catalogue.find? (asset, service, protocol)).isSome then
        .ok (.done, catalogue.erase (asset, service, protocol))
      else .error (.cam (camMappingDoesNotExistException asset service protocol))
  | .read read => (catalogue.look read).map fun answer => (answer, catalogue)

/-- What an event answers; one that is refused changes nothing. -/
noncomputable def respond : Machine Catalogue MappingEvent (Except Exn MappingAnswer)
  | .call _ call, catalogue =>
      match catalogue.answer call with
      | .ok (answer, next) => (.ok answer, next)
      | .error e => (.error e, catalogue)
  | .restart, catalogue => (.ok .done, catalogue)

end Catalogue

/-! ### The server -/

variable [Cxxtools] [CxxtoolsClient]

/-- The call of the library that reads, with what it returns. -/
def Accessor.Read.exec (client : Sender) : Accessor.Read → Accessor.Call MappingAnswer
  | .getMapping asset service protocol =>
      .found <$> Accessor.getMapping client asset service protocol
  | .isMappingExisting asset service protocol =>
      .existing <$> Accessor.isMappingExisting client asset service protocol
  | .getAssetMappings asset => .ofList <$> Accessor.getAssetMappings client asset
  | .getMappings asset service => .ofList <$> Accessor.getMappings client asset service
  | .getAllMappings => .ofList <$> Accessor.getAllMappings client
  | .getCredentialMappings credentialId =>
      .ofList <$> Accessor.getCredentialMappings client credentialId
  | .countCredentialMappingsForCredential credentialId =>
      .count <$> Accessor.countCredentialMappingsForCredential client credentialId
  | .getAllCredentialCounter => .ofMap <$> Accessor.getAllCredentialCounter client

def MappingCall.exec (client : Sender) : MappingCall → Accessor.Call MappingAnswer
  | .create mapping => (fun _ => .done) <$> Accessor.createMapping client mapping
  | .update triple change => (fun _ => .done) <$> change.perform client triple
  | .remove (asset, service, protocol) =>
      (fun _ => .done) <$> Accessor.removeMapping client asset service protocol
  | .read looked => looked.exec client

/-- The server answers calls, and its process may start again on the file it left. -/
def MappingEvent.perform :
    Machine CredentialAssetMappingServer MappingEvent (Except Exn MappingAnswer)
  | .call client asked, server => (asked.exec client).exec server
  | .restart, server =>
      match CredentialAssetMappingStorage.construct server.activeMapping.database with
      | some activeMapping => (.ok .done, { activeMapping })
      | none => (.error (.std "EXIT_FAILURE"), server)

end Cam
