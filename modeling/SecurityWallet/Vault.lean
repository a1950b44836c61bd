import SecurityWallet.Foundation.NamedTable
import SecurityWallet.Proof.DocumentDecoder
import SecurityWallet.Server

/-!
# What the wallet is for

A vault is a set of folders. A folder holds valid documents, each under its own id and with a name of
its own. Clients have rights by usage: consumers read the secrets of the documents of their usages,
producers add, change and remove such documents, and everybody reads what is public. A vault can be
backed up and taken back to a backup, and a restart does nothing to it.

There are no frames, no files, no second index and no decoding here; the server is compared with
this description elsewhere.
-/

open Foundation

namespace Secw

/-- What a client is told of a refusal: an exception of the wallet, or only that there was one. -/
inductive Refusal where
  | described (exception : SecwException)
  | undescribed
deriving DecidableEq, Repr

/-- What is described to a client of an exception. -/
def Refusal.of : Exn → Refusal
  | .secw exception => .described exception
  | .std _ => .undescribed

/-! ### Documents -/

/-- The fields of a body, with those of another one of its type for the secrets left empty. -/
def Body.keeping (body old : Body) : Body :=
  let keep (secret kept : String) := if secret.isEmpty then kept else secret
  match body, old with
  | .snmpv3 doc, .snmpv3 old =>
      .snmpv3 { doc with
        authPassword := keep doc.authPassword old.authPassword
        privPassword := keep doc.privPassword old.privPassword }
  | .userAndPassword doc, .userAndPassword old =>
      .userAndPassword { doc with password := keep doc.password old.password }
  | .internalCertificate doc, .internalCertificate old =>
      .internalCertificate { doc with privateKeyPem := keep doc.privateKeyPem old.privateKeyPem }
  | body, _ => body

/-- A document that replaces another one and keeps its secrets where it has none. -/
def Document.keeping (doc old : Document) : Document :=
  { doc.content with body := doc.body.keeping old.body }

variable [Certificates]

/-- A document that is fit to be stored: it is valid and has its secrets. -/
structure Document.Storable (doc : Document) : Prop where
  valid : doc.validate = .ok ()
  complete : doc.containPrivateData = true

/-- A document with its secrets that was found to be valid. -/
def Document.checked (doc : Document) : Except Refusal { doc : Document // doc.Storable } :=
  match hvalid : doc.content.validate with
  | .ok () => .ok ⟨doc.content, hvalid, rfl⟩
  | .error e => .error (Refusal.of e)

theorem Document.Storable.withId {doc : Document} (hstorable : doc.Storable) (id : Id) :
    { doc with id : Document }.Storable :=
  ⟨hstorable.valid, hstorable.complete⟩

/-! ### Folders -/

/-- The documents of a portfolio. -/
@[ext]
structure Folder extends NamedTable Document.id Document.name where
  storable : ∀ {id : Id} {doc : Document}, rows[id]? = some doc → doc.Storable

/-- How one document is asked for. -/
inductive Key where
  | id (id : Id)
  | name (name : String)
deriving DecidableEq, Repr

namespace Folder

/-- The document that is asked for. -/
def get (folder : Folder) : Key → Except Refusal Document
  | .id id =>
      match folder.rows[id]? with
      | some doc => .ok doc
      | none => .error (.described (secwDocumentDoNotExistException id))
  | .name name =>
      match folder.find? name with
      | some doc => .ok doc
      | none => .error (.described (secwNameDoesNotExistException name))

/-- The ids that are in use. -/
def ids (folder : Folder) : StdSet Id := Std.ExtTreeSet.ofList folder.rows.keys

/-- A document that is fit, in the place of its id, if no other one has its name. -/
def put (folder : Folder) (doc : { doc : Document // doc.Storable }) : Except Refusal Folder :=
  if hfree : folder.Free doc.1 then
    .ok {
      toNamedTable := folder.toNamedTable.put doc.1 hfree
      storable := by
        intro id other hother
        rw [NamedTable.rows_put, StdMap.lookup_insert] at hother
        by_cases hid : doc.1.id = id
        · rw [if_pos hid, Option.some_inj] at hother
          exact hother ▸ doc.2
        · rw [if_neg hid] at hother
          exact folder.storable hother }
  else .error (.described (secwNameAlreadyExistsException doc.1.name))

def erase (folder : Folder) (id : Id) : Folder where
  toNamedTable := folder.toNamedTable.erase id
  storable := by
    intro other doc hdoc
    rw [NamedTable.rows_erase, StdMap.lookup_erase] at hdoc
    by_cases hid : id = other
    · simp [hid] at hdoc
    · rw [if_neg hid] at hdoc
      exact folder.storable hdoc

/-- The folder without documents. -/
def empty : Folder where
  rows := ∅
  keyed := by simp
  named := by simp
  storable := by simp

end Folder

/-! ### Vaults -/

/-- Who has which rights to a folder. The rights of a client may be impossible to tell. -/
structure Rights where
  usages : StdSet UsageId
  consumers : ClientId → Except Refusal (StdSet UsageId)
  producers : ClientId → Except Refusal (StdSet UsageId)

structure Vault where
  rights : StdMap String Rights
  folders : String → Option Folder
  uuids : UuidSource
  /-- The folders of each backup, oldest first. -/
  backups : List (String → Option Folder) := []

/-- What a client asks of a vault. -/
inductive WalletCall where
  | portfolios
  | consumerUsages (portfolio : String)
  | producerUsages (portfolio : String)
  | secret (portfolio : String) (key : Key)
  | secretsOfUsage (portfolio : String) (usage : UsageId)
  | secretsOfIds (portfolio : String) (ids : List Id)
  | view (portfolio : String) (key : Key)
  | viewsOfUsage (portfolio : String) (usage : UsageId)
  | viewsOfIds (portfolio : String) (ids : List Id)
  | insert (portfolio : String) (doc : Document)
  | update (portfolio : String) (doc : Document)
  | delete (portfolio : String) (id : Id)
deriving DecidableEq

inductive Answer where
  | names (names : List String)
  | usages (usages : StdSet UsageId)
  | document (doc : Document)
  | documents (docs : List Document)
  | id (id : Id)
  | done
deriving DecidableEq

namespace Vault

variable (vault : Vault)

def rightsTo (portfolio : String) : Except Refusal Rights :=
  match vault.rights[portfolio]? with
  | some rights => .ok rights
  | none => .error (.described (secwUnknownPortfolioException portfolio))

def consumerUsages (portfolio : String) (client : ClientId) : Except Refusal (StdSet UsageId) := do
  (← vault.rightsTo portfolio).consumers client

def producerUsages (portfolio : String) (client : ClientId) : Except Refusal (StdSet UsageId) := do
  (← vault.rightsTo portfolio).producers client

def folder (portfolio : String) : Except Refusal Folder :=
  match vault.folders portfolio with
  | some folder => .ok folder
  | none => .error (.described (secwUnknownPortfolioException portfolio))

def withFolder (portfolio : String) (folder : Folder) : Vault :=
  { vault with folders := Function.update vault.folders portfolio (some folder) }

omit [Certificates] in
/-- The usages of one who must have some. -/
def someOf (usages : Except Refusal (StdSet UsageId)) (whatArg : String) :
    Except Refusal (StdSet UsageId) := do
  let usages ← usages
  if usages = ∅ then throw (.described (.illegalAccess whatArg))
  return usages

/-! ### Reading -/

omit [Certificates] in
/-- A document that is found, for one whose usages meet its own. -/
def openTo (usages : Except Refusal (StdSet UsageId)) (found : Except Refusal Document) :
    Except Refusal Document := do
  let whatArg := "You do not have access to this document"
  let usages ← someOf usages whatArg
  let doc ← found
  if ¬ StdSet.Meets usages doc.usages then throw (.described (.illegalAccess whatArg))
  return doc

/-- A document with its secrets is read by those who consume one of its usages. -/
def secret (client : ClientId) (portfolio : String) (key : Key) : Except Refusal Document :=
  openTo (vault.consumerUsages portfolio client) do (← vault.folder portfolio).get key

omit [Certificates] in
/-- The usage that is asked for, or without one all usages of the client. -/
def usagesListed (usages : Except Refusal (StdSet UsageId)) (usage : UsageId) :
    Except Refusal (StdSet UsageId) := do
  let whatArg := "You do not have access to this command"
  let usages ← someOf usages whatArg
  if usage = "" then return usages
  if usage ∉ usages then throw (.described (.illegalAccess whatArg))
  return {usage}

def secretsOfUsage (client : ClientId) (portfolio : String) (usage : UsageId) :
    Except Refusal (List Document) := do
  let listed ← usagesListed (vault.consumerUsages portfolio client) usage
  return (← vault.folder portfolio).list.filter fun doc => StdSet.Meets doc.usages listed

def view (portfolio : String) (key : Key) : Except Refusal Document := do
  return (← (← vault.folder portfolio).get key).publicView

/-- Without a usage, all documents. -/
def viewsOfUsage (portfolio : String) (usage : UsageId) : Except Refusal (List Document) := do
  let rights ← vault.rightsTo portfolio
  if usage ≠ "" ∧ usage ∉ rights.usages then
    throw (.described (secwUnknownUsageIDException usage))
  let docs := (← vault.folder portfolio).list.filter fun doc => usage = "" ∨ usage ∈ doc.usages
  return docs.map Document.publicView

omit [Certificates] in
/-- The documents of the ids that are there and open. -/
def eachOf (read : Id → Except Refusal Document) : List Id → Except Refusal (List Document)
  | [] => .ok []
  | id :: ids =>
      match read id with
      | .ok doc => (eachOf read ids).map (doc :: ·)
      | .error (.described (.documentDoNotExistException _ _))
      | .error (.described (.illegalAccess _)) => eachOf read ids
      | .error refusal => .error refusal

/-! ### Writing -/

omit [Certificates] in
/-- The first usage that the client does not have is named. -/
def owned (usages wanted : StdSet UsageId) : Except Refusal Unit :=
  match wanted.toList.find? fun usage => usage ∉ usages with
  | some usage =>
      .error (.described (.illegalAccess ("You do not have access to usage <" ++ usage ++ ">")))
  | none => .ok ()

/-- The usages a client produces in a folder, and the folder. -/
def produced (client : ClientId) (portfolio : String) :
    Except Refusal (StdSet UsageId × Folder) := do
  let usages ← someOf (vault.producerUsages portfolio client)
    "You do not have access to this command"
  return (usages, ← vault.folder portfolio)

/-- A new document gets an id that is not in use; its client produces all of its usages. -/
def insert (client : ClientId) (portfolio : String) (doc : Document) :
    Except Refusal (Answer × Vault) := do
  let (usages, folder) ← vault.produced client portfolio
  let doc ← doc.checked
  owned usages doc.1.usages
  let (id, uuids) := vault.uuids.next folder.ids
  let next ← folder.put ⟨{ doc.1 with id }, doc.2.withId id⟩
  return (.id id, { vault.withFolder portfolio next with uuids })

omit [Certificates] in
/-- The usages that one of two documents has and the other has not. -/
def changedUsages (doc old : Document) : StdSet UsageId :=
  (doc.usages ∪ old.usages).filter fun usage => ¬ (usage ∈ doc.usages ∧ usage ∈ old.usages)

/-- A document is replaced by one of its type; the client produces the usages this changes. -/
def update (client : ClientId) (portfolio : String) (doc : Document) :
    Except Refusal (Answer × Vault) := do
  let (usages, folder) ← vault.produced client portfolio
  let old ← folder.get (.id doc.id)
  owned usages (changedUsages doc old)
  if old.getType ≠ doc.getType then
    throw (.described (secwInvalidDocumentFormatException docTypeEntry))
  let next ← folder.put (← (doc.keeping old).checked)
  return (.done, vault.withFolder portfolio next)

/-- A document is removed by one who produces all of its usages. -/
def delete (client : ClientId) (portfolio : String) (id : Id) : Except Refusal (Answer × Vault) := do
  let (usages, folder) ← vault.produced client portfolio
  let old ← folder.get (.id id)
  owned usages old.usages
  return (.done, vault.withFolder portfolio (folder.erase id))

/-- What a call answers, and the vault after it. -/
def answer (client : ClientId) : WalletCall → Except Refusal (Answer × Vault)
  | .portfolios => return (.names vault.rights.keys, vault)
  | .consumerUsages portfolio => return (.usages (← vault.consumerUsages portfolio client), vault)
  | .producerUsages portfolio => return (.usages (← vault.producerUsages portfolio client), vault)
  | .secret portfolio key => return (.document (← vault.secret client portfolio key), vault)
  | .secretsOfUsage portfolio usage =>
      return (.documents (← vault.secretsOfUsage client portfolio usage), vault)
  | .secretsOfIds portfolio ids =>
      return (.documents (← eachOf (fun id => vault.secret client portfolio (.id id)) ids), vault)
  | .view portfolio key => return (.document (← vault.view portfolio key), vault)
  | .viewsOfUsage portfolio usage =>
      return (.documents (← vault.viewsOfUsage portfolio usage), vault)
  | .viewsOfIds portfolio ids =>
      return (.documents (← eachOf (fun id => vault.view portfolio (.id id)) ids), vault)
  | .insert portfolio doc => vault.insert client portfolio doc
  | .update portfolio doc => vault.update client portfolio doc
  | .delete portfolio id => vault.delete client portfolio id

end Vault

/-! ### What happens to a vault -/

inductive VaultEvent where
  | call (client : ClientId) (call : WalletCall)
  | restart
  | backup (passphrase : String)
  /-- Takes the vault back to the backup of the number. -/
  | restore (number : Nat)
deriving DecidableEq

namespace Vault

/-- What an event answers; one that is refused changes nothing. -/
def respond : Machine Vault VaultEvent (Except Refusal Answer)
  | .call client call, vault =>
      match vault.answer client call with
      | .ok (answer, next) => (.ok answer, next)
      | .error refusal => (.error refusal, vault)
  | .restart, vault => (.ok .done, vault)
  | .backup passphrase, vault =>
      if 8 ≤ (strToBytes passphrase).length then
        (.ok .done, { vault with backups := vault.backups ++ [vault.folders] })
      else (.error .undescribed, vault)
  | .restore number, vault =>
      match vault.backups[number]? with
      | some folders => (.ok .done, { vault with folders })
      | none => (.error .undescribed, vault)

end Vault

end Secw
