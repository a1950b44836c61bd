import SecurityWallet.Proof.VaultRefinement

/-!
# The history of a document

What a wallet holds under an id can be told from what was answered: the log of a run is replayed for
the id, and a restore takes it back to what it was at the backup. Between writers nothing is lost.
Each secret of a document is the last one that was given for it, and its public part is that of the
last update.
-/

open Foundation Machine

namespace Secw

/-! ### Replaying a log -/

/-- A document over time, and what it was at each backup. -/
structure History where
  now : Option Document
  archived : List (Option Document) := []

/-- What an entry of the log tells of the document of the id. -/
def History.replay (portfolio : String) (id : Id) (history : History) :
    VaultEvent × Except Refusal Answer → History
  | (.call _ (.insert name doc), .ok (.id new)) =>
      if name = portfolio ∧ new = id then { history with now := some { doc.content with id } }
      else history
  | (.call _ (.update name doc), .ok _) =>
      if name = portfolio ∧ doc.id = id then { history with now := history.now.map doc.keeping }
      else history
  | (.call _ (.delete name deleted), .ok _) =>
      if name = portfolio ∧ deleted = id then { history with now := none } else history
  | (.backup _, .ok _) => { history with archived := history.archived ++ [history.now] }
  | (.restore number, .ok _) => { history with now := history.archived[number]?.join }
  | _ => history

/-- The document that an entry of the log stores over the one of the id. -/
def History.updateOf (portfolio : String) (id : Id) :
    VaultEvent × Except Refusal Answer → Option Document
  | (.call _ (.update name doc), .ok _) =>
      if name = portfolio ∧ doc.id = id then some doc else none
  | _ => none

/-- The entry takes the document of the id away, or puts another one in its place. -/
def History.Removes (portfolio : String) (id : Id) : VaultEvent × Except Refusal Answer → Prop
  | (.call _ (.delete name deleted), .ok _) => name = portfolio ∧ deleted = id
  | (.restore _, .ok _) => True
  | _ => False

theorem Document.publicView_keeping (doc old : Document) :
    (doc.keeping old).publicView = doc.publicView := by
  have hbody : (doc.body.keeping old.body).withoutSecret = doc.body.withoutSecret := by
    cases doc.body <;> cases old.body <;> rfl
  rw [publicView, withoutSecret, keeping, hbody]
  rfl

theorem Document.getType_keeping (doc old : Document) :
    (doc.keeping old).getType = doc.getType := by
  rw [getType, keeping]
  cases hdoc : doc.body <;> cases old.body <;> rw [getType, hdoc] <;> rfl

/-- The value that a document gives for a private field, if it gives one. -/
def Document.given (field : String) (doc : Document) : Option String :=
  (doc.body.secret field).filter fun secret => ¬ secret.isEmpty

/-- A private field with the value that is kept where it is empty. -/
def Body.keepSecret (secret kept : String × String) : String × String :=
  (secret.1, if secret.2.isEmpty then kept.2 else secret.2)

theorem Body.secrets_keeping {body old : Body} (htype : body.type = old.type) :
    (body.keeping old).secrets = List.zipWith keepSecret body.secrets old.secrets ∧
      body.secrets.map Prod.fst = old.secrets.map Prod.fst := by
  cases body <;> cases old <;> simp only [Body.type] at htype <;>
    first | contradiction | exact ⟨rfl, rfl⟩

theorem Body.lookup_keepSecret {field value : String} (secrets kept : List (String × String))
    (hfields : secrets.map Prod.fst = kept.map Prod.fst)
    (hvalue : kept.lookup field = some value) :
    (List.zipWith keepSecret secrets kept).lookup field =
      some (((secrets.lookup field).filter fun secret => ¬ secret.isEmpty).getD value) := by
  induction secrets generalizing kept with
  | nil =>
      cases kept with
      | nil => cases hvalue
      | cons _ _ => cases hfields
  | cons secret secrets ih =>
      cases kept with
      | nil => cases hvalue
      | cons first kept =>
          rw [List.map_cons, List.map_cons, List.cons.injEq] at hfields
          rw [List.lookup_cons] at hvalue
          rw [List.zipWith_cons_cons, List.lookup_cons, List.lookup_cons, keepSecret, hfields.1]
          by_cases hfield : field = first.1
          · rw [beq_iff_eq.2 hfield] at hvalue ⊢
            rw [← Option.some.inj hvalue]
            dsimp only
            rw [Option.filter_some]
            cases secret.2.isEmpty <;> rfl
          · rw [beq_eq_false_iff_ne.2 hfield] at hvalue ⊢
            exact ih kept hfields.2 hvalue

/-- A document that is stored has the secrets it gives, and keeps the others. -/
theorem Document.secret_keeping {doc old : Document} (htype : doc.getType = old.getType)
    {field value : String} (hold : old.body.secret field = some value) :
    (doc.keeping old).body.secret field = some ((doc.given field).getD value) := by
  obtain ⟨hsecrets, hfields⟩ := Body.secrets_keeping htype
  rw [Body.secret, Document.keeping, hsecrets]
  exact Body.lookup_keepSecret _ _ hfields hold

section Replay

variable [Certificates]

def documentIn (folders : String → Option Folder) (portfolio : String) (id : Id) : Option Document :=
  (folders portfolio).bind fun folder => folder.rows[id]?

namespace Vault

variable {vault next : Vault} {portfolio : String} {id : Id}

def history (portfolio : String) (id : Id) (vault : Vault) : History where
  now := documentIn vault.folders portfolio id
  archived := vault.backups.map fun folders => documentIn folders portfolio id

theorem documentIn_of_folder {name : String} {folder : Folder}
    (hfolder : vault.folders name = some folder) :
    documentIn vault.folders name id = folder.rows[id]? := by
  rw [documentIn, hfolder, Option.bind_some]

/-- A write to one row of a folder changes the history of that document only. -/
theorem history_withFolder {name : String} {folder written : Folder} {changed : Id}
    {row : Option Document} (hfolder : vault.folders name = some folder)
    (hrows : ∀ other, written.rows[other]? =
      if changed = other then row else folder.rows[other]?) :
    (vault.withFolder name written).history portfolio id =
      if name = portfolio ∧ changed = id then { vault.history portfolio id with now := row }
      else vault.history portfolio id := by
  have hnow : documentIn (vault.withFolder name written).folders portfolio id =
      if name = portfolio ∧ changed = id then row
      else documentIn vault.folders portfolio id := by
    by_cases hname : name = portfolio
    · subst hname
      have hown : (vault.withFolder name written).folders name = some written :=
        Function.update_self ..
      rw [documentIn_of_folder hown, hrows, documentIn_of_folder hfolder]
      simp only [true_and]
    · rw [if_neg fun hboth => hname hboth.1, documentIn, withFolder]
      dsimp only
      rw [Function.update_of_ne (Ne.symm hname)]
      rfl
  rw [history, hnow]
  split <;> rfl

/-- A step does to the document what its entry in the log tells. -/
theorem Step.history {event : VaultEvent} {answer : Except Refusal Answer}
    (hstep : vault.Step event answer next) :
    next.history portfolio id = (vault.history portfolio id).replay portfolio id (event, answer) := by
  cases hstep with
  | refused refusal =>
      cases event with
      | call client call => cases call <;> rfl
      | _ => rfl
  | @read client call answer hread => cases call <;> first | rfl | cases hread
  | @inserted client name doc folder next new uuids hproduces hfresh hrows =>
      have hrow : ∀ other, next.rows[other]? =
          if new = other then some { doc.content with id := new } else folder.rows[other]? := by
        intro other
        rw [hrows, StdMap.lookup_insert]
      refine (history_withFolder hproduces.folder hrow).trans ?_
      by_cases hboth : name = portfolio ∧ new = id
      · obtain ⟨rfl, rfl⟩ := hboth
        rfl
      · rw [History.replay, if_neg hboth, if_neg hboth]
  | @updated client name doc old folder next hproduces hold htype hrows =>
      rw [History.replay, history_withFolder hproduces.folder fun other => by
        rw [hrows, StdMap.lookup_insert]]
      by_cases hboth : name = portfolio ∧ doc.id = id
      · obtain ⟨rfl, rfl⟩ := hboth
        have hnow : (vault.history name doc.id).now = some old :=
          (documentIn_of_folder hproduces.folder).trans hold
        rw [hnow]
        rfl
      · rw [if_neg hboth, if_neg hboth]
  | @deleted client name deleted old folder hproduces hold =>
      apply history_withFolder hproduces.folder
      intro other
      rw [Folder.erase, NamedTable.rows_erase, StdMap.lookup_erase]
  | restarted => rfl
  | backedUp hlength => rw [History.replay, Vault.history, List.map_append]; rfl
  | @restored number folders hbackup =>
      rw [History.replay, Vault.history]
      simp [Vault.history, hbackup]

/-! ### Updates in turn -/

/-- An entry that does not remove the document updates it, or leaves it. -/
theorem Step.updates {event : VaultEvent} {answer : Except Refusal Answer} {old : Document}
    (hstep : vault.Step event answer next)
    (hnow : (vault.history portfolio id).now = some old)
    (hkept : ¬ History.Removes portfolio id (event, answer)) :
    match History.updateOf portfolio id (event, answer) with
    | some doc => doc.getType = old.getType ∧
        (next.history portfolio id).now = some (doc.keeping old)
    | none => (next.history portfolio id).now = some old := by
  rw [hstep.history]
  cases hstep with
  | refused refusal =>
      cases event with
      | call client call => cases call <;> exact hnow
      | _ => exact hnow
  | @read client call answer hread => cases call <;> first | exact hnow | cases hread
  | @inserted client name doc folder next new uuids hproduces hfresh hrows =>
      -- the id of a new document was not in use
      have hother : ¬ (name = portfolio ∧ new = id) := by
        rintro ⟨rfl, rfl⟩
        have hnone := (documentIn_of_folder hproduces.folder).trans hfresh
        rw [Vault.history, hnone] at hnow
        cases hnow
      rw [History.replay, if_neg hother]
      exact hnow
  | @updated client name doc old' folder next hproduces hold htype hrows =>
      rw [History.updateOf, History.replay]
      by_cases hboth : name = portfolio ∧ doc.id = id
      · rw [if_pos hboth, if_pos hboth, hnow]
        obtain ⟨rfl, rfl⟩ := hboth
        have hsame := (documentIn_of_folder hproduces.folder).trans hold
        rw [Vault.history, hsame] at hnow
        obtain rfl := Option.some.inj hnow
        exact ⟨htype.symm, rfl⟩
      · rw [if_neg hboth, if_neg hboth]
        exact hnow
  | @deleted client name deleted old' folder hproduces hold =>
      have hother : ¬ (name = portfolio ∧ deleted = id) := hkept
      rw [History.replay, if_neg hother]
      exact hnow
  | restarted => exact hnow
  | backedUp hlength => exact hnow
  | restored hbackup => exact absurd trivial hkept

/-- What a run makes of a document that stays: the last public part, and the last of each secret. -/
theorem run_updates (events : List VaultEvent) {old : Document}
    (hnow : (vault.history portfolio id).now = some old)
    (hkept : ∀ entry ∈ log respond events vault, ¬ History.Removes portfolio id entry) :
    ∃ doc, ((run respond events vault).2.history portfolio id).now = some doc ∧
      doc.getType = old.getType ∧
      doc.publicView = lastWrite (fun entry =>
        (History.updateOf portfolio id entry).map Document.publicView)
          (log respond events vault) old.publicView ∧
      ∀ field value, old.body.secret field = some value → doc.body.secret field =
        some (lastWrite (fun entry =>
          (History.updateOf portfolio id entry).bind (Document.given field))
            (log respond events vault) value) := by
  induction events generalizing vault old with
  | nil => exact ⟨old, hnow, rfl, rfl, fun _ _ hvalue => hvalue⟩
  | cons event events ih =>
      rw [log_cons, List.forall_mem_cons] at hkept
      have hstep := (respond_step event vault).updates hnow hkept.1
      rw [run_cons]
      simp only [log_cons, lastWrite_cons]
      cases hupdate : History.updateOf portfolio id (event, (respond event vault).1) with
      | none =>
          rw [hupdate] at hstep
          exact ih hstep hkept.2
      | some doc =>
          rw [hupdate] at hstep
          obtain ⟨htype, hnext⟩ := hstep
          obtain ⟨last, hlast, hlastType, hpublic, hsecrets⟩ := ih hnext hkept.2
          rw [Document.getType_keeping] at hlastType
          rw [Document.publicView_keeping] at hpublic
          refine ⟨last, hlast, hlastType.trans htype, hpublic, ?_⟩
          intro field value hvalue
          exact hsecrets field _ (Document.secret_keeping htype hvalue)

end Vault

end Replay

/-! ### The log of a site -/

section Sites

variable [Platform]

/-- What the portfolio that the name finds has under the id. -/
def SecurityWallet.stored (portfolioName : String) (id : Id) (wallet : SecurityWallet) :
    Option Document :=
  (wallet.portfolios.find? fun portfolio => portfolio.name = portfolioName).bind fun portfolio =>
    portfolio.documents[id]?.map Document.content

theorem SecurityWallet.Shows.stored {wallet : SecurityWallet} {vault : Vault}
    (hshows : wallet.Shows vault) (portfolioName : String) (id : Id) :
    wallet.stored portfolioName id = (vault.history portfolioName id).now := by
  have hrel := hshows.folders portfolioName
  unfold SecurityWallet.stored Vault.history documentIn
  generalize vault.folders portfolioName = folder at hrel ⊢
  generalize (wallet.portfolios.find? fun portfolio => portfolio.name = portfolioName) =
    portfolio at hrel ⊢
  cases hrel with
  | none => rfl
  | some hof => exact (hof.lookup id).symm

variable [LawfulCxxtools] [LawfulOpenSSL] [CxxtoolsTexts] [CxxtoolsEmptyText]

/-- What a site holds under an id after a run is what its log tells of the id. -/
theorem Site.stored_eq_replay (server : SecurityWalletServer)
    (hreachable : SecurityWalletServer.ReachableFromEmpty server) (uuid : String)
    (hids : ∀ n, server.uuids.draw n ≠ "ERROR") (hrandoms : server.randoms.NeverFails)
    (hhardware : server.activeWallet.getHardwareUuid = .ok uuid) (portfolioName : String) (id : Id)
    (events : List VaultEvent) :
    (run Site.perform events { server }).2.server.activeWallet.stored portfolioName id =
      ((log Site.perform events { server }).foldl (History.replay portfolioName id)
        { now := server.activeWallet.stored portfolioName id }).now := by
  obtain ⟨vault, hrep, hbackups⟩ := hreachable.exists_represents hids hrandoms hhardware
  have hlast := (hrep.run events).2
  have hstart : vault.history portfolioName id =
      { now := server.activeWallet.stored portfolioName id } := by
    rw [hrep.server.wallet.stored, Vault.history, hbackups]
    rfl
  rw [hlast.server.wallet.stored, ← hrep.log, ← hstart]
  exact congrArg History.now (run_observed
    (fun event vault => (Vault.respond_step event vault).history) events vault)

/--
While a document of a site is neither deleted nor restored, it has the type it had, the public part
of the last update of it, and in each private field the last value that an update gave for it.
-/
theorem Site.keeps_last_writes (server : SecurityWalletServer)
    (hreachable : SecurityWalletServer.ReachableFromEmpty server) (uuid : String)
    (hids : ∀ n, server.uuids.draw n ≠ "ERROR") (hrandoms : server.randoms.NeverFails)
    (hhardware : server.activeWallet.getHardwareUuid = .ok uuid) (portfolioName : String) (id : Id)
    (old : Document) (hold : server.activeWallet.stored portfolioName id = some old)
    (events : List VaultEvent)
    (hkept : ∀ entry ∈ log Site.perform events { server },
      ¬ History.Removes portfolioName id entry) :
    ∃ doc, (run Site.perform events { server }).2.server.activeWallet.stored portfolioName id =
        some doc ∧
      doc.getType = old.getType ∧
      doc.publicView = lastWrite (fun entry =>
        (History.updateOf portfolioName id entry).map Document.publicView)
          (log Site.perform events { server }) old.publicView ∧
      ∀ field value, old.body.secret field = some value → doc.body.secret field =
        some (lastWrite (fun entry =>
          (History.updateOf portfolioName id entry).bind (Document.given field))
            (log Site.perform events { server }) value) := by
  obtain ⟨vault, hrep, -⟩ := hreachable.exists_represents hids hrandoms hhardware
  have hlast := (hrep.run events).2
  rw [hrep.server.wallet.stored] at hold
  rw [← hrep.log] at hkept ⊢
  rw [hlast.server.wallet.stored]
  exact Vault.run_updates events hold hkept

end Sites

/-! ### A document that was created -/

namespace Reference

open scoped Reference

theorem stored_eq_replay_of_reference :
    (run Site.perform [.call "bob" (.insert "default" (document ["u2"] "secret")), .restart]
        { server := server [{}] }).2.server.activeWallet.stored "default" "0" =
      ((log Site.perform [.call "bob" (.insert "default" (document ["u2"] "secret")), .restart]
        { server := server [{}] }).foldl (History.replay "default" "0")
        { now := (server [{}]).activeWallet.stored "default" "0" }).now :=
  Site.stored_eq_replay (server [{}]) reachableFromEmpty_reference "uuid" uuids_ne_error
    (fun _ _ => rfl) (getHardwareUuid_server _) "default" "0"
    [.call "bob" (.insert "default" (document ["u2"] "secret")), .restart]

/-- The request of `bob` to create a document with the password. -/
def createRequestOf (password : String) : SecurityWalletServer.Request :=
  ⟨"bob", [Command.create.name, "default",
    serialize ((document ["u2"] password).fillSerializationInfoWithSecret .null)]⟩

def created (password : String) : SecurityWalletServer :=
  (SecurityWalletServer.handleRequest (createRequestOf password) (server [{}])).2

def createdDocument (password : String) : Document :=
  SecurityWalletServer.newDocument (server [{}]) {} (document ["u2"] password)

theorem reachableFromEmpty_created (password : String) :
    SecurityWalletServer.ReachableFromEmpty (created password) :=
  .serve (createRequestOf password) reachableFromEmpty_reference

variable {password : String}

theorem created_eq (hpassword : password.isEmpty = false) :
    created password = SecurityWalletServer.commit (server [{}]) 0
      (({} : Portfolio).store (createdDocument password).id (createdDocument password))
      ((server [{}]).uuids.next ({} : Portfolio).usedIds).2
      (SecurityWalletServer.notificationOnCreate "default" (createdDocument password)) := by
  have haccess : SecurityWalletServer.ProducerAccess (server [{}]).activeWallet "bob" "default"
      (Std.ExtTreeSet.ofList ["u2"]) 0 {} :=
    ⟨producerUsages_bob _, by decide +kernel, rfl, rfl, rfl⟩
  have hvalid : (document ["u2"] password).validate = .ok () := by
    have hcheck : checkNotEmpty docUserAndPasswordPassword password = .ok () := by
      rw [checkNotEmpty, hpassword]
      rfl
    change (checkNotEmpty docUserAndPasswordUsername "user" >>= fun _ =>
      checkNotEmpty docUserAndPasswordPassword password) = .ok ()
    rw [hcheck]
    rfl
  have hchange : SecurityWalletServer.Change (server [{}]) "bob" .create ["default",
      serialize ((document ["u2"] password).fillSerializationInfoWithSecret .null)] _ _ :=
    .create haccess (deserialize_serialize _) (document ["u2"] password).read_withSecret hvalid
      (fun usage hmem => hmem) rfl
  rw [created, createRequestOf, SecurityWalletServer.handleRequest_of_ok hchange.exec_handler]
  rfl

theorem portfolios_created (hpassword : password.isEmpty = false) :
    (created password).activeWallet.portfolios =
      [({} : Portfolio).store (createdDocument password).id (createdDocument password)] := by
  rw [created_eq hpassword]
  rfl

theorem stored_created (hpassword : password.isEmpty = false) :
    (created password).activeWallet.stored "default" (createdDocument password).id =
      some (createdDocument password) := by
  rw [SecurityWallet.stored, portfolios_created hpassword]
  change ((({} : Portfolio).store (createdDocument password).id
    (createdDocument password)).documents[(createdDocument password).id]?).map Document.content = _
  rw [Portfolio.store, StdMap.lookup_insert, if_pos rfl]
  rfl

/-- What is drawn by the server is what a server without documents draws. -/
theorem created_sound (hpassword : password.isEmpty = false) :
    (∀ n, (created password).uuids.draw n ≠ "ERROR") ∧ (created password).randoms.NeverFails ∧
      (created password).activeWallet.getHardwareUuid = .ok "uuid" := by
  rw [created_eq hpassword]
  exact ⟨uuids_ne_error, fun _ _ => rfl, getHardwareUuid_server _⟩

/-- The document is renamed by its owner, and then the server is restarted. -/
def renameEvents : List VaultEvent :=
  [.call "bob" (.update "default" { createdDocument "secret" with name := "renamed" }), .restart]

theorem created_keeps_last_writes :
    ∃ doc, (run Site.perform renameEvents
        { server := created "secret" }).2.server.activeWallet.stored "default"
          (createdDocument "secret").id = some doc ∧
      doc.getType = (createdDocument "secret").getType ∧
      doc.publicView = lastWrite (fun entry =>
        (History.updateOf "default" (createdDocument "secret").id entry).map Document.publicView)
          (log Site.perform renameEvents { server := created "secret" })
          (createdDocument "secret").publicView ∧
      ∀ field value, (createdDocument "secret").body.secret field = some value →
        doc.body.secret field = some (lastWrite (fun entry =>
          (History.updateOf "default" (createdDocument "secret").id entry).bind
            (Document.given field))
            (log Site.perform renameEvents { server := created "secret" }) value) := by
  obtain ⟨hids, hrandoms, hhardware⟩ := created_sound (show "secret".isEmpty = false from rfl)
  refine Site.keeps_last_writes (created "secret") (reachableFromEmpty_created "secret") "uuid" hids
    hrandoms hhardware "default" (createdDocument "secret").id (createdDocument "secret")
    (stored_created rfl) renameEvents ?_
  rw [renameEvents, log_cons, log_cons, log_nil]
  simp [History.Removes]

end Reference

end Secw
