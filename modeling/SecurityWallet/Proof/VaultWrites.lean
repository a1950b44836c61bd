import SecurityWallet.Proof.VaultReads

/-!
# Writing to a vault

A CREATE, UPDATE or DELETE is refused for the same reason for which the vault refuses the call, or
the server that it leaves shows the vault after the call.
-/

open Foundation SerializationInfo Effect

namespace Secw

/-! ### The first element with a property -/

section FindSet

variable {α : Type} {xs : List α} {index : Nat} {a b : α} {p : α → Bool}

/-- Setting the first element with a property to one that has it makes that one the first. -/
theorem find?_set_of_first (hlookup : xs[index]? = some a)
    (hfirst : ∀ earlier < index, ∀ c, xs[earlier]? = some c → p c = false) (hb : p b = true) :
    (xs.set index b).find? p = some b := by
  induction xs generalizing index with
  | nil => simp at hlookup
  | cons x xs ih =>
      cases index with
      | zero => rw [List.set_cons_zero, List.find?_cons_of_pos hb]
      | succ index =>
          have hx := hfirst 0 (Nat.succ_pos index) x rfl
          rw [List.set_cons_succ, List.find?_cons_of_neg (by simp [hx])]
          apply ih
          · simpa using hlookup
          · intro earlier hlt c hc
            exact hfirst (earlier + 1) (by omega) c (by simpa using hc)

/-- Setting an element without a property to one without it changes nothing for the property. -/
theorem find?_set_of_neg (hlookup : xs[index]? = some a) (ha : p a = false) (hb : p b = false) :
    (xs.set index b).find? p = xs.find? p := by
  induction xs generalizing index with
  | nil => rfl
  | cons x xs ih =>
      cases index with
      | zero =>
          obtain rfl : x = a := by simpa using hlookup
          rw [List.set_cons_zero, List.find?_cons_of_neg (by simp [hb]),
            List.find?_cons_of_neg (by simp [ha])]
      | succ index =>
          rw [List.set_cons_succ, List.find?_cons, List.find?_cons, ih (by simpa using hlookup)]

end FindSet

/-! ### Folders -/

section Folders

variable [Certificates] {folder : Folder} {portfolio : Portfolio}

/-- A document can be put unless a document under another id has its name. -/
theorem Folder.Of.free_iff (hof : folder.Of portfolio) (doc : Document) :
    folder.Free doc ↔
      ¬ ∃ (id : Id) (other : Document), portfolio.documents[id]? = some other ∧ id ≠ doc.id ∧
        other.name = doc.name := by
  unfold NamedTable.Free
  rw [hof.list]
  constructor
  · rintro hfree ⟨id, other, hother, hne, hname⟩
    refine hne ?_
    rw [← hof.consistent.keyed hother]
    exact hfree other.content (List.mem_map_of_mem (StdMap.mem_valueList.2 ⟨id, hother⟩)) hname
  · intro hnone doc' hmem hname
    obtain ⟨other, hother, rfl⟩ := List.mem_map.1 hmem
    obtain ⟨id, hid⟩ := StdMap.mem_valueList.1 hother
    by_contra hne
    refine hnone ⟨id, other, hid, ?_, hname⟩
    rwa [← hof.consistent.keyed hid]

/-- A document under a new id can be put unless its name is in the second index. -/
theorem Folder.Of.free_iff_of_fresh (hof : folder.Of portfolio) (doc : Document)
    (hfresh : portfolio.documents[doc.id]? = none) :
    folder.Free doc ↔ ¬ portfolio.mapNameDocuments.contains doc.name = true := by
  rw [hof.free_iff, hof.consistent.contains_iff]
  apply not_congr
  constructor
  · rintro ⟨id, other, hother, -, hname⟩
    exact ⟨id, other, hother, hname⟩
  · rintro ⟨id, other, hother, hname⟩
    refine ⟨id, other, hother, ?_, hname⟩
    rintro rfl
    rw [hfresh] at hother
    cases hother

/-- A document can replace a stored one unless its name is new and in the second index. -/
theorem Folder.Of.free_iff_of_stored (hof : folder.Of portfolio) {old doc : Document}
    (hold : portfolio.documents[doc.id]? = some old) :
    folder.Free doc ↔
      ¬ (doc.name ≠ old.name ∧ portfolio.mapNameDocuments.contains doc.name = true) := by
  rw [hof.free_iff, hof.consistent.contains_iff, hof.consistent.nameTaken_iff hold]

theorem Folder.put_of_free (doc : { doc : Document // doc.Storable })
    (hfree : folder.Free doc.1) :
    ∃ next, folder.put doc = .ok next ∧ next.rows = folder.rows.insert doc.1.id doc.1 := by
  refine ⟨_, dif_pos hfree, rfl⟩

theorem Folder.put_of_not_free {doc : { doc : Document // doc.Storable }}
    (hfree : ¬ folder.Free doc.1) :
    folder.put doc = .error (.described (secwNameAlreadyExistsException doc.1.name)) :=
  dif_neg hfree

theorem Folder.Of.insert (hof : folder.Of portfolio) {next : Folder} {nextPortfolio : Portfolio}
    {doc : Document} (hrows : next.rows = folder.rows.insert doc.id doc.content)
    (hdocuments : nextPortfolio.documents = portfolio.documents.insert doc.id doc)
    (hconsistent : nextPortfolio.Consistent) (hloadable : nextPortfolio.Loadable) :
    next.Of nextPortfolio where
  rows := by rw [hrows, hof.rows, hdocuments, StdMap.mapValues_insert]
  consistent := hconsistent
  loadable := hloadable

theorem Folder.Of.erase (hof : folder.Of portfolio) {id : Id} {doc : Document}
    (hdoc : portfolio.documents[id]? = some doc) :
    (folder.erase id).Of (portfolio.removed id doc) where
  rows := by
    rw [Folder.erase, NamedTable.rows_erase, hof.rows, Portfolio.removed, StdMap.mapValues_erase]
  consistent := hof.consistent.removed hdoc
  loadable := hof.loadable.removed id doc

end Folders

/-! ### Servers and vaults -/

variable [Platform]

/-- The wallet shows the vault, and what the server draws is fit for use. -/
structure SecurityWalletServer.Shows (server : SecurityWalletServer) (uuid : String)
    (vault : Vault) : Prop where
  wallet : server.activeWallet.Shows vault
  uuids : vault.uuids = server.uuids
  /-- An id is not taken for the mark of an error. -/
  ids : ∀ n, server.uuids.draw n ≠ "ERROR"
  randoms : server.randoms.NeverFails
  hardware : server.activeWallet.getHardwareUuid = .ok uuid

/-- A call tells what the vault answers, and the server it leaves shows the vault after it. -/
def Call.Follows (act : Call Answer) (server : SecurityWalletServer) (uuid : String)
    (vault : Vault) (result : Except Refusal (Answer × Vault)) : Prop :=
  (act.exec server).1.mapError Refusal.of = result.map Prod.fst ∧
    (act.exec server).2.Shows uuid
      (match result with
      | .ok (_, next) => next
      | .error _ => vault)

theorem Call.Tells.follows {α : Type} {act : Call α} {server : SecurityWalletServer}
    {uuid : String} {vault : Vault} {result : Except Refusal α} (htells : Call.Tells act server result)
    (hshows : server.Shows uuid vault) (f : α → Answer) :
    Call.Follows (f <$> act) server uuid vault (result.map fun a => (f a, vault)) := by
  obtain ⟨hresult, hserver⟩ := htells.map f
  refine ⟨?_, ?_⟩
  · rw [hresult]
    cases result <;> rfl
  · rw [hserver]
    cases result <;> exact hshows

namespace SecurityWalletServer

variable {server : SecurityWalletServer} {vault : Vault} {uuid : String} {client : ClientId}
  {portfolioName : String} {folder : Folder} {index : Nat} {portfolio : Portfolio}

/-- A committed change of one portfolio is a change of its folder. -/
theorem Shows.committed (hshows : server.Shows uuid vault)
    (hat : server.activeWallet.ShowsAt vault portfolioName folder index portfolio)
    {next : Folder} {nextPortfolio : Portfolio} {uuids : UuidSource}
    {notification : SerializationInfo}
    (hnext : next.Of nextPortfolio)
    (hsettled : (commit server index nextPortfolio uuids notification).activeWallet.Settled)
    (hname : nextPortfolio.name = portfolio.name) (hdraw : uuids.draw = server.uuids.draw) :
    (commit server index nextPortfolio uuids notification).Shows uuid
      { vault.withFolder portfolioName next with uuids } := by
  obtain ⟨found, hfound, hfoundName, hfirst⟩ := SecurityWallet.getPortfolio_eq_ok.1 hat.place
  obtain rfl := Option.some.inj (hat.lookup.symm.trans hfound)
  refine ⟨⟨hsettled, hshows.wallet.rights, ?_⟩, rfl, ?_, hshows.randoms, hshows.hardware⟩
  · intro name
    rw [commit_portfolios]
    by_cases hsame : name = portfolioName
    · subst hsame
      rw [find?_set_of_first hat.lookup]
      · simpa [Vault.withFolder] using hnext
      · intro earlier hlt other hother
        simpa using hfirst earlier hlt other hother
      · simpa [hname] using hfoundName
    · have hold : decide (portfolio.name = name) = false := by
        simpa [hfoundName] using Ne.symm hsame
      rw [find?_set_of_neg hat.lookup hold (by rw [hname]; exact hold)]
      simpa [Vault.withFolder, Function.update_of_ne hsame] using hshows.wallet.folders name
  · intro n
    have hids := hshows.ids n
    rwa [← hdraw] at hids

theorem Shows.committed_of_uuids (hshows : server.Shows uuid vault)
    (hat : server.activeWallet.ShowsAt vault portfolioName folder index portfolio)
    {next : Folder} {nextPortfolio : Portfolio} {notification : SerializationInfo}
    (hnext : next.Of nextPortfolio)
    (hsettled :
      (commit server index nextPortfolio server.uuids notification).activeWallet.Settled)
    (hname : nextPortfolio.name = portfolio.name) :
    (commit server index nextPortfolio server.uuids notification).Shows uuid
      (vault.withFolder portfolioName next) := by
  have hsame : { vault.withFolder portfolioName next with uuids := server.uuids } =
      vault.withFolder portfolioName next := by
    rw [← hshows.uuids]
    rfl
  rw [← hsame]
  exact hshows.committed hat hnext hsettled hname rfl

/-- A client that may write in a portfolio, or the reason why it may not. -/
theorem produced_cases (hshows : server.Shows uuid vault) (client : ClientId)
    (portfolioName : String) :
    (∃ e, checkGlobalAccess (server.activeWallet.producerUsages portfolioName client)
          "You do not have access to this command" = .error e ∧
        vault.produced client portfolioName = .error (Refusal.of e)) ∨
      ∃ usages folder index portfolio,
        vault.produced client portfolioName = .ok (usages, folder) ∧
          ProducerAccess server.activeWallet client portfolioName usages index portfolio ∧
          server.activeWallet.ShowsAt vault portfolioName folder index portfolio := by
  have haccess := checkGlobalAccess_tells
    (server.activeWallet.producerUsages portfolioName client) "You do not have access to this command"
  rw [hshows.wallet.producerUsages] at haccess
  unfold Vault.produced
  rw [← haccess]
  cases hcheck : checkGlobalAccess (server.activeWallet.producerUsages portfolioName client)
      "You do not have access to this command" with
  | error e => exact .inl ⟨e, rfl, rfl⟩
  | ok usages =>
      obtain ⟨hrights, -⟩ := checkGlobalAccess_eq_ok.1 hcheck
      obtain ⟨folder, index, portfolio, hat⟩ := hshows.wallet.of_producerUsages hrights
      obtain ⟨found, haccess, hfound⟩ := producerAccess hcheck hat.place
      rw [SecurityWallet.portfolioAt_eq hat.lookup] at hfound
      subst hfound
      refine .inr ⟨usages, folder, index, portfolio, ?_, haccess, hat⟩
      rw [hat.found]
      rfl

omit [Platform] in
theorem checkUsages_tells (allowedUsageIds usages : StdSet UsageId) :
    (checkUsages allowedUsageIds usages).mapError Refusal.of =
      Vault.owned allowedUsageIds usages := by
  have hfind : (usages.toList.find? fun usage => ¬ allowedUsageIds.contains usage) =
      usages.toList.find? fun usage => usage ∉ allowedUsageIds := rfl
  unfold checkUsages Vault.owned
  rw [hfind]
  cases usages.toList.find? fun usage => usage ∉ allowedUsageIds <;> rfl

end SecurityWalletServer

/-! ### The calls that write -/

section Writing

open SecurityWalletServer

variable [LawfulCxxtools] {server : SecurityWalletServer} {vault : Vault} {uuid : String}

/-- A handler that throws refuses the call and leaves the server. -/
theorem follows_of_error [CxxtoolsEmptyText] {α : Type} {client : ClientId} {command : Command}
    {params : List String} {e : Exn}
    (hexec : (handler command client params).exec server = (.error e, server))
    (hshows : server.Shows uuid vault) (receive : List String → Call α) (f : α → Answer) :
    Call.Follows (f <$> (ClientAccessor.sendCommand client command params >>= receive)) server uuid
      vault (.error (Refusal.of e)) := by
  unfold Call.Follows
  rw [exec_map]
  cases e with
  | secw exception =>
      rw [exec_bind_error (ClientAccessor.sendCommand_of_error hexec)]
      exact ⟨rfl, hshows⟩
  | std what =>
      rw [exec_bind_error (ClientAccessor.sendCommand_of_std hexec)]
      exact ⟨congrArg Except.error Refusal.of_throwSecwException_empty, hshows⟩

omit [LawfulCxxtools] in
/-- A handler that returns answers the call, and it leaves a server that shows the next vault. -/
theorem follows_of_ok {α : Type} {client : ClientId} {command : Command} {params : List String}
    {result : String} {next : SecurityWalletServer} {nextVault : Vault}
    (hexec : (handler command client params).exec server = (.ok result, next))
    (hresult : result ≠ "ERROR") (hshows : next.Shows uuid nextVault)
    {receive : List String → Call α} {f : α → Answer} {answer : α}
    (hreceive : (receive [result]).exec next = (.ok answer, next)) :
    Call.Follows (f <$> (ClientAccessor.sendCommand client command params >>= receive)) server uuid
      vault (.ok (f answer, nextVault)) := by
  unfold Call.Follows
  rw [exec_map, exec_bind_ok (ClientAccessor.sendCommand_of_ok hexec hresult), hreceive]
  exact ⟨rfl, hshows⟩

/-! ### CREATE -/

section Create

variable {client : ClientId} {portfolioName : String} {usages : StdSet UsageId} {index : Nat}
  {portfolio : Portfolio} {e : Exn}

omit [LawfulCxxtools] in
theorem handleCreate_of_no_access (document : String)
    (hcheck : checkGlobalAccess (server.activeWallet.producerUsages portfolioName client)
      "You do not have access to this command" = .error e) :
    (handleCreate client [portfolioName, document]).exec server = (.error e, server) := by
  rw [handleCreate, exec_bind_ok (exec_get _)]
  dsimp only
  rw [exec_bind, exec_liftM, hcheck]

/-- What a CREATE of a document does once the client is known to have rights. -/
theorem handleCreate_exec
    (haccess : ProducerAccess server.activeWallet client portfolioName usages index portfolio)
    (doc : Document) :
    (handleCreate client [portfolioName,
        serialize (doc.fillSerializationInfoWithSecret .null)]).exec server =
      match doc.content.validate, checkUsages usages doc.usages with
      | .error e, _ => (.error e, server)
      | .ok (), .error e => (.error e, server)
      | .ok (), .ok () =>
          if portfolio.mapNameDocuments.contains doc.name then
            (.error (.secw (secwNameAlreadyExistsException doc.name)), server)
          else
            (.ok (newDocument server portfolio doc.content).id,
              commit server index
                (portfolio.store (newDocument server portfolio doc.content).id
                  (newDocument server portfolio doc.content))
                (server.uuids.next portfolio.usedIds).2
                (notificationOnCreate portfolioName (newDocument server portfolio doc.content))) := by
  have hsi := deserialize_serialize (doc.fillSerializationInfoWithSecret .null)
  have hread := doc.read_withSecret
  cases hvalid : doc.content.validate with
  | error e =>
      rw [handleCreate, exec_bind_ok (exec_get _)]
      dsimp only
      rw [exec_bind_ok (exec_liftM_ok haccess.check _),
        exec_bind_ok (exec_liftM_ok haccess.place _), exec_bind_ok (exec_liftM_ok hsi _),
        exec_bind_ok (exec_liftM_ok hread _), exec_bind, exec_liftM, hvalid]
  | ok _ =>
      cases howned : checkUsages usages doc.usages with
      | error e =>
          have howned' : checkUsages usages doc.content.usages = .error e := howned
          rw [handleCreate, exec_bind_ok (exec_get _)]
          dsimp only
          rw [exec_bind_ok (exec_liftM_ok haccess.check _),
            exec_bind_ok (exec_liftM_ok haccess.place _), exec_bind_ok (exec_liftM_ok hsi _),
            exec_bind_ok (exec_liftM_ok hread _), exec_bind_ok (exec_liftM_ok hvalid _), exec_bind,
            exec_liftM, howned']
      | ok _ =>
          dsimp only
          by_cases htaken : portfolio.mapNameDocuments.contains doc.name
          · have howned' : checkUsages usages doc.content.usages = .ok () := howned
            have htaken' : portfolio.mapNameDocuments.contains doc.content.name := htaken
            rw [if_pos htaken, handleCreate, exec_bind_ok (exec_get _)]
            dsimp only
            rw [exec_bind_ok (exec_liftM_ok haccess.check _),
              exec_bind_ok (exec_liftM_ok haccess.place _), exec_bind_ok (exec_liftM_ok hsi _),
              exec_bind_ok (exec_liftM_ok hread _), exec_bind_ok (exec_liftM_ok hvalid _),
              exec_bind_ok (exec_liftM_ok howned' _), onPortfolio, exec_bind, exec_zoom,
              SecurityWallet.portfolioAt_eq haccess.lookup, Portfolio.add_exec, if_pos htaken']
            dsimp only
            rw [setPortfolio_unchanged haccess.lookup]
            rfl
          · rw [if_neg htaken]
            have hchange : Change server client .create [portfolioName,
                serialize (doc.fillSerializationInfoWithSecret .null)] _ _ :=
              .create haccess hsi hread hvalid (checkUsages_eq_ok.1 howned)
                (Bool.eq_false_iff.2 htaken)
            exact hchange.exec_handler

end Create

theorem insertNewDocument_follows [CxxtoolsEmptyText] (hshows : server.Shows uuid vault)
    (client : ClientId) (portfolioName : String) (doc : Document) :
    Call.Follows (.id <$> ProducerAccessor.insertNewDocument client portfolioName doc) server uuid
      vault (vault.insert client portfolioName doc) := by
  unfold ProducerAccessor.insertNewDocument Vault.insert
  rcases produced_cases hshows client portfolioName with
    ⟨e, hcheck, hproduced⟩ | ⟨usages, folder, index, portfolio, hproduced, haccess, hat⟩
  · have hexec : (handler .create client [portfolioName,
        serialize (doc.fillSerializationInfoWithSecret .null)]).exec server = _ :=
      handleCreate_of_no_access _ hcheck
    rw [hproduced]
    exact follows_of_error hexec hshows _ _
  · have hexec : (handler .create client [portfolioName,
        serialize (doc.fillSerializationInfoWithSecret .null)]).exec server = _ :=
      handleCreate_exec haccess doc
    rw [hproduced]
    change Call.Follows _ server uuid vault (doc.checked >>= _)
    cases hvalid : doc.content.validate with
    | error e =>
        rw [hvalid] at hexec
        rw [Document.checked_eq_error.2 ⟨e, hvalid, rfl⟩]
        exact follows_of_error hexec hshows _ _
    | ok _ =>
        have hchecked : doc.checked = .ok ⟨doc.content, hvalid, rfl⟩ :=
          Document.checked_eq_ok.2 ⟨hvalid, rfl⟩
        have howns := checkUsages_tells usages doc.usages
        rw [hchecked]
        change Call.Follows _ server uuid vault (Vault.owned usages doc.usages >>= _)
        rw [← howns]
        cases howned : checkUsages usages doc.usages with
        | error e =>
            rw [hvalid, howned] at hexec
            exact follows_of_error hexec hshows _ _
        | ok _ =>
            rw [hvalid, howned] at hexec
            dsimp only at hexec
            have hids : vault.uuids.next folder.ids = server.uuids.next portfolio.usedIds := by
              rw [hshows.uuids, hat.shown.ids]
            change Call.Follows _ server uuid vault
              (folder.put ⟨{ doc.content with id := (vault.uuids.next folder.ids).1 }, _⟩ >>= _)
            have hfree := hat.shown.free_iff_of_fresh { doc.content with
              id := (vault.uuids.next folder.ids).1 }
              (by rw [hids]; exact portfolio.lookup_next_usedIds server.uuids)
            by_cases htaken : portfolio.mapNameDocuments.contains doc.name = true
            · rw [if_pos htaken] at hexec
              rw [Folder.put_of_not_free fun hfree' => hfree.1 hfree' htaken]
              exact follows_of_error hexec hshows _ _
            · have hchange : Change server client .create [portfolioName,
                  serialize (doc.fillSerializationInfoWithSecret .null)] _ _ :=
                .create haccess (deserialize_serialize _) doc.read_withSecret hvalid
                  (checkUsages_eq_ok.1 howned) (Bool.eq_false_iff.2 htaken)
              obtain ⟨next, hput, hrows⟩ := Folder.put_of_free
                ⟨_, (Document.Storable.withId ⟨hvalid, rfl⟩ _)⟩ (hfree.2 htaken)
              rw [hput]
              change Call.Follows _ server uuid vault (.ok (.id (vault.uuids.next folder.ids).1,
                { vault.withFolder portfolioName next with
                  uuids := (vault.uuids.next folder.ids).2 }))
              rw [hids] at hrows ⊢
              have hfresh := portfolio.lookup_next_usedIds server.uuids
              rw [hat.shown.consistent.contains_iff] at htaken
              have hnext : next.Of (portfolio.store (newDocument server portfolio doc.content).id
                  (newDocument server portfolio doc.content)) :=
                hat.shown.insert hrows rfl
                  (hat.shown.consistent.store (newDocument server portfolio doc.content) hfresh
                    htaken)
                  (hat.shown.loadable.store hvalid)
              have hafter := hshows.committed hat hnext
                (hchange.settled hshows.wallet.settled) rfl rfl
              exact follows_of_ok hchange.exec_handler (hshows.ids _) hafter (exec_pure _ _)

/-! ### DELETE -/

section Delete

variable {client : ClientId} {portfolioName : String} {usages : StdSet UsageId} {index : Nat}
  {portfolio : Portfolio} {e : Exn}

omit [LawfulCxxtools] in
theorem handleDelete_of_no_access (id : Id)
    (hcheck : checkGlobalAccess (server.activeWallet.producerUsages portfolioName client)
      "You do not have access to this command" = .error e) :
    (handleDelete client [portfolioName, id]).exec server = (.error e, server) := by
  rw [handleDelete, exec_bind_ok (exec_get _)]
  dsimp only
  rw [exec_bind, exec_liftM, hcheck]

omit [LawfulCxxtools] in
theorem handleDelete_exec
    (haccess : ProducerAccess server.activeWallet client portfolioName usages index portfolio)
    (id : Id) :
    (handleDelete client [portfolioName, id]).exec server =
      match portfolio.getDocument id with
      | .error e => (.error e, server)
      | .ok doc =>
          match checkUsages usages doc.usages with
          | .error e => (.error e, server)
          | .ok () =>
              (.ok "OK", commit server index (portfolio.removed id doc) server.uuids
                (notificationOnDelete portfolioName doc)) := by
  have hat := SecurityWallet.portfolioAt_eq haccess.lookup
  cases hget : portfolio.getDocument id with
  | error e =>
      rw [handleDelete, exec_bind_ok (exec_get _)]
      dsimp only
      rw [exec_bind_ok (exec_liftM_ok haccess.check _),
        exec_bind_ok (exec_liftM_ok haccess.place _), hat, exec_bind, exec_liftM, hget]
  | ok doc =>
      dsimp only
      cases howned : checkUsages usages doc.usages with
      | error e =>
          rw [handleDelete, exec_bind_ok (exec_get _)]
          dsimp only
          rw [exec_bind_ok (exec_liftM_ok haccess.check _),
            exec_bind_ok (exec_liftM_ok haccess.place _), hat,
            exec_bind_ok (exec_liftM_ok hget _), exec_bind, exec_liftM, howned]
      | ok _ =>
          have hchange : Change server client .delete [portfolioName, id] _ _ :=
            .delete haccess (Portfolio.getDocument_eq_ok.1 hget) (checkUsages_eq_ok.1 howned)
          exact hchange.exec_handler

end Delete

theorem deleteDocument_follows [CxxtoolsEmptyText] (hshows : server.Shows uuid vault)
    (client : ClientId) (portfolioName : String) (id : Id) :
    Call.Follows ((fun _ => .done) <$> ProducerAccessor.deleteDocument client portfolioName id)
      server uuid vault (vault.delete client portfolioName id) := by
  unfold ProducerAccessor.deleteDocument Vault.delete
  rcases produced_cases hshows client portfolioName with
    ⟨e, hcheck, hproduced⟩ | ⟨usages, folder, index, portfolio, hproduced, haccess, hat⟩
  · have hexec : (handler .delete client [portfolioName, id]).exec server = _ :=
      handleDelete_of_no_access id hcheck
    rw [hproduced]
    exact follows_of_error hexec hshows _ _
  · have hexec : (handler .delete client [portfolioName, id]).exec server = _ :=
      handleDelete_exec haccess id
    rw [hproduced]
    change Call.Follows _ server uuid vault (folder.get (.id id) >>= _)
    rw [← hat.shown.getDocument]
    cases hget : portfolio.getDocument id with
    | error e =>
        rw [hget] at hexec
        exact follows_of_error hexec hshows _ _
    | ok doc =>
        change Call.Follows _ server uuid vault (Vault.owned usages doc.usages >>= _)
        rw [← checkUsages_tells]
        cases howned : checkUsages usages doc.usages with
        | error e =>
            simp only [hget, howned] at hexec
            exact follows_of_error hexec hshows _ _
        | ok _ =>
            have hdoc := Portfolio.getDocument_eq_ok.1 hget
            have hchange : Change server client .delete [portfolioName, id] _ _ :=
              .delete haccess hdoc (checkUsages_eq_ok.1 howned)
            have hafter := hshows.committed_of_uuids hat (hat.shown.erase hdoc)
              (hchange.settled hshows.wallet.settled) rfl
            exact follows_of_ok hchange.exec_handler (by decide) hafter (exec_pure _ _)

/-! ### UPDATE -/

section Update

variable {client : ClientId} {portfolioName : String} {usages : StdSet UsageId} {index : Nat}
  {portfolio : Portfolio} {e : Exn}

omit [LawfulCxxtools] in
theorem handleUpdate_of_no_access (document : String)
    (hcheck : checkGlobalAccess (server.activeWallet.producerUsages portfolioName client)
      "You do not have access to this command" = .error e) :
    (handleUpdate client [portfolioName, document]).exec server = (.error e, server) := by
  rw [handleUpdate, exec_bind_ok (exec_get _)]
  dsimp only
  rw [exec_bind, exec_liftM, hcheck]

/-- The document that an update of a stored one with a document of a client stores. -/
def updatedDocument (doc old : Document) : Document :=
  { doc.keeping old with containPrivateData := old.containPrivateData }

theorem handleUpdate_exec
    (haccess : ProducerAccess server.activeWallet client portfolioName usages index portfolio)
    (hconsistent : portfolio.Consistent) (doc : Document) :
    (handleUpdate client [portfolioName,
        serialize (doc.fillSerializationInfoWithSecret .null)]).exec server =
      match portfolio.getDocument doc.id with
      | .error e => (.error e, server)
      | .ok old =>
          match checkUsages usages (differenceBetween2UsagesIdSet doc.usages old.usages) with
          | .error e => (.error e, server)
          | .ok () =>
              if old.getType ≠ doc.getType then
                (.error (.secw (secwInvalidDocumentFormatException docTypeEntry)), server)
              else
                match (updatedDocument doc old).validate with
                | .error e => (.error e, server)
                | .ok () =>
                    if doc.name ≠ old.name ∧ portfolio.mapNameDocuments.contains doc.name then
                      (.error (.secw (secwNameAlreadyExistsException doc.name)), server)
                    else
                      (.ok "OK", commit server index
                        (portfolio.replaced old (updatedDocument doc old)) server.uuids
                        (notificationOnUpdate portfolioName old doc.content)) := by
  have hat := SecurityWallet.portfolioAt_eq haccess.lookup
  have hsi := deserialize_serialize (doc.fillSerializationInfoWithSecret .null)
  have hread := doc.read_withSecret
  cases hget : portfolio.getDocument doc.id with
  | error e =>
      have hget' : portfolio.getDocument doc.content.id = .error e := hget
      rw [handleUpdate, exec_bind_ok (exec_get _)]
      dsimp only
      rw [exec_bind_ok (exec_liftM_ok haccess.check _),
        exec_bind_ok (exec_liftM_ok haccess.place _), exec_bind_ok (exec_liftM_ok hsi _),
        exec_bind_ok (exec_liftM_ok hread _), hat, exec_bind, exec_liftM, hget']
  | ok old =>
      have hget' : portfolio.getDocument doc.content.id = .ok old := hget
      have hold := Portfolio.getDocument_eq_ok.1 hget
      have hid := hconsistent.keyed hold
      dsimp only
      -- the steps up to the check of the usages are the same in all cases
      have hsteps : (handleUpdate client [portfolioName,
            serialize (doc.fillSerializationInfoWithSecret .null)]).exec server =
          Effect.exec (do
            checkUsages usages (differenceBetween2UsagesIdSet doc.usages old.usages)
            let copyOfExistingDoc ← Document.read (doc.fillSerializationInfoWithSecret .null)
              (some old)
            copyOfExistingDoc.validate
            onPortfolio index (withoutUuids (Portfolio.update copyOfExistingDoc))
            onWallet SecurityWallet.save
            sendNotificationOnUpdate portfolioName old doc.content
            return "OK" : Effect Exn SecurityWalletServer String) server := by
        rw [handleUpdate, exec_bind_ok (exec_get _)]
        dsimp only
        rw [exec_bind_ok (exec_liftM_ok haccess.check _),
          exec_bind_ok (exec_liftM_ok haccess.place _), exec_bind_ok (exec_liftM_ok hsi _),
          exec_bind_ok (exec_liftM_ok hread _), hat, exec_bind_ok (exec_liftM_ok hget' _)]
        rfl
      cases howned : checkUsages usages (differenceBetween2UsagesIdSet doc.usages old.usages) with
      | error e => rw [hsteps, exec_bind, exec_liftM, howned]
      | ok _ =>
          dsimp only
          by_cases htype : old.getType ≠ doc.getType
          · rw [hsteps, if_pos htype, exec_bind_ok (exec_liftM_ok howned _), exec_bind, exec_liftM,
              Document.read_of_type_ne htype]
          · rw [if_neg htype]
            have hmerge : Document.read (doc.fillSerializationInfoWithSecret .null) (some old) =
                .ok (updatedDocument doc old) :=
              Document.read_keeping (not_not.1 htype) hid
            cases hvalid : (updatedDocument doc old).validate with
            | error e =>
                rw [hsteps, exec_bind_ok (exec_liftM_ok howned _),
                  exec_bind_ok (exec_liftM_ok hmerge _), exec_bind, exec_liftM, hvalid]
            | ok _ =>
                dsimp only
                by_cases htaken : doc.name ≠ old.name ∧
                    portfolio.mapNameDocuments.contains doc.name
                · have htaken' : (updatedDocument doc old).name ≠ old.name ∧
                      portfolio.mapNameDocuments.contains (updatedDocument doc old).name := htaken
                  have hstored : portfolio.documents[(updatedDocument doc old).id]? = some old :=
                    hold
                  rw [if_pos htaken, hsteps, exec_bind_ok (exec_liftM_ok howned _),
                    exec_bind_ok (exec_liftM_ok hmerge _), exec_bind_ok (exec_liftM_ok hvalid _),
                    onPortfolio, exec_bind, exec_zoom, withoutUuids, exec_zoom, hat,
                    Portfolio.update_exec, hstored]
                  dsimp only
                  rw [if_pos htaken']
                  dsimp only
                  rw [setPortfolio_unchanged haccess.lookup]
                  rfl
                · have hfree : (updatedDocument doc old).name = old.name ∨
                      portfolio.mapNameDocuments.contains (updatedDocument doc old).name =
                        false := by
                    rw [← Bool.not_eq_true]
                    exact not_and_or.1 htaken |>.imp not_not.1 id
                  have hchange : Change server client .update [portfolioName,
                      serialize (doc.fillSerializationInfoWithSecret .null)] _ _ :=
                    .update haccess hsi hread hold (checkUsages_eq_ok.1 howned) hmerge hvalid hold
                      hfree
                  rw [if_neg htaken]
                  exact hchange.exec_handler

end Update

omit [LawfulCxxtools] [Platform] in
/-- Both check the usages that an update changes. -/
theorem differenceBetween2UsagesIdSet_eq (doc old : Document) :
    differenceBetween2UsagesIdSet doc.usages old.usages = Vault.changedUsages doc old := by
  apply Std.ExtTreeSet.ext_mem
  intro usage
  rw [mem_differenceBetween2UsagesIdSet, Vault.changedUsages]
  simp
  tauto

theorem updateDocument_follows [CxxtoolsEmptyText] (hshows : server.Shows uuid vault)
    (client : ClientId) (portfolioName : String) (doc : Document) :
    Call.Follows ((fun _ => .done) <$> ProducerAccessor.updateDocument client portfolioName doc)
      server uuid vault (vault.update client portfolioName doc) := by
  unfold ProducerAccessor.updateDocument Vault.update
  rcases produced_cases hshows client portfolioName with
    ⟨e, hcheck, hproduced⟩ | ⟨usages, folder, index, portfolio, hproduced, haccess, hat⟩
  · have hexec : (handler .update client [portfolioName,
        serialize (doc.fillSerializationInfoWithSecret .null)]).exec server = _ :=
      handleUpdate_of_no_access _ hcheck
    rw [hproduced]
    exact follows_of_error hexec hshows _ _
  · have hexec : (handler .update client [portfolioName,
        serialize (doc.fillSerializationInfoWithSecret .null)]).exec server = _ :=
      handleUpdate_exec haccess hat.shown.consistent doc
    rw [hproduced]
    change Call.Follows _ server uuid vault (folder.get (.id doc.id) >>= _)
    rw [← hat.shown.getDocument]
    cases hget : portfolio.getDocument doc.id with
    | error e =>
        rw [hget] at hexec
        exact follows_of_error hexec hshows _ _
    | ok old =>
        have hold := Portfolio.getDocument_eq_ok.1 hget
        change Call.Follows _ server uuid vault
          (Vault.owned usages (Vault.changedUsages doc old) >>= _)
        rw [← differenceBetween2UsagesIdSet_eq, ← checkUsages_tells]
        cases howned : checkUsages usages (differenceBetween2UsagesIdSet doc.usages old.usages) with
        | error e =>
            simp only [hget, howned] at hexec
            exact follows_of_error hexec hshows _ _
        | ok _ =>
            simp only [hget, howned] at hexec
            change Call.Follows _ server uuid vault
              (if old.getType ≠ doc.getType then _ else _)
            by_cases htype : old.getType ≠ doc.getType
            · rw [if_pos htype] at hexec ⊢
              exact follows_of_error hexec hshows _ _
            · rw [if_neg htype] at hexec ⊢
              have hflag : (updatedDocument doc old).validate = (doc.keeping old).validate :=
                Document.validate_keeping (not_not.1 htype) (hat.shown.loadable.valid hold)
              change Call.Follows _ server uuid vault
                ((doc.keeping old).checked >>= fun checked => folder.put checked >>= _)
              cases hvalid : (doc.keeping old).validate with
              | error e =>
                  have hchecked : (doc.keeping old).checked = .error (Refusal.of e) :=
                    Document.checked_eq_error.2 ⟨e, hvalid, rfl⟩
                  rw [hflag, hvalid] at hexec
                  rw [hchecked]
                  exact follows_of_error hexec hshows _ _
              | ok _ =>
                  rw [hflag, hvalid] at hexec
                  dsimp only at hexec
                  have hchecked : (doc.keeping old).checked = .ok ⟨doc.keeping old, hvalid, rfl⟩ :=
                    Document.checked_eq_ok.2 ⟨hvalid, rfl⟩
                  have hfree := Folder.Of.free_iff_of_stored hat.shown
                    (show portfolio.documents[(doc.keeping old).id]? = some old from hold)
                  rw [hchecked]
                  change Call.Follows _ server uuid vault
                    (folder.put ⟨doc.keeping old, hvalid, rfl⟩ >>= _)
                  by_cases htaken : doc.name ≠ old.name ∧
                      portfolio.mapNameDocuments.contains doc.name = true
                  · rw [if_pos htaken] at hexec
                    rw [Folder.put_of_not_free fun hfree' => hfree.1 hfree' htaken]
                    exact follows_of_error hexec hshows _ _
                  · rw [if_neg htaken] at hexec
                    obtain ⟨next, hput, hrows⟩ := Folder.put_of_free
                      ⟨doc.keeping old, hvalid, rfl⟩ (hfree.2 htaken)
                    have hname : doc.name = old.name ∨ ¬ portfolio.NameTaken doc.name := by
                      rw [← hat.shown.consistent.contains_iff]
                      exact (not_and_or.1 htaken).imp not_not.1 id
                    have hrows' : next.rows = folder.rows.insert (updatedDocument doc old).id
                        (updatedDocument doc old).content := hrows
                    have hnext : next.Of (portfolio.replaced old (updatedDocument doc old)) :=
                      hat.shown.insert hrows' rfl
                        (hat.shown.consistent.replaced
                          (show portfolio.documents[(updatedDocument doc old).id]? = some old
                            from hold) hname)
                        (hat.shown.loadable.replaced old (hflag.trans hvalid))
                    have hchange : Change server client .update [portfolioName,
                        serialize (doc.fillSerializationInfoWithSecret .null)] _ _ :=
                      .update haccess (deserialize_serialize _) doc.read_withSecret hold
                        (checkUsages_eq_ok.1 howned)
                        (Document.read_keeping (not_not.1 htype) (hat.shown.consistent.keyed hold))
                        (hflag.trans hvalid) hold
                        (hname.imp id fun hfree => by
                          rwa [← hat.shown.consistent.contains_iff, Bool.not_eq_true] at hfree)
                    rw [hput]
                    exact follows_of_ok hexec (by decide)
                      (hshows.committed_of_uuids hat hnext
                        (hchange.settled hshows.wallet.settled) rfl) (exec_pure _ _)

end Writing

end Secw
