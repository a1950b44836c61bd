import SecurityWallet.Proof.VaultDocuments

/-!
# What an event does to a vault

An event is refused, or it is one of a few steps. Each step says what was checked and what the vault
is after it.
-/

open Foundation

namespace Secw

variable [Certificates]

/-- Calls that only read. -/
def WalletCall.isRead : WalletCall → Bool
  | .insert _ _ | .update _ _ | .delete _ _ => false
  | _ => true

namespace Vault

/-- The client produces the usages in the portfolio of the folder. -/
structure Produces (vault : Vault) (client : ClientId) (portfolio : String) (folder : Folder)
    (wanted : StdSet UsageId) : Prop where
  usages : ∃ usages, vault.producerUsages portfolio client = .ok usages ∧
    ∀ usage ∈ wanted, usage ∈ usages
  folder : vault.folders portfolio = some folder

/-- The event, what it is answered, and the vault after it. -/
inductive Step (vault : Vault) : VaultEvent → Except Refusal Answer → Vault → Prop
  | refused (event : VaultEvent) (refusal : Refusal) : vault.Step event (.error refusal) vault
  | read {client : ClientId} {call : WalletCall} {answer : Answer} (hread : call.isRead = true) :
      vault.Step (.call client call) (.ok answer) vault
  | inserted {client : ClientId} {portfolio : String} {doc : Document} {folder next : Folder}
      {id : Id} (uuids : UuidSource)
      (hproduces : vault.Produces client portfolio folder doc.usages)
      (hfresh : folder.rows[id]? = none)
      (hrows : next.rows = folder.rows.insert id { doc.content with id }) :
      vault.Step (.call client (.insert portfolio doc)) (.ok (.id id))
        { vault.withFolder portfolio next with uuids }
  | updated {client : ClientId} {portfolio : String} {doc old : Document} {folder next : Folder}
      (hproduces : vault.Produces client portfolio folder (changedUsages doc old))
      (hold : folder.rows[doc.id]? = some old) (htype : old.getType = doc.getType)
      (hrows : next.rows = folder.rows.insert doc.id (doc.keeping old)) :
      vault.Step (.call client (.update portfolio doc)) (.ok .done)
        (vault.withFolder portfolio next)
  | deleted {client : ClientId} {portfolio : String} {id : Id} {old : Document} {folder : Folder}
      (hproduces : vault.Produces client portfolio folder old.usages)
      (hold : folder.rows[id]? = some old) :
      vault.Step (.call client (.delete portfolio id)) (.ok .done)
        (vault.withFolder portfolio (folder.erase id))
  | restarted : vault.Step .restart (.ok .done) vault
  | backedUp {passphrase : String} (hlength : 8 ≤ (strToBytes passphrase).length) :
      vault.Step (.backup passphrase) (.ok .done)
        { vault with backups := vault.backups ++ [vault.folders] }
  | restored {number : Nat} {folders : String → Option Folder}
      (hbackup : vault.backups[number]? = some folders) :
      vault.Step (.restore number) (.ok .done) { vault with folders }

variable {vault next : Vault} {client : ClientId} {portfolio : String} {answer : Answer}

/-- Nothing changes the rights. -/
theorem Step.rights {event : VaultEvent} {result : Except Refusal Answer}
    (hstep : vault.Step event result next) : next.rights = vault.rights := by
  cases hstep <;> rfl

theorem Step.backups_of_call {call : WalletCall} {result : Except Refusal Answer}
    (hstep : vault.Step (.call client call) result next) : next.backups = vault.backups := by
  cases hstep <;> rfl

theorem folder_eq_ok {folder : Folder} :
    vault.folder portfolio = .ok folder ↔ vault.folders portfolio = some folder := by
  unfold Vault.folder
  cases vault.folders portfolio <;> simp

theorem produced_of_ok {usages : StdSet UsageId} {folder : Folder}
    (hproduced : vault.produced client portfolio = .ok (usages, folder)) :
    vault.producerUsages portfolio client = .ok usages ∧
      vault.folders portfolio = some folder := by
  obtain ⟨found, hsome, hproduced⟩ := bind_eq_ok.1 hproduced
  obtain ⟨found', hfolder, hproduced⟩ := bind_eq_ok.1 hproduced
  obtain ⟨rfl, rfl⟩ := Prod.mk.inj (Except.ok.inj hproduced)
  obtain ⟨rights, hrights, hsome⟩ := bind_eq_ok.1 hsome
  split at hsome
  · cases hsome
  · obtain rfl := Except.ok.inj hsome
    exact ⟨hrights, folder_eq_ok.1 hfolder⟩

omit [Certificates] in
theorem owned_eq_ok {usages wanted : StdSet UsageId} :
    owned usages wanted = .ok () ↔ ∀ usage ∈ wanted, usage ∈ usages := by
  unfold owned
  cases hfind : wanted.toList.find? fun usage => usage ∉ usages with
  | none =>
      rw [List.find?_eq_none] at hfind
      simpa using hfind
  | some usage =>
      have hmem := List.mem_of_find?_eq_some hfind
      have hnot := List.find?_some hfind
      simp only [reduceCtorEq, false_iff, not_forall]
      exact ⟨usage, Std.ExtTreeSet.mem_toList.1 hmem, by simpa using hnot⟩

theorem get_id_eq_ok {folder : Folder} {id : Id} {doc : Document} :
    folder.get (.id id) = .ok doc ↔ folder.rows[id]? = some doc := by
  rw [Folder.get]
  cases folder.rows[id]? <;> simp

theorem rows_of_put {folder next : Folder} {doc : { doc : Document // doc.Storable }}
    (hput : folder.put doc = .ok next) :
    next.rows = folder.rows.insert doc.1.id doc.1 := by
  unfold Folder.put at hput
  split at hput
  · rw [← Except.ok.inj hput]
    rfl
  · cases hput

theorem lookup_of_not_mem_ids {folder : Folder} {id : Id} (hfresh : id ∉ folder.ids) :
    folder.rows[id]? = none := by
  rwa [Folder.ids, Std.ExtTreeSet.mem_ofList, List.contains_iff_mem, Std.ExtTreeMap.mem_keys,
    ← Std.ExtTreeMap.isSome_getElem?_iff_mem, Bool.not_eq_true, Option.isSome_eq_false_iff,
    Option.isNone_iff_eq_none] at hfresh

theorem insert_step {doc : Document}
    (hinsert : vault.insert client portfolio doc = .ok (answer, next)) :
    vault.Step (.call client (.insert portfolio doc)) (.ok answer) next := by
  obtain ⟨⟨usages, folder⟩, hproduced, hinsert⟩ := bind_eq_ok.1 hinsert
  obtain ⟨hrights, hfolder⟩ := produced_of_ok hproduced
  obtain ⟨⟨checked, hstorable⟩, hchecked, hinsert⟩ := bind_eq_ok.1 hinsert
  obtain rfl : checked = doc.content := (Document.checked_eq_ok.1 hchecked).2
  obtain ⟨_, howned, hinsert⟩ := bind_eq_ok.1 hinsert
  obtain ⟨put, hput, hinsert⟩ := bind_eq_ok.1 hinsert
  obtain ⟨rfl, rfl⟩ := Prod.mk.inj (Except.ok.inj hinsert)
  exact .inserted _ ⟨⟨usages, hrights, owned_eq_ok.1 howned⟩, hfolder⟩
    (lookup_of_not_mem_ids (vault.uuids.next_fresh folder.ids)) (rows_of_put hput)

theorem update_step {doc : Document}
    (hupdate : vault.update client portfolio doc = .ok (answer, next)) :
    vault.Step (.call client (.update portfolio doc)) (.ok answer) next := by
  obtain ⟨⟨usages, folder⟩, hproduced, hupdate⟩ := bind_eq_ok.1 hupdate
  obtain ⟨hrights, hfolder⟩ := produced_of_ok hproduced
  obtain ⟨old, hold, hupdate⟩ := bind_eq_ok.1 hupdate
  obtain ⟨_, howned, hupdate⟩ := bind_eq_ok.1 hupdate
  split at hupdate
  · cases hupdate
  · next htype =>
      obtain ⟨checked, hchecked, hupdate⟩ := bind_eq_ok.1 hupdate
      obtain ⟨put, hput, hupdate⟩ := bind_eq_ok.1 hupdate
      obtain ⟨rfl, rfl⟩ := Prod.mk.inj (Except.ok.inj hupdate)
      have hrows := rows_of_put hput
      rw [(Document.checked_eq_ok.1 hchecked).2] at hrows
      exact .updated ⟨⟨usages, hrights, owned_eq_ok.1 howned⟩, hfolder⟩ (get_id_eq_ok.1 hold)
        (not_not.1 htype) hrows

theorem delete_step {id : Id}
    (hdelete : vault.delete client portfolio id = .ok (answer, next)) :
    vault.Step (.call client (.delete portfolio id)) (.ok answer) next := by
  obtain ⟨⟨usages, folder⟩, hproduced, hdelete⟩ := bind_eq_ok.1 hdelete
  obtain ⟨hrights, hfolder⟩ := produced_of_ok hproduced
  obtain ⟨old, hold, hdelete⟩ := bind_eq_ok.1 hdelete
  obtain ⟨_, howned, hdelete⟩ := bind_eq_ok.1 hdelete
  obtain ⟨rfl, rfl⟩ := Prod.mk.inj (Except.ok.inj hdelete)
  exact .deleted ⟨⟨usages, hrights, owned_eq_ok.1 howned⟩, hfolder⟩ (get_id_eq_ok.1 hold)

theorem answer_step {call : WalletCall} (hanswer : vault.answer client call = .ok (answer, next)) :
    vault.Step (.call client call) (.ok answer) next := by
  cases call with
  | insert portfolio doc => exact insert_step hanswer
  | update portfolio doc => exact update_step hanswer
  | delete portfolio id => exact delete_step hanswer
  | portfolios =>
      obtain ⟨-, rfl⟩ := Prod.mk.inj (Except.ok.inj hanswer)
      exact .read rfl
  | _ =>
      obtain ⟨_, -, hanswer⟩ := bind_eq_ok.1 hanswer
      obtain ⟨-, rfl⟩ := Prod.mk.inj (Except.ok.inj hanswer)
      exact .read rfl

/-- Every event is one of the steps. -/
theorem respond_step (event : VaultEvent) (vault : Vault) :
    vault.Step event (respond event vault).1 (respond event vault).2 := by
  cases event with
  | restart => exact .restarted
  | backup passphrase =>
      rw [respond]
      by_cases hlength : 8 ≤ (strToBytes passphrase).length
      · rw [if_pos hlength]
        exact .backedUp hlength
      · rw [if_neg hlength]
        exact .refused _ _
  | restore number =>
      rw [respond]
      cases hbackup : vault.backups[number]? with
      | none => exact .refused _ _
      | some folders => exact .restored hbackup
  | call client call =>
      rw [respond]
      cases hanswer : vault.answer client call with
      | error refusal => exact .refused _ _
      | ok answered => exact answer_step hanswer

end Vault

end Secw
