import SecurityWallet.Proof.VaultHistory

/-!
# What a restore brings back

A backup is kept whatever happens after it. Once it is restored, all clients read what they read when
it was taken.
-/

open Foundation Machine

namespace Secw

section Reads

variable [Certificates] {vault next : Vault}

namespace Vault

/-- A call that reads answers what it reads. -/
theorem map_fst_bind {α : Type} (result : Except Refusal α) (f : α → Answer) (vault : Vault) :
    (result >>= fun a => pure (f a, vault)).map Prod.fst = result.map f := by
  cases result <;> rfl

/-- What is read depends on the rights and the folders. -/
theorem answer_congr {other : Vault} (hrights : vault.rights = other.rights)
    (hfolders : vault.folders = other.folders) (client : ClientId) {call : WalletCall}
    (hread : call.isRead = true) :
    (vault.answer client call).map Prod.fst = (other.answer client call).map Prod.fst := by
  obtain ⟨rights, folders, uuids, backups⟩ := vault
  obtain ⟨rights', folders', uuids', backups'⟩ := other
  obtain rfl : rights = rights' := hrights
  obtain rfl : folders = folders' := hfolders
  cases call with
  | insert _ _ => cases hread
  | update _ _ => cases hread
  | delete _ _ => cases hread
  | portfolios => rfl
  | _ => exact (map_fst_bind _ _ _).trans (map_fst_bind _ _ _).symm

theorem Step.backups_prefix {event : VaultEvent} {answer : Except Refusal Answer}
    (hstep : vault.Step event answer next) : vault.backups <+: next.backups := by
  cases hstep with
  | backedUp hlength => exact List.prefix_append _ _
  | _ => exact List.prefix_rfl

theorem run_keeps (events : List VaultEvent) (vault : Vault) :
    (run respond events vault).2.rights = vault.rights ∧
      vault.backups <+: (run respond events vault).2.backups := by
  induction events generalizing vault with
  | nil => exact ⟨rfl, List.prefix_rfl⟩
  | cons event events ih =>
      have hstep := respond_step event vault
      obtain ⟨hrights, hbackups⟩ := ih (respond event vault).2
      exact ⟨hrights.trans hstep.rights, hstep.backups_prefix.trans hbackups⟩

theorem respond_call (client : ClientId) (call : WalletCall) (vault : Vault) :
    (respond (.call client call) vault).1 = (vault.answer client call).map Prod.fst := by
  rw [respond]
  cases vault.answer client call <;> rfl

/-- The backup of a state is restored after any events. -/
theorem restore_run (vault : Vault) {number : Nat} (hnumber : vault.backups[number]? = some vault.folders)
    (events : List VaultEvent) :
    respond (.restore number) (run respond events vault).2 =
      (.ok .done, { (run respond events vault).2 with folders := vault.folders }) := by
  obtain ⟨hlt, hfolders⟩ := List.getElem?_eq_some_iff.1 hnumber
  have hlast := List.prefix_iff_getElem?.1 (run_keeps events vault).2 number hlt
  rw [hfolders] at hlast
  rw [respond, hlast]

end Vault

end Reads

section Sites

variable [Platform] [LawfulCxxtools] [LawfulOpenSSL] [CxxtoolsTexts] [CxxtoolsEmptyText]

/--
A backup is taken, anything happens, and the backup is restored. Then the restore succeeds, and every
client reads what it would have read when the backup was taken.
-/
theorem Site.restore_brings_back (server : SecurityWalletServer)
    (hreachable : SecurityWalletServer.ReachableFromEmpty server) (uuid : String)
    (hids : ∀ n, server.uuids.draw n ≠ "ERROR") (hrandoms : server.randoms.NeverFails)
    (hhardware : server.activeWallet.getHardwareUuid = .ok uuid) (before after : List VaultEvent)
    (passphrase : String) (hlength : 8 ≤ (strToBytes passphrase).length) (client : ClientId)
    (call : WalletCall) (hread : call.isRead = true) :
    let number := (run Site.perform before { server }).2.backups.length
    let saved := (Site.perform (.backup passphrase) (run Site.perform before { server }).2).2
    let restored := Site.perform (.restore number) (run Site.perform after saved).2
    restored.1 = .ok .done ∧
      (Site.perform (.call client call) restored.2).1 =
        (Site.perform (.call client call) saved).1 := by
  intro number saved restored
  obtain ⟨vault, hstart, -⟩ := hreachable.exists_represents hids hrandoms hhardware
  have hbefore := (hstart.run before).2
  generalize (run Vault.respond before vault).2 = vault at hbefore
  obtain ⟨-, hsaved⟩ := hbefore.perform (.backup passphrase)
  have hback : Vault.respond (.backup passphrase) vault =
      (.ok .done, { vault with backups := vault.backups ++ [vault.folders] }) := by
    rw [Vault.respond, if_pos hlength]
  have hnumber : (vault.backups ++ [vault.folders])[number]? = some vault.folders := by
    rw [List.getElem?_append_right hbefore.backups.length_eq.ge, hbefore.backups.length_eq,
      Nat.sub_self]
    rfl
  rw [hback] at hsaved
  have hafter := (hsaved.run after).2
  obtain ⟨hanswer, hrestored⟩ := hafter.perform (.restore number)
  have hrestore := Vault.restore_run
    { vault with backups := vault.backups ++ [vault.folders] } hnumber after
  rw [hrestore] at hanswer hrestored
  refine ⟨hanswer.symm, ?_⟩
  have hread' := (hrestored.perform (.call client call)).1
  have hread'' := (hsaved.perform (.call client call)).1
  rw [Vault.respond_call] at hread' hread''
  rw [← hread', ← hread'']
  have hrights := (Vault.run_keeps after
    { vault with backups := vault.backups ++ [vault.folders] }).1
  apply Vault.answer_congr _ _ client hread
  · exact hrights
  · rfl

end Sites

open scoped Reference

theorem reference_restore_brings_back :
    let number := (run Site.perform [] { server := Reference.server [{}] }).2.backups.length
    let saved := (Site.perform (.backup "passphrase")
      (run Site.perform [] { server := Reference.server [{}] }).2).2
    let restored := Site.perform (.restore number) (run Site.perform [.restart] saved).2
    restored.1 = .ok .done ∧
      (Site.perform (.call "bob" .portfolios) restored.2).1 =
        (Site.perform (.call "bob" .portfolios) saved).1 :=
  Site.restore_brings_back (Reference.server [{}]) reachableFromEmpty_reference "uuid"
    Reference.uuids_ne_error (fun _ _ => rfl) (Reference.getHardwareUuid_server _) [] [.restart]
    "passphrase" (by decide) "bob" .portfolios rfl

end Secw
