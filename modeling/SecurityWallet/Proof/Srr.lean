import SecurityWallet.Proof.Persistence

/-!
# Restoring a backup

The documents of an SRR backup are encrypted, read back, saved to the database and loaded from it.
All come through, but for the internal certificates of another platform.
-/

open Foundation SerializationInfo Effect

namespace Secw

namespace Portfolio

/-- What of a document is restored: everything, unless it belongs to another platform. -/
def keptBy (isSameInstance : Bool) (doc : Document) : Bool :=
  decide (isSameInstance = true ∨ doc.getType ≠ "InternalCertificate")

/-- A portfolio without the documents a restore drops. -/
def keepFor (isSameInstance : Bool) (portfolio : Portfolio) : Portfolio :=
  { portfolio with documents := portfolio.documents.filterValues (keptBy isSameInstance) }

/-- The restored portfolio holds the documents of the other one that are kept, and no others. -/
structure RestoredFrom (isSameInstance : Bool) (restored portfolio : Portfolio) : Prop where
  name : restored.name = portfolio.name
  documents : ∀ id : Id, Option.Rel Document.SameContent restored.documents[id]?
    (portfolio.documents[id]?.filter (keptBy isSameInstance))

theorem Loadable.keepFor [Certificates] {portfolio : Portfolio} (hloadable : portfolio.Loadable)
    (isSameInstance : Bool) : (portfolio.keepFor isSameInstance).Loadable where
  keyed := by
    intro id doc hdoc
    rw [Portfolio.keepFor, StdMap.lookup_filterValues] at hdoc
    exact hloadable.keyed (Option.filter_eq_some_iff.1 hdoc).1
  valid := by
    intro id doc hdoc
    rw [Portfolio.keepFor, StdMap.lookup_filterValues] at hdoc
    exact hloadable.valid (Option.filter_eq_some_iff.1 hdoc).1

variable [Cxxtools] [OpenSSL] [Certificates]

/-- The loader keeps a document it reads unless the document is dropped. -/
theorem accepted_of_createFromSRR {si : SerializationInfo} {encryptiondKey : String}
    {doc : Document} (hcreate : Document.createFromSRR si encryptiondKey = .ok doc.content)
    (hvalid : doc.validate = .ok ()) (isSameInstance : Bool) :
    accepted (readDocumentSRR encryptiondKey isSameInstance si) =
      if keptBy isSameInstance doc then some doc.content else none := by
  have hdropped : (¬ isSameInstance = true ∧ doc.content.getType = "InternalCertificate") ↔
      ¬ keptBy isSameInstance doc = true := by
    rw [keptBy, decide_eq_true_iff, not_or, not_not]
    rfl
  have hread : readDocumentSRR encryptiondKey isSameInstance si =
      if keptBy isSameInstance doc then .ok (some doc.content) else .ok none := by
    rw [readDocumentSRR, hcreate]
    by_cases hkept : keptBy isSameInstance doc = true
    · rw [if_pos hkept]
      refine (if_neg (fun hdrop => hdropped.1 hdrop hkept)).trans ?_
      exact bind_eq_ok.2 ⟨(), Document.validate_content hvalid, rfl⟩
    · rw [if_neg hkept]
      exact if_pos (hdropped.2 hkept)
  rw [hread]
  split <;> rfl

theorem filterMap_accepted {encryptiondKey : String} (isSameInstance : Bool) {docs : List Document}
    {sis : List SerializationInfo}
    (hcreate : List.Forall₂
      (fun doc si => Document.createFromSRR si encryptiondKey = .ok doc.content) docs sis)
    (hvalid : ∀ doc ∈ docs, doc.validate = .ok ()) :
    (sis.filterMap fun si => accepted (readDocumentSRR encryptiondKey isSameInstance si)) =
      (docs.filter (keptBy isSameInstance)).map Document.content := by
  induction hcreate with
  | nil => rfl
  | @cons doc si docs sis hdoc _ ih =>
      rw [List.filterMap_cons, ih fun other hother => hvalid other (List.mem_cons_of_mem doc hother),
        accepted_of_createFromSRR hdoc (hvalid doc List.mem_cons_self) isSameInstance,
        List.filter_cons]
      split <;> simp_all

variable [LawfulCxxtools] [LawfulOpenSSL]

/-- A portfolio that was backed up comes back from SRR as from the database, without the dropped. -/
theorem Loadable.serializePortfolioSRR_ensures {portfolio : Portfolio}
    (hloadable : portfolio.Loadable) {encryptiondKey : String}
    (hkey : encryptiondKey.isEmpty = false) {source : RandomSource} (hsource : source.NeverFails) :
    Ensures (portfolio.serializePortfolioSRR encryptiondKey .null) source
      (fun si next => next.NeverFails ∧ ∀ isSameInstance start,
        (loadPortfolioFromSRR si encryptiondKey isSameInstance).result start =
          .ok (portfolio.keepFor isSameInstance).asLoaded)
      fun _ _ => False := by
  simp only [serializePortfolioSRR, ensures_bind, ensures_pure]
  refine (Ensures.mapM (I := RandomSource.NeverFails)
    (P := fun doc si => Document.createFromSRR si encryptiondKey = .ok doc.content)
    (fun doc _ _ hstate => doc.fillSerializationInfoSRR_ensures hkey hstate) hsource).imp ?_
    fun _ _ h => h
  rintro siDocuments next ⟨hnext, hdocuments⟩
  refine ⟨hnext, fun isSameInstance start => ?_⟩
  rw [loadPortfolioFromSRR, loadPortfolioSRRVersion1, loadVersioned_result]
  refine ⟨portfolio.name, _, ?_, getStringMember_of_findMember rfl, getMember_of_findMember rfl, ?_⟩
  · rw [getUInt8Member, bind_eq_ok]
    exact ⟨_, getMember_of_findMember rfl, LawfulCxxtools.getUInt8_ofUInt8 1⟩
  · have hvalid : ∀ doc ∈ portfolio.getListDocuments, doc.validate = .ok () := by
      intro doc hdoc
      obtain ⟨id, hid⟩ := StdMap.mem_valueList.1 hdoc
      exact hloadable.valid hid
    rw [children_arr, filterMap_accepted isSameInstance hdocuments hvalid, Portfolio.asLoaded,
      getListDocuments, Portfolio.keepFor, StdMap.valueList_filterValues]
    rfl

omit [Cxxtools] [OpenSSL] [LawfulCxxtools] [LawfulOpenSSL] in
/-- Loading what was restored once more, from the database, changes no document. -/
theorem Loadable.restoredFrom {portfolio : Portfolio} (hloadable : portfolio.Loadable)
    (isSameInstance : Bool) :
    (portfolio.keepFor isSameInstance).asLoaded.asLoaded.RestoredFrom isSameInstance portfolio where
  name := rfl
  documents id := by
    have hkept := hloadable.keepFor isSameInstance
    rw [hkept.asLoaded.asLoaded_documents, StdMap.lookup_mapValues, hkept.asLoaded_documents,
      StdMap.lookup_mapValues, Portfolio.keepFor, StdMap.lookup_filterValues]
    cases portfolio.documents[id]?.filter (keptBy isSameInstance) <;> simp [Document.SameContent]

end Portfolio

namespace SecurityWallet

variable [Platform] [LawfulCxxtools] [LawfulOpenSSL]

/-- What a backup with the passphrase and the uuid of a platform holds. -/
structure Backup (wallet : SecurityWallet) (passphrase uuid : String) (si : SerializationInfo) :
    Prop where
  checkPassphrase : ∃ received, getStringMember si "check_passphrase" = .ok received ∧
    decrypt received passphrase = .ok (strToBytes passphrase)
  checkPlatform : ∃ received, getStringMember si "check_platform" = .ok received ∧
    decrypt received passphrase = .ok (strToBytes uuid)
  portfolios : ∃ portfolioSis, getMember si "portfolios" = .ok portfolioSis ∧
    List.Forall₂ (fun portfolio portfolioSi => ∀ isSameInstance,
        (Portfolio.loadPortfolioFromSRR portfolioSi passphrase isSameInstance).result {} =
          .ok (portfolio.keepFor isSameInstance).asLoaded)
      wallet.portfolios (children portfolioSis)

theorem getSrrSaveData_spec {wallet : SecurityWallet}
    (hloadable : ∀ portfolio ∈ wallet.portfolios, portfolio.Loadable) {passphrase uuid : String}
    (hlength : 8 ≤ (strToBytes passphrase).length) (huuid : wallet.getHardwareUuid = .ok uuid)
    {source : RandomSource} (hsource : source.NeverFails) :
    Ensures (wallet.getSrrSaveData passphrase) source
      (fun si next => next.NeverFails ∧ wallet.Backup passphrase uuid si) fun _ _ => False := by
  have hkey : passphrase.isEmpty = false := by
    rw [Bool.eq_false_iff, ne_eq, String.isEmpty_iff]
    rintro rfl
    simp [strToBytes] at hlength
  unfold getSrrSaveData
  rw [if_neg (not_lt.2 hlength)]
  simp only [ensures_bind, ensures_liftM, huuid, ensures_pure, Except.ok.injEq, reduceCtorEq,
    false_imp_iff, implies_true, and_true, forall_eq']
  refine (encrypt_ensures passphrase passphrase hsource).imp ?_ fun _ _ h => h
  rintro cyphered _ ⟨hafter, hpassphrase⟩
  refine (encrypt_ensures uuid passphrase hafter).imp ?_ fun _ _ h => h
  rintro cypheredUuid _ ⟨hlast, hplatform⟩
  refine (Ensures.mapM (I := RandomSource.NeverFails)
    (P := fun portfolio portfolioSi => ∀ isSameInstance start,
      (Portfolio.loadPortfolioFromSRR portfolioSi passphrase isSameInstance).result start =
        .ok (portfolio.keepFor isSameInstance).asLoaded)
    (fun portfolio hmem _ hstate =>
      (hloadable portfolio hmem).serializePortfolioSRR_ensures hkey hstate) hlast).imp ?_
    fun _ _ h => h
  rintro portfolioSis _ ⟨hnext, hportfolios⟩
  refine ⟨hnext, ⟨cyphered, getStringMember_of_findMember rfl, hpassphrase⟩,
    ⟨cypheredUuid, getStringMember_of_findMember rfl, hplatform⟩, _, getMember_of_findMember rfl, ?_⟩
  rw [children_arr]
  exact hportfolios.imp fun portfolio portfolioSi hload isSameInstance => hload isSameInstance {}

theorem getSrrSaveData_ensures {wallet : SecurityWallet}
    (hloadable : ∀ portfolio ∈ wallet.portfolios, portfolio.Loadable) {passphrase uuid : String}
    (hlength : 8 ≤ (strToBytes passphrase).length) (huuid : wallet.getHardwareUuid = .ok uuid)
    {source : RandomSource} (hsource : source.NeverFails) :
    Ensures (wallet.getSrrSaveData passphrase) source
      (fun si _ => wallet.Backup passphrase uuid si) fun _ _ => False :=
  (getSrrSaveData_spec hloadable hlength huuid hsource).imp (fun _ _ h => h.2) fun _ _ h => h

omit [LawfulCxxtools] [LawfulOpenSSL] in
/-- A backup with its passphrase is read back; the uuids tell whether it is the same platform. -/
theorem Backup.readSRRData {wallet other : SecurityWallet} {passphrase uuid uuid' : String}
    {si : SerializationInfo} (hbackup : wallet.Backup passphrase uuid si)
    (hlength : 8 ≤ (strToBytes passphrase).length) (huuid : other.getHardwareUuid = .ok uuid') :
    other.readSRRData si passphrase "1.0" =
      .ok (wallet.portfolios.map fun portfolio =>
        (portfolio.keepFor (decide (uuid = uuid'))).asLoaded) := by
  obtain ⟨receivedUuid, hreceived, hdecrypt⟩ := hbackup.checkPlatform
  obtain ⟨portfolioSis, hmember, hportfolios⟩ := hbackup.portfolios
  rw [readSRRData_eq_ok]
  refine ⟨rfl, hlength, hbackup.checkPassphrase, receivedUuid, uuid', _, portfolioSis, hreceived,
    huuid, hdecrypt, hmember, ?_⟩
  rw [List.forall₂_map_right_iff]
  refine hportfolios.flip.imp fun portfolioSi portfolio hload => ?_
  rw [hload]
  simp only [strToBytes_inj, eq_comm]

end SecurityWallet

namespace SecurityWalletServer

variable [Platform] [LawfulCxxtools] [LawfulOpenSSL]

/--
A backup of a reachable wallet is restored by any wallet that loads the same configuration. It then
holds the portfolios of the backup, place by place, with all their documents if the platforms have
the same uuid, and with all but the internal certificates if not.
-/
theorem restore_of_backup (server : SecurityWalletServer) (hreachable : Reachable server)
    (other : SecurityWallet) (passphrase uuid uuid' : String) (source : RandomSource)
    (hlength : 8 ≤ (strToBytes passphrase).length) (hsource : source.NeverFails)
    (huuid : server.activeWallet.getHardwareUuid = .ok uuid)
    (huuid' : other.getHardwareUuid = .ok uuid')
    (hconfiguration : Returns (SecurityWallet.loadConfiguration other.disk.configuration) ∅ ()
      server.activeWallet.configurations) :
    ∃ si next restored,
      Returns (server.activeWallet.getSrrSaveData passphrase) source si next ∧
        Returns (SecurityWallet.restoreSRRData si passphrase "1.0") other () restored ∧
        List.Forall₂ (Portfolio.RestoredFrom (decide (uuid = uuid'))) restored.portfolios
          server.activeWallet.portfolios := by
  have hpersisted := hreachable.persisted
  obtain ⟨si, next, hsave, hbackup⟩ :=
    (SecurityWallet.getSrrSaveData_ensures hpersisted.loadable hlength huuid hsource).returns
  have hread := hbackup.readSRRData hlength huuid'
  have hload := SecurityWallet.reload_installed (SecurityWallet.loadable_of_readSRRData hread)
    hconfiguration
  rw [← SecurityWallet.restoreSRRData_installed hread] at hload
  refine ⟨si, next, _, hsave, hload, ?_⟩
  have hnames : SecurityWallet.Configured server.activeWallet.configurations.keys
      ((server.activeWallet.portfolios.map fun portfolio =>
        (portfolio.keepFor (decide (uuid = uuid'))).asLoaded).map Portfolio.asLoaded) := by
    intro name hname
    obtain ⟨portfolio, hmem, heq⟩ := hpersisted.configured name hname
    exact ⟨_, List.mem_map_of_mem (List.mem_map_of_mem hmem), heq⟩
  dsimp only
  rw [SecurityWallet.addMissingPortfolios_of_configured hnames, List.map_map,
    List.forall₂_map_left_iff]
  exact List.forall₂_same.2 fun portfolio hmem =>
    (hpersisted.loadable portfolio hmem).restoredFrom _

end SecurityWalletServer

open scoped Reference

theorem backup_of_started_is_restored :
    ∃ si next restored,
      Returns (Reference.started.activeWallet.getSrrSaveData "passphrase") Reference.randoms si
          next ∧
        Returns (SecurityWallet.restoreSRRData si "passphrase" "1.0")
          (Reference.server [{}]).activeWallet () restored ∧
        List.Forall₂ (Portfolio.RestoredFrom (decide ("uuid" = "uuid"))) restored.portfolios
          Reference.started.activeWallet.portfolios :=
  SecurityWalletServer.restore_of_backup Reference.started reachable_started
    (Reference.server [{}]).activeWallet "passphrase" "uuid" "uuid" Reference.randoms (by decide)
    (fun _ _ => rfl) (Reference.getHardwareUuid_server _) (Reference.getHardwareUuid_server _)
    (SecurityWallet.loadConfiguration_returns.2 ⟨_, Reference.acceptedConfiguration, rfl⟩)

end Secw
