import SecurityWallet.Proof.VaultRestore
import SecurityWallet.Proof.VaultSeen

/-!
# What the calls of a client tell of secrets

A client that does not read the secrets of a document still learns something by updating it: whether
a private field has a value, and whether a private key is the one of a certificate. Nothing more can
be learnt by any calls, as long as the client does not produce a usage that it consumes.
-/

open Foundation Machine

namespace Secw

section Seen

variable [Certificates] {usages : Except Refusal (StdSet UsageId)} {doc other : Document}

/-! ### Vaults that look the same to a client -/

namespace Vault

/-- The folders look the same to the client, who has the rights of the vault. -/
def FoldersLook (client : ClientId) (vault : Vault) (folders others : String → Option Folder) :
    Prop :=
  ∀ portfolio, Option.Rel (Folder.Looks (vault.consumerUsages portfolio client))
    (folders portfolio) (others portfolio)

/-- The vaults differ only in the secrets of documents that the client does not read. -/
structure LooksTo (client : ClientId) (vault other : Vault) : Prop where
  rights : vault.rights = other.rights
  uuids : vault.uuids = other.uuids
  folders : vault.FoldersLook client vault.folders other.folders
  backups : List.Forall₂ (vault.FoldersLook client) vault.backups other.backups

namespace LooksTo

variable {client : ClientId} {vault other : Vault}

theorem rightsTo (hlooks : LooksTo client vault other) (portfolio : String) :
    vault.rightsTo portfolio = other.rightsTo portfolio := by
  rw [Vault.rightsTo, Vault.rightsTo, hlooks.rights]

theorem consumerUsages (hlooks : LooksTo client vault other) (portfolio : String) :
    vault.consumerUsages portfolio client = other.consumerUsages portfolio client := by
  rw [Vault.consumerUsages, Vault.consumerUsages, hlooks.rightsTo]

theorem producerUsages (hlooks : LooksTo client vault other) (portfolio : String) :
    vault.producerUsages portfolio client = other.producerUsages portfolio client := by
  rw [Vault.producerUsages, Vault.producerUsages, hlooks.rightsTo]

theorem folder (hlooks : LooksTo client vault other) (portfolio : String) :
    SameOutcome (Folder.Looks (vault.consumerUsages portfolio client)) (vault.folder portfolio)
      (other.folder portfolio) := by
  have hrel := hlooks.folders portfolio
  unfold Vault.folder
  generalize vault.folders portfolio = folder at hrel ⊢
  generalize other.folders portfolio = folder' at hrel ⊢
  cases hrel with
  | none => rfl
  | some hfolder => exact hfolder

theorem get (hlooks : LooksTo client vault other) (portfolio : String) (key : Key) :
    SameOutcome (fun doc doc' => doc.seen (vault.consumerUsages portfolio client) =
        doc'.seen (vault.consumerUsages portfolio client))
      (vault.folder portfolio >>= fun folder => folder.get key)
      (other.folder portfolio >>= fun folder => folder.get key) :=
  (hlooks.folder portfolio).bind fun _ _ _ _ hfolder => hfolder.get key

omit [Certificates] in
theorem someOf_eq_ok {usages : Except Refusal (StdSet UsageId)} {whatArg : String}
    {found : StdSet UsageId} (hsome : someOf usages whatArg = .ok found) : usages = .ok found := by
  obtain ⟨given, hgiven, hsome⟩ := bind_eq_ok.1 hsome
  split at hsome
  · cases hsome
  · rw [hgiven, Except.ok.inj hsome]

/-- A document that looks the same is open to both or to none. -/
theorem openTo_congr {usages : Except Refusal (StdSet UsageId)}
    {found found' : Except Refusal Document}
    (hfound : SameOutcome (fun doc doc' => doc.seen usages = doc'.seen usages) found found') :
    openTo usages found = openTo usages found' := by
  apply SameOutcome.eq
  refine (SameOutcome.of_eq rfl).bind ?_
  rintro consumed _ hsome - rfl
  refine hfound.bind fun doc doc' _ _ hseen => ?_
  rw [someOf_eq_ok hsome] at hseen
  rcases Document.seen_eq_iff.1 hseen with rfl | ⟨hclosed, houtline⟩
  · exact SameOutcome.of_eq rfl
  · obtain ⟨-, -, husages, -⟩ := Document.sameHeader_of_view (Document.publicView_of_seen hseen)
    have hshut : ¬ StdSet.Meets consumed doc.usages := hclosed
    have hshut' : ¬ StdSet.Meets consumed doc'.usages := husages ▸ hshut
    change SameOutcome Eq (if ¬ StdSet.Meets consumed doc.usages then _ else _)
      (if ¬ StdSet.Meets consumed doc'.usages then _ else _)
    rw [if_pos hshut, if_pos hshut']
    rfl

/-- Reading alike is answering alike. -/
theorem sameOutcome_read {α : Type} {result result' : Except Refusal α} (f : α → Answer)
    (hlooks : LooksTo client vault other) (hresult : result = result') :
    SameOutcome (fun answered answered' => answered.1 = answered'.1 ∧
        LooksTo client answered.2 answered'.2)
      (result >>= fun a => pure (f a, vault)) (result' >>= fun a => pure (f a, other)) := by
  subst hresult
  refine (SameOutcome.of_eq rfl).bind ?_
  rintro a _ - - rfl
  exact ⟨rfl, hlooks⟩

theorem secret (hlooks : LooksTo client vault other) (portfolio : String) (key : Key) :
    vault.secret client portfolio key = other.secret client portfolio key := by
  unfold Vault.secret
  rw [← hlooks.consumerUsages]
  exact openTo_congr (hlooks.get portfolio key)

theorem view (hlooks : LooksTo client vault other) (portfolio : String) (key : Key) :
    vault.view portfolio key = other.view portfolio key := by
  apply SameOutcome.eq
  refine (hlooks.folder portfolio).bind fun folder folder' _ _ hfolder => ?_
  refine (hfolder.get key).bind fun doc doc' _ _ hseen => ?_
  exact SameOutcome.of_eq (congrArg Except.ok (Document.publicView_of_seen hseen))

theorem viewsOfUsage (hlooks : LooksTo client vault other) (portfolio : String)
    (usage : UsageId) : vault.viewsOfUsage portfolio usage = other.viewsOfUsage portfolio usage := by
  apply SameOutcome.eq
  unfold Vault.viewsOfUsage
  rw [hlooks.rightsTo]
  refine (SameOutcome.of_eq rfl).bind ?_
  rintro rights _ - - rfl
  split
  · rfl
  · refine (hlooks.folder portfolio).bind fun folder folder' _ _ hfolder => ?_
    have hfilter : ∀ folder : Folder,
        (folder.list.filter fun doc => decide (usage = "" ∨ usage ∈ doc.usages)).map
            Document.publicView =
          (folder.list.map Document.publicView).filter
            fun view => decide (usage = "" ∨ usage ∈ view.usages) := by
      intro folder
      rw [List.filter_map]
      rfl
    refine SameOutcome.of_eq (congrArg Except.ok ?_)
    rw [hfilter, hfilter, hfolder.views]

omit [Certificates] in
theorem usagesListed_eq_ok {usages : Except Refusal (StdSet UsageId)} {usage : UsageId}
    {listed : StdSet UsageId} (hlisted : usagesListed usages usage = .ok listed) :
    ∃ consumed, usages = .ok consumed ∧ ∀ usage ∈ listed, usage ∈ consumed := by
  obtain ⟨consumed, hsome, hlisted⟩ := bind_eq_ok.1 hlisted
  refine ⟨consumed, someOf_eq_ok hsome, ?_⟩
  split at hlisted
  · obtain rfl := Except.ok.inj hlisted
    exact fun _ hmem => hmem
  · split at hlisted
    · cases hlisted
    · next hmem =>
        obtain rfl := Except.ok.inj hlisted
        simpa using hmem

/-- Lists that look the same have the same documents of usages that the client consumes. -/
theorem filter_congr {consumed listed : StdSet UsageId} {docs docs' : List Document}
    (hdocs : List.Forall₂
      (fun doc doc' => doc.seen (.ok consumed) = doc'.seen (.ok consumed)) docs docs')
    (hlisted : ∀ usage ∈ listed, usage ∈ consumed) :
    (docs.filter fun doc => StdSet.Meets doc.usages listed) =
      docs'.filter fun doc => StdSet.Meets doc.usages listed := by
  induction hdocs with
  | nil => rfl
  | @cons doc doc' docs docs' hseen _ ih =>
      rw [List.filter_cons, List.filter_cons, ih]
      rcases Document.seen_eq_iff.1 hseen with rfl | ⟨hclosed, houtline⟩
      · rfl
      · obtain ⟨-, -, husages, -⟩ :=
          Document.sameHeader_of_view (Document.publicView_of_seen hseen)
        have hskip : ¬ StdSet.Meets doc.usages listed := by
          rintro ⟨usage, hmem, hin⟩
          exact hclosed ⟨usage, hlisted usage hin, hmem⟩
        have hskip' : ¬ StdSet.Meets doc'.usages listed := husages ▸ hskip
        rw [if_neg (by simpa using hskip), if_neg (by simpa using hskip')]

theorem secretsOfUsage (hlooks : LooksTo client vault other) (portfolio : String)
    (usage : UsageId) :
    vault.secretsOfUsage client portfolio usage = other.secretsOfUsage client portfolio usage := by
  apply SameOutcome.eq
  unfold Vault.secretsOfUsage
  rw [← hlooks.consumerUsages]
  refine (SameOutcome.of_eq rfl).bind ?_
  rintro listed _ hlisted - rfl
  refine (hlooks.folder portfolio).bind fun folder folder' _ _ hfolder => ?_
  obtain ⟨consumed, husages, hsubset⟩ := usagesListed_eq_ok hlisted
  rw [husages] at hfolder
  refine SameOutcome.of_eq (congrArg Except.ok (filter_congr ?_ hsubset))
  have hlist := hfolder.list
  rwa [← List.forall₂_eq_eq_eq, List.forall₂_map_left_iff, List.forall₂_map_right_iff] at hlist

/-! ### Calls -/

theorem withFolder (hlooks : LooksTo client vault other) (portfolio : String)
    {folder folder' : Folder}
    (hfolder : folder.Looks (vault.consumerUsages portfolio client) folder') :
    LooksTo client (vault.withFolder portfolio folder) (other.withFolder portfolio folder') := by
  refine ⟨hlooks.rights, hlooks.uuids, ?_, hlooks.backups⟩
  intro name
  change Option.Rel (Folder.Looks (vault.consumerUsages name client))
    (Function.update vault.folders portfolio (some folder) name)
    (Function.update other.folders portfolio (some folder') name)
  by_cases hname : name = portfolio
  · subst hname
    rw [Function.update_self, Function.update_self]
    exact .some hfolder
  · rw [Function.update_of_ne hname, Function.update_of_ne hname]
    exact hlooks.folders name

theorem produced (hlooks : LooksTo client vault other) (portfolio : String) :
    SameOutcome (fun found found' => found.1 = found'.1 ∧
        found.2.Looks (vault.consumerUsages portfolio client) found'.2)
      (vault.produced client portfolio) (other.produced client portfolio) := by
  unfold Vault.produced
  rw [hlooks.producerUsages]
  refine (SameOutcome.of_eq rfl).bind ?_
  rintro usages _ - - rfl
  refine (hlooks.folder portfolio).bind fun folder folder' _ _ hfolder => ?_
  exact ⟨rfl, hfolder⟩

/-- What is asked of two answers. -/
def Answered (client : ClientId) (answered answered' : Answer × Vault) : Prop :=
  answered.1 = answered'.1 ∧ LooksTo client answered.2 answered'.2

theorem insert (hlooks : LooksTo client vault other) (portfolio : String) (doc : Document) :
    SameOutcome (Answered client) (vault.insert client portfolio doc)
      (other.insert client portfolio doc) := by
  refine (hlooks.produced portfolio).bind ?_
  rintro ⟨usages, folder⟩ ⟨_, folder'⟩ - - ⟨rfl, hfolder⟩
  refine (SameOutcome.of_eq rfl).bind ?_
  rintro checked _ - - rfl
  refine (SameOutcome.of_eq rfl).bind ?_
  rintro _ _ - - -
  have hids : vault.uuids.next folder.ids = other.uuids.next folder'.ids := by
    rw [hlooks.uuids, hfolder.ids]
  dsimp only
  rw [hids]
  refine (hfolder.put rfl).bind fun next next' _ _ hnext => ?_
  have hwith := hlooks.withFolder portfolio hnext
  exact ⟨rfl, hwith.rights, rfl, hwith.folders, hwith.backups⟩

theorem delete (hlooks : LooksTo client vault other) (portfolio : String) (id : Id) :
    SameOutcome (Answered client) (vault.delete client portfolio id)
      (other.delete client portfolio id) := by
  refine (hlooks.produced portfolio).bind ?_
  rintro ⟨usages, folder⟩ ⟨_, folder'⟩ - - ⟨rfl, hfolder⟩
  refine (hfolder.get (.id id)).bind fun old old' _ _ hseen => ?_
  obtain ⟨-, -, husages, -⟩ := Document.sameHeader_of_view (Document.publicView_of_seen hseen)
  rw [husages]
  refine (SameOutcome.of_eq rfl).bind ?_
  rintro _ _ - - -
  exact ⟨rfl, hlooks.withFolder portfolio (hfolder.erase id)⟩

end LooksTo

/-- The client produces no usage that it consumes in the same portfolio. -/
def Separated (client : ClientId) (vault : Vault) : Prop :=
  ∀ portfolio produced consumed, vault.producerUsages portfolio client = .ok produced →
    vault.consumerUsages portfolio client = .ok consumed → ¬ StdSet.Meets produced consumed

namespace LooksTo

variable {client : ClientId} {vault other : Vault}

/-- What the client stores over a document that is not open to it is not open to it. -/
theorem not_open_keeping {portfolio : String} {produced : StdSet UsageId} {doc old : Document}
    (hseparated : Separated client vault)
    (hproduced : vault.producerUsages portfolio client = .ok produced)
    (howned : owned produced (changedUsages doc old) = .ok ())
    (hclosed : ¬ old.Open (vault.consumerUsages portfolio client)) :
    ¬ (doc.keeping old).Open (vault.consumerUsages portfolio client) := by
  cases hconsumer : vault.consumerUsages portfolio client with
  | error refusal => exact not_false
  | ok consumed =>
      rw [hconsumer] at hclosed
      rintro ⟨usage, hmem, hin⟩
      refine hseparated portfolio produced consumed hproduced hconsumer ⟨usage, ?_, hmem⟩
      have hnew : usage ∈ doc.usages := hin
      have hold : usage ∉ old.usages := fun hold => hclosed ⟨usage, hmem, hold⟩
      refine owned_eq_ok.1 howned usage ?_
      simp [changedUsages, hnew, hold]

theorem seen_keeping {usages : Except Refusal (StdSet UsageId)} (doc : Document)
    {old old' : Document} (hseen : old.seen usages = old'.seen usages)
    (hkept : ¬ old.Open usages → ¬ (doc.keeping old).Open usages) :
    (doc.keeping old).seen usages = (doc.keeping old').seen usages := by
  rcases Document.seen_eq_iff.1 hseen with rfl | ⟨hclosed, houtline⟩
  · rfl
  · exact Document.seen_eq_iff.2 (.inr ⟨hkept hclosed, doc.outline_keeping houtline⟩)

/-- Documents with the same outline are both fit to be stored, or refused alike. -/
theorem checked {usages : Except Refusal (StdSet UsageId)} {doc doc' : Document}
    (hseen : doc.seen usages = doc'.seen usages) :
    SameOutcome (fun found found' => found.1 = doc.content ∧ found'.1 = doc'.content) doc.checked
      doc'.checked := by
  have hvalid := Document.validate_of_outline (Document.outline_of_seen hseen)
  cases hchecked : doc.content.validate with
  | ok _ =>
      have hfound : doc.checked = .ok ⟨doc.content, hchecked, rfl⟩ :=
        Document.checked_eq_ok.2 ⟨hchecked, rfl⟩
      have hfound' : doc'.checked = .ok ⟨doc'.content, hvalid ▸ hchecked, rfl⟩ :=
        Document.checked_eq_ok.2 ⟨hvalid ▸ hchecked, rfl⟩
      rw [hfound, hfound']
      exact ⟨rfl, rfl⟩
  | error e =>
      rw [Document.checked_eq_error.2 ⟨e, hchecked, rfl⟩,
        Document.checked_eq_error.2 ⟨e, hvalid ▸ hchecked, rfl⟩]
      rfl

theorem update (hlooks : LooksTo client vault other) (hseparated : Separated client vault)
    (portfolio : String) (doc : Document) :
    SameOutcome (Answered client) (vault.update client portfolio doc)
      (other.update client portfolio doc) := by
  refine (hlooks.produced portfolio).bind ?_
  rintro ⟨usages, folder⟩ ⟨_, folder'⟩ hproduced - ⟨rfl, hfolder⟩
  refine (hfolder.get (.id doc.id)).bind fun old old' _ _ hseen => ?_
  obtain ⟨-, -, husages, htype⟩ :=
    Document.sameHeader_of_view (Document.publicView_of_seen hseen)
  have hchanged : changedUsages doc old = changedUsages doc old' := by
    rw [changedUsages, changedUsages, husages]
  rw [hchanged, htype]
  refine (SameOutcome.of_eq rfl).bind ?_
  rintro _ _ howned - -
  split
  · rfl
  · have hnext := seen_keeping doc hseen
      (not_open_keeping hseparated (produced_of_ok hproduced).1 (hchanged ▸ howned))
    refine (checked hnext).bind ?_
    rintro found found' - - ⟨hfound, hfound'⟩
    refine (hfolder.put ?_).bind fun next next' _ _ hnext => ?_
    · rw [hfound, hfound']
      exact hnext
    · exact ⟨rfl, hlooks.withFolder portfolio hnext⟩

theorem answer (hlooks : LooksTo client vault other) (hseparated : Separated client vault)
    (call : WalletCall) :
    SameOutcome (Answered client) (vault.answer client call) (other.answer client call) := by
  cases call with
  | portfolios => exact ⟨congrArg (fun rights => Answer.names rights.keys) hlooks.rights, hlooks⟩
  | consumerUsages portfolio => exact sameOutcome_read .usages hlooks (hlooks.consumerUsages portfolio)
  | producerUsages portfolio => exact sameOutcome_read .usages hlooks (hlooks.producerUsages portfolio)
  | secret portfolio key => exact sameOutcome_read .document hlooks (hlooks.secret portfolio key)
  | secretsOfUsage portfolio usage =>
      exact sameOutcome_read .documents hlooks (hlooks.secretsOfUsage portfolio usage)
  | secretsOfIds portfolio ids =>
      refine sameOutcome_read .documents hlooks (congrArg (eachOf · ids) ?_)
      exact funext fun id => hlooks.secret portfolio (.id id)
  | view portfolio key => exact sameOutcome_read .document hlooks (hlooks.view portfolio key)
  | viewsOfUsage portfolio usage =>
      exact sameOutcome_read .documents hlooks (hlooks.viewsOfUsage portfolio usage)
  | viewsOfIds portfolio ids =>
      refine sameOutcome_read .documents hlooks (congrArg (eachOf · ids) ?_)
      exact funext fun id => hlooks.view portfolio (.id id)
  | insert portfolio doc => exact hlooks.insert portfolio doc
  | update portfolio doc => exact hlooks.update hseparated portfolio doc
  | delete portfolio id => exact hlooks.delete portfolio id

end LooksTo

end Vault

/-- An event that is no call of another client. -/
def VaultEvent.By (client : ClientId) : VaultEvent → Prop
  | .call sender _ => sender = client
  | _ => True

namespace Vault

variable {client : ClientId} {vault other : Vault}

theorem LooksTo.respond (hlooks : LooksTo client vault other)
    (hseparated : Separated client vault) {event : VaultEvent} (hby : event.By client) :
    (respond event vault).1 = (respond event other).1 ∧
      LooksTo client (respond event vault).2 (respond event other).2 := by
  cases event with
  | restart => exact ⟨rfl, hlooks⟩
  | backup passphrase =>
      rw [Vault.respond, Vault.respond]
      split
      · exact ⟨rfl, hlooks.rights, hlooks.uuids, hlooks.folders,
          List.rel_append hlooks.backups (.cons hlooks.folders .nil)⟩
      · exact ⟨rfl, hlooks⟩
  | restore number =>
      rw [Vault.respond, Vault.respond]
      cases hbackup : vault.backups[number]? with
      | none =>
          have hnone : other.backups[number]? = none := by
            rw [List.getElem?_eq_none_iff] at hbackup ⊢
            rwa [← hlooks.backups.length_eq]
          rw [hnone]
          exact ⟨rfl, hlooks⟩
      | some folders =>
          obtain ⟨folders', hfolders, hlook⟩ := getElem?_of_forall₂ hlooks.backups hbackup
          rw [hfolders]
          exact ⟨rfl, hlooks.rights, hlooks.uuids, hlook, hlooks.backups⟩
  | call sender call =>
      obtain rfl : sender = client := hby
      have hanswer := hlooks.answer hseparated call
      rw [Vault.respond, Vault.respond]
      cases hleft : vault.answer sender call with
      | ok answered =>
          cases hright : other.answer sender call with
          | ok answered' =>
              rw [hleft, hright] at hanswer
              exact ⟨congrArg Except.ok hanswer.1, hanswer.2⟩
          | error refusal =>
              rw [hleft, hright] at hanswer
              exact hanswer.elim
      | error refusal =>
          cases hright : other.answer sender call with
          | ok answered' =>
              rw [hleft, hright] at hanswer
              exact hanswer.elim
          | error refusal' =>
              rw [hleft, hright] at hanswer
              exact ⟨congrArg Except.error hanswer, hlooks⟩

theorem Separated.respond (hseparated : Separated client vault) (event : VaultEvent) :
    Separated client (Vault.respond event vault).2 := by
  intro portfolio produced consumed hproduced hconsumed
  have hrights := (respond_step event vault).rights
  rw [producerUsages, rightsTo, hrights] at hproduced
  rw [consumerUsages, rightsTo, hrights] at hconsumed
  exact hseparated portfolio produced consumed hproduced hconsumed

/-- The client is answered alike over whole runs. -/
theorem LooksTo.run (hlooks : LooksTo client vault other) (hseparated : Separated client vault)
    (events : List VaultEvent) (hby : ∀ event ∈ events, event.By client) :
    (run Vault.respond events vault).1 = (run Vault.respond events other).1 :=
  (run_refines (R := fun vault other => LooksTo client vault other ∧ Separated client vault) events
    (fun event hmem _ _ hrelated =>
      have hnext := hrelated.1.respond hrelated.2 (hby event hmem)
      ⟨hnext.1, hnext.2, hrelated.2.respond event⟩)
    ⟨hlooks, hseparated⟩).1

end Vault

end Seen

/-! ### Servers -/

section Sites

variable [Platform]

/-- The servers differ only in the secrets of documents that the client does not read. -/
structure SecurityWalletServer.LooksTo (client : ClientId) (server other : SecurityWalletServer) :
    Prop where
  configurations : server.activeWallet.configurations = other.activeWallet.configurations
  uuids : server.uuids = other.uuids
  portfolios : ∀ name, Option.Rel
    (fun portfolio portfolio' =>
      let usages := (server.activeWallet.consumerUsages name client).mapError Refusal.of
      portfolio.documents.mapValues (fun doc => doc.content.seen usages) =
        portfolio'.documents.mapValues fun doc => doc.content.seen usages)
    (server.activeWallet.portfolios.find? fun portfolio => portfolio.name = name)
    (other.activeWallet.portfolios.find? fun portfolio => portfolio.name = name)

/-- The client produces no usage that it consumes in the same portfolio. -/
def SecurityWallet.Separated (client : ClientId) (wallet : SecurityWallet) : Prop :=
  ∀ name produced consumed, wallet.producerUsages name client = .ok produced →
    wallet.consumerUsages name client = .ok consumed → ¬ StdSet.Meets produced consumed

variable {client : ClientId} {server other : SecurityWalletServer} {uuid uuid' : String}
  {vault vault' : Vault}

theorem SecurityWalletServer.LooksTo.vaults (hlooks : server.LooksTo client other)
    (hshows : server.Shows uuid vault) (hshows' : other.Shows uuid' vault')
    (hbackups : vault.backups = []) (hbackups' : vault'.backups = []) :
    vault.LooksTo client vault' := by
  refine ⟨?_, ?_, ?_, ?_⟩
  · rw [hshows.wallet.rights, hshows'.wallet.rights, hlooks.configurations]
  · rw [hshows.uuids, hshows'.uuids, hlooks.uuids]
  · intro name
    have hrel := hlooks.portfolios name
    have hfolder := hshows.wallet.folders name
    have hfolder' := hshows'.wallet.folders name
    rw [← hshows.wallet.consumerUsages]
    generalize (server.activeWallet.portfolios.find? fun portfolio => portfolio.name = name) =
      portfolio at hrel hfolder
    generalize (other.activeWallet.portfolios.find? fun portfolio => portfolio.name = name) =
      portfolio' at hrel hfolder'
    generalize vault.folders name = folder at hfolder ⊢
    generalize vault'.folders name = folder' at hfolder' ⊢
    cases hrel with
    | none =>
        cases hfolder
        cases hfolder'
        exact .none
    | some hsame =>
        cases hfolder with
        | some hof =>
            cases hfolder' with
            | some hof' =>
                refine .some ?_
                rw [Folder.Looks, hof.rows, hof'.rows, StdMap.mapValues_mapValues,
                  StdMap.mapValues_mapValues]
                exact hsame
  · rw [hbackups, hbackups']
    exact .nil

theorem SecurityWallet.Shows.separated {wallet : SecurityWallet} (hshows : wallet.Shows vault)
    (hseparated : wallet.Separated client) : vault.Separated client := by
  intro name produced consumed hproduced hconsumed
  rw [← hshows.producerUsages, mapError_eq_ok] at hproduced
  rw [← hshows.consumerUsages, mapError_eq_ok] at hconsumed
  exact hseparated name produced consumed hproduced hconsumed

/--
Suppose two servers differ only in secrets that a client does not read: the documents are filled in
alike, and private keys have the same public keys. A client that produces no usage it consumes is
answered alike by both, whatever it calls, with restarts, backups and restores in between.
-/
theorem Site.secrets_do_not_flow [LawfulCxxtools] [LawfulOpenSSL] [CxxtoolsTexts]
    [CxxtoolsEmptyText] (client : ClientId) (server other : SecurityWalletServer)
    (uuid uuid' : String)
    (hreachable : SecurityWalletServer.ReachableFromEmpty server)
    (hreachable' : SecurityWalletServer.ReachableFromEmpty other)
    (hids : ∀ n, server.uuids.draw n ≠ "ERROR") (hrandoms : server.randoms.NeverFails)
    (hrandoms' : other.randoms.NeverFails)
    (hhardware : server.activeWallet.getHardwareUuid = .ok uuid)
    (hhardware' : other.activeWallet.getHardwareUuid = .ok uuid')
    (hlooks : server.LooksTo client other) (hseparated : server.activeWallet.Separated client)
    (events : List VaultEvent) (hby : ∀ event ∈ events, event.By client) :
    (run Site.perform events { server }).1 = (run Site.perform events { server := other }).1 := by
  obtain ⟨vault, hrep, hbackups⟩ := hreachable.exists_represents hids hrandoms hhardware
  obtain ⟨vault', hrep', hbackups'⟩ :=
    hreachable'.exists_represents (hlooks.uuids ▸ hids) hrandoms' hhardware'
  have hvaults := hlooks.vaults hrep.server hrep'.server hbackups hbackups'
  have hanswers := hvaults.run (hrep.server.wallet.separated hseparated) events hby
  rw [← (hrep.run events).1, ← (hrep'.run events).1, hanswers]

end Sites

/-! ### Two servers with one document -/

namespace Reference

open scoped Reference

theorem usages_of_carol :
    configuration.getUsageIdsForConsummer "carol" = .ok ∅ ∧
      configuration.getUsageIdsForProducer "carol" = .ok ∅ := by
  decide +kernel

theorem lookup_configurations (name : String) :
    configurations[name]? = if "default" = name then some configuration else none := by
  change ((∅ : StdMap String PortfolioConfiguration).insert "default" configuration)[name]? = _
  rw [StdMap.lookup_insert]
  simp

theorem rights_of_carol (portfolios : List Portfolio) {name : String} {usages : StdSet UsageId} :
    ((server portfolios).activeWallet.consumerUsages name "carol" = .ok usages → usages = ∅) ∧
      ((server portfolios).activeWallet.producerUsages name "carol" = .ok usages →
        usages = ∅) := by
  rw [SecurityWallet.consumerUsages, SecurityWallet.producerUsages, SecurityWallet.getConfiguration,
    server, lookup_configurations]
  by_cases hname : "default" = name
  · rw [if_pos hname]
    constructor
    · intro hrights
      exact (Except.ok.inj (usages_of_carol.1.symm.trans hrights)).symm
    · intro hrights
      exact (Except.ok.inj (usages_of_carol.2.symm.trans hrights)).symm
  · rw [if_neg hname]
    constructor
    · intro hrights
      cases hrights
    · intro hrights
      cases hrights

theorem not_open_to_carol (portfolios : List Portfolio) (name : String) (doc : Document) :
    ¬ doc.Open (((server portfolios).activeWallet.consumerUsages name "carol").mapError
      Refusal.of) := by
  cases hrights : (server portfolios).activeWallet.consumerUsages name "carol" with
  | error e => exact not_false
  | ok usages =>
      rw [(rights_of_carol portfolios).1 hrights]
      rintro ⟨usage, hmem, -⟩
      simp at hmem

theorem created_looksTo_carol :
    (created "secret").LooksTo "carol" (created "another") := by
  refine ⟨?_, ?_, ?_⟩
  · rw [created_eq rfl, created_eq rfl]
    rfl
  · rw [created_eq rfl, created_eq rfl]
    rfl
  · intro name
    have hclosed : ¬ (createdDocument "secret").Open
        (((created "secret").activeWallet.consumerUsages name "carol").mapError Refusal.of) := by
      rw [created_eq rfl]
      exact not_open_to_carol [{}] name (createdDocument "secret")
    have hseen := Document.seen_eq_iff.2 (.inr ⟨hclosed,
      show (createdDocument "secret").outline = (createdDocument "another").outline from rfl⟩)
    rw [portfolios_created rfl, portfolios_created rfl, List.find?_singleton, List.find?_singleton]
    have hfound : ∀ password, decide (Portfolio.name
        (({} : Portfolio).store (createdDocument password).id (createdDocument password)) = name) =
          decide ("default" = name) := fun _ => rfl
    rw [hfound, hfound]
    by_cases hname : "default" = name
    · rw [if_pos (decide_eq_true hname), if_pos (decide_eq_true hname)]
      refine .some ?_
      simp only [Portfolio.store, StdMap.mapValues_insert]
      exact congrArg (Std.ExtTreeMap.insert _ _) hseen
    · rw [if_neg (by simpa using hname), if_neg (by simpa using hname)]
      exact .none

/-- What `carol` is answered does not depend on the password of `bob`. -/
theorem secret_does_not_flow_to_carol :
    (run Site.perform [.call "carol" (.viewsOfUsage "default" ""),
        .call "carol" (.secret "default" (.name "document"))] { server := created "secret" }).1 =
      (run Site.perform [.call "carol" (.viewsOfUsage "default" ""),
        .call "carol" (.secret "default" (.name "document"))] { server := created "another" }).1 := by
  obtain ⟨hids, hrandoms, hhardware⟩ := created_sound (show "secret".isEmpty = false from rfl)
  obtain ⟨-, hrandoms', hhardware'⟩ := created_sound (show "another".isEmpty = false from rfl)
  refine Site.secrets_do_not_flow "carol" (created "secret") (created "another") "uuid" "uuid"
    (reachableFromEmpty_created "secret") (reachableFromEmpty_created "another") hids hrandoms
    hrandoms' hhardware hhardware' created_looksTo_carol ?_ _ (by simp [VaultEvent.By])
  intro name produced consumed _ hconsumed
  rw [created_eq rfl] at hconsumed
  rw [(rights_of_carol [{}]).1 hconsumed]
  rintro ⟨usage, -, hmem⟩
  simp at hmem

end Reference

end Secw
