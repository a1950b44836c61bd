import SecurityWallet.Proof.VaultHistory

/-!
# What can be told of a document

Of a document that a client may not read with its secrets it can still tell the public part, which
private fields have a value, and the public key of a private key. All that a folder does with its
documents depends on that only.
-/

open Foundation

namespace Secw

/-! ### Documents as they are seen -/

section Seen

variable [Certificates]

/-- What of a document can be told from outside. -/
structure Outline where
  view : Document
  filled : List Bool
  publicKey : Option String

def Body.publicKey : Body → Option String
  | .internalCertificate doc => Certificates.keysPublicKey doc.privateKeyPem
  | _ => none

def Document.outline (doc : Document) : Outline where
  view := doc.publicView
  filled := doc.body.secrets.map fun secret => secret.2.isEmpty
  publicKey := doc.body.publicKey

/-- Two bodies that differ in what cannot be told of their private fields. -/
inductive Body.Twin : Body → Body → Prop
  | refl (body : Body) : Body.Twin body body
  | snmpv3 (doc : Snmpv3) {authPassword privPassword : String}
      (hauth : doc.authPassword.isEmpty = authPassword.isEmpty)
      (hpriv : doc.privPassword.isEmpty = privPassword.isEmpty) :
      Body.Twin (.snmpv3 doc) (.snmpv3 { doc with authPassword, privPassword })
  | userAndPassword (doc : UserAndPassword) {password : String}
      (hpassword : doc.password.isEmpty = password.isEmpty) :
      Body.Twin (.userAndPassword doc) (.userAndPassword { doc with password })
  | internalCertificate (doc : InternalCertificate) {privateKeyPem : String}
      (hempty : doc.privateKeyPem.isEmpty = privateKeyPem.isEmpty)
      (hkey : Certificates.keysPublicKey doc.privateKeyPem =
        Certificates.keysPublicKey privateKeyPem) :
      Body.Twin (.internalCertificate doc) (.internalCertificate { doc with privateKeyPem })

theorem Document.twin_of_outline {doc other : Document} (houtline : doc.outline = other.outline) :
    doc.body.Twin other.body := by
  have hpublic : doc.body.withoutSecret = other.body.withoutSecret :=
    congrArg (fun outline => outline.view.body) houtline
  have hfilled := congrArg Outline.filled houtline
  have hkey := congrArg Outline.publicKey houtline
  unfold Document.outline at hfilled hkey
  generalize doc.body = body at hpublic hfilled hkey ⊢
  generalize other.body = body' at hpublic hfilled hkey ⊢
  rcases body with ⟨⟨⟩⟩ | doc | ⟨⟨⟩⟩ | doc | ⟨⟨⟩⟩ <;>
    rcases body' with ⟨⟨⟩⟩ | other | ⟨⟨⟩⟩ | other | ⟨⟨⟩⟩ <;>
    simp only [Body.withoutSecret, reduceCtorEq, Body.snmpv3.injEq, Snmpv3.mk.injEq,
      Body.snmpv1.injEq, Body.userAndPassword.injEq, UserAndPassword.mk.injEq,
      Body.externalCertificate.injEq, Body.internalCertificate.injEq,
      InternalCertificate.mk.injEq, and_true] at hpublic <;>
    simp only [Body.secrets, Body.publicKey, List.map_cons, List.map_nil, List.cons.injEq,
      and_true] at hfilled hkey
  · obtain ⟨rfl, rfl, rfl, rfl⟩ := hpublic
    exact .snmpv3 _ hfilled.1 hfilled.2
  · subst hpublic
    exact .refl _
  · subst hpublic
    exact .userAndPassword _ hfilled
  · subst hpublic
    exact .refl _
  · subst hpublic
    exact .internalCertificate _ hfilled hkey

omit [Certificates] in
theorem checkNotEmpty_congr {field secret other : String}
    (hempty : secret.isEmpty = other.isEmpty) :
    checkNotEmpty field secret = checkNotEmpty field other := by
  rw [checkNotEmpty, checkNotEmpty, hempty]

theorem Document.validate_of_outline {doc other : Document}
    (houtline : doc.outline = other.outline) :
    doc.content.validate = other.content.validate := by
  have htwin := Document.twin_of_outline houtline
  change doc.body.validate true = other.body.validate true
  generalize doc.body = body at htwin ⊢
  generalize other.body = body' at htwin ⊢
  cases htwin with
  | refl => rfl
  | snmpv3 doc hauth hpriv =>
      simp only [Body.validate, Snmpv3.validate, checkNotEmpty_congr hauth,
        checkNotEmpty_congr hpriv]
  | userAndPassword doc hpassword =>
      simp only [Body.validate, UserAndPassword.validate, checkNotEmpty_congr hpassword]
  | internalCertificate doc hempty hkey =>
      simp only [Body.validate, InternalCertificate.validate, checkNotEmpty_congr hempty, hkey]

theorem Document.outline_keeping (doc : Document) {old other : Document}
    (houtline : old.outline = other.outline) :
    (doc.keeping old).outline = (doc.keeping other).outline := by
  have htwin := Document.twin_of_outline houtline
  have hkeep : ∀ {secret kept kept' : String}, kept.isEmpty = kept'.isEmpty →
      (if secret.isEmpty then kept else secret).isEmpty =
        (if secret.isEmpty then kept' else secret).isEmpty := by
    intro secret kept kept' hempty
    split <;> first | exact hempty | rfl
  have hview : (doc.keeping old).publicView = (doc.keeping other).publicView := by
    rw [publicView_keeping, publicView_keeping]
  unfold Document.outline
  rw [hview]
  unfold Document.keeping
  dsimp only
  generalize old.body = body at htwin ⊢
  generalize other.body = body' at htwin ⊢
  cases htwin with
  | refl => rfl
  | snmpv3 kept hauth hpriv =>
      cases doc.body <;> first | rfl | skip
      simp only [Body.keeping, Body.secrets, List.map_cons, hkeep hauth, hkeep hpriv]
      rfl
  | userAndPassword kept hpassword =>
      cases doc.body <;> first | rfl | skip
      simp only [Body.keeping, Body.secrets, List.map_cons, hkeep hpassword]
      rfl
  | internalCertificate kept hempty hkey =>
      cases doc.body <;> first | rfl | skip
      simp only [Body.keeping, Body.secrets, List.map_cons, hkeep hempty, Body.publicKey]
      split <;> simp [hkey]

/-- One with the usages reads the secrets of the document. -/
def Document.Open : Except Refusal (StdSet UsageId) → Document → Prop
  | .ok usages, doc => StdSet.Meets usages doc.usages
  | .error _, _ => False

instance (usages : Except Refusal (StdSet UsageId)) (doc : Document) :
    Decidable (doc.Open usages) :=
  match usages with
  | .ok usages => inferInstanceAs (Decidable (StdSet.Meets usages doc.usages))
  | .error _ => inferInstanceAs (Decidable False)

/-- A document that is open, or else its outline. -/
def Document.seen (usages : Except Refusal (StdSet UsageId)) (doc : Document) :
    Document ⊕ Outline :=
  if doc.Open usages then .inl doc else .inr doc.outline

def Outline.viewOf : Document ⊕ Outline → Document
  | .inl doc => doc.publicView
  | .inr outline => outline.view

variable {usages : Except Refusal (StdSet UsageId)} {doc other : Document}

@[simp]
theorem Document.viewOf_seen : Outline.viewOf (doc.seen usages) = doc.publicView := by
  unfold seen
  split <;> rfl

theorem Document.publicView_of_seen (hseen : doc.seen usages = other.seen usages) :
    doc.publicView = other.publicView := by
  rw [← viewOf_seen, hseen, viewOf_seen]

omit [Certificates] in
/-- Documents with the same public part have the same header. -/
theorem Document.sameHeader_of_view (hview : doc.publicView = other.publicView) :
    doc.id = other.id ∧ doc.name = other.name ∧ doc.usages = other.usages ∧
      doc.getType = other.getType := by
  have htype := congrArg getType hview
  rw [getType_publicView, getType_publicView] at htype
  rw [publicView, publicView, withoutSecret, withoutSecret] at hview
  obtain ⟨hname, hid, -, husages, -⟩ := Document.mk.inj hview
  exact ⟨hid, hname, husages, htype⟩

omit [Certificates] in
theorem Document.open_congr (husages : doc.usages = other.usages) :
    doc.Open usages ↔ other.Open usages := by
  cases usages with
  | ok usages => rw [Open, Open, husages]
  | error refusal => rfl

/-- Documents that look the same are the same, or neither is open. -/
theorem Document.seen_eq_iff :
    doc.seen usages = other.seen usages ↔
      doc = other ∨ ¬ doc.Open usages ∧ doc.outline = other.outline := by
  constructor
  · intro hseen
    obtain ⟨-, -, husages, -⟩ := sameHeader_of_view (publicView_of_seen hseen)
    have hopen : doc.Open usages ↔ other.Open usages := open_congr husages
    unfold seen at hseen
    by_cases hdoc : doc.Open usages
    · rw [if_pos hdoc, if_pos (hopen.1 hdoc)] at hseen
      exact .inl (Sum.inl.inj hseen)
    · rw [if_neg hdoc, if_neg fun hother => hdoc (hopen.2 hother)] at hseen
      exact .inr ⟨hdoc, Sum.inr.inj hseen⟩
  · rintro (rfl | ⟨hdoc, houtline⟩)
    · rfl
    · have husages : doc.usages = other.usages :=
        congrArg (fun outline => outline.view.usages) houtline
      rw [seen, seen, if_neg hdoc, if_neg fun hother => hdoc ((open_congr husages).2 hother),
        houtline]

theorem Document.outline_of_seen (hseen : doc.seen usages = other.seen usages) :
    doc.outline = other.outline := by
  rcases seen_eq_iff.1 hseen with rfl | ⟨-, houtline⟩
  · rfl
  · exact houtline

/-! ### Folders that look the same -/

/-- The folders have the same ids, and documents that look the same under them. -/
def Folder.Looks (usages : Except Refusal (StdSet UsageId)) (folder other : Folder) : Prop :=
  folder.rows.mapValues (Document.seen usages) = other.rows.mapValues (Document.seen usages)

namespace Folder.Looks

variable {folder other : Folder} {doc doc' : Document}

theorem lookup (hlooks : folder.Looks usages other) (id : Id) :
    folder.rows[id]?.map (Document.seen usages) = other.rows[id]?.map (Document.seen usages) := by
  rw [← StdMap.lookup_mapValues, ← StdMap.lookup_mapValues, hlooks]

theorem list (hlooks : folder.Looks usages other) :
    folder.list.map (Document.seen usages) = other.list.map (Document.seen usages) := by
  have hlist := congrArg StdMap.valueList hlooks
  rwa [StdMap.valueList_mapValues, StdMap.valueList_mapValues] at hlist

theorem views (hlooks : folder.Looks usages other) :
    folder.list.map Document.publicView = other.list.map Document.publicView := by
  have hviews := congrArg (List.map Outline.viewOf) hlooks.list
  simpa [Function.comp_def] using hviews

theorem ids (hlooks : folder.Looks usages other) : folder.ids = other.ids := by
  have hkeys := congrArg Std.ExtTreeMap.keys hlooks
  rw [StdMap.keys_mapValues, StdMap.keys_mapValues] at hkeys
  rw [Folder.ids, Folder.ids, hkeys]

theorem get (hlooks : folder.Looks usages other) (key : Key) :
    SameOutcome (fun doc doc' => doc.seen usages = doc'.seen usages) (folder.get key)
      (other.get key) := by
  cases key with
  | id id =>
      have hfound := hlooks.lookup id
      dsimp only [Folder.get]
      generalize folder.rows[id]? = found, other.rows[id]? = found' at hfound ⊢
      cases found <;> cases found' <;> simp_all [SameOutcome]
  | name name =>
      have hnames : ((fun seen => decide ((Outline.viewOf seen).name = name)) ∘
          Document.seen usages) = fun doc => decide (doc.name = name) := by
        funext doc
        simp [Document.publicView, Document.withoutSecret]
      have hfound := congrArg
        (List.find? fun seen => decide ((Outline.viewOf seen).name = name)) hlooks.list
      rw [List.find?_map, List.find?_map, hnames] at hfound
      change (folder.find? name).map _ = (other.find? name).map _ at hfound
      dsimp only [Folder.get]
      generalize folder.find? name = found, other.find? name = found' at hfound ⊢
      cases found <;> cases found' <;> simp_all [SameOutcome]

/-- The same documents can be put into both. -/
theorem free_iff (hlooks : folder.Looks usages other) (hview : doc.publicView = doc'.publicView) :
    folder.Free doc ↔ other.Free doc' := by
  have hfree : ∀ (folder : Folder) (doc : Document), folder.Free doc ↔
      ∀ view ∈ folder.list.map Document.publicView,
        view.name = doc.publicView.name → view.id = doc.publicView.id := by
    intro folder doc
    rw [List.forall_mem_map]
    rfl
  rw [hfree, hfree, hlooks.views, hview]

theorem put (hlooks : folder.Looks usages other)
    {doc doc' : { doc : Document // doc.Storable }}
    (hseen : doc.1.seen usages = doc'.1.seen usages) :
    SameOutcome (Folder.Looks usages) (folder.put doc) (other.put doc') := by
  have hview := Document.publicView_of_seen hseen
  obtain ⟨hid, hname, -, -⟩ := Document.sameHeader_of_view hview
  by_cases hfree : folder.Free doc.1
  · obtain ⟨next, hput, hrows⟩ := Folder.put_of_free doc hfree
    obtain ⟨next', hput', hrows'⟩ := Folder.put_of_free doc' ((hlooks.free_iff hview).1 hfree)
    rw [hput, hput']
    change next.Looks usages next'
    rw [Folder.Looks, hrows, hrows', StdMap.mapValues_insert, StdMap.mapValues_insert, hid, hseen,
      hlooks]
  · rw [Folder.put_of_not_free hfree,
      Folder.put_of_not_free fun hfree' => hfree ((hlooks.free_iff hview).2 hfree'), hname]
    rfl

theorem erase (hlooks : folder.Looks usages other) (id : Id) :
    (folder.erase id).Looks usages (other.erase id) := by
  rw [Folder.Looks, Folder.erase, Folder.erase, NamedTable.rows_erase, NamedTable.rows_erase,
    StdMap.mapValues_erase, StdMap.mapValues_erase, hlooks]

end Folder.Looks

end Seen

end Secw
