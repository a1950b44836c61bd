import SecurityWallet.Proof.ClientCalls
import SecurityWallet.Proof.Escalation

/-!
# The paths to a secret

A document with its secrets is read by id, by name, in a list, and through the list of ids of a
client. Each path has its own check of the usages and its own lookup. In the states that requests
reach from an empty database they open the same documents: those with a usage the sender consumes.
-/

open Foundation SerializationInfo Effect

namespace Secw

theorem Document.content_of_fill_eq [Cxxtools] [LawfulCxxtools] {doc other : Document}
    (hfill : doc.fillSerializationInfoWithSecret .null = other.fillSerializationInfoWithSecret .null) :
    doc.content = other.content := by
  have hread := doc.read_withSecret
  rw [hfill, other.read_withSecret] at hread
  exact (Except.ok.inj hread).symm

theorem Portfolio.Consistent.getDocumentByName {portfolio : Portfolio}
    (hconsistent : portfolio.Consistent) {id : Id} {doc : Document}
    (hdoc : portfolio.documents[id]? = some doc) :
    portfolio.getDocumentByName doc.name = .ok doc := by
  have hlookup := (hconsistent.indexes.lookup doc.name doc).2 ⟨rfl, id, hdoc⟩
  rw [Portfolio.getDocumentByName, hlookup]

/-- The documents are listed once each, in the order of their ids. -/
theorem Portfolio.Consistent.pairwise_getListDocuments {portfolio : Portfolio}
    (hconsistent : portfolio.Consistent) :
    portfolio.getListDocuments.Pairwise fun doc other => doc.id < other.id := by
  have hordered := StdMap.pairwise_valueList Document.id fun _ _ => hconsistent.keyed
  exact hordered.imp fun hlt => compareOfLessAndEq_eq_lt.1 hlt

namespace SecurityWalletServer

/-- The name finds the portfolio. -/
def Finds (server : SecurityWalletServer) (portfolioName : String) (portfolio : Portfolio) : Prop :=
  ∃ index, server.activeWallet.getPortfolio portfolioName = .ok index ∧
    server.activeWallet.portfolios[index]? = some portfolio

variable [Platform]

/-- The sender consumes a usage of the document. -/
def OpenTo (server : SecurityWalletServer) (sender : Sender) (portfolioName : String)
    (doc : Document) : Prop :=
  ∃ usage, Consumes server sender portfolioName usage ∧ usage ∈ doc.usages

/-- What a sender is answered. -/
def reply (server : SecurityWalletServer) (sender : Sender) (command : Command)
    (params : List String) : List String :=
  (handleRequest ⟨sender, command.name :: params⟩ server).1

/-- The frames are a list with the document. -/
def Lists (frames : List String) (doc : Document) : Prop :=
  ∃ elements, frames = [serialize (.arr elements)] ∧
    doc.fillSerializationInfoWithSecret .null ∈ elements

/-- The frames are the list of the documents with the property, once each and in the order of ids. -/
def ListsExactly (frames : List String) (listed : Document → Prop) : Prop :=
  ∃ docs : List Document,
    frames = [serialize (ofList (fun doc => doc.fillSerializationInfoWithSecret .null) docs)] ∧
      docs.Pairwise (fun doc other => doc.id < other.id) ∧ ∀ doc, doc ∈ docs ↔ listed doc

/-! ### What the commands return -/

section Commands

variable {server : SecurityWalletServer} {sender : Sender} {portfolioName : String}
  {portfolio : Portfolio}

/-- A document with its secrets, for one who consumes the usages. -/
def secretOf (usages : Except Exn (StdSet UsageId)) (found : Except Exn Document) :
    Except Exn Document := do
  let whatArg := "You do not have access to this document"
  let allowedUsageIds ← checkGlobalAccess usages whatArg
  let doc ← found
  if ¬ hasCommonUsageIds allowedUsageIds doc.usages then
    throw (.secw (.illegalAccess whatArg))
  return doc

variable (sender) in
theorem handleGetWithSecret_exec (find : Portfolio → String → Except Exn Document) (key : String)
    (hfinds : Finds server portfolioName portfolio) :
    (handleGetWithSecret find sender [portfolioName, key]).exec server =
      ((secretOf (server.activeWallet.consumerUsages portfolioName sender)
          (find portfolio key)).map fun doc =>
        serialize (doc.fillSerializationInfoWithSecret .null), server) := by
  obtain ⟨index, hplace, hlookup⟩ := hfinds
  rw [handleGetWithSecret, exec_bind_ok (exec_get _), exec_bind, exec_liftM, secretOf]
  cases hrights : checkGlobalAccess (server.activeWallet.consumerUsages portfolioName sender)
      "You do not have access to this document" with
  | error e => rfl
  | ok allowedUsageIds =>
      dsimp only
      rw [exec_bind_ok (exec_liftM_ok hplace _), SecurityWallet.portfolioAt_eq hlookup, exec_bind,
        exec_liftM]
      cases find portfolio key with
      | error e => rfl
      | ok doc =>
          change Effect.exec (if ¬ hasCommonUsageIds allowedUsageIds doc.usages then _ else _) _ =
            (Except.map _ (if ¬ hasCommonUsageIds allowedUsageIds doc.usages then _ else _), _)
          split <;> rfl

omit [Platform] in
theorem secretOf_eq_ok {usages : Except Exn (StdSet UsageId)} {found : Except Exn Document}
    {doc : Document} :
    secretOf usages found = .ok doc ↔
      found = .ok doc ∧ ∃ allowedUsageIds, usages = .ok allowedUsageIds ∧
        ∃ usage ∈ allowedUsageIds, usage ∈ doc.usages := by
  simp only [secretOf, bind_eq_ok, checkGlobalAccess_eq_ok]
  constructor
  · rintro ⟨allowedUsageIds, ⟨husages, -⟩, other, hfound, hreturn⟩
    split at hreturn
    · cases hreturn
    · next hcommon =>
        cases hreturn
        exact ⟨hfound, allowedUsageIds, husages, (hasCommonUsageIds_iff _ _).1 (not_not.1 hcommon)⟩
  · rintro ⟨hfound, allowedUsageIds, husages, usage, hallowed, hcarried⟩
    refine ⟨allowedUsageIds, ⟨husages, StdSet.size_ne_zero_of_mem hallowed⟩, doc, hfound, ?_⟩
    rw [if_neg (not_not.2 ((hasCommonUsageIds_iff _ _).2 ⟨usage, hallowed, hcarried⟩))]
    rfl

/-- The usages of which the documents are listed; an empty usage stands for all of the sender. -/
def listedUsages (usages : Except Exn (StdSet UsageId)) (usage : UsageId) :
    Except Exn (StdSet UsageId) := do
  let whatArg := "You do not have access to this command"
  let allowedUsageIds ← checkGlobalAccess usages whatArg
  if ¬ usage.isEmpty then
    if ¬ allowedUsageIds.contains usage then
      throw (.secw (.illegalAccess whatArg))
    return {usage}
  else
    return allowedUsageIds

theorem serializeListDocumentsPrivate_exec (hfinds : Finds server portfolioName portfolio)
    (usages : StdSet UsageId) :
    (serializeListDocumentsPrivate portfolioName usages).exec server =
      (.ok (serialize (ofList (fun doc => doc.fillSerializationInfoWithSecret .null)
        (portfolio.getListDocuments.filter fun doc => hasCommonUsageIds doc.usages usages))),
        server) := by
  obtain ⟨index, hplace, hlookup⟩ := hfinds
  rw [serializeListDocumentsPrivate, exec_bind_ok (exec_get _)]
  dsimp only
  rw [exec_bind_ok (exec_liftM_ok hplace _), SecurityWallet.portfolioAt_eq hlookup]
  rfl

variable (sender) in
theorem handleGetListDocumentsWithSecret_exec (rest : List String)
    (hfinds : Finds server portfolioName portfolio) :
    (handleGetListDocumentsWithSecret sender (portfolioName :: rest)).exec server =
      ((listedUsages (server.activeWallet.consumerUsages portfolioName sender)
          (rest.headD "")).map fun usages =>
        serialize (ofList (fun doc => doc.fillSerializationInfoWithSecret .null)
          (portfolio.getListDocuments.filter fun doc => hasCommonUsageIds doc.usages usages)),
        server) := by
  rw [handleGetListDocumentsWithSecret, exec_bind_ok (exec_get _), exec_bind, exec_liftM,
    listedUsages]
  cases hrights : checkGlobalAccess (server.activeWallet.consumerUsages portfolioName sender)
      "You do not have access to this command" with
  | error e => rfl
  | ok allowedUsageIds =>
      change Effect.exec (if ¬ (rest.headD "").isEmpty then
          if ¬ allowedUsageIds.contains (rest.headD "") then _ else _ else _) _ =
        (Except.map _ (if ¬ (rest.headD "").isEmpty then
          if ¬ allowedUsageIds.contains (rest.headD "") then _ else _ else _), _)
      split
      · split
        · rfl
        · exact serializeListDocumentsPrivate_exec hfinds _
      · exact serializeListDocumentsPrivate_exec hfinds _

omit [Platform] in
theorem listedUsages_of_usage {usages : Except Exn (StdSet UsageId)} {usage : UsageId}
    (husage : usage ≠ "") {listed : StdSet UsageId} :
    listedUsages usages usage = .ok listed ↔
      (∃ allowedUsageIds, usages = .ok allowedUsageIds ∧ usage ∈ allowedUsageIds) ∧
        listed = {usage} := by
  have hnonempty : ¬ usage.isEmpty = true := by simpa using husage
  simp only [listedUsages, bind_eq_ok, checkGlobalAccess_eq_ok, if_pos hnonempty]
  constructor
  · rintro ⟨allowedUsageIds, ⟨husages, -⟩, hreturn⟩
    split at hreturn
    · cases hreturn
    · next hallowed =>
        cases hreturn
        exact ⟨⟨allowedUsageIds, husages, not_not.1 hallowed⟩, rfl⟩
  · rintro ⟨⟨allowedUsageIds, husages, hallowed⟩, rfl⟩
    have hcontains : allowedUsageIds.contains usage = true := hallowed
    refine ⟨allowedUsageIds, ⟨husages, StdSet.size_ne_zero_of_mem hallowed⟩, ?_⟩
    rw [if_neg (not_not.2 hcontains)]
    rfl

omit [Platform] in
theorem listedUsages_empty {usages : Except Exn (StdSet UsageId)} {listed : StdSet UsageId} :
    listedUsages usages "" = .ok listed ↔ usages = .ok listed ∧ ∃ usage, usage ∈ listed := by
  simp only [listedUsages, bind_eq_ok, checkGlobalAccess_eq_ok]
  constructor
  · rintro ⟨allowedUsageIds, ⟨husages, hsize⟩, hreturn⟩
    cases hreturn
    refine ⟨husages, ?_⟩
    by_contra hnone
    push Not at hnone
    exact hsize (Std.ExtTreeSet.eq_empty_iff_size_eq_zero.1
      (Std.ExtTreeSet.eq_empty_iff_forall_not_mem.2 hnone))
  · rintro ⟨husages, usage, hmem⟩
    exact ⟨listed, ⟨husages, StdSet.size_ne_zero_of_mem hmem⟩, rfl⟩

/-- What a handler returns is answered in one frame, and what it throws as an error. -/
theorem reply_of_map (command : Command) (params : List String) {α : Type}
    {outcome : Except Exn α} {write : α → String}
    (hexec : (handler command sender params).exec server = (outcome.map write, server)) :
    (¬ Failed (reply server sender command params) ↔ ∃ a, outcome = .ok a) ∧
      ∀ a, outcome = .ok a → reply server sender command params = [write a] := by
  cases outcome with
  | error e =>
      have hreply : reply server sender command params = errorReply e :=
        congrArg Prod.fst (handleRequest_of_error hexec)
      rw [hreply]
      exact ⟨iff_of_false (not_not.2 (failed_errorReply e)) nofun, nofun⟩
  | ok a =>
      have hreply : reply server sender command params = [write a] :=
        congrArg Prod.fst (handleRequest_of_ok hexec)
      rw [hreply]
      refine ⟨iff_of_true (not_failed_singleton _) ⟨a, rfl⟩, ?_⟩
      rintro _ ⟨⟩
      rfl

theorem listsExactly_filter (hconsistent : portfolio.Consistent) (usages : StdSet UsageId) :
    ListsExactly [serialize (ofList (fun doc => doc.fillSerializationInfoWithSecret .null)
        (portfolio.getListDocuments.filter fun doc => hasCommonUsageIds doc.usages usages))]
      fun doc => doc ∈ portfolio.getListDocuments ∧ ∃ usage ∈ usages, usage ∈ doc.usages := by
  refine ⟨_, rfl, hconsistent.pairwise_getListDocuments.filter _, fun doc => ?_⟩
  rw [List.mem_filter, hasCommonUsageIds_iff]
  simp only [and_comm]

end Commands

/-! ### What the paths open -/

/-- The document is found by id, by name and in the list, the same each time, or on no path. -/
structure PathsAgree (server : SecurityWalletServer) (sender : Sender) (portfolioName : String)
    (id : Id) (doc : Document) : Prop where
  name : ¬ Failed (reply server sender .getWithSecret [portfolioName, id]) ↔
    ¬ Failed (reply server sender .getWithSecretByName [portfolioName, doc.name])
  list : ¬ Failed (reply server sender .getWithSecretByName [portfolioName, doc.name]) ↔
    Lists (reply server sender .getListWithSecret [portfolioName]) doc
  same : ¬ Failed (reply server sender .getWithSecret [portfolioName, id]) →
    reply server sender .getWithSecret [portfolioName, id] =
        [serialize (doc.fillSerializationInfoWithSecret .null)] ∧
      reply server sender .getWithSecretByName [portfolioName, doc.name] =
        [serialize (doc.fillSerializationInfoWithSecret .null)]

/-- The call returns the documents of the ids, in order, without those not there or not open. -/
def CallReturnsOpen (server : SecurityWalletServer) (client : ClientId) (portfolioName : String)
    (portfolio : Portfolio) (ids : List Id) : Prop :=
  ∃ found : Id → Option Document,
    (∀ id doc, found id = some doc ↔
      portfolio.documents[id]? = some doc ∧ OpenTo server client portfolioName doc) ∧
    (ConsumerAccessor.getListDocumentsWithPrivateData client portfolioName ids).exec server =
      (.ok (ids.filterMap fun id => (found id).map Document.content), server)

/-- The commands that read secrets, and the call of a client, open the same documents. -/
structure SecretReadsAgree (server : SecurityWalletServer) (sender : Sender)
    (portfolioName : String) (portfolio : Portfolio) : Prop where
  paths : ∀ id doc, portfolio.documents[id]? = some doc →
    PathsAgree server sender portfolioName id doc
  ofUsage : ∀ usage, usage ≠ "" →
    (¬ Failed (reply server sender .getListWithSecret [portfolioName, usage]) ↔
        Consumes server sender portfolioName usage) ∧
      (Consumes server sender portfolioName usage →
        ListsExactly (reply server sender .getListWithSecret [portfolioName, usage]) fun doc =>
          doc ∈ portfolio.getListDocuments ∧ usage ∈ doc.usages)
  all : (∃ usage, Consumes server sender portfolioName usage) →
    ListsExactly (reply server sender .getListWithSecret [portfolioName]) fun doc =>
      doc ∈ portfolio.getListDocuments ∧ OpenTo server sender portfolioName doc
  client : (∃ usages, server.activeWallet.consumerUsages portfolioName sender = .ok usages) →
    ∀ ids, CallReturnsOpen server sender portfolioName portfolio ids

section Agree

variable {server : SecurityWalletServer} {sender : Sender} {portfolioName : String}
  {portfolio : Portfolio}

theorem openTo_iff {doc : Document} :
    OpenTo server sender portfolioName doc ↔ ∃ allowedUsageIds,
      server.activeWallet.consumerUsages portfolioName sender = .ok allowedUsageIds ∧
        ∃ usage ∈ allowedUsageIds, usage ∈ doc.usages := by
  constructor
  · rintro ⟨usage, ⟨allowedUsageIds, husages, hallowed⟩, hcarried⟩
    exact ⟨allowedUsageIds, husages, usage, hallowed, hcarried⟩
  · rintro ⟨allowedUsageIds, husages, usage, hallowed, hcarried⟩
    exact ⟨usage, ⟨allowedUsageIds, husages, hallowed⟩, hcarried⟩

theorem exists_secretOf_iff {found : Except Exn Document} {doc : Document}
    (hfound : found = .ok doc) :
    (∃ other, secretOf (server.activeWallet.consumerUsages portfolioName sender) found =
      .ok other) ↔ OpenTo server sender portfolioName doc := by
  rw [openTo_iff]
  simp only [secretOf_eq_ok, hfound, Except.ok.injEq, exists_eq_left']

theorem listsExactly_of_usage (hfinds : Finds server portfolioName portfolio)
    (hconsistent : portfolio.Consistent) {usage : UsageId} (husage : usage ≠ "") :
    (¬ Failed (reply server sender .getListWithSecret [portfolioName, usage]) ↔
        Consumes server sender portfolioName usage) ∧
      (Consumes server sender portfolioName usage →
        ListsExactly (reply server sender .getListWithSecret [portfolioName, usage]) fun doc =>
          doc ∈ portfolio.getListDocuments ∧ usage ∈ doc.usages) := by
  obtain ⟨hsucceeds, hreply⟩ := reply_of_map .getListWithSecret [portfolioName, usage]
    (handleGetListDocumentsWithSecret_exec sender [usage] hfinds)
  rw [List.headD_cons] at hsucceeds hreply
  simp only [listedUsages_of_usage husage] at hsucceeds hreply
  refine ⟨?_, fun hconsumes => ?_⟩
  · rw [hsucceeds]
    constructor
    · rintro ⟨listed, hconsumes, -⟩
      exact hconsumes
    · intro hconsumes
      exact ⟨{usage}, hconsumes, rfl⟩
  · rw [hreply {usage} ⟨hconsumes, rfl⟩]
    simpa using listsExactly_filter hconsistent {usage}

theorem reply_list_of_rights (hfinds : Finds server portfolioName portfolio)
    {allowedUsageIds : StdSet UsageId}
    (hrights : server.activeWallet.consumerUsages portfolioName sender = .ok allowedUsageIds)
    {usage : UsageId} (hallowed : usage ∈ allowedUsageIds) :
    reply server sender .getListWithSecret [portfolioName] =
      [serialize (ofList (fun doc => doc.fillSerializationInfoWithSecret .null)
        (portfolio.getListDocuments.filter fun doc =>
          hasCommonUsageIds doc.usages allowedUsageIds))] := by
  obtain ⟨-, hreply⟩ := reply_of_map .getListWithSecret [portfolioName]
    (handleGetListDocumentsWithSecret_exec sender [] hfinds)
  exact hreply allowedUsageIds (listedUsages_empty.2 ⟨hrights, usage, hallowed⟩)

theorem listsExactly_of_consumer (hfinds : Finds server portfolioName portfolio)
    (hconsistent : portfolio.Consistent)
    (hconsumer : ∃ usage, Consumes server sender portfolioName usage) :
    ListsExactly (reply server sender .getListWithSecret [portfolioName]) fun doc =>
      doc ∈ portfolio.getListDocuments ∧ OpenTo server sender portfolioName doc := by
  obtain ⟨usage, allowedUsageIds, hrights, hallowed⟩ := hconsumer
  have hopen : ∀ doc, OpenTo server sender portfolioName doc ↔
      ∃ usage ∈ allowedUsageIds, usage ∈ doc.usages := by
    intro doc
    simp only [openTo_iff, hrights, Except.ok.injEq, exists_eq_left']
  rw [reply_list_of_rights hfinds hrights hallowed]
  simp only [hopen]
  exact listsExactly_filter hconsistent allowedUsageIds

theorem lists_iff [LawfulCxxtools] (hfinds : Finds server portfolioName portfolio)
    (hconsistent : portfolio.Consistent) {id : Id} {doc : Document}
    (hdoc : portfolio.documents[id]? = some doc) :
    Lists (reply server sender .getListWithSecret [portfolioName]) doc ↔
      OpenTo server sender portfolioName doc := by
  have hstored : doc ∈ portfolio.getListDocuments := StdMap.mem_valueList.2 ⟨id, hdoc⟩
  constructor
  · rintro ⟨elements, hreply, hmem⟩
    obtain ⟨hsucceeds, -⟩ := reply_of_map .getListWithSecret [portfolioName]
      (handleGetListDocumentsWithSecret_exec sender [] hfinds)
    have hok : ¬ Failed (reply server sender .getListWithSecret [portfolioName]) := by
      rw [hreply]
      exact not_failed_singleton _
    obtain ⟨allowedUsageIds, hlisted⟩ := hsucceeds.1 hok
    obtain ⟨hrights, usage, hallowed⟩ := listedUsages_empty.1 hlisted
    obtain ⟨docs, hlist, -, hdocs⟩ :=
      listsExactly_of_consumer hfinds hconsistent ⟨usage, allowedUsageIds, hrights, hallowed⟩
    -- The element is the tree of some document that is listed, which has the same usages.
    rw [hlist] at hreply
    obtain rfl := Json.arr.inj (serialize_inj.1 (List.cons.inj hreply).1)
    obtain ⟨other, hother, hfill⟩ := List.mem_map.1 hmem
    obtain ⟨-, hopen⟩ := (hdocs other).1 hother
    have husages : other.content.usages = doc.content.usages := by
      rw [Document.content_of_fill_eq hfill]
    change other.usages = doc.usages at husages
    simpa only [OpenTo, husages] using hopen
  · intro hopen
    have hconsumer : ∃ usage, Consumes server sender portfolioName usage :=
      hopen.imp fun _ husage => husage.1
    obtain ⟨docs, hlist, -, hdocs⟩ :=
      listsExactly_of_consumer hfinds hconsistent hconsumer
    exact ⟨_, hlist, List.mem_map_of_mem ((hdocs doc).2 ⟨hstored, hopen⟩)⟩

theorem pathsAgree [LawfulCxxtools] (hfinds : Finds server portfolioName portfolio)
    (hconsistent : portfolio.Consistent) {id : Id} {doc : Document}
    (hdoc : portfolio.documents[id]? = some doc) :
    PathsAgree server sender portfolioName id doc := by
  have hfindId : portfolio.getDocument id = .ok doc := Portfolio.getDocument_eq_ok.2 hdoc
  have hfindName := hconsistent.getDocumentByName hdoc
  obtain ⟨hid, hreplyId⟩ := reply_of_map .getWithSecret [portfolioName, id]
    (handleGetWithSecret_exec sender Portfolio.getDocument id hfinds)
  obtain ⟨hname, hreplyName⟩ := reply_of_map .getWithSecretByName [portfolioName, doc.name]
    (handleGetWithSecret_exec sender Portfolio.getDocumentByName doc.name hfinds)
  refine ⟨?_, ?_, fun hok => ?_⟩
  · rw [hid, hname, exists_secretOf_iff hfindId, exists_secretOf_iff hfindName]
  · rw [hname, exists_secretOf_iff hfindName, lists_iff hfinds hconsistent hdoc]
  · rw [hid, exists_secretOf_iff hfindId, openTo_iff] at hok
    exact ⟨hreplyId doc (secretOf_eq_ok.2 ⟨hfindId, hok⟩),
      hreplyName doc (secretOf_eq_ok.2 ⟨hfindName, hok⟩)⟩

/-! ### The call of a client -/

omit [Platform] in
/-- A document that is not opened is not there or not accessible. -/
theorem secretOf_error {allowedUsageIds : StdSet UsageId} {id : Id} {e : Exn}
    (herror : secretOf (.ok allowedUsageIds) (portfolio.getDocument id) = .error e) :
    ∃ exception, e = .secw exception ∧ ConsumerAccessor.isFiltered exception = true := by
  unfold secretOf checkGlobalAccess Portfolio.getDocument at herror
  by_cases hsize : allowedUsageIds.size = 0
  · simp only [bind, Except.bind, if_pos hsize] at herror
    cases herror
    exact ⟨_, rfl, rfl⟩
  · simp only [bind, Except.bind, if_neg hsize, pure, Except.pure] at herror
    cases hdoc : portfolio.documents[id]? with
    | none =>
        rw [hdoc] at herror
        cases herror
        exact ⟨_, rfl, rfl⟩
    | some doc =>
        simp only [hdoc] at herror
        split at herror
        · cases herror
          exact ⟨_, rfl, rfl⟩
        · cases herror

variable [LawfulCxxtools] [CxxtoolsTexts]

/-- A client reads the document that the handler returns, and throws what the handler throws. -/
theorem exec_receiveDocument {command : Command} {params : List String}
    {outcome : Except Exn Document}
    (hexec : (handler command sender params).exec server =
      (outcome.map fun doc => serialize (doc.fillSerializationInfoWithSecret .null), server))
    (herror : ∀ e, outcome = .error e → ∃ exception, e = .secw exception) :
    (do
        let frames ← ClientAccessor.sendCommand sender command params
        ClientAccessor.receive (Document.read · none) frames : Call Document).exec server =
      (outcome.map Document.content, server) := by
  cases outcome with
  | ok doc =>
      rw [Except.map] at hexec
      rw [exec_bind_ok (ClientAccessor.sendCommand_of_ok hexec
        (CxxtoolsTexts.serialize_ne_error false _)), exec_liftM,
        ClientAccessor.receive_serialize doc.read_withSecret]
      rfl
  | error e =>
      obtain ⟨exception, rfl⟩ := herror e rfl
      rw [Except.map] at hexec
      rw [exec_bind_error (ClientAccessor.sendCommand_of_error hexec)]
      rfl

theorem getDocumentWithPrivateData_exec (hfinds : Finds server portfolioName portfolio)
    {allowedUsageIds : StdSet UsageId}
    (hrights : server.activeWallet.consumerUsages portfolioName sender = .ok allowedUsageIds)
    (id : Id) :
    (ConsumerAccessor.getDocumentWithPrivateData sender portfolioName id).exec server =
      ((secretOf (.ok allowedUsageIds) (portfolio.getDocument id)).map Document.content,
        server) := by
  have hexec : (handler .getWithSecret sender [portfolioName, id]).exec server = _ :=
    handleGetWithSecret_exec sender Portfolio.getDocument id hfinds
  rw [hrights] at hexec
  refine exec_receiveDocument hexec fun e herror => ?_
  obtain ⟨exception, he, -⟩ := secretOf_error herror
  exact ⟨exception, he⟩

/-- A client reads the same document by its name as by its id. -/
theorem getDocumentWithPrivateDataByName_exec (hfinds : Finds server portfolioName portfolio)
    (hconsistent : portfolio.Consistent) {allowedUsageIds : StdSet UsageId}
    (hrights : server.activeWallet.consumerUsages portfolioName sender = .ok allowedUsageIds)
    {id : Id} {doc : Document} (hdoc : portfolio.documents[id]? = some doc) :
    (ConsumerAccessor.getDocumentWithPrivateDataByName sender portfolioName doc.name).exec server =
      (ConsumerAccessor.getDocumentWithPrivateData sender portfolioName id).exec server := by
  have hfound : portfolio.getDocumentByName doc.name = portfolio.getDocument id := by
    rw [hconsistent.getDocumentByName hdoc, Portfolio.getDocument_eq_ok.2 hdoc]
  have hexec : (handler .getWithSecretByName sender [portfolioName, doc.name]).exec server = _ :=
    handleGetWithSecret_exec sender Portfolio.getDocumentByName doc.name hfinds
  rw [hrights, hfound] at hexec
  rw [getDocumentWithPrivateData_exec hfinds hrights]
  refine exec_receiveDocument hexec fun e herror => ?_
  obtain ⟨exception, he, -⟩ := secretOf_error herror
  exact ⟨exception, he⟩

theorem getListDocumentsWithPrivateData_exec (hfinds : Finds server portfolioName portfolio)
    {allowedUsageIds : StdSet UsageId}
    (hrights : server.activeWallet.consumerUsages portfolioName sender = .ok allowedUsageIds)
    (ids : List Id) :
    (ConsumerAccessor.getListDocumentsWithPrivateData sender portfolioName ids).exec server =
      (.ok (ids.filterMap fun id =>
        (secretOf (.ok allowedUsageIds) (portfolio.getDocument id)).toOption.map Document.content),
        server) := by
  induction ids with
  | nil => rfl
  | cons id ids ih =>
      rw [ConsumerAccessor.getListDocumentsWithPrivateData, exec_bind, exec_tryCatch, exec_map,
        getDocumentWithPrivateData_exec hfinds hrights]
      cases houtcome : secretOf (.ok allowedUsageIds) (portfolio.getDocument id) with
      | ok doc =>
          simp only [Except.map]
          rw [exec_bind_ok ih, exec_pure]
          simp [houtcome, Except.toOption]
      | error e =>
          obtain ⟨exception, rfl, hfiltered⟩ := secretOf_error houtcome
          simp only [Except.map, hfiltered, if_true]
          rw [exec_pure]
          dsimp only
          rw [exec_bind_ok ih, exec_pure]
          simp [houtcome, Except.toOption]

theorem callReturnsOpen (hfinds : Finds server portfolioName portfolio)
    (hrights : ∃ usages,
      server.activeWallet.consumerUsages portfolioName sender = .ok usages) (ids : List Id) :
    CallReturnsOpen server sender portfolioName portfolio ids := by
  obtain ⟨allowedUsageIds, hrights⟩ := hrights
  refine ⟨fun id => (secretOf (.ok allowedUsageIds) (portfolio.getDocument id)).toOption, ?_,
    getListDocumentsWithPrivateData_exec hfinds hrights ids⟩
  intro id doc
  have hsome : (secretOf (.ok allowedUsageIds) (portfolio.getDocument id)).toOption = some doc ↔
      secretOf (.ok allowedUsageIds) (portfolio.getDocument id) = .ok doc := by
    cases secretOf (.ok allowedUsageIds) (portfolio.getDocument id) <;> simp [Except.toOption]
  rw [hsome, secretOf_eq_ok, Portfolio.getDocument_eq_ok, openTo_iff, hrights]

end Agree

theorem finds_of_configured {server : SecurityWalletServer} {portfolioName : String}
    (hpersisted : server.activeWallet.Persisted)
    (hconfigured : portfolioName ∈ server.activeWallet.configurations) :
    ∃ portfolio, Finds server portfolioName portfolio := by
  obtain ⟨portfolio, hmem, hname⟩ :=
    hpersisted.configured portfolioName (Std.ExtTreeMap.mem_keys.2 hconfigured)
  cases hplace : server.activeWallet.getPortfolio portfolioName with
  | ok index =>
      obtain ⟨found, hlookup, -⟩ := SecurityWallet.getPortfolio_eq_ok.1 hplace
      exact ⟨found, index, hplace, hlookup⟩
  | error e =>
      unfold SecurityWallet.getPortfolio at hplace
      split at hplace
      · cases hplace
      · next hnone =>
          rw [List.findIdx?_eq_none_iff] at hnone
          exact absurd hname (by simpa using hnone portfolio hmem)

/--
In every state that requests reach from an empty database the paths to the secrets of a configured
portfolio agree: a document is read by id exactly if it is by name and in the list, a list has
exactly the documents of the usages asked for, in the order of ids, and a client whose usages are
known gets, for a list of ids, those of the documents that are open to it.
-/
theorem secret_reads_agree [LawfulCxxtools] [CxxtoolsTexts] (server : SecurityWalletServer)
    (sender : Sender) (portfolioName : String) (hreachable : ReachableFromEmpty server)
    (hconfigured : portfolioName ∈ server.activeWallet.configurations) :
    ∃ portfolio, Finds server portfolioName portfolio ∧
      SecretReadsAgree server sender portfolioName portfolio := by
  obtain ⟨portfolio, hfinds⟩ := finds_of_configured hreachable.reachable.persisted hconfigured
  have hconsistent : portfolio.Consistent := by
    obtain ⟨index, -, hlookup⟩ := hfinds
    exact hreachable.consistent portfolio (List.mem_of_getElem? hlookup)
  refine ⟨portfolio, hfinds, ?_, ?_, ?_, ?_⟩
  · intro id doc hdoc
    exact pathsAgree hfinds hconsistent hdoc
  · intro usage husage
    exact listsExactly_of_usage hfinds hconsistent husage
  · intro hconsumer
    exact listsExactly_of_consumer hfinds hconsistent hconsumer
  · intro hrights ids
    exact callReturnsOpen hfinds hrights ids

end SecurityWalletServer

namespace Reference

open scoped Reference

theorem secret_reads_agree_for_bob :
    ∃ portfolio,
      SecurityWalletServer.Finds
        (SecurityWalletServer.handleRequest createRequest (server [{}])).2 "default" portfolio ∧
      SecurityWalletServer.SecretReadsAgree
        (SecurityWalletServer.handleRequest createRequest (server [{}])).2 "bob" "default"
        portfolio := by
  refine SecurityWalletServer.secret_reads_agree _ "bob" "default"
    (.serve createRequest reachableFromEmpty_reference) ?_
  rw [(SecurityWalletServer.handleRequest_sameFrame createRequest (server [{}])).1]
  decide +kernel

end Reference

/-! ### A pattern that does not compile -/

namespace Reference

/-- The platform of the reference, where an open group is not a pattern. -/
local instance patternPlatform : Platform :=
  { platform with
    regexMatch := fun text pattern =>
      if pattern = "^($" then .error "regex_error" else .ok (pattern = "^" ++ text ++ "$") }

open scoped Reference in
local instance lawful_patternPlatform : @LawfulCxxtools patternPlatform.toCxxtools :=
  inferInstanceAs (@LawfulCxxtools platform.toCxxtools)

/-- A configuration whose consumer has a pattern that does not compile. -/
def patternSi : SerializationInfo :=
  let si := addMember .null "portfolio_name" (.str "default")
  let si := addMember si "usages" (.arr [usageSi "u1" "UserAndPassword"])
  let si := addMember si "consumers" (.arr [clientSi "(" "u1"])
  addMember si "producers" (.arr [clientSi "alice" "u1"])

def patternConfiguration : PortfolioConfiguration where
  portfolioName := "default"
  usages := StdMap.indexBy Usage.usageId
    [{ usageId := "u1", types := Std.ExtTreeSet.ofList ["UserAndPassword"] }] ∅
  supportedTypes := Std.ExtTreeSet.ofList ["UserAndPassword"]
  consumers := [client "(" "u1"]
  producers := [client "alice" "u1"]

def patternDisk : Disk := { configuration := some (Cxxtools.serialize true (.arr [patternSi])) }

/-- The server that starts with this configuration and no database. -/
def patternServer : SecurityWalletServer where
  activeWallet :=
    { configurations :=
        StdMap.indexBy PortfolioConfiguration.portfolioName [patternConfiguration] ∅
      portfolios := [{}]
      disk := { patternDisk with
        database := some (Cxxtools.serialize true (SecurityWallet.databaseTree [{}])) } }
  uuids
  randoms

theorem construct_patternDisk :
    SecurityWallet.construct patternDisk = some patternServer.activeWallet := by
  have haccepted : SecurityWallet.AcceptedConfiguration patternDisk.configuration
      [patternConfiguration] :=
    ⟨_, _, rfl, LawfulCxxtools.deserialize_serialize _ _, .cons rfl .nil, by simp, by simp⟩
  refine SecurityWallet.construct_eq_some.2 (SecurityWallet.start_returns.2
    ⟨_, [{}], SecurityWallet.loadConfiguration_returns.2 ⟨_, haccepted, rfl⟩, ?_, rfl⟩)
  rw [show (StdMap.indexBy PortfolioConfiguration.portfolioName [patternConfiguration] ∅).keys =
    ["default"] by decide +kernel]
  rfl

theorem consumerUsages_pattern :
    patternServer.activeWallet.consumerUsages "default" "alice" = .error (.std "regex_error") := by
  have hlookup : patternServer.activeWallet.configurations["default"]? =
      some patternConfiguration := by
    decide +kernel
  rw [SecurityWallet.consumerUsages, SecurityWallet.getConfiguration, hlookup]
  rfl

/-- The call of a client throws where no pattern of the consumers can be matched. -/
theorem call_throws_on_bad_pattern :
    SecurityWalletServer.ReachableFromEmpty patternServer ∧
      "default" ∈ patternServer.activeWallet.configurations ∧
      SecurityWalletServer.Finds patternServer "default" {} ∧
      ¬ SecurityWalletServer.CallReturnsOpen patternServer "alice" "default" {} ["0"] := by
  have hfinds : SecurityWalletServer.Finds patternServer "default" {} := ⟨0, rfl, rfl⟩
  refine ⟨.start uuids randoms rfl construct_patternDisk, by decide +kernel, hfinds, ?_⟩
  rintro ⟨found, -, hcall⟩
  have hexec : (SecurityWalletServer.handler .getWithSecret "alice" ["default", "0"]).exec
      patternServer = _ :=
    SecurityWalletServer.handleGetWithSecret_exec "alice" Portfolio.getDocument "0" hfinds
  rw [consumerUsages_pattern] at hexec
  have hthrown : throwSecwException "" = .std "syntax error" := rfl
  rw [ConsumerAccessor.getListDocumentsWithPrivateData, exec_bind, exec_tryCatch, exec_map,
    ConsumerAccessor.getDocumentWithPrivateData,
    exec_bind_error (ClientAccessor.sendCommand_of_std hexec), hthrown] at hcall
  exact absurd (congrArg Prod.fst hcall) nofun

end Reference

end Secw
