import SecurityWallet.Proof.Noninterference
import SecurityWallet.Proof.Ownership
import SecurityWallet.Proof.Persistence

/-!
# What a client can make readable to itself

The rights of a producer and those of a consumer are checked apart. A client with both roles for a
usage can put that usage on any document of the portfolio and then read it, so its own requests keep
the other documents closed to it only in the usages it does not produce.
-/

open Foundation Effect

namespace Secw

theorem Document.visible_of_not_common {usages : Except Exn (StdSet UsageId)} {doc : Document}
    (hclosed : ∀ allowedUsageIds, usages = .ok allowedUsageIds →
      ∀ usage ∈ allowedUsageIds, usage ∉ doc.usages) :
    doc.visible usages = doc.withoutSecret := by
  unfold visible
  cases usages with
  | error e => rfl
  | ok allowedUsageIds =>
      have hcommon : ¬ hasCommonUsageIds allowedUsageIds doc.usages = true := by
        rw [hasCommonUsageIds_iff]
        rintro ⟨usage, hallowed, hdocument⟩
        exact hclosed allowedUsageIds rfl usage hallowed hdocument
      exact if_neg hcommon

namespace SecurityWalletServer

variable [Platform]

/-- The sender consumes the usage in the portfolio of the name. -/
def Consumes (server : SecurityWalletServer) (sender : Sender) (portfolioName : String)
    (usage : UsageId) : Prop :=
  ∃ allowedUsageIds,
    server.activeWallet.consumerUsages portfolioName sender = .ok allowedUsageIds ∧
      usage ∈ allowedUsageIds

/-- The document under the id, if there is one, shares no usage the sender consumes. -/
def ClosedTo (server : SecurityWalletServer) (sender : Sender) (index : Nat)
    (portfolioName : String) (id : Id) : Prop :=
  ∀ usage, Consumes server sender portfolioName usage → ¬ Carries server index id usage

/-- The client consumes and produces a usage of the portfolio. -/
def HasBothRoles (server : SecurityWalletServer) (sender : Sender) (portfolioName : String) : Prop :=
  ∃ usage, Consumes server sender portfolioName usage ∧ Owns server sender portfolioName usage

theorem SameFrame.consumes_iff {server next : SecurityWalletServer} (hframe : SameFrame server next)
    (sender : Sender) (portfolioName : String) (usage : UsageId) :
    Consumes next sender portfolioName usage ↔ Consumes server sender portfolioName usage := by
  unfold Consumes SecurityWallet.consumerUsages SecurityWallet.getConfiguration
  rw [hframe.1]

theorem run_sameFrame (requests : List Request) (server : SecurityWalletServer) :
    SameFrame server (Machine.run handleRequest requests server).2 :=
  Machine.run_stable (P := SameFrame server)
    (fun request state hframe => by
      have hstep := handleRequest_sameFrame request state
      exact ⟨hstep.1.trans hframe.1, hstep.2.trans hframe.2⟩) requests ⟨rfl, rfl⟩

/-- The client sees no private field of a document that is closed to it. -/
theorem redact_documentAt_of_closed {server : SecurityWalletServer} {sender : Sender}
    {index : Nat} {portfolio : Portfolio} {id : Id}
    (hlookup : server.activeWallet.portfolios[index]? = some portfolio)
    (hclosed : ClosedTo server sender index portfolio.name id) :
    (redact sender server).activeWallet.documentAt index id =
      (server.activeWallet.documentAt index id).map Document.withoutSecret := by
  rw [SecurityWallet.documentAt, redact_lookup sender hlookup, Option.bind_some, Portfolio.redact,
    StdMap.lookup_mapValues, SecurityWallet.documentAt, hlookup, Option.bind_some]
  cases hdoc : portfolio.documents[id]? with
  | none => rfl
  | some doc =>
      refine congrArg some (Document.visible_of_not_common fun allowedUsageIds hallowed usage hmem =>
        fun hcarried => ?_)
      refine hclosed usage ⟨allowedUsageIds, hallowed, hmem⟩ ⟨doc, ?_, hcarried⟩
      rw [SecurityWallet.documentAt, hlookup, Option.bind_some, hdoc]

/-- Over a run of one client a closed document only opens in usages the client produces. -/
theorem owns_of_opened {requests : List Request} {server : SecurityWalletServer} {sender : Sender}
    {index : Nat} {portfolio : Portfolio} {id : Id} {usage : UsageId}
    (hsender : ∀ request ∈ requests, request.sender = sender)
    (hlookup : server.activeWallet.portfolios[index]? = some portfolio)
    (hclosed : ClosedTo server sender index portfolio.name id)
    (hconsumes : Consumes server sender portfolio.name usage)
    (hcarries : Carries (Machine.run handleRequest requests server).2 index id usage) :
    Owns server sender portfolio.name usage := by
  by_contra howns
  refine hclosed usage hconsumes ((carries_of_not_owned requests hlookup ?_).1 hcarries)
  intro request hrequest
  rwa [hsender request hrequest]

/--
After any requests of one client a document that was closed to it shares with it only usages it also
produces. If it has no usage in both roles the document stays closed, and its reading commands are
answered as by a server in which the private fields of the document are empty.
-/
theorem own_requests_open_only_produced_usages (requests : List Request)
    (server : SecurityWalletServer) (sender : Sender) (index : Nat) (portfolio : Portfolio) (id : Id)
    (hsender : ∀ request ∈ requests, request.sender = sender)
    (hlookup : server.activeWallet.portfolios[index]? = some portfolio)
    (hclosed : ClosedTo server sender index portfolio.name id) :
    (∀ usage, Consumes server sender portfolio.name usage →
        Carries (Machine.run handleRequest requests server).2 index id usage →
          Owns server sender portfolio.name usage) ∧
      (¬ HasBothRoles server sender portfolio.name →
        ClosedTo (Machine.run handleRequest requests server).2 sender index portfolio.name id ∧
          (redact sender (Machine.run handleRequest requests server).2).activeWallet.documentAt
              index id =
            ((Machine.run handleRequest requests server).2.activeWallet.documentAt index id).map
              Document.withoutSecret ∧
          ∀ command ∈ [Command.getWithSecret, .getWithSecretByName, .getListWithSecret],
            ∀ params, (handleRequest ⟨sender, command.name :: params⟩
                (Machine.run handleRequest requests server).2).1 =
              (handleRequest ⟨sender, command.name :: params⟩
                (redact sender (Machine.run handleRequest requests server).2)).1) := by
  refine ⟨fun usage hconsumes hcarries =>
    owns_of_opened hsender hlookup hclosed hconsumes hcarries, fun hroles => ?_⟩
  have hframe := run_sameFrame requests server
  obtain ⟨nextPortfolio, hnext, hname⟩ := hframe.lookup_name hlookup
  have hstill : ClosedTo (Machine.run handleRequest requests server).2 sender index
      portfolio.name id := by
    intro usage hconsumes hcarries
    rw [hframe.consumes_iff] at hconsumes
    exact hroles ⟨usage, hconsumes, owns_of_opened hsender hlookup hclosed hconsumes hcarries⟩
  refine ⟨hstill, redact_documentAt_of_closed hnext (hname ▸ hstill), ?_⟩
  intro command hcommand params
  refine (handleRequest_blind ?_ _).1.symm
  intro hupdate
  rw [List.head?_cons, Option.some_inj, Command.name_inj] at hupdate
  rw [hupdate] at hcommand
  exact absurd hcommand (by decide)

end SecurityWalletServer

/-! ### A client in both roles -/

namespace Reference

open scoped Reference

theorem documentAt_server (doc : Document) :
    (server [portfolio doc]).activeWallet.documentAt 0 doc.id = some doc := by
  change (portfolio doc).documents[doc.id]? = some doc
  rw [portfolio, Portfolio.store, StdMap.lookup_insert, if_pos rfl]

theorem closedTo_bob : SecurityWalletServer.ClosedTo started "bob" 0 "default" "0" := by
  rintro usage ⟨allowedUsageIds, hconsumed, hmem⟩ ⟨doc, hdoc, hcarried⟩
  obtain rfl := Except.ok.inj ((consumerUsages_bob _).symm.trans hconsumed)
  obtain rfl := Option.some.inj ((documentAt_server (document ["u1"] "secret")).symm.trans hdoc)
  have hcommon : hasCommonUsageIds (Std.ExtTreeSet.ofList ["u2"])
      (document ["u1"] "secret").usages = false := by
    decide +kernel
  exact absurd ((hasCommonUsageIds_iff _ _).2 ⟨usage, hmem, hcarried⟩) (by rw [hcommon]; decide)

theorem delete_opens_only_produced_usages :
    SecurityWalletServer.ClosedTo started "bob" 0 "default" "0" ∧
      ∀ usage, SecurityWalletServer.Consumes started "bob" "default" usage →
        SecurityWalletServer.Carries (Machine.run SecurityWalletServer.handleRequest
            [⟨"bob", ["DELETE", "default", "0"]⟩] started).2 0 "0" usage →
          SecurityWalletServer.Owns started "bob" "default" usage :=
  ⟨closedTo_bob, (SecurityWalletServer.own_requests_open_only_produced_usages
    [⟨"bob", ["DELETE", "default", "0"]⟩] started "bob" 0 (portfolio (document ["u1"] "secret")) "0"
    (by simp) rfl closedTo_bob).1⟩

/-- The document of `started` with the usage of `bob` added, as a client sends it. -/
def widenedSi : SerializationInfo :=
  (document ["u1", "u2"] "").fillSerializationInfoWithoutSecret .null

def widenRequest : SecurityWalletServer.Request :=
  { sender := "bob", payload := [Command.update.name, "default", serialize widenedSi] }

theorem read_widened : Document.read widenedSi none =
    .ok { document ["u1", "u2"] "" with containPrivateData := false } := by
  decide +kernel

theorem merge_widened : Document.read widenedSi (some (document ["u1"] "secret")) =
    .ok (document ["u1", "u2"] "secret") := by
  decide +kernel

/-- `bob` may change the set of usages by a usage it produces. -/
theorem checkUsages_widened :
    SecurityWalletServer.checkUsages (Std.ExtTreeSet.ofList ["u2"])
        (differenceBetween2UsagesIdSet (document ["u1", "u2"] "").usages
          (document ["u1"] "secret").usages) =
      .ok () := by
  decide +kernel

theorem producerAccess_bob :
    SecurityWalletServer.ProducerAccess started.activeWallet "bob" "default"
      (Std.ExtTreeSet.ofList ["u2"]) 0 (portfolio (document ["u1"] "secret")) where
  rights := producerUsages_bob _
  nonempty := by decide +kernel
  place := rfl
  lookup := rfl
  named := rfl

/-- The update keeps the password, which the request leaves out. -/
theorem change_widened :
    SecurityWalletServer.Change started "bob" .update ["default", serialize widenedSi] "OK"
      (SecurityWalletServer.commit started 0
        ((portfolio (document ["u1"] "secret")).replaced (document ["u1"] "secret")
          (document ["u1", "u2"] "secret")) uuids
        (SecurityWalletServer.notificationOnUpdate "default" (document ["u1"] "secret")
          { document ["u1", "u2"] "" with containPrivateData := false })) := by
  have hold : (portfolio (document ["u1"] "secret")).documents["0"]? =
      some (document ["u1"] "secret") := documentAt_server (document ["u1"] "secret")
  exact .update producerAccess_bob (deserialize_serialize widenedSi) read_widened hold
    (SecurityWalletServer.checkUsages_eq_ok.1 checkUsages_widened) merge_widened rfl hold (.inl rfl)

theorem documentAt_widened :
    (Machine.run SecurityWalletServer.handleRequest [widenRequest] started).2.activeWallet.documentAt
        0 "0" =
      some (document ["u1", "u2"] "secret") := by
  rw [Machine.run_cons, widenRequest,
    SecurityWalletServer.handleRequest_of_ok change_widened.exec_handler]
  dsimp only
  rw [Machine.run_nil, SecurityWalletServer.documentAt_commit _ _ _ rfl, if_pos rfl,
    Portfolio.replaced, StdMap.lookup_insert]
  rfl

/-- An own request of `bob` opens a document that was closed to it. -/
theorem update_opens_document :
    SecurityWalletServer.Reachable started ∧
      SecurityWalletServer.ClosedTo started "bob" 0 "default" "0" ∧
      ¬ SecurityWalletServer.ClosedTo
        (Machine.run SecurityWalletServer.handleRequest [widenRequest] started).2 "bob" 0 "default"
        "0" := by
  refine ⟨reachable_started, closedTo_bob, fun hclosed => ?_⟩
  have hframe := SecurityWalletServer.run_sameFrame [widenRequest] started
  refine hclosed "u2" ((hframe.consumes_iff _ _ _).2
    ⟨_, consumerUsages_bob _, by decide +kernel⟩) ⟨_, documentAt_widened, ?_⟩
  decide +kernel

end Reference

end Secw
