import SecurityWallet.Foundation.Replication
import SecurityWallet.Network
import SecurityWallet.Proof.NotificationReplay
import SecurityWallet.Proof.VaultHistory

/-!
# Followers catch up

A message says what is written to the copy of a follower, and the stream ends with what the server
shows in public. So a follower that reads a portfolio while messages about it are on their way is
right about it once it was handed them, and all it ever had of it was right at some time.
-/

open Foundation Machine

namespace Secw

/-! ### What a server shows in public -/

/-- The public part of each document. -/
def SecurityWallet.view (wallet : SecurityWallet) : Mirror :=
  fun (portfolioName, id) => (wallet.stored portfolioName id).map Document.publicView

namespace SecurityWalletServer

variable {server : SecurityWalletServer} {mirror : Mirror}

theorem mirroredBy_view (hnodup : server.activeWallet.names.Nodup) :
    server.MirroredBy server.activeWallet.view := by
  intro portfolioName id doc
  have hfind : ∀ portfolio, (server.activeWallet.portfolios.find? fun portfolio =>
      portfolio.name = portfolioName) = some portfolio ↔
        portfolio ∈ server.activeWallet.portfolios ∧ portfolio.name = portfolioName :=
    fun _ => find?_eq_some_of_nodup hnodup
  have hview : server.activeWallet.view (portfolioName, id) = some doc ↔
      ∃ portfolio, (server.activeWallet.portfolios.find? fun portfolio =>
        portfolio.name = portfolioName) = some portfolio ∧
          ∃ stored, portfolio.documents[id]? = some stored ∧ stored.publicView = doc := by
    rw [SecurityWallet.view, SecurityWallet.stored, Option.map_eq_some_iff]
    simp only [Option.bind_eq_some_iff, Option.map_eq_some_iff]
    constructor
    · rintro ⟨_, ⟨portfolio, hportfolio, stored, hstored, rfl⟩, rfl⟩
      exact ⟨portfolio, hportfolio, stored, hstored, rfl⟩
    · rintro ⟨portfolio, hportfolio, stored, hstored, rfl⟩
      exact ⟨_, ⟨portfolio, hportfolio, stored, hstored, rfl⟩, rfl⟩
  rw [hview]
  constructor
  · rintro ⟨portfolio, hportfolio, stored, hstored, rfl⟩
    obtain ⟨hmem, hname⟩ := (hfind portfolio).1 hportfolio
    exact ⟨stored, ⟨portfolio, hmem, hname, hstored⟩, rfl⟩
  · rintro ⟨stored, ⟨portfolio, hmem, hname, hstored⟩, rfl⟩
    exact ⟨portfolio, (hfind portfolio).2 ⟨hmem, hname⟩, stored, hstored, rfl⟩

/-- There is only one copy that is right. -/
theorem MirroredBy.eq_view (hmirrored : server.MirroredBy mirror)
    (hnodup : server.activeWallet.names.Nodup) : server.activeWallet.view = mirror := by
  funext ⟨portfolioName, id⟩
  apply Option.ext
  intro doc
  rw [hmirrored, mirroredBy_view hnodup]

end SecurityWalletServer

section Reading

variable [Platform]

theorem SecurityWallet.Shows.view {wallet : SecurityWallet} {vault : Vault}
    (hshows : wallet.Shows vault) (portfolioName : String) (id : Id) :
    wallet.view (portfolioName, id) =
      (documentIn vault.folders portfolioName id).map Document.publicView := by
  rw [SecurityWallet.view, hshows.stored]
  rfl

theorem SecurityWalletServer.view_rebuilt {server : SecurityWalletServer}
    (hsettled : server.activeWallet.Settled) :
    server.activeWallet.rebuilt.view = server.activeWallet.view := by
  obtain ⟨vault, hshows, -⟩ := hsettled.exists_shows server.uuids
  funext ⟨portfolioName, id⟩
  rw [hshows.view, hshows.rebuilt.view]

variable [LawfulCxxtools] [CxxtoolsTexts] [CxxtoolsEmptyText]

/-- A list of a portfolio has the public part of each document in it, under its id. -/
theorem SecurityWallet.Settled.listed {server : SecurityWalletServer}
    (hsettled : server.activeWallet.Settled) (client : ClientId) (portfolio : String) :
    ∃ outcome, (ProducerAccessor.getListDocumentsWithoutPrivateDataOfUsage client portfolio "").exec
        server = (outcome, server) ∧
      ∀ docs, outcome = .ok docs → ∀ id, (docs.find? fun doc => doc.id = id) =
        server.activeWallet.view (portfolio, id) := by
  obtain ⟨vault, hshows, -⟩ := hsettled.exists_shows server.uuids
  obtain ⟨outcome, hexec, htold⟩ :=
    (getListDocumentsWithoutPrivateDataOfUsage_tells hshows client portfolio "").exec
  refine ⟨outcome, hexec, ?_⟩
  rintro docs rfl id
  obtain ⟨rights, -, htold⟩ := bind_eq_ok.1 htold.symm
  rw [if_neg (by simp)] at htold
  obtain ⟨folder, hfolder, htold⟩ := bind_eq_ok.1 htold
  obtain rfl : folder.list.map Document.publicView = docs := by
    simpa using htold
  rw [List.find?_map, hshows.view, Vault.documentIn_of_folder (Vault.folder_eq_ok.1 hfolder),
    ← folder.find?_key]
  rfl

/-- Any client can list a portfolio that has a configuration. -/
theorem SecurityWallet.Settled.isOk_listed {server : SecurityWalletServer}
    (hsettled : server.activeWallet.Settled) (client : ClientId) {portfolio : String}
    {configuration : PortfolioConfiguration}
    (hconfiguration : server.activeWallet.getConfiguration portfolio = .ok configuration) :
    ((ProducerAccessor.getListDocumentsWithoutPrivateDataOfUsage client portfolio "").exec
      server).1.isOk = true := by
  obtain ⟨vault, hshows, -⟩ := hsettled.exists_shows server.uuids
  obtain ⟨outcome, hexec, htold⟩ :=
    (getListDocumentsWithoutPrivateDataOfUsage_tells hshows client portfolio "").exec
  obtain ⟨folder, index, stored, hat⟩ := hshows.of_configuration hconfiguration
  have hrights : vault.rightsTo portfolio = .ok (Rights.of configuration) := by
    rw [← hshows.getConfiguration, hconfiguration]
    rfl
  have hviews : vault.viewsOfUsage portfolio "" = .ok (folder.list.map Document.publicView) := by
    refine bind_eq_ok.2 ⟨_, hrights, ?_⟩
    rw [if_neg (by simp)]
    exact bind_eq_ok.2 ⟨folder, hat.found, by simp⟩
  rw [hviews] at htold
  rw [hexec]
  cases outcome with
  | ok docs => rfl
  | error e => cases htold

end Reading

/-! ### One follower -/

namespace Follower

/-- What is known of a follower, from the writes of the stream and what the server shows. -/
structure Synced (past : String × Id → Option Document → Prop)
    (writes : List (Write (String × Id) Document)) (view : Mirror) (follower : Follower) : Prop where
  position : follower.position ≤ writes.length
  catchesUp : Write.CatchesUp (writes.drop follower.position) follower.subscriber.mirror view
    { key | key.1 ∈ follower.portfolios }
  past : ∀ key, key.1 ∈ follower.portfolios → past key (follower.subscriber.mirror key)

namespace Synced

variable {past : String × Id → Option Document → Prop}
  {writes : List (Write (String × Id) Document)} {view : Mirror} {follower : Follower}

/-- The server writes, and puts a message that says so on the stream. -/
theorem write (hsynced : Synced past writes view follower)
    (write : Write (String × Id) Document) :
    Synced past (writes ++ [write]) (write.apply view) follower where
  position := by
    rw [List.length_append]
    exact Nat.le_add_right_of_le hsynced.position
  catchesUp := by
    rw [List.drop_append_of_le_length hsynced.position]
    exact hsynced.catchesUp.write write
  past := hsynced.past

/-- A follower that subscribes is to read every portfolio again. -/
theorem subscribe (subscriber : Subscriber) :
    Synced past writes view { subscriber, position := writes.length } where
  position := le_rfl
  catchesUp := by
    rintro key hkey
    cases hkey
  past := by
    rintro key hkey
    cases hkey

/-- The handler writes the next message to the copy. -/
theorem deliver (hsynced : Synced past writes view follower)
    {write : Write (String × Id) Document} {subscriber : Subscriber}
    (hwrite : writes[follower.position]? = some write) (hpast : past write.key write.value)
    (hmirror : subscriber.mirror = write.apply follower.subscriber.mirror) :
    Synced past writes view
      { follower with subscriber, position := follower.position + 1 } where
  position := (List.getElem?_eq_some_iff.1 hwrite).1
  catchesUp := by
    have hcatches := hsynced.catchesUp
    obtain ⟨hlt, hget⟩ := List.getElem?_eq_some_iff.1 hwrite
    rw [List.drop_eq_getElem_cons hlt, hget] at hcatches
    rw [hmirror]
    exact hcatches.take
  past := by
    intro key hkey
    change past key (subscriber.mirror key)
    rw [hmirror]
    by_cases hwritten : key = write.key
    · rw [hwritten, Write.apply_self]
      exact hpast
    · rw [Write.apply_of_ne hwritten]
      exact hsynced.past key hkey

/-- A portfolio is read while messages about it may be pending. -/
theorem read (hsynced : Synced past writes view follower)
    (hend : Write.EndIn writes view) (hpast : ∀ key, past key (view key)) {portfolio : String}
    {docs : List Document}
    (hdocs : ∀ id, (docs.find? fun doc => doc.id = id) = view (portfolio, id)) :
    Synced past writes view
      { follower with
        subscriber := { follower.subscriber with
          mirror := follower.subscriber.mirror.withPortfolio portfolio docs }
        portfolios := portfolio :: follower.portfolios } := by
  have hread : ∀ key : String × Id, key.1 = portfolio →
      follower.subscriber.mirror.withPortfolio portfolio docs key = view key := by
    rintro ⟨name, id⟩ rfl
    rw [Mirror.withPortfolio, if_pos rfl, hdocs]
  have hother : ∀ key : String × Id, key.1 ≠ portfolio →
      follower.subscriber.mirror.withPortfolio portfolio docs key =
        follower.subscriber.mirror key := by
    intro key hne
    rw [Mirror.withPortfolio, if_neg hne]
  refine ⟨hsynced.position, ?_, fun key hkey => ?_⟩
  · have hcatches : Write.CatchesUp (writes.drop follower.position)
        (follower.subscriber.mirror.withPortfolio portfolio docs) view
          ({ key | key.1 = portfolio } ∪ { key | key.1 ∈ follower.portfolios }) :=
      hsynced.catchesUp.read hend hread hother
    intro key hkey
    exact hcatches key (List.mem_cons.1 hkey)
  · dsimp only
    by_cases hname : key.1 = portfolio
    · rw [hread key hname]
      exact hpast key
    · rw [hother key hname]
      exact hsynced.past key ((List.mem_cons.1 hkey).resolve_left hname)

end Synced

end Follower

/-! ### Networks -/

namespace Network

variable [Platform] [CxxtoolsClient] {κ : Type}

/-- The handler writes to a copy what the message says. -/
def Says (message : List String) (write : Write (String × Id) Document) : Prop :=
  ∀ subscriber, (ClientAccessor.callbackHandler Subscriber.callbacks message subscriber).mirror =
    write.apply subscriber.mirror

/-- The stream ends with what the server shows, and every follower follows it. -/
structure Synced (past : String × Id → Option Document → Prop) (network : Network κ) : Prop where
  settled : network.server.activeWallet.Settled
  nodup : network.server.activeWallet.names.Nodup
  follows : ∃ writes, List.Forall₂ Says network.stream writes ∧
    Write.EndIn writes network.server.activeWallet.view ∧
    (∀ write ∈ writes, past write.key write.value) ∧
    ∀ follower, Follower.Synced past writes network.server.activeWallet.view
      (network.followers follower)

variable {past : String × Id → Option Document → Prop} {network : Network κ}

/-- A server that shows the same in public and published nothing. -/
theorem Synced.of_view_eq (hsynced : Synced past network) {server : SecurityWalletServer}
    (hsettled : server.activeWallet.Settled)
    (hnames : server.activeWallet.names = network.server.activeWallet.names)
    (hview : server.activeWallet.view = network.server.activeWallet.view) :
    Synced past { network with server } where
  settled := hsettled
  nodup := hnames ▸ hsynced.nodup
  follows := by
    dsimp only
    rw [hview]
    exact hsynced.follows

variable [LawfulCxxtools]

theorem Synced.change [LawfulCxxtoolsClient] (hsynced : Synced past network)
    {next : SecurityWalletServer} {sender : Sender} {command : Command} {params : List String}
    {result : String}
    (hchange : SecurityWalletServer.Change network.server sender command params result next)
    (hpast : ∀ key, past key (next.activeWallet.view key)) :
    Synced past { network with
      server := next
      stream := network.stream ++ next.published.drop network.server.published.length } := by
  obtain ⟨index, portfolio, id, before, after, message, hlookup, hreplaces, hpublished, -,
    hmessage⟩ := hchange.delivered hsynced.settled.loadable
  have hnames := hchange.sameFrame.names_eq
  have hnodup : next.activeWallet.names.Nodup := hnames ▸ hsynced.nodup
  obtain ⟨writes, hmessages, hend, hwrites, hfollowers⟩ := hsynced.follows
  let write : Write (String × Id) Document :=
    { key := (portfolio.name, id), value := after.map Document.publicView }
  have hview : next.activeWallet.view = write.apply network.server.activeWallet.view :=
    ((SecurityWalletServer.mirroredBy_view hsynced.nodup).update hsynced.nodup hlookup hreplaces
      hnames).eq_view hnodup
  refine ⟨hchange.settled hsynced.settled, hnodup, writes ++ [write], ?_, ?_, ?_, ?_⟩
  · rw [hpublished, List.drop_left]
    refine List.rel_append hmessages (.cons (fun subscriber => ?_) .nil)
    rw [hmessage]
    rfl
  · rw [hview]
    exact hend.append write
  · intro other hmem
    rcases List.mem_append.1 hmem with hold | hnew
    · exact hwrites other hold
    · obtain rfl := List.mem_singleton.1 hnew
      have hkey := hpast write.key
      rwa [hview, Write.apply_self] at hkey
  · intro follower
    rw [hview]
    exact (hfollowers follower).write write

theorem Synced.restart (hsynced : Synced past network) :
    Synced past { network with
      server := (Site.restart { server := network.server }).2.server } := by
  rw [Site.restart, hsynced.settled.construct]
  refine hsynced.of_view_eq hsynced.settled.rebuilt ?_
    (SecurityWalletServer.view_rebuilt hsynced.settled)
  rw [SecurityWallet.names, SecurityWallet.rebuilt, List.map_map]
  rfl

variable [DecidableEq κ]

omit [LawfulCxxtools] in
theorem Synced.setFollower (hsynced : Synced past network) {follower : κ} {next : Follower}
    (hnext : ∀ writes, List.Forall₂ Says network.stream writes →
      Write.EndIn writes network.server.activeWallet.view →
      (∀ write ∈ writes, past write.key write.value) →
      (network.followers follower).Synced past writes network.server.activeWallet.view →
      next.Synced past writes network.server.activeWallet.view) :
    Synced past (network.setFollower follower next) := by
  obtain ⟨writes, hmessages, hend, hwrites, hfollowers⟩ := hsynced.follows
  refine ⟨hsynced.settled, hsynced.nodup, writes, hmessages, hend, hwrites, fun other => ?_⟩
  dsimp only [Network.setFollower]
  by_cases hother : other = follower
  · subst hother
    rw [Function.update_self]
    exact hnext writes hmessages hend hwrites (hfollowers other)
  · rw [Function.update_of_ne hother]
    exact hfollowers other

variable [CxxtoolsTexts] [CxxtoolsEmptyText] [LawfulCxxtoolsClient]

omit [LawfulCxxtools] [CxxtoolsTexts] [CxxtoolsEmptyText] [LawfulCxxtoolsClient] in
theorem mem_portfolios_of_read {follower : κ} {client : ClientId} {portfolio : String}
    (hread : ((ProducerAccessor.getListDocumentsWithoutPrivateDataOfUsage client portfolio "").exec
      network.server).1.isOk = true) :
    portfolio ∈ ((Network.step (.read follower client portfolio) network).2.followers
      follower).portfolios := by
  rw [Network.step]
  generalize (ProducerAccessor.getListDocumentsWithoutPrivateDataOfUsage client portfolio "").exec
    network.server = result at hread
  obtain ⟨outcome, next⟩ := result
  cases outcome with
  | error e => cases hread
  | ok docs =>
      dsimp only [Network.setFollower]
      rw [Function.update_self]
      exact List.mem_cons_self

/-- Whatever happens, the followers follow. -/
theorem Synced.step (hsynced : Synced past network) (event : NetworkEvent κ)
    (hpast : ∀ key, past key ((Network.step event network).2.server.activeWallet.view key)) :
    Synced past (Network.step event network).2 := by
  cases event with
  | request request =>
      have houtcome := SecurityWalletServer.handleRequest_outcome request network.server
      have hunchanged : (SecurityWalletServer.handleRequest request network.server).2 =
          network.server → Synced past (Network.step (.request request) network).2 := by
        intro hserver
        rw [Network.step]
        dsimp only
        rw [hserver, List.drop_length, List.append_nil]
        exact hsynced
      generalize hnext : (SecurityWalletServer.handleRequest request network.server).2 = next
        at houtcome hunchanged
      generalize (SecurityWalletServer.handleRequest request network.server).1 = frames at houtcome
      cases houtcome with
      | changed _ _ hchange =>
          rw [Network.step] at hpast ⊢
          dsimp only at hpast ⊢
          rw [hnext] at hpast ⊢
          exact hsynced.change hchange hpast
      | _ => exact hunchanged rfl
  | restart => exact hsynced.restart
  | subscribe follower =>
      refine hsynced.setFollower fun writes hmessages _ _ _ => ?_
      rw [hmessages.length_eq]
      exact .subscribe _
  | deliver follower =>
      rw [Network.step]
      split
      · exact hsynced
      · next message hmessage =>
          refine hsynced.setFollower fun writes hmessages _ hwrites hfollower => ?_
          obtain ⟨write, hwrite, hsaid⟩ := getElem?_of_forall₂ hmessages hmessage
          exact hfollower.deliver hwrite (hwrites write (List.mem_of_getElem? hwrite)) (hsaid _)
  | read follower client portfolio =>
      obtain ⟨outcome, hexec, hlisted⟩ := hsynced.settled.listed client portfolio
      rw [Network.step, hexec] at hpast ⊢
      cases outcome with
      | error e => exact hsynced
      | ok docs =>
          refine hsynced.setFollower fun writes _ hend _ hfollower => ?_
          exact hfollower.read hend hpast (hlisted docs rfl)

theorem Synced.run (hsynced : Synced past network) (events : List (NetworkEvent κ))
    (hpast : ∀ front, front <+: events → ∀ key,
      past key ((Machine.run Network.step front network).2.server.activeWallet.view key)) :
    Synced past (Machine.run Network.step events network).2 := by
  induction events generalizing network with
  | nil => exact hsynced
  | cons event events ih =>
      apply ih
      · apply hsynced.step
        exact hpast [event] ⟨events, rfl⟩
      · intro front hfront
        exact hpast (event :: front) ((List.prefix_cons_inj event).2 hfront)

omit [DecidableEq κ] [CxxtoolsTexts] [CxxtoolsEmptyText] [LawfulCxxtoolsClient] [LawfulCxxtools] in
theorem mirror_foldl {messages : List (List String)} {writes : List (Write (String × Id) Document)}
    (hmessages : List.Forall₂ Says messages writes) (subscriber : Subscriber) :
    (messages.foldl (fun subscriber message =>
        ClientAccessor.callbackHandler Subscriber.callbacks message subscriber) subscriber).mirror =
      Write.replay writes subscriber.mirror := by
  induction hmessages generalizing subscriber with
  | nil => rfl
  | cons hsaid _ ih => rw [List.foldl_cons, ih, hsaid, Write.replay_cons]

/--
Clients send what they like, the server is restarted, and followers subscribe, read portfolios and
are handed messages, in any order. What a follower has under an id of a portfolio that it has read
since it subscribed is then what the server showed there at some time, and what the server shows
now once the follower is handed the messages that are still pending.
-/
theorem followers_catch_up (server : SecurityWalletServer)
    (hreachable : SecurityWalletServer.ReachableFromEmpty server) (subscribers : κ → Subscriber)
    (events : List (NetworkEvent κ)) (follower : κ) (portfolio : String)
    (hread : portfolio ∈ ((Machine.run Network.step events
      (start server subscribers)).2.followers follower).portfolios) (id : Id) :
    let network := (Machine.run Network.step events (start server subscribers)).2
    (network.caughtUp follower).mirror (portfolio, id) =
        network.server.activeWallet.view (portfolio, id) ∧
      ∃ front, front <+: events ∧
        (network.followers follower).subscriber.mirror (portfolio, id) =
          (Machine.run Network.step front
            (start server subscribers)).2.server.activeWallet.view (portfolio, id) := by
  intro network
  let past (key : String × Id) (value : Option Document) : Prop := ∃ front, front <+: events ∧
    value = (Machine.run Network.step front
      (start server subscribers)).2.server.activeWallet.view key
  have hstart : Synced past (start server subscribers) := by
    refine ⟨hreachable.settled, hreachable.names_nodup, [], .nil, .nil _, ?_, fun other => ?_⟩
    · intro write hmem
      cases hmem
    · exact .subscribe (subscribers other)
  have hlast : Synced past network := hstart.run events fun front hfront _ => ⟨front, hfront, rfl⟩
  obtain ⟨writes, hmessages, -, -, hfollowers⟩ := hlast.follows
  refine ⟨?_, (hfollowers follower).past (portfolio, id) hread⟩
  rw [caughtUp, mirror_foldl (List.forall₂_drop _ hmessages)]
  exact (hfollowers follower).catchesUp (portfolio, id) hread

end Network

/-! ### A follower that reads before it is handed a message -/

namespace Reference

open scoped Reference

/-- A follower reads the portfolio, and a document is created that it is not told of yet. -/
def lagging : Network Unit :=
  (run Network.step [.read () "carol" "default", .request createRequest]
    (Network.start (server [{}]) fun _ => { mirror := fun _ => none })).2

theorem default_is_listed :
    ((ProducerAccessor.getListDocumentsWithoutPrivateDataOfUsage "carol" "default" "").exec
      (server [{}])).1.isOk = true :=
  reachableFromEmpty_reference.settled.isOk_listed "carol" (getConfiguration_default [{}])

theorem read_by_lagging : "default" ∈ (lagging.followers ()).portfolios := by
  have hread : "default" ∈ ((Network.step (.read () "carol" "default")
      (Network.start (server [{}]) fun _ => { mirror := fun _ => none })).2.followers
        ()).portfolios :=
    Network.mem_portfolios_of_read default_is_listed
  rw [lagging, run_cons, run_cons, run_nil]
  exact hread

theorem lagging_catches_up :
    (lagging.caughtUp ()).mirror ("default", "0") =
      lagging.server.activeWallet.view ("default", "0") := by
  have hrun : lagging = (run Network.step [.read () "carol" "default", .request createRequest]
      (Network.start (server [{}]) fun _ => { mirror := fun _ => none })).2 := rfl
  have hread := read_by_lagging
  rw [hrun] at hread
  have hcatches := (Network.followers_catch_up (server [{}]) reachableFromEmpty_reference
    (fun _ => { mirror := fun _ => none }) [.read () "carol" "default", .request createRequest] ()
    "default" hread "0").1
  rw [← hrun] at hcatches
  exact hcatches

end Reference

end Secw
