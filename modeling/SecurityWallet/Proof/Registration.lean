import SecurityWallet.Registration
import SecurityWallet.Reference

/-!
# Subscriptions follow the callbacks

An accessor has at most one subscription, and it has one from the first callback that is set. The
branch that would unsubscribe is never taken, so the subscription stays when the last callback is
taken away; only the destructor ends it.
-/

open Foundation

namespace Secw.ClientAccessor

open StreamSubscriber

variable {σ τ : Type} [StreamSubscriber τ]

/-- The ids of the subscriptions of an object. -/
def liveOf (object : Address) (stream : τ) : Multiset UInt32 :=
  ((subscriptions stream).filter fun subscription => subscription.2 = object).map Prod.fst

/-- The ids of the accessor's own subscriptions. -/
def live (accessor : ClientAccessor σ τ) : Multiset UInt32 :=
  accessor.streamClient.elim 0 (liveOf accessor.object)

/-- The accessor is registered, with exactly one subscription. -/
def Subscribed (accessor : ClientAccessor σ τ) : Prop :=
  accessor.isRegistered = true ∧ accessor.live.card = 1

/-- The accessor is subscribed exactly if a callback is set. -/
def FollowsCallbacks (accessor : ClientAccessor σ τ) : Prop :=
  accessor.Subscribed ↔ accessor.callbacks.anySet = true

/-- The call does not take the last callback away. -/
def KeepsOne (setter : Setter σ) (accessor : ClientAccessor σ τ) : Prop :=
  accessor.callbacks.anySet = true → (setter.store accessor.callbacks).anySet = true

/-- There is a stream client, whose subscriptions of the accessor are the one it is registered for. -/
def Consistent (accessor : ClientAccessor σ τ) : Prop :=
  ∃ stream, accessor.streamClient = some stream ∧
    liveOf accessor.object stream =
      if accessor.isRegistered then {accessor.registrationId} else 0

/-! ### One call -/

/-- A call stores its callback, and subscribes if now one is set and the accessor is not registered. -/
theorem call_eq {accessor : ClientAccessor σ τ} {stream : τ}
    (hstream : accessor.streamClient = some stream) (setter : Setter σ) :
    (setter.call accessor).2 =
      if (setter.store accessor.callbacks).anySet = true ∧ accessor.isRegistered = false then
        { accessor with
          callbacks := setter.store accessor.callbacks
          streamClient := some (subscribe accessor.object stream).2
          registrationId := (subscribe accessor.object stream).1
          isRegistered := true }
      else
        { accessor with callbacks := setter.store accessor.callbacks } := by
  have hcall : (setter.call accessor).2 = setCallback setter.store accessor := by
    cases setter <;> rfl
  rw [hcall, setCallback, hstream]
  dsimp only
  unfold updateNotificationThread
  cases (setter.store accessor.callbacks).anySet with
  | false => simp
  | true => cases accessor.isRegistered <;> simp

section Fields

variable {accessor : ClientAccessor σ τ} {stream : τ}

theorem callbacks_call (hstream : accessor.streamClient = some stream) (setter : Setter σ) :
    (setter.call accessor).2.callbacks = setter.store accessor.callbacks := by
  rw [call_eq hstream]
  split <;> rfl

/-- A registration is not undone. -/
theorem isRegistered_call (hstream : accessor.streamClient = some stream) (setter : Setter σ) :
    (setter.call accessor).2.isRegistered =
      (accessor.isRegistered || (setter.store accessor.callbacks).anySet) := by
  rw [call_eq hstream]
  cases (setter.store accessor.callbacks).anySet <;> cases accessor.isRegistered <;> rfl

theorem object_call (hstream : accessor.streamClient = some stream) (setter : Setter σ) :
    (setter.call accessor).2.object = accessor.object := by
  rw [call_eq hstream]
  split <;> rfl

end Fields

theorem mem_liveOf {object : Address} {stream : τ} {registrationId : UInt32} :
    registrationId ∈ liveOf object stream ↔ (registrationId, object) ∈ subscriptions stream := by
  simp [liveOf]

variable [LawfulStreamSubscriber τ]

theorem liveOf_subscribe (object : Address) (stream : τ) :
    liveOf object (subscribe object stream).2 =
      (subscribe object stream).1 ::ₘ liveOf object stream := by
  unfold liveOf
  rw [LawfulStreamSubscriber.subscriptions_subscribe, Multiset.filter_cons_of_pos, Multiset.map_cons]
  rfl

theorem Consistent.call {accessor : ClientAccessor σ τ} (hconsistent : accessor.Consistent)
    (setter : Setter σ) : (setter.call accessor).2.Consistent := by
  obtain ⟨stream, hstream, hlive⟩ := hconsistent
  rw [call_eq hstream setter]
  split
  · next hsubscribes =>
      rw [hsubscribes.2] at hlive
      refine ⟨_, rfl, ?_⟩
      dsimp only
      rw [liveOf_subscribe, hlive]
      rfl
  · exact ⟨stream, hstream, hlive⟩

/-! ### Sequences of calls -/

omit [LawfulStreamSubscriber τ] in
theorem Consistent.subscribed_iff {accessor : ClientAccessor σ τ}
    (hconsistent : accessor.Consistent) : accessor.Subscribed ↔ accessor.isRegistered = true := by
  obtain ⟨stream, hstream, hlive⟩ := hconsistent
  rw [Subscribed, live, hstream, Option.elim_some, hlive]
  constructor
  · exact And.left
  · intro hregistered
    rw [if_pos hregistered, Multiset.card_singleton]
    exact ⟨hregistered, rfl⟩

/-- A call keeps the accessor true to its callbacks exactly if it leaves one where one was. -/
theorem Consistent.followsCallbacks_call {accessor : ClientAccessor σ τ}
    (hconsistent : accessor.Consistent) (hfollows : accessor.FollowsCallbacks)
    (setter : Setter σ) :
    (setter.call accessor).2.FollowsCallbacks ↔ KeepsOne setter accessor := by
  have ⟨stream, hstream, _⟩ := hconsistent
  rw [FollowsCallbacks, hconsistent.subscribed_iff] at hfollows
  rw [FollowsCallbacks, (hconsistent.call setter).subscribed_iff, isRegistered_call hstream,
    callbacks_call hstream, KeepsOne, ← hfollows, Bool.or_eq_true]
  tauto

/-- No subscription is of the object. -/
def Fresh (object : Address) (stream : τ) : Prop :=
  ∀ subscription ∈ subscriptions stream, subscription.2 ≠ object

omit [LawfulStreamSubscriber τ] in
theorem consistent_construct {object : Address} {stream : τ} (hfresh : Fresh object stream) :
    (construct object stream : ClientAccessor σ τ).Consistent := by
  refine ⟨stream, rfl, ?_⟩
  change liveOf object stream = 0
  rw [liveOf, Multiset.filter_eq_nil.2 hfresh, Multiset.map_zero]

/--
A new accessor is subscribed exactly while a callback is set, all along a sequence of calls, exactly
if no call of it takes the last callback away.
-/
theorem follows_callbacks_iff (object : Address) (stream : τ) (hfresh : Fresh object stream)
    (setters : List (Setter σ)) :
    Machine.Throughout Setter.call FollowsCallbacks setters
        (construct object stream : ClientAccessor σ τ) ↔
      Machine.Along Setter.call KeepsOne setters (construct object stream) := by
  have hstart : (construct object stream : ClientAccessor σ τ).Consistent :=
    consistent_construct hfresh
  have hfollows : (construct object stream : ClientAccessor σ τ).FollowsCallbacks := by
    rw [FollowsCallbacks, hstart.subscribed_iff]
    exact Iff.rfl
  rw [Machine.throughout_iff_along (I := Consistent) (P := FollowsCallbacks)
    (fun setter _ hconsistent => hconsistent.call setter)
    (fun setter _ hconsistent hfollows => hconsistent.followsCallbacks_call hfollows setter)
    setters hstart]
  exact and_iff_right hfollows

/-- The destructor takes away the subscription that there is. -/
theorem Consistent.fresh_destroy {accessor : ClientAccessor σ τ}
    (hconsistent : accessor.Consistent) {left : τ} (hleft : accessor.destroy = some left) :
    Fresh accessor.object left := by
  obtain ⟨stream, hstream, hlive⟩ := hconsistent
  rw [destroy, hstream] at hleft
  dsimp only at hleft
  rintro ⟨registrationId, object⟩ hmem hobject
  dsimp only at hobject
  subst hobject
  split at hleft
  · next hregistered =>
      obtain rfl := Option.some.inj hleft
      rw [LawfulStreamSubscriber.subscriptions_unsubscribe, Multiset.mem_filter, ← mem_liveOf,
        hlive, if_pos hregistered, Multiset.mem_singleton] at hmem
      exact hmem.2 hmem.1
  · next hregistered =>
      obtain rfl := Option.some.inj hleft
      rw [← mem_liveOf, hlive, if_neg hregistered] at hmem
      exact Multiset.notMem_zero _ hmem

/-- After any calls, the destructor leaves no subscription of the accessor. -/
theorem fresh_of_destroy {object : Address} {stream : τ} (hfresh : Fresh object stream)
    (setters : List (Setter σ)) {left : τ}
    (hleft : (Machine.run Setter.call setters
      (construct object stream : ClientAccessor σ τ)).2.destroy = some left) :
    Fresh object left := by
  have hrun : (Machine.run Setter.call setters
        (construct object stream : ClientAccessor σ τ)).2.Consistent ∧
      (Machine.run Setter.call setters
        (construct object stream : ClientAccessor σ τ)).2.object = object := by
    refine Machine.run_stable
      (P := fun accessor : ClientAccessor σ τ => accessor.Consistent ∧ accessor.object = object)
      ?_ setters ⟨consistent_construct hfresh, rfl⟩
    rintro setter accessor ⟨hconsistent, hobject⟩
    have ⟨stream, hstream, _⟩ := hconsistent
    exact ⟨hconsistent.call setter, (object_call hstream setter).trans hobject⟩
  have hleft := hrun.1.fresh_destroy hleft
  rwa [hrun.2] at hleft

end Secw.ClientAccessor

/-! ### The last callback taken away -/

namespace Secw.Reference

open ClientAccessor

/-- A stream client that numbers its subscriptions. -/
structure Stream where
  counter : UInt32 := 0
  registered : List (UInt32 × Address) := []

scoped instance : StreamSubscriber Stream where
  subscribe object stream :=
    (stream.counter + 1,
      { counter := stream.counter + 1
        registered := (stream.counter + 1, object) :: stream.registered })
  unsubscribe registrationId stream :=
    { stream with
      registered := stream.registered.filter fun subscription => subscription.1 ≠ registrationId }
  subscriptions stream := stream.registered

scoped instance : LawfulStreamSubscriber Stream where
  subscriptions_subscribe _ _ := rfl
  subscriptions_unsubscribe _ _ := rfl

/-- A callback for new documents that does nothing. -/
def ignore : String → Document → Unit → Unit := fun _ _ _ => ()

/-- The only callback is set and taken away; the subscription stays. -/
theorem subscription_stays :
    ¬ Machine.Throughout Setter.call FollowsCallbacks
        [.onCreate (some ignore), .onCreate none]
        (construct 0 ({} : Stream) : ClientAccessor Unit Stream) := by
  rintro ⟨-, -, hlast⟩
  have hset := hlast.1 ⟨rfl, rfl⟩
  cases hset

theorem subscription_of_two_callbacks :
    Machine.Throughout Setter.call FollowsCallbacks
      [.onCreate (some ignore), .onDelete (some ignore), .onCreate none]
      (construct 0 ({} : Stream) : ClientAccessor Unit Stream) := by
  have hfresh : Fresh 0 ({} : Stream) := fun _ hmem => absurd hmem (Multiset.notMem_zero _)
  apply (follows_callbacks_iff 0 _ hfresh _).2
  exact ⟨fun _ => rfl, fun _ => rfl, fun _ => rfl, trivial⟩

end Secw.Reference
