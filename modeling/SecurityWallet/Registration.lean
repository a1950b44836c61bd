import SecurityWallet.Client
import SecurityWallet.Foundation.Machine

/-!
# The registration of a client

A client that is built with a stream client subscribes its handler to the stream when a callback is
set. Each setter stores its callback and then brings the subscription up to date. The stream client
is not part of the wallet; `StreamSubscriber` gives what is called of it and
`LawfulStreamSubscriber` says what it does.
-/

open Foundation

namespace Secw

/-- Where an object is; a handler is bound to it. -/
abbrev Address := Nat

/-- A stream client `τ`. A subscription has an id and the object whose handler is called. -/
class StreamSubscriber (τ : Type) where
  subscribe : Address → τ → UInt32 × τ
  unsubscribe : UInt32 → τ → τ
  subscriptions : τ → Multiset (UInt32 × Address)

/-- Subscribing adds one subscription; unsubscribing takes those of the id away. -/
class LawfulStreamSubscriber (τ : Type) [StreamSubscriber τ] : Prop where
  subscriptions_subscribe (object : Address) (stream : τ) :
    StreamSubscriber.subscriptions (StreamSubscriber.subscribe object stream).2 =
      ((StreamSubscriber.subscribe object stream).1, object) ::ₘ
        StreamSubscriber.subscriptions stream
  subscriptions_unsubscribe (registrationId : UInt32) (stream : τ) :
    StreamSubscriber.subscriptions (StreamSubscriber.unsubscribe registrationId stream) =
      (StreamSubscriber.subscriptions stream).filter fun subscription =>
        subscription.1 ≠ registrationId

structure ClientAccessor (σ τ : Type) where
  object : Address
  /-- `none` is the null pointer. -/
  streamClient : Option τ
  callbacks : ClientAccessor.Callbacks σ := {}
  isRegistered : Bool := false
  registrationId : UInt32 := 0

namespace ClientAccessor

variable {σ τ : Type}

/-- Some callback is set. -/
def Callbacks.anySet (callbacks : Callbacks σ) : Bool :=
  callbacks.createdCallback.isSome || callbacks.updatedCallback.isSome ||
    callbacks.deletedCallback.isSome || callbacks.startedCallback.isSome

/-- The constructor that takes a stream client. -/
def construct (object : Address) (stream : τ) : ClientAccessor σ τ where
  object
  streamClient := some stream

variable [StreamSubscriber τ]

/-- The stream client is not tested for null; the setters do that. -/
def updateNotificationThread (accessor : ClientAccessor σ τ) (stream : τ) : ClientAccessor σ τ :=
  let shouldBeRunning := accessor.callbacks.anySet
  let (accessor, stream) :=
    if shouldBeRunning ∧ ¬ accessor.isRegistered then
      let (registrationId, stream) := StreamSubscriber.subscribe accessor.object stream
      ({ accessor with registrationId, isRegistered := true }, stream)
    else
      (accessor, stream)
  -- The same condition as above stands before the call to unsubscribe.
  if shouldBeRunning ∧ ¬ accessor.isRegistered then
    { accessor with
      streamClient := some (StreamSubscriber.unsubscribe accessor.registrationId stream)
      isRegistered := false }
  else
    { accessor with streamClient := some stream }

/-- The setters: one stores its callback, if there is a stream client. -/
def setCallback (store : Callbacks σ → Callbacks σ) (accessor : ClientAccessor σ τ) :
    ClientAccessor σ τ :=
  match accessor.streamClient with
  | none => accessor
  | some stream =>
      updateNotificationThread { accessor with callbacks := store accessor.callbacks } stream

def setCallbackOnUpdate
    (updatedCallback : Option (String → Document → Document → Bool → Bool → σ → σ)) :
    ClientAccessor σ τ → ClientAccessor σ τ :=
  setCallback fun callbacks => { callbacks with updatedCallback }

def setCallbackOnCreate (createdCallback : Option (String → Document → σ → σ)) :
    ClientAccessor σ τ → ClientAccessor σ τ :=
  setCallback fun callbacks => { callbacks with createdCallback }

def setCallbackOnDelete (deletedCallback : Option (String → Document → σ → σ)) :
    ClientAccessor σ τ → ClientAccessor σ τ :=
  setCallback fun callbacks => { callbacks with deletedCallback }

def setCallbackOnStart (startedCallback : Option (σ → σ)) :
    ClientAccessor σ τ → ClientAccessor σ τ :=
  setCallback fun callbacks => { callbacks with startedCallback }

/-- The destructor; what is left of the stream client. -/
def destroy (accessor : ClientAccessor σ τ) : Option τ :=
  match accessor.streamClient with
  | none => none
  | some stream =>
      if accessor.isRegistered then
        some (StreamSubscriber.unsubscribe accessor.registrationId stream)
      else
        some stream

/-! ### Sequences of calls -/

/-- A call of a setter; `none` is `nullptr`. -/
inductive Setter (σ : Type) where
  | onUpdate (updatedCallback : Option (String → Document → Document → Bool → Bool → σ → σ))
  | onCreate (createdCallback : Option (String → Document → σ → σ))
  | onDelete (deletedCallback : Option (String → Document → σ → σ))
  | onStart (startedCallback : Option (σ → σ))

/-- What the call stores. -/
def Setter.store : Setter σ → Callbacks σ → Callbacks σ
  | onUpdate updatedCallback, callbacks => { callbacks with updatedCallback }
  | onCreate createdCallback, callbacks => { callbacks with createdCallback }
  | onDelete deletedCallback, callbacks => { callbacks with deletedCallback }
  | onStart startedCallback, callbacks => { callbacks with startedCallback }

def Setter.call : Machine (ClientAccessor σ τ) (Setter σ) Unit := fun setter accessor =>
  match setter with
  | onUpdate updatedCallback => ((), accessor.setCallbackOnUpdate updatedCallback)
  | onCreate createdCallback => ((), accessor.setCallbackOnCreate createdCallback)
  | onDelete deletedCallback => ((), accessor.setCallbackOnDelete deletedCallback)
  | onStart startedCallback => ((), accessor.setCallbackOnStart startedCallback)

end ClientAccessor

end Secw
