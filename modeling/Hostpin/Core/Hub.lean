import Hostpin.Core.Persister
import Hostpin.Foundation.Mailbox

/-!
# The hub

The hub keeps the latest sample of every node and passes it on to the subscribers.  A publish writes
the sample and copies the list of subscriptions under the lock; then it sends a message to one
subscription after the other, without the lock, so subscribers and other publishes act in between.
A step of a publish is one operation on a channel.

A subscription has a queue for 32 messages.  When it is full, a publish takes the oldest message out
and sends again.

`Hub.streams` says what a subscriber gets when one publish ends before the next begins.
-/

namespace Hostpin

open Clock Runs

/-! ## State -/

/-- A sample that the hub has published. -/
structure LiveMessage where
  sentAt : Time
  nodeID : String
  sample : MetricSample
deriving DecidableEq

/-- A message and the number of messages published before it, which tells equal messages apart. -/
structure HubMessage where
  number : ℕ
  message : LiveMessage
deriving DecidableEq

/-- The number of messages that wait for a slow browser. -/
def feedCapacity : ℕ := 32

/-- A message that was taken out of a queue, and the queue as the first send has met it. -/
structure Discard where
  entry : HubMessage
  found : List HubMessage
deriving DecidableEq

/-- A subscription.  The nodes that it allows are all nodes when no list is given.  `announced` are
the messages published while it is registered, `discarded` the ones that were taken out of its queue
for a newer one, and `refused` the ones that found the queue full again. -/
structure Subscription where
  allowed : Option (List String)
  registered : Bool := true
  mailbox : Mailbox HubMessage := {}
  announced : List HubMessage := []
  discarded : List Discard := []
  refused : List HubMessage := []
deriving DecidableEq

/-- A publish under way: its message, the subscriptions that it still has to serve, and where it
stands with the first of these. -/
structure PublishCall where
  entry : HubMessage
  waiting : List ℕ
  phase : SendPhase := .send
  found : List HubMessage := []
deriving DecidableEq

/-- The hub.  `persisted` is the instant of the last sample of a node that was to be stored. -/
structure Hub where
  latest : String → Option MetricSample := fun _ => none
  persisted : String → Option Time := fun _ => none
  subscriptions : List Subscription := []
  calls : List PublishCall := []
  published : ℕ := 0

/-- What can happen: a publish or a replacement of the latest sample starts and copies the
subscriptions in some order, one under way takes its next step, a client subscribes, leaves or takes
a message, or the samples are loaded, deleted or made due for storage. -/
inductive HubEvent where
  | publish (sample : MetricSample) (persistEvery : Duration) (sentAt : Time) (order : List ℕ)
  | replaceLatest (sample : MetricSample) (sentAt : Time) (order : List ℕ)
  | proceed (i : ℕ)
  | subscribe (allowed : Option (List String))
  | unsubscribe (i : ℕ)
  | receive (i : ℕ)
  | load (samples : String → Option MetricSample)
  | delete (nodeID : String)
  | resetPersistence

/-! ## Subscriptions -/

/-- A subscription allows a node. -/
def Subscription.allows (sub : Subscription) (nodeID : String) : Bool :=
  sub.allowed.all fun allowed => nodeID ∈ allowed

/-- A message is about a node that the subscription allows. -/
def Subscription.wants (sub : Subscription) (entry : HubMessage) : Bool :=
  sub.allows entry.message.nodeID

/-- A message joins the queue. -/
def Subscription.push (sub : Subscription) (entry : HubMessage) : Subscription :=
  { sub with mailbox := sub.mailbox.push entry }

/-- A send that does not block. -/
def Subscription.trySend (sub : Subscription) (entry : HubMessage) : Option Subscription :=
  if sub.mailbox.queue.length < feedCapacity then some (sub.push entry) else none

/-- Take the oldest message out, if there is one. -/
def Subscription.evict (sub : Subscription) (found : List HubMessage) : Subscription :=
  match sub.mailbox.queue with
  | [] => sub
  | oldest :: _ =>
    { sub with
      mailbox := sub.mailbox.dropOldest
      discarded := sub.discarded ++ [⟨oldest, found⟩] }

/-- The next operation of a publish on the channel of a subscription, and where it stands then, if
it is not through with the subscription. -/
def Subscription.offer (sub : Subscription) (entry : HubMessage) (phase : SendPhase)
    (found : List HubMessage) : Subscription × Option (SendPhase × List HubMessage) :=
  if !sub.wants entry then (sub, none)
  else
    match phase with
    | .send =>
      match sub.trySend entry with
      | some sent => (sent, none)
      | none => (sub, some (.evict, sub.mailbox.queue))
    | .evict => (sub.evict found, some (.resend, found))
    | .resend =>
      match sub.trySend entry with
      | some sent => (sent, none)
      | none => ({ sub with refused := sub.refused ++ [entry] }, none)

/-- An operation on the channel of a subscription does nothing else to it. -/
lemma Subscription.offer_frame (sub : Subscription) (entry : HubMessage) (phase : SendPhase)
    (found : List HubMessage) :
    (sub.offer entry phase found).1.allowed = sub.allowed ∧
      (sub.offer entry phase found).1.registered = sub.registered ∧
      (sub.offer entry phase found).1.announced = sub.announced := by
  unfold Subscription.offer Subscription.trySend Subscription.evict
  split
  · exact ⟨rfl, rfl, rfl⟩
  by_cases room : sub.mailbox.queue.length < feedCapacity
  · cases phase <;> simp only [room, if_true]
    · exact ⟨rfl, rfl, rfl⟩
    · cases sub.mailbox.queue <;> exact ⟨rfl, rfl, rfl⟩
    · exact ⟨rfl, rfl, rfl⟩
  · cases phase <;> simp only [room, if_false, and_self]
    cases sub.mailbox.queue <;> exact ⟨rfl, rfl, rfl⟩

/-! ## Steps -/

/-- The subscriptions that are registered. -/
def Hub.registered (h : Hub) : List ℕ :=
  (List.range h.subscriptions.length).filter fun i =>
    (h.subscriptions[i]?).any Subscription.registered

/-- The message of a sample. -/
def Hub.entry (h : Hub) (sample : MetricSample) (sentAt : Time) : HubMessage :=
  ⟨h.published, sentAt, sample.nodeID, sample⟩

/-- A subscription that is registered takes part in a publish. -/
def Subscription.announce (sub : Subscription) (entry : HubMessage) : Subscription :=
  if sub.registered then { sub with announced := sub.announced ++ [entry] } else sub

/-- Write a sample and copy the subscriptions.  A map is ranged over in any order. -/
def Hub.announce (h : Hub) (sample : MetricSample) (sentAt : Time) (order : List ℕ) : Hub :=
  let entry := h.entry sample sentAt
  { h with
    latest := Function.update h.latest sample.nodeID (some sample)
    subscriptions := h.subscriptions.map (·.announce entry)
    calls := h.calls ++ [⟨entry, order, .send, []⟩]
    published := h.published + 1 }

/-- Whether a published sample is to be stored. -/
def Hub.shouldPersist (h : Hub) (sample : MetricSample) (persistEvery : Duration) : Bool :=
  let lastPersisted := (h.persisted sample.nodeID).getD 0
  isZero lastPersisted || persistEvery ≤ sub sample.receivedAt lastPersisted

/-- The first part of a publish. -/
def Hub.publish (h : Hub) (sample : MetricSample) (persistEvery : Duration) (sentAt : Time)
    (order : List ℕ) : Hub :=
  let announced := h.announce sample sentAt order
  if h.shouldPersist sample persistEvery then
    { announced with
      persisted := Function.update h.persisted sample.nodeID (some sample.receivedAt) }
  else announced

/-- The next step of a publish, and what is left of it, if it does not return. -/
def Hub.proceed (h : Hub) (call : PublishCall) : Hub × Option PublishCall :=
  match call.waiting with
  | [] => (h, none)
  | i :: rest =>
    match h.subscriptions[i]? with
    | none => (h, some ⟨call.entry, rest, .send, []⟩)
    | some sub =>
      let (served, stage) := sub.offer call.entry call.phase call.found
      ({ h with subscriptions := h.subscriptions.set i served },
        match stage with
        | none => some ⟨call.entry, rest, .send, []⟩
        | some (phase, found) => some ⟨call.entry, i :: rest, phase, found⟩)

/-- A client subscribes. -/
def Hub.subscribe (h : Hub) (allowed : Option (List String)) : Hub :=
  { h with subscriptions := h.subscriptions ++ [{ allowed }] }

/-- Change a subscription. -/
def Hub.modify (h : Hub) (i : ℕ) (f : Subscription → Subscription) : Hub :=
  { h with subscriptions := h.subscriptions.modify i f }

/-- A client leaves. -/
def Subscription.leave (sub : Subscription) : Subscription := { sub with registered := false }

/-- A client takes the oldest message out. -/
def Subscription.receive (sub : Subscription) : Subscription :=
  { sub with mailbox := sub.mailbox.receive }

/-- Forget the sample of a node. -/
def Hub.delete (h : Hub) (nodeID : String) : Hub :=
  { h with
    latest := Function.update h.latest nodeID none
    persisted := Function.update h.persisted nodeID none }

/-- Take over samples that were stored. -/
def Hub.load (h : Hub) (samples : String → Option MetricSample) : Hub :=
  { h with
    latest := fun id => (samples id).or (h.latest id)
    persisted := fun id => ((samples id).map (·.receivedAt)).or (h.persisted id) }

/-- The hub after an event. -/
def Hub.step (h : Hub) : HubEvent → Hub
  | .publish sample persistEvery sentAt order =>
    if order.Perm h.registered then h.publish sample persistEvery sentAt order else h
  | .replaceLatest sample sentAt order =>
    if order.Perm h.registered then h.announce sample sentAt order else h
  | .proceed i =>
    match h.calls[i]? with
    | none => h
    | some call =>
      let (served, left) := h.proceed call
      match left with
      | none => { served with calls := h.calls.eraseIdx i }
      | some call => { served with calls := h.calls.set i call }
  | .subscribe allowed => h.subscribe allowed
  | .unsubscribe i => h.modify i Subscription.leave
  | .receive i => h.modify i Subscription.receive
  | .load samples => h.load samples
  | .delete nodeID => h.delete nodeID
  | .resetPersistence => { h with persisted := fun _ => none }

end Hostpin
