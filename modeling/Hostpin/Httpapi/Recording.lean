import Hostpin.Foundation.Answers
import Hostpin.Httpapi.DeletedNodes

/-!
# The samples that are recorded

The hub decides which published samples are checkpoints: a node has one when it has none yet, or
when the last one is `persistEvery` ago.  A checkpoint is given to the persister while recording is
on.  Recording is switched by `setRecordEnabled`, which makes every node due when it is switched on.

* `RecordingServer` is the part of the server that takes part in this, and `RecordingServer.step` one
  request: a sample is accepted, the latest sample is replaced, a node is deleted, recording is
  switched, or something happens that concerns the tracker or the subscribers of the hub.
* `RecordingAnswer` is what an observer of a request sees.
* `checkpoints_spaced` says which published samples are checkpoints and which are given to the
  persister, in terms of the history alone.
-/

namespace Hostpin

open Clock Runs

/-! ## The system -/

/-- The hub, the tracker and the switch of a server, and the samples that it has given to the
persister. -/
structure RecordingServer where
  hub : Hub := {}
  tracker : TrafficTracker := {}
  recordEnabled : Bool := true
  enqueued : List MetricSample := []

/-- What happens to the subscriptions of the hub. -/
inductive SubscriptionEvent where
  | proceed (i : ℕ)
  | subscribe (allowed : Option (List String))
  | unsubscribe (i : ℕ)
  | receive (i : ℕ)

/-- The event of the hub. -/
def SubscriptionEvent.toHub : SubscriptionEvent → HubEvent
  | .proceed i => .proceed i
  | .subscribe allowed => .subscribe allowed
  | .unsubscribe i => .unsubscribe i
  | .receive i => .receive i

/-- A request. -/
inductive RecordingEvent where
  | publish (node : Node) (persistEvery : Duration) (sample : MetricSample) (now clock sentAt : Time)
    (order : List ℕ)
  | replaceLatest (sample : MetricSample) (sentAt : Time) (order : List ℕ)
  | configureNode (node : Node)
  | delete (nodeID : String)
  | setRecordEnabled (enabled : Bool)
  | subscription (event : SubscriptionEvent)

namespace RecordingServer

/-- The sample that is taken in, and the tracker after it. -/
def applied (s : RecordingServer) (node : Node) (sample : MetricSample) (now clock : Time) :
    TrafficTracker × MetricSample :=
  s.tracker.apply node (stampSample node sample now) now clock

/-- The sample that is published: the one that was taken in, with corrected totals. -/
def corrected (s : RecordingServer) (node : Node) (sample : MetricSample) (now clock : Time) :
    MetricSample :=
  (s.applied node sample now clock).1.correct node.id (s.applied node sample now clock).2 clock

/-- Whether the sample is a checkpoint, which is the answer of the hub. -/
def checkpoint (s : RecordingServer) (node : Node) (persistEvery : Duration) (sample : MetricSample)
    (now clock : Time) : Bool :=
  s.hub.shouldPersist (s.corrected node sample now clock) persistEvery

/-- Take a sample in, publish it corrected, and give it to the persister as it was taken in when it
is a checkpoint and recording is on. -/
def publish (s : RecordingServer) (node : Node) (persistEvery : Duration) (sample : MetricSample)
    (now clock sentAt : Time) (order : List ℕ) : RecordingServer :=
  let (tracker, rawSample) := s.applied node sample now clock
  let persist := s.checkpoint node persistEvery sample now clock && s.recordEnabled
  { s with
    hub := s.hub.publish (s.corrected node sample now clock) persistEvery sentAt order
    tracker
    enqueued := if persist then s.enqueued ++ [rawSample] else s.enqueued }

/-- Accept a sample of a node under its configuration. -/
def acceptSample (s : RecordingServer) (node : Node) (persistIntervalSeconds : ℤ)
    (sample : MetricSample) (now clock sentAt : Time) (order : List ℕ) : RecordingServer :=
  let persistEvery := scale (max persistIntervalSeconds 1) second
  s.publish node persistEvery sample now clock sentAt order

/-- Switch recording.  When it was off and is on now, every node is due. -/
def setRecordEnabled (s : RecordingServer) (enabled : Bool) : RecordingServer :=
  let previous := s.recordEnabled
  if enabled && !previous then
    { s with recordEnabled := enabled, hub := s.hub.step .resetPersistence }
  else { s with recordEnabled := enabled }

/-- The server after a request. -/
def step (s : RecordingServer) : RecordingEvent → RecordingServer
  | .publish node persistEvery sample now clock sentAt order =>
    s.publish node persistEvery sample now clock sentAt order
  | .replaceLatest sample sentAt order => { s with hub := s.hub.announce sample sentAt order }
  | .configureNode node => { s with tracker := s.tracker.configureNode node }
  | .delete nodeID =>
    { s with hub := s.hub.delete nodeID, tracker := s.tracker.delete nodeID }
  | .setRecordEnabled enabled => s.setRecordEnabled enabled
  | .subscription event => { s with hub := s.hub.step event.toHub }

/-- A report is one request, with the duration between two checkpoints in seconds and at least one
second. -/
lemma step_acceptSample (s : RecordingServer) (node : Node) (persistIntervalSeconds : ℤ)
    (sample : MetricSample) (now clock sentAt : Time) (order : List ℕ) :
    s.acceptSample node persistIntervalSeconds sample now clock sentAt order =
      s.step (.publish node (scale (max persistIntervalSeconds 1) second) sample now clock sentAt
        order) := rfl

/-- A server whose hub has taken over some samples, one map after the other. -/
def loaded (loads : List (String → Option MetricSample)) (tracker : TrafficTracker)
    (recordEnabled : Bool) : RecordingServer where
  hub := loads.foldl Hub.load {}
  tracker
  recordEnabled

/-- The start of the server: the hub takes the stored samples over, the tracker the samples of the
hub, and the hub the samples with corrected totals. -/
def start (latest : String → Option MetricSample) (nodes : String → Node) (clock : Time)
    (recordEnabled : Bool) : RecordingServer :=
  let hub := ({} : Hub).load latest
  let tracker := ({} : TrafficTracker).load hub.latest nodes clock
  { hub := hub.load fun id => (hub.latest id).map fun sample => tracker.correct id sample clock
    tracker
    recordEnabled }

end RecordingServer

/-! ## What an observer sees -/

/-- What an observer sees: the samples that the hub takes over, a published sample as it was taken
in, whether it is a checkpoint and whether recording is on, the deletion of a node, and recording
before and after it was switched. -/
inductive RecordingAnswer where
  | loaded (samples : String → Option MetricSample)
  | published (rawSample : MetricSample) (checkpoint recording : Bool)
  | deleted (nodeID : String)
  | switched (previous enabled : Bool)
  | other

namespace RecordingAnswer

/-- The instant of a checkpoint of a node. -/
def checkpointOf (nodeID : String) : RecordingAnswer → Option Time
  | .loaded samples => (samples nodeID).map (·.receivedAt)
  | .published rawSample true _ =>
    if rawSample.nodeID = nodeID then some rawSample.receivedAt else none
  | _ => none

/-- A node is due after its deletion and after recording was switched on. -/
def MakesDue (nodeID : String) : RecordingAnswer → Prop
  | .deleted id => id = nodeID
  | .switched previous enabled => previous = false ∧ enabled = true
  | _ => False

/-- A sample of a node was published. -/
def Publishes (nodeID : String) : RecordingAnswer → Prop
  | .published rawSample _ _ => rawSample.nodeID = nodeID
  | _ => False

/-- The sample that was given to the persister. -/
def enqueued : RecordingAnswer → Option MetricSample
  | .published rawSample true true => some rawSample
  | _ => none

end RecordingAnswer

/-- What an observer of a request sees. -/
def RecordingServer.answer (s : RecordingServer) : RecordingEvent → RecordingAnswer
  | .publish node persistEvery sample now clock _ _ =>
    .published (s.applied node sample now clock).2
      (s.checkpoint node persistEvery sample now clock) s.recordEnabled
  | .delete nodeID => .deleted nodeID
  | .setRecordEnabled enabled => .switched s.recordEnabled enabled
  | .replaceLatest _ _ _ | .configureNode _ | .subscription _ => .other

/-- The history of a run: the samples that the hub has taken over, and the answers. -/
def recordingHistory (loads : List (String → Option MetricSample)) (tracker : TrafficTracker)
    (recordEnabled : Bool) (events : List RecordingEvent) : List RecordingAnswer :=
  loads.map .loaded ++
    answers RecordingServer.step RecordingServer.answer
      (RecordingServer.loaded loads tracker recordEnabled) events

/-! ## The law -/

namespace RecordingAnswer

/-- The instant at which a sample of a node was received that is taken over or published. -/
def receiptOf (nodeID : String) : RecordingAnswer → Option Time
  | .loaded samples => (samples nodeID).map (·.receivedAt)
  | .published rawSample _ _ =>
    if rawSample.nodeID = nodeID then some rawSample.receivedAt else none
  | _ => none

/-- What is said of a published sample of a node: its instant, whether it is a checkpoint and whether
recording is on. -/
def verdictOf (nodeID : String) : RecordingAnswer → Option (Time × Bool × Bool)
  | .published rawSample checkpoint recording =>
    if rawSample.nodeID = nodeID then some (rawSample.receivedAt, checkpoint, recording) else none
  | _ => none

end RecordingAnswer

/-- The instants of the samples of every node are not the zero instant and do not decrease. -/
def OrderedReceipts (history : List RecordingAnswer) : Prop :=
  ∀ nodeID, (∀ t ∈ history.filterMap (·.receiptOf nodeID), t ≠ 0) ∧
    (history.filterMap (·.receiptOf nodeID)).Pairwise (· ≤ ·)

/-- The samples of a node are published with the duration of the node. -/
def RecordingEvent.HasInterval (persistEvery : String → Duration) : RecordingEvent → Prop
  | .publish node every _ _ _ _ _ => every = persistEvery node.id
  | _ => True

/-- A request that bears on the checkpoints of a node. -/
def RecordingEvent.concerns (nodeID : String) : RecordingEvent → Bool
  | .publish node _ _ _ _ _ _ => node.id == nodeID
  | .delete id => id == nodeID
  | .setRecordEnabled _ => true
  | .replaceLatest _ _ _ | .configureNode _ | .subscription _ => false

/-- The checkpoints of a history are spaced: those of a node that follow each other are
`persistEvery` apart, unless the node was made due in between, and a sample that is due is a
checkpoint. -/
structure CheckpointsSpaced (persistEvery : String → Duration) (history : List RecordingAnswer) :
    Prop where
  apart : ∀ {before between after first rawSample recording u},
    history = before ++ first :: between ++ .published rawSample true recording :: after →
    first.checkpointOf rawSample.nodeID = some u →
    (∀ a ∈ between, a.checkpointOf rawSample.nodeID = none ∧ ¬a.MakesDue rawSample.nodeID) →
    persistEvery rawSample.nodeID ≤ rawSample.receivedAt - u
  after_checkpoint : ∀ {before between after first rawSample checkpoint recording u},
    history = before ++ first :: between ++ .published rawSample checkpoint recording :: after →
    first.checkpointOf rawSample.nodeID = some u →
    (∀ a ∈ between, a.checkpointOf rawSample.nodeID = none) →
    persistEvery rawSample.nodeID ≤ rawSample.receivedAt - u → checkpoint = true
  after_start : ∀ {before after rawSample checkpoint recording},
    history = before ++ .published rawSample checkpoint recording :: after →
    (∀ a ∈ before, a.checkpointOf rawSample.nodeID = none) → checkpoint = true
  after_due : ∀ {before between after first rawSample checkpoint recording},
    history = before ++ first :: between ++ .published rawSample checkpoint recording :: after →
    first.MakesDue rawSample.nodeID →
    (∀ a ∈ between, a.checkpointOf rawSample.nodeID = none) → checkpoint = true

/-! ## The last checkpoint -/

namespace RecordingAnswer

/-- The last checkpoint of a node after an answer, if the node is not due. -/
def next (nodeID : String) (last : Option Time) (a : RecordingAnswer) : Option Time :=
  match a with
  | .deleted id => if id = nodeID then none else last
  | .switched false true => none
  | a => (a.checkpointOf nodeID).or last

variable {nodeID : String} {last : Option Time} {a : RecordingAnswer} {u : Time}

lemma next_of_checkpoint (h : a.checkpointOf nodeID = some u) : a.next nodeID last = some u := by
  unfold next
  split
  · simp [checkpointOf] at h
  · simp [checkpointOf] at h
  · rw [h, Option.some_or]

lemma next_of_makesDue (h : a.MakesDue nodeID) : a.next nodeID last = none := by
  unfold MakesDue at h
  split at h
  · simp [next, h]
  · simp [next, h]
  · exact h.elim

lemma next_of_quiet (hnone : a.checkpointOf nodeID = none) (hdue : ¬a.MakesDue nodeID) :
    a.next nodeID last = last := by
  unfold next
  split
  · exact if_neg hdue
  · exact absurd ⟨rfl, rfl⟩ hdue
  · rw [hnone, Option.none_or]

lemma next_none (hnone : a.checkpointOf nodeID = none) : a.next nodeID none = none := by
  by_cases hdue : a.MakesDue nodeID
  · exact next_of_makesDue hdue
  · exact next_of_quiet hnone hdue

/-- Only a sample that is taken over or published is a checkpoint. -/
lemma checkpointOf_none (hloaded : ∀ samples, a ≠ .loaded samples) (hpublishes : ¬a.Publishes nodeID) :
    a.checkpointOf nodeID = none := by
  unfold checkpointOf
  split
  · exact absurd rfl (hloaded _)
  · exact if_neg hpublishes
  · rfl

/-- Recording after an answer. -/
def switch (recording : Bool) : RecordingAnswer → Bool
  | .switched _ enabled => enabled
  | _ => recording

/-- Recording stays on when it is not switched off. -/
lemma switch_true (h : ∀ previous, a ≠ .switched previous false) : a.switch true = true := by
  unfold switch
  split
  · rename_i previous enabled
    cases enabled with
    | false => exact absurd rfl (h previous)
    | true => rfl
  · rfl

/-- A checkpoint of a node is a receipt of the node. -/
lemma receiptOf_of_checkpointOf (h : a.checkpointOf nodeID = some u) :
    a.receiptOf nodeID = some u := by
  unfold checkpointOf at h
  split at h
  · exact h
  · exact h
  · simp at h

end RecordingAnswer

/-- The last checkpoint of a node, if the node is not due. -/
def lastCheckpoint (nodeID : String) (history : List RecordingAnswer) : Option Time :=
  history.foldl (fun last a => a.next nodeID last) none

section

variable {nodeID : String} {history before between : List RecordingAnswer} {first : RecordingAnswer}
  {u : Time}

lemma lastCheckpoint_append_singleton (history : List RecordingAnswer) (a : RecordingAnswer) :
    lastCheckpoint nodeID (history ++ [a]) = a.next nodeID (lastCheckpoint nodeID history) := by
  unfold lastCheckpoint
  rw [List.foldl_append]
  rfl

/-- After a checkpoint that nothing follows which bears on the node. -/
lemma lastCheckpoint_quiet (hfirst : first.checkpointOf nodeID = some u)
    (hquiet : ∀ a ∈ between, a.checkpointOf nodeID = none ∧ ¬a.MakesDue nodeID) :
    lastCheckpoint nodeID (before ++ first :: between) = some u := by
  induction between using List.reverseRecOn with
  | nil => rw [lastCheckpoint_append_singleton, RecordingAnswer.next_of_checkpoint hfirst]
  | append_singleton between a ih =>
    obtain ⟨hnone, hdue⟩ := hquiet a (by simp)
    rw [← List.cons_append, ← List.append_assoc, lastCheckpoint_append_singleton,
      RecordingAnswer.next_of_quiet hnone hdue]
    exact ih fun b hb => hquiet b (by simp [hb])

/-- After a checkpoint that no checkpoint follows, the last one is that one, or the node is due. -/
lemma lastCheckpoint_checkpoint (before : List RecordingAnswer)
    (hfirst : first.checkpointOf nodeID = some u)
    (hnone : ∀ a ∈ between, a.checkpointOf nodeID = none) :
    lastCheckpoint nodeID (before ++ first :: between) = some u ∨
      lastCheckpoint nodeID (before ++ first :: between) = none := by
  induction between using List.reverseRecOn with
  | nil =>
    left
    rw [lastCheckpoint_append_singleton, RecordingAnswer.next_of_checkpoint hfirst]
  | append_singleton between a ih =>
    have ha := hnone a (by simp)
    rw [← List.cons_append, ← List.append_assoc, lastCheckpoint_append_singleton]
    by_cases hdue : a.MakesDue nodeID
    · right
      exact RecordingAnswer.next_of_makesDue hdue
    · rw [RecordingAnswer.next_of_quiet ha hdue]
      exact ih fun b hb => hnone b (by simp [hb])

/-- Without a checkpoint a node that is due stays due. -/
lemma lastCheckpoint_none (hbefore : lastCheckpoint nodeID before = none)
    (hnone : ∀ a ∈ between, a.checkpointOf nodeID = none) :
    lastCheckpoint nodeID (before ++ between) = none := by
  induction between using List.reverseRecOn with
  | nil => rwa [List.append_nil]
  | append_singleton between a ih =>
    have hind := ih fun b hb => hnone b (by simp [hb])
    rw [← List.append_assoc, lastCheckpoint_append_singleton, hind,
      RecordingAnswer.next_none (hnone a (by simp))]

/-- The last checkpoint is a receipt of the node. -/
lemma lastCheckpoint_mem (h : lastCheckpoint nodeID history = some u) :
    u ∈ history.filterMap (·.receiptOf nodeID) := by
  induction history using List.reverseRecOn with
  | nil => simp [lastCheckpoint] at h
  | append_singleton history a ih =>
    rw [lastCheckpoint_append_singleton] at h
    rw [List.filterMap_append, List.mem_append]
    cases hcheckpoint : a.checkpointOf nodeID with
    | some v =>
      rw [RecordingAnswer.next_of_checkpoint hcheckpoint, Option.some.injEq] at h
      right
      simp [RecordingAnswer.receiptOf_of_checkpointOf hcheckpoint, h]
    | none =>
      by_cases hdue : a.MakesDue nodeID
      · rw [RecordingAnswer.next_of_makesDue hdue] at h
        simp at h
      · rw [RecordingAnswer.next_of_quiet hcheckpoint hdue] at h
        exact Or.inl (ih h)

end

/-! ## The server -/

namespace RecordingServer

variable (s : RecordingServer) (node : Node) (every : Duration) (sample : MetricSample)
  (now clock sentAt : Time) (order : List ℕ) {nodeID : String}

@[simp] lemma applied_nodeID : (s.applied node sample now clock).2.nodeID = node.id := by
  unfold applied TrafficTracker.apply
  dsimp only
  split
  · rfl
  · split <;> rfl

@[simp] lemma applied_receivedAt : (s.applied node sample now clock).2.receivedAt = now := by
  unfold applied TrafficTracker.apply
  dsimp only
  split
  · rfl
  · split <;> rfl

/-- A sample with corrected totals has the node and the instant that it had. -/
lemma correct_frame (tracker : TrafficTracker) (nodeID : String) (sample : MetricSample)
    (clock : Time) : (tracker.correct nodeID sample clock).nodeID = sample.nodeID ∧
      (tracker.correct nodeID sample clock).receivedAt = sample.receivedAt := by
  unfold TrafficTracker.correct
  split <;> exact ⟨rfl, rfl⟩

@[simp] lemma corrected_nodeID : (s.corrected node sample now clock).nodeID = node.id :=
  (correct_frame _ _ _ _).1.trans (applied_nodeID s node sample now clock)

@[simp] lemma corrected_receivedAt : (s.corrected node sample now clock).receivedAt = now :=
  (correct_frame _ _ _ _).2.trans (applied_receivedAt s node sample now clock)

/-- Whether a sample is a checkpoint depends on the last checkpoint of its node and on its
instant. -/
lemma checkpoint_eq : s.checkpoint node every sample now clock =
    (isZero ((s.hub.persisted node.id).getD 0) ||
      decide (every ≤ sub now ((s.hub.persisted node.id).getD 0))) := by
  simp only [checkpoint, Hub.shouldPersist, corrected_nodeID, corrected_receivedAt]

/-- The checkpoints of the hub after a sample was published. -/
lemma persisted_publish : (s.publish node every sample now clock sentAt order).hub.persisted =
    if s.checkpoint node every sample now clock then
      Function.update s.hub.persisted node.id (some now)
    else s.hub.persisted := by
  simp only [publish, Hub.publish, checkpoint]
  by_cases h : s.hub.shouldPersist (s.corrected node sample now clock) every = true
  · simp only [h, if_true, corrected_nodeID, corrected_receivedAt]
  · simp only [h]
    rfl

@[simp] lemma recordEnabled_publish :
    (s.publish node every sample now clock sentAt order).recordEnabled = s.recordEnabled := rfl

/-- The subscribers do not bear on the checkpoints. -/
lemma persisted_subscription (h : Hub) (event : SubscriptionEvent) :
    (h.step event.toHub).persisted = h.persisted := by
  cases event with
  | proceed i =>
    have hproceed : ∀ call, (h.proceed call).1.persisted = h.persisted := by
      intro call
      unfold Hub.proceed
      split
      · rfl
      · split <;> rfl
    simp only [SubscriptionEvent.toHub, Hub.step]
    split
    · rfl
    · split <;> exact hproceed _
  | subscribe allowed => rfl
  | unsubscribe i => rfl
  | receive i => rfl

/-- The checkpoint of a node in the hub is the last one of the history, after one more request. -/
lemma persisted_step (event : RecordingEvent) (nodeID : String) :
    (s.step event).hub.persisted nodeID = (s.answer event).next nodeID (s.hub.persisted nodeID) := by
  cases event with
  | publish node every sample now clock sentAt order =>
    simp only [step, answer, persisted_publish, RecordingAnswer.next]
    cases s.checkpoint node every sample now clock with
    | false => simp [RecordingAnswer.checkpointOf]
    | true =>
      by_cases hnode : node.id = nodeID
      · simp [RecordingAnswer.checkpointOf, hnode]
      · simp [RecordingAnswer.checkpointOf, hnode, Function.update_of_ne (Ne.symm hnode)]
  | replaceLatest sample sentAt order => rfl
  | configureNode node => rfl
  | delete id =>
    by_cases hnode : id = nodeID
    · simp [step, answer, RecordingAnswer.next, Hub.delete, hnode]
    · simp [step, answer, RecordingAnswer.next, Hub.delete, hnode,
        Function.update_of_ne (Ne.symm hnode)]
  | setRecordEnabled enabled =>
    cases hprevious : s.recordEnabled <;> cases enabled <;>
      simp [step, answer, setRecordEnabled, hprevious, RecordingAnswer.next, Hub.step,
        RecordingAnswer.checkpointOf]
  | subscription event =>
    simp only [step, answer, persisted_subscription]
    rfl

/-- The checkpoints that a hub has taken over. -/
lemma persisted_loaded (loads : List (String → Option MetricSample)) (tracker : TrafficTracker)
    (recordEnabled : Bool) (nodeID : String) :
    (loaded loads tracker recordEnabled).hub.persisted nodeID =
      lastCheckpoint nodeID (loads.map .loaded) := by
  induction loads using List.reverseRecOn with
  | nil => rfl
  | append_singleton loads samples ih =>
    rw [List.map_append, List.map_singleton, lastCheckpoint_append_singleton, ← ih]
    simp only [loaded, List.foldl_append, List.foldl_cons, List.foldl_nil]
    rfl

/-- The checkpoint of a node in the hub is the last one of the history. -/
theorem persisted_run (loads : List (String → Option MetricSample)) (tracker : TrafficTracker)
    (recordEnabled : Bool) (events : List RecordingEvent) (nodeID : String) :
    (run step (loaded loads tracker recordEnabled) events).hub.persisted nodeID =
      lastCheckpoint nodeID (recordingHistory loads tracker recordEnabled events) := by
  have along : Along step (fun _ _ => True) (loaded loads tracker recordEnabled) events :=
    Along.of_forall (fun _ _ => trivial) _
  refine answers_invariant (I := fun history s =>
    s.hub.persisted nodeID = lastCheckpoint nodeID history) ?_
    (persisted_loaded loads tracker recordEnabled nodeID) along
  intro history s event h _
  rw [persisted_step, lastCheckpoint_append_singleton, h]

/-- The samples that were given to the persister are those of the history. -/
lemma enqueued_step (event : RecordingEvent) :
    (s.step event).enqueued = s.enqueued ++ (s.answer event).enqueued.toList := by
  cases event with
  | publish node every sample now clock sentAt order =>
    simp only [step, answer, publish]
    cases s.checkpoint node every sample now clock <;> cases s.recordEnabled <;>
      simp [RecordingAnswer.enqueued]
  | setRecordEnabled enabled =>
    simp only [step, answer, setRecordEnabled]
    split <;> simp [RecordingAnswer.enqueued]
  | _ => simp [step, answer, RecordingAnswer.enqueued]

/-- Recording after a request. -/
lemma recordEnabled_step (event : RecordingEvent) :
    (s.step event).recordEnabled = (s.answer event).switch s.recordEnabled := by
  cases event with
  | setRecordEnabled enabled =>
    simp only [step, answer, setRecordEnabled]
    split <;> rfl
  | _ => rfl

end RecordingServer

/-! ## The published samples of a history -/

section

variable {loads : List (String → Option MetricSample)} {tracker : TrafficTracker}
  {recordEnabled : Bool} {events : List RecordingEvent} {persistEvery : String → Duration}
  {before after : List RecordingAnswer} {rawSample : MetricSample} {checkpoint recording : Bool}

/-- Nothing is taken over after the start. -/
lemma answer_ne_loaded (s : RecordingServer) (event : RecordingEvent)
    (samples : String → Option MetricSample) : s.answer event ≠ .loaded samples := by
  cases event <;> simp [RecordingServer.answer]

/-- What is not taken over at the start is the answer to a request. -/
lemma recordingHistory_split {a : RecordingAnswer} (ha : ∀ samples, a ≠ .loaded samples)
    (h : recordingHistory loads tracker recordEnabled events = before ++ a :: after) :
    ∃ earlier event later, events = earlier ++ event :: later ∧
      before = recordingHistory loads tracker recordEnabled earlier ∧
      a = (run RecordingServer.step (.loaded loads tracker recordEnabled) earlier).answer event ∧
      after = answers RecordingServer.step RecordingServer.answer
        ((run RecordingServer.step (.loaded loads tracker recordEnabled) earlier).step event)
        later := by
  unfold recordingHistory at h
  obtain ⟨rest, hbefore, hanswers⟩ | ⟨rest, hloads, hrest⟩ := List.append_eq_append_iff.mp h
  · obtain ⟨earlier, event, later, hevents, hearlier, hanswer, hlater⟩ := answers_split hanswers
    exact ⟨earlier, event, later, hevents, by rw [hbefore, hearlier]; rfl, hanswer, hlater⟩
  · cases rest with
    | nil =>
      rw [List.nil_append] at hrest
      obtain ⟨earlier, event, later, hevents, hearlier, hanswer, hlater⟩ :=
        answers_split (hrest.symm.trans (List.nil_append _).symm)
      refine ⟨earlier, event, later, hevents, ?_, hanswer, hlater⟩
      rw [recordingHistory, ← hearlier, hloads, List.append_nil, List.append_nil]
    | cons b rest =>
      rw [List.cons_append, List.cons.injEq] at hrest
      have hmem : b ∈ loads.map RecordingAnswer.loaded := by rw [hloads]; simp
      rw [← hrest.1] at hmem
      obtain ⟨samples, -, hsamples⟩ := List.mem_map.mp hmem
      exact absurd hsamples.symm (ha samples)

/-- Nothing is taken over after something that is an answer to a request. -/
lemma ne_loaded_of_mem_after {a b : RecordingAnswer} (ha : ∀ samples, a ≠ .loaded samples)
    (h : recordingHistory loads tracker recordEnabled events = before ++ a :: after)
    (hb : b ∈ after) (samples : String → Option MetricSample) : b ≠ .loaded samples := by
  obtain ⟨earlier, event, later, -, -, -, hafter⟩ := recordingHistory_split ha h
  obtain ⟨front, back, hsplit⟩ := List.append_of_mem hb
  rw [hafter] at hsplit
  obtain ⟨_, event', _, _, _, hanswer, _⟩ := answers_split hsplit
  rw [hanswer]
  exact answer_ne_loaded _ event' samples

/-- A published sample is a checkpoint when its node is due, or its last checkpoint is
`persistEvery` ago. -/
lemma checkpoint_iff
    (hrange : ∀ nodeID, persistEvery nodeID ≤ maxInt64)
    (hinterval : ∀ event ∈ events, event.HasInterval persistEvery)
    (hordered : OrderedReceipts (recordingHistory loads tracker recordEnabled events))
    (h : recordingHistory loads tracker recordEnabled events =
      before ++ .published rawSample checkpoint recording :: after) :
    checkpoint = true ↔ ∀ u, lastCheckpoint rawSample.nodeID before = some u →
      persistEvery rawSample.nodeID ≤ rawSample.receivedAt - u := by
  obtain ⟨earlier, event, later, hevents, hbefore, hanswer, -⟩ :=
    recordingHistory_split (by simp) h
  have hlast := RecordingServer.persisted_run loads tracker recordEnabled earlier
  rw [← hbefore] at hlast
  cases event with
  | publish node every sample now clock sentAt order =>
    have hmem : RecordingEvent.publish node every sample now clock sentAt order ∈ events := by
      rw [hevents]
      exact List.mem_append_right _ List.mem_cons_self
    have hevery : every = persistEvery node.id := hinterval _ hmem
    simp only [RecordingServer.answer, RecordingAnswer.published.injEq] at hanswer
    obtain ⟨hraw, hcheckpoint, -⟩ := hanswer
    have hnode : rawSample.nodeID = node.id := by rw [hraw]; simp
    have hnow : rawSample.receivedAt = now := by rw [hraw]; simp
    rw [hcheckpoint, RecordingServer.checkpoint_eq, hlast, hnode, hnow, hevery]
    cases hcase : lastCheckpoint node.id before with
    | none => simp [isZero]
    | some u =>
      have hreceipt := lastCheckpoint_mem hcase
      obtain ⟨hnonzero, hpairwise⟩ := hordered node.id
      rw [h, List.filterMap_append] at hnonzero hpairwise
      have hu : u ≠ 0 := hnonzero u (List.mem_append_left _ hreceipt)
      have hle : u ≤ now := by
        refine (List.pairwise_append.mp hpairwise).2.2 u hreceipt now ?_
        simp [RecordingAnswer.receiptOf, hnode, hnow]
      have hzero : isZero u = false := by simpa [isZero] using hu
      simp only [Option.getD_some, hzero, Bool.false_or, decide_eq_true_eq, Option.some.injEq,
        forall_eq']
      exact le_sub_iff_of_le (hrange node.id) hle
  | _ => simp [RecordingServer.answer] at hanswer

/-- The checkpoints of every history are spaced. -/
lemma checkpointsSpaced_recordingHistory
    (hrange : ∀ nodeID, persistEvery nodeID ≤ maxInt64)
    (hinterval : ∀ event ∈ events, event.HasInterval persistEvery)
    (hordered : OrderedReceipts (recordingHistory loads tracker recordEnabled events)) :
    CheckpointsSpaced persistEvery (recordingHistory loads tracker recordEnabled events) where
  apart := by
    intro before between after first rawSample recording u h hfirst hquiet
    exact (checkpoint_iff hrange hinterval hordered h).mp rfl u
      (lastCheckpoint_quiet hfirst hquiet)
  after_checkpoint := by
    intro before between after first rawSample checkpoint recording u h hfirst hnone hdue
    refine (checkpoint_iff hrange hinterval hordered h).mpr fun v hv => ?_
    obtain hsome | hnone' := lastCheckpoint_checkpoint before hfirst hnone
    · rw [hsome, Option.some.injEq] at hv
      rwa [← hv]
    · rw [hnone'] at hv
      simp at hv
  after_start := by
    intro before after rawSample checkpoint recording h hnone
    refine (checkpoint_iff hrange hinterval hordered h).mpr fun v hv => ?_
    have hempty : lastCheckpoint rawSample.nodeID [] = none := rfl
    have hstart := lastCheckpoint_none hempty hnone
    rw [List.nil_append, hv] at hstart
    simp at hstart
  after_due := by
    intro before between after first rawSample checkpoint recording h hfirst hnone
    refine (checkpoint_iff hrange hinterval hordered h).mpr fun v hv => ?_
    have hdue : lastCheckpoint rawSample.nodeID (before ++ [first]) = none := by
      rw [lastCheckpoint_append_singleton, RecordingAnswer.next_of_makesDue hfirst]
    have hstill := lastCheckpoint_none hdue hnone
    rw [List.append_assoc, List.singleton_append, hv] at hstill
    simp at hstill

/-- The samples that are given to the persister are those of the history. -/
lemma enqueued_run (loads : List (String → Option MetricSample)) (tracker : TrafficTracker)
    (recordEnabled : Bool) (events : List RecordingEvent) :
    (run RecordingServer.step (.loaded loads tracker recordEnabled) events).enqueued =
      (recordingHistory loads tracker recordEnabled events).filterMap RecordingAnswer.enqueued := by
  have along : Along RecordingServer.step (fun _ _ => True)
      (.loaded loads tracker recordEnabled) events := Along.of_forall (fun _ _ => trivial) _
  refine answers_invariant (I := fun history (s : RecordingServer) =>
    s.enqueued = history.filterMap RecordingAnswer.enqueued) ?_ ?_ along
  · intro history s event h _
    rw [RecordingServer.enqueued_step, h, List.filterMap_append]
    congr 1
  · simp [RecordingServer.loaded, List.filterMap_map, Function.comp_def, RecordingAnswer.enqueued]

/-- Recording is what it was switched to last. -/
lemma recordEnabled_run (loads : List (String → Option MetricSample)) (tracker : TrafficTracker)
    (recordEnabled : Bool) (events : List RecordingEvent) :
    (run RecordingServer.step (.loaded loads tracker recordEnabled) events).recordEnabled =
      (recordingHistory loads tracker recordEnabled events).foldl RecordingAnswer.switch
        recordEnabled := by
  have along : Along RecordingServer.step (fun _ _ => True)
      (.loaded loads tracker recordEnabled) events := Along.of_forall (fun _ _ => trivial) _
  refine answers_invariant (I := fun history (s : RecordingServer) =>
    s.recordEnabled = history.foldl RecordingAnswer.switch recordEnabled) ?_ ?_ along
  · intro history s event h _
    rw [RecordingServer.recordEnabled_step, h, List.foldl_append]
    rfl
  · clear along
    induction loads using List.reverseRecOn with
    | nil => rfl
    | append_singleton loads samples ih =>
      rw [List.map_append, List.foldl_append, ← ih]
      rfl

/-- Recording is on after it was switched on and not off again. -/
lemma switch_on {before between : List RecordingAnswer}
    (hon : ∀ a ∈ between, ∀ previous, a ≠ .switched previous false) :
    (before ++ .switched false true :: between).foldl RecordingAnswer.switch recordEnabled =
      true := by
  induction between using List.reverseRecOn with
  | nil => rw [List.foldl_append]; rfl
  | append_singleton between a ih =>
    have hlast := hon a (by simp)
    rw [← List.cons_append, ← List.append_assoc, List.foldl_append,
      ih fun b hb => hon b (by simp [hb])]
    exact RecordingAnswer.switch_true hlast

/-- The first sample of a node after recording was switched on is given to the persister. -/
lemma enqueued_first {between : List RecordingAnswer}
    (hrange : ∀ nodeID, persistEvery nodeID ≤ maxInt64)
    (hinterval : ∀ event ∈ events, event.HasInterval persistEvery)
    (hordered : OrderedReceipts (recordingHistory loads tracker recordEnabled events))
    (h : recordingHistory loads tracker recordEnabled events =
      before ++ .switched false true :: between ++
        .published rawSample checkpoint recording :: after)
    (hfirst : ∀ a ∈ between, ¬a.Publishes rawSample.nodeID)
    (hon : ∀ a ∈ between, ∀ previous, a ≠ .switched previous false) :
    (RecordingAnswer.published rawSample checkpoint recording).enqueued = some rawSample := by
  have hnone : ∀ a ∈ between, a.checkpointOf rawSample.nodeID = none := by
    intro a hmem
    have hloaded : ∀ samples, a ≠ .loaded samples :=
      ne_loaded_of_mem_after (a := .switched false true) (by simp)
        (h.trans (by rw [List.append_assoc, List.cons_append])) (by simp [hmem])
    exact RecordingAnswer.checkpointOf_none hloaded (hfirst a hmem)
  have hcheckpoint : checkpoint = true :=
    (checkpointsSpaced_recordingHistory hrange hinterval hordered).after_due h ⟨rfl, rfl⟩ hnone
  obtain ⟨earlier, event, later, -, hbefore, hanswer, -⟩ := recordingHistory_split (by simp) h
  have hrecording : recording = true := by
    have hflag := recordEnabled_run loads tracker recordEnabled earlier
    rw [← hbefore, switch_on hon] at hflag
    cases event with
    | publish node every sample now clock sentAt order =>
      simp only [RecordingServer.answer, RecordingAnswer.published.injEq] at hanswer
      rw [hanswer.2.2, hflag]
    | _ => simp [RecordingServer.answer] at hanswer
  rw [hcheckpoint, hrecording]
  rfl

end

/-! ## What does not bear on a node -/

section

variable {nodeID : String} {s s' : RecordingServer}

/-- Two servers have the same checkpoint of a node and the same switch. -/
def SameSchedule (nodeID : String) (s s' : RecordingServer) : Prop :=
  s.hub.persisted nodeID = s'.hub.persisted nodeID ∧ s.recordEnabled = s'.recordEnabled

/-- A request that does not bear on a node leaves its schedule alone, and nothing is said of a sample
of the node. -/
lemma SameSchedule.skip (h : SameSchedule nodeID s s') {event : RecordingEvent}
    (hevent : event.concerns nodeID = false) :
    SameSchedule nodeID (s.step event) s' ∧ (s.answer event).verdictOf nodeID = none := by
  have hquiet : (s.answer event).checkpointOf nodeID = none ∧ ¬(s.answer event).MakesDue nodeID ∧
      (s.step event).recordEnabled = s.recordEnabled ∧
      (s.answer event).verdictOf nodeID = none := by
    cases event with
    | publish node every sample now clock sentAt order =>
      have hne : node.id ≠ nodeID := by simpa [RecordingEvent.concerns] using hevent
      cases hcheckpoint : s.checkpoint node every sample now clock <;>
        simp [RecordingServer.answer, RecordingServer.step, RecordingAnswer.checkpointOf,
          RecordingAnswer.MakesDue, RecordingAnswer.verdictOf, hcheckpoint, hne]
    | delete id =>
      have hne : id ≠ nodeID := by simpa [RecordingEvent.concerns] using hevent
      exact ⟨rfl, hne, rfl, rfl⟩
    | setRecordEnabled enabled => simp [RecordingEvent.concerns] at hevent
    | _ => exact ⟨rfl, id, rfl, rfl⟩
  obtain ⟨hnone, hdue, hrecord, hverdict⟩ := hquiet
  refine ⟨⟨?_, hrecord.trans h.2⟩, hverdict⟩
  rw [RecordingServer.persisted_step, RecordingAnswer.next_of_quiet hnone hdue, h.1]

/-- A request that bears on a node does the same to the two schedules, and the same is said of a
sample of the node. -/
lemma SameSchedule.move (h : SameSchedule nodeID s s') {event : RecordingEvent}
    (hevent : event.concerns nodeID = true) :
    SameSchedule nodeID (s.step event) (s'.step event) ∧
      (s.answer event).verdictOf nodeID = (s'.answer event).verdictOf nodeID := by
  have hsame : (s.answer event).next nodeID (s.hub.persisted nodeID) =
        (s'.answer event).next nodeID (s'.hub.persisted nodeID) ∧
      (s.step event).recordEnabled = (s'.step event).recordEnabled ∧
      (s.answer event).verdictOf nodeID = (s'.answer event).verdictOf nodeID := by
    rw [← h.1]
    cases event with
    | publish node every sample now clock sentAt order =>
      have hnode : node.id = nodeID := by simpa [RecordingEvent.concerns] using hevent
      have hcheckpoint : s.checkpoint node every sample now clock =
          s'.checkpoint node every sample now clock := by
        rw [RecordingServer.checkpoint_eq, RecordingServer.checkpoint_eq, hnode, h.1]
      refine ⟨?_, h.2, ?_⟩
      · simp only [RecordingServer.answer, hcheckpoint, RecordingAnswer.next]
        cases s'.checkpoint node every sample now clock <;>
          simp [RecordingAnswer.checkpointOf]
      · simp [RecordingServer.answer, RecordingAnswer.verdictOf, hcheckpoint, h.2]
    | delete id => exact ⟨rfl, h.2, rfl⟩
    | setRecordEnabled enabled =>
      simp only [RecordingServer.answer, h.2]
      refine ⟨trivial, ?_, trivial⟩
      rw [RecordingServer.recordEnabled_step, RecordingServer.recordEnabled_step]
      rfl
    | _ => simp [RecordingEvent.concerns] at hevent
  refine ⟨⟨?_, hsame.2.1⟩, hsame.2.2⟩
  rw [RecordingServer.persisted_step, RecordingServer.persisted_step, hsame.1]

/-- The checkpoint of a node that a hub has taken over depends on the samples of the node. -/
lemma persisted_loaded_map (loads : List (String → Option MetricSample)) (tracker : TrafficTracker)
    (recordEnabled : Bool) (nodeID : String) :
    (RecordingServer.loaded loads tracker recordEnabled).hub.persisted nodeID =
      (loads.map fun samples => (samples nodeID).map (·.receivedAt)).foldl
        (fun last receivedAt => receivedAt.or last) none := by
  induction loads using List.reverseRecOn with
  | nil => rfl
  | append_singleton loads samples ih =>
    rw [List.map_append, List.foldl_append, ← ih]
    simp only [RecordingServer.loaded, List.foldl_append, List.foldl_cons, List.foldl_nil]
    rfl

/-- Nothing is said of the samples that are taken over. -/
lemma verdicts_loaded (loads : List (String → Option MetricSample)) (nodeID : String) :
    (loads.map RecordingAnswer.loaded).filterMap (RecordingAnswer.verdictOf nodeID) = [] := by
  rw [List.filterMap_map]
  exact List.filterMap_eq_nil_iff.mpr fun _ _ => rfl

/-- What is said of the samples of a node does not depend on the requests that do not bear on it. -/
lemma SameSchedule.verdicts (h : SameSchedule nodeID s s') (events : List RecordingEvent) :
    (answers RecordingServer.step RecordingServer.answer s events).filterMap
        (RecordingAnswer.verdictOf nodeID) =
      (answers RecordingServer.step RecordingServer.answer s'
        (events.filter (·.concerns nodeID))).filterMap (RecordingAnswer.verdictOf nodeID) := by
  induction events generalizing s s' with
  | nil => rfl
  | cons event events ih =>
    cases hevent : event.concerns nodeID with
    | false =>
      obtain ⟨hnext, hnone⟩ := h.skip hevent
      rw [answers_cons, List.filterMap_cons_none hnone, List.filter_cons_of_neg (by simp [hevent])]
      exact ih hnext
    | true =>
      obtain ⟨hnext, hsame⟩ := h.move hevent
      rw [List.filter_cons_of_pos (by simp [hevent]), answers_cons, answers_cons,
        List.filterMap_cons, List.filterMap_cons, hsame, ih hnext]

end

/-! ## The schedule -/

/-- The start of the server takes the stored samples over twice. -/
lemma RecordingServer.start_eq (latest : String → Option MetricSample) (nodes : String → Node)
    (clock : Time) (recordEnabled : Bool) :
    ∃ corrected : String → Option MetricSample,
      (∀ nodeID, (corrected nodeID).map (·.receivedAt) = (latest nodeID).map (·.receivedAt)) ∧
      start latest nodes clock recordEnabled =
        loaded [latest, corrected] (({} : TrafficTracker).load latest nodes clock)
          recordEnabled := by
  have hlatest : (({} : Hub).load latest).latest = latest := by
    funext id
    simp [Hub.load]
  refine ⟨fun id => (latest id).map fun sample =>
    (({} : TrafficTracker).load latest nodes clock).correct id sample clock, ?_, ?_⟩
  · intro nodeID
    rw [Option.map_map]
    congr 1
    funext sample
    exact (correct_frame _ _ _ _).2
  · simp only [start, hlatest, loaded, List.foldl_cons, List.foldl_nil]

/-- In every run the checkpoints of a node are spaced, whatever else happens: the latest samples may
be replaced, and nothing that concerns the other nodes bears on them.  The samples that are given to
the persister are the checkpoints made while recording is on, among them the first one of every node
after recording was switched on. -/
theorem checkpoints_spaced (loads : List (String → Option MetricSample)) (tracker : TrafficTracker)
    (recordEnabled : Bool) (events : List RecordingEvent) (persistEvery : String → Duration)
    (hrange : ∀ nodeID, persistEvery nodeID ≤ maxInt64)
    (hinterval : ∀ event ∈ events, event.HasInterval persistEvery)
    (hordered : OrderedReceipts (recordingHistory loads tracker recordEnabled events)) :
    CheckpointsSpaced persistEvery (recordingHistory loads tracker recordEnabled events) ∧
      (∀ nodeID loads' tracker',
        loads'.map (fun samples => (samples nodeID).map (·.receivedAt)) =
          loads.map (fun samples => (samples nodeID).map (·.receivedAt)) →
        (recordingHistory loads' tracker' recordEnabled
            (events.filter (·.concerns nodeID))).filterMap (RecordingAnswer.verdictOf nodeID) =
          (recordingHistory loads tracker recordEnabled events).filterMap
            (RecordingAnswer.verdictOf nodeID)) ∧
      (run RecordingServer.step (.loaded loads tracker recordEnabled) events).enqueued =
        (recordingHistory loads tracker recordEnabled events).filterMap RecordingAnswer.enqueued ∧
      ∀ before between after rawSample checkpoint recording,
        recordingHistory loads tracker recordEnabled events =
          before ++ .switched false true :: between ++
            .published rawSample checkpoint recording :: after →
        (∀ a ∈ between, ¬a.Publishes rawSample.nodeID) →
        (∀ a ∈ between, ∀ previous, a ≠ .switched previous false) →
        (RecordingAnswer.published rawSample checkpoint recording).enqueued = some rawSample := by
  refine ⟨checkpointsSpaced_recordingHistory hrange hinterval hordered, ?_, ?_, ?_⟩
  · intro nodeID loads' tracker' hloads
    have hsame : SameSchedule nodeID (.loaded loads tracker recordEnabled)
        (.loaded loads' tracker' recordEnabled) := by
      refine ⟨?_, rfl⟩
      rw [persisted_loaded_map, persisted_loaded_map, hloads]
    rw [recordingHistory, recordingHistory, List.filterMap_append, List.filterMap_append,
      verdicts_loaded, verdicts_loaded, hsame.verdicts events]
  · exact enqueued_run loads tracker recordEnabled events
  · intro before between after rawSample checkpoint recording h hfirst hon
    exact enqueued_first hrange hinterval hordered h hfirst hon

/-- Recording is switched on between two samples of a node. -/
def switchedOn : List RecordingEvent :=
  [.publish { id := "n1" } minute {} second 0 0 [], .setRecordEnabled true,
    .publish { id := "n1" } minute {} (2 * second) 0 0 []]

lemma orderedReceipts_switchedOn : OrderedReceipts (recordingHistory [] {} false switchedOn) := by
  intro nodeID
  by_cases hnode : "n1" = nodeID
  · simp [recordingHistory, switchedOn, RecordingServer.answer, RecordingAnswer.receiptOf, hnode]
    decide
  · simp [recordingHistory, switchedOn, RecordingServer.answer, RecordingAnswer.receiptOf, hnode]

theorem checkpoints_spaced_switchedOn :
    CheckpointsSpaced (fun _ => minute) (recordingHistory [] {} false switchedOn) :=
  (checkpoints_spaced [] {} false switchedOn (fun _ => minute) (fun _ => by decide)
    (by simp [switchedOn, RecordingEvent.HasInterval]) orderedReceipts_switchedOn).1

end Hostpin
