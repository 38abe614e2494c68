import Hostpin.Core.Hub
import Hostpin.Traffic.Live
import Hostpin.Traffic.Total

/-!
# What a deleted node leaves behind

The deletion of a node deletes its row, revokes its streams, and then takes it out of the hub and out
of the traffic tracker.  A sample that was authenticated before takes three steps: it is applied to
the tracker, corrected and published.  Nothing stops it when the node is deleted in between.

`LiveNodes` runs samples and deletions in any order.  A sample that is applied after the tracker was
cleared, or published after the hub was cleared, leaves an entry for a node that is gone
(`LiveNodes.entry_left`), and nothing else does (`LiveNodes.noEntry_iff`).
-/

namespace Hostpin

open Clock Runs

/-! ## The system -/

/-- Forget a node. -/
def TrafficTracker.delete (t : TrafficTracker) (nodeID : String) : TrafficTracker where
  states := Function.update t.states nodeID none
  policies := Function.update t.policies nodeID none

/-- Where the deletion of a node stands: not begun, and after each of its steps. -/
inductive DeletionPhase where
  | present
  | deleted
  | revoked
  | hubDeleted
  | finished
deriving DecidableEq

/-- The deletion has taken the node out of the hub. -/
def DeletionPhase.hubCleared : DeletionPhase → Bool
  | .hubDeleted | .finished => true
  | _ => false

/-- Where a sample stands. -/
inductive SamplePhase where
  | authenticated
  | applied (raw : MetricSample)
  | corrected (sample : MetricSample)
  | done

/-- A sample of a node that was authenticated, by a report of its own or by its stream. -/
structure SampleCall where
  node : Node
  sample : MetricSample
  now : Time
  persistIntervalSeconds : ℤ
  phase : SamplePhase := .authenticated

/-- The hub, the tracker, where the deletion of each node stands, and the samples, which are numbered
by their place in the list. -/
structure LiveNodes where
  hub : Hub := {}
  tracker : TrafficTracker := {}
  deletion : String → DeletionPhase := fun _ => .present
  calls : List SampleCall := []

/-- What can happen. -/
inductive LiveNodesEvent where
  | authenticate (node : Node) (sample : MetricSample) (now : Time) (persistIntervalSeconds : ℤ)
  | apply (i : ℕ) (clock : Time)
  | correct (i : ℕ) (clock : Time)
  | publish (i : ℕ) (sentAt : Time) (order : List ℕ)
  | deleteNode (nodeID : String)
  | revokeStreams (nodeID : String)
  | deleteFromHub (nodeID : String)
  | deleteFromTracker (nodeID : String)

namespace LiveNodes

/-- A sample goes on. -/
def setPhase (s : LiveNodes) (i : ℕ) (call : SampleCall) (phase : SamplePhase) : LiveNodes :=
  { s with calls := s.calls.set i { call with phase } }

/-- A deletion goes on. -/
def setDeletion (s : LiveNodes) (nodeID : String) (phase : DeletionPhase) : LiveNodes :=
  { s with deletion := Function.update s.deletion nodeID phase }

/-- A sample is applied to the tracker. -/
def apply (s : LiveNodes) (i : ℕ) (call : SampleCall) (clock : Time) : LiveNodes :=
  let applied :=
    s.tracker.apply call.node (stampSample call.node call.sample call.now) call.now clock
  { s.setPhase i call (.applied applied.2) with tracker := applied.1 }

/-- A sample is published. -/
def publish (s : LiveNodes) (i : ℕ) (call : SampleCall) (sample : MetricSample) (sentAt : Time)
    (order : List ℕ) : LiveNodes :=
  let persistEvery := scale (max call.persistIntervalSeconds 1) second
  { s.setPhase i call .done with hub := s.hub.publish sample persistEvery sentAt order }

/-- The system after an event.  Only the node of a row that is there is authenticated. -/
def step (s : LiveNodes) : LiveNodesEvent → LiveNodes
  | .authenticate node sample now persistIntervalSeconds =>
    if s.deletion node.id = .present then
      { s with calls := s.calls ++ [{ node, sample, now, persistIntervalSeconds }] }
    else s
  | .apply i clock =>
    match s.calls[i]? with
    | none => s
    | some call =>
      match call.phase with
      | .authenticated => s.apply i call clock
      | _ => s
  | .correct i clock =>
    match s.calls[i]? with
    | none => s
    | some call =>
      match call.phase with
      | .applied raw => s.setPhase i call (.corrected (s.tracker.correct call.node.id raw clock))
      | _ => s
  | .publish i sentAt order =>
    match s.calls[i]? with
    | none => s
    | some call =>
      match call.phase with
      | .corrected sample =>
        if order.Perm s.hub.registered then s.publish i call sample sentAt order else s
      | _ => s
  | .deleteNode nodeID =>
    if s.deletion nodeID = .present then s.setDeletion nodeID .deleted else s
  | .revokeStreams nodeID =>
    if s.deletion nodeID = .deleted then s.setDeletion nodeID .revoked else s
  | .deleteFromHub nodeID =>
    if s.deletion nodeID = .revoked then
      { s.setDeletion nodeID .hubDeleted with hub := s.hub.delete nodeID }
    else s
  | .deleteFromTracker nodeID =>
    if s.deletion nodeID = .hubDeleted then
      { s.setDeletion nodeID .finished with tracker := s.tracker.delete nodeID }
    else s

/-! ## What is to be shown -/

/-- The hub has nothing of a node. -/
def NotInHub (s : LiveNodes) (nodeID : String) : Prop :=
  s.hub.latest nodeID = none ∧ s.hub.persisted nodeID = none

/-- The tracker has nothing of a node. -/
def NotInTracker (s : LiveNodes) (nodeID : String) : Prop :=
  s.tracker.states nodeID = none ∧ s.tracker.policies nodeID = none

/-- No sample of a node is applied after the tracker was cleared, or published after the hub was. -/
def InTime (nodeID : String) (s : LiveNodes) : LiveNodesEvent → Prop
  | .apply i _ => ∀ call, s.calls[i]? = some call → call.phase = .authenticated →
      call.node.id = nodeID → s.deletion nodeID ≠ .finished
  | .publish i _ order => ∀ call sample, s.calls[i]? = some call →
      call.phase = .corrected sample → order.Perm s.hub.registered →
      sample.nodeID = nodeID → (s.deletion nodeID).hubCleared = false
  | _ => True

/-- What a deletion has cleared is still clear. -/
def Cleared (nodeID : String) (s : LiveNodes) : Prop :=
  ((s.deletion nodeID).hubCleared = true → s.NotInHub nodeID) ∧
    (s.deletion nodeID = .finished → s.NotInTracker nodeID)

/-! ## What a step does to a node -/

section Steps

variable (s : LiveNodes) (nodeID : String)

/-- What a publish leaves of the other nodes, and of its own. -/
lemma publish_hub (h : Hub) (sample : MetricSample) (persistEvery : Duration) (sentAt : Time)
    (order : List ℕ) :
    (h.publish sample persistEvery sentAt order).latest sample.nodeID = some sample ∧
      ∀ id ≠ sample.nodeID,
        (h.publish sample persistEvery sentAt order).latest id = h.latest id ∧
          (h.publish sample persistEvery sentAt order).persisted id = h.persisted id := by
  unfold Hub.publish Hub.announce
  by_cases due : h.shouldPersist sample persistEvery = true
  · simp only [due, if_true, Function.update_self, true_and]
    intro id other
    simp only [Function.update_of_ne other, and_self]
  · simp only [due, Bool.false_eq_true, if_false, Function.update_self, true_and]
    intro id other
    simp only [Function.update_of_ne other, and_self]

/-- What an event can do to a node: nothing that matters here, apply or publish a sample of it, or
clear one of its places.  `inTime` is what is asked of the event. -/
inductive Change (nodeID : String) (s s' : LiveNodes) (inTime : Prop) : Prop
  | kept (timely : inTime)
      (cleared : (s'.deletion nodeID).hubCleared = (s.deletion nodeID).hubCleared)
      (finished : s'.deletion nodeID = .finished ↔ s.deletion nodeID = .finished)
      (hub : s'.NotInHub nodeID ↔ s.NotInHub nodeID)
      (tracker : s'.NotInTracker nodeID ↔ s.NotInTracker nodeID)
  | applied (timely : inTime ↔ s.deletion nodeID ≠ .finished)
      (deletion : s'.deletion nodeID = s.deletion nodeID)
      (hub : s'.NotInHub nodeID ↔ s.NotInHub nodeID)
      (entry : ¬ s'.NotInTracker nodeID)
  | published (timely : inTime ↔ (s.deletion nodeID).hubCleared = false)
      (deletion : s'.deletion nodeID = s.deletion nodeID)
      (entry : ¬ s'.NotInHub nodeID)
      (tracker : s'.NotInTracker nodeID ↔ s.NotInTracker nodeID)
  | hubCleared (timely : inTime) (before : s.deletion nodeID = .revoked)
      (deletion : s'.deletion nodeID = .hubDeleted) (clear : s'.NotInHub nodeID)
  | trackerCleared (timely : inTime) (before : s.deletion nodeID = .hubDeleted)
      (deletion : s'.deletion nodeID = .finished)
      (hub : s'.NotInHub nodeID ↔ s.NotInHub nodeID) (clear : s'.NotInTracker nodeID)

variable {s nodeID} in
/-- An event that changes neither the places of a node nor its deletion. -/
lemma Change.of_same {s' : LiveNodes} {inTime : Prop} (timely : inTime)
    (deletion : s'.deletion = s.deletion) (hub : s'.hub = s.hub) (tracker : s'.tracker = s.tracker) :
    Change nodeID s s' inTime := by
  refine .kept timely ?_ ?_ ?_ ?_
  · rw [deletion]
  · rw [deletion]
  · rw [NotInHub, hub]; rfl
  · rw [NotInTracker, tracker]; rfl

variable {s} in
/-- A deletion that goes on and clears nothing. -/
lemma Change.of_setDeletion {other : String} {phase : DeletionPhase} {inTime : Prop}
    (timely : inTime) (later : phase.hubCleared = false)
    (early : (s.deletion other).hubCleared = false) :
    Change nodeID s (s.setDeletion other phase) inTime := by
  refine .kept timely ?_ ?_ Iff.rfl Iff.rfl
  · by_cases same : nodeID = other
    · subst same
      simp only [setDeletion, Function.update_self, later, early]
    · simp only [setDeletion, Function.update_of_ne same]
  · by_cases same : nodeID = other
    · subst same
      simp only [setDeletion, Function.update_self]
      constructor
      · rintro rfl; simp [DeletionPhase.hubCleared] at later
      · intro finished; simp [finished, DeletionPhase.hubCleared] at early
    · simp only [setDeletion, Function.update_of_ne same]

/-- A sample that is applied enters its node into the tracker. -/
lemma change_apply {i : ℕ} {call : SampleCall} (clock : Time) (found : s.calls[i]? = some call)
    (phase : call.phase = .authenticated) :
    Change nodeID s (s.apply i call clock) (InTime nodeID s (.apply i clock)) := by
  by_cases own : call.node.id = nodeID
  · refine .applied ⟨fun timely => timely call found phase own, fun alive => ?_⟩ rfl Iff.rfl ?_
    · exact fun _ _ _ _ => alive
    · rintro ⟨clear, -⟩
      simp only [LiveNodes.apply, TrafficTracker.states_apply, ← own, if_true] at clear
      exact Option.some_ne_none _ clear
  · refine .kept ?_ rfl Iff.rfl Iff.rfl ?_
    · rintro other found' - rfl
      cases found.symm.trans found'
      exact absurd rfl own
    · simp only [NotInTracker, LiveNodes.apply, TrafficTracker.states_apply,
        TrafficTracker.policies_apply, Ne.symm own, if_false]

/-- A sample that is published enters its node into the hub. -/
lemma change_publish {i : ℕ} {call : SampleCall} {sample : MetricSample} (sentAt : Time)
    {order : List ℕ} (found : s.calls[i]? = some call) (phase : call.phase = .corrected sample)
    (subscribers : order.Perm s.hub.registered) :
    Change nodeID s (s.publish i call sample sentAt order)
      (InTime nodeID s (.publish i sentAt order)) := by
  obtain ⟨own, others⟩ := publish_hub s.hub sample
    (scale (max call.persistIntervalSeconds 1) second) sentAt order
  by_cases same : sample.nodeID = nodeID
  · refine .published ⟨fun timely => ?_, fun early => ?_⟩ rfl ?_ Iff.rfl
    · exact timely call sample found phase subscribers same
    · exact fun _ _ _ _ _ _ => early
    · rintro ⟨clear, -⟩
      rw [← same] at clear
      exact Option.some_ne_none _ (own.symm.trans clear)
  · refine .kept ?_ rfl Iff.rfl ?_ Iff.rfl
    · rintro call' sample' found' phase' - rfl
      cases found.symm.trans found'
      cases phase.symm.trans phase'
      exact absurd rfl same
    · have kept := others nodeID (Ne.symm same)
      simp only [NotInHub, LiveNodes.publish, kept]

/-- What a step does to a node. -/
lemma step_change (event : LiveNodesEvent) :
    Change nodeID s (s.step event) (InTime nodeID s event) := by
  cases event with
  | authenticate node sample now persistIntervalSeconds =>
    simp only [step]
    split <;> exact .of_same trivial rfl rfl rfl
  | apply i clock =>
    cases found : s.calls[i]? with
    | none =>
      simp only [step, found]
      refine .of_same (fun call found' => ?_) rfl rfl rfl
      cases found.symm.trans found'
    | some call =>
      cases phase : call.phase with
      | authenticated =>
        simp only [step, found, phase]
        exact s.change_apply nodeID clock found phase
      | _ =>
        simp only [step, found, phase]
        refine .of_same (fun call' found' phase' => ?_) rfl rfl rfl
        cases found.symm.trans found'
        cases phase.symm.trans phase'
  | correct i clock =>
    simp only [step]
    split
    · exact .of_same trivial rfl rfl rfl
    · split <;> exact .of_same trivial rfl rfl rfl
  | publish i sentAt order =>
    cases found : s.calls[i]? with
    | none =>
      simp only [step, found]
      refine .of_same (fun call _ found' => ?_) rfl rfl rfl
      cases found.symm.trans found'
    | some call =>
      cases phase : call.phase with
      | corrected sample =>
        by_cases subscribers : order.Perm s.hub.registered
        · simp only [step, found, phase, subscribers, if_true]
          exact s.change_publish nodeID sentAt found phase subscribers
        · simp only [step, found, phase, subscribers, if_false]
          exact .of_same (fun _ _ _ _ subscribers' => absurd subscribers' subscribers) rfl rfl rfl
      | _ =>
        simp only [step, found, phase]
        refine .of_same (fun call' _ found' phase' => ?_) rfl rfl rfl
        cases found.symm.trans found'
        cases phase.symm.trans phase'
  | deleteNode other =>
    simp only [step]
    split
    · next present => exact .of_setDeletion nodeID trivial rfl (by rw [present]; rfl)
    · exact .of_same trivial rfl rfl rfl
  | revokeStreams other =>
    simp only [step]
    split
    · next deleted => exact .of_setDeletion nodeID trivial rfl (by rw [deleted]; rfl)
    · exact .of_same trivial rfl rfl rfl
  | deleteFromHub other =>
    simp only [step]
    split
    · next revoked =>
      by_cases same : nodeID = other
      · subst same
        refine .hubCleared trivial revoked ?_ ⟨?_, ?_⟩
        · simp only [setDeletion, Function.update_self]
        · simp only [Hub.delete, Function.update_self]
        · simp only [Hub.delete, Function.update_self]
      · refine .kept trivial ?_ ?_ ?_ Iff.rfl
        · simp only [setDeletion, Function.update_of_ne same]
        · simp only [setDeletion, Function.update_of_ne same]
        · simp only [NotInHub, Hub.delete, Function.update_of_ne same]
    · exact .of_same trivial rfl rfl rfl
  | deleteFromTracker other =>
    simp only [step]
    split
    · next hubDeleted =>
      by_cases same : nodeID = other
      · subst same
        refine .trackerCleared trivial hubDeleted ?_ Iff.rfl ⟨?_, ?_⟩
        · simp only [setDeletion, Function.update_self]
        · simp only [TrafficTracker.delete, Function.update_self]
        · simp only [TrafficTracker.delete, Function.update_self]
      · refine .kept trivial ?_ ?_ Iff.rfl ?_
        · simp only [setDeletion, Function.update_of_ne same]
        · simp only [setDeletion, Function.update_of_ne same]
        · simp only [NotInTracker, TrafficTracker.delete, Function.update_of_ne same]
    · exact .of_same trivial rfl rfl rfl

end Steps

/-! ## What a deletion has cleared -/

section Cleared

variable {s s' : LiveNodes} {nodeID : String} {inTime : Prop}

/-- What was cleared stays clear exactly if the event is in time. -/
lemma Change.cleared_iff (change : Change nodeID s s' inTime) (cleared : s.Cleared nodeID) :
    s'.Cleared nodeID ↔ inTime := by
  obtain ⟨clearHub, clearTracker⟩ := cleared
  cases change with
  | kept timely cleared finished hub tracker =>
    refine ⟨fun _ => timely, fun _ => ⟨?_, ?_⟩⟩
    · rw [cleared, hub]; exact clearHub
    · rw [finished, tracker]; exact clearTracker
  | applied timely deletion hub entry =>
    rw [timely, Cleared, deletion, hub]
    exact ⟨fun ⟨_, after⟩ finished => entry (after finished),
      fun alive => ⟨clearHub, fun finished => absurd finished alive⟩⟩
  | published timely deletion entry tracker =>
    rw [timely, Cleared, deletion, tracker]
    constructor
    · rintro ⟨after, -⟩
      exact Bool.eq_false_iff.mpr fun gone => entry (after gone)
    · intro early
      exact ⟨fun gone => by simp [early] at gone, clearTracker⟩
  | hubCleared timely before deletion clear =>
    refine ⟨fun _ => timely, fun _ => ⟨fun _ => clear, fun finished => ?_⟩⟩
    cases deletion.symm.trans finished
  | trackerCleared timely before deletion hub clear =>
    refine ⟨fun _ => timely, fun _ => ⟨fun _ => ?_, fun _ => clear⟩⟩
    exact hub.mpr (clearHub (by rw [before]; rfl))

/-- Nothing takes an entry out again that came too late. -/
lemma Change.cleared_before (change : Change nodeID s s' inTime) (cleared : s'.Cleared nodeID) :
    s.Cleared nodeID := by
  obtain ⟨clearHub, clearTracker⟩ := cleared
  cases change with
  | kept _ cleared finished hub tracker =>
    rw [cleared, hub] at clearHub
    rw [finished, tracker] at clearTracker
    exact ⟨clearHub, clearTracker⟩
  | applied _ deletion hub entry =>
    rw [deletion] at clearHub clearTracker
    exact ⟨fun gone => hub.mp (clearHub gone), fun finished => absurd (clearTracker finished) entry⟩
  | published _ deletion entry tracker =>
    rw [deletion] at clearHub clearTracker
    exact ⟨fun gone => absurd (clearHub gone) entry,
      fun finished => tracker.mp (clearTracker finished)⟩
  | hubCleared _ before _ _ =>
    refine ⟨fun gone => ?_, fun finished => ?_⟩
    · rw [before] at gone; cases gone
    · cases before.symm.trans finished
  | trackerCleared _ before deletion hub _ =>
    refine ⟨fun _ => hub.mp (clearHub (by rw [deletion]; rfl)), fun finished => ?_⟩
    cases before.symm.trans finished

end Cleared

/-- Before the deletion there is nothing to keep clear. -/
lemma cleared_of_present {s : LiveNodes} {nodeID : String} (present : s.deletion nodeID = .present) :
    s.Cleared nodeID := by
  refine ⟨fun gone => ?_, fun finished => ?_⟩
  · rw [present] at gone; cases gone
  · cases present.symm.trans finished

/-- After the deletion of a node, neither the hub nor the tracker has anything of it exactly if no
sample of it was applied or published too late. -/
theorem noEntry_iff {s : LiveNodes} {nodeID : String} (present : s.deletion nodeID = .present)
    {events : List LiveNodesEvent}
    (finished : (run step s events).deletion nodeID = .finished) :
    (run step s events).NotInHub nodeID ∧ (run step s events).NotInTracker nodeID ↔
      Along step (InTime nodeID) s events := by
  have start : s.Cleared nodeID := cleared_of_present present
  have always : Always step (Cleared nodeID) s events ↔ Along step (InTime nodeID) s events :=
    always_iff_along (fun s event cleared => (step_change s nodeID event).cleared_iff cleared) start
  rw [← always]
  constructor
  · rintro ⟨hub, tracker⟩
    exact always_of_run (fun s event => (step_change s nodeID event).cleared_before)
      ⟨fun _ => hub, fun _ => tracker⟩
  · intro cleared
    obtain ⟨hub, tracker⟩ := cleared events (List.prefix_refl events)
    exact ⟨hub (by rw [finished]; rfl), tracker finished⟩

/-! ## Two reports and a deletion -/

/-- The steps of the deletion of a node. -/
def deletionSteps (nodeID : String) : List LiveNodesEvent :=
  [.deleteNode nodeID, .revokeStreams nodeID, .deleteFromHub nodeID, .deleteFromTracker nodeID]

/-- The start of a report. -/
def reportStart : LiveNodesEvent :=
  .authenticate { id := "n", trafficResetDay := 1 } { sequence := 1 } (5 * second) 60

/-- A report that is published after the row of its node was deleted, but before its node is taken
out of the hub. -/
def timelyReport : List LiveNodesEvent :=
  [reportStart, .apply 0 (5 * second), .correct 0 (5 * second), .deleteNode "n",
    .publish 0 (6 * second) [], .revokeStreams "n", .deleteFromHub "n", .deleteFromTracker "n"]

theorem noEntry_timelyReport :
    (run step {} timelyReport).NotInHub "n" ∧ (run step {} timelyReport).NotInTracker "n" := by
  refine (noEntry_iff rfl (by decide +kernel)).mpr ⟨trivial, ?_, trivial, trivial, ?_, trivial,
    trivial, trivial, trivial⟩
  · exact fun _ _ _ _ => by decide +kernel
  · exact fun _ _ _ _ _ _ => by decide +kernel

/-- A report whose node is deleted right after it was authenticated. -/
def lateReport : List LiveNodesEvent :=
  reportStart :: deletionSteps "n" ++
    [.apply 0 (5 * second), .correct 0 (5 * second), .publish 0 (6 * second) []]

/-- The deletion and the report are through, and each place has an entry. -/
theorem entry_left :
    (run step {} lateReport).deletion "n" = .finished ∧
      (∀ call ∈ (run step {} lateReport).calls, call.phase matches .done) ∧
      (run step {} lateReport).hub.latest "n" ≠ none ∧
      (run step {} lateReport).hub.persisted "n" ≠ none ∧
      (run step {} lateReport).tracker.states "n" ≠ none ∧
      (run step {} lateReport).tracker.policies "n" ≠ none := by
  decide +kernel

end LiveNodes

end Hostpin
