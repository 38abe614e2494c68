import Hostpin.Traffic.Correction
import Hostpin.Traffic.Restart

/-!
# Requests on the traffic totals

The hub shows the latest sample of every node with corrected totals.  The requests of agents and
administrators run concurrently; each takes the locks of the tracker, of the hub and of the store
one after the other, so the steps of different requests interleave.

* `LiveEvent` lists the steps: a sample is applied, corrected and published; a correction is saved
  or cleared by reading the node, taking a snapshot, writing the store, configuring the tracker and
  replacing the latest sample; an edit of a node writes the store, reads the node back and
  configures the tracker; a restart loads everything from the store.
* `LiveState.step` takes one step, and `LiveState.run` a list of them.
-/

namespace Hostpin

open Clock

/-! ## Requests -/

/-- The greatest total that a correction handles. -/
def maxTrafficCorrectionBytes : UInt64 := 9223372036854775807

/-- What an administrator asks for: new totals, or the raw totals again. -/
inductive Correction where
  | save (rxBytes txBytes : UInt64)
  | clear
deriving DecidableEq

/-- What a snapshot of the traffic of a node says. -/
structure TrafficCorrectionStatus where
  available : Bool := false
  active : Bool
  periodStart : Time
  sampleReceivedAt : Option Time := none
  rawRXBytes : UInt64 := 0
  rawTXBytes : UInt64 := 0
  rxBytes : UInt64 := 0
  txBytes : UInt64 := 0
  rxAdjustment : Int64
  txAdjustment : Int64

/-- The steps that a request in progress has behind it, with the values that it carries along. -/
inductive LiveRequest where
  /-- A sample was applied; its raw totals are to be corrected. -/
  | applied (nodeID : String) (raw : MetricSample)
  /-- The sample was corrected and is to be published. -/
  | corrected (raw sample : MetricSample)
  /-- The node of a correction was read. -/
  | correctionRead (node : Node) (correction : Correction)
  /-- The raw totals were captured; the edited node is to be stored. -/
  | correctionSnapshot (edited : Node) (correction : Correction) (rawRX rawTX : UInt64)
  /-- The edited node was stored; the tracker is to be configured. -/
  | correctionStored (edited : Node) (correction : Correction) (rawRX rawTX : UInt64)
  /-- The tracker was configured; the latest sample is to be replaced. -/
  | correctionConfigured (edited : Node) (correction : Correction) (rawRX rawTX : UInt64)
  /-- An edited node was stored and is to be read back. -/
  | nodeStored (nodeID : String)
  /-- The edited node was read back; the tracker is to be configured. -/
  | nodeRead (updated : Node)

/-- The state of a running server: the rows of the nodes, the tracker, the latest samples of the hub
and the requests in progress.  `lastRaw` records the raw sample that the tracker has taken in last,
by node. -/
structure LiveState where
  rows : String → Option Node
  tracker : TrafficTracker := {}
  latest : String → Option MetricSample := fun _ => none
  lastRaw : String → Option MetricSample := fun _ => none
  requests : ℕ → Option LiveRequest := fun _ => none

/-- The samples that the store holds at a start, by node: each belongs to its node and has an
instant. -/
structure StoredSamples where
  samples : String → Option MetricSample
  keyed : ∀ id sample, samples id = some sample → sample.nodeID = id
  received : ∀ id sample, samples id = some sample → isZero sample.receivedAt = false

/-- One step of the server.  The number names the request that takes the step. -/
inductive LiveEvent where
  | acceptSample (request : ℕ) (node : Node) (sample : MetricSample) (now clock : Time)
  | correctTraffic (request : ℕ) (nodeID : String) (correction : Correction)
  | updateNode (request : ℕ) (nodeID : String) (update : Node)
  | advance (request : ℕ) (now clock : Time) (ok : Bool)
  | restart (stored : StoredSamples) (clock : Time)

/-! ## Steps -/

/-- Put a request into its next stage, or end it. -/
def LiveState.setRequest (s : LiveState) (i : ℕ) (request : Option LiveRequest) : LiveState :=
  { s with requests := Function.update s.requests i request }

/-- Show a sample as the latest of its node. -/
def LiveState.publish (s : LiveState) (sample : MetricSample) : LiveState :=
  { s with latest := Function.update s.latest sample.nodeID (some sample) }

/-- Install the policy of a node in the tracker. -/
def LiveState.configureNode (s : LiveState) (node : Node) : LiveState :=
  { s with tracker := s.tracker.configureNode node }

/-- The snapshot of the traffic of a node. -/
def LiveState.trafficCorrectionSnapshot (s : LiveState) (node : Node) (now clock : Time) :
    TrafficCorrectionStatus :=
  let periodStart := trafficPeriodStart now node.trafficResetDay clock
  let status : TrafficCorrectionStatus :=
    { periodStart, rxAdjustment := node.trafficRXCorrection,
      txAdjustment := node.trafficTXCorrection,
      active := node.trafficCorrectionPeriodStart == some periodStart }
  match s.latest node.id with
  | none => status
  | some sample =>
    let raw := s.tracker.uncorrect node.id sample clock
    { status with
      sampleReceivedAt := some sample.receivedAt
      rawRXBytes := raw.monthlyRxBytes
      rawTXBytes := raw.monthlyTxBytes
      rxBytes := sample.monthlyRxBytes
      txBytes := sample.monthlyTxBytes
      available :=
        trafficPeriodStart sample.receivedAt node.trafficResetDay clock == periodStart }

/-- The node of a correction, if it may be corrected. -/
def LiveState.trafficCorrectionNode (s : LiveState) (nodeID : String) : Option Node :=
  (s.rows nodeID).filter fun node => node.role == .monitor

/-- The node with a correction, computed from a snapshot, or nothing if the request is refused. -/
def editCorrection (node : Node) (correction : Correction) (current : TrafficCorrectionStatus) :
    Option Node :=
  match correction with
  | .save rxBytes txBytes =>
    if rxBytes > maxTrafficCorrectionBytes || txBytes > maxTrafficCorrectionBytes then none
    else if !current.available then none
    else if current.rawRXBytes > maxTrafficCorrectionBytes ||
        current.rawTXBytes > maxTrafficCorrectionBytes then none
    else
      some
        { node with
          trafficRXCorrection := trafficAdjustment rxBytes current.rawRXBytes
          trafficTXCorrection := trafficAdjustment txBytes current.rawTXBytes
          trafficCorrectionPeriodStart := some current.periodStart }
  | .clear =>
    some
      { node with
        trafficRXCorrection := 0, trafficTXCorrection := 0, trafficCorrectionPeriodStart := none }

/-- Write the correction of a node into its row. -/
def LiveState.updateTrafficCorrection (s : LiveState) (node : Node) : Option LiveState :=
  (s.rows node.id).map fun row =>
    { s with
      rows := Function.update s.rows node.id (some
        { row with
          trafficRXCorrection := node.trafficRXCorrection
          trafficTXCorrection := node.trafficTXCorrection
          trafficCorrectionPeriodStart := node.trafficCorrectionPeriodStart.map storedTime }) }

/-- The row of a node after an edit; the role and the correction stay. -/
def editedRow (row update : Node) : Node :=
  { update with
    id := row.id
    role := row.role
    trafficRXCorrection := row.trafficRXCorrection
    trafficTXCorrection := row.trafficTXCorrection
    trafficCorrectionPeriodStart := row.trafficCorrectionPeriodStart }

/-- The sample that replaces the latest one at the end of a correction. -/
def LiveState.replacement (s : LiveState) (node : Node) (correction : Correction)
    (latest : MetricSample) (rawRX rawTX : UInt64) (clock : Time) : MetricSample :=
  let raw := { latest with monthlyRxBytes := rawRX, monthlyTxBytes := rawTX }
  match correction with
  | .save _ _ => s.tracker.correct node.id raw clock
  | .clear => raw

/-- A sample of a node, stamped with the instant of its report. -/
def stampSample (node : Node) (sample : MetricSample) (now : Time) : MetricSample :=
  { sample with
    nodeID := node.id
    receivedAt := now
    collectedAt := if isZero sample.collectedAt then now else sample.collectedAt }

/-- The first step of a report: the sample is taken in. -/
def LiveState.acceptSample (s : LiveState) (i : ℕ) (node : Node) (sample : MetricSample)
    (now clock : Time) : LiveState :=
  let applied := s.tracker.apply node (stampSample node sample now) now clock
  { s with
    tracker := applied.1
    lastRaw := Function.update s.lastRaw node.id (some applied.2)
    requests := Function.update s.requests i (some (.applied node.id applied.2)) }

/-- The next step of a request. -/
def LiveState.advance (s : LiveState) (i : ℕ) (request : LiveRequest) (now clock : Time)
    (ok : Bool) : LiveState :=
  match request with
  | .applied nodeID raw =>
    s.setRequest i (some (.corrected raw (s.tracker.correct nodeID raw clock)))
  | .corrected _ sample => (s.publish sample).setRequest i none
  | .correctionRead node correction =>
    let current := s.trafficCorrectionSnapshot node now clock
    s.setRequest i ((editCorrection node correction current).map fun edited =>
      .correctionSnapshot edited correction current.rawRXBytes current.rawTXBytes)
  | .correctionSnapshot edited correction rawRX rawTX =>
    match ok, s.updateTrafficCorrection edited with
    | true, some stored =>
      stored.setRequest i (some (.correctionStored edited correction rawRX rawTX))
    | _, _ => s.setRequest i none
  | .correctionStored edited correction rawRX rawTX =>
    (s.configureNode edited).setRequest i
      (some (.correctionConfigured edited correction rawRX rawTX))
  | .correctionConfigured edited correction rawRX rawTX =>
    match s.latest edited.id with
    | none => s.setRequest i none
    | some latest =>
      (s.publish (s.replacement edited correction latest rawRX rawTX clock)).setRequest i none
  | .nodeStored nodeID =>
    match ok, s.rows nodeID with
    | true, some updated => s.setRequest i (some (.nodeRead updated))
    | _, _ => s.setRequest i none
  | .nodeRead updated => (s.configureNode updated).setRequest i none

/-- The server after a start: the tracker is loaded with the stored samples, and the hub shows them
corrected. -/
def LiveState.restart (s : LiveState) (stored : StoredSamples) (clock : Time) : LiveState :=
  let tracker := ({} : TrafficTracker).load stored.samples (fun id => (s.rows id).getD {}) clock
  { rows := s.rows
    tracker
    latest := fun id => (stored.samples id).map fun sample => tracker.correct id sample clock
    lastRaw := stored.samples }

/-- One step of the server.  A step that its request cannot take changes nothing. -/
def LiveState.step (s : LiveState) : LiveEvent → LiveState
  | .acceptSample i node sample now clock =>
    match s.requests i, isZero now with
    | none, false => s.acceptSample i node sample now clock
    | _, _ => s
  | .correctTraffic i nodeID correction =>
    match s.requests i, s.trafficCorrectionNode nodeID with
    | none, some node => s.setRequest i (some (.correctionRead node correction))
    | _, _ => s
  | .updateNode i nodeID update =>
    match s.requests i, s.trafficCorrectionNode nodeID with
    | none, some row =>
      if update.trafficResetDay < 1 || 31 < update.trafficResetDay then s
      else
        { s with rows := Function.update s.rows nodeID (some (editedRow row update)) }.setRequest i
          (some (.nodeStored nodeID))
    | _, _ => s
  | .advance i now clock ok =>
    match s.requests i with
    | none => s
    | some request => s.advance i request now clock ok
  | .restart stored clock => s.restart stored clock

/-- A run of the server. -/
def LiveState.run (s : LiveState) (events : List LiveEvent) : LiveState :=
  events.foldl LiveState.step s

end Hostpin
