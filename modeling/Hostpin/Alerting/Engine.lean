import Hostpin.Alerting.Rule
import Hostpin.Foundation.KeyedTable

/-!
# The alert engine

The state and the operations of `alerting.Engine`.  One goroutine runs the loop of the engine, so
an operation is a function from the engine before to the engine after.  What the calls to the
store and to the clock return is an argument: `EmitCalls` for the calls of one `emit`, `SweepCalls`
for the calls of one sweep.

* `Engine.evaluateRule` advances the state of one rule on one node.
* `Engine.evaluate` runs every enabled rule that applies to a sample or a probe result.
* `Engine.sweepNodes` evaluates the rules on synthetic samples that carry the online bit.
* `Engine.evaluateExpiry` reminds of a node that is about to expire.
* `Engine.loadRules` replaces the rules by the stored ones.
-/

namespace Hostpin

open Clock

/-! ## State -/

/-- The state of a rule is kept for each rule id and node id. -/
structure StateKey where
  ruleID : ℤ
  nodeID : String
deriving DecidableEq, Inhabited

/-- The state of one rule on one node. -/
structure RuleState where
  pendingSince : Time := 0
  firing : Bool := false
  lastEvent : Time := 0
deriving DecidableEq, Inhabited

/-- What an evaluation looks at: a node with a metric sample or a probe result. -/
structure Evaluation where
  node : Node
  sample : Option MetricSample := none
  probe : Option ProbeResult := none

/-- A row of the table of alert events. -/
structure AlertEventRow where
  ruleID : Option ℤ
  event : AlertEvent
deriving DecidableEq

/-- The tables that the engine writes and the channels it reads. -/
structure AlertStore where
  events : List AlertEventRow := []
  channels : List NotificationChannel := []
  deliveries : List NotificationDelivery := []

/-- The alert engine.  The rules come from a table with the rule id as primary key. -/
structure Engine where
  publicURL : String := ""
  offlineAfter : Duration := 90 * second
  rules : List AlertRule := []
  rules_nodup : (rules.map AlertRule.id).Nodup := by decide
  states : StateKey → Option RuleState := fun _ => none
  expiry : String → ℤ → Time := fun _ _ => 0
  store : AlertStore := {}

/-- The state of a rule on a node; a rule that was never evaluated there has the zero state. -/
def Engine.ruleState (e : Engine) (key : StateKey) : RuleState := (e.states key).getD {}

/-- Store the state of a rule on a node. -/
def Engine.setState (e : Engine) (key : StateKey) (state : RuleState) : Engine :=
  { e with states := Function.update e.states key (some state) }

/-! ## Events -/

/-- What the calls of one `emit` return: the event id, unless none could be drawn, and whether
storing the event and queueing its notifications succeed. -/
structure EmitCalls where
  newV7 : Option String
  saveAlertEvent : Bool
  enqueueNotificationDeliveries : Bool

/-- Add an event to the table of events. -/
def AlertStore.saveAlertEvent (s : AlertStore) (event : AlertEvent) (ruleID : Option ℤ) :
    AlertStore :=
  { s with events := s.events ++ [⟨ruleID, event⟩] }

/-- Add one pending delivery of an event for every enabled channel, in one transaction. -/
def AlertStore.enqueueNotificationDeliveries (s : AlertStore) (eventID : String) (now : Time) :
    AlertStore :=
  { s with deliveries := s.deliveries ++ (s.channels.filter (·.enabled)).map fun channel =>
      { eventID, channelID := channel.id, status := "pending", attempts := 0,
        nextAttemptAt := unixMilli now, lastError := "" } }

/-- The page an alert on a node links to. -/
def nodeAlertLink (publicURL : String) (node : Node) : String :=
  if node.role == .probe then publicURL ++ "/admin/latency" else publicURL ++ "/nodes/" ++ node.id

/-- Store an event and queue its notifications; the result says whether the event was stored. -/
def Engine.emit (e : Engine) (calls : EmitCalls) (ruleID : Option ℤ) (eventType : String)
    (status : AlertStatus) (severity : String) (node : Node) (metric : String)
    (value threshold : Float) (message : String) (now : Time) : Engine × Bool :=
  match calls.newV7 with
  | none => (e, false)
  | some id =>
    let event : AlertEvent :=
      { id, type := eventType, status, severity, occurredAt := now, node := node.toPublic, metric,
        value, threshold, link := nodeAlertLink e.publicURL node, message }
    if calls.saveAlertEvent then
      let store := e.store.saveAlertEvent event ruleID
      -- a failure to queue the notifications is logged and otherwise ignored
      let store := if calls.enqueueNotificationDeliveries then
        store.enqueueNotificationDeliveries event.id now else store
      ({ e with store }, true)
    else (e, false)

/-! ## Evaluation of rules -/

/-- Advance the state of a rule on a node by one value. -/
def Engine.evaluateRule (e : Engine) (calls : EmitCalls) (rule : AlertRule) (node : Node)
    (value : Float) (now : Time) : Engine :=
  let key : StateKey := ⟨rule.id, node.id⟩
  let state := e.ruleState key
  let e := e.setState key state
  if compare value rule.operator rule.threshold then
    if state.firing then e
    else
      let state := if isZero state.pendingSince then { state with pendingSince := now } else state
      let e := e.setState key state
      if sub now state.pendingSince < scale (max rule.durationSeconds 0) second then e
      else if 0 < rule.cooldownSeconds &&
          sub now state.lastEvent < scale rule.cooldownSeconds second then e
      else
        let message := node.name ++ ": " ++ rule.metric.text ++ " is " ++ Text.fixed2 value ++
          " (threshold " ++ Text.fixed2 rule.threshold ++ ")"
        let (e, emitted) := e.emit calls (some rule.id) rule.name .firing rule.severity node
          rule.metric.text value rule.threshold message now
        if emitted then e.setState key { state with firing := true, lastEvent := now } else e
  else
    let state := { state with pendingSince := 0 }
    let e := e.setState key state
    if state.firing && recovered value rule then
      let message := node.name ++ " recovered: " ++ rule.metric.text ++ " is " ++
        Text.fixed2 value
      let (e, emitted) := e.emit calls (some rule.id) rule.name .resolved rule.severity node
        rule.metric.text value rule.recoveryThreshold message now
      if emitted then e.setState key { state with firing := false, lastEvent := now } else e
    else e

/-- Evaluate every enabled rule that applies to the item.  The calls of an `emit` are given for
each rule id, since one evaluation emits at most once for a rule. -/
def Engine.evaluate (e : Engine) (calls : ℤ → EmitCalls) (item : Evaluation) (now : Time) :
    Engine :=
  e.rules.foldl (fun e rule =>
    if !rule.enabled || !matchesScope rule.scope item.node then e
    else
      match metricValue rule.metric item.sample item.probe with
      | none => e
      | some value => e.evaluateRule (calls rule.id) rule item.node value now) e

/-- Replace the rules by the stored ones, unless they cannot be read. -/
def Engine.loadRules (e : Engine) (stored : Option (KeyedTable AlertRule.id)) : Engine :=
  match stored with
  | none => e
  | some table =>
    { e with
      rules := table.selectOrdered (fun _ => true) AlertRule.id
      rules_nodup :=
        (((List.perm_insertionSort _ _).map AlertRule.id).nodup_iff).mpr
          ((List.filter_sublist.map AlertRule.id).nodup table.keys_nodup) }

/-! ## The lifecycle sweep -/

/-- The number of hours of a duration: the whole hours plus the fraction of the last one. -/
def durationHours (d : Duration) : Float :=
  Float.ofInt (d.tdiv hour) + Float.ofInt (d.tmod hour) / (60 * 60 * 1e9)

/-- The least integer that is not below a number; zero for a number that is not finite. -/
def ceilToInt (x : Float) : ℤ :=
  match x.toModel.unpack with
  | .notANumber | .infinity _ | .zero _ => 0
  | .finite s m e _ =>
    let num : ℤ := s.apply (m * 2 ^ e.toNat)
    let den : ℤ := 2 ^ (-e).toNat
    (num + den - 1) / den

/-- Remind of a node that expires in 30, 14, 7, 3, 1 or 0 days, once in twenty hours. -/
def Engine.evaluateExpiry (e : Engine) (calls : EmitCalls) (node : Node) (now : Time) : Engine :=
  match node.expiresAt with
  | none => e
  | some expiresAt =>
    if node.autoRenewal then e
    else
      let days := ceilToInt (durationHours (sub expiresAt now) / 24)
      if !([30, 14, 7, 3, 1, 0].contains days) then e
      else
        let previous := e.expiry node.id days
        if !isZero previous && sub now previous < 20 * hour then e
        else
          let severity := if days ≤ 3 then "critical" else "warning"
          let message := node.name ++ " expires in " ++ toString days ++ " day(s)"
          let (e, emitted) := e.emit calls none "expiry" .firing severity node "expiry_days"
            (Float.ofInt days) (Float.ofInt days) message now
          if emitted then
            let byDay := Function.update (e.expiry node.id) days now
            { e with expiry := Function.update e.expiry node.id byDay }
          else e

/-- What the calls of one sweep return: the two lists of nodes, unless they cannot be read, the
latest samples of the hub, and the calls of every `emit`, by node id and rule id. -/
structure SweepCalls where
  listNodes : Option (List Node)
  listLatencyNodes : Option (List Node)
  latest : String → Option MetricSample
  emitMonitor : String → ℤ → EmitCalls
  emitExpiry : String → EmitCalls
  emitLatency : String → ℤ → EmitCalls

/-- The synthetic sample that carries the online bit in the field `cpu`. -/
def onlineSample (online : Bool) (now : Time) : MetricSample :=
  { receivedAt := now, cpu := if online then 1 else 0 }

/-- A monitor is online while its latest sample is recent. -/
def Engine.monitorOnline (e : Engine) (latest : String → Option MetricSample) (node : Node)
    (now : Time) : Bool :=
  match latest node.id with
  | some sample => sub now sample.receivedAt ≤ e.offlineAfter
  | none => false

/-- A latency node is online while it was last seen recently. -/
def Engine.latencyOnline (e : Engine) (node : Node) (now : Time) : Bool :=
  match node.lastSeenAt with
  | some lastSeenAt => sub now lastSeenAt ≤ e.offlineAfter
  | none => false

/-- One lifecycle sweep over the monitors and then over the latency nodes. -/
def Engine.sweepNodes (e : Engine) (calls : SweepCalls) (now : Time) : Engine :=
  match calls.listNodes with
  | none => e
  | some nodes =>
    let e := nodes.foldl (fun e node =>
      let sample := onlineSample (e.monitorOnline calls.latest node now) now
      let e := e.evaluate (calls.emitMonitor node.id) { node, sample := some sample } now
      e.evaluateExpiry (calls.emitExpiry node.id) node now) e
    match calls.listLatencyNodes with
    | none => e
    | some probeNodes =>
      probeNodes.foldl (fun e node =>
        let sample := onlineSample (e.latencyOnline node now) now
        e.evaluate (calls.emitLatency node.id) { node, sample := some sample } now) e

end Hostpin
