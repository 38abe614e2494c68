import Hostpin.Alerting.Engine

/-!
# The engine as a family of rule machines

The state of a rule on a node is touched only by the evaluations of that rule on that node.  This
file makes this precise.  `RuleState.step` is the transition of one such machine, `RuleCall` is one
call of `Engine.evaluateRule`, and `Engine.view` is what the engine knows about one key: the state
of the rule on the node and the events stored for them.  `Engine.view_call` says that a call acts
on the view of its own key by `RuleCall.apply` and leaves every other view alone.  The operations
of the engine are lists of such calls (`ruleCalls`, `sweepCalls`).
-/

namespace Hostpin

open Clock

/-! ## One rule on one node -/

/-- Start the pending period at `now` unless it has started already. -/
def RuleState.arm (s : RuleState) (now : Time) : RuleState :=
  if isZero s.pendingSince then { s with pendingSince := now } else s

/-- A pending rule waits while its duration or its cooldown has not passed. -/
def RuleState.waiting (s : RuleState) (rule : AlertRule) (now : Time) : Bool :=
  sub now s.pendingSince < scale (max rule.durationSeconds 0) second ||
    (0 < rule.cooldownSeconds && sub now s.lastEvent < scale rule.cooldownSeconds second)

/-- The transition of a rule on a node, and the status of the event it stores, if any.  The last
argument says whether an event that is emitted is stored. -/
def RuleState.step (s : RuleState) (rule : AlertRule) (value : Float) (now : Time)
    (stored : Bool) : RuleState × Option AlertStatus :=
  if compare value rule.operator rule.threshold then
    if s.firing then (s, none)
    else if (s.arm now).waiting rule now then (s.arm now, none)
    else if stored then ({ s.arm now with firing := true, lastEvent := now }, some .firing)
    else (s.arm now, none)
  else if s.firing && recovered value rule then
    if stored then ({ pendingSince := 0, firing := false, lastEvent := now }, some .resolved)
    else ({ s with pendingSince := 0 }, none)
  else ({ s with pendingSince := 0 }, none)

/-- One call of `Engine.evaluateRule`. -/
structure RuleCall where
  calls : EmitCalls
  rule : AlertRule
  node : Node
  value : Float
  now : Time

/-- The key whose state a call advances. -/
def RuleCall.key (c : RuleCall) : StateKey := ⟨c.rule.id, c.node.id⟩

/-- Perform a call. -/
def Engine.call (e : Engine) (c : RuleCall) : Engine :=
  e.evaluateRule c.calls c.rule c.node c.value c.now

/-- An emitted event is stored when an id could be drawn for it and the insertion succeeds. -/
def EmitCalls.stored (calls : EmitCalls) : Bool := calls.newV7.isSome && calls.saveAlertEvent

/-- The event that a call stores with the given status. -/
def RuleCall.event (publicURL : String) (c : RuleCall) (status : AlertStatus) : AlertEvent where
  id := c.calls.newV7.getD ""
  type := c.rule.name
  status := status
  severity := c.rule.severity
  occurredAt := c.now
  node := c.node.toPublic
  metric := c.rule.metric.text
  value := c.value
  threshold := match status with
    | .firing => c.rule.threshold
    | .resolved => c.rule.recoveryThreshold
  link := nodeAlertLink publicURL c.node
  message := match status with
    | .firing => c.node.name ++ ": " ++ c.rule.metric.text ++ " is " ++ Text.fixed2 c.value ++
        " (threshold " ++ Text.fixed2 c.rule.threshold ++ ")"
    | .resolved => c.node.name ++ " recovered: " ++ c.rule.metric.text ++ " is " ++
        Text.fixed2 c.value

/-- What the engine knows about one key: the state and the stored events, oldest first. -/
structure RuleView where
  state : RuleState
  events : List AlertEvent
deriving DecidableEq

/-- The effect of a call on the view of its key. -/
def RuleCall.apply (publicURL : String) (c : RuleCall) (v : RuleView) : RuleView where
  state := (v.state.step c.rule c.value c.now c.calls.stored).1
  events := v.events ++
    ((v.state.step c.rule c.value c.now c.calls.stored).2.map (c.event publicURL)).toList

/-- The events of a rule on a node, in the order in which they were stored. -/
def Engine.eventsOf (e : Engine) (key : StateKey) : List AlertEvent :=
  (e.store.events.filter fun row =>
    row.ruleID == some key.ruleID && row.event.node.id == key.nodeID).map (·.event)

/-- What the engine knows about a key. -/
def Engine.view (e : Engine) (key : StateKey) : RuleView := ⟨e.ruleState key, e.eventsOf key⟩

/-! ## Emission -/

/-- The engine with one more stored event. -/
def Engine.record (e : Engine) (calls : EmitCalls) (ruleID : Option ℤ) (event : AlertEvent) :
    Engine :=
  let store := e.store.saveAlertEvent event ruleID
  { e with store := if calls.enqueueNotificationDeliveries then
      store.enqueueNotificationDeliveries event.id event.occurredAt else store }

/-- Recording an event appends its row and changes no other row. -/
@[simp] lemma Engine.record_events (e : Engine) (calls : EmitCalls) (ruleID : Option ℤ)
    (event : AlertEvent) :
    (e.record calls ruleID event).store.events = e.store.events ++ [⟨ruleID, event⟩] := by
  unfold Engine.record
  cases calls.enqueueNotificationDeliveries <;> rfl

/-- An emission that cannot be stored changes nothing. -/
lemma Engine.emit_of_not_stored (e : Engine) {calls : EmitCalls} (h : calls.stored = false)
    (ruleID : Option ℤ) (eventType : String) (status : AlertStatus) (severity : String)
    (node : Node) (metric : String) (value threshold : Float) (message : String) (now : Time) :
    e.emit calls ruleID eventType status severity node metric value threshold message now =
      (e, false) := by
  unfold Engine.emit
  cases hid : calls.newV7 with
  | none => rfl
  | some id =>
    have hsave : calls.saveAlertEvent = false := by simpa [EmitCalls.stored, hid] using h
    simp [hsave]

/-- An emission that can be stored records its event. -/
lemma Engine.emit_of_stored (e : Engine) {calls : EmitCalls} (h : calls.stored = true)
    (ruleID : Option ℤ) (eventType : String) (status : AlertStatus) (severity : String)
    (node : Node) (metric : String) (value threshold : Float) (message : String) (now : Time) :
    e.emit calls ruleID eventType status severity node metric value threshold message now =
      (e.record calls ruleID
        { id := calls.newV7.getD "", type := eventType, status, severity, occurredAt := now,
          node := node.toPublic, metric, value, threshold,
          link := nodeAlertLink e.publicURL node, message }, true) := by
  obtain ⟨hid, hsave⟩ := Bool.and_eq_true_iff.mp h
  obtain ⟨id, hid⟩ := Option.isSome_iff_exists.mp hid
  simp [Engine.emit, Engine.record, hid, hsave]

/-! ## A call acts on the view of its key -/

section States

variable (e : Engine)

/-- Of two states stored for one key the later one remains. -/
@[simp] lemma Engine.setState_setState (key : StateKey) (s t : RuleState) :
    (e.setState key s).setState key t = e.setState key t := by
  simp [Engine.setState]

/-- Storing a state and recording an event commute. -/
lemma Engine.record_setState (key : StateKey) (s : RuleState) (calls : EmitCalls)
    (ruleID : Option ℤ) (event : AlertEvent) :
    (e.setState key s).record calls ruleID event = (e.record calls ruleID event).setState key s :=
  rfl

/-- The state of a key after a state was stored. -/
lemma Engine.ruleState_setState (key k : StateKey) (s : RuleState) :
    (e.setState key s).ruleState k = if k = key then s else e.ruleState k := by
  unfold Engine.ruleState Engine.setState
  by_cases h : k = key <;> simp [h]

/-- Storing a state stores no event. -/
@[simp] lemma Engine.eventsOf_setState (key k : StateKey) (s : RuleState) :
    (e.setState key s).eventsOf k = e.eventsOf k := rfl

/-- A call stores the next state of its key and the event of its transition. -/
lemma Engine.call_eq (c : RuleCall) :
    e.call c =
      match (e.ruleState c.key).step c.rule c.value c.now c.calls.stored with
      | (s, none) => e.setState c.key s
      | (s, some status) =>
        (e.record c.calls (some c.rule.id) (c.event e.publicURL status)).setState c.key s := by
  have hkey : (⟨c.rule.id, c.node.id⟩ : StateKey) = c.key := rfl
  have harm : (if isZero (e.ruleState c.key).pendingSince then
      { e.ruleState c.key with pendingSince := c.now } else e.ruleState c.key) =
        (e.ruleState c.key).arm c.now := rfl
  unfold Engine.call Engine.evaluateRule RuleState.step
  simp only [hkey, harm, Engine.setState_setState]
  by_cases hcmp : compare c.value c.rule.operator c.rule.threshold = true
  · by_cases hfire : (e.ruleState c.key).firing = true
    · simp [hcmp, hfire]
    · simp only [hcmp, hfire, if_true, if_false, Bool.false_eq_true, RuleState.waiting,
        Bool.or_eq_true]
      generalize (e.ruleState c.key).arm c.now = armed
      by_cases hdur : sub c.now armed.pendingSince < scale (max c.rule.durationSeconds 0) second
      · simp [hdur]
      · by_cases hcool : (decide (0 < c.rule.cooldownSeconds) &&
            decide (sub c.now armed.lastEvent < scale c.rule.cooldownSeconds second)) = true
        · simp [hdur, hcool]
        · cases hst : c.calls.stored with
          | false => simp [hdur, hcool, Engine.emit_of_not_stored _ hst]
          | true =>
            simp only [hdur, hcool, Engine.emit_of_stored _ hst, Engine.record_setState,
              Engine.setState_setState, decide_false, Bool.false_eq_true, or_self, if_true,
              if_false]
            rfl
  · by_cases hrec : ((e.ruleState c.key).firing && recovered c.value c.rule) = true
    · cases hst : c.calls.stored with
      | false => simp [hcmp, hrec, Engine.emit_of_not_stored _ hst]
      | true =>
        simp only [hcmp, hrec, Engine.emit_of_stored _ hst, Engine.record_setState,
          Engine.setState_setState, Bool.false_eq_true, if_true, if_false]
        rfl
    · simp [hcmp, hrec]

/-- The events of a key after an event of a rule on a node was recorded. -/
lemma Engine.eventsOf_record (c : RuleCall) (status : AlertStatus) (key : StateKey) :
    (e.record c.calls (some c.rule.id) (c.event e.publicURL status)).eventsOf key =
      e.eventsOf key ++ if c.key = key then [c.event e.publicURL status] else [] := by
  have hnode : (c.event e.publicURL status).node.id = c.node.id := rfl
  unfold Engine.eventsOf
  rw [Engine.record_events, List.filter_append, List.map_append]
  congr 1
  by_cases h : c.key = key
  · subst h
    simp [RuleCall.key, hnode]
  · rw [if_neg h, List.map_eq_nil_iff, List.filter_eq_nil_iff]
    intro row hrow hcontra
    rw [List.mem_singleton] at hrow
    subst hrow
    rw [Bool.and_eq_true, beq_iff_eq, beq_iff_eq, hnode, Option.some.injEq] at hcontra
    apply h
    cases key
    rw [RuleCall.key, hcontra.1, hcontra.2]

/-- A call acts on the view of its own key and leaves every other view alone. -/
theorem Engine.view_call (c : RuleCall) (key : StateKey) :
    (e.call c).view key =
      if c.key = key then c.apply e.publicURL (e.view key) else e.view key := by
  rw [Engine.call_eq]
  obtain ⟨s, status⟩ : ∃ p, p = (e.ruleState c.key).step c.rule c.value c.now c.calls.stored :=
    ⟨_, rfl⟩
  by_cases h : c.key = key
  · subst h
    simp only [if_true, RuleCall.apply, Engine.view, ← status]
    obtain ⟨s, _ | st⟩ := s
    · simp [Engine.ruleState_setState]
    · have hrec := e.eventsOf_record c st c.key
      rw [if_pos rfl] at hrec
      simp only [Engine.ruleState_setState, if_true, Option.map_some, Option.toList_some,
        RuleView.mk.injEq, true_and]
      exact hrec
  · simp only [if_neg h, Engine.view, ← status]
    have hne : key ≠ c.key := Ne.symm h
    obtain ⟨s, _ | st⟩ := s
    · simp [Engine.ruleState_setState, hne]
    · have hrec := e.eventsOf_record c st key
      rw [if_neg h, List.append_nil] at hrec
      simp only [Engine.ruleState_setState, if_neg hne, RuleView.mk.injEq]
      exact ⟨rfl, hrec⟩

end States

/-! ## The operations of the engine as lists of calls -/

/-- Perform a list of calls. -/
def Engine.callAll (e : Engine) (cs : List RuleCall) : Engine := cs.foldl Engine.call e

/-- The effect of a list of calls on the view of one key: only the calls with this key count. -/
def applyAll (publicURL : String) (key : StateKey) (cs : List RuleCall) (v : RuleView) : RuleView :=
  (cs.filter fun c => c.key = key).foldl (fun v c => c.apply publicURL v) v

/-- The calls of one evaluation: the enabled rules in scope whose metric has a value. -/
def ruleCalls (rules : List AlertRule) (calls : ℤ → EmitCalls) (item : Evaluation) (now : Time) :
    List RuleCall :=
  rules.filterMap fun rule =>
    if !rule.enabled || !matchesScope rule.scope item.node then none
    else (metricValue rule.metric item.sample item.probe).map fun value =>
      ⟨calls rule.id, rule, item.node, value, now⟩

/-- The parts of the engine that no evaluation changes. -/
structure SameConfig (e e' : Engine) : Prop where
  publicURL : e'.publicURL = e.publicURL
  offlineAfter : e'.offlineAfter = e.offlineAfter
  rules : e'.rules = e.rules

/-- Every engine has its own configuration. -/
lemma SameConfig.refl (e : Engine) : SameConfig e e := ⟨rfl, rfl, rfl⟩

/-- Having the same configuration is transitive. -/
lemma SameConfig.trans {e e' e'' : Engine} (h : SameConfig e e') (h' : SameConfig e' e'') :
    SameConfig e e'' :=
  ⟨h'.publicURL.trans h.publicURL, h'.offlineAfter.trans h.offlineAfter, h'.rules.trans h.rules⟩

/-- A call keeps the configuration. -/
lemma Engine.sameConfig_call (e : Engine) (c : RuleCall) : SameConfig e (e.call c) := by
  rw [Engine.call_eq]
  split <;> exact ⟨rfl, rfl, rfl⟩

/-- A list of calls keeps the configuration. -/
lemma Engine.sameConfig_callAll (e : Engine) (cs : List RuleCall) :
    SameConfig e (e.callAll cs) := by
  induction cs generalizing e with
  | nil => exact SameConfig.refl e
  | cons c cs ih => exact (e.sameConfig_call c).trans (ih (e.call c))

/-- The view of a key after a list of calls. -/
theorem Engine.view_callAll (e : Engine) (cs : List RuleCall) (key : StateKey) :
    (e.callAll cs).view key = applyAll e.publicURL key cs (e.view key) := by
  induction cs generalizing e with
  | nil => rfl
  | cons c cs ih =>
    have hstep : (e.callAll (c :: cs)).view key = ((e.call c).callAll cs).view key := rfl
    rw [hstep, ih, (e.sameConfig_call c).publicURL, Engine.view_call]
    by_cases h : c.key = key <;> simp [applyAll, h]

/-- Two lists of calls one after the other. -/
lemma applyAll_append (publicURL : String) (key : StateKey) (cs ds : List RuleCall)
    (v : RuleView) :
    applyAll publicURL key (cs ++ ds) v =
      applyAll publicURL key ds (applyAll publicURL key cs v) := by
  simp [applyAll]

/-- An evaluation performs its calls. -/
theorem Engine.evaluate_eq (e : Engine) (calls : ℤ → EmitCalls) (item : Evaluation) (now : Time) :
    e.evaluate calls item now = e.callAll (ruleCalls e.rules calls item now) := by
  unfold Engine.evaluate Engine.callAll ruleCalls
  rw [List.foldl_filterMap]
  congr 1
  funext e rule
  by_cases h : (!rule.enabled || !matchesScope rule.scope item.node) = true
  · simp [h]
  · rw [if_neg h, if_neg h]
    cases metricValue rule.metric item.sample item.probe <;> rfl

/-- An expiry check changes nothing, or it records one event without a rule. -/
lemma Engine.evaluateExpiry_cases (e : Engine) (calls : EmitCalls) (node : Node) (now : Time) :
    e.evaluateExpiry calls node now = e ∨
      ∃ event expiry, e.evaluateExpiry calls node now =
        { e.record calls none event with expiry } := by
  unfold Engine.evaluateExpiry
  cases node.expiresAt with
  | none => exact Or.inl rfl
  | some expiresAt =>
    simp only
    generalize ceilToInt (durationHours (sub expiresAt now) / 24) = days
    by_cases hauto : node.autoRenewal = true
    · exact Or.inl (if_pos hauto)
    rw [if_neg hauto]
    by_cases hdays : (!([30, 14, 7, 3, 1, 0].contains days)) = true
    · exact Or.inl (if_pos hdays)
    rw [if_neg hdays]
    by_cases hprev : (!isZero (e.expiry node.id days) &&
        decide (sub now (e.expiry node.id days) < 20 * hour)) = true
    · exact Or.inl (if_pos hprev)
    rw [if_neg hprev]
    cases hst : calls.stored with
    | false => exact Or.inl (by simp [Engine.emit_of_not_stored _ hst])
    | true =>
      simp only [Engine.emit_of_stored _ hst, if_true]
      exact Or.inr ⟨_, _, rfl⟩

/-- An expiry check keeps the configuration. -/
lemma Engine.sameConfig_evaluateExpiry (e : Engine) (calls : EmitCalls) (node : Node)
    (now : Time) : SameConfig e (e.evaluateExpiry calls node now) := by
  rcases e.evaluateExpiry_cases calls node now with h | ⟨event, expiry, h⟩
  · rw [h]
    exact SameConfig.refl e
  · rw [h]
    exact ⟨rfl, rfl, rfl⟩

/-- An expiry reminder is not an event of a rule. -/
lemma Engine.view_evaluateExpiry (e : Engine) (calls : EmitCalls) (node : Node) (now : Time)
    (key : StateKey) : (e.evaluateExpiry calls node now).view key = e.view key := by
  rcases e.evaluateExpiry_cases calls node now with h | ⟨event, expiry, h⟩
  · rw [h]
  · have hevents : (e.record calls none event).eventsOf key = e.eventsOf key := by
      simp [Engine.eventsOf]
    rw [h, Engine.view, Engine.view]
    exact congrArg (RuleView.mk (e.ruleState key)) hevents

/-! ## The sweep as a list of calls -/

/-- The calls of a sweep over the monitors. -/
def monitorCalls (e : Engine) (calls : SweepCalls) (now : Time) (nodes : List Node) :
    List RuleCall :=
  nodes.flatMap fun node => ruleCalls e.rules (calls.emitMonitor node.id)
    { node, sample := some (onlineSample (e.monitorOnline calls.latest node now) now) } now

/-- The calls of a sweep over the latency nodes. -/
def latencyCalls (e : Engine) (calls : SweepCalls) (now : Time) (nodes : List Node) :
    List RuleCall :=
  nodes.flatMap fun node => ruleCalls e.rules (calls.emitLatency node.id)
    { node, sample := some (onlineSample (e.latencyOnline node now) now) } now

/-- The calls of a sweep. -/
def sweepCalls (e : Engine) (calls : SweepCalls) (now : Time) : List RuleCall :=
  match calls.listNodes with
  | none => []
  | some nodes =>
    monitorCalls e calls now nodes ++
      match calls.listLatencyNodes with
      | none => []
      | some probeNodes => latencyCalls e calls now probeNodes

/-- One step of the loop over the monitors. -/
def Engine.sweepMonitor (calls : SweepCalls) (now : Time) (e : Engine) (node : Node) : Engine :=
  (e.evaluate (calls.emitMonitor node.id)
    { node, sample := some (onlineSample (e.monitorOnline calls.latest node now) now) }
    now).evaluateExpiry (calls.emitExpiry node.id) node now

/-- One step of the loop over the latency nodes. -/
def Engine.sweepLatency (calls : SweepCalls) (now : Time) (e : Engine) (node : Node) : Engine :=
  e.evaluate (calls.emitLatency node.id)
    { node, sample := some (onlineSample (e.latencyOnline node now) now) } now

/-- The calls of the latency loop depend on the engine only through its configuration. -/
lemma latencyCalls_congr {e e' : Engine} (h : SameConfig e e') (calls : SweepCalls) (now : Time)
    (nodes : List Node) : latencyCalls e' calls now nodes = latencyCalls e calls now nodes := by
  simp only [latencyCalls, Engine.latencyOnline, h.rules, h.offlineAfter]

/-- A loop over nodes keeps the configuration and acts on a view by the calls of its nodes, when one
step does and the calls of a node depend on the engine only through its configuration. -/
lemma Engine.foldl_nodes {step : Engine → Node → Engine} (callsOf : Engine → Node → List RuleCall)
    (hstep : ∀ e node, SameConfig e (step e node) ∧ ∀ key,
      (step e node).view key = applyAll e.publicURL key (callsOf e node) (e.view key))
    (hcongr : ∀ e e', SameConfig e e' → callsOf e' = callsOf e) (e : Engine) (nodes : List Node) :
    SameConfig e (nodes.foldl step e) ∧ ∀ key,
      (nodes.foldl step e).view key =
        applyAll e.publicURL key (nodes.flatMap (callsOf e)) (e.view key) := by
  induction nodes generalizing e with
  | nil => exact ⟨SameConfig.refl e, fun key => rfl⟩
  | cons node nodes ih =>
    obtain ⟨hconf, hview⟩ := hstep e node
    obtain ⟨ihconf, ihview⟩ := ih (step e node)
    refine ⟨hconf.trans ihconf, fun key => ?_⟩
    rw [List.foldl_cons, ihview, hview, hconf.publicURL, hcongr e _ hconf, ← applyAll_append,
      List.flatMap_cons]

/-- The loop over the monitors keeps the configuration and acts on a view by its calls. -/
lemma Engine.foldl_sweepMonitor (e : Engine) (calls : SweepCalls) (now : Time)
    (nodes : List Node) :
    SameConfig e (nodes.foldl (Engine.sweepMonitor calls now) e) ∧
      ∀ key, (nodes.foldl (Engine.sweepMonitor calls now) e).view key =
        applyAll e.publicURL key (monitorCalls e calls now nodes) (e.view key) := by
  refine Engine.foldl_nodes (fun e node => ruleCalls e.rules (calls.emitMonitor node.id)
    { node, sample := some (onlineSample (e.monitorOnline calls.latest node now) now) } now)
    (fun e node => ?_) (fun e e' h => ?_) e nodes
  · unfold Engine.sweepMonitor
    rw [Engine.evaluate_eq]
    refine ⟨?_, fun key => ?_⟩
    · exact (e.sameConfig_callAll _).trans (Engine.sameConfig_evaluateExpiry _ _ _ _)
    · rw [Engine.view_evaluateExpiry, Engine.view_callAll]
  · simp only [Engine.monitorOnline, h.rules, h.offlineAfter]

/-- The loop over the latency nodes keeps the configuration and acts on a view by its calls. -/
lemma Engine.foldl_sweepLatency (e : Engine) (calls : SweepCalls) (now : Time)
    (nodes : List Node) :
    SameConfig e (nodes.foldl (Engine.sweepLatency calls now) e) ∧
      ∀ key, (nodes.foldl (Engine.sweepLatency calls now) e).view key =
        applyAll e.publicURL key (latencyCalls e calls now nodes) (e.view key) := by
  refine Engine.foldl_nodes (fun e node => ruleCalls e.rules (calls.emitLatency node.id)
    { node, sample := some (onlineSample (e.latencyOnline node now) now) } now)
    (fun e node => ?_) (fun e e' h => ?_) e nodes
  · unfold Engine.sweepLatency
    rw [Engine.evaluate_eq]
    exact ⟨e.sameConfig_callAll _, Engine.view_callAll e _⟩
  · simp only [Engine.latencyOnline, h.rules, h.offlineAfter]

/-- A sweep keeps the configuration and acts on the view of every key by its calls. -/
theorem Engine.sweepNodes_spec (e : Engine) (calls : SweepCalls) (now : Time) :
    SameConfig e (e.sweepNodes calls now) ∧
      ∀ key, (e.sweepNodes calls now).view key =
        applyAll e.publicURL key (sweepCalls e calls now) (e.view key) := by
  unfold Engine.sweepNodes sweepCalls
  cases calls.listNodes with
  | none => exact ⟨SameConfig.refl e, fun key => rfl⟩
  | some nodes =>
    obtain ⟨hconf, hview⟩ := e.foldl_sweepMonitor calls now nodes
    cases calls.listLatencyNodes with
    | none =>
      refine ⟨hconf, fun key => (hview key).trans ?_⟩
      simp only [List.append_nil]
    | some probeNodes =>
      obtain ⟨hconf', hview'⟩ :=
        (nodes.foldl (Engine.sweepMonitor calls now) e).foldl_sweepLatency calls now probeNodes
      refine ⟨hconf.trans hconf', fun key => (hview' key).trans ?_⟩
      simp only [applyAll_append]
      rw [hview key, latencyCalls_congr hconf, hconf.publicURL]

end Hostpin
