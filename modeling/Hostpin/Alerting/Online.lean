import Hostpin.Alerting.Sweep
import Hostpin.Core.Hub
import Hostpin.Store.Nodes

/-!
# The online verdicts of a sweep

A sweep reads two lists of nodes.  A monitor counts as online while the hub has a recent sample of
it, and a node that can measure latency while the store has seen it recently.  A monitor that
measures latency is in both lists, and the store sees it only at its checkpoints, which can be a day
apart.  So the sweep can find the same node online and offline, and then every `online` rule is
evaluated with both values.

`oneVerdict_iff` says exactly when this does not happen.
-/

namespace Hostpin

open Clock

/-! ## What a sweep reads -/

/-- What a sweep reads: the table of nodes, whether each of the two lists can be read, the latest
samples of the hub, and what the store answers to the events.  How the database compares texts is an
argument. -/
structure SweepReads where
  nodes : NodeTable
  textLE : String → String → Bool
  listNodesOK : Bool
  listLatencyNodesOK : Bool
  latest : String → Option MetricSample
  emitMonitor : String → ℤ → EmitCalls
  emitExpiry : String → EmitCalls
  emitLatency : String → ℤ → EmitCalls

/-- The monitors of a sweep. -/
def SweepReads.monitors (r : SweepReads) : List Node :=
  (r.nodes.listNodes r.textLE true).map NodeRow.toNode

/-- The latency nodes of a sweep. -/
def SweepReads.latencyNodes (r : SweepReads) : List Node :=
  (r.nodes.listLatencyNodes r.textLE true).map NodeRow.toNode

/-- The calls of a sweep that reads a table of nodes. -/
def SweepReads.calls (r : SweepReads) : SweepCalls where
  listNodes := if r.listNodesOK then some r.monitors else none
  listLatencyNodes := if r.listLatencyNodesOK then some r.latencyNodes else none
  latest := r.latest
  emitMonitor := r.emitMonitor
  emitExpiry := r.emitExpiry
  emitLatency := r.emitLatency

/-- The node of a row. -/
def NodeRow.scanned (row : NodeRow) : Node := (scanNode row).toNode

lemma SweepReads.mem_monitors {r : SweepReads} {node : Node} :
    node ∈ r.monitors ↔ ∃ row ∈ r.nodes, row.role = .monitor ∧ row.scanned = node := by
  simp only [monitors, NodeTable.listNodes, NodeTable.listNodesByRole, List.map_map, List.mem_map,
    List.mem_insertionSort, List.mem_filter, KeyedTable.mem_def]
  simp [NodeRow.scanned, and_assoc]

lemma SweepReads.mem_latencyNodes {r : SweepReads} {node : Node} :
    node ∈ r.latencyNodes ↔
      ∃ row ∈ r.nodes, (row.role = .probe ∨ row.latencyEnabled = true) ∧ row.scanned = node := by
  simp only [latencyNodes, NodeTable.listLatencyNodes, List.map_map, List.mem_map,
    List.mem_insertionSort, List.mem_filter, KeyedTable.mem_def]
  simp [NodeRow.scanned, and_assoc]

/-- The nodes of a sweep are told apart by their ids. -/
lemma NodeRow.scanned_inj {nodes : NodeTable} {row row' : NodeRow} (h : row ∈ nodes)
    (h' : row' ∈ nodes) (hid : row.scanned.id = row'.scanned.id) : row = row' :=
  KeyedTable.eq_of_key_eq h h' hid

/-! ## Verdicts -/

/-- The value of an `online` rule. -/
def onlineBit (online : Bool) : Float := if online then 1 else 0

lemma onlineBit_injective : Function.Injective onlineBit := by
  intro a b
  revert a b
  decide

/-- The calls of an evaluation for an `online` rule have the online bit as their value. -/
lemma exists_online_ruleCalls_iff {rules : List AlertRule} {calls : ℤ → EmitCalls} {node : Node}
    {online : Bool} {now : Time} {rule : AlertRule} (hmetric : rule.metric = .online)
    {other : Node} {value : Float} :
    (∃ c ∈ ruleCalls rules calls { node, sample := some (onlineSample online now) } now,
        c.rule = rule ∧ c.node = other ∧ c.value = value) ↔
      (rule ∈ rules ∧ rule.enabled = true ∧ matchesScope rule.scope node = true) ∧
        node = other ∧ onlineBit online = value := by
  have hvalue : metricValue rule.metric (some (onlineSample online now)) none =
      some (onlineBit online) := by
    rw [hmetric]
    rfl
  constructor
  · rintro ⟨c, hc, rfl, rfl, rfl⟩
    obtain ⟨rule', hrule, hsome⟩ := List.mem_filterMap.mp hc
    split_ifs at hsome with hskip
    obtain ⟨value, hread, rfl⟩ := Option.map_eq_some_iff.mp hsome
    simp only [Bool.or_eq_true, Bool.not_eq_true', not_or, Bool.not_eq_false] at hskip
    rw [hvalue, Option.some.injEq] at hread
    exact ⟨⟨hrule, hskip⟩, rfl, hread⟩
  · rintro ⟨⟨hrule, henabled, hscope⟩, rfl, rfl⟩
    refine ⟨⟨calls rule.id, rule, node, onlineBit online, now⟩, ?_, rfl, rfl, rfl⟩
    refine List.mem_filterMap.mpr ⟨rule, hrule, ?_⟩
    rw [if_neg (by simp [henabled, hscope]), hvalue]
    rfl

/-- A sweep evaluates an `online` rule on a node with a value. -/
def Engine.Verdict (e : Engine) (calls : SweepCalls) (now : Time) (rule : AlertRule) (node : Node)
    (value : Float) : Prop :=
  ∃ c ∈ sweepCalls e calls now, c.rule = rule ∧ c.node = node ∧ c.value = value

/-- A sweep evaluates an enabled `online` rule on every monitor in its scope by the hub, and then on
every latency node in its scope by the store. -/
lemma Engine.verdict_iff {e : Engine} {r : SweepReads} {now : Time} {rule : AlertRule}
    (hmetric : rule.metric = .online) {node : Node} {value : Float} :
    e.Verdict r.calls now rule node value ↔
      (rule ∈ e.rules ∧ rule.enabled = true ∧ matchesScope rule.scope node = true) ∧
        r.listNodesOK = true ∧
        (node ∈ r.monitors ∧ onlineBit (e.monitorOnline r.latest node now) = value ∨
          r.listLatencyNodesOK = true ∧ node ∈ r.latencyNodes ∧
            onlineBit (e.latencyOnline node now) = value) := by
  have hloop : ∀ (nodes : List Node) (emits : Node → ℤ → EmitCalls) (online : Node → Bool),
      (∃ c ∈ nodes.flatMap fun node => ruleCalls e.rules (emits node)
          { node, sample := some (onlineSample (online node) now) } now,
        c.rule = rule ∧ c.node = node ∧ c.value = value) ↔
      (rule ∈ e.rules ∧ rule.enabled = true ∧ matchesScope rule.scope node = true) ∧
        node ∈ nodes ∧ onlineBit (online node) = value := by
    intro nodes emits online
    constructor
    · rintro ⟨c, hc, hcall⟩
      obtain ⟨n, hn, hc⟩ := List.mem_flatMap.mp hc
      obtain ⟨hrule, rfl, hvalue⟩ := (exists_online_ruleCalls_iff hmetric).mp ⟨c, hc, hcall⟩
      exact ⟨hrule, hn, hvalue⟩
    · rintro ⟨hrule, hn, hvalue⟩
      have hcalls : ∃ c ∈ ruleCalls e.rules (emits node)
          { node, sample := some (onlineSample (online node) now) } now,
          c.rule = rule ∧ c.node = node ∧ c.value = value :=
        (exists_online_ruleCalls_iff hmetric).mpr ⟨hrule, rfl, hvalue⟩
      obtain ⟨c, hc, hcall⟩ := hcalls
      exact ⟨c, List.mem_flatMap.mpr ⟨node, hn, hc⟩, hcall⟩
  have hmonitor := hloop r.monitors (fun node => r.emitMonitor node.id)
    (fun node => e.monitorOnline r.latest node now)
  have hlatency := hloop r.latencyNodes (fun node => r.emitLatency node.id)
    (fun node => e.latencyOnline node now)
  unfold Engine.Verdict sweepCalls SweepReads.calls
  cases r.listNodesOK with
  | false => simp
  | true =>
    cases r.listLatencyNodesOK with
    | false =>
      simp only [if_true, Bool.false_eq_true, if_false, List.append_nil, true_and, false_and,
        or_false]
      exact hmonitor
    | true =>
      simp only [if_true, true_and, List.mem_append, or_and_right, exists_or]
      exact (or_congr hmonitor hlatency).trans and_or_left.symm

/-! ## One verdict -/

/-- A sweep gives one verdict on every node: all evaluations of an `online` rule on the node have
the same value, and a node with a recent sample in the hub is found online. -/
structure Engine.OneVerdict (e : Engine) (calls : SweepCalls) (now : Time) : Prop where
  same : ∀ c ∈ sweepCalls e calls now, ∀ d ∈ sweepCalls e calls now,
    c.rule.metric = .online → c.key = d.key → c.value = d.value
  online : ∀ c ∈ sweepCalls e calls now, c.rule.metric = .online →
    e.monitorOnline calls.latest c.node now = true → c.value = onlineBit true

/-- The hub and the store agree: for every enabled `online` rule and every node in its scope that can
measure latency, the store has seen the node recently when the hub has, and when the node is a
monitor, the hub has when the store has. -/
def Engine.SourcesAgree (e : Engine) (r : SweepReads) (now : Time) : Prop :=
  ∀ rule ∈ e.rules, rule.enabled = true → rule.metric = .online →
    ∀ row ∈ r.nodes, row.role = .probe ∨ row.latencyEnabled = true →
      matchesScope rule.scope row.scanned = true →
        (e.monitorOnline r.latest row.scanned now = true →
            e.latencyOnline row.scanned now = true) ∧
          (row.role = .monitor → e.latencyOnline row.scanned now = true →
            e.monitorOnline r.latest row.scanned now = true)

/-- A call of a sweep for an `online` rule is the verdict of a row. -/
lemma Engine.exists_row_of_mem_sweepCalls {e : Engine} {r : SweepReads} {now : Time} {c : RuleCall}
    (hc : c ∈ sweepCalls e r.calls now) (hmetric : c.rule.metric = .online) :
    (c.rule ∈ e.rules ∧ c.rule.enabled = true ∧ matchesScope c.rule.scope c.node = true) ∧
      ∃ row ∈ r.nodes, row.scanned = c.node ∧
        (row.role = .monitor ∧ c.value = onlineBit (e.monitorOnline r.latest c.node now) ∨
          r.listLatencyNodesOK = true ∧ (row.role = .probe ∨ row.latencyEnabled = true) ∧
            c.value = onlineBit (e.latencyOnline c.node now)) := by
  obtain ⟨hrule, -, ⟨hmem, hvalue⟩ | ⟨hOK, hmem, hvalue⟩⟩ :=
    (e.verdict_iff hmetric).mp ⟨c, hc, rfl, rfl, rfl⟩
  · obtain ⟨row, hrow, hrole, hnode⟩ := SweepReads.mem_monitors.mp hmem
    exact ⟨hrule, row, hrow, hnode, Or.inl ⟨hrole, hvalue.symm⟩⟩
  · obtain ⟨row, hrow, hrole, hnode⟩ := SweepReads.mem_latencyNodes.mp hmem
    exact ⟨hrule, row, hrow, hnode, Or.inr ⟨hOK, hrole, hvalue.symm⟩⟩

/-- A sweep that reads both lists gives one verdict on every node exactly when the hub and the store
agree; a sweep that cannot read one of them always does. -/
theorem Engine.oneVerdict_iff (e : Engine) (r : SweepReads) (now : Time) :
    e.OneVerdict r.calls now ↔
      (r.listNodesOK = true → r.listLatencyNodesOK = true → e.SourcesAgree r now) := by
  constructor
  · intro h hnodesOK hlatencyOK rule hrule henabled hmetric row hrow hrole hscope
    have hlatency : e.Verdict r.calls now rule row.scanned
        (onlineBit (e.latencyOnline row.scanned now)) :=
      (e.verdict_iff hmetric).mpr ⟨⟨hrule, henabled, hscope⟩, hnodesOK,
        Or.inr ⟨hlatencyOK, SweepReads.mem_latencyNodes.mpr ⟨row, hrow, hrole, rfl⟩, rfl⟩⟩
    obtain ⟨c, hc, rfl, hnode, hvalue⟩ := hlatency
    constructor
    · intro hfresh
      rw [← hnode] at hfresh
      have hone := h.online c hc hmetric hfresh
      rw [hvalue] at hone
      exact onlineBit_injective hone
    · intro hmonitor hseen
      have hhub : e.Verdict r.calls now c.rule row.scanned
          (onlineBit (e.monitorOnline r.latest row.scanned now)) :=
        (e.verdict_iff hmetric).mpr ⟨⟨hrule, henabled, hscope⟩, hnodesOK,
          Or.inl ⟨SweepReads.mem_monitors.mpr ⟨row, hrow, hmonitor, rfl⟩, rfl⟩⟩
      obtain ⟨d, hd, hdrule, hdnode, hdvalue⟩ := hhub
      have hkey : c.key = d.key := by
        rw [RuleCall.key, RuleCall.key, hdrule, hdnode, hnode]
      have hsame := h.same c hc d hd hmetric hkey
      rw [hvalue, hdvalue] at hsame
      rw [← onlineBit_injective hsame]
      exact hseen
  · intro hagree
    -- the two verdicts on a row agree
    have hrow : ∀ c ∈ sweepCalls e r.calls now, c.rule.metric = .online →
        ∃ row ∈ r.nodes, row.scanned = c.node ∧
          (row.role = .monitor → c.value = onlineBit (e.monitorOnline r.latest c.node now)) ∧
          (e.monitorOnline r.latest c.node now = true → c.value = onlineBit true) ∧
          (row.role ≠ .monitor → c.value = onlineBit (e.latencyOnline c.node now)) := by
      intro c hc hmetric
      obtain ⟨⟨hrule, henabled, hscope⟩, row, hmem, hnode, hcase⟩ :=
        Engine.exists_row_of_mem_sweepCalls hc hmetric
      refine ⟨row, hmem, hnode, ?_⟩
      obtain ⟨hmonitor, hvalue⟩ | ⟨hlatencyOK, hrole, hvalue⟩ := hcase
      · refine ⟨fun _ => hvalue, fun hfresh => ?_, fun hnot => absurd hmonitor hnot⟩
        rw [hvalue, hfresh]
      · have hnodesOK : r.listNodesOK = true :=
          ((e.verdict_iff hmetric).mp ⟨c, hc, rfl, rfl, rfl⟩).2.1
        rw [← hnode] at hscope
        obtain ⟨hhub, hstore⟩ := hagree hnodesOK hlatencyOK c.rule hrule henabled hmetric row hmem
          hrole hscope
        rw [hnode] at hhub hstore
        refine ⟨fun hmonitor => ?_, fun hfresh => ?_, fun _ => hvalue⟩
        · have heq : e.latencyOnline c.node now = e.monitorOnline r.latest c.node now :=
            Bool.eq_iff_iff.mpr ⟨hstore hmonitor, hhub⟩
          rw [hvalue, heq]
        · rw [hvalue, hhub hfresh]
    constructor
    · intro c hc d hd hmetric hkey
      have hrule : c.rule = d.rule := Engine.rule_eq_of_id_eq (mem_sweepCalls hc).1
        (mem_sweepCalls hd).1 (congrArg StateKey.ruleID hkey)
      obtain ⟨row, hmem, hnode, hmonitor, -, hother⟩ := hrow c hc hmetric
      obtain ⟨row', hmem', hnode', hmonitor', -, hother'⟩ := hrow d hd (hrule ▸ hmetric)
      have hid : row.scanned.id = row'.scanned.id := by
        rw [hnode, hnode']
        exact congrArg StateKey.nodeID hkey
      obtain rfl := NodeRow.scanned_inj hmem hmem' hid
      have hsame : c.node = d.node := hnode.symm.trans hnode'
      by_cases hrole : row.role = .monitor
      · rw [hmonitor hrole, hmonitor' hrole, hsame]
      · rw [hother hrole, hother' hrole, hsame]
    · intro c hc hmetric hfresh
      obtain ⟨row, -, -, -, honline, -⟩ := hrow c hc hmetric
      exact honline hfresh

/-! ## A monitor that is online and offline -/

/-- An engine with the rule that a node is offline. -/
def offlineEngine : Engine where
  rules := [{ id := 1, name := "offline", metric := .online, operator := .lt, threshold := 1,
              recoveryThreshold := 1, severity := "critical", enabled := true }]

/-- A sample of the monitor below at a number of seconds. -/
def measuringSample (seconds : ℤ) : MetricSample :=
  { nodeID := "m1", receivedAt := unixEpoch + seconds * second }

/-- The hub after the first sample of the monitor, which is stored every five minutes. -/
def firstReport : Hub := ({} : Hub).publish (measuringSample 0) (5 * minute) unixEpoch []

/-- The hub after the second sample. -/
def secondReport : Hub := firstReport.publish (measuringSample 120) (5 * minute) unixEpoch []

/-- The monitor, which also measures latency, as the store has it after the first sample. -/
def measuringRow : NodeRow :=
  ({ id := "m1", name := "m1", latencyEnabled := true } : NodeRow).seenBy
    { hostname := "m1", version := "0.1.0" } (measuringSample 0).receivedAt "192.0.2.7"

/-- What a sweep reads after the second sample. -/
def measuringReads : SweepReads where
  nodes := ⟨[measuringRow], by decide⟩
  textLE := fun a b => a ≤ b
  listNodesOK := true
  listLatencyNodesOK := true
  latest := secondReport.latest
  emitMonitor := fun _ _ => acceptingStore
  emitExpiry := fun _ => acceptingStore
  emitLatency := fun _ _ => acceptingStore

/-- Only the first sample is a checkpoint.  Five seconds after the second one the hub has a recent
sample, but the store has not seen the monitor for more than two minutes, and the sweep finds it
offline. -/
theorem online_and_offline :
    ({} : Hub).shouldPersist (measuringSample 0) (5 * minute) = true ∧
      firstReport.shouldPersist (measuringSample 120) (5 * minute) = false ∧
      ¬offlineEngine.OneVerdict measuringReads.calls (unixEpoch + 125 * second) := by
  refine ⟨by decide, by decide, fun h => ?_⟩
  have hlist : measuringRow.scanned ∈ measuringReads.latencyNodes :=
    SweepReads.mem_latencyNodes.mpr ⟨measuringRow, by simp [measuringReads, KeyedTable.mem_def],
      Or.inr rfl, rfl⟩
  have hoffline : offlineEngine.latencyOnline measuringRow.scanned (unixEpoch + 125 * second) =
      false := by decide
  have hverdict : ∀ rule ∈ offlineEngine.rules, offlineEngine.Verdict measuringReads.calls
      (unixEpoch + 125 * second) rule measuringRow.scanned (onlineBit false) := by
    intro rule hrule
    obtain rfl := List.mem_singleton.mp hrule
    refine (offlineEngine.verdict_iff rfl).mpr ⟨⟨hrule, rfl, rfl⟩, rfl, Or.inr ⟨rfl, hlist, ?_⟩⟩
    rw [hoffline]
  obtain ⟨c, hc, hrule, hnode, hvalue⟩ := hverdict _ (List.mem_singleton_self _)
  have hfresh : offlineEngine.monitorOnline measuringReads.calls.latest measuringRow.scanned
      (unixEpoch + 125 * second) = true := by decide
  have hone := h.online c hc (by rw [hrule]) (by rw [hnode]; exact hfresh)
  rw [hvalue] at hone
  exact Bool.false_ne_true (onlineBit_injective hone)

end Hostpin
