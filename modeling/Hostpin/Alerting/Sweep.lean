import Hostpin.Alerting.LifeCycle
import Hostpin.Foundation.Runs

/-!
# Sweeps and metric rules

The lifecycle sweep pushes a synthetic sample through the evaluation of all rules, not only of the
`online` rules it is made for: a `cpu` rule sees the online bit and the other metrics see zero.
This file says exactly when such an evaluation leaves a rule alone (`RuleState.Quiet`), proves that
runs whose sweeps are quiet have the events and states of the runs without the sweeps, and shows a
run where a sweep is not quiet and a due alert is lost.
-/

namespace Hostpin

open Clock Runs

/-! ## Evaluations that leave a rule alone -/

/-- A value leaves a rule alone.  A value that meets the condition does so when the rule is firing
already, or is pending already and still waits.  A value that does not meet it does so when the
rule is not pending and does not recover from an alert. -/
def RuleState.Quiet (s : RuleState) (rule : AlertRule) (value : Float) (now : Time) : Prop :=
  if compare value rule.operator rule.threshold then
    s.firing = true ∨ (s.pendingSince = 0 → now = 0) ∧ (s.arm now).waiting rule now = true
  else s.pendingSince = 0 ∧ (s.firing && recovered value rule) = false

instance (s : RuleState) (rule : AlertRule) (value : Float) (now : Time) :
    Decidable (s.Quiet rule value now) :=
  inferInstanceAs (Decidable (ite _ _ _))

/-- Arming a rule changes nothing exactly when it is armed already or armed at the zero instant. -/
lemma RuleState.arm_eq_self_iff (s : RuleState) (now : Time) :
    s.arm now = s ↔ (s.pendingSince = 0 → now = 0) := by
  cases s with
  | mk pendingSince firing lastEvent =>
    by_cases h : pendingSince = 0
    · subst h
      simp [RuleState.arm]
    · simp [RuleState.arm, h]

/-- A value leaves a rule alone exactly when the evaluation changes neither the state nor the
events, whether or not an event could be stored. -/
lemma RuleState.quiet_iff (s : RuleState) (rule : AlertRule) (value : Float) (now : Time) :
    s.Quiet rule value now ↔ ∀ stored, s.step rule value now stored = (s, none) := by
  unfold RuleState.Quiet RuleState.step
  cases hcmp : compare value rule.operator rule.threshold with
  | true =>
    cases hfire : s.firing with
    | true => simp
    | false =>
      cases hwait : (s.arm now).waiting rule now with
      | true => simp [RuleState.arm_eq_self_iff]
      | false => simp
  | false =>
    have hreset : ({ s with pendingSince := 0 } : RuleState) = s ↔ s.pendingSince = 0 := by
      cases s
      simp [eq_comm]
    cases hrec : (s.firing && recovered value rule) <;> simp [hreset]

/-- Calls that leave the rule of a key alone do not change the view of the key. -/
lemma applyAll_of_quiet {publicURL : String} {key : StateKey} {cs : List RuleCall} {v : RuleView}
    (h : ∀ c ∈ cs, c.key = key → v.state.Quiet c.rule c.value c.now) :
    applyAll publicURL key cs v = v := by
  induction cs with
  | nil => rfl
  | cons c cs ih =>
    have htail : applyAll publicURL key cs v = v :=
      ih fun d hd => h d (List.mem_cons_of_mem _ hd)
    by_cases hc : c.key = key
    · have hquiet := h c List.mem_cons_self hc
      have happly : c.apply publicURL v = v := by
        rw [RuleCall.apply, (RuleState.quiet_iff _ _ _ _).mp hquiet]
        simp
      simpa [applyAll, hc, happly] using htail
    · simpa [applyAll, hc] using htail

/-- A call of an evaluation is for an enabled rule, on the node of the item, with the value of the
rule's metric in the item and the answers of the store for the rule. -/
structure RuleCall.IsFor (rules : List AlertRule) (calls : ℤ → EmitCalls) (item : Evaluation)
    (c : RuleCall) : Prop where
  mem : c.rule ∈ rules
  enabled : c.rule.enabled = true
  node : c.node = item.node
  value : metricValue c.rule.metric item.sample item.probe = some c.value
  outcome : c.calls = calls c.rule.id

/-- Every call of an evaluation is one for its rules and its item. -/
lemma RuleCall.isFor_of_mem {rules : List AlertRule} {calls : ℤ → EmitCalls} {item : Evaluation}
    {now : Time} {c : RuleCall} (h : c ∈ ruleCalls rules calls item now) :
    c.IsFor rules calls item := by
  obtain ⟨rule, hrule, hc⟩ := List.mem_filterMap.mp h
  split_ifs at hc with hskip
  obtain ⟨value, hvalue, rfl⟩ := Option.map_eq_some_iff.mp hc
  simp only [Bool.or_eq_true, Bool.not_eq_true', not_or, Bool.not_eq_false] at hskip
  exact ⟨hrule, hskip.1, rfl, hvalue, rfl⟩

/-- A call of a sweep is a call of one of its evaluations. -/
lemma exists_ruleCalls_of_mem_sweepCalls {e : Engine} {calls : SweepCalls} {now : Time}
    {c : RuleCall} (h : c ∈ sweepCalls e calls now) :
    ∃ emits node online, (emits = calls.emitMonitor node.id ∨ emits = calls.emitLatency node.id) ∧
      c ∈ ruleCalls e.rules emits { node, sample := some (onlineSample online now) } now := by
  unfold sweepCalls at h
  cases hnodes : calls.listNodes with
  | none =>
    rw [hnodes] at h
    cases h
  | some nodes =>
    rw [hnodes] at h
    rcases List.mem_append.mp h with h | h
    · obtain ⟨node, -, hc⟩ := List.mem_flatMap.mp h
      exact ⟨_, node, _, Or.inl rfl, hc⟩
    · cases hprobe : calls.listLatencyNodes with
      | none =>
        rw [hprobe] at h
        cases h
      | some probeNodes =>
        rw [hprobe] at h
        obtain ⟨node, -, hc⟩ := List.mem_flatMap.mp h
        exact ⟨_, node, _, Or.inr rfl, hc⟩

/-- A call of a sweep is for one of the rules. -/
lemma mem_sweepCalls {e : Engine} {calls : SweepCalls} {now : Time} {c : RuleCall}
    (h : c ∈ sweepCalls e calls now) : c.rule ∈ e.rules ∧ c.rule.enabled = true := by
  obtain ⟨emits, node, online, -, hc⟩ := exists_ruleCalls_of_mem_sweepCalls h
  exact ⟨(RuleCall.isFor_of_mem hc).mem, (RuleCall.isFor_of_mem hc).enabled⟩

/-- A rule is known by its id. -/
lemma Engine.rule_eq_of_id_eq {e : Engine} {rule rule' : AlertRule} (h : rule ∈ e.rules)
    (h' : rule' ∈ e.rules) (hid : rule.id = rule'.id) : rule = rule' :=
  List.inj_on_of_nodup_map e.rules_nodup h h' hid

/-! ## Runs -/

/-- What the loop of the engine does between two reloads: it evaluates a metric sample or a probe
result, or it sweeps. -/
inductive Action where
  | sample (node : Node) (sample : MetricSample) (now : Time) (calls : ℤ → EmitCalls)
  | probe (node : Node) (result : ProbeResult) (now : Time) (calls : ℤ → EmitCalls)
  | sweep (calls : SweepCalls) (now : Time)

/-- Whether an action is a sweep. -/
def Action.isSweep : Action → Bool
  | .sweep .. => true
  | _ => false

/-- Perform an action. -/
def Engine.act (e : Engine) : Action → Engine
  | .sample node sample now calls => e.evaluate calls { node, sample := some sample } now
  | .probe node result now calls => e.evaluate calls { node, probe := some result } now
  | .sweep calls now => e.sweepNodes calls now

/-- Perform a list of actions. -/
def Engine.run (e : Engine) (as : List Action) : Engine := as.foldl Engine.act e

/-- One sweep changes the state and stores events only for `online` rules. -/
def Engine.SweepTransparent (e : Engine) (calls : SweepCalls) (now : Time) : Prop :=
  ∀ rule ∈ e.rules, rule.metric ≠ .online → ∀ nodeID,
    (e.sweepNodes calls now).view ⟨rule.id, nodeID⟩ = e.view ⟨rule.id, nodeID⟩

/-- For every rule that is not an `online` rule the run has the state and the events of the run
without the sweeps. -/
def Engine.RunTransparent (e : Engine) (as : List Action) : Prop :=
  ∀ rule ∈ e.rules, rule.metric ≠ .online → ∀ nodeID,
    (e.run as).view ⟨rule.id, nodeID⟩ =
      (e.run (as.filter fun a => !a.isSweep)).view ⟨rule.id, nodeID⟩

/-- Before a sweep, the value that the synthetic sample gives a rule leaves the rule alone, for
every enabled rule that is not an `online` rule and every swept node in its scope. -/
def Engine.Undisturbed (e : Engine) (calls : SweepCalls) (now : Time) : Prop :=
  ∀ c ∈ sweepCalls e calls now, c.rule.metric ≠ .online →
    (e.ruleState c.key).Quiet c.rule c.value c.now

/-- An undisturbed sweep changes no rule but the `online` rules. -/
lemma Engine.sweepTransparent_of_undisturbed {e : Engine} {calls : SweepCalls} {now : Time}
    (h : e.Undisturbed calls now) : e.SweepTransparent calls now := by
  intro rule hrule hmetric nodeID
  rw [(e.sweepNodes_spec calls now).2]
  refine applyAll_of_quiet fun c hc hkey => ?_
  have hid : c.rule.id = rule.id := congrArg StateKey.ruleID hkey
  have hsame : c.rule = rule := Engine.rule_eq_of_id_eq (mem_sweepCalls hc).1 hrule hid
  have hquiet := h c hc (by rwa [hsame])
  rwa [hkey] at hquiet

/-- An action keeps the configuration. -/
lemma Engine.sameConfig_act (e : Engine) (a : Action) : SameConfig e (e.act a) := by
  cases a with
  | sample node sample now calls =>
    rw [Engine.act, Engine.evaluate_eq]
    exact e.sameConfig_callAll _
  | probe node result now calls =>
    rw [Engine.act, Engine.evaluate_eq]
    exact e.sameConfig_callAll _
  | sweep calls now => exact (e.sweepNodes_spec calls now).1

/-- Two engines agree on the rules that are not `online` rules. -/
structure MetricRulesAgree (e e' : Engine) : Prop where
  config : SameConfig e e'
  view : ∀ rule ∈ e.rules, rule.metric ≠ .online → ∀ nodeID,
    e.view ⟨rule.id, nodeID⟩ = e'.view ⟨rule.id, nodeID⟩

/-- The same evaluation keeps the agreement. -/
lemma MetricRulesAgree.evaluate {e e' : Engine} (h : MetricRulesAgree e e')
    (calls : ℤ → EmitCalls) (item : Evaluation) (now : Time) :
    MetricRulesAgree (e.evaluate calls item now) (e'.evaluate calls item now) := by
  rw [Engine.evaluate_eq, Engine.evaluate_eq]
  have hconf := e.sameConfig_callAll (ruleCalls e.rules calls item now)
  have hconf' := e'.sameConfig_callAll (ruleCalls e'.rules calls item now)
  refine ⟨⟨?_, ?_, ?_⟩, fun rule hrule hmetric nodeID => ?_⟩
  · rw [hconf.publicURL, hconf'.publicURL, h.config.publicURL]
  · rw [hconf.offlineAfter, hconf'.offlineAfter, h.config.offlineAfter]
  · rw [hconf.rules, hconf'.rules, h.config.rules]
  · rw [hconf.rules] at hrule
    rw [Engine.view_callAll, Engine.view_callAll, h.config.rules, h.config.publicURL,
      h.view rule hrule hmetric]

/-- A transparent sweep of the left engine keeps the agreement. -/
lemma MetricRulesAgree.sweep_left {e e' : Engine} (h : MetricRulesAgree e e')
    {calls : SweepCalls} {now : Time} (hsweep : e.SweepTransparent calls now) :
    MetricRulesAgree (e.sweepNodes calls now) e' := by
  have hconf := (e.sweepNodes_spec calls now).1
  refine ⟨⟨?_, ?_, ?_⟩, fun rule hrule hmetric nodeID => ?_⟩
  · rw [hconf.publicURL, h.config.publicURL]
  · rw [hconf.offlineAfter, h.config.offlineAfter]
  · rw [hconf.rules, h.config.rules]
  · rw [hconf.rules] at hrule
    rw [hsweep rule hrule hmetric, h.view rule hrule hmetric]

/-- Runs keep the agreement between the engine with the sweeps and the one without. -/
lemma MetricRulesAgree.run {e e' : Engine} (h : MetricRulesAgree e e') (as : List Action)
    (hquiet : ∀ pre calls now post, as = pre ++ .sweep calls now :: post →
      (e.run pre).Undisturbed calls now) :
    MetricRulesAgree (e.run as) (e'.run (as.filter fun a => !a.isSweep)) := by
  refine run_filter (C := fun e a => ∀ calls now, a = .sweep calls now → e.Undisturbed calls now)
    ?_ ?_ h (along_iff_split.mpr ?_)
  · intro e e' a h hkeep
    cases a with
    | sample node sample now calls => exact h.evaluate calls _ now
    | probe node result now calls => exact h.evaluate calls _ now
    | sweep calls now => exact absurd hkeep Bool.false_ne_true
  · intro e e' a h hkeep hundisturbed
    cases a with
    | sample node sample now calls => exact absurd hkeep Bool.true_eq_false.mp
    | probe node result now calls => exact absurd hkeep Bool.true_eq_false.mp
    | sweep calls now =>
      exact h.sweep_left (Engine.sweepTransparent_of_undisturbed (hundisturbed calls now rfl))
  · rintro pre a post has - calls now rfl
    exact hquiet pre calls now post has

/-- A run keeps the configuration. -/
lemma Engine.sameConfig_run (e : Engine) (as : List Action) : SameConfig e (e.run as) := by
  induction as generalizing e with
  | nil => exact SameConfig.refl e
  | cons a as ih => exact (e.sameConfig_act a).trans (ih (e.act a))

/-- In a run whose sweeps are all undisturbed the sweeps are invisible to the metric rules. -/
lemma Engine.runTransparent_of_undisturbed {e : Engine} {as : List Action}
    (h : ∀ pre calls now post, as = pre ++ .sweep calls now :: post →
      (e.run pre).Undisturbed calls now) : e.RunTransparent as := by
  have hagree : MetricRulesAgree e e := ⟨SameConfig.refl e, fun _ _ _ _ => rfl⟩
  intro rule hrule hmetric nodeID
  exact (hagree.run as h).view rule (by rwa [(e.sameConfig_run as).rules]) hmetric nodeID

/-! ## The condition is necessary when no node is swept twice -/

/-- The sweep with the same answer of the store to every event. -/
def SweepCalls.withOutcome (calls : SweepCalls) (o : EmitCalls) : SweepCalls :=
  { calls with emitMonitor := fun _ _ => o, emitExpiry := fun _ => o, emitLatency := fun _ _ => o }

/-- No node is swept twice: no monitor is also listed as a latency node. -/
def SweepCalls.NodesDistinct (calls : SweepCalls) : Prop :=
  ((calls.listNodes.getD [] ++ calls.listLatencyNodes.getD []).map Node.id).Nodup

/-- A call without the answers of the store. -/
def RuleCall.forget (c : RuleCall) : AlertRule × Node × Float × Time :=
  (c.rule, c.node, c.value, c.now)

/-- Two lists of calls that differ only in the answers of the store have the same calls
otherwise. -/
lemma RuleCall.exists_of_forget {cs ds : List RuleCall}
    (h : cs.map RuleCall.forget = ds.map RuleCall.forget) {c : RuleCall} (hc : c ∈ cs) :
    ∃ d ∈ ds, d.rule = c.rule ∧ d.node = c.node ∧ d.value = c.value ∧ d.now = c.now := by
  have hforget : c.forget ∈ ds.map RuleCall.forget := by
    rw [← h]
    exact List.mem_map_of_mem hc
  obtain ⟨d, hd, hsame⟩ := List.mem_map.mp hforget
  exact ⟨d, hd, by simpa [RuleCall.forget] using hsame⟩

/-- Which calls an evaluation makes does not depend on the answers of the store. -/
lemma ruleCalls_forget (rules : List AlertRule) (calls calls' : ℤ → EmitCalls)
    (item : Evaluation) (now : Time) :
    (ruleCalls rules calls item now).map RuleCall.forget =
      (ruleCalls rules calls' item now).map RuleCall.forget := by
  simp only [ruleCalls, List.map_filterMap]
  refine List.filterMap_congr fun rule _ => ?_
  split_ifs
  · rfl
  · simp only [Option.map_map]
    rfl

/-- Which calls a sweep makes does not depend on the answers of the store. -/
lemma sweepCalls_forget (e : Engine) (calls : SweepCalls) (o : EmitCalls) (now : Time) :
    (sweepCalls e calls now).map RuleCall.forget =
      (sweepCalls e (calls.withOutcome o) now).map RuleCall.forget := by
  unfold sweepCalls SweepCalls.withOutcome
  cases calls.listNodes with
  | none => rfl
  | some nodes =>
    cases calls.listLatencyNodes with
    | none =>
      simp only [monitorCalls, List.append_nil, List.map_flatMap]
      exact List.flatMap_congr fun node _ => ruleCalls_forget _ _ _ _ _
    | some probeNodes =>
      simp only [monitorCalls, latencyCalls, List.map_append, List.map_flatMap]
      congr 1
      · exact List.flatMap_congr fun node _ => ruleCalls_forget _ _ _ _ _
      · exact List.flatMap_congr fun node _ => ruleCalls_forget _ _ _ _ _

/-- Every call of the sweep gets the same answer of the store. -/
lemma sweepCalls_outcome {e : Engine} {calls : SweepCalls} {o : EmitCalls} {now : Time}
    {c : RuleCall} (h : c ∈ sweepCalls e (calls.withOutcome o) now) : c.calls = o := by
  obtain ⟨emits, node, online, hemits, hc⟩ := exists_ruleCalls_of_mem_sweepCalls h
  rw [(RuleCall.isFor_of_mem hc).outcome]
  rcases hemits with rfl | rfl
  · rfl
  · rfl

/-- One evaluation makes at most one call for a key. -/
lemma ruleCalls_keys_nodup {rules : List AlertRule} (hnd : (rules.map AlertRule.id).Nodup)
    (calls : ℤ → EmitCalls) (item : Evaluation) (now : Time) :
    (ruleCalls rules calls item now).Pairwise fun c d => c.key ≠ d.key := by
  rw [ruleCalls, List.pairwise_filterMap]
  refine (List.pairwise_map.mp hnd).imp fun {rule rule'} hne c hc d hd hkey => hne ?_
  have hrule : ∀ {rule : AlertRule} {c : RuleCall}, (if !rule.enabled ||
      !matchesScope rule.scope item.node then none
      else (metricValue rule.metric item.sample item.probe).map fun value =>
        (⟨calls rule.id, rule, item.node, value, now⟩ : RuleCall)) = some c → c.rule = rule := by
    intro rule c hc
    split_ifs at hc
    obtain ⟨value, -, rfl⟩ := Option.map_eq_some_iff.mp hc
    rfl
  rw [← hrule hc, ← hrule hd]
  exact congrArg StateKey.ruleID hkey

/-- The evaluations of distinct nodes make at most one call for a key. -/
lemma flatMap_ruleCalls_keys_nodup {rules : List AlertRule}
    (hnd : (rules.map AlertRule.id).Nodup) {nodes : List Node} (hnodes : (nodes.map Node.id).Nodup)
    (calls : Node → ℤ → EmitCalls) (sample : Node → MetricSample) (now : Time) :
    (nodes.flatMap fun node => ruleCalls rules (calls node)
      { node, sample := some (sample node) } now).Pairwise fun c d => c.key ≠ d.key := by
  rw [List.pairwise_flatMap]
  refine ⟨fun node _ => ruleCalls_keys_nodup hnd _ _ _, ?_⟩
  refine (List.pairwise_map.mp hnodes).imp fun {node node'} hne c hc d hd hkey => hne ?_
  have hcnode : c.node = node := (RuleCall.isFor_of_mem hc).node
  have hdnode : d.node = node' := (RuleCall.isFor_of_mem hd).node
  rw [← hcnode, ← hdnode]
  exact congrArg StateKey.nodeID hkey

/-- A sweep of distinct nodes makes at most one call for a key. -/
lemma sweepCalls_keys_nodup (e : Engine) {calls : SweepCalls} (h : calls.NodesDistinct)
    (now : Time) : (sweepCalls e calls now).Pairwise fun c d => c.key ≠ d.key := by
  unfold SweepCalls.NodesDistinct at h
  unfold sweepCalls
  cases hnodes : calls.listNodes with
  | none => exact List.Pairwise.nil
  | some nodes =>
    simp only [hnodes, Option.getD_some, List.map_append, List.nodup_append] at h
    obtain ⟨hmonitor, hlatency, hdisjoint⟩ := h
    have hleft : (monitorCalls e calls now nodes).Pairwise fun c d => c.key ≠ d.key :=
      flatMap_ruleCalls_keys_nodup e.rules_nodup hmonitor _ _ now
    cases hprobe : calls.listLatencyNodes with
    | none => simpa using hleft
    | some probeNodes =>
      simp only [hprobe, Option.getD_some] at hlatency hdisjoint
      refine List.pairwise_append.mpr
        ⟨hleft, flatMap_ruleCalls_keys_nodup e.rules_nodup hlatency _ _ now, ?_⟩
      intro c hc d hd hkey
      obtain ⟨node, hnode, hc⟩ := List.mem_flatMap.mp hc
      obtain ⟨node', hnode', hd⟩ := List.mem_flatMap.mp hd
      refine hdisjoint _ (List.mem_map_of_mem hnode) _ (List.mem_map_of_mem hnode') ?_
      have hid : c.node.id = d.node.id := congrArg StateKey.nodeID hkey
      rwa [(RuleCall.isFor_of_mem hc).node, (RuleCall.isFor_of_mem hd).node] at hid

/-- When the calls have distinct keys, a call alone acts on the view of its key. -/
lemma applyAll_eq_apply {publicURL : String} {cs : List RuleCall}
    (hnd : cs.Pairwise fun c d => c.key ≠ d.key) {c : RuleCall} (hc : c ∈ cs) (v : RuleView) :
    applyAll publicURL c.key cs v = c.apply publicURL v := by
  have hfilter : (cs.filter fun d => d.key = c.key) = [c] := by
    induction cs with
    | nil => cases hc
    | cons d cs ih =>
      obtain ⟨hd, htail⟩ := List.pairwise_cons.mp hnd
      rcases List.mem_cons.mp hc with rfl | hmem
      · have hnone : (cs.filter fun d => d.key = c.key) = [] := by
          rw [List.filter_eq_nil_iff]
          intro d hmem
          simpa using (hd d hmem).symm
        rw [List.filter_cons_of_pos (by simp), hnone]
      · rw [List.filter_cons_of_neg (by simpa using hd c hmem), ih htail hmem]
  rw [applyAll, hfilter]
  rfl

/-- Calls with distinct keys leave the view of a key alone, whatever the store answers, only if the
call with this key leaves its rule alone.  The calls are given for each answer of the store. -/
lemma quiet_of_applyAll {publicURL : String} {v : RuleView} {cs : EmitCalls → List RuleCall}
    {c : RuleCall}
    (hcall : ∀ o, ∃ d ∈ cs o, d.rule = c.rule ∧ d.node = c.node ∧ d.value = c.value ∧ d.now = c.now)
    (houtcome : ∀ o, ∀ d ∈ cs o, d.calls = o)
    (hnd : ∀ o, (cs o).Pairwise fun c d => c.key ≠ d.key)
    (h : ∀ o, applyAll publicURL c.key (cs o) v = v) : v.state.Quiet c.rule c.value c.now := by
  rw [RuleState.quiet_iff]
  intro stored
  -- the same call when the store gives the outcome `stored` to every event
  let o : EmitCalls := ⟨some "", stored, false⟩
  obtain ⟨d, hd, hrule, hnode, hvalue, hnow⟩ := hcall o
  have hout : d.calls.stored = stored := by
    rw [houtcome o d hd]
    simp [o, EmitCalls.stored]
  have hkey : d.key = c.key := by rw [RuleCall.key, hrule, hnode, RuleCall.key]
  have hself : d.apply publicURL v = v := by
    rw [← applyAll_eq_apply (hnd o) hd, hkey]
    exact h o
  have hstate := congrArg RuleView.state hself
  have hevents := congrArg RuleView.events hself
  simp only [RuleCall.apply, hrule, hvalue, hnow, hout] at hstate hevents
  refine Prod.ext hstate ?_
  cases hstep : (v.state.step c.rule c.value c.now stored).2 with
  | none => rfl
  | some status => simp [hstep] at hevents

/-- When no node is swept twice, a sweep leaves the metric rules alone, whatever the store
answers, only if it is undisturbed. -/
lemma Engine.undisturbed_of_sweepTransparent {e : Engine} {calls : SweepCalls} {now : Time}
    (hnodes : calls.NodesDistinct)
    (h : ∀ o, e.SweepTransparent (calls.withOutcome o) now) : e.Undisturbed calls now := by
  intro c hc hmetric
  have hrule := (mem_sweepCalls hc).1
  have hdistinct : ∀ o, (sweepCalls e (calls.withOutcome o) now).Pairwise
      fun c d => c.key ≠ d.key := by
    intro o
    have hnodes' : (calls.withOutcome o).NodesDistinct := hnodes
    exact sweepCalls_keys_nodup e hnodes' now
  have halone : ∀ o, applyAll e.publicURL c.key (sweepCalls e (calls.withOutcome o) now)
      (e.view c.key) = e.view c.key := by
    intro o
    rw [← (e.sweepNodes_spec (calls.withOutcome o) now).2]
    exact h o c.rule hrule hmetric c.node.id
  exact quiet_of_applyAll (fun o => RuleCall.exists_of_forget (sweepCalls_forget e calls o now) hc)
    (fun o d hd => sweepCalls_outcome hd) hdistinct halone

/-! ## Runs with sweeps -/

/-- Every sweep of a run is undisturbed in the state in which it starts. -/
def Engine.UndisturbedRun (e : Engine) (as : List Action) : Prop :=
  ∀ pre calls now post, as = pre ++ .sweep calls now :: post → (e.run pre).Undisturbed calls now

/-- Sweeps and metric rules.  In a run whose sweeps are all undisturbed every sweep changes only
`online` rules, and all other rules have the states and the events of the run without the sweeps.
A sweep that visits no node twice leaves the other rules alone, whatever the store answers, exactly
when it is undisturbed. -/
theorem Engine.sweeps_transparent (e : Engine) (as : List Action) :
    (e.UndisturbedRun as → e.RunTransparent as ∧
      ∀ pre calls now post, as = pre ++ .sweep calls now :: post →
        (e.run pre).SweepTransparent calls now) ∧
    ∀ pre calls now post, as = pre ++ .sweep calls now :: post → calls.NodesDistinct →
      ((∀ o, (e.run pre).SweepTransparent (calls.withOutcome o) now) ↔
        (e.run pre).Undisturbed calls now) := by
  refine ⟨fun h => ⟨Engine.runTransparent_of_undisturbed h, fun pre calls now post has =>
    Engine.sweepTransparent_of_undisturbed (h pre calls now post has)⟩,
    fun pre calls now post _ hnodes => ⟨Engine.undisturbed_of_sweepTransparent hnodes, ?_⟩⟩
  intro h o
  refine Engine.sweepTransparent_of_undisturbed fun c hc hmetric => ?_
  obtain ⟨d, hd, hrule, hnode, hvalue, hnow⟩ :=
    RuleCall.exists_of_forget (sweepCalls_forget (e.run pre) calls o now).symm hc
  have hquiet := h d hd (by rwa [hrule])
  rwa [RuleCall.key, hrule, hnode, hvalue, hnow] at hquiet

/-! ## A sweep that loses an alert -/

/-- An engine with the rule that the processor is above 90 percent for a minute. -/
def cpuEngine : Engine where
  rules := [{ id := 1, metric := .cpu, operator := .gt, threshold := 90, recoveryThreshold := 85,
              durationSeconds := 60, enabled := true }]

/-- The node of the runs below. -/
def cpuNode : Node := { id := "n1", name := "n1", role := .monitor }

/-- A store that takes every event. -/
def acceptingStore : EmitCalls := ⟨some "e1", true, true⟩

/-- A sample of the node at a number of seconds. -/
def cpuSample (seconds : ℤ) (cpu : Float) : Action :=
  .sample cpuNode { receivedAt := seconds * second, cpu } (seconds * second) fun _ => acceptingStore

/-- The calls of a sweep at a number of seconds that finds the node online. -/
def cpuSweepCalls (seconds : ℤ) : SweepCalls where
  listNodes := some [cpuNode]
  listLatencyNodes := some []
  latest := fun _ => some { receivedAt := seconds * second }
  emitMonitor := fun _ _ => acceptingStore
  emitExpiry := fun _ => acceptingStore
  emitLatency := fun _ _ => acceptingStore

/-- A sweep at a number of seconds. -/
def cpuSweep (seconds : ℤ) : Action := .sweep (cpuSweepCalls seconds) (seconds * second)

/-- The sweep between two high samples clears the pending period: it changes the state of a `cpu`
rule, and the alert that is due without it is not raised. -/
theorem sweep_loses_cpu_alert :
    ¬ (cpuEngine.run [cpuSample 100 95]).SweepTransparent (cpuSweepCalls 115) (115 * second) ∧
      ¬ cpuEngine.RunTransparent [cpuSample 100 95, cpuSweep 115, cpuSample 160 95] := by
  constructor
  · intro h
    have hview := h _ (List.mem_singleton_self _) (by decide) "n1"
    revert hview
    decide +kernel
  · intro h
    have hview := h _ (List.mem_singleton_self _) (by decide) "n1"
    revert hview
    decide +kernel

/-- A sweep between two low samples is undisturbed, so it is invisible to the `cpu` rule; and it is
so because the rule is not pending when it starts. -/
theorem sweeps_transparent_lowSamples :
    cpuEngine.RunTransparent [cpuSample 100 50, cpuSweep 115, cpuSample 160 50] ∧
      ((∀ o, (cpuEngine.run [cpuSample 100 50]).SweepTransparent
          ((cpuSweepCalls 115).withOutcome o) (115 * second)) ↔
        (cpuEngine.run [cpuSample 100 50]).Undisturbed (cpuSweepCalls 115) (115 * second)) := by
  have hrun := Engine.sweeps_transparent cpuEngine
    [cpuSample 100 50, cpuSweep 115, cpuSample 160 50]
  have hnodes : (cpuSweepCalls 115).NodesDistinct := by
    unfold SweepCalls.NodesDistinct
    decide
  refine ⟨(hrun.1 ?_).1, hrun.2 [cpuSample 100 50] _ _ _ rfl hnodes⟩
  rintro (_ | ⟨a, _ | ⟨b, pre⟩⟩) calls now post has
  · simp [cpuSample] at has
  · obtain ⟨rfl, ⟨rfl, rfl⟩, rfl⟩ : cpuSample 100 50 = a ∧
        (cpuSweepCalls 115 = calls ∧ 115 * second = now) ∧ [cpuSample 160 50] = post := by
      simpa [cpuSweep] using has
    unfold Engine.Undisturbed
    decide +kernel
  · cases pre <;> simp [cpuSample] at has

end Hostpin
