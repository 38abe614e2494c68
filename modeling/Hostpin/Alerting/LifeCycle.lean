import Hostpin.Alerting.Calls

/-!
# The life cycle of an alert

One rule on one node is evaluated again and again, with any values, at non-decreasing times and
with any pattern of stored and failed events.  The file proves what the stored events look like:
they alternate between firing and resolved, a firing event ends an unbroken run of evaluations that
met the condition for the whole duration of the rule, and it respects the cooldown.

The invariant `LifeInv` ties the three fields of the rule state to the evaluations so far.  The
field `pendingSince` is the time of the first evaluation of the present run of met conditions,
`firing` says that the last event is a firing one, and `lastEvent` is not before any event.
-/

namespace Hostpin

open Clock

/-! ## Transitions of a rule -/

/-- Everything a transition can do, with the conditions under which it does so. -/
lemma RuleState.step_cases (s : RuleState) (rule : AlertRule) (value : Float) (now : Time)
    (stored : Bool) :
    (compare value rule.operator rule.threshold = true ∧ s.firing = true ∧
        s.step rule value now stored = (s, none)) ∨
      (compare value rule.operator rule.threshold = true ∧ s.firing = false ∧
        ((s.arm now).waiting rule now = true ∨ stored = false) ∧
        s.step rule value now stored = (s.arm now, none)) ∨
      (compare value rule.operator rule.threshold = true ∧ s.firing = false ∧
        (s.arm now).waiting rule now = false ∧ stored = true ∧
        s.step rule value now stored =
          ({ s.arm now with firing := true, lastEvent := now }, some .firing)) ∨
      (compare value rule.operator rule.threshold = false ∧
        ((s.firing && recovered value rule) = false ∨ stored = false) ∧
        s.step rule value now stored = ({ s with pendingSince := 0 }, none)) ∨
      (compare value rule.operator rule.threshold = false ∧ s.firing = true ∧
        recovered value rule = true ∧ stored = true ∧
        s.step rule value now stored =
          ({ pendingSince := 0, firing := false, lastEvent := now }, some .resolved)) := by
  unfold RuleState.step
  cases hcmp : compare value rule.operator rule.threshold with
  | true =>
    cases hfire : s.firing with
    | true => simp
    | false => cases hwait : (s.arm now).waiting rule now <;> cases stored <;> simp
  | false =>
    cases hfire : s.firing <;> cases hrec : recovered value rule <;> cases stored <;> simp

/-- A rule fires when the condition is met and it does not wait any more. -/
lemma RuleState.of_step_firing {s : RuleState} {rule : AlertRule} {value : Float} {now : Time}
    {stored : Bool} (h : (s.step rule value now stored).2 = some .firing) :
    compare value rule.operator rule.threshold = true ∧ (s.arm now).waiting rule now = false := by
  rcases s.step_cases rule value now stored with ⟨-, -, hs⟩ | ⟨-, -, -, hs⟩ |
    ⟨hcmp, -, hwait, -, -⟩ | ⟨-, -, hs⟩ | ⟨-, -, -, -, hs⟩
  · simp [hs] at h
  · simp [hs] at h
  · exact ⟨hcmp, hwait⟩
  · simp [hs] at h
  · simp [hs] at h

/-- An alert is resolved when the condition is not met and the value has recovered. -/
lemma RuleState.of_step_resolved {s : RuleState} {rule : AlertRule} {value : Float} {now : Time}
    {stored : Bool} (h : (s.step rule value now stored).2 = some .resolved) :
    compare value rule.operator rule.threshold = false ∧ recovered value rule = true := by
  rcases s.step_cases rule value now stored with ⟨-, -, hs⟩ | ⟨-, -, -, hs⟩ | ⟨-, -, -, -, hs⟩ |
    ⟨-, -, hs⟩ | ⟨hcmp, -, hrec, -, -⟩
  · simp [hs] at h
  · simp [hs] at h
  · simp [hs] at h
  · simp [hs] at h
  · exact ⟨hcmp, hrec⟩

/-- Starting the pending period leaves the other fields alone. -/
@[simp] lemma RuleState.arm_firing (s : RuleState) (now : Time) :
    (s.arm now).firing = s.firing := by
  unfold RuleState.arm
  split <;> rfl

/-- Starting the pending period leaves the other fields alone. -/
@[simp] lemma RuleState.arm_lastEvent (s : RuleState) (now : Time) :
    (s.arm now).lastEvent = s.lastEvent := by
  unfold RuleState.arm
  split <;> rfl

/-- A transition whose event is not stored keeps `firing` and `lastEvent`. -/
lemma RuleState.step_of_not_stored (s : RuleState) (rule : AlertRule) (value : Float) (now : Time) :
    (s.step rule value now false).1.firing = s.firing ∧
      (s.step rule value now false).1.lastEvent = s.lastEvent := by
  rcases s.step_cases rule value now false with ⟨-, -, hs⟩ | ⟨-, -, -, hs⟩ | ⟨-, -, -, hst, -⟩ |
    ⟨-, -, hs⟩ | ⟨-, -, -, hst, -⟩
  · rw [hs]
    exact ⟨rfl, rfl⟩
  · rw [hs]
    exact ⟨s.arm_firing now, s.arm_lastEvent now⟩
  · cases hst
  · rw [hs]
    exact ⟨rfl, rfl⟩
  · cases hst

/-- The pending period starts now unless it has started before. -/
lemma RuleState.arm_pendingSince (s : RuleState) (now : Time) :
    (s.arm now).pendingSince = if s.pendingSince = 0 then now else s.pendingSince := by
  unfold RuleState.arm
  by_cases h : s.pendingSince = 0 <;> simp [h]

/-- A rule that stopped waiting has been pending for its whole duration. -/
lemma RuleState.duration_of_not_waiting {s : RuleState} {rule : AlertRule} {now : Time}
    (hvalid : validateAlertRule rule = .ok ()) (h : s.waiting rule now = false) :
    rule.durationSeconds * second ≤ now - s.pendingSince := by
  obtain ⟨⟨hlo, hhi⟩, -⟩ := bounds_of_validateAlertRule hvalid
  unfold maxRuleSeconds at hhi
  simp only [RuleState.waiting, Bool.or_eq_false_iff, decide_eq_false_iff_not, not_lt] at h
  have hscale : scale (max rule.durationSeconds 0) second = rule.durationSeconds * second := by
    rw [max_eq_left hlo, scale_second hlo (by omega)]
  rw [hscale] at h
  obtain ⟨hmin, hmax⟩ := seconds_mem_range hlo (by omega)
  exact (le_sub_iff hmin hmax).mp h.1

/-- A rule that stopped waiting has let its cooldown pass since the last event. -/
lemma RuleState.cooldown_of_not_waiting {s : RuleState} {rule : AlertRule} {now : Time}
    (hvalid : validateAlertRule rule = .ok ()) (h : s.waiting rule now = false)
    (hpos : 0 < rule.cooldownSeconds) :
    rule.cooldownSeconds * second ≤ now - s.lastEvent := by
  obtain ⟨-, hlo, hhi⟩ := bounds_of_validateAlertRule hvalid
  unfold maxRuleSeconds at hhi
  simp only [RuleState.waiting, Bool.or_eq_false_iff, Bool.and_eq_false_iff,
    decide_eq_false_iff_not, not_lt] at h
  have hcool := h.2.resolve_left (not_le.mpr hpos)
  rw [scale_second hlo (by omega)] at hcool
  obtain ⟨hmin, hmax⟩ := seconds_mem_range hlo (by omega)
  exact (le_sub_iff hmin hmax).mp hcool

/-! ## Sequences of evaluations -/

/-- One evaluation of a fixed rule on a fixed node. -/
structure Reading where
  value : Float
  now : Time
  calls : EmitCalls

/-- The evaluation as a call of `Engine.evaluateRule`. -/
def Reading.toCall (rule : AlertRule) (node : Node) (r : Reading) : RuleCall :=
  ⟨r.calls, rule, node, r.value, r.now⟩

/-- Evaluate a rule on a node once for each reading. -/
def Engine.readAll (e : Engine) (rule : AlertRule) (node : Node) (rs : List Reading) : Engine :=
  rs.foldl (fun e r => e.evaluateRule r.calls rule node r.value r.now) e

/-- The events of a rule on a node after a sequence of evaluations. -/
def Engine.eventsAfter (e : Engine) (rule : AlertRule) (node : Node) (rs : List Reading) :
    List AlertEvent :=
  (e.readAll rule node rs).eventsOf ⟨rule.id, node.id⟩

/-- The state of a rule on a node after a sequence of evaluations. -/
def Engine.stateAfter (e : Engine) (rule : AlertRule) (node : Node) (rs : List Reading) :
    RuleState :=
  (e.readAll rule node rs).ruleState ⟨rule.id, node.id⟩

/-- The events that a sequence of evaluations stores for a rule on a node. -/
def Engine.emitted (e : Engine) (rule : AlertRule) (node : Node) (rs : List Reading) :
    List AlertEvent :=
  (e.eventsAfter rule node rs).drop (e.eventsOf ⟨rule.id, node.id⟩).length

/-- The evaluation `r`, made after the evaluations `pre`, stores the event `ev`. -/
def Engine.Emits (e : Engine) (rule : AlertRule) (node : Node) (pre : List Reading) (r : Reading)
    (ev : AlertEvent) : Prop :=
  e.eventsAfter rule node (pre ++ [r]) = e.eventsAfter rule node pre ++ [ev]

/-- Whether a reading meets the condition of a rule. -/
def Reading.meets (rule : AlertRule) (r : Reading) : Bool :=
  compare r.value rule.operator rule.threshold

/-- The view of the rule after one more evaluation. -/
lemma Engine.view_readAll_concat (e : Engine) (rule : AlertRule) (node : Node)
    (pre : List Reading) (r : Reading) :
    (e.readAll rule node (pre ++ [r])).view ⟨rule.id, node.id⟩ =
      (r.toCall rule node).apply (e.readAll rule node pre).publicURL
        ((e.readAll rule node pre).view ⟨rule.id, node.id⟩) := by
  have hstep : e.readAll rule node (pre ++ [r]) =
      (e.readAll rule node pre).call (r.toCall rule node) := by
    simp [Engine.readAll, Engine.call, Reading.toCall]
  rw [hstep, Engine.view_call]
  exact if_pos rfl

/-! ## The invariant -/

/-- The status that the event with index `k` has in an alternating sequence. -/
def alternating (k : ℕ) : AlertStatus := if k % 2 = 0 then .firing else .resolved

/-- What holds after the evaluations `pre` of a rule. -/
structure LifeInv (rule : AlertRule) (pre : List Reading) (v : RuleView) : Prop where
  /-- The events alternate, starting with a firing one. -/
  alternates : ∀ k ev, v.events[k]? = some ev → ev.status = alternating k
  /-- The rule is firing exactly when the last event is a firing one. -/
  parity : v.events.length % 2 = if v.state.firing then 1 else 0
  /-- A pending period starts at an evaluation from which on all evaluations meet the condition. -/
  pending : v.state.pendingSince ≠ 0 → ∃ l r m, pre = l ++ r :: m ∧
    r.now = v.state.pendingSince ∧ ∀ x ∈ r :: m, x.meets rule = true
  /-- No event is later than the last one. -/
  last : ∀ ev ∈ v.events, ev.occurredAt ≤ v.state.lastEvent
  /-- Every event happened at an evaluation. -/
  timed : ∀ ev ∈ v.events, ∃ r ∈ pre, ev.occurredAt = r.now

/-- The invariant holds before the first evaluation. -/
lemma lifeInv_nil (rule : AlertRule) : LifeInv rule [] ⟨{}, []⟩ := by
  constructor <;> simp

/-- Once armed, the pending period still starts an unbroken run of met conditions. -/
lemma LifeInv.exists_run {rule : AlertRule} {pre : List Reading} {v : RuleView}
    (h : LifeInv rule pre v) {r : Reading} (hr : r.meets rule = true) :
    ∃ l r₀ m, pre ++ [r] = l ++ r₀ :: m ∧ r₀.now = (v.state.arm r.now).pendingSince ∧
      ∀ x ∈ r₀ :: m, x.meets rule = true := by
  rw [RuleState.arm_pendingSince]
  by_cases hzero : v.state.pendingSince = 0
  · exact ⟨pre, r, [], rfl, by rw [if_pos hzero], by simpa using hr⟩
  · obtain ⟨l, r₀, m, rfl, hnow, hmeets⟩ := h.pending hzero
    refine ⟨l, r₀, m ++ [r], by simp, by rw [if_neg hzero, hnow], fun x hx => ?_⟩
    rcases List.mem_append.mp (List.cons_append ▸ hx : x ∈ (r₀ :: m) ++ [r]) with hx | hx
    · exact hmeets x hx
    · rwa [List.mem_singleton.mp hx]

section Step

variable {rule : AlertRule} {node : Node} {pre : List Reading} {v : RuleView} {r : Reading}
  {publicURL : String}

/-- Appending an event keeps the alternation when its status is the next one. -/
lemma alternates_append {evs : List AlertEvent} {ev : AlertEvent}
    (h : ∀ k ev, evs[k]? = some ev → ev.status = alternating k)
    (hev : ev.status = alternating evs.length) :
    ∀ k e, (evs ++ [ev])[k]? = some e → e.status = alternating k := by
  intro k e he
  rcases lt_trichotomy k evs.length with hk | rfl | hk
  · rw [List.getElem?_append_left hk] at he
    exact h k e he
  · rw [List.getElem?_append_right le_rfl, Nat.sub_self, List.getElem?_cons_zero,
      Option.some.injEq] at he
    rw [← he, hev]
  · rw [List.getElem?_eq_none (by rw [List.length_append, List.length_singleton]; omega)] at he
    cases he

/-- Storing an event with the next status keeps the invariant. -/
lemma LifeInv.record (h : LifeInv rule pre v) (hmono : ∀ x ∈ pre, x.now ≤ r.now) {s : RuleState}
    {ev : AlertEvent} (hev : ev.occurredAt = r.now)
    (hstatus : ev.status = alternating v.events.length)
    (hparity : (v.events.length + 1) % 2 = if s.firing then 1 else 0)
    (hpending : s.pendingSince ≠ 0 → ∃ l r₀ m, pre ++ [r] = l ++ r₀ :: m ∧
      r₀.now = s.pendingSince ∧ ∀ x ∈ r₀ :: m, x.meets rule = true)
    (hlast : s.lastEvent = r.now) : LifeInv rule (pre ++ [r]) ⟨s, v.events ++ [ev]⟩ := by
  refine ⟨alternates_append h.alternates hstatus, ?_, hpending, ?_, ?_⟩
  · rwa [List.length_append, List.length_singleton]
  · intro e he
    rw [hlast]
    rcases List.mem_append.mp he with he | he
    · obtain ⟨x, hx, hnow⟩ := h.timed e he
      rw [hnow]
      exact hmono x hx
    · rw [List.mem_singleton.mp he, hev]
  · intro e he
    rcases List.mem_append.mp he with he | he
    · obtain ⟨x, hx, hnow⟩ := h.timed e he
      exact ⟨x, List.mem_append_left _ hx, hnow⟩
    · exact ⟨r, by simp, by rw [List.mem_singleton.mp he, hev]⟩

/-- One evaluation keeps the invariant. -/
lemma LifeInv.step (h : LifeInv rule pre v) (hmono : ∀ x ∈ pre, x.now ≤ r.now) :
    LifeInv rule (pre ++ [r]) ((r.toCall rule node).apply publicURL v) := by
  have htimed : ∀ ev ∈ v.events, ∃ x ∈ pre ++ [r], ev.occurredAt = x.now := fun ev hev =>
    let ⟨x, hx, hnow⟩ := h.timed ev hev
    ⟨x, List.mem_append_left _ hx, hnow⟩
  have hrun := fun hr => h.exists_run (r := r) hr
  rcases v.state.step_cases rule r.value r.now r.calls.stored with
    ⟨hcmp, hfire, hs⟩ | ⟨hcmp, hfire, -, hs⟩ | ⟨hcmp, hfire, -, -, hs⟩ | ⟨-, -, hs⟩ |
      ⟨-, hfire, -, -, hs⟩
  · -- the condition still holds while the rule is firing: nothing changes
    simp only [RuleCall.apply, Reading.toCall, hs, Option.map_none, Option.toList_none,
      List.append_nil]
    refine ⟨h.alternates, h.parity, fun hp => ?_, h.last, htimed⟩
    obtain ⟨l, r₀, m, heq, hr₀, hm⟩ := hrun hcmp
    rw [RuleState.arm_pendingSince, if_neg hp] at hr₀
    exact ⟨l, r₀, m, heq, hr₀, hm⟩
  · simp only [RuleCall.apply, Reading.toCall, hs, Option.map_none, Option.toList_none,
      List.append_nil]
    exact ⟨h.alternates, by rw [RuleState.arm_firing]; exact h.parity, fun _ => hrun hcmp,
      by rw [RuleState.arm_lastEvent]; exact h.last, htimed⟩
  · have hpar : v.events.length % 2 = 0 := by rw [h.parity, hfire]; rfl
    simp only [RuleCall.apply, Reading.toCall, hs, Option.map_some, Option.toList_some]
    refine h.record hmono rfl ?_ ?_ (fun _ => hrun hcmp) rfl
    · rw [alternating, if_pos hpar]
      rfl
    · rw [if_pos rfl]
      omega
  · simp only [RuleCall.apply, Reading.toCall, hs, Option.map_none, Option.toList_none,
      List.append_nil]
    exact ⟨h.alternates, h.parity, fun hp => absurd rfl hp, h.last, htimed⟩
  · have hpar : v.events.length % 2 = 1 := by rw [h.parity, hfire]; rfl
    simp only [RuleCall.apply, Reading.toCall, hs, Option.map_some, Option.toList_some]
    refine h.record hmono rfl ?_ ?_ (fun hp => absurd rfl hp) rfl
    · rw [alternating, if_neg (by omega)]
      rfl
    · rw [if_neg (by simp)]
      omega

end Step

/-- The events and the state after one more evaluation. -/
lemma Engine.after_concat (e : Engine) (rule : AlertRule) (node : Node) (pre : List Reading)
    (r : Reading) :
    e.stateAfter rule node (pre ++ [r]) =
        ((e.stateAfter rule node pre).step rule r.value r.now r.calls.stored).1 ∧
      e.eventsAfter rule node (pre ++ [r]) = e.eventsAfter rule node pre ++
        (((e.stateAfter rule node pre).step rule r.value r.now r.calls.stored).2.map
          ((r.toCall rule node).event (e.readAll rule node pre).publicURL)).toList := by
  have hview := e.view_readAll_concat rule node pre r
  exact ⟨congrArg RuleView.state hview, congrArg RuleView.events hview⟩

/-- The events of a rule are those from before and those that the evaluations store. -/
lemma Engine.eventsAfter_eq (e : Engine) (rule : AlertRule) (node : Node) (rs : List Reading) :
    e.eventsAfter rule node rs = e.eventsOf ⟨rule.id, node.id⟩ ++ e.emitted rule node rs := by
  have happend : ∃ evs, e.eventsAfter rule node rs = e.eventsOf ⟨rule.id, node.id⟩ ++ evs := by
    induction rs using List.reverseRecOn with
    | nil => exact ⟨[], (List.append_nil _).symm⟩
    | append_singleton pre r ih =>
      obtain ⟨evs, hevs⟩ := ih
      rw [(e.after_concat rule node pre r).2, hevs, List.append_assoc]
      exact ⟨_, rfl⟩
  obtain ⟨evs, hevs⟩ := happend
  rw [Engine.emitted, hevs, List.drop_left]

/-- The events that one more evaluation stores. -/
lemma Engine.emitted_concat (e : Engine) (rule : AlertRule) (node : Node) (pre : List Reading)
    (r : Reading) :
    e.emitted rule node (pre ++ [r]) = e.emitted rule node pre ++
      (((e.stateAfter rule node pre).step rule r.value r.now r.calls.stored).2.map
        ((r.toCall rule node).event (e.readAll rule node pre).publicURL)).toList := by
  have hafter := (e.after_concat rule node pre r).2
  rw [e.eventsAfter_eq, e.eventsAfter_eq, List.append_assoc] at hafter
  exact List.append_cancel_left hafter

/-- The invariant holds after every sequence of evaluations at non-decreasing times. -/
lemma Engine.lifeInv_readAll {e : Engine} {rule : AlertRule} {node : Node}
    (hfresh : e.ruleState ⟨rule.id, node.id⟩ = {}) (rs : List Reading)
    (hmono : rs.Pairwise fun x y => x.now ≤ y.now) :
    LifeInv rule rs ⟨e.stateAfter rule node rs, e.emitted rule node rs⟩ := by
  induction rs using List.reverseRecOn with
  | nil =>
    have hstate : e.stateAfter rule node [] = {} := hfresh
    have hevents : e.emitted rule node [] = [] := List.drop_length
    rw [hstate, hevents]
    exact lifeInv_nil rule
  | append_singleton pre r ih =>
    rw [List.pairwise_append] at hmono
    rw [(e.after_concat rule node pre r).1, e.emitted_concat]
    exact (ih hmono.1).step fun x hx => hmono.2.2 x hx r (List.mem_singleton_self r)

/-! ## The law of the life cycle -/

section Law

variable {e : Engine} {rule : AlertRule} {node : Node} {pre : List Reading} {r : Reading}

/-- The event that an evaluation stores is the one of its transition. -/
lemma Engine.Emits.exists_step {ev : AlertEvent} (h : e.Emits rule node pre r ev) :
    ev.occurredAt = r.now ∧
      ((e.stateAfter rule node pre).step rule r.value r.now r.calls.stored).2 = some ev.status := by
  unfold Engine.Emits at h
  rw [(e.after_concat rule node pre r).2, List.append_cancel_left_eq] at h
  cases hst : ((e.stateAfter rule node pre).step rule r.value r.now r.calls.stored).2 with
  | none =>
    rw [hst] at h
    cases h
  | some status =>
    rw [hst, Option.map_some, Option.toList_some, List.cons.injEq] at h
    rw [← h.1]
    exact ⟨rfl, rfl⟩

end Law

/-- For one rule on one node, an engine that has not evaluated it there yet, and every sequence of
evaluations at non-decreasing times, with any values and any pattern of failed events:

* the stored events alternate between firing and resolved, starting with firing;
* a firing event ends a run of evaluations that all met the condition and whose first one was made
  at least the duration of the rule before;
* a firing event is at least the cooldown of the rule after every earlier event;
* a resolved event is stored only when the condition is not met and the value has recovered;
* an evaluation whose event cannot be stored changes neither `firing` nor `lastEvent`. -/
theorem Engine.alert_life_cycle (e : Engine) (rule : AlertRule) (node : Node) (rs : List Reading)
    (hvalid : validateAlertRule rule = .ok ())
    (hfresh : e.ruleState ⟨rule.id, node.id⟩ = {})
    (hmono : rs.Pairwise fun x y => x.now ≤ y.now) :
    (∀ k ev, (e.emitted rule node rs)[k]? = some ev → ev.status = alternating k) ∧
      (∀ pre r post ev, rs = pre ++ r :: post → e.Emits rule node pre r ev →
        ev.occurredAt = r.now ∧
        (ev.status = .firing →
          (∃ l r₀ m, pre ++ [r] = l ++ r₀ :: m ∧
            r₀.now ≤ r.now - rule.durationSeconds * second ∧
            ∀ x ∈ r₀ :: m, x.meets rule = true) ∧
          ∀ prev ∈ e.emitted rule node pre,
            rule.cooldownSeconds * second ≤ ev.occurredAt - prev.occurredAt) ∧
        (ev.status = .resolved → r.meets rule = false ∧ recovered r.value rule = true)) ∧
      ∀ pre r post, rs = pre ++ r :: post → r.calls.stored = false →
        (e.stateAfter rule node (pre ++ [r])).firing = (e.stateAfter rule node pre).firing ∧
          (e.stateAfter rule node (pre ++ [r])).lastEvent =
            (e.stateAfter rule node pre).lastEvent := by
  refine ⟨(Engine.lifeInv_readAll hfresh rs hmono).alternates, ?_, ?_⟩
  · rintro pre r post ev rfl hemits
    obtain ⟨hnow, hstep⟩ := hemits.exists_step
    rw [List.pairwise_append, List.pairwise_cons] at hmono
    have hinv := Engine.lifeInv_readAll hfresh pre hmono.1
    refine ⟨hnow, fun hfiring => ?_, fun hresolved => ?_⟩
    · rw [hfiring] at hstep
      obtain ⟨hcmp, hwait⟩ := RuleState.of_step_firing hstep
      refine ⟨?_, fun prev hprev => ?_⟩
      · obtain ⟨l, r₀, m, heq, hr₀, hm⟩ := hinv.exists_run hcmp
        have hdur := RuleState.duration_of_not_waiting hvalid hwait
        refine ⟨l, r₀, m, heq, ?_, hm⟩
        rw [hr₀]
        exact le_sub_comm.mp hdur
      · rw [hnow]
        have hprev_le : prev.occurredAt ≤ r.now := by
          obtain ⟨x, hx, hxnow⟩ := hinv.timed prev hprev
          rw [hxnow]
          exact hmono.2.2 x hx r List.mem_cons_self
        obtain ⟨-, hlo, -⟩ := bounds_of_validateAlertRule hvalid
        rcases hlo.eq_or_lt with hzero | hpos
        · rw [← hzero, zero_mul]
          exact sub_nonneg.mpr hprev_le
        · have hcool := RuleState.cooldown_of_not_waiting hvalid hwait hpos
          rw [RuleState.arm_lastEvent] at hcool
          exact hcool.trans (sub_le_sub_left (hinv.last prev hprev) r.now)
    · rw [hresolved] at hstep
      exact RuleState.of_step_resolved hstep
  · rintro pre r post rfl hfail
    rw [(e.after_concat rule node pre r).1, hfail]
    exact RuleState.step_of_not_stored _ rule r.value r.now

/-- A rule on a sustained CPU load, with hysteresis and cooldown. -/
def sustainedRule : AlertRule where
  id := 1
  name := "CPU sustained"
  metric := .cpu
  operator := .gt
  threshold := 90
  recoveryThreshold := 80
  durationSeconds := 60
  cooldownSeconds := 300
  severity := "critical"
  enabled := true

/-- Readings of a load that rises, recovers and rises again, with one event that fails. -/
def sustainedReadings : List Reading :=
  [(95, 0, true), (95, 59, true), (95, 60, false), (96, 61, true), (70, 62, true),
    (95, 63, true), (95, 180, true), (95, 400, true)].map fun p =>
      ⟨p.1, (p.2.1 + 1000) * second, ⟨some "id", p.2.2, true⟩⟩

/-- The law holds of the readings above, whose events are firing, resolved and firing. -/
theorem alert_life_cycle_sustainedReadings :
    (({} : Engine).emitted sustainedRule {} sustainedReadings).map (·.status) =
        [.firing, .resolved, .firing] ∧
      ∀ k ev, (({} : Engine).emitted sustainedRule {} sustainedReadings)[k]? = some ev →
        ev.status = alternating k :=
  ⟨by decide +kernel,
    (({} : Engine).alert_life_cycle sustainedRule {} sustainedReadings (by decide +kernel) rfl
      (by decide +kernel)).1⟩

end Hostpin
