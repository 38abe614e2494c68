import Hostpin.Alerting.Reload
import Hostpin.Foundation.Answers

/-!
# Probe rules and the tasks of a node

A node runs several probe tasks, and the results of all of them are evaluated by the same rules.
The state of a rule is kept for the node, not for the task: which task a result comes from makes no
difference (`Engine.run_retask`), and a good result of one task ends the pending period that another
one has started and resolves its alert.

So the events that the results of one task cause depend on the results of the others.  They do not
depend on those that leave the rule alone where they arrive (`Engine.task_events`).
-/

namespace Hostpin

open Clock Runs

/-! ## Results of a task -/

/-- An action is a result of a task on a node. -/
def Action.isResultOf (nodeID : String) (taskID : ℤ) : Action → Bool
  | .probe node result _ _ => node.id = nodeID && result.taskID = taskID
  | _ => false

/-- Give every probe result to another task. -/
def Action.retask (f : ℤ → ℤ) : Action → Action
  | .probe node result now calls => .probe node { result with taskID := f result.taskID } now calls
  | a => a

/-- The value of a metric does not depend on the task of a result. -/
lemma metricValue_retask (f : ℤ → ℤ) (metric : Metric) (result : ProbeResult) :
    metricValue metric none (some { result with taskID := f result.taskID }) =
      metricValue metric none (some result) := by
  cases metric <;> rfl

/-- An action does not depend on the task of its result. -/
lemma Engine.act_retask (e : Engine) (f : ℤ → ℤ) (a : Action) : e.act (a.retask f) = e.act a := by
  cases a with
  | sample node sample now calls => rfl
  | sweep calls now => rfl
  | probe node result now calls =>
    unfold Action.retask Engine.act Engine.evaluate
    simp only [metricValue_retask]

/-- A run does not depend on the tasks of the results. -/
theorem Engine.run_retask (e : Engine) (f : ℤ → ℤ) (as : List Action) :
    e.run (as.map (Action.retask f)) = e.run as := by
  induction as generalizing e with
  | nil => rfl
  | cons a as ih =>
    have hhead : e.run ((a :: as).map (Action.retask f)) =
        (e.act (a.retask f)).run (as.map (Action.retask f)) := rfl
    rw [hhead, ih, e.act_retask]
    rfl

/-! ## Events of a task -/

/-- The events of a key that an action causes when it is a result of a task. -/
def Engine.newEvents (key : StateKey) (taskID : ℤ) (e : Engine) (a : Action) : List AlertEvent :=
  if a.isResultOf key.nodeID taskID then
    ((e.act a).eventsOf key).drop (e.eventsOf key).length
  else []

/-- The events of a key that the results of a task cause in a run. -/
def Engine.causedBy (e : Engine) (key : StateKey) (taskID : ℤ) (as : List Action) :
    List AlertEvent :=
  (answers Engine.act (Engine.newEvents key taskID) e as).flatten

/-- The actions without the results of a task. -/
def withoutTask (key : StateKey) (taskID : ℤ) (as : List Action) : List Action :=
  as.filter fun a => !a.isResultOf key.nodeID taskID

/-- The calls that an action makes for a key leave its rule alone. -/
def Engine.Leaves (e : Engine) (key : StateKey) (a : Action) : Prop :=
  ∀ c ∈ e.callsOf a, c.key = key → (e.ruleState key).Quiet c.rule c.value c.now

instance (e : Engine) (key : StateKey) (a : Action) : Decidable (e.Leaves key a) :=
  inferInstanceAs (Decidable (∀ c ∈ _, _))

/-- Every result of a task leaves the rule of a key alone where it arrives. -/
def Engine.QuietTask (e : Engine) (key : StateKey) (taskID : ℤ) (as : List Action) : Prop :=
  Along Engine.act (fun e a => a.isResultOf key.nodeID taskID = true → e.Leaves key a) e as

instance (e : Engine) (key : StateKey) (taskID : ℤ) (as : List Action) :
    Decidable (e.QuietTask key taskID as) :=
  inferInstanceAs (Decidable (Along _ _ _ _))

/-- Two engines agree on a key. -/
structure KeyAgrees (key : StateKey) (e e' : Engine) : Prop where
  config : SameConfig e e'
  view : e.view key = e'.view key

section

variable {key : StateKey} {e e' : Engine}

/-- Two engines with the same configuration whose views agree still agree after the same action. -/
lemma KeyAgrees.act (h : KeyAgrees key e e') (a : Action) :
    KeyAgrees key (e.act a) (e'.act a) := by
  have hconf := e.sameConfig_act a
  have hconf' := e'.sameConfig_act a
  have hcalls : (e.callsOf a).filter (fun c => c.key = key) =
      (e'.callsOf a).filter fun c => c.key = key := by
    cases a with
    | sample node sample now calls => simp only [Engine.callsOf, h.config.rules]
    | probe node result now calls => simp only [Engine.callsOf, h.config.rules]
    | sweep calls now =>
      simp only [Engine.callsOf, sweepCalls, monitorCalls, latencyCalls, Engine.monitorOnline,
        Engine.latencyOnline, h.config.rules, h.config.offlineAfter]
  refine ⟨⟨?_, ?_, ?_⟩, ?_⟩
  · rw [hconf.publicURL, hconf'.publicURL, h.config.publicURL]
  · rw [hconf.offlineAfter, hconf'.offlineAfter, h.config.offlineAfter]
  · rw [hconf.rules, hconf'.rules, h.config.rules]
  · rw [Engine.view_act, Engine.view_act, applyAll, applyAll, hcalls, h.config.publicURL, h.view]

/-- The same action causes the same events. -/
lemma KeyAgrees.newEvents (h : KeyAgrees key e e') (taskID : ℤ) (a : Action) :
    e.newEvents key taskID a = e'.newEvents key taskID a := by
  have hbefore : e.eventsOf key = e'.eventsOf key := congrArg RuleView.events h.view
  have hafter : (e.act a).eventsOf key = (e'.act a).eventsOf key :=
    congrArg RuleView.events (h.act a).view
  rw [Engine.newEvents, Engine.newEvents, hbefore, hafter]

/-- An action that leaves the rule alone keeps the agreement on one side. -/
lemma KeyAgrees.left (h : KeyAgrees key e e') {a : Action} (hleaves : e.Leaves key a) :
    KeyAgrees key (e.act a) e' := by
  have hconf := e.sameConfig_act a
  have hview : (e.act a).view key = e.view key := by
    rw [Engine.view_act]
    exact applyAll_of_quiet hleaves
  refine ⟨⟨?_, ?_, ?_⟩, hview.trans h.view⟩
  · rw [hconf.publicURL, h.config.publicURL]
  · rw [hconf.offlineAfter, h.config.offlineAfter]
  · rw [hconf.rules, h.config.rules]

end

lemma KeyAgrees.refl (key : StateKey) (e : Engine) : KeyAgrees key e e := ⟨SameConfig.refl e, rfl⟩

/-- A run whose results of a task leave the rule alone has the view of the run without them. -/
lemma Engine.view_withoutTask {e : Engine} {key : StateKey} {taskID : ℤ} {as : List Action}
    (hquiet : e.QuietTask key taskID as) :
    (e.run as).view key = (e.run (withoutTask key taskID as)).view key := by
  have hagrees : KeyAgrees key (Runs.run Engine.act e as)
      (Runs.run Engine.act e (as.filter fun a => !a.isResultOf key.nodeID taskID)) := by
    refine run_filter (C := fun e a => e.Leaves key a) (fun e e' a h _ => h.act a)
      (fun e e' a h _ hleaves => h.left hleaves) (KeyAgrees.refl key e) ?_
    simpa [Engine.QuietTask] using hquiet
  exact hagrees.view

/-- In a run whose results of a task leave the rule alone, the results of another one cause the
events that they cause in the run without them. -/
lemma Engine.causedBy_withoutTask {e : Engine} {key : StateKey} {taskID other : ℤ}
    (hne : taskID ≠ other) {as : List Action} (hquiet : e.QuietTask key other as) :
    e.causedBy key taskID as = e.causedBy key taskID (withoutTask key other as) := by
  have hsilent : ∀ (e : Engine) (a : Action), (!a.isResultOf key.nodeID other) = false →
      e.newEvents key taskID a = [] := by
    intro e a hother
    refine if_neg fun hresult => hne ?_
    cases a with
    | sample node sample now calls => exact absurd hresult Bool.false_ne_true
    | sweep calls now => exact absurd hresult Bool.false_ne_true
    | probe node result now calls =>
      simp only [Action.isResultOf, Bool.not_eq_false', Bool.and_eq_true, decide_eq_true_eq]
        at hresult hother
      exact hresult.2.symm.trans hother.2
  refine answers_filter (C := fun e a => e.Leaves key a)
    (fun e e' a h _ => ⟨h.act a, h.newEvents taskID a⟩)
    (fun e e' a h hother hleaves => ⟨h.left hleaves, hsilent e a hother⟩) (KeyAgrees.refl key e) ?_
  simpa [Engine.QuietTask] using hquiet

/-! ## When a result leaves a rule alone -/

/-- A probe result leaves the view of a key alone, whatever the store answers, exactly when it leaves
its rule alone. -/
lemma Engine.leaves_iff (e : Engine) (ruleID : ℤ) (node : Node) (result : ProbeResult) (now : Time)
    (calls : ℤ → EmitCalls) :
    e.Leaves ⟨ruleID, node.id⟩ (.probe node result now calls) ↔
      ∀ o, (e.act (.probe node result now fun _ => o)).view ⟨ruleID, node.id⟩ =
        e.view ⟨ruleID, node.id⟩ := by
  have hforget : ∀ o : EmitCalls, (e.callsOf (.probe node result now calls)).map RuleCall.forget =
      (e.callsOf (.probe node result now fun _ => o)).map RuleCall.forget :=
    fun o => ruleCalls_forget e.rules calls (fun _ => o) _ now
  constructor
  · intro hleaves o
    rw [Engine.view_act]
    refine applyAll_of_quiet fun c hc hkey => ?_
    obtain ⟨d, hd, hrule, hnode, hvalue, hnow⟩ := RuleCall.exists_of_forget (hforget o).symm hc
    have hkey' : d.key = ⟨ruleID, node.id⟩ := by
      rw [RuleCall.key, hrule, hnode]
      exact hkey
    have hquiet := hleaves d hd hkey'
    rwa [hrule, hvalue, hnow] at hquiet
  · intro h c hc hkey
    have halone : ∀ o, applyAll e.publicURL c.key (e.callsOf (.probe node result now fun _ => o))
        (e.view ⟨ruleID, node.id⟩) = e.view ⟨ruleID, node.id⟩ := by
      intro o
      rw [hkey, ← Engine.view_act]
      exact h o
    have houtcome : ∀ o, ∀ d ∈ e.callsOf (.probe node result now fun _ => o), d.calls = o := by
      intro o d hd
      have hfor : d.IsFor e.rules (fun _ => o) _ := RuleCall.isFor_of_mem hd
      exact hfor.outcome
    exact quiet_of_applyAll (fun o => RuleCall.exists_of_forget (hforget o) hc) houtcome
      (fun o => ruleCalls_keys_nodup e.rules_nodup (fun _ => o) _ now) halone

/-! ## Interleavings -/

/-- Probe rules and tasks.  The rules do not tell the tasks of a node apart.  The events of a rule on
a node that the results of one task cause, and its state, are the same for every interleaving of the
results of another task that leave the rule alone where they arrive; and a result leaves it alone,
whatever the store answers, exactly when its value is quiet in the state in which it arrives. -/
theorem Engine.task_events (e : Engine) (key : StateKey) :
    (∀ (f : ℤ → ℤ) (as : List Action), e.run (as.map (Action.retask f)) = e.run as) ∧
    (∀ (taskID other : ℤ) (as bs : List Action), taskID ≠ other →
      withoutTask key other as = withoutTask key other bs →
      e.QuietTask key other as → e.QuietTask key other bs →
      e.causedBy key taskID as = e.causedBy key taskID bs ∧
        (e.run as).view key = (e.run bs).view key) ∧
    ∀ (node : Node) (result : ProbeResult) (now : Time) (calls : ℤ → EmitCalls),
      node.id = key.nodeID →
      (e.Leaves key (.probe node result now calls) ↔
        ∀ o, (e.act (.probe node result now fun _ => o)).view key = e.view key) := by
  refine ⟨e.run_retask, ?_, ?_⟩
  · intro taskID other as bs hne hsame hquiet hquiet'
    constructor
    · rw [Engine.causedBy_withoutTask hne hquiet, Engine.causedBy_withoutTask hne hquiet', hsame]
    · rw [Engine.view_withoutTask hquiet, Engine.view_withoutTask hquiet', hsame]
  · intro node result now calls hnode
    have hkey : key = ⟨key.ruleID, node.id⟩ := by rw [hnode]
    rw [hkey]
    exact e.leaves_iff key.ruleID node result now calls

/-! ## A good result of another task -/

/-- An engine with the rule that half of the probes are lost for a minute. -/
def lossEngine : Engine where
  rules := [{ id := 1, name := "Packet loss", metric := .probeLoss, operator := .ge, threshold := 50,
              recoveryThreshold := 5, durationSeconds := 60, enabled := true }]

/-- The rule on the node of the runs below. -/
def lossKey : StateKey := ⟨1, "n1"⟩

/-- A result of a task at a number of seconds. -/
def lossResult (taskID seconds : ℤ) (lossPercent : Float) : Action :=
  .probe { id := "n1", name := "n1" } { taskID, lossPercent } (unixEpoch + seconds * second)
    fun _ => acceptingStore

theorem task_events_badResults :
    lossEngine.causedBy lossKey 1 [lossResult 1 0 100, lossResult 2 30 100, lossResult 1 60 100] =
      lossEngine.causedBy lossKey 1
        [lossResult 1 0 100, lossResult 1 60 100, lossResult 2 90 100] := by
  have hquiet : lossEngine.QuietTask lossKey 2
      [lossResult 1 0 100, lossResult 2 30 100, lossResult 1 60 100] := by
    decide +kernel
  have hquiet' : lossEngine.QuietTask lossKey 2
      [lossResult 1 0 100, lossResult 1 60 100, lossResult 2 90 100] := by
    decide +kernel
  have hsame : withoutTask lossKey 2
      [lossResult 1 0 100, lossResult 2 30 100, lossResult 1 60 100] =
        withoutTask lossKey 2 [lossResult 1 0 100, lossResult 1 60 100, lossResult 2 90 100] := rfl
  have hne : (1 : ℤ) ≠ 2 := by decide
  exact ((lossEngine.task_events lossKey).2.1 1 2 _ _ hne hsame hquiet hquiet').1

/-- The events of a task do not depend on when the results of another one arrive. -/
def Engine.TasksSeparate (e : Engine) (key : StateKey) (taskID other : ℤ) : Prop :=
  ∀ as bs, withoutTask key other as = withoutTask key other bs →
    e.causedBy key taskID as = e.causedBy key taskID bs

/-- A good result of another task ends the pending period, so the alert that is due is not raised;
when it comes later it resolves the alert. -/
theorem tasks_not_separate :
    ¬lossEngine.TasksSeparate lossKey 1 2 ∧
      ((lossEngine.run [lossResult 1 0 100, lossResult 1 60 100, lossResult 2 90 0]).eventsOf
        lossKey).map (fun event => (event.status, event.occurredAt)) =
        [(.firing, unixEpoch + 60 * second), (.resolved, unixEpoch + 90 * second)] := by
  constructor
  · intro h
    have hsame := h [lossResult 1 0 100, lossResult 2 30 0, lossResult 1 60 100]
      [lossResult 1 0 100, lossResult 1 60 100, lossResult 2 90 0] rfl
    revert hsame
    decide +kernel
  · decide +kernel

end Hostpin
