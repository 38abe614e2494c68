import Hostpin.Alerting.DaysLeft
import Hostpin.Alerting.Reload

/-!
# One reminder for each threshold

Every sweep checks the expiry of every monitor.  A check that counts one of six numbers of days
reminds of the expiry, unless the engine reminded of the same number less than twenty hours ago.
The number of days stays the same for twenty-four hours, so the sweeps of the last four hours can
remind a second time.

This file follows the checks of one node for one number of days through a run of the system.
`ExpiryCheck.apply` is what a check does to the `ReminderView`, and no other step of a run touches
it.  `reminds_once_iff` says exactly which runs remind once.
-/

namespace Hostpin

open Clock

/-! ## Checks -/

/-- The numbers of days for which a reminder is due. -/
def reminderDays : List ℤ := [30, 14, 7, 3, 1, 0]

/-- One expiry check of a sweep. -/
structure ExpiryCheck where
  calls : EmitCalls
  node : Node
  now : Time

/-- Perform a check. -/
def Engine.check (e : Engine) (c : ExpiryCheck) : Engine := e.evaluateExpiry c.calls c.node c.now

/-- A reminder at the instant `last` suppresses the ones of the next twenty hours. -/
def suppresses (last now : Time) : Bool := !isZero last && sub now last < 20 * hour

/-- The number of days that a check counts, when a reminder is due for it. -/
def ExpiryCheck.due (c : ExpiryCheck) : Option ℤ :=
  match c.node.expiresAt with
  | none => none
  | some expiresAt =>
    if !c.node.autoRenewal && reminderDays.contains (daysLeft expiresAt c.now) then
      some (daysLeft expiresAt c.now)
    else none

/-- The reminder that a check stores. -/
def ExpiryCheck.event (publicURL : String) (c : ExpiryCheck) (days : ℤ) : AlertEvent where
  id := c.calls.newV7.getD ""
  type := "expiry"
  status := .firing
  severity := if days ≤ 3 then "critical" else "warning"
  occurredAt := c.now
  node := c.node.toPublic
  metric := "expiry_days"
  value := Float.ofInt days
  threshold := Float.ofInt days
  link := nodeAlertLink publicURL c.node
  message := c.node.name ++ " expires in " ++ toString days ++ " day(s)"

/-- Remember the instant of the last reminder for a number of days. -/
def Engine.setExpiry (e : Engine) (nodeID : String) (days : ℤ) (now : Time) : Engine :=
  { e with expiry := Function.update e.expiry nodeID (Function.update (e.expiry nodeID) days now) }

/-- A check stores a reminder and remembers its instant, when one is due that no other one
suppresses and that can be stored. -/
lemma Engine.check_eq (e : Engine) (c : ExpiryCheck) :
    e.check c =
      match c.due with
      | none => e
      | some days =>
        if suppresses (e.expiry c.node.id days) c.now || !c.calls.stored then e
        else (e.record c.calls none (c.event e.publicURL days)).setExpiry c.node.id days c.now := by
  unfold Engine.check Engine.evaluateExpiry ExpiryCheck.due
  cases c.node.expiresAt with
  | none => rfl
  | some expiresAt =>
    have hdays : ceilToInt (durationHours (sub expiresAt c.now) / 24) = daysLeft expiresAt c.now :=
      rfl
    have hlist : [30, 14, 7, 3, 1, 0] = reminderDays := rfl
    rw [hlist]
    simp only [hdays]
    obtain ⟨days, hd⟩ : ∃ n, n = daysLeft expiresAt c.now := ⟨_, rfl⟩
    simp only [← hd]
    cases hauto : c.node.autoRenewal with
    | true => rfl
    | false =>
      cases hdue : reminderDays.contains days with
      | false => rfl
      | true =>
        have hsuppress : (!isZero (e.expiry c.node.id days) &&
            decide (sub c.now (e.expiry c.node.id days) < 20 * hour)) =
              suppresses (e.expiry c.node.id days) c.now := rfl
        simp only [hsuppress, Bool.not_false, Bool.not_true, Bool.true_and, Bool.false_eq_true,
          if_true, if_false]
        cases hst : c.calls.stored with
        | false =>
          simp only [Engine.emit_of_not_stored e hst, Bool.not_false, Bool.or_true,
            Bool.false_eq_true, if_true, if_false, ite_self]
        | true =>
          simp only [Engine.emit_of_stored e hst, if_true, Bool.or_false, Bool.not_true]
          rfl

/-! ## What the engine knows about one number of days -/

/-- The instants of the reminders of a node for a number of days, in the order in which they were
stored. -/
def Engine.reminders (e : Engine) (nodeID : String) (days : ℤ) : List Time :=
  (e.store.events.filter fun row => row.ruleID = none ∧ row.event.type = "expiry" ∧
    row.event.node.id = nodeID ∧ row.event.value = Float.ofInt days).map (·.event.occurredAt)

/-- The instant that the engine remembers for a node and a number of days, and the instants of the
stored reminders. -/
structure ReminderView where
  last : Time
  reminders : List Time

/-- What the engine knows about a node and a number of days. -/
def Engine.reminderView (e : Engine) (nodeID : String) (days : ℤ) : ReminderView :=
  ⟨e.expiry nodeID days, e.reminders nodeID days⟩

/-- A check asks for a reminder of a node for a number of days, and it could be stored. -/
def ExpiryCheck.effective (nodeID : String) (days : ℤ) (c : ExpiryCheck) : Bool :=
  c.node.id = nodeID && c.due = some days && c.calls.stored

/-- The effect of a check on the view of a node and a number of days. -/
def ExpiryCheck.apply (nodeID : String) (days : ℤ) (v : ReminderView) (c : ExpiryCheck) :
    ReminderView :=
  if c.effective nodeID days && !suppresses v.last c.now then ⟨c.now, v.reminders ++ [c.now]⟩ else v

/-- The values of the reminders tell the numbers of days apart. -/
lemma ofInt_injOn_reminderDays : ∀ days ∈ reminderDays, ∀ days' ∈ reminderDays,
    Float.ofInt days = Float.ofInt days' → days = days' := by
  decide +kernel

lemma ExpiryCheck.due_mem {c : ExpiryCheck} {days : ℤ} (h : c.due = some days) :
    days ∈ reminderDays := by
  unfold ExpiryCheck.due at h
  cases hexpires : c.node.expiresAt with
  | none => simp [hexpires] at h
  | some expiresAt =>
    simp only [hexpires] at h
    split_ifs at h with hdue
    rw [Option.some.injEq] at h
    rw [Bool.and_eq_true, List.contains_iff_mem] at hdue
    rw [← h]
    exact hdue.2

section View

variable {e : Engine} {nodeID : String} {days : ℤ}

/-- The reminders after a reminder was stored. -/
lemma Engine.reminders_record (c : ExpiryCheck) {due : ℤ} (hdue : due ∈ reminderDays)
    (hdays : days ∈ reminderDays) :
    (e.record c.calls none (c.event e.publicURL due)).reminders nodeID days =
      e.reminders nodeID days ++ if c.node.id = nodeID ∧ due = days then [c.now] else [] := by
  have hvalue : Float.ofInt due = Float.ofInt days ↔ due = days :=
    ⟨ofInt_injOn_reminderDays due hdue days hdays, congrArg Float.ofInt⟩
  have hnode : (c.event e.publicURL due).node.id = c.node.id := rfl
  have hval : (c.event e.publicURL due).value = Float.ofInt due := rfl
  unfold Engine.reminders
  rw [Engine.record_events, List.filter_append, List.map_append]
  congr 1
  by_cases hmatch : c.node.id = nodeID ∧ due = days
  · rw [if_pos hmatch, List.filter_cons_of_pos]
    · rfl
    · rw [decide_eq_true_eq, hnode, hval, hvalue]
      exact ⟨rfl, rfl, hmatch⟩
  · rw [if_neg hmatch, List.filter_cons_of_neg]
    · rfl
    · rw [decide_eq_true_eq, hnode, hval, hvalue]
      exact fun h => hmatch h.2.2

/-- A check acts on the view of every node and number of days. -/
lemma Engine.reminderView_check (e : Engine) (c : ExpiryCheck) (hdays : days ∈ reminderDays) :
    (e.check c).reminderView nodeID days = c.apply nodeID days (e.reminderView nodeID days) := by
  rw [Engine.check_eq, ExpiryCheck.apply, ExpiryCheck.effective]
  cases hdue : c.due with
  | none => simp
  | some due =>
    have hmem := ExpiryCheck.due_mem hdue
    simp only [Option.some.injEq, Engine.reminderView]
    by_cases hmatch : c.node.id = nodeID ∧ due = days
    · obtain ⟨rfl, rfl⟩ := hmatch
      by_cases hsend : (suppresses (e.expiry c.node.id due) c.now || !c.calls.stored) = true
      · rw [if_pos hsend, if_neg]
        simp only [Bool.or_eq_true, Bool.not_eq_true'] at hsend
        simp only [decide_true, Bool.true_and, Bool.and_eq_true, Bool.not_eq_true']
        rintro ⟨hstored, hnot⟩
        rcases hsend with hsend | hsend
        · rw [hsend] at hnot
          cases hnot
        · rw [hsend] at hstored
          cases hstored
      · rw [if_neg hsend, if_pos]
        · have hreminders : (e.record c.calls none (c.event e.publicURL due)).reminders
              c.node.id due = e.reminders c.node.id due ++ [c.now] := by
            rw [e.reminders_record c hmem hdays, if_pos ⟨rfl, rfl⟩]
          simp only [Engine.setExpiry, Function.update_self, ReminderView.mk.injEq, true_and]
          exact hreminders
        · simp only [Bool.or_eq_true, Bool.not_eq_true', not_or, Bool.not_eq_true,
            Bool.not_eq_false] at hsend
          simp [hsend.1, hsend.2]
    · have hineffective : ¬((decide (c.node.id = nodeID) && decide (due = days) &&
          c.calls.stored && !suppresses (e.expiry nodeID days) c.now) = true) := by
        simp only [Bool.and_eq_true, decide_eq_true_eq]
        exact fun h => hmatch h.1.1
      rw [if_neg hineffective]
      split
      · rfl
      · have hreminders : (e.record c.calls none (c.event e.publicURL due)).reminders nodeID days =
            e.reminders nodeID days := by
          rw [e.reminders_record c hmem hdays, if_neg hmatch, List.append_nil]
        have hlast : Function.update e.expiry c.node.id
            (Function.update (e.expiry c.node.id) due c.now) nodeID days = e.expiry nodeID days := by
          by_cases hnode : nodeID = c.node.id
          · subst hnode
            have hne : days ≠ due := fun h => hmatch ⟨rfl, h.symm⟩
            rw [Function.update_self, Function.update_of_ne hne]
          · rw [Function.update_of_ne hnode]
        simp only [Engine.setExpiry, ReminderView.mk.injEq]
        exact ⟨hlast, hreminders⟩

/-- The evaluation of rules touches no reminder. -/
lemma Engine.reminderView_call (e : Engine) (c : RuleCall) :
    (e.call c).reminderView nodeID days = e.reminderView nodeID days := by
  rw [Engine.call_eq]
  generalize (e.ruleState c.key).step c.rule c.value c.now c.calls.stored = next
  obtain ⟨s, _ | status⟩ := next
  · rfl
  · have hreminders : (e.record c.calls (some c.rule.id) (c.event e.publicURL status)).reminders
        nodeID days = e.reminders nodeID days := by
      simp [Engine.reminders]
    exact congrArg (ReminderView.mk (e.expiry nodeID days)) hreminders

/-- An evaluation of a sample or a probe result touches no reminder. -/
lemma Engine.reminderView_evaluate (e : Engine) (calls : ℤ → EmitCalls) (item : Evaluation)
    (now : Time) : (e.evaluate calls item now).reminderView nodeID days =
      e.reminderView nodeID days := by
  rw [Engine.evaluate_eq]
  generalize ruleCalls e.rules calls item now = cs
  induction cs generalizing e with
  | nil => rfl
  | cons c cs ih => exact (ih (e.call c)).trans (e.reminderView_call c)

/-- A sweep acts on the view by the checks of its monitors. -/
lemma Engine.reminderView_sweepNodes (e : Engine) (calls : SweepCalls) (now : Time)
    (hdays : days ∈ reminderDays) :
    (e.sweepNodes calls now).reminderView nodeID days =
      ((calls.listNodes.getD []).map fun node => (⟨calls.emitExpiry node.id, node, now⟩ :
        ExpiryCheck)).foldl (ExpiryCheck.apply nodeID days) (e.reminderView nodeID days) := by
  have hmonitors : ∀ (nodes : List Node) (e : Engine),
      (nodes.foldl (Engine.sweepMonitor calls now) e).reminderView nodeID days =
        (nodes.map fun node => (⟨calls.emitExpiry node.id, node, now⟩ : ExpiryCheck)).foldl
          (ExpiryCheck.apply nodeID days) (e.reminderView nodeID days) := by
    intro nodes
    induction nodes with
    | nil => exact fun e => rfl
    | cons node nodes ih =>
      intro e
      rw [List.foldl_cons, ih, List.map_cons, List.foldl_cons]
      congr 1
      have hcheck : (Engine.sweepMonitor calls now e node).reminderView nodeID days =
          ExpiryCheck.apply nodeID days
            ((e.evaluate (calls.emitMonitor node.id)
              { node, sample := some (onlineSample (e.monitorOnline calls.latest node now) now) }
              now).reminderView nodeID days) ⟨calls.emitExpiry node.id, node, now⟩ :=
        Engine.reminderView_check _ ⟨calls.emitExpiry node.id, node, now⟩ hdays
      rw [Engine.reminderView_evaluate] at hcheck
      exact hcheck
  have hlatency : ∀ (nodes : List Node) (e : Engine),
      (nodes.foldl (Engine.sweepLatency calls now) e).reminderView nodeID days =
        e.reminderView nodeID days := by
    intro nodes
    induction nodes with
    | nil => exact fun e => rfl
    | cons node nodes ih =>
      intro e
      rw [List.foldl_cons, ih]
      exact e.reminderView_evaluate _ _ _
  unfold Engine.sweepNodes
  cases calls.listNodes with
  | none => rfl
  | some nodes =>
    cases calls.listLatencyNodes with
    | none => exact hmonitors nodes e
    | some probeNodes => exact (hlatency probeNodes _).trans (hmonitors nodes e)

end View

/-! ## Runs -/

/-- The expiry checks of a step are the ones of the monitors of a sweep. -/
def SystemStep.checks : SystemStep → List ExpiryCheck
  | .act (.sweep calls now) =>
    (calls.listNodes.getD []).map fun node => ⟨calls.emitExpiry node.id, node, now⟩
  | _ => []

/-- A step of the system acts on the view by its checks. -/
lemma AlertSystem.reminderView_perform (s : AlertSystem) (step : SystemStep) {nodeID : String}
    {days : ℤ} (hdays : days ∈ reminderDays) :
    (s.perform step).engine.reminderView nodeID days =
      step.checks.foldl (ExpiryCheck.apply nodeID days) (s.engine.reminderView nodeID days) := by
  cases step with
  | save rule getNode storeOK =>
    rw [AlertSystem.engine_save]
    rfl
  | delete id storeOK =>
    rw [AlertSystem.engine_delete]
    rfl
  | load storeOK => cases storeOK <;> rfl
  | act a =>
    cases a with
    | sample node sample now calls => exact s.engine.reminderView_evaluate calls _ now
    | probe node result now calls => exact s.engine.reminderView_evaluate calls _ now
    | sweep calls now => exact s.engine.reminderView_sweepNodes calls now hdays

/-- A run acts on the view by the checks of its steps. -/
lemma AlertSystem.reminderView_run (s : AlertSystem) (steps : List SystemStep) {nodeID : String}
    {days : ℤ} (hdays : days ∈ reminderDays) :
    (s.run steps).engine.reminderView nodeID days =
      (steps.flatMap SystemStep.checks).foldl (ExpiryCheck.apply nodeID days)
        (s.engine.reminderView nodeID days) := by
  induction steps generalizing s with
  | nil => rfl
  | cons step steps ih =>
    rw [List.flatMap_cons, List.foldl_append, ← s.reminderView_perform step hdays]
    exact ih (s.perform step)

/-- The instants that are not suppressed, each by the last one before it that is not. -/
def letThrough (last : Time) : List Time → List Time
  | [] => []
  | t :: ts => if suppresses last t then letThrough last ts else t :: letThrough t ts

/-- A list of checks adds the reminders of its effective checks that are not suppressed. -/
lemma foldl_apply (nodeID : String) (days : ℤ) (checks : List ExpiryCheck) (v : ReminderView) :
    (checks.foldl (ExpiryCheck.apply nodeID days) v).reminders =
      v.reminders ++ letThrough v.last ((checks.filter (·.effective nodeID days)).map (·.now)) := by
  induction checks generalizing v with
  | nil => simp [letThrough]
  | cons c checks ih =>
    rw [List.foldl_cons, ih, ExpiryCheck.apply]
    cases heffective : c.effective nodeID days with
    | false => simp [heffective]
    | true =>
      cases hsuppress : suppresses v.last c.now <;> simp [heffective, hsuppress, letThrough]

/-- An instant suppresses all the others exactly when they come within twenty hours. -/
lemma letThrough_eq_nil_iff {t : Time} {ts : List Time} :
    letThrough t ts = [] ↔ ∀ u ∈ ts, t ≠ 0 ∧ u - t < 20 * hour := by
  have hsuppresses : ∀ u, suppresses t u = true ↔ t ≠ 0 ∧ u - t < 20 * hour := by
    intro u
    rw [suppresses, Bool.and_eq_true, decide_eq_true_eq, sub_lt_iff (by decide) (by decide)]
    simp [isZero]
  induction ts with
  | nil => simp [letThrough]
  | cons u ts ih =>
    rw [letThrough, List.forall_mem_cons, ← hsuppresses u]
    split
    · rename_i h
      simpa [h] using ih
    · rename_i h
      simp [h]

/-! ## One reminder -/

/-- The reminders of a node for a number of days that a run adds. -/
def AlertSystem.sent (s : AlertSystem) (steps : List SystemStep) (nodeID : String) (days : ℤ) :
    List Time :=
  ((s.run steps).engine.reminders nodeID days).drop (s.engine.reminders nodeID days).length

/-- The instants at which the sweeps of a run check a node in the window of a number of days and
could store a reminder. -/
def windowChecks (steps : List SystemStep) (nodeID : String) (expiresAt : Time) (days : ℤ) :
    List Time :=
  ((steps.flatMap SystemStep.checks).filter fun c =>
    c.node.id = nodeID ∧ InWindow expiresAt days c.now ∧ c.calls.stored).map (·.now)

/-- A run reminds of a number of days once: at most once, and not never when a sweep in the window
could store the reminder. -/
def AlertSystem.RemindsOnce (s : AlertSystem) (steps : List SystemStep) (nodeID : String)
    (expiresAt : Time) (days : ℤ) : Prop :=
  (s.sent steps nodeID days).length ≤ 1 ∧
    (windowChecks steps nodeID expiresAt days ≠ [] → s.sent steps nodeID days ≠ [])

/-- All instants come less than twenty hours after the first one, which is not the zero instant. -/
def WithinTwentyHours : List Time → Prop
  | [] => True
  | t :: ts => ∀ u ∈ ts, t ≠ 0 ∧ u - t < 20 * hour

/-- A node with a fixed expiry that is not renewed. -/
def FixedExpiry (steps : List SystemStep) (nodeID : String) (expiresAt : Time) : Prop :=
  ∀ c ∈ steps.flatMap SystemStep.checks, c.node.id = nodeID →
    c.node.expiresAt = some expiresAt ∧ c.node.autoRenewal = false

/-- A new engine has reminded of nothing, so the reminders of a run are the checks in the window
that are not suppressed. -/
lemma AlertSystem.sent_eq {s : AlertSystem} (hfresh : s.engine.expiry = fun _ _ => 0)
    {steps : List SystemStep} {nodeID : String} {expiresAt : Time}
    (hfixed : FixedExpiry steps nodeID expiresAt) {days : ℤ} (hdays : days ∈ reminderDays) :
    s.sent steps nodeID days = letThrough 0 (windowChecks steps nodeID expiresAt days) := by
  have hrange : 0 ≤ days ∧ days ≤ 30 := by
    revert days
    decide
  have heffective : (steps.flatMap SystemStep.checks).filter (·.effective nodeID days) =
      (steps.flatMap SystemStep.checks).filter fun c =>
        c.node.id = nodeID ∧ InWindow expiresAt days c.now ∧ c.calls.stored := by
    refine List.filter_congr fun c hc => ?_
    by_cases hnode : c.node.id = nodeID
    · obtain ⟨hexpires, hauto⟩ := hfixed c hc hnode
      have hdue : c.due = some days ↔ InWindow expiresAt days c.now := by
        rw [← daysLeft_eq_iff hrange.1 hrange.2, ExpiryCheck.due, hexpires]
        simp only [hauto, Bool.not_false, Bool.true_and]
        constructor
        · intro h
          split_ifs at h with hmem
          exact Option.some.inj h
        · intro h
          rw [h, if_pos (List.contains_iff_mem.mpr hdays)]
      simp [ExpiryCheck.effective, hnode, hdue, Bool.decide_and]
    · simp [ExpiryCheck.effective, hnode]
  have hrun : (s.run steps).engine.reminders nodeID days =
      ((steps.flatMap SystemStep.checks).foldl (ExpiryCheck.apply nodeID days)
        (s.engine.reminderView nodeID days)).reminders :=
    congrArg ReminderView.reminders (s.reminderView_run steps hdays)
  rw [foldl_apply, heffective] at hrun
  have hlast : (s.engine.reminderView nodeID days).last = 0 := by
    rw [Engine.reminderView, hfresh]
  rw [hlast] at hrun
  unfold AlertSystem.sent
  exact (congrArg (List.drop (s.engine.reminders nodeID days).length) hrun).trans
    List.drop_left

/-- In the life of an engine, a node with a fixed expiry gets one reminder for a number of days
exactly when all the sweeps in the window that could store a reminder come less than twenty hours
after the first of them. -/
theorem AlertSystem.reminds_once_iff (s : AlertSystem) (hfresh : s.engine.expiry = fun _ _ => 0)
    (steps : List SystemStep) (nodeID : String) (expiresAt : Time)
    (hfixed : FixedExpiry steps nodeID expiresAt) (days : ℤ) (hdays : days ∈ reminderDays) :
    s.RemindsOnce steps nodeID expiresAt days ↔
      WithinTwentyHours (windowChecks steps nodeID expiresAt days) := by
  unfold AlertSystem.RemindsOnce
  rw [AlertSystem.sent_eq hfresh hfixed hdays]
  cases windowChecks steps nodeID expiresAt days with
  | nil => simp [letThrough, WithinTwentyHours]
  | cons t ts =>
    -- nothing suppresses the first reminder
    have hfirst : letThrough 0 (t :: ts) = t :: letThrough t ts := rfl
    rw [hfirst, WithinTwentyHours, ← letThrough_eq_nil_iff]
    simp

/-! ## A window with two reminders -/

/-- The expiry of the node of the runs below. -/
def leaseEnd : Time := unixEpoch + 20000 * (24 * hour)

/-- A node that expires. -/
def leasedNode : Node := { id := "node-expiry", name := "leased-edge", expiresAt := some leaseEnd }

/-- A sweep three days before the expiry, a number of hours later. -/
def leaseSweep (hours : ℤ) : SystemStep :=
  .act (.sweep
    { listNodes := some [leasedNode], listLatencyNodes := some [], latest := fun _ => none,
      emitMonitor := fun _ _ => acceptingStore, emitExpiry := fun _ => acceptingStore,
      emitLatency := fun _ _ => acceptingStore } (leaseEnd - 72 * hour + hours * hour))

theorem reminds_once_iff_nineteenHours :
    ({} : AlertSystem).RemindsOnce [leaseSweep 0, leaseSweep 19] "node-expiry" leaseEnd 3 ↔
      WithinTwentyHours (windowChecks [leaseSweep 0, leaseSweep 19] "node-expiry" leaseEnd 3) :=
  AlertSystem.reminds_once_iff {} rfl _ _ _ (by unfold FixedExpiry; decide) 3 (by decide)

/-- A sweep that finds three days left and another one twenty hours later both remind. -/
theorem reminds_twice :
    ¬({} : AlertSystem).RemindsOnce [leaseSweep 0, leaseSweep 20] "node-expiry" leaseEnd 3 := by
  intro h
  have hlength := h.1
  revert hlength
  decide +kernel

end Hostpin
