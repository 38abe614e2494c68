import Hostpin.Alerting.Admin
import Hostpin.Alerting.Sweep

/-!
# Alerts and edits of their rules

The state of a rule is kept for the id of the rule and survives every reload, so a pending period
or an alert that was collected for one version of a rule can be used up by the next version.  This
file follows one rule on one node through a run of edits, reloads and evaluations: `AlertSystem.log`
lists the evaluations, the events they store and the reloads that change the version.

`SoundLog` says that every firing event ends an unbroken run of evaluations under the present
version that lasts the whole duration of the rule, and that every resolved event follows a firing
event for the same metric and threshold.  It holds in every run in which no reload brings a new
version of a rule that is pending or firing (`AlertSystem.SafeLoad`), and it fails without this
condition.
-/

namespace Hostpin

open Clock

/-! ## Versions and logs -/

/-- What an administrator edits when a rule gets a new version. -/
structure RuleVersion where
  metric : Metric
  operator : Operator
  threshold : Float
  durationSeconds : ℤ
  scope : AlertScope
  enabled : Bool
deriving DecidableEq

/-- The version of a rule. -/
def AlertRule.version (rule : AlertRule) : RuleVersion :=
  ⟨rule.metric, rule.operator, rule.threshold, rule.durationSeconds, rule.scope, rule.enabled⟩

/-- The version of a rule that the engine works with, if it has the rule. -/
def Engine.version (e : Engine) (ruleID : ℤ) : Option RuleVersion :=
  (e.rules.find? fun rule => rule.id = ruleID).map AlertRule.version

/-- An entry in the log of one rule on one node: an evaluation with the event it stored, or a
reload that changed the version of the rule. -/
inductive Entry where
  | evaluated (c : RuleCall) (event : Option AlertEvent)
  | reloaded

/-- The event of an entry. -/
def Entry.event : Entry → Option AlertEvent
  | .evaluated _ event => event
  | .reloaded => none

/-- An entry supports an alert of a rule: it is an evaluation under the same version that met the
condition. -/
def Entry.supports (rule : AlertRule) : Entry → Bool
  | .evaluated c _ => c.rule.version = rule.version && compare c.value rule.operator rule.threshold
  | .reloaded => false

/-- The evaluation of an entry was made not later than `t`. -/
def Entry.notAfter (t : Time) : Entry → Bool
  | .evaluated c _ => c.now ≤ t
  | .reloaded => false

/-- The entries at the end of a log that support an alert of a rule without a break include one
that is older than the duration of the rule. -/
def Justified (log : List Entry) (c : RuleCall) : Prop :=
  ∃ x ∈ log.rtakeWhile (Entry.supports c.rule),
    x.notAfter (c.now - c.rule.durationSeconds * second) = true

/-- The last event of a log is a firing event for the metric and the threshold of a rule. -/
def FiredFor (log : List Entry) (rule : AlertRule) : Prop :=
  ∃ event ∈ (log.filterMap Entry.event).getLast?,
    event.status = .firing ∧ event.metric = rule.metric.text ∧ event.threshold = rule.threshold

/-- The event of an entry, if any, depends only on the version of the rule at that time.  The list
holds the entries before. -/
def SoundEntry (log : List Entry) : Entry → Prop
  | .reloaded => True
  | .evaluated _ none => True
  | .evaluated c (some event) =>
    (event.status = .firing → Justified (log ++ [.evaluated c (some event)]) c) ∧
      (event.status = .resolved → FiredFor log c.rule)

/-- Every event of a log depends only on the version of the rule at the time of the event. -/
def SoundLog (log : List Entry) : Prop :=
  ∀ k (h : k < log.length), SoundEntry (log.take k) log[k]

instance (log : List Entry) (c : RuleCall) : Decidable (Justified log c) :=
  inferInstanceAs (Decidable (∃ x ∈ _, _))

instance (log : List Entry) (rule : AlertRule) : Decidable (FiredFor log rule) :=
  inferInstanceAs (Decidable (∃ event ∈ _, _))

instance (log : List Entry) : (x : Entry) → Decidable (SoundEntry log x)
  | .reloaded => .isTrue trivial
  | .evaluated _ none => .isTrue trivial
  | .evaluated _ (some _) => inferInstanceAs (Decidable (_ ∧ _))

instance (log : List Entry) : Decidable (SoundLog log) :=
  inferInstanceAs (Decidable (∀ k (_ : k < log.length), _))

/-! ## Runs -/

/-- One step of the system: a request of the administrator, a reload or an action of the engine.
The arguments of a request are the ones of its handler. -/
inductive SystemStep where
  | save (rule : AlertRule) (getNode : String → Bool) (storeOK : Bool)
  | delete (id : ℤ) (storeOK : Bool)
  | load (storeOK : Bool)
  | act (a : Action)

/-- The calls of an action. -/
def Engine.callsOf (e : Engine) : Action → List RuleCall
  | .sample node sample now calls => ruleCalls e.rules calls { node, sample := some sample } now
  | .probe node result now calls => ruleCalls e.rules calls { node, probe := some result } now
  | .sweep calls now => sweepCalls e calls now

/-- An action keeps the rules valid. -/
lemma AlertSystem.valid_act (s : AlertSystem) (a : Action) :
    ∀ rule ∈ (s.engine.act a).rules, validateAlertRule rule = .ok () := by
  rw [(s.engine.sameConfig_act a).rules]
  exact s.engine_valid

/-- The system after a request; a request that fails changes nothing. -/
def AlertSystem.answered (s : AlertSystem) : Except ApiError AlertSystem → AlertSystem
  | .ok s' => s'
  | .error _ => s

/-- Perform a step. -/
def AlertSystem.perform (s : AlertSystem) : SystemStep → AlertSystem
  | .save rule getNode storeOK =>
    s.answered ((s.handleAdminSaveAlertRule rule getNode storeOK).map Prod.fst)
  | .delete id storeOK => s.answered (s.handleAdminDeleteAlertRule id storeOK)
  | .load storeOK => s.loadRules storeOK
  | .act a => { s with engine := s.engine.act a, engine_valid := s.valid_act a }

/-- Perform a list of steps. -/
def AlertSystem.run (s : AlertSystem) (steps : List SystemStep) : AlertSystem :=
  steps.foldl AlertSystem.perform s

/-- The entry of a call in a state of its rule. -/
def RuleCall.entry (publicURL : String) (c : RuleCall) (state : RuleState) : Entry :=
  .evaluated c ((state.step c.rule c.value c.now c.calls.stored).2.map (c.event publicURL))

/-- The entries of a list of calls for one key, from the view of the key before them. -/
def entriesOf (publicURL : String) : RuleView → List RuleCall → List Entry
  | _, [] => []
  | v, c :: cs => c.entry publicURL v.state :: entriesOf publicURL (c.apply publicURL v) cs

/-- The entries that a step adds to the log of a key. -/
def AlertSystem.entries (s : AlertSystem) (key : StateKey) : SystemStep → List Entry
  | .save .. => []
  | .delete .. => []
  | .load storeOK =>
    if (s.loadRules storeOK).engine.version key.ruleID = s.engine.version key.ruleID then []
    else [.reloaded]
  | .act a =>
    entriesOf s.engine.publicURL (s.engine.view key)
      ((s.engine.callsOf a).filter fun c => c.key = key)

/-- The log of a key in a run. -/
def AlertSystem.log (s : AlertSystem) (key : StateKey) : List SystemStep → List Entry
  | [] => []
  | step :: steps => s.entries key step ++ (s.perform step).log key steps

/-- A reload is safe: a rule that is pending on a node is loaded in the version the engine has, or
disabled, and a rule that is firing on a node is loaded with the metric and the threshold the
engine has. -/
def AlertSystem.SafeLoad (s : AlertSystem) : Prop :=
  ∀ rule ∈ s.rules, ∀ nodeID,
    (s.engine.ruleState ⟨rule.id, nodeID⟩).firing = true ∧
        (∃ old ∈ s.engine.rules, old.id = rule.id ∧ old.metric = rule.metric ∧
          old.threshold = rule.threshold) ∨
      (s.engine.ruleState ⟨rule.id, nodeID⟩).firing = false ∧
        ((s.engine.ruleState ⟨rule.id, nodeID⟩).pendingSince = 0 ∨ rule.enabled = false ∨
          ∃ old ∈ s.engine.rules, old.id = rule.id ∧ old.version = rule.version)

/-- Every reload of a run is safe in the state in which it is made. -/
def AlertSystem.SafeRun (s : AlertSystem) : List SystemStep → Prop
  | [] => True
  | step :: steps => (step = .load true → s.SafeLoad) ∧ (s.perform step).SafeRun steps

/-! ## Logs that grow -/

/-- One more sound entry keeps a log sound. -/
lemma SoundLog.concat {log : List Entry} (h : SoundLog log) {x : Entry} (hx : SoundEntry log x) :
    SoundLog (log ++ [x]) := by
  intro k hk
  rcases lt_or_eq_of_le (Nat.lt_succ_iff.mp (by simpa using hk)) with hlt | rfl
  · rw [List.take_append_of_le_length hlt.le, List.getElem_append_left hlt]
    exact h k hlt
  · simpa using hx

/-- An entry without an event keeps a log sound. -/
lemma SoundLog.concat_of_event_eq_none {log : List Entry} (h : SoundLog log) {x : Entry}
    (hx : x.event = none) : SoundLog (log ++ [x]) := by
  refine h.concat ?_
  cases x with
  | reloaded => trivial
  | evaluated c event =>
    obtain rfl : event = none := hx
    trivial

/-- An entry without an event does not change the last event of a log. -/
lemma FiredFor.concat {log : List Entry} {rule : AlertRule} (h : FiredFor log rule) {x : Entry}
    (hx : x.event = none) : FiredFor (log ++ [x]) rule := by
  unfold FiredFor at h ⊢
  rwa [List.filterMap_append, List.filterMap_cons_none hx, List.filterMap_nil, List.append_nil]

/-! ## The invariant -/

/-- What holds of a rule on a node after a log: the pending period of an enabled rule starts at an
evaluation of the unbroken run at the end of the log, and a firing rule has fired for its present
metric and threshold. -/
structure VersionInv (rules : List AlertRule) (key : StateKey) (log : List Entry)
    (state : RuleState) : Prop where
  /-- A pending period belongs to the present version. -/
  pending : state.firing = false → state.pendingSince ≠ 0 → ∀ rule ∈ rules,
    rule.id = key.ruleID → rule.enabled = true →
      ∃ c event, Entry.evaluated c event ∈ log.rtakeWhile (Entry.supports rule) ∧
        c.now = state.pendingSince
  /-- An alert belongs to the present metric and threshold. -/
  firing : state.firing = true → ∀ rule ∈ rules, rule.id = key.ruleID → FiredFor log rule
  /-- The events so far are sound. -/
  sound : SoundLog log

section Call

variable {rules : List AlertRule} {key : StateKey} {log : List Entry} {v : RuleView}
  {c : RuleCall} {publicURL : String}

/-- A call that meets the condition extends the unbroken run, which then holds the evaluation at
which the pending period starts. -/
lemma VersionInv.exists_start (h : VersionInv rules key log v.state) (hkey : c.key = key)
    (hrule : c.rule ∈ rules) (henabled : c.rule.enabled = true) (hfire : v.state.firing = false)
    (hmeets : compare c.value c.rule.operator c.rule.threshold = true) (event : Option AlertEvent) :
    ∃ c₀ event₀, Entry.evaluated c₀ event₀ ∈
        (log ++ [Entry.evaluated c event]).rtakeWhile (Entry.supports c.rule) ∧
      c₀.now = (v.state.arm c.now).pendingSince := by
  have hsupports : (Entry.evaluated c event).supports c.rule = true := by
    simp [Entry.supports, hmeets]
  rw [List.rtakeWhile_concat_pos _ _ _ hsupports, RuleState.arm_pendingSince]
  by_cases hzero : v.state.pendingSince = 0
  · exact ⟨c, event, by simp, by rw [if_pos hzero]⟩
  · have hid : c.rule.id = key.ruleID := by rw [← hkey]; rfl
    obtain ⟨c₀, event₀, hmem, hnow⟩ := h.pending hfire hzero c.rule hrule hid henabled
    exact ⟨c₀, event₀, List.mem_append_left _ hmem, by rw [if_neg hzero, hnow]⟩

/-- One call keeps the invariant. -/
lemma VersionInv.call (hnd : (rules.map AlertRule.id).Nodup)
    (hvalid : validateAlertRule c.rule = .ok ()) (h : VersionInv rules key log v.state)
    (hkey : c.key = key) (hrule : c.rule ∈ rules) (henabled : c.rule.enabled = true) :
    VersionInv rules key (log ++ [c.entry publicURL v.state]) (c.apply publicURL v).state := by
  have hsame : ∀ rule ∈ rules, rule.id = key.ruleID → rule = c.rule := fun rule hr hid =>
    List.inj_on_of_nodup_map hnd hr hrule (by rw [hid, ← hkey]; rfl)
  have hstart := fun hf hm event => h.exists_start hkey hrule henabled hf hm event
  unfold RuleCall.entry RuleCall.apply
  rcases v.state.step_cases c.rule c.value c.now c.calls.stored with
    ⟨-, hfire, hs⟩ | ⟨hcmp, hfire, -, hs⟩ | ⟨hcmp, hfire, hwait, -, hs⟩ | ⟨-, -, hs⟩ |
      ⟨-, hfire, -, -, hs⟩
  · simp only [hs, Option.map_none]
    refine ⟨fun hf => ?_, fun hf rule hr hid => (h.firing hf rule hr hid).concat rfl,
      h.sound.concat_of_event_eq_none rfl⟩
    rw [hfire] at hf
    cases hf
  · simp only [hs, Option.map_none]
    refine ⟨fun _ _ rule hr hid _ => ?_, fun hf => ?_, h.sound.concat_of_event_eq_none rfl⟩
    · rw [hsame rule hr hid]
      exact hstart hfire hcmp none
    · rw [RuleState.arm_firing, hfire] at hf
      cases hf
  · -- the rule fires: the run is as old as the duration
    simp only [hs, Option.map_some]
    refine ⟨fun hf => absurd hf (by simp), fun _ rule hr hid => ?_, h.sound.concat ?_⟩
    · rw [hsame rule hr hid]
      exact ⟨c.event publicURL .firing, by simp [Entry.event], rfl, rfl, rfl⟩
    · refine ⟨fun _ => ?_, nofun⟩
      obtain ⟨c₀, event₀, hmem, hnow⟩ := hstart hfire hcmp (some (c.event publicURL .firing))
      have hdur := RuleState.duration_of_not_waiting hvalid hwait
      refine ⟨_, hmem, decide_eq_true ?_⟩
      rw [hnow]
      exact le_sub_comm.mp hdur
  · simp only [hs, Option.map_none]
    exact ⟨fun _ hp => absurd rfl hp, fun hf rule hr hid => (h.firing hf rule hr hid).concat rfl,
      h.sound.concat_of_event_eq_none rfl⟩
  · -- the rule recovers: its alert was raised for the same metric and threshold
    simp only [hs, Option.map_some]
    refine ⟨fun _ hp => absurd rfl hp, fun hf => absurd hf (by simp), h.sound.concat ?_⟩
    refine ⟨nofun, fun _ => h.firing hfire c.rule hrule ?_⟩
    rw [← hkey]
    rfl

/-- A list of calls keeps the invariant. -/
lemma VersionInv.calls (hnd : (rules.map AlertRule.id).Nodup) (cs : List RuleCall)
    (hvalid : ∀ rule ∈ rules, validateAlertRule rule = .ok ())
    (h : VersionInv rules key log v.state)
    (hcs : ∀ c ∈ cs, c.key = key ∧ c.rule ∈ rules ∧ c.rule.enabled = true) :
    VersionInv rules key (log ++ entriesOf publicURL v cs)
      (cs.foldl (fun v c => c.apply publicURL v) v).state := by
  induction cs generalizing log v with
  | nil => simpa [entriesOf] using h
  | cons c cs ih =>
    obtain ⟨hkey, hrule, henabled⟩ := hcs c List.mem_cons_self
    have hcall : VersionInv rules key (log ++ [c.entry publicURL v.state])
        (c.apply publicURL v).state := h.call hnd (hvalid c.rule hrule) hkey hrule henabled
    have hrest := ih hcall fun d hd => hcs d (List.mem_cons_of_mem _ hd)
    rwa [List.append_assoc] at hrest

end Call

/-! ## Steps keep the invariant -/

/-- A call of an action is for an enabled rule of the engine. -/
lemma Engine.mem_callsOf {e : Engine} {a : Action} {c : RuleCall} (h : c ∈ e.callsOf a) :
    c.rule ∈ e.rules ∧ c.rule.enabled = true := by
  cases a with
  | sample node sample now calls =>
    exact ⟨(RuleCall.isFor_of_mem h).mem, (RuleCall.isFor_of_mem h).enabled⟩
  | probe node result now calls =>
    exact ⟨(RuleCall.isFor_of_mem h).mem, (RuleCall.isFor_of_mem h).enabled⟩
  | sweep calls now => exact mem_sweepCalls h

/-- An action acts on the view of every key by its calls. -/
lemma Engine.view_act (e : Engine) (a : Action) (key : StateKey) :
    (e.act a).view key = applyAll e.publicURL key (e.callsOf a) (e.view key) := by
  cases a with
  | sample node sample now calls => rw [Engine.act, Engine.evaluate_eq, Engine.view_callAll]; rfl
  | probe node result now calls => rw [Engine.act, Engine.evaluate_eq, Engine.view_callAll]; rfl
  | sweep calls now => exact (e.sweepNodes_spec calls now).2 key

/-- The events of a list of calls are the events of their entries. -/
lemma events_foldl_apply (publicURL : String) (cs : List RuleCall) (v : RuleView) :
    (cs.foldl (fun v c => c.apply publicURL v) v).events =
      v.events ++ (entriesOf publicURL v cs).filterMap Entry.event := by
  induction cs generalizing v with
  | nil => simp [entriesOf]
  | cons c cs ih =>
    rw [List.foldl_cons, ih, entriesOf, List.filterMap_cons]
    unfold RuleCall.apply RuleCall.entry Entry.event
    cases (v.state.step c.rule c.value c.now c.calls.stored).2 <;> simp

/-- A request of the administrator does not reach the engine before the next reload. -/
lemma AlertSystem.engine_save (s : AlertSystem) (rule : AlertRule) (getNode : String → Bool)
    (storeOK : Bool) : (s.perform (.save rule getNode storeOK)).engine = s.engine := by
  simp only [AlertSystem.perform]
  cases h : s.handleAdminSaveAlertRule rule getNode storeOK with
  | error e => rfl
  | ok p => exact AlertSystem.engine_of_save h

/-- A request of the administrator does not reach the engine before the next reload. -/
lemma AlertSystem.engine_delete (s : AlertSystem) (id : ℤ) (storeOK : Bool) :
    (s.perform (.delete id storeOK)).engine = s.engine := by
  simp only [AlertSystem.perform]
  cases h : s.handleAdminDeleteAlertRule id storeOK with
  | error e => rfl
  | ok s' => exact AlertSystem.engine_of_delete h

/-- A reload leaves the states and the events alone. -/
lemma Engine.view_loadRules (e : Engine) (stored : Option (KeyedTable AlertRule.id))
    (key : StateKey) : (e.loadRules stored).view key = e.view key := by
  cases stored <;> rfl

/-- The version of a rule that the engine has. -/
lemma Engine.version_eq {e : Engine} {rule : AlertRule} (h : rule ∈ e.rules) :
    e.version rule.id = some rule.version := by
  unfold Engine.version
  cases hfind : e.rules.find? fun r => r.id = rule.id with
  | none =>
    rw [List.find?_eq_none] at hfind
    exact absurd (by simp) (hfind rule h)
  | some r =>
    have hid : r.id = rule.id := by simpa using List.find?_some hfind
    rw [Engine.rule_eq_of_id_eq (List.mem_of_find?_eq_some hfind) h hid]
    rfl

/-- Only the version of the rule decides which entries support its alerts. -/
lemma Entry.supports_congr {rule rule' : AlertRule} (h : rule.version = rule'.version) :
    Entry.supports rule = Entry.supports rule' := by
  funext x
  have hop : rule.operator = rule'.operator := congrArg RuleVersion.operator h
  have hth : rule.threshold = rule'.threshold := congrArg RuleVersion.threshold h
  cases x <;> simp [Entry.supports, h, hop, hth]

/-- A safe reload keeps the invariant. -/
lemma VersionInv.load {s : AlertSystem} {key : StateKey} {log : List Entry}
    (h : VersionInv s.engine.rules key log (s.engine.ruleState key)) (hsafe : s.SafeLoad) :
    VersionInv (s.loadRules true).engine.rules key (log ++ s.entries key (.load true))
      (s.engine.ruleState key) := by
  have hrules : ∀ {rule}, rule ∈ (s.loadRules true).engine.rules → rule ∈ s.rules :=
    fun hr => (s.engine.mem_loadRules s.rules).mp hr
  have hstate : ∀ {rule : AlertRule}, rule.id = key.ruleID →
      (⟨rule.id, key.nodeID⟩ : StateKey) = key := by
    rintro rule hid
    rw [hid]
  refine ⟨fun hf hp rule hr hid henabled => ?_, fun hf rule hr hid => ?_, ?_⟩
  · -- the version is the one before, so the log does not change
    obtain ⟨old, hold, holdid, hver⟩ : ∃ old ∈ s.engine.rules, old.id = rule.id ∧
        old.version = rule.version := by
      rcases hsafe rule (hrules hr) key.nodeID with ⟨hf', -⟩ | ⟨-, hp' | hdis | hold⟩
      · rw [hstate hid, hf] at hf'
        cases hf'
      · rw [hstate hid] at hp'
        exact absurd hp' hp
      · rw [henabled] at hdis
        cases hdis
      · exact hold
    have holdenabled : old.enabled = true := by
      rw [← henabled]
      exact congrArg RuleVersion.enabled hver
    have hsame : s.entries key (.load true) = [] := by
      unfold AlertSystem.entries
      refine if_pos ?_
      rw [← hid, Engine.version_eq hr, ← holdid, Engine.version_eq hold, hver]
    rw [hsame, List.append_nil, ← Entry.supports_congr hver]
    exact h.pending hf hp old hold (holdid.trans hid) holdenabled
  · rcases hsafe rule (hrules hr) key.nodeID with ⟨-, old, hold, holdid, hmetric, hth⟩ | ⟨hf', -⟩
    · have hfired := h.firing hf old hold (holdid.trans hid)
      have hnew : FiredFor log rule := by
        unfold FiredFor at hfired ⊢
        rwa [hmetric, hth] at hfired
      simp only [AlertSystem.entries]
      split_ifs
      · rwa [List.append_nil]
      · exact hnew.concat rfl
    · rw [hstate hid, hf] at hf'
      cases hf'
  · simp only [AlertSystem.entries]
    split_ifs
    · rw [List.append_nil]
      exact h.sound
    · exact h.sound.concat_of_event_eq_none rfl

/-- One step keeps the invariant, when it is not an unsafe reload, and adds the events of its
entries. -/
lemma VersionInv.perform {s : AlertSystem} {key : StateKey} {log : List Entry} {step : SystemStep}
    (h : VersionInv s.engine.rules key log (s.engine.ruleState key))
    (hsafe : step = .load true → s.SafeLoad) :
    VersionInv (s.perform step).engine.rules key (log ++ s.entries key step)
        ((s.perform step).engine.ruleState key) ∧
      (s.perform step).engine.eventsOf key =
        s.engine.eventsOf key ++ (s.entries key step).filterMap Entry.event := by
  cases step with
  | save rule getNode storeOK =>
    rw [AlertSystem.engine_save]
    simpa [AlertSystem.entries] using h
  | delete id storeOK =>
    rw [AlertSystem.engine_delete]
    simpa [AlertSystem.entries] using h
  | load storeOK =>
    have hview := s.engine.view_loadRules (if storeOK then some s.rules else none) key
    have hstate : (s.perform (.load storeOK)).engine.ruleState key = s.engine.ruleState key :=
      congrArg RuleView.state hview
    refine ⟨?_, ?_⟩
    · rw [hstate]
      cases storeOK with
      | true => exact h.load (hsafe rfl)
      | false => simpa [AlertSystem.entries, AlertSystem.perform, AlertSystem.loadRules,
          Engine.loadRules] using h
    · have hevents : (s.perform (.load storeOK)).engine.eventsOf key = s.engine.eventsOf key :=
        congrArg RuleView.events hview
      rw [hevents]
      simp only [AlertSystem.entries]
      split_ifs <;> simp [Entry.event]
  | act a =>
    have hview := s.engine.view_act a key
    have hconf := (s.engine.sameConfig_act a).rules
    refine ⟨?_, (congrArg RuleView.events hview).trans (events_foldl_apply _ _ _)⟩
    have hcs : ∀ c ∈ (s.engine.callsOf a).filter fun c => c.key = key,
        c.key = key ∧ c.rule ∈ s.engine.rules ∧ c.rule.enabled = true := by
      intro c hc
      obtain ⟨hmem, hkey⟩ := List.mem_filter.mp hc
      obtain ⟨hrule, henabled⟩ := Engine.mem_callsOf hmem
      exact ⟨by simpa using hkey, hrule, henabled⟩
    have hstate : (s.perform (.act a)).engine.ruleState key = _ := congrArg RuleView.state hview
    have hrules : (s.perform (.act a)).engine.rules = s.engine.rules := hconf
    rw [hrules, hstate]
    exact h.calls s.engine.rules_nodup _ s.engine_valid hcs

/-- A run without unsafe reloads keeps the invariant and adds the events of its log. -/
lemma VersionInv.run {s : AlertSystem} {key : StateKey} {log : List Entry}
    (h : VersionInv s.engine.rules key log (s.engine.ruleState key)) (steps : List SystemStep)
    (hsafe : s.SafeRun steps) :
    VersionInv (s.run steps).engine.rules key (log ++ s.log key steps)
        ((s.run steps).engine.ruleState key) ∧
      (s.run steps).engine.eventsOf key =
        s.engine.eventsOf key ++ (s.log key steps).filterMap Entry.event := by
  induction steps generalizing s log with
  | nil => simpa [AlertSystem.run, AlertSystem.log] using h
  | cons step steps ih =>
    obtain ⟨hinv, hevents⟩ := h.perform hsafe.1
    obtain ⟨hinv', hevents'⟩ := ih hinv hsafe.2
    refine ⟨?_, ?_⟩
    · rw [AlertSystem.log, ← List.append_assoc]
      exact hinv'
    · rw [AlertSystem.log, List.filterMap_append, ← List.append_assoc, ← hevents]
      exact hevents'

/-- Alerts depend only on the present version of their rule.  From an engine that has just started,
in every run of edits, reloads and evaluations in which no reload brings a new version of a pending
rule or another metric or threshold to a firing one, every firing event ends an unbroken run of
evaluations under the present version that lasts the duration of the rule, and every resolved event
follows a firing event for the same metric and threshold.  The log that says so lists all events
that the run stores. -/
theorem AlertSystem.events_of_present_version (s : AlertSystem) (steps : List SystemStep)
    (key : StateKey) (hfresh : s.engine.ruleState key = {})
    (hsafe : s.SafeRun steps) :
    SoundLog (s.log key steps) ∧
      (s.run steps).engine.eventsOf key =
        s.engine.eventsOf key ++ (s.log key steps).filterMap Entry.event := by
  have hinit : VersionInv s.engine.rules key [] (s.engine.ruleState key) := by
    rw [hfresh]
    exact ⟨fun _ hp => absurd rfl hp, nofun, nofun⟩
  obtain ⟨hinv, hevents⟩ := hinit.run steps hsafe
  exact ⟨hinv.sound, hevents⟩

/-! ## Edits that use up the state of another version -/

/-- The rule that the processor is above 90 percent for a number of seconds. -/
def cpuRule (id durationSeconds : ℤ) : AlertRule where
  id := id
  name := "busy"
  metric := .cpu
  operator := .gt
  threshold := 90
  recoveryThreshold := 85
  durationSeconds := durationSeconds
  severity := "warning"
  enabled := true

/-- The same rule for the load of the last minute. -/
def loadRule (id durationSeconds : ℤ) : AlertRule :=
  { cpuRule id durationSeconds with metric := .load1, threshold := 4, recoveryThreshold := 2 }

/-- A sample with a processor use and a load at a number of seconds. -/
def loadSample (seconds : ℤ) (cpu load1 : Float) : SystemStep :=
  .act (.sample cpuNode { receivedAt := seconds * second, cpu, load1 } (seconds * second)
    fun _ => acceptingStore)

/-- The rule is edited while it is pending. -/
def editWhilePending : List SystemStep :=
  [.save (cpuRule 0 60) (fun _ => true) true, .load true, loadSample 100 95 0,
    .save (loadRule 1 60) (fun _ => true) true, .load true, loadSample 160 1 8]

/-- The rule is edited while it is firing. -/
def editWhileFiring : List SystemStep :=
  [.save (cpuRule 0 0) (fun _ => true) true, .load true, loadSample 100 95 0,
    .save (loadRule 1 0) (fun _ => true) true, .load true, loadSample 160 95 0]

/-- An edit of a pending rule lets the new version fire at its first evaluation, and an edit of a
firing rule lets the new version end an alert that was raised for another metric. -/
theorem edits_use_old_state :
    ¬ SoundLog (({} : AlertSystem).log ⟨1, "n1"⟩ editWhilePending) ∧
      ¬ SoundLog (({} : AlertSystem).log ⟨1, "n1"⟩ editWhileFiring) := by
  constructor <;> decide +kernel

/-- The rule is loaded, fires after a minute of high load and recovers. -/
def loadedOnce : List SystemStep :=
  [.save (cpuRule 0 60) (fun _ => true) true, .load true, loadSample 100 95 0,
    loadSample 160 95 0, loadSample 170 10 0]

/-- A run in which the rule is loaded before its first evaluation is sound; it stores a firing and
a resolved event. -/
theorem events_of_present_version_loadedOnce :
    (({} : AlertSystem).log ⟨1, "n1"⟩ loadedOnce).filterMap
        (fun x => x.event.map AlertEvent.status) = [.firing, .resolved] ∧
      SoundLog (({} : AlertSystem).log ⟨1, "n1"⟩ loadedOnce) := by
  refine ⟨by decide +kernel,
    (AlertSystem.events_of_present_version {} loadedOnce ⟨1, "n1"⟩ rfl ?_).1⟩
  have hload : (({} : AlertSystem).perform
      (.save (cpuRule 0 60) (fun _ => true) true)).SafeLoad := by
    intro rule _ nodeID
    rw [AlertSystem.engine_save]
    exact Or.inr ⟨rfl, Or.inl rfl⟩
  exact ⟨nofun, fun _ => hload, nofun, nofun, nofun, trivial⟩

end Hostpin
