import Hostpin.Alerting.LifeCycle

/-!
# Events and their notifications

An `emit` stores an event and then queues its notifications, with two calls of the store.  The
second one lists the channels and inserts a delivery for each enabled one in a transaction; any of
its statements can fail.  Then the transaction is rolled back and the error is only logged.

`Engine.emitStatements` runs `emit` statement by statement, and `Engine.emitStatements_eq` says that
the transaction makes the second call all or nothing, as `Engine.emit` has it.
`Engine.emit_delivers_iff` says when an event that counts as emitted has its notifications.
-/

namespace Hostpin

open Clock

/-! ## Statements -/

/-- What the statements return that queue the notifications of an event: the list of channels, the
start of the transaction, the id and the insertion of each delivery, and the commit. -/
structure EnqueueStatements where
  listNotificationChannels : Bool := true
  beginTx : Bool := true
  newV7 : ℕ → Bool := fun _ => true
  insert : ℕ → Bool := fun _ => true
  commit : Bool := true

/-- The delivery of an event on a channel. -/
def pendingDelivery (eventID : String) (now : Time) (channel : NotificationChannel) :
    NotificationDelivery :=
  { eventID, channelID := channel.id, status := "pending", attempts := 0,
    nextAttemptAt := unixMilli now, lastError := "" }

/-- The insertions of a transaction, one for each channel that is enabled.  The number counts the
insertions before. -/
def insertDeliveries (statements : EnqueueStatements) (eventID : String) (now : Time) :
    ℕ → List NotificationChannel → List NotificationDelivery → Option (List NotificationDelivery)
  | _, [], inserted => some inserted
  | i, channel :: channels, inserted =>
    if !channel.enabled then insertDeliveries statements eventID now i channels inserted
    else if !statements.newV7 i then none
    else if !statements.insert i then none
    else
      insertDeliveries statements eventID now (i + 1) channels
        (inserted ++ [pendingDelivery eventID now channel])

/-- Queue the notifications of an event.  Without a commit nothing is inserted. -/
def AlertStore.enqueueStatements (s : AlertStore) (statements : EnqueueStatements)
    (eventID : String) (now : Time) : Option AlertStore :=
  if !statements.listNotificationChannels then none
  else if !statements.beginTx then none
  else
    match insertDeliveries statements eventID now 0 s.channels [] with
    | none => none
    | some inserted =>
      if statements.commit then some { s with deliveries := s.deliveries ++ inserted } else none

/-- What the calls of one `emit` return, statement by statement. -/
structure EmitStatements where
  newV7 : Option String
  saveAlertEvent : Bool := true
  enqueue : EnqueueStatements := {}

/-- Store an event and queue its notifications; the result says whether the event was stored. -/
def Engine.emitStatements (e : Engine) (statements : EmitStatements) (ruleID : Option ℤ)
    (eventType : String) (status : AlertStatus) (severity : String) (node : Node)
    (metric : String) (value threshold : Float) (message : String) (now : Time) : Engine × Bool :=
  match statements.newV7 with
  | none => (e, false)
  | some id =>
    let event : AlertEvent :=
      { id, type := eventType, status, severity, occurredAt := now, node := node.toPublic, metric,
        value, threshold, link := nodeAlertLink e.publicURL node, message }
    if !statements.saveAlertEvent then (e, false)
    else
      let saved := e.store.saveAlertEvent event ruleID
      match saved.enqueueStatements statements.enqueue event.id now with
      | none => ({ e with store := saved }, true)
      | some store => ({ e with store }, true)

/-! ## All or nothing -/

/-- The channels that are enabled. -/
def AlertStore.enabledChannels (s : AlertStore) : List NotificationChannel :=
  s.channels.filter (·.enabled)

/-- Every statement that queues the notifications of an event works. -/
def EnqueueStatements.Work (statements : EnqueueStatements) (s : AlertStore) : Prop :=
  statements.listNotificationChannels = true ∧ statements.beginTx = true ∧
    (∀ i < s.enabledChannels.length, statements.newV7 i = true ∧ statements.insert i = true) ∧
    statements.commit = true

instance (statements : EnqueueStatements) (s : AlertStore) : Decidable (statements.Work s) :=
  inferInstanceAs (Decidable (_ ∧ _ ∧ _ ∧ _))

/-- The insertions give a delivery for each channel that is enabled, or nothing. -/
lemma insertDeliveries_eq (statements : EnqueueStatements) (eventID : String) (now : Time) (i : ℕ)
    (channels : List NotificationChannel) (inserted : List NotificationDelivery) :
    insertDeliveries statements eventID now i channels inserted =
      if ∀ k < (channels.filter (·.enabled)).length,
          statements.newV7 (i + k) = true ∧ statements.insert (i + k) = true then
        some (inserted ++ (channels.filter (·.enabled)).map (pendingDelivery eventID now))
      else none := by
  induction channels generalizing i inserted with
  | nil => simp [insertDeliveries]
  | cons channel channels ih =>
    by_cases enabled : channel.enabled
    · rw [List.filter_cons_of_pos enabled, List.length_cons, List.map_cons]
      have hsplit : (∀ k < (channels.filter (·.enabled)).length + 1,
          statements.newV7 (i + k) = true ∧ statements.insert (i + k) = true) ↔
          (statements.newV7 i = true ∧ statements.insert i = true) ∧
            ∀ k < (channels.filter (·.enabled)).length,
              statements.newV7 (i + 1 + k) = true ∧ statements.insert (i + 1 + k) = true := by
        rw [Nat.forall_lt_succ_left]
        simp only [Nat.add_zero, Nat.add_assoc, Nat.add_comm 1]
      simp only [hsplit, insertDeliveries, ih, enabled, Bool.not_true, Bool.false_eq_true, if_false]
      by_cases newV7 : statements.newV7 i <;> by_cases insert : statements.insert i <;>
        simp [newV7, insert]
    · rw [List.filter_cons_of_neg enabled]
      simp only [insertDeliveries, enabled, ih, Bool.not_false, if_true]

/-- Without a failure there is a delivery for each channel that is enabled, and otherwise nothing
changes. -/
lemma AlertStore.enqueueStatements_eq (s : AlertStore) (statements : EnqueueStatements)
    (eventID : String) (now : Time) : s.enqueueStatements statements eventID now =
      if statements.Work s then some (s.enqueueNotificationDeliveries eventID now) else none := by
  simp only [enqueueStatements, insertDeliveries_eq, EnqueueStatements.Work, enabledChannels,
    Nat.zero_add, List.nil_append]
  by_cases list : statements.listNotificationChannels <;>
    by_cases begin : statements.beginTx <;> by_cases commit : statements.commit <;>
      simp only [list, begin, commit, Bool.not_true, Bool.not_false, if_true, if_false, true_and,
        and_true, false_and, and_false, Bool.false_eq_true]
  · split_ifs <;> rfl
  · split_ifs <;> rfl

/-- Statement by statement `emit` does what it does call by call. -/
theorem Engine.emitStatements_eq (e : Engine) (statements : EmitStatements) (ruleID : Option ℤ)
    (eventType : String) (status : AlertStatus) (severity : String) (node : Node)
    (metric : String) (value threshold : Float) (message : String) (now : Time) :
    e.emitStatements statements ruleID eventType status severity node metric value threshold
        message now =
      e.emit ⟨statements.newV7, statements.saveAlertEvent, statements.enqueue.Work e.store⟩ ruleID
        eventType status severity node metric value threshold message now := by
  unfold emitStatements emit
  cases statements.newV7 with
  | none => rfl
  | some id =>
    cases statements.saveAlertEvent with
    | false => rfl
    | true =>
      simp only [AlertStore.enqueueStatements_eq, Bool.not_true, Bool.false_eq_true, if_false,
        if_true, decide_eq_true_eq]
      by_cases work : statements.enqueue.Work e.store
      · rw [if_pos work,
          if_pos (show statements.enqueue.Work (e.store.saveAlertEvent _ _) from work)]
      · rw [if_neg work,
          if_neg (show ¬statements.enqueue.Work (e.store.saveAlertEvent _ _) from work)]

/-! ## Events that are delivered -/

/-- An event is stored when `emit` says so, with one pending delivery for every channel that is
enabled, and otherwise nothing has changed, if and only if the notifications can be queued, or there
is none to queue, or the event was not stored. -/
theorem Engine.emit_delivers_iff (e : Engine) (statements : EmitStatements) (ruleID : Option ℤ)
    (eventType : String) (status : AlertStatus) (severity : String) (node : Node)
    (metric : String) (value threshold : Float) (message : String) (now : Time) :
    let emitted := e.emitStatements statements ruleID eventType status severity node metric value
      threshold message now
    ((emitted.2 = true → ∃ row : AlertEventRow, row.ruleID = ruleID ∧ row.event.type = eventType ∧
        row.event.status = status ∧ row.event.node = node.toPublic ∧ row.event.occurredAt = now ∧
        emitted.1.store.events = e.store.events ++ [row] ∧
        emitted.1.store.deliveries = e.store.deliveries ++
          e.store.enabledChannels.map (pendingDelivery row.event.id now)) ∧
      (emitted.2 = false → emitted.1 = e)) ↔
      statements.newV7 = none ∨ statements.saveAlertEvent = false ∨
        e.store.enabledChannels = [] ∨ statements.enqueue.Work e.store := by
  simp only [emitStatements_eq, emit]
  cases statements.newV7 with
  | none => simp
  | some id =>
    cases statements.saveAlertEvent with
    | false => simp
    | true =>
      by_cases work : statements.enqueue.Work e.store
      · simp only [if_true, work, decide_true, true_implies, reduceCtorEq, false_implies, and_true,
          or_true, iff_true]
        exact ⟨⟨ruleID, _⟩, rfl, rfl, rfl, rfl, rfl, rfl, rfl⟩
      · simp only [if_true, work, decide_false, if_false, Bool.false_eq_true, true_implies,
          reduceCtorEq, false_implies, and_true, false_or, or_false]
        constructor
        · rintro ⟨row, -, -, -, -, -, -, deliveries⟩
          have := congrArg List.length deliveries
          simpa [AlertStore.saveAlertEvent] using this
        · intro none
          exact ⟨⟨ruleID, _⟩, rfl, rfl, rfl, rfl, rfl, rfl,
            by simp [AlertStore.saveAlertEvent, none]⟩

/-- An engine with one channel. -/
def exampleEngine : Engine := { store := { channels := [⟨1, true⟩] } }

/-- The commit of the second call fails. -/
def commitFails : EmitStatements := { newV7 := some "e1", enqueue := { commit := false } }

/-- An event counts as emitted and has no notification. -/
theorem Engine.emit_silent :
    ¬ ∀ (e : Engine) (statements : EmitStatements) (ruleID : Option ℤ) (eventType : String)
      (status : AlertStatus) (severity : String) (node : Node) (metric : String)
      (value threshold : Float) (message : String) (now : Time),
      let emitted := e.emitStatements statements ruleID eventType status severity node metric value
        threshold message now
      (emitted.2 = true → ∃ row : AlertEventRow, row.ruleID = ruleID ∧
          row.event.type = eventType ∧ row.event.status = status ∧
          row.event.node = node.toPublic ∧ row.event.occurredAt = now ∧
          emitted.1.store.events = e.store.events ++ [row] ∧
          emitted.1.store.deliveries = e.store.deliveries ++
            e.store.enabledChannels.map (pendingDelivery row.event.id now)) ∧
        (emitted.2 = false → emitted.1 = e) := by
  intro claim
  obtain ⟨row, -, -, -, -, -, -, deliveries⟩ :=
    (claim exampleEngine commitFails none "expiry" .firing "warning" {} "expiry_days" 7 7 "" 0).1
      rfl
  have lengths := congrArg List.length deliveries
  simp [exampleEngine, commitFails, Engine.emitStatements, AlertStore.enqueueStatements,
    insertDeliveries, AlertStore.enabledChannels, AlertStore.saveAlertEvent] at lengths

/-! ## The state of the engine -/

/-- Without an event that counts as emitted an evaluation of a rule stores nothing and keeps
`firing` and `lastEvent` of every state. -/
theorem Engine.call_of_not_stored (e : Engine) (c : RuleCall) (h : c.calls.stored = false) :
    (e.call c).store = e.store ∧ (e.call c).expiry = e.expiry ∧ ∀ key,
      ((e.call c).ruleState key).firing = (e.ruleState key).firing ∧
        ((e.call c).ruleState key).lastEvent = (e.ruleState key).lastEvent := by
  obtain ⟨firing, lastEvent⟩ :=
    RuleState.step_of_not_stored (e.ruleState c.key) c.rule c.value c.now
  have event : ((e.ruleState c.key).step c.rule c.value c.now false).2 = none := by
    unfold RuleState.step
    split_ifs <;> trivial
  rw [e.call_eq c, h]
  generalize (e.ruleState c.key).step c.rule c.value c.now false = after at firing lastEvent event
  obtain ⟨s, ev⟩ := after
  obtain rfl : ev = none := event
  refine ⟨rfl, rfl, fun key => ?_⟩
  rw [Engine.ruleState_setState]
  by_cases hkey : key = c.key
  · rw [if_pos hkey, hkey]
    exact ⟨firing, lastEvent⟩
  · rw [if_neg hkey]
    exact ⟨rfl, rfl⟩

end Hostpin
