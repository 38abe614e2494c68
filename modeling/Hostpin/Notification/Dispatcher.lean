import Hostpin.Foundation.Clock
import Hostpin.Foundation.KeyedTable
import Hostpin.Foundation.Runs
import Hostpin.Foundation.Utf8

/-!
# The notification dispatcher

One goroutine sends the notifications.  A round loads the deliveries that are due and sends them one
after the other; after each it updates the row of the delivery.  A failed delivery is tried again
after 1, 5 and 15 minutes and fails for good the fourth time.

The update is the only place where the attempts are counted, and its error is ignored.  The database
takes texts in UTF-8 without the byte zero only, and the text of an error is cut at a byte.  So the
rules hold as long as the texts survive the cut (`Dispatcher.lifeCycle`), and a delivery is sent on
and on when they do not (`Dispatcher.sent_five_times`).
-/

namespace Hostpin

open Clock Runs

/-! ## Deliveries -/

/-- The status of a delivery. -/
inductive DeliveryStatus where
  | pending
  | retry
  | sent
  | failed
deriving DecidableEq

/-- A row of the table of deliveries; the next attempt is given in milliseconds. -/
structure DeliveryRow where
  id : String
  channelID : ℤ
  status : DeliveryStatus := .pending
  attempts : ℕ := 0
  nextAttemptAt : ℤ
  lastError : Bytes := []
deriving DecidableEq

/-- The table of deliveries. -/
abbrev DeliveryTable := KeyedTable DeliveryRow.id

/-- A delivery waits for an attempt. -/
def DeliveryRow.isOpen (row : DeliveryRow) : Bool := row.status = .pending || row.status = .retry

lemma DeliveryRow.isOpen_iff {row : DeliveryRow} :
    row.isOpen = true ↔ row.status = .pending ∨ row.status = .retry := by
  simp [isOpen]

/-- The deliveries that are due, on channels that are enabled. -/
def DeliveryTable.dueNotificationDeliveries (table : DeliveryTable) (enabled : ℤ → Bool)
    (now : Time) (limit : ℤ) : List DeliveryRow :=
  (table.selectOrdered
    (fun row => row.isOpen && row.nextAttemptAt ≤ unixMilli now && enabled row.channelID)
    DeliveryRow.nextAttemptAt).take (if limit ≤ 0 ∨ 100 < limit then 25 else limit).toNat

/-- The database takes a text. -/
def storable (text : Bytes) : Bool := Utf8.valid text && !text.contains 0

/-- The row of a delivery after an update. -/
def DeliveryRow.updated (row : DeliveryRow) (id : String) (status : DeliveryStatus)
    (attempts : ℕ) (next : Time) (lastError : Bytes) : DeliveryRow :=
  if row.id = id then
    { row with status, attempts, nextAttemptAt := unixMilli next, lastError }
  else row

@[simp] lemma DeliveryRow.id_updated (row : DeliveryRow) (id : String) (status : DeliveryStatus)
    (attempts : ℕ) (next : Time) (lastError : Bytes) :
    (row.updated id status attempts next lastError).id = row.id := by
  unfold updated
  split <;> rfl

/-- Update the row of a delivery.  It fails when the database does not take the text or there is no
such row. -/
def DeliveryTable.updateNotificationDelivery (table : DeliveryTable) (id : String)
    (status : DeliveryStatus) (attempts : ℕ) (next : Time) (lastError : Bytes) :
    Option DeliveryTable :=
  if !storable lastError || (table.lookup id).isNone then none
  else
    some (table.updateAll (·.updated id status attempts next lastError) fun row =>
      row.id_updated id status attempts next lastError)

/-! ## Rounds -/

/-- The times between two attempts. -/
def retryDelays : List Duration := [minute, 5 * minute, 15 * minute]

/-- An attempt to send a delivery. -/
structure SendRecord where
  id : String
  startedAt : Time
  finishedAt : Time
  succeeded : Bool
deriving DecidableEq

/-- The deliveries, those that the round under way has still to send, the latest time that was read,
and all attempts so far. -/
structure Dispatcher where
  table : DeliveryTable := KeyedTable.empty
  batch : List DeliveryRow := []
  clock : Time := 0
  sends : List SendRecord := []

/-- What can happen: a delivery is queued, a round starts, sends the next delivery, or ends early.
-/
inductive DispatcherEvent where
  | enqueue (id : String) (channelID : ℤ) (now : Time)
  | process (enabled : ℤ → Bool) (now : Time)
  | send (startedAt finishedAt : Time) (error : Option Bytes)
  | cancel

/-- The text of an error as it is stored. -/
def storedError (message : Bytes) : Bytes :=
  if 1024 < message.length then message.take 1024 else message

/-- The status and the time of the next attempt after a number of attempts that failed. -/
def afterFailure (attempts : ℕ) (now : Time) : DeliveryStatus × Time :=
  if attempts ≤ retryDelays.length then (.retry, now + retryDelays.getD (attempts - 1) 0)
  else (.failed, now)

/-- The table after an attempt. -/
def DeliveryTable.afterSend (table : DeliveryTable) (delivery : DeliveryRow) (now : Time)
    (error : Option Bytes) : DeliveryTable :=
  let attempts := delivery.attempts + 1
  (match error with
  | none => table.updateNotificationDelivery delivery.id .sent attempts now []
  | some message =>
    let (status, next) := afterFailure attempts now
    table.updateNotificationDelivery delivery.id status attempts next
      (storedError message)).getD table

/-- The state after an event. -/
def Dispatcher.step (d : Dispatcher) : DispatcherEvent → Dispatcher
  | .enqueue id channelID now =>
    match d.table.insertNew { id, channelID, nextAttemptAt := unixMilli now } with
    | none => d
    | some table => { d with table, clock := now }
  | .process enabled now =>
    match d.batch with
    | [] => { d with batch := d.table.dueNotificationDeliveries enabled now 25, clock := now }
    | _ :: _ => d
  | .send startedAt finishedAt error =>
    match d.batch with
    | [] => d
    | delivery :: rest =>
      { table := d.table.afterSend delivery finishedAt error
        batch := rest
        clock := finishedAt
        sends := d.sends ++ [⟨delivery.id, startedAt, finishedAt, error.isNone⟩] }
  | .cancel => { d with batch := [] }

/-- The attempts to send a delivery. -/
def Dispatcher.sendsOf (d : Dispatcher) (id : String) : List SendRecord :=
  d.sends.filter (·.id = id)

/-! ## Conditions -/

/-- Times do not decrease. -/
def Dispatcher.InTime (d : Dispatcher) : DispatcherEvent → Prop
  | .enqueue _ _ now | .process _ now => d.clock ≤ now
  | .send startedAt finishedAt _ => d.clock ≤ startedAt ∧ startedAt ≤ finishedAt
  | .cancel => True

/-- The instant from which a delivery that has failed may be tried again. -/
def Dispatcher.retryAt (d : Dispatcher) (row : DeliveryRow) : Option Time :=
  ((d.sendsOf row.id).getLast?).map fun last =>
    last.finishedAt + retryDelays.getD (row.attempts - 1) 0

/-- The condition of a step.  The database takes the text of an error as it is stored, and a round
does not start in the last fraction of a millisecond before a delivery may be tried again, since the
store keeps whole milliseconds. -/
def Dispatcher.Accepted (d : Dispatcher) : DispatcherEvent → Prop
  | .send _ _ (some message) => storable (storedError message) = true
  | .process _ now => ∀ row ∈ d.table, row.status = .retry → ∀ due ∈ d.retryAt row,
      ¬(unixMilli now = unixMilli due ∧ now < due)
  | _ => True

instance Dispatcher.InTime.decidable (d : Dispatcher) : ∀ event, Decidable (d.InTime event)
  | .enqueue _ _ now | .process _ now => inferInstanceAs (Decidable (d.clock ≤ now))
  | .send startedAt finishedAt _ =>
    inferInstanceAs (Decidable (d.clock ≤ startedAt ∧ startedAt ≤ finishedAt))
  | .cancel => instDecidableTrue

instance Dispatcher.Accepted.decidable (d : Dispatcher) : ∀ event, Decidable (d.Accepted event)
  | .send _ _ (some message) => inferInstanceAs (Decidable (storable (storedError message) = true))
  | .process _ now =>
    inferInstanceAs (Decidable (∀ row ∈ d.table.rows, row.status = .retry → ∀ due ∈ d.retryAt row,
      ¬(unixMilli now = unixMilli due ∧ now < due)))
  | .send _ _ none | .enqueue .. | .cancel => instDecidableTrue

/-! ## Attempts -/

/-- The attempts to send a delivery are at most four, each but the last one has failed, and the next
one is made when the delay is over. -/
structure Paced (sends : List SendRecord) : Prop where
  short : sends.length ≤ 4
  spaced : ∀ (k : ℕ) (a b : SendRecord), sends[k]? = some a → sends[k + 1]? = some b →
    a.succeeded = false ∧ a.finishedAt + retryDelays.getD k 0 ≤ b.startedAt

/-- A row says what the attempts have come to. -/
structure DeliveryRow.Matches (row : DeliveryRow) (sends : List SendRecord) : Prop where
  counted : row.attempts = sends.length
  pending : row.status = .pending → sends = []
  retry : row.status = .retry → sends.length ≤ 3 ∧ ∀ last ∈ sends.getLast?,
    last.succeeded = false ∧
      row.nextAttemptAt = unixMilli (last.finishedAt + retryDelays.getD (sends.length - 1) 0)

/-- The rows match the attempts, and the deliveries of the round under way are to be sent. -/
structure Dispatcher.Orderly (d : Dispatcher) : Prop where
  paced : ∀ id, Paced (d.sendsOf id)
  rows : ∀ row ∈ d.table, row.Matches (d.sendsOf row.id)
  unsent : ∀ id, (∀ row ∈ d.table, row.id ≠ id) → d.sendsOf id = []
  batch : ∀ row ∈ d.batch, row ∈ d.table ∧ row.isOpen = true ∧
    ∀ due ∈ d.retryAt row, due ≤ d.clock
  distinct : (d.batch.map DeliveryRow.id).Nodup

/-- One more attempt. -/
lemma Paced.concat {sends : List SendRecord} (h : Paced sends) (hshort : sends.length ≤ 3)
    {next : SendRecord} (hlast : ∀ last ∈ sends.getLast?, last.succeeded = false ∧
      last.finishedAt + retryDelays.getD (sends.length - 1) 0 ≤ next.startedAt) :
    Paced (sends ++ [next]) := by
  refine ⟨by simpa using Nat.lt_succ_of_le hshort, fun k a b ha hb => ?_⟩
  have hlt : k + 1 < sends.length + 1 := by
    simpa using (List.getElem?_eq_some_iff.mp hb).1
  rw [List.getElem?_append_left (by omega)] at ha
  by_cases hk : k + 1 < sends.length
  · rw [List.getElem?_append_left hk] at hb
    exact h.spaced k a b ha hb
  · obtain rfl : k = sends.length - 1 := by omega
    rw [List.getElem?_append_right (by omega),
      show sends.length - 1 + 1 - sends.length = 0 by omega,
      List.getElem?_cons_zero, Option.some.injEq] at hb
    subst hb
    exact hlast a (by rw [List.getLast?_eq_getElem?]; exact ha)

/-- The deliveries that are due. -/
lemma DeliveryTable.mem_due {table : DeliveryTable} {enabled : ℤ → Bool} {now : Time} {limit : ℤ}
    {row : DeliveryRow} (h : row ∈ table.dueNotificationDeliveries enabled now limit) :
    row ∈ table ∧ row.isOpen = true ∧ row.nextAttemptAt ≤ unixMilli now := by
  have := KeyedTable.mem_selectOrdered.mp (List.mem_of_mem_take h)
  simp only [Bool.and_eq_true, decide_eq_true_eq] at this
  exact ⟨this.1, this.2.1.1, this.2.1.2⟩

/-- No delivery is loaded twice. -/
lemma DeliveryTable.nodup_due (table : DeliveryTable) (enabled : ℤ → Bool) (now : Time)
    (limit : ℤ) :
    ((table.dueNotificationDeliveries enabled now limit).map DeliveryRow.id).Nodup := by
  refine ((List.take_sublist _ _).map _).nodup ?_
  rw [KeyedTable.selectOrdered, ((List.perm_insertionSort _ _).map _).nodup_iff]
  exact (List.filter_sublist.map _).nodup table.keys_nodup

/-- An update that the database takes. -/
lemma DeliveryTable.update_eq_some {table : DeliveryTable} {delivery : DeliveryRow}
    (mem : delivery ∈ table) {lastError : Bytes} (hstorable : storable lastError = true)
    (status : DeliveryStatus) (attempts : ℕ) (next : Time) :
    ∃ table', table.updateNotificationDelivery delivery.id status attempts next lastError =
        some table' ∧
      ∀ row, row ∈ table' ↔ ∃ old ∈ table,
        old.updated delivery.id status attempts next lastError = row := by
  have hlookup : table.lookup delivery.id = some delivery :=
    KeyedTable.lookup_eq_some_iff.mpr ⟨mem, rfl⟩
  refine ⟨table.updateAll _ fun row => row.id_updated _ status attempts next lastError, ?_,
    fun row => KeyedTable.mem_updateAll⟩
  simp [updateNotificationDelivery, hstorable, hlookup]

namespace Dispatcher

variable {d : Dispatcher} {row delivery : DeliveryRow} {rest : List DeliveryRow}

/-- What an attempt comes to: the row is updated, when the text of the error is taken. -/
lemma afterSend_spec (mem : delivery ∈ d.table) (now : Time) {error : Option Bytes}
    (accepted : ∀ message ∈ error, storable (storedError message) = true) :
    ∃ (status : DeliveryStatus) (next : Time) (text : Bytes),
      (∀ row, row ∈ d.table.afterSend delivery now error ↔ ∃ old ∈ d.table,
        old.updated delivery.id status (delivery.attempts + 1) next text = row) ∧
      status ≠ .pending ∧
      (status = .retry → error.isNone = false ∧ delivery.attempts + 1 ≤ 3 ∧
        next = now + retryDelays.getD delivery.attempts 0) := by
  cases error with
  | none =>
    obtain ⟨table', hupdate, hmem⟩ := DeliveryTable.update_eq_some mem
      (by decide : storable [] = true) .sent (delivery.attempts + 1) now
    refine ⟨.sent, now, [], ?_, by decide, by rintro ⟨⟩⟩
    simpa [DeliveryTable.afterSend, hupdate] using hmem
  | some message =>
    have hstorable := accepted message rfl
    obtain ⟨table', hupdate, hmem⟩ := DeliveryTable.update_eq_some mem hstorable
      (afterFailure (delivery.attempts + 1) now).1 (delivery.attempts + 1)
      (afterFailure (delivery.attempts + 1) now).2
    refine ⟨(afterFailure (delivery.attempts + 1) now).1,
      (afterFailure (delivery.attempts + 1) now).2, storedError message, ?_, ?_, ?_⟩
    · simpa [DeliveryTable.afterSend, hupdate] using hmem
    · unfold afterFailure
      split <;> simp
    · unfold afterFailure
      split
      next hle => exact fun _ => ⟨rfl, hle, rfl⟩
      next => rintro ⟨⟩

/-- What a row of the table becomes in an attempt. -/
lemma updated_eq (row delivery : DeliveryRow) (status : DeliveryStatus) (attempts : ℕ)
    (next : Time) (text : Bytes) (ne : row.id ≠ delivery.id) :
    row.updated delivery.id status attempts next text = row :=
  if_neg ne

namespace Orderly

/-- A delivery is queued. -/
lemma enqueue (h : d.Orderly) {id : String} {channelID : ℤ} {now : Time} {table : DeliveryTable}
    (inserted : d.table.insertNew { id, channelID, nextAttemptAt := unixMilli now } = some table)
    (inTime : d.clock ≤ now) : Orderly { d with table, clock := now } := by
  obtain ⟨members, fresh⟩ := KeyedTable.insertNew_eq_some inserted
  refine ⟨h.paced, fun row mem => ?_, fun other none => ?_, fun row mem => ?_, h.distinct⟩
  · rcases (members row).mp mem with rfl | mem
    · have : d.sendsOf id = [] := h.unsent id fresh
      exact ⟨(congrArg List.length this).symm, fun _ => this, by rintro ⟨⟩⟩
    · exact h.rows row mem
  · exact h.unsent other fun row mem => none row ((members row).mpr (Or.inr mem))
  · obtain ⟨inTable, isOpen, due⟩ := h.batch row mem
    exact ⟨(members row).mpr (Or.inr inTable), isOpen, fun t ht => (due t ht).trans inTime⟩

/-- A round starts. -/
lemma process (h : d.Orderly) {enabled : ℤ → Bool} {now : Time}
    (accepted : d.Accepted (.process enabled now)) :
    Orderly { d with batch := d.table.dueNotificationDeliveries enabled now 25, clock := now } := by
  refine ⟨h.paced, h.rows, h.unsent, fun row mem => ?_, DeliveryTable.nodup_due _ _ _ _⟩
  obtain ⟨inTable, isOpen, hnext⟩ := DeliveryTable.mem_due mem
  refine ⟨inTable, isOpen, fun due hdue => ?_⟩
  obtain ⟨last, hlast, rfl⟩ := Option.map_eq_some_iff.mp hdue
  have hlast : (d.sendsOf row.id).getLast? = some last := hlast
  have hmatches := h.rows row inTable
  have hretry : row.status = .retry := by
    rcases DeliveryRow.isOpen_iff.mp isOpen with hpending | hretry
    · rw [hmatches.pending hpending] at hlast
      cases hlast
    · exact hretry
  obtain ⟨-, hat⟩ := (hmatches.retry hretry).2 last hlast
  rw [← hmatches.counted] at hat
  by_contra early
  refine accepted row inTable hretry _ hdue ⟨le_antisymm ?_ (hat ▸ hnext), not_le.mp early⟩
  exact Int.ediv_le_ediv (by decide) (by linarith [not_le.mp early])

/-- The next delivery of the round is sent. -/
lemma send (h : d.Orderly) (hbatch : d.batch = delivery :: rest) {startedAt finishedAt : Time}
    {error : Option Bytes} (inTime : d.InTime (.send startedAt finishedAt error))
    (accepted : ∀ message ∈ error, storable (storedError message) = true) :
    (d.step (.send startedAt finishedAt error)).Orderly := by
  obtain ⟨hstart, hfinish⟩ : d.clock ≤ startedAt ∧ startedAt ≤ finishedAt := inTime
  obtain ⟨inTable, isOpen, hdue⟩ := h.batch delivery (by simp [hbatch])
  obtain ⟨status, next, text, members, hnotPending, hstatus⟩ :=
    afterSend_spec inTable finishedAt accepted
  have hmatches := h.rows delivery inTable
  have hsends (id : String) : (d.step (.send startedAt finishedAt error)).sendsOf id =
      d.sendsOf id ++ if delivery.id = id then
        [⟨delivery.id, startedAt, finishedAt, error.isNone⟩] else [] := by
    simp only [step, hbatch, sendsOf, List.filter_append, List.filter_singleton, Bool.cond_eq_ite,
      decide_eq_true_eq]
  -- the attempts that the delivery has behind it have failed, and the delay is over
  have hlast : ∀ last ∈ (d.sendsOf delivery.id).getLast?, last.succeeded = false ∧
      last.finishedAt + retryDelays.getD ((d.sendsOf delivery.id).length - 1) 0 ≤ startedAt := by
    intro last mem
    rcases DeliveryRow.isOpen_iff.mp isOpen with hpending | hretry
    · rw [hmatches.pending hpending] at mem
      cases mem
    · refine ⟨((hmatches.retry hretry).2 last mem).1, ?_⟩
      have elapsed := hdue (last.finishedAt + retryDelays.getD (delivery.attempts - 1) 0)
        (Option.map_eq_some_iff.mpr ⟨last, mem, rfl⟩)
      rw [hmatches.counted] at elapsed
      exact elapsed.trans hstart
  have hshort : (d.sendsOf delivery.id).length ≤ 3 := by
    rcases DeliveryRow.isOpen_iff.mp isOpen with hpending | hretry
    · simp [hmatches.pending hpending]
    · exact (hmatches.retry hretry).1
  have hrow {row : DeliveryRow} (mem : row ∈ d.table) (ne : row.id ≠ delivery.id) :
      row ∈ d.table.afterSend delivery finishedAt error :=
    (members row).mpr ⟨row, mem, updated_eq row delivery _ _ _ _ ne⟩
  have hold {id : String} (ne : id ≠ delivery.id) :
      (d.step (.send startedAt finishedAt error)).sendsOf id = d.sendsOf id := by
    rw [hsends, if_neg ne.symm, List.append_nil]
  have hstep : d.step (.send startedAt finishedAt error) =
      { table := d.table.afterSend delivery finishedAt error, batch := rest, clock := finishedAt,
        sends := d.sends ++ [⟨delivery.id, startedAt, finishedAt, error.isNone⟩] } := by
    simp [step, hbatch]
  have hdistinct := h.distinct
  rw [hbatch, List.map_cons, List.nodup_cons] at hdistinct
  refine ⟨fun id => ?_, fun row mem => ?_, fun id none => ?_, fun row mem => ?_, ?_⟩
  · by_cases hid : id = delivery.id
    · subst hid
      rw [hsends, if_pos rfl]
      exact (h.paced _).concat hshort hlast
    · rw [hold hid]
      exact h.paced id
  · rw [hstep] at mem
    obtain ⟨old, hmem, rfl⟩ := (members row).mp mem
    by_cases hid : old.id = delivery.id
    · obtain rfl := KeyedTable.eq_of_key_eq hmem inTable hid
      rw [DeliveryRow.id_updated, hsends, if_pos rfl]
      simp only [DeliveryRow.updated, if_true]
      refine ⟨by simp [hmatches.counted], fun hpending => absurd hpending hnotPending,
        fun hretry => ?_⟩
      obtain ⟨hfailed, hattempts, rfl⟩ := hstatus hretry
      rw [hmatches.counted] at hattempts
      refine ⟨by simpa using hattempts, fun last mem => ?_⟩
      rw [List.getLast?_concat, Option.mem_some] at mem
      subst mem
      refine ⟨hfailed, ?_⟩
      simp [hmatches.counted]
    · rw [updated_eq _ _ _ _ _ _ hid, hold hid]
      exact h.rows old hmem
  · rw [hstep] at none
    have hid : id ≠ delivery.id := by
      rintro rfl
      exact none _ ((members _).mpr ⟨delivery, inTable, rfl⟩) (by simp)
    rw [hold hid]
    refine h.unsent id fun row mem heq => ?_
    exact none row (hrow mem (heq ▸ hid)) heq
  · rw [hstep] at mem
    obtain ⟨mem', isOpen', due'⟩ := h.batch row (by simp [hbatch, mem])
    have ne : row.id ≠ delivery.id := fun heq =>
      hdistinct.1 (heq ▸ List.mem_map_of_mem mem)
    refine ⟨by rw [hstep]; exact hrow mem' ne, isOpen', fun due hd => ?_⟩
    rw [retryAt, hold ne] at hd
    rw [hstep]
    exact (due' due hd).trans (hstart.trans hfinish)
  · rw [hstep]
    exact hdistinct.2

/-- A step that meets the condition. -/
lemma step (h : d.Orderly) (event : DispatcherEvent)
    (hevent : d.InTime event ∧ d.Accepted event) : (d.step event).Orderly := by
  obtain ⟨inTime, accepted⟩ := hevent
  cases event with
  | enqueue id channelID now =>
    simp only [Dispatcher.step]
    split
    · exact h
    next table inserted => exact h.enqueue inserted inTime
  | process enabled now =>
    simp only [Dispatcher.step]
    split
    · exact h.process accepted
    · exact h
  | send startedAt finishedAt error =>
    cases hbatch : d.batch with
    | nil => simpa [Dispatcher.step, hbatch] using h
    | cons delivery rest =>
      refine h.send hbatch inTime fun message mem => ?_
      obtain rfl := Option.mem_def.mp mem
      exact accepted
  | cancel =>
    exact ⟨h.paced, h.rows, h.unsent, by simp [Dispatcher.step], by simp [Dispatcher.step]⟩

end Orderly

/-- No deliveries yet. -/
lemma orderly_start : Orderly {} :=
  ⟨fun _ => ⟨Nat.zero_le _, by simp [sendsOf]⟩, by simp, fun _ _ => rfl, by simp, by simp⟩

/-! ## The life of a delivery -/

/-- When the times do not decrease, the database takes the texts of the errors as they are stored,
and no round starts in the last fraction of a millisecond before a retry, then in every state of a
run: a delivery has been sent at most four times; its row counts the attempts; after an attempt that
is followed by another one, which has failed, the next one was made 1, 5 or 15 minutes later at the
earliest. -/
theorem lifeCycle {events : List DispatcherEvent} (inTime : Along step InTime {} events)
    (accepted : Along step Accepted {} events) :
    let d := run step {} events
    (∀ id, (d.sendsOf id).length ≤ 4) ∧
      (∀ row ∈ d.table, row.attempts = (d.sendsOf row.id).length) ∧
      ∀ (id : String) (k : ℕ) (a b : SendRecord),
        (d.sendsOf id)[k]? = some a → (d.sendsOf id)[k + 1]? = some b →
        a.succeeded = false ∧ a.finishedAt + retryDelays.getD k 0 ≤ b.startedAt := by
  have h : (run step {} events).Orderly :=
    run_keeps_along (I := Orderly) (fun _ event h hevent => h.step event hevent) orderly_start
      (inTime.and accepted)
  exact ⟨fun id => (h.paced id).short, fun row mem => (h.rows row mem).counted,
    fun id => (h.paced id).spaced⟩

/-- A delivery that fails once and then arrives. -/
def retriedRun : List DispatcherEvent :=
  [.enqueue "d1" 1 0, .process (fun _ => true) 0, .send 0 0 (some [0x61]),
    .process (fun _ => true) minute, .send minute minute none]

theorem lifeCycle_retriedRun :
    (Along step InTime {} retriedRun ∧ Along step Accepted {} retriedRun) ∧
      ((run step {} retriedRun).sendsOf "d1").length = 2 ∧
      ∀ id, ((run step {} retriedRun).sendsOf id).length ≤ 4 := by
  have inTime : Along step InTime {} retriedRun := by decide +kernel
  have accepted : Along step Accepted {} retriedRun := by decide +kernel
  exact ⟨⟨inTime, accepted⟩, by decide +kernel, (lifeCycle inTime accepted).1⟩

/-! ## A text that does not survive the cut -/

/-- An error text of 1025 bytes in UTF-8, whose last character has two bytes. -/
def longError : Bytes := List.replicate 1023 0x61 ++ [0xC3, 0xA4]

/-- A delivery whose channel answers with the text again and again. -/
def rejectedRun : List DispatcherEvent :=
  .enqueue "d1" 1 0 :: (List.range 5).flatMap fun (k : ℕ) =>
    [.process (fun _ => true) (k * (15 * second)),
      .send (k * (15 * second)) (k * (15 * second)) (some longError)]

/-- A delivery is sent a fifth time, a minute after the first one, and no attempt is counted. -/
theorem sent_five_times :
    ¬ ∀ events, Along step InTime {} events →
      let d := run step {} events
      (∀ id, (d.sendsOf id).length ≤ 4) ∧
        (∀ row ∈ d.table, row.attempts = (d.sendsOf row.id).length) ∧
        ∀ (id : String) (k : ℕ) (a b : SendRecord),
          (d.sendsOf id)[k]? = some a → (d.sendsOf id)[k + 1]? = some b →
          a.succeeded = false ∧ a.finishedAt + retryDelays.getD k 0 ≤ b.startedAt := by
  intro claim
  have inTime : Along step InTime {} rejectedRun := by decide +kernel
  have hfive : ((run step {} rejectedRun).sendsOf "d1").length = 5 := by decide +kernel
  have := (claim rejectedRun inTime).1 "d1"
  omega

end Dispatcher

end Hostpin
