import Hostpin.Foundation.Runs
import Hostpin.Model.Types

/-!
# The persister

Samples and probe results wait in a bounded queue for a single worker that writes them to the store.
Any number of calls of `enqueue` run at the same time as the worker.  A step is one operation on the
queue, one call of the store or one wake-up, together with the code up to the next of these.

An item is `saved`, `dropped`, in the `queue` or in flight with the worker.
`Persister.Accounted` says so of every state, until the worker gives up at the end of a shutdown
(`Persister.conserved`).
-/

namespace Hostpin

open Runs

/-! ## State -/

/-- What is written to the store: a sample or a probe result. -/
structure PersistItem where
  sample : Option MetricSample := none
  probe : Option ProbeResult := none

/-- An item and the number of the call that enqueued it, which tells equal items apart. -/
structure QueuedItem where
  ticket : ℕ
  item : PersistItem

/-- Where a call of `enqueue` stands: before its first send, before it takes the oldest item out, or
before its second send. -/
inductive SendPhase where
  | send
  | evict
  | resend
deriving DecidableEq

/-- A call of `enqueue` under way. -/
structure EnqueueCall where
  entry : QueuedItem
  phase : SendPhase := .send

/-- Where the worker stands.  It is `parked` when it is blocked in its select, and then a send hands
its item over to it directly. -/
inductive WorkerPhase where
  | selecting
  | parked
  | writing (entry : QueuedItem)
  | pinging (entry : QueuedItem)
  | waiting (entry : QueuedItem)
  | stopped
  | gaveUp

/-- The item that the worker holds. -/
def WorkerPhase.inFlight : WorkerPhase → List QueuedItem
  | .writing entry | .pinging entry | .waiting entry => [entry]
  | .selecting | .parked | .stopped | .gaveUp => []

/-- Why an item was dropped: the queue was full, or the store works and does not take the item. -/
inductive DropReason where
  | overflow
  | invalid
deriving DecidableEq

/-- The persister, with what has happened to the items so far.  `finished` is the state of the
context that the worker uses: the one of the process, or the deadline of the drain. -/
structure Persister where
  size : ℕ
  queue : List QueuedItem := []
  calls : List EnqueueCall := []
  worker : WorkerPhase := .selecting
  draining : Bool := false
  finished : Bool := false
  degraded : Bool := false
  droppedCount : UInt64 := 0
  started : List QueuedItem := []
  entered : List QueuedItem := []
  saved : List QueuedItem := []
  dropped : List (QueuedItem × DropReason) := []

/-- What can happen: a call starts, a call takes its next step, the worker takes its next step with
the answers of the store, the wait between two attempts is over, or the context ends. -/
inductive PersisterEvent where
  | enqueue (item : PersistItem)
  | proceed (ticket : ℕ)
  | select (preferDone : Bool)
  | write (metricOK probeOK : Bool)
  | ping (ok : Bool)
  | wake (timer : Bool)
  | finish

/-! ## Steps of a call -/

/-- A send that does not block.  It succeeds when the worker is parked or the queue has room. -/
def Persister.trySend (p : Persister) (entry : QueuedItem) : Option Persister :=
  match p.worker with
  | .parked => some { p with worker := .writing entry, entered := p.entered ++ [entry] }
  | _ =>
    if p.queue.length < p.size then
      some { p with queue := p.queue ++ [entry], entered := p.entered ++ [entry] }
    else none

/-- An item is lost, and counted. -/
def Persister.drop (p : Persister) (entry : QueuedItem) (reason : DropReason) : Persister :=
  { p with droppedCount := p.droppedCount + 1, dropped := p.dropped ++ [(entry, reason)] }

/-- Take the oldest item out of the queue, if there is one. -/
def Persister.evict (p : Persister) : Persister :=
  match p.queue with
  | [] => p
  | oldest :: rest => Persister.drop { p with queue := rest } oldest .overflow

/-- The next step of a call that has been taken out of the calls under way. -/
def Persister.proceed (p : Persister) (call : EnqueueCall) : Persister :=
  match call.phase with
  | .send =>
    match p.trySend call.entry with
    | some sent => sent
    | none => { p with calls := { call with phase := .evict } :: p.calls }
  | .evict =>
    let evicted := p.evict
    { evicted with calls := { call with phase := .resend } :: evicted.calls }
  | .resend =>
    match p.trySend call.entry with
    | some sent => { sent with degraded := true }
    | none => { p.drop call.entry .overflow with degraded := true }

/-- A new call. -/
def Persister.enqueue (p : Persister) (item : PersistItem) : Persister :=
  let entry : QueuedItem := ⟨p.started.length, item⟩
  { p with started := p.started ++ [entry], calls := ⟨entry, .send⟩ :: p.calls }

/-! ## Steps of the worker -/

/-- Whether a write returns without an error. -/
def PersistItem.write (item : PersistItem) (metricOK probeOK : Bool) : Bool :=
  match item.sample, item.probe with
  | some _, _ => metricOK
  | none, some _ => probeOK
  | none, none => true

/-- The worker selects. While it does not drain it waits for an item and for the end of the context,
and when both are there either can be chosen. A drain is over when the queue is empty. -/
def Persister.select (p : Persister) (preferDone : Bool) : Persister :=
  match p.worker, p.queue with
  | .selecting, [] =>
    if p.draining then { p with worker := .stopped }
    else if p.finished then { p with draining := true, finished := false }
    else { p with worker := .parked }
  | .selecting, oldest :: rest =>
    if !p.draining && p.finished && preferDone then { p with draining := true, finished := false }
    else { p with worker := .writing oldest, queue := rest }
  | _, _ => p

/-- The worker has called the store. -/
def Persister.write (p : Persister) (metricOK probeOK : Bool) : Persister :=
  match p.worker with
  | .writing entry =>
    if entry.item.write metricOK probeOK then
      { p with worker := .selecting, degraded := false, saved := p.saved ++ [entry] }
    else if p.finished then { p with worker := .waiting entry, degraded := true }
    else { p with worker := .pinging entry }
  | _ => p

/-- The worker has pinged the store after a failed write. An item that a working store does not take
is dropped. -/
def Persister.ping (p : Persister) (ok : Bool) : Persister :=
  match p.worker with
  | .pinging entry =>
    if ok then { p.drop entry .invalid with worker := .selecting, degraded := false }
    else { p with worker := .waiting entry, degraded := true }
  | _ => p

/-- The wait after a failed attempt ends, with the timer or with the end of the context.  When the
context ends, the item is kept for the drain, and a drain gives up. -/
def Persister.wake (p : Persister) (timer : Bool) : Persister :=
  match p.worker with
  | .waiting entry =>
    if timer then { p with worker := .writing entry }
    else if !p.finished then p
    else if p.draining then { p with worker := .gaveUp }
    else { p with worker := .writing entry, draining := true, finished := false }
  | _ => p

/-- The context of the worker ends.  A parked worker is woken by it. -/
def Persister.finish (p : Persister) : Persister :=
  match p.worker with
  | .parked => { p with worker := .selecting, draining := true, finished := false }
  | _ => { p with finished := true }

/-- The persister after an event. -/
def Persister.step (p : Persister) : PersisterEvent → Persister
  | .enqueue item => p.enqueue item
  | .proceed ticket =>
    match p.calls.find? fun call => call.entry.ticket = ticket with
    | none => p
    | some call =>
      Persister.proceed
        { p with calls := p.calls.eraseP fun call => call.entry.ticket = ticket } call
  | .select preferDone => p.select preferDone
  | .write metricOK probeOK => p.write metricOK probeOK
  | .ping ok => p.ping ok
  | .wake timer => p.wake timer
  | .finish => p.finish

/-! ## Where the items are -/

/-- All items that have been handed to a call: saved, dropped, in the queue, in flight, or still
with their call. -/
def Persister.items (p : Persister) : Multiset QueuedItem :=
  p.saved + p.dropped.map Prod.fst + p.queue + p.worker.inFlight + p.calls.map EnqueueCall.entry

/-- The state is as it should be: no item has been lost or doubled apart from `held`, which a step
has in its hands, the counter tells how many were dropped, and the items that are not dropped are in
the order in which they entered the queue. -/
structure Persister.AccountedWith (p : Persister) (held : List QueuedItem) : Prop where
  conserved : p.items + held = p.started
  tickets : p.started.map QueuedItem.ticket = List.range p.started.length
  counted : p.droppedCount = UInt64.ofNat p.dropped.length
  ordered : (p.saved ++ p.worker.inFlight ++ p.queue).Sublist p.entered
  parked : p.worker = .parked → p.queue = []

/-- Nothing is in the hands of a step. -/
abbrev Persister.Accounted (p : Persister) : Prop := p.AccountedWith []

/-- A list as the sum of its parts, for the accounts. -/
lemma coe_append {α : Type} (l l' : List α) : ((l ++ l' : List α) : Multiset α) = l + l' :=
  (Multiset.coe_add l l').symm

lemma coe_cons {α : Type} (a : α) (l : List α) : ((a :: l : List α) : Multiset α) = {a} + l := by
  rw [Multiset.singleton_add, Multiset.cons_coe]

namespace Persister.AccountedWith

variable {p q : Persister} {entry : QueuedItem} {held : List QueuedItem}

/-- A send that succeeds puts the item into the queue or into the hands of the worker. -/
lemma trySend (h : p.AccountedWith [entry]) (sent : p.trySend entry = some q) : q.Accounted := by
  obtain ⟨conserved, tickets, counted, ordered, parked⟩ := h
  unfold Persister.trySend at sent
  split at sent
  next hw =>
    cases sent
    have hq := parked hw
    refine ⟨?_, tickets, counted, ?_, fun contra => by cases contra⟩
    · rw [← conserved]
      simp only [Persister.items, hw, WorkerPhase.inFlight, Multiset.coe_nil]
      abel
    · have := ordered.append_right [entry]
      simpa [hw, hq, WorkerPhase.inFlight] using this
  next hw =>
    split at sent
    · cases sent
      refine ⟨?_, tickets, counted, ?_, fun contra => absurd contra hw⟩
      · rw [← conserved]
        simp only [Persister.items, coe_append, Multiset.coe_nil]
        abel
      · simpa using ordered.append_right [entry]
    · cases sent

/-- What a step holds is dropped. -/
lemma drop (h : p.AccountedWith (entry :: held)) (reason : DropReason) :
    (p.drop entry reason).AccountedWith held where
  conserved := by
    rw [show (p.drop entry reason).started = p.started from rfl, ← h.conserved]
    simp only [Persister.items, Persister.drop, List.map_append, List.map_cons, List.map_nil,
      coe_append, coe_cons, Multiset.coe_nil]
    abel
  tickets := h.tickets
  counted := by
    simp only [Persister.drop, List.length_append, List.length_singleton, h.counted]
    exact (UInt64.ofNat_add _ _).symm
  ordered := h.ordered
  parked := h.parked

/-- An eviction drops the oldest item of the queue, if there is one. -/
lemma evict (h : p.AccountedWith held) : p.evict.AccountedWith held := by
  unfold Persister.evict
  split
  · exact h
  next oldest rest hq =>
    apply @drop _ oldest
    refine ⟨?_, h.tickets, h.counted, ?_, fun hw => ?_⟩
    · rw [← h.conserved]
      simp only [Persister.items, hq, coe_cons]
      abel
    · have := h.ordered
      rw [hq] at this
      exact (List.Sublist.append_left (List.sublist_cons_self _ _) _).trans this
    · exact absurd (h.parked hw) (by simp [hq])

/-- A call that goes on is put back with its item. -/
lemma putBack (h : p.AccountedWith [entry]) (phase : SendPhase) :
    Persister.Accounted { p with calls := ⟨entry, phase⟩ :: p.calls } where
  conserved := by
    rw [← h.conserved]
    simp only [Persister.items, List.map_cons, coe_cons, Multiset.coe_nil]
    abel
  tickets := h.tickets
  counted := h.counted
  ordered := h.ordered
  parked := h.parked

/-- The flag for a degraded store is not part of the accounts. -/
lemma degraded (h : p.AccountedWith held) (flag : Bool) :
    Persister.AccountedWith { p with degraded := flag } held :=
  ⟨h.conserved, h.tickets, h.counted, h.ordered, h.parked⟩

/-- A step of a call. -/
lemma proceed {call : EnqueueCall} (h : p.AccountedWith [call.entry]) :
    (p.proceed call).Accounted := by
  obtain ⟨entry, phase⟩ := call
  cases phase with
  | send =>
    simp only [Persister.proceed]
    cases hsend : p.trySend entry with
    | some sent => exact h.trySend hsend
    | none => exact h.putBack .evict
  | evict => exact h.evict.putBack .resend
  | resend =>
    simp only [Persister.proceed]
    cases hsend : p.trySend entry with
    | some sent => exact (h.trySend hsend).degraded true
    | none => exact (h.drop .overflow).degraded true

/-- A new call holds its item. -/
lemma enqueue (h : p.Accounted) (item : PersistItem) : (p.enqueue item).Accounted where
  conserved := by
    simp only [Persister.enqueue, coe_append, ← h.conserved, Persister.items, List.map_cons,
      coe_cons, Multiset.coe_nil]
    abel
  tickets := by simp [Persister.enqueue, h.tickets, List.range_succ]
  counted := h.counted
  ordered := h.ordered
  parked := h.parked

/-- The worker goes on with the items that it has, in another phase. -/
lemma rephase (h : p.AccountedWith held) {worker : WorkerPhase}
    (same : worker.inFlight = p.worker.inFlight) (hw : worker = .parked → p.queue = [])
    (draining finished degraded : Bool) :
    Persister.AccountedWith { p with worker, draining, finished, degraded } held where
  conserved := by
    rw [← h.conserved]
    simp only [Persister.items, same]
  tickets := h.tickets
  counted := h.counted
  ordered := by simpa only [same] using h.ordered
  parked := hw

lemma select (h : p.Accounted) (preferDone : Bool) : (p.select preferDone).Accounted := by
  unfold Persister.select
  split
  next hw hq =>
    have empty : ∀ worker : WorkerPhase, worker = .parked → p.queue = [] := fun _ _ => hq
    split
    · exact h.rephase (by rw [hw]; rfl) (empty _) _ _ _
    · split
      · exact h.rephase rfl (empty _) _ _ _
      · exact h.rephase (by rw [hw]; rfl) (empty _) _ _ _
  next oldest rest hw hq =>
    split
    · exact h.rephase rfl (by simp [hw]) _ _ _
    · refine ⟨?_, h.tickets, h.counted, ?_, by simp⟩
      · rw [← h.conserved]
        simp only [Persister.items, hw, hq, WorkerPhase.inFlight, coe_cons, Multiset.coe_nil]
        abel
      · simpa [hw, hq, WorkerPhase.inFlight] using h.ordered
  next => exact h

lemma write (h : p.Accounted) (metricOK probeOK : Bool) :
    (p.write metricOK probeOK).Accounted := by
  unfold Persister.write
  split
  next entry hw =>
    split
    · refine ⟨?_, h.tickets, h.counted, ?_, by simp⟩
      · rw [← h.conserved]
        simp only [Persister.items, hw, WorkerPhase.inFlight, coe_append, Multiset.coe_nil]
        abel
      · simpa [hw, WorkerPhase.inFlight] using h.ordered
    · split
      · exact h.rephase (by rw [hw]; rfl) (by simp) _ _ _
      · exact h.rephase (by rw [hw]; rfl) (by simp) _ _ _
  next => exact h

lemma ping (h : p.Accounted) (ok : Bool) : (p.ping ok).Accounted := by
  unfold Persister.ping
  split
  next entry hw =>
    split
    · have taken : Persister.AccountedWith { p with worker := .selecting, degraded := false }
          [entry] := by
        refine ⟨?_, h.tickets, h.counted, ?_, by simp⟩
        · rw [← h.conserved]
          simp only [Persister.items, hw, WorkerPhase.inFlight, Multiset.coe_nil]
          abel
        · refine List.Sublist.trans ?_ h.ordered
          simp [hw, WorkerPhase.inFlight]
      exact taken.drop .invalid
    · exact h.rephase (by rw [hw]; rfl) (by simp) _ _ _
  next => exact h

lemma wake (h : p.Accounted) (timer : Bool) (keeps : (p.wake timer).worker ≠ .gaveUp) :
    (p.wake timer).Accounted := by
  unfold Persister.wake at keeps ⊢
  split
  next entry hw =>
    simp only [hw] at keeps
    split
    · exact h.rephase (by rw [hw]; rfl) (by simp) _ _ _
    · split
      · exact h
      · split
        · simp_all
        · exact h.rephase (by rw [hw]; rfl) (by simp) _ _ _
  next => exact h

lemma finish (h : p.Accounted) : p.finish.Accounted := by
  unfold Persister.finish
  split
  next hw => exact h.rephase (by rw [hw]; rfl) (by simp) _ _ _
  next => exact h.rephase rfl h.parked _ _ _

end Persister.AccountedWith

/-! ## Runs -/

/-- A call does nothing to a worker that is not parked. -/
lemma Persister.proceed_worker {p : Persister} (h : p.worker ≠ .parked) (call : EnqueueCall) :
    (p.proceed call).worker = p.worker := by
  have sent {q : Persister} (hq : p.trySend call.entry = some q) : q.worker = p.worker := by
    unfold Persister.trySend at hq
    split at hq
    · contradiction
    · split at hq <;> cases hq
      rfl
  unfold Persister.proceed
  cases call.phase with
  | send =>
    cases hsend : p.trySend call.entry with
    | some q => exact sent hsend
    | none => rfl
  | evict =>
    show p.evict.worker = p.worker
    unfold Persister.evict
    split <;> rfl
  | resend =>
    cases hsend : p.trySend call.entry with
    | some q =>
      show q.worker = p.worker
      exact sent hsend
    | none => rfl

/-- A worker that has given up does not start again. -/
lemma Persister.step_gaveUp {p : Persister} (event : PersisterEvent) (h : p.worker = .gaveUp) :
    (p.step event).worker = .gaveUp := by
  cases event with
  | enqueue item => exact h
  | proceed ticket =>
    simp only [Persister.step]
    split
    · exact h
    · rw [proceed_worker (by simp [h]), h]
  | select => simp [Persister.step, Persister.select, h]
  | write => simp [Persister.step, Persister.write, h]
  | ping => simp [Persister.step, Persister.ping, h]
  | wake => simp [Persister.step, Persister.wake, h]
  | finish => simp [Persister.step, Persister.finish, h]

/-- A step keeps the accounts, as long as the worker does not give up in it. -/
lemma Persister.Accounted.step {p : Persister} (h : p.Accounted) (event : PersisterEvent)
    (keeps : (p.step event).worker ≠ .gaveUp) : (p.step event).Accounted := by
  cases event with
  | enqueue item => exact h.enqueue item
  | proceed ticket =>
    simp only [Persister.step]
    split
    · exact h
    next call found =>
      apply AccountedWith.proceed
      refine ⟨?_, h.tickets, h.counted, h.ordered, h.parked⟩
      have perm := (perm_eraseP_of_find? found).map EnqueueCall.entry
      rw [← h.conserved]
      simp only [Persister.items, ← Multiset.coe_eq_coe.mpr perm, List.map_cons, coe_cons,
        Multiset.coe_nil]
      abel
  | select preferDone => exact h.select preferDone
  | write metricOK probeOK => exact h.write metricOK probeOK
  | ping ok => exact h.ping ok
  | wake timer => exact h.wake timer keeps
  | finish => exact h.finish

/-- As long as the worker has not given up, the accounts are right in every state of a run. -/
theorem Persister.accounted (size : ℕ) (events : List PersisterEvent)
    (working : (run Persister.step { size } events).worker ≠ .gaveUp) :
    (run Persister.step { size } events).Accounted := by
  revert working
  apply run_keeps (I := fun p : Persister => p.worker ≠ .gaveUp → p.Accounted)
  · intro p event ih working
    exact (ih fun contra => working (step_gaveUp event contra)).step event working
  · intro _
    exact ⟨rfl, rfl, rfl, List.Sublist.refl _, fun _ => rfl⟩

/-! ## Overflow -/

/-- An item that has left the queue for the worker: no call holds it, and an overflow has not
dropped it. -/
structure Persister.Away (p : Persister) (entry : QueuedItem) : Prop where
  known : entry.ticket < p.started.length
  queue : entry ∉ p.queue
  calls : ∀ call ∈ p.calls, call.entry ≠ entry
  kept : (entry, .overflow) ∉ p.dropped

namespace Persister.Away

variable {p q : Persister} {entry other : QueuedItem}

lemma trySend (h : p.Away entry) (ne : other ≠ entry) (sent : p.trySend other = some q) :
    q.Away entry := by
  unfold Persister.trySend at sent
  split at sent
  · cases sent
    exact ⟨h.known, h.queue, h.calls, h.kept⟩
  · split at sent <;> cases sent
    exact ⟨h.known, by simp [h.queue, ne.symm], h.calls, h.kept⟩

lemma evict (h : p.Away entry) : p.evict.Away entry := by
  unfold Persister.evict
  split
  · exact h
  next oldest rest hq =>
    have ⟨hne, hrest⟩ : entry ≠ oldest ∧ entry ∉ rest := by simpa [hq] using h.queue
    exact ⟨h.known, hrest, h.calls, by simp [Persister.drop, h.kept, hne]⟩

lemma putBack (h : p.Away entry) {call : EnqueueCall} (ne : call.entry ≠ entry) :
    Persister.Away { p with calls := call :: p.calls } entry :=
  ⟨h.known, h.queue, by simpa [ne] using h.calls, h.kept⟩

/-- A call drops its own item or the oldest one of the queue. -/
lemma proceed {call : EnqueueCall} (h : p.Away entry) (ne : call.entry ≠ entry) :
    (p.proceed call).Away entry := by
  obtain ⟨other, phase⟩ := call
  cases phase with
  | send =>
    simp only [Persister.proceed]
    cases hsend : p.trySend other with
    | some q => exact h.trySend ne hsend
    | none => exact h.putBack ne
  | evict => exact h.evict.putBack ne
  | resend =>
    simp only [Persister.proceed]
    cases hsend : p.trySend other with
    | some q =>
      have := h.trySend ne hsend
      exact ⟨this.known, this.queue, this.calls, this.kept⟩
    | none => exact ⟨h.known, h.queue, h.calls, by simp [Persister.drop, h.kept, ne.symm]⟩

/-- A step of the worker takes items out of the queue and drops none of them for an overflow. -/
lemma worker (h : p.Away entry) (started : q.started = p.started) (queue : q.queue ⊆ p.queue)
    (calls : q.calls = p.calls)
    (kept : (entry, .overflow) ∈ q.dropped → (entry, .overflow) ∈ p.dropped) : q.Away entry :=
  ⟨started ▸ h.known, fun mem => h.queue (queue mem), calls ▸ h.calls, fun mem => h.kept (kept mem)⟩

lemma step (h : p.Away entry) (event : PersisterEvent) : (p.step event).Away entry := by
  cases event with
  | enqueue item =>
    refine ⟨?_, h.queue, ?_, h.kept⟩
    · simpa [Persister.step, Persister.enqueue] using h.known.trans (Nat.lt_succ_self _)
    · intro call mem
      rcases List.mem_cons.mp mem with rfl | mem
      · rintro rfl
        exact absurd h.known (lt_irrefl _)
      · exact h.calls call mem
  | proceed ticket =>
    simp only [Persister.step]
    split
    · exact h
    next call found =>
      have rest : Persister.Away
          { p with calls := p.calls.eraseP fun call => call.entry.ticket = ticket } entry :=
        ⟨h.known, h.queue, fun call mem => h.calls call (List.mem_of_mem_eraseP mem), h.kept⟩
      exact rest.proceed (h.calls call (List.mem_of_find?_eq_some found))
  | select preferDone =>
    simp only [Persister.step, Persister.select]
    split
    · split
      · exact h.worker rfl (List.Subset.refl _) rfl id
      · split <;> exact h.worker rfl (List.Subset.refl _) rfl id
    next hq =>
      split
      · exact h.worker rfl (List.Subset.refl _) rfl id
      · exact h.worker rfl (by simp [hq]) rfl id
    · exact h
  | write metricOK probeOK =>
    simp only [Persister.step, Persister.write]
    split
    · split
      · exact h.worker rfl (List.Subset.refl _) rfl id
      · split <;> exact h.worker rfl (List.Subset.refl _) rfl id
    · exact h
  | ping ok =>
    simp only [Persister.step, Persister.ping]
    split
    · split
      · exact h.worker rfl (List.Subset.refl _) rfl (by simp [Persister.drop])
      · exact h.worker rfl (List.Subset.refl _) rfl id
    · exact h
  | wake timer =>
    simp only [Persister.step, Persister.wake]
    repeat' split
    all_goals first | exact h | exact h.worker rfl (List.Subset.refl _) rfl id
  | finish =>
    simp only [Persister.step, Persister.finish]
    split <;> exact h.worker rfl (List.Subset.refl _) rfl id

end Persister.Away

/-- Equal items of different calls are different entries. -/
lemma Persister.Accounted.nodup {p : Persister} (h : p.Accounted) : p.started.Nodup :=
  List.Nodup.of_map QueuedItem.ticket (h.tickets ▸ List.nodup_range)

/-- Every item is in exactly one place. -/
lemma Persister.Accounted.perm {p : Persister} (h : p.Accounted) :
    (p.saved ++ p.dropped.map Prod.fst ++ p.queue ++ p.worker.inFlight ++
      p.calls.map EnqueueCall.entry).Perm p.started := by
  have := h.conserved
  rw [← Multiset.coe_eq_coe]
  simpa only [Persister.items, coe_append, Multiset.coe_nil, add_zero] using this

/-- The item in flight is away from the queue and the calls. -/
lemma Persister.Accounted.away {p : Persister} (h : p.Accounted) {entry : QueuedItem}
    (flying : entry ∈ p.worker.inFlight) : p.Away entry := by
  have places := h.perm.nodup_iff.mpr h.nodup
  rw [List.nodup_append, List.nodup_append, List.nodup_append, List.nodup_append] at places
  obtain ⟨⟨⟨⟨-, -, -⟩, -, -⟩, -, before⟩, -, calls⟩ := places
  refine ⟨?_, fun mem => ?_, fun call mem => ?_, fun mem => ?_⟩
  · have mem : entry ∈ p.started := h.perm.subset (by simp [flying])
    have := h.tickets ▸ List.mem_map_of_mem mem
    simpa using this
  · exact before entry (by simp [mem]) entry flying rfl
  · exact (calls entry (by simp [flying]) call.entry (List.mem_map_of_mem mem)).symm
  · have dropped : entry ∈ p.dropped.map Prod.fst := List.mem_map.mpr ⟨_, mem, rfl⟩
    exact before entry (List.mem_append_left _ (List.mem_append_right _ dropped)) entry flying rfl

/-- Until the worker gives up at the end of a shutdown, every item that has been handed to a call is
in exactly one place: saved, dropped, in the queue, in flight, or still with its call. The counter
tells how many were dropped, the saved items are in the order in which they entered the queue, and
an item in flight is never dropped because of an overflow. -/
theorem Persister.conserved (size : ℕ) (events : List PersisterEvent)
    (working : (run Persister.step { size } events).worker ≠ .gaveUp) :
    let p := run Persister.step { size } events
    (p.saved ++ p.dropped.map Prod.fst ++ p.queue ++ p.worker.inFlight ++
        p.calls.map EnqueueCall.entry).Perm p.started ∧
      p.started.Nodup ∧
      p.droppedCount = UInt64.ofNat p.dropped.length ∧
      p.saved.Sublist p.entered ∧
      ∀ entry ∈ p.worker.inFlight, ∀ later,
        (entry, .overflow) ∉ (run Persister.step p later).dropped := by
  intro p
  have h : p.Accounted := accounted size events working
  refine ⟨h.perm, h.nodup, h.counted, ?_, fun entry flying later => ?_⟩
  · exact ((List.sublist_append_left _ _).trans (List.sublist_append_left _ _)).trans h.ordered
  · exact (run_keeps (I := fun q : Persister => q.Away entry) (fun _ event away => away.step event)
      (h.away flying) later).kept

/-- A sample that fails to be written, three more into a queue of two while the store is away, and
the store comes back. -/
def outage : List PersisterEvent :=
  let sample : PersistItem := { sample := some {} }
  let enqueue (ticket steps : ℕ) : List PersisterEvent :=
    .enqueue sample :: List.replicate steps (.proceed ticket)
  let saveNext : List PersisterEvent := [.select false, .write true true]
  enqueue 0 1 ++ [.select false, .write false false, .ping false] ++ enqueue 1 1 ++ enqueue 2 1 ++
    enqueue 3 3 ++ [.wake true, .write true true] ++ saveNext ++ saveNext

theorem Persister.conserved_outage :
    let p := run Persister.step { size := 2 } outage
    p.saved.map QueuedItem.ticket = [0, 2, 3] ∧ p.droppedCount = UInt64.ofNat p.dropped.length :=
  ⟨rfl, (conserved 2 outage (by intro h; cases h)).2.2.1⟩

end Hostpin
