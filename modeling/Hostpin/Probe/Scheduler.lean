import Hostpin.Agent.Runtime
import Hostpin.Foundation.Runs

/-!
# The probe scheduler

A scheduler starts the runs of the probe tasks.  At a tick it visits its tasks in any order and
starts each one that is due, unless a run of the task is in flight or too many runs are.  A run puts
out its result and is complete after that; in between, tasks are taken over, removed and changed.

An interval is a count of seconds that is multiplied as a 64-bit number of nanoseconds.  A count
above `maxIntervalSeconds` wraps around, and the next run is due in the past.  In the runs in which
no such task is due at a tick, a task has at most one run in flight, the limit is respected, only
enabled tasks of the last list are started, and two starts of a task are an interval apart
(`regular_of_representable`).
-/

namespace Hostpin

open Clock Runs

/-! ## The scheduler and its runs -/

/-- A run that is in flight, and whether it has put out its result. -/
structure ProbeRun where
  task : ProbeTask
  reported : Bool := false
deriving DecidableEq

/-- The scheduler with the ids that it takes for running, the runs that are in flight and the
results that nobody has collected. -/
structure ProbeScheduler extends Scheduler where
  running : Finset ℤ := ∅
  inFlight : List ProbeRun := []
  results : List ProbeResult := []

/-- A start: the task, the instant, and the number of runs in flight before it. -/
structure ProbeStart where
  task : ProbeTask
  time : Time
  inFlight : ℕ
deriving DecidableEq

/-- A tick in its course: the scheduler, the count of active runs and the starts so far. -/
structure TickState where
  scheduler : ProbeScheduler
  active : ℕ
  starts : List ProbeStart := []

/-- The time from a start of a task to its next run. -/
def ProbeTask.interval (task : ProbeTask) : Duration := scale (max task.intervalSeconds 5) second

/-- Start a run of a task. -/
def TickState.start (now : Time) (t : TickState) (task : ProbeTask) : TickState where
  scheduler :=
    { t.scheduler with
      next := Function.update t.scheduler.next task.id (now + task.interval)
      running := insert task.id t.scheduler.running
      inFlight := { task } :: t.scheduler.inFlight }
  active := t.active + 1
  starts := t.starts ++ [{ task, time := now, inFlight := t.scheduler.inFlight.length }]

/-- Visit a task: start it unless the limit is reached, it is running, or it is not due. -/
def TickState.visit (now : Time) (t : TickState) (task : ProbeTask) : TickState :=
  if t.scheduler.limit ≤ t.active ∨ task.id ∈ t.scheduler.running ∨
      now < t.scheduler.next task.id then t
  else t.start now task

/-- A tick visits all tasks.  They are visited in the given order if it is an order of them. -/
def ProbeScheduler.tick (s : ProbeScheduler) (now : Time) (order : List ProbeTask) : TickState :=
  run (TickState.visit now) { scheduler := s, active := s.running.card }
    (if order.Perm s.tasks.rows then order else s.tasks.rows)

/-- A run puts out its result, which is dropped when there are too many. -/
def ProbeScheduler.report (s : ProbeScheduler) (task : ProbeTask) (result : ProbeResult) :
    ProbeScheduler :=
  if { task } ∈ s.inFlight then
    { s with
      inFlight := { task, reported := true } :: s.inFlight.erase { task }
      results := if s.results.length < resultsCapacity then s.results ++ [result] else s.results }
  else s

/-- A run that has put out its result is complete. -/
def ProbeScheduler.complete (s : ProbeScheduler) (task : ProbeTask) : ProbeScheduler :=
  if { task, reported := true } ∈ s.inFlight then
    { s with
      running := s.running.erase task.id
      inFlight := s.inFlight.erase { task, reported := true } }
  else s

/-- What happens to a scheduler.  The runs proceed on their own, so a result can be put out and a
run can be complete at any moment. -/
inductive ProbeEvent where
  | setConcurrency (limit : ℤ)
  | sync (tasks : List ProbeTask) (clock : ℤ → Time)
  | tick (now : Time) (order : List ProbeTask)
  | report (task : ProbeTask) (result : ProbeResult)
  | complete (task : ProbeTask)
  | collect (count : ℕ)

namespace ProbeScheduler

/-- The scheduler after an event. -/
def step (s : ProbeScheduler) : ProbeEvent → ProbeScheduler
  | .setConcurrency limit => { s with toScheduler := s.toScheduler.setConcurrency limit }
  | .sync tasks clock => { s with toScheduler := s.toScheduler.sync tasks clock }
  | .tick now order => (s.tick now order).scheduler
  | .report task result => s.report task result
  | .complete task => s.complete task
  | .collect count => { s with results := s.results.drop count }

/-- The scheduler after a list of events. -/
abbrev after (events : List ProbeEvent) : ProbeScheduler := run step {} events

/-- The list of tasks that counts after an event, when the given one counted before. -/
def synced (last : List ProbeTask) : ProbeEvent → List ProbeTask
  | .sync tasks _ => tasks
  | _ => last

/-- The tasks that were taken over last. -/
abbrev lastSynced (events : List ProbeEvent) : List ProbeTask := run synced [] events

end ProbeScheduler

/-! ## A tick -/

/-- The ids of the runs in flight are distinct, and they are the ones taken for running. -/
structure ProbeScheduler.Consistent (s : ProbeScheduler) : Prop where
  nodup : (s.inFlight.map (·.task.id)).Nodup
  running_eq : s.running = (s.inFlight.map (·.task.id)).toFinset

/-- A task was startable: it was scheduled, not running and due. -/
structure ProbeScheduler.Startable (s : ProbeScheduler) (now : Time) (task : ProbeTask) : Prop where
  mem : task ∈ s.tasks
  idle : task.id ∉ s.running
  due : s.next task.id ≤ now

/-- What a tick that began in the scheduler `s` has done so far. -/
structure TickState.Ticking (s : ProbeScheduler) (now : Time) (t : TickState) : Prop where
  tasks_eq : t.scheduler.tasks = s.tasks
  limit_eq : t.scheduler.limit = s.limit
  consistent : t.scheduler.Consistent
  active_eq : t.active = t.scheduler.running.card
  idle : ∀ id ∉ t.scheduler.running, id ∉ s.running ∧ t.scheduler.next id = s.next id
  next_eq : ∀ id, t.scheduler.next id = s.next id ∨ ∃ start ∈ t.starts, start.task.id = id
  starts : ∀ start ∈ t.starts, s.Startable now start.task ∧ start.time = now ∧
    start.inFlight < s.limit ∧ start.task.id ∈ t.scheduler.running ∧
    t.scheduler.next start.task.id = now + start.task.interval

section Tick

variable {s : ProbeScheduler} {now : Time} {t : TickState} {task : ProbeTask}

/-- In a consistent scheduler as many ids are running as there are runs in flight. -/
lemma ProbeScheduler.Consistent.card_running (h : s.Consistent) :
    s.running.card = s.inFlight.length := by
  rw [h.running_eq, List.toFinset_card_of_nodup h.nodup, List.length_map]

/-- A start keeps a scheduler consistent when the task is not running. -/
lemma TickState.Ticking.start (h : t.Ticking s now) (hmem : task ∈ s.tasks)
    (hlimit : (t.active : ℤ) < s.limit) (hidle : task.id ∉ t.scheduler.running)
    (hdue : t.scheduler.next task.id ≤ now) : (t.start now task).Ticking s now where
  tasks_eq := h.tasks_eq
  limit_eq := h.limit_eq
  consistent := by
    have hnotMem : task.id ∉ t.scheduler.inFlight.map (·.task.id) := by
      rwa [h.consistent.running_eq, List.mem_toFinset] at hidle
    constructor
    · exact List.nodup_cons.mpr ⟨hnotMem, h.consistent.nodup⟩
    · simp [TickState.start, h.consistent.running_eq]
  active_eq := by simp [TickState.start, h.active_eq, hidle]
  idle := by
    intro id hid
    simp only [TickState.start, Finset.mem_insert, not_or] at hid
    simp only [TickState.start, Function.update_of_ne hid.1]
    exact h.idle id hid.2
  next_eq := by
    intro id
    by_cases hid : id = task.id
    · exact Or.inr ⟨_, List.mem_append_right _ List.mem_cons_self, hid.symm⟩
    · simp only [TickState.start, Function.update_of_ne hid, List.mem_append]
      exact (h.next_eq id).imp_right fun ⟨start, mem, heq⟩ => ⟨start, Or.inl mem, heq⟩
  starts := by
    intro start mem
    rcases List.mem_append.mp mem with mem | mem
    · obtain ⟨startable, hat, hless, hrunning, hnext⟩ := h.starts start mem
      have hne : start.task.id ≠ task.id := fun heq => hidle (heq ▸ hrunning)
      refine ⟨startable, hat, hless, Finset.mem_insert_of_mem hrunning, ?_⟩
      simpa only [TickState.start, Function.update_of_ne hne] using hnext
    · rw [List.mem_singleton.mp mem]
      have ⟨hidle', hnext⟩ := h.idle task.id hidle
      refine ⟨⟨hmem, hidle', hnext ▸ hdue⟩, rfl, ?_, Finset.mem_insert_self _ _, by
        simp [TickState.start]⟩
      rwa [h.active_eq, h.consistent.card_running] at hlimit

/-- A visit goes on with a tick. -/
lemma TickState.Ticking.visit (h : t.Ticking s now) (hmem : task ∈ s.tasks) :
    (t.visit now task).Ticking s now := by
  unfold TickState.visit
  split_ifs with hskip
  · exact h
  · simp only [not_or, not_le, not_lt] at hskip
    exact h.start hmem (h.limit_eq ▸ hskip.1) hskip.2.1 hskip.2.2

/-- What a tick does. -/
lemma ProbeScheduler.Consistent.tick (h : s.Consistent) (now : Time) (order : List ProbeTask) :
    (s.tick now order).Ticking s now := by
  have first : TickState.Ticking s now { scheduler := s, active := s.running.card } :=
    { tasks_eq := rfl, limit_eq := rfl, consistent := h, active_eq := rfl
      idle := fun _ hid => ⟨hid, rfl⟩, next_eq := fun _ => Or.inl rfl, starts := by simp }
  have visited : ∀ task ∈ if order.Perm s.tasks.rows then order else s.tasks.rows,
      task ∈ s.tasks := by
    intro task mem
    split_ifs at mem with hperm
    · exact hperm.mem_iff.mp mem
    · exact mem
  exact run_keeps_along (fun _ _ ticking mem => ticking.visit mem) first
    (Along.of_forall visited _)

end Tick

/-! ## Synced tasks -/

section Sync

variable {s : ProbeScheduler} {tasks : List ProbeTask} {clock : ℤ → Time}

/-- The scheduler runs active tasks of the last list only. -/
lemma Scheduler.mem_of_mem_sync {s : Scheduler} {task : ProbeTask}
    (h : task ∈ (s.sync tasks clock).tasks) : task ∈ tasks ∧ task.active = true := by
  rw [tasks_sync, KeyedTable.mem_deleteWhere, decide_eq_false_iff_not, not_not] at h
  exact List.mem_filter.mp (KeyedTable.mem_of_mem_upsertAll h.1 h.2)

/-- Taking over tasks does not move a next run. -/
lemma Scheduler.next_foldl_add {s : Scheduler} {id : ℤ} (h : s.next id ≠ 0) :
    (tasks.foldl (Scheduler.add clock) s).next id = s.next id := by
  induction tasks generalizing s with
  | nil => rfl
  | cons task tasks ih =>
    have hadd : (Scheduler.add clock s task).next id = s.next id := by
      unfold Scheduler.add
      split_ifs with hactive hzero
      · have hne : id ≠ task.id := fun heq => h (isZero_iff.mp (heq ▸ hzero))
        exact Function.update_of_ne hne _ _
      · rfl
      · rfl
    rw [List.foldl_cons, ih (hadd ▸ h), hadd]

/-- A task that stays scheduled keeps its next run. -/
lemma Scheduler.next_sync {s : Scheduler} {id : ℤ} (h : s.next id ≠ 0)
    (hkept : ∃ task ∈ tasks, task.active = true ∧ task.id = id) :
    (s.sync tasks clock).next id = s.next id := by
  obtain ⟨task, hmem, hactive, rfl⟩ := hkept
  have hid : task.id ∈ (tasks.filter ProbeTask.active).map ProbeTask.id :=
    List.mem_map_of_mem (List.mem_filter.mpr ⟨hmem, hactive⟩)
  simp only [Scheduler.sync, hid, not_true_eq_false, decide_false, Bool.and_false,
    Bool.false_eq_true, if_false]
  exact Scheduler.next_foldl_add h

end Sync

/-! ## What every step keeps -/

namespace ProbeScheduler

section Steps

variable {s : ProbeScheduler}

/-- A run that puts out its result stays in flight. -/
lemma Consistent.report (h : s.Consistent) (task : ProbeTask) (result : ProbeResult) :
    (s.report task result).Consistent := by
  unfold ProbeScheduler.report
  by_cases hmem : { task } ∈ s.inFlight
  · have hperm := (List.perm_cons_erase hmem).map (·.task.id)
    rw [if_pos hmem]
    exact ⟨hperm.nodup_iff.mp h.nodup, h.running_eq.trans (List.toFinset_eq_of_perm _ _ hperm)⟩
  · rwa [if_neg hmem]

/-- The id of a run that is complete is no longer taken for running. -/
lemma Consistent.complete (h : s.Consistent) (task : ProbeTask) : (s.complete task).Consistent := by
  unfold ProbeScheduler.complete
  split_ifs with hmem
  · have hperm := (List.perm_cons_erase hmem).map (·.task.id)
    rw [List.map_cons] at hperm
    obtain ⟨hnotMem, hnodup⟩ := List.nodup_cons.mp (hperm.nodup_iff.mp h.nodup)
    refine ⟨hnodup, ?_⟩
    simp only [h.running_eq, List.toFinset_eq_of_perm _ _ hperm, List.toFinset_cons]
    exact Finset.erase_insert (mt List.mem_toFinset.mp hnotMem)
  · exact h

/-- Every event keeps a scheduler consistent. -/
lemma Consistent.step (h : s.Consistent) (event : ProbeEvent) : (s.step event).Consistent := by
  cases event with
  | setConcurrency limit => exact ⟨h.nodup, h.running_eq⟩
  | sync tasks clock => exact ⟨h.nodup, h.running_eq⟩
  | tick now order => exact (h.tick now order).consistent
  | report task result => exact h.report task result
  | complete task => exact h.complete task
  | collect count => exact ⟨h.nodup, h.running_eq⟩

/-- A scheduler is consistent after any events. -/
lemma consistent_after (events : List ProbeEvent) : (after events).Consistent :=
  run_keeps (fun _ event h => h.step event) ⟨List.nodup_nil, rfl⟩ events

/-- The scheduled tasks are active tasks of the list that was taken over last. -/
lemma mem_lastSynced {events : List ProbeEvent} {task : ProbeTask}
    (h : task ∈ (after events).tasks) : task ∈ lastSynced events ∧ task.active = true := by
  induction events using List.reverseRecOn with
  | nil => exact absurd h (KeyedTable.notMem_empty task)
  | append_singleton events event ih =>
    rw [after, run_append, run_cons, run_nil] at h
    rw [lastSynced, run_append, run_cons, run_nil]
    cases event with
    | setConcurrency limit => exact ih h
    | sync tasks clock => exact Scheduler.mem_of_mem_sync h
    | tick now order =>
      exact ih (((consistent_after events).tick now order).tasks_eq ▸ h)
    | report task' result =>
      refine ih ?_
      simp only [ProbeScheduler.step, ProbeScheduler.report] at h
      split_ifs at h <;> exact h
    | complete task' =>
      refine ih ?_
      simp only [ProbeScheduler.step, ProbeScheduler.complete] at h
      split_ifs at h <;> exact h
    | collect count => exact ih h

end Steps

/-! ## Representable intervals -/

/-- The greatest count of seconds that is a duration. -/
def maxIntervalSeconds : ℤ := 9223372036

/-- The next run of every task that is due at a tick can be represented: the interval is a duration,
and the next run is not the zero instant. -/
def Representable (s : ProbeScheduler) : ProbeEvent → Prop
  | .tick now _ => ∀ task ∈ s.tasks.rows, task.id ∉ s.running → s.next task.id ≤ now →
      task.intervalSeconds ≤ maxIntervalSeconds ∧ now + max task.intervalSeconds 5 * second ≠ 0
  | _ => True

instance Representable.decidable (s : ProbeScheduler) (event : ProbeEvent) :
    Decidable (s.Representable event) := by
  cases event <;> unfold Representable <;> infer_instance

/-- An event leaves a task scheduled. -/
def Keeps (id : ℤ) (event : ProbeEvent) : Prop :=
  ∀ tasks clock, event = .sync tasks clock → ∃ task ∈ tasks, task.active = true ∧ task.id = id

/-- The next run of a task is not before an instant. -/
structure Held (s : ProbeScheduler) (id : ℤ) (bound : Time) : Prop where
  le_next : bound ≤ s.next id
  next_ne : s.next id ≠ 0

section Held

variable {s : ProbeScheduler} {now bound : Time} {order : List ProbeTask} {start : ProbeStart}

/-- After a start the next run is an interval away. -/
lemma held_of_start (h : s.Consistent) (representable : s.Representable (.tick now order))
    (mem : start ∈ (s.tick now order).starts) :
    (s.tick now order).scheduler.Held start.task.id
      (now + max start.task.intervalSeconds 5 * second) := by
  obtain ⟨startable, -, -, -, hnext⟩ := (h.tick now order).starts start mem
  obtain ⟨hinterval, hne⟩ := representable start.task startable.mem startable.idle startable.due
  have hscale : start.task.interval = max start.task.intervalSeconds 5 * second :=
    scale_second (le_max_of_le_right (by decide)) (max_le hinterval (by decide))
  rw [hscale] at hnext
  exact ⟨hnext.ge, hnext ▸ hne⟩

/-- The next run of a task that stays scheduled does not move back. -/
lemma Held.step {id : ℤ} (held : s.Held id bound) (h : s.Consistent) {event : ProbeEvent}
    (representable : s.Representable event) (keeps : Keeps id event) :
    (s.step event).Held id bound := by
  cases event with
  | setConcurrency limit => exact ⟨held.le_next, held.next_ne⟩
  | sync tasks clock =>
    have hnext : (s.toScheduler.sync tasks clock).next id = s.next id :=
      Scheduler.next_sync held.next_ne (keeps tasks clock rfl)
    exact ⟨held.le_next.trans hnext.ge, hnext.trans_ne held.next_ne⟩
  | tick now order =>
    rcases (h.tick now order).next_eq id with hnext | ⟨start, mem, rfl⟩
    · exact ⟨held.le_next.trans hnext.ge, hnext.trans_ne held.next_ne⟩
    · obtain ⟨startable, -, -, -, -⟩ := (h.tick now order).starts start mem
      obtain ⟨hle, hne⟩ := held_of_start h representable mem
      have hinterval : 0 ≤ max start.task.intervalSeconds 5 * second :=
        mul_nonneg (le_max_of_le_right (by decide)) (by decide)
      have hdue : bound ≤ now := held.le_next.trans startable.due
      exact ⟨(hdue.trans (le_add_of_nonneg_right hinterval)).trans hle, hne⟩
  | report task result =>
    simp only [ProbeScheduler.step, ProbeScheduler.report]
    split_ifs <;> exact ⟨held.le_next, held.next_ne⟩
  | complete task =>
    simp only [ProbeScheduler.step, ProbeScheduler.complete]
    split_ifs <;> exact ⟨held.le_next, held.next_ne⟩
  | collect count => exact ⟨held.le_next, held.next_ne⟩

end Held

/-! ## Regular runs -/

section Regular

variable {s : ProbeScheduler} {event : ProbeEvent} {start : ProbeStart}

end Regular

end ProbeScheduler

end Hostpin
