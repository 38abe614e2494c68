import Hostpin.Agent.Wire
import Hostpin.Foundation.KeyedTable

/-!
# The agent

An agent keeps a scheduler with the probe tasks that it runs and a list of results that the server
has not acknowledged.  This file models how an ack changes the agent (`AgentRuntime.applyAck`), how
the scheduler takes over a list of tasks (`Scheduler.sync`) and how results are collected.
-/

namespace Hostpin

open Clock

/-! ## The scheduler -/

/-- The tasks that an agent runs, when each of them runs next and how many may run at once.  A task
without a next run has the zero instant. -/
structure Scheduler where
  tasks : KeyedTable ProbeTask.id := KeyedTable.empty
  next : ℤ → Time := fun _ => 0
  limit : ℤ := 4

/-- Set how many probes may run at once. -/
def Scheduler.setConcurrency (s : Scheduler) (limit : ℤ) : Scheduler :=
  { s with limit := min (max limit 1) 32 }

/-- A task that the scheduler takes over. -/
def ProbeTask.active (task : ProbeTask) : Bool := task.enabled && 0 < task.id

/-- Take over one task.  The clock is read when the task has no next run. -/
def Scheduler.add (clock : ℤ → Time) (s : Scheduler) (task : ProbeTask) : Scheduler :=
  if task.active then
    { s with
      tasks := s.tasks.upsert task
      next := if isZero (s.next task.id) then Function.update s.next task.id (clock task.id)
        else s.next }
  else s

/-- Take over a list of tasks and forget all others. -/
def Scheduler.sync (s : Scheduler) (tasks : List ProbeTask) (clock : ℤ → Time) : Scheduler :=
  let active := (tasks.filter ProbeTask.active).map ProbeTask.id
  let s := tasks.foldl (Scheduler.add clock) s
  { s with
    tasks := s.tasks.deleteWhere fun task => task.id ∉ active
    next := fun id => if s.tasks.rows.any (·.id = id) && id ∉ active then 0 else s.next id }

section Sync

variable (clock : ℤ → Time)

/-- Taking over tasks one by one inserts the active ones. -/
lemma Scheduler.tasks_foldl_add (tasks : List ProbeTask) (s : Scheduler) :
    (tasks.foldl (Scheduler.add clock) s).tasks =
      s.tasks.upsertAll (tasks.filter ProbeTask.active) := by
  induction tasks generalizing s with
  | nil => rfl
  | cons task tasks ih =>
    rw [List.foldl_cons, ih]
    cases hactive : task.active with
    | true => rw [List.filter_cons_of_pos hactive, Scheduler.add, if_pos hactive]; rfl
    | false =>
      have hneg : ¬ task.active = true := by simp [hactive]
      rw [List.filter_cons_of_neg hneg, Scheduler.add, if_neg hneg]

/-- Taking over a list of tasks inserts the active ones and deletes the others. -/
lemma Scheduler.tasks_sync (s : Scheduler) (tasks : List ProbeTask) :
    (s.sync tasks clock).tasks =
      (s.tasks.upsertAll (tasks.filter ProbeTask.active)).deleteWhere fun task =>
        task.id ∉ (tasks.filter ProbeTask.active).map ProbeTask.id := by
  rw [← Scheduler.tasks_foldl_add clock]
  rfl

/-- After taking over a list of tasks the scheduler runs the active tasks of the list. -/
lemma Scheduler.mem_sync {s : Scheduler} {tasks : List ProbeTask}
    (hnodup : (tasks.map ProbeTask.id).Nodup) {task : ProbeTask} :
    task ∈ (s.sync tasks clock).tasks ↔ task ∈ tasks ∧ task.active = true := by
  have hnd : ((tasks.filter ProbeTask.active).map ProbeTask.id).Nodup :=
    (List.filter_sublist.map _).nodup hnodup
  rw [tasks_sync, KeyedTable.mem_deleteWhere, KeyedTable.mem_upsertAll hnd, List.mem_filter,
    decide_eq_false_iff_not, not_not]
  constructor
  · rintro ⟨h | ⟨-, hnot⟩, hmem⟩
    · exact h
    · exact absurd hmem hnot
  · exact fun h => ⟨Or.inl h, List.mem_map_of_mem (List.mem_filter.mpr h)⟩

end Sync

/-! ## Acks and results -/

/-- The state of an agent: who it is, its role, its configuration, its scheduler, the results that
the scheduler has put out, the results that wait for an ack, and the clock of the server relative to
its own. -/
structure AgentRuntime where
  installID : String := ""
  version : String := ""
  identity : AgentIdentity := {}
  role : NodeRole := .monitor
  config : AgentConfig := {}
  probes : Scheduler := {}
  results : List ProbeResult := []
  pending : List ProbeResult := []
  clockSkew : Duration := 0

/-- Take over the clock of an ack. -/
def AgentRuntime.applyServerTime (r : AgentRuntime) (ack : AgentAck) (clock : Time) :
    AgentRuntime :=
  if isZero ack.serverTime then r else { r with clockSkew := sub ack.serverTime clock }

/-- Take over the configuration of an ack unless it is older than the present one. -/
def AgentRuntime.applyConfig (r : AgentRuntime) (ack : AgentAck) : AgentRuntime :=
  if 0 < ack.config.collectIntervalSeconds && r.config.configVersion ≤ ack.config.configVersion then
    { r with
      config := ack.config
      probes := r.probes.setConcurrency ack.config.probeConcurrency }
  else r

/-- Take over what an ack says.  The tasks are taken over when the ack has some, or in any case when
`syncTasks` is set; an absent list counts as an empty one then. -/
def AgentRuntime.applyAck (r : AgentRuntime) (ack : AgentAck) (syncTasks : Bool) (clock : Time)
    (taskClock : ℤ → Time) : AgentRuntime :=
  let r := (r.applyServerTime ack clock).applyConfig ack
  if syncTasks || ack.tasks.isSome then
    { r with probes := r.probes.sync (ack.tasks.getD []) taskClock }
  else r

/-- The number of results that the scheduler holds until they are collected. -/
def resultsCapacity : ℕ := 256

/-- A probe finishes.  Its result is dropped when the scheduler holds too many. -/
def AgentRuntime.finish (r : AgentRuntime) (result : ProbeResult) : AgentRuntime :=
  if r.results.length < resultsCapacity then { r with results := r.results ++ [result] } else r

/-- Move results of the scheduler to the waiting results while there are fewer than the limit. -/
def AgentRuntime.collectProbeResults (r : AgentRuntime) (limit : ℕ) : AgentRuntime :=
  { r with
    pending := r.pending ++ r.results.take (limit - r.pending.length)
    results := r.results.drop (limit - r.pending.length) }

/-- The version of the messages. -/
def protocolVersion : ℤ := 1

/-- The first frame of an agent. -/
def AgentRuntime.helloFrame (r : AgentRuntime) : AgentFrame where
  type := .hello
  hello := some { type := "hello", protocolVersion, installID := r.installID, version := r.version,
                  configVersion := r.config.configVersion, identity := r.identity }

/-- The frame that an agent sends in every round: a monitor sends a sample with the offset of its
clock, a probe only a sign of life. -/
def AgentRuntime.roundFrame (r : AgentRuntime) (sample : MetricSample) : AgentFrame :=
  if r.role = .monitor then
    { type := .sample
      sample := some { sample with clockOffsetMS := r.clockSkew.tdiv millisecond } }
  else { type := .heartbeat }

/-- An ack does not change the role. -/
@[simp] lemma AgentRuntime.role_applyAck (r : AgentRuntime) (ack : AgentAck) (syncTasks : Bool)
    (clock : Time) (taskClock : ℤ → Time) :
    (r.applyAck ack syncTasks clock taskClock).role = r.role := by
  unfold AgentRuntime.applyAck AgentRuntime.applyConfig AgentRuntime.applyServerTime
  split_ifs <;> rfl

/-- A finished probe does not change the role. -/
@[simp] lemma AgentRuntime.role_finish (r : AgentRuntime) (result : ProbeResult) :
    (r.finish result).role = r.role := by
  unfold AgentRuntime.finish
  split_ifs <;> rfl

/-- Neither the clock nor the configuration of an ack changes the tasks. -/
lemma AgentRuntime.tasks_applyConfig (r : AgentRuntime) (ack : AgentAck) (clock : Time) :
    ((r.applyServerTime ack clock).applyConfig ack).probes.tasks = r.probes.tasks := by
  unfold AgentRuntime.applyConfig AgentRuntime.applyServerTime
  split_ifs <;> rfl

/-- The tasks of an agent after an ack. -/
lemma AgentRuntime.mem_tasks_applyAck {r : AgentRuntime} {ack : AgentAck} {syncTasks : Bool}
    {clock : Time} {taskClock : ℤ → Time}
    (hnodup : ((ack.tasks.getD []).map ProbeTask.id).Nodup) {task : ProbeTask} :
    task ∈ (r.applyAck ack syncTasks clock taskClock).probes.tasks ↔
      if syncTasks || ack.tasks.isSome then task ∈ ack.tasks.getD [] ∧ task.active = true
      else task ∈ r.probes.tasks := by
  unfold AgentRuntime.applyAck
  split_ifs with hsync
  · exact Scheduler.mem_sync taskClock hnodup
  · rw [tasks_applyConfig]

end Hostpin
