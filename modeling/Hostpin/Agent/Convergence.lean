import Hostpin.Agent.Runtime
import Hostpin.Agent.Stream

/-!
# Do the tasks of an agent follow the server?

The server sends the list of tasks in the first ack of a stream, in the ack of a report, and in the
ack of a frame when it has just read the list again.  On the first two paths the agent takes over
whatever arrives, on the third only a list that is there.  An empty list does not arrive
(`decodeAgentAck_encodeAgentAck`), so after the last task of a node is deleted a stream keeps the
old tasks.

`Served` says which acks the server sends, `AgentRuntime.receive` what an agent does with one.
-/

namespace Hostpin

open Clock

/-! ## Acks in transit -/

/-- The ways in which an ack reaches an agent. -/
inductive AckPath where
  | hello
  | stream
  | report
deriving DecidableEq

/-- The tasks are taken over in any case. -/
def AckPath.syncTasks : AckPath → Bool
  | .hello => true
  | .stream => false
  | .report => true

/-- An ack on its way to an agent, with the clock readings of the agent on arrival. -/
structure AckDelivery where
  path : AckPath
  ack : AgentAck
  clock : Time := 0
  taskClock : ℤ → Time := fun _ => 0

/-- A list of tasks that the server reads for a node. -/
def ReadTasks (tasks : List ProbeTask) : Prop := ∃ table node, tasks = listProbeTasks table node

/-- The acks that the server sends: the first one of a stream, the one of a report and the one of a
frame. -/
inductive Served : AckDelivery → Prop
  | hello {node cfg tasks refreshedAt serverTime clock taskClock}
      (hread : ∀ T, tasks = some T → ReadTasks T) :
      Served ⟨.hello, (openStream node cfg tasks refreshedAt serverTime).2, clock, taskClock⟩
  | report {node cfg report calls ack accepted clock taskClock}
      (hread : ∀ T, calls.tasks = some T → ReadTasks T)
      (hok : handleAgentReport node cfg report calls = .ok (ack, accepted)) :
      Served ⟨.report, ack, clock, taskClock⟩
  | frame {s offlineAfter calls payload ack clock taskClock}
      (hread : ∀ T, calls.tasks = some T → ReadTasks T)
      (hack : (StreamSession.handleFrame s offlineAfter calls payload).2.ack = some ack) :
      Served ⟨.stream, ack, clock, taskClock⟩

/-- The tasks of a served ack were read for it, and such an ack is no error. -/
lemma Served.tasks {d : AckDelivery} (h : Served d) {T : List ProbeTask}
    (htasks : d.ack.tasks = some T) : ReadTasks T ∧ d.ack.accepted = true := by
  cases h with
  | hello hread => exact ⟨hread T htasks, rfl⟩
  | @report node cfg report calls ack accepted clock taskClock hread hok =>
    unfold handleAgentReport at hok
    split_ifs at hok
    cases hok
    exact ⟨hread T htasks, rfl⟩
  | @frame s offlineAfter calls payload ack clock taskClock hread hack =>
    cases payload with
    | none =>
      cases hack
      exact absurd htasks nofun
    | some frame =>
      obtain ⟨ack', hack', hkind⟩ := s.ack_handleFrame offlineAfter calls frame
      rw [hack] at hack'
      split_ifs at hack'
      cases hack'
      rcases hkind with ⟨error, rfl⟩ | ⟨s', persisted, rfl⟩
      · exact absurd htasks nofun
      · refine ⟨hread T ?_, rfl⟩
        have hrefresh : (s.refresh calls).2 = some T := htasks
        unfold StreamSession.refresh at hrefresh
        split_ifs at hrefresh
        exact hrefresh

/-! ## Arrival -/

/-- An agent reads an ack.  An error on a stream ends the stream before the ack is applied. -/
def AgentRuntime.receive (r : AgentRuntime) (d : AckDelivery) : AgentRuntime :=
  match decodeAgentAck (encodeAgentAck d.ack) with
  | none => r
  | some ack =>
    if d.path ≠ .report && !ack.accepted && ack.error ≠ "" then r
    else r.applyAck ack d.path.syncTasks d.clock d.taskClock

/-- The tasks of an agent are the enabled tasks of a list. -/
def AgentRuntime.Follows (r : AgentRuntime) (tasks : List ProbeTask) : Prop :=
  ∀ task, task ∈ r.probes.tasks ↔ task ∈ tasks ∧ task.enabled = true

/-- The list of an ack reaches the tasks of an agent: the ack is taken over in any case, the list is
not empty, or the agent has no tasks either. -/
def AgentRuntime.TakesOver (r : AgentRuntime) (d : AckDelivery) (tasks : List ProbeTask) : Prop :=
  d.path.syncTasks = true ∨ tasks ≠ [] ∨ r.probes.tasks.rows = []

section Arrival

variable {r : AgentRuntime} {d : AckDelivery}

/-- Listed tasks are the ones that a scheduler takes over. -/
lemma ReadTasks.active {tasks : List ProbeTask} (h : ReadTasks tasks) {task : ProbeTask}
    (hmem : task ∈ tasks) : task.active = true ∧ task.enabled = true := by
  obtain ⟨table, node, rfl⟩ := h
  obtain ⟨henabled, hpos⟩ := enabled_of_mem_listProbeTasks hmem
  simp [ProbeTask.active, henabled, hpos]

/-- The tasks of an ack, where an absent list counts as an empty one, arrive as they were sent. -/
lemma AgentAck.arrivingTasks_getD (ack : AgentAck) :
    ack.arrivingTasks.getD [] = ack.tasks.getD [] := by
  unfold AgentAck.arrivingTasks
  split_ifs with hempty
  · exact hempty.symm
  · rfl

/-- Only a list that is not empty arrives as a list. -/
lemma AgentAck.arrivingTasks_isSome (ack : AgentAck) :
    ack.arrivingTasks.isSome = true ↔ ack.tasks.getD [] ≠ [] := by
  unfold AgentAck.arrivingTasks
  split_ifs with hempty
  · simp [hempty]
  · simp [hempty]

/-- The tasks of an agent after an ack that is no error. -/
lemma AgentRuntime.mem_tasks_receive
    (hnodup : ((d.ack.tasks.getD []).map ProbeTask.id).Nodup)
    (hok : (d.path ≠ .report && !d.ack.accepted && d.ack.error ≠ "") = false) (task : ProbeTask) :
    task ∈ (r.receive d).probes.tasks ↔
      if d.path.syncTasks = true ∨ d.ack.tasks.getD [] ≠ [] then
        task ∈ d.ack.tasks.getD [] ∧ task.active = true
      else task ∈ r.probes.tasks := by
  have hreceive : r.receive d =
      r.applyAck { d.ack with tasks := d.ack.arrivingTasks } d.path.syncTasks d.clock
        d.taskClock := by
    unfold AgentRuntime.receive
    rw [decodeAgentAck_encodeAgentAck]
    exact if_neg (by simpa using hok)
  have hgetD := d.ack.arrivingTasks_getD
  rw [← hgetD] at hnodup
  rw [hreceive, AgentRuntime.mem_tasks_applyAck hnodup, hgetD]
  simp only [Bool.or_eq_true, AgentAck.arrivingTasks_isSome]

/-- The tasks of an agent after an ack with a list of tasks. -/
lemma Served.mem_tasks_receive (h : Served d) {T : List ProbeTask} (htasks : d.ack.tasks = some T)
    (task : ProbeTask) :
    task ∈ (r.receive d).probes.tasks ↔
      if d.path.syncTasks = true ∨ T ≠ [] then task ∈ T ∧ task.enabled = true
      else task ∈ r.probes.tasks := by
  obtain ⟨hread, haccepted⟩ := h.tasks htasks
  have hgetD : d.ack.tasks.getD [] = T := by rw [htasks]; rfl
  have hnodup : (T.map ProbeTask.id).Nodup := by
    obtain ⟨table, node, rfl⟩ := hread
    exact nodup_listProbeTasks table node
  have hactive : task ∈ T ∧ task.active = true ↔ task ∈ T ∧ task.enabled = true :=
    ⟨fun ht => ⟨ht.1, (hread.active ht.1).2⟩, fun ht => ⟨ht.1, (hread.active ht.1).1⟩⟩
  rw [AgentRuntime.mem_tasks_receive (by rw [hgetD]; exact hnodup) (by simp [haccepted]), hgetD,
    hactive]

/-- An ack with a list of tasks makes the agent follow the list exactly when the list is taken
over. -/
lemma Served.follows_iff (h : Served d) {T : List ProbeTask} (htasks : d.ack.tasks = some T) :
    (r.receive d).Follows T ↔ r.TakesOver d T := by
  unfold AgentRuntime.Follows AgentRuntime.TakesOver
  simp only [h.mem_tasks_receive htasks]
  by_cases hsync : d.path.syncTasks = true ∨ T ≠ []
  · simp only [if_pos hsync]
    exact ⟨fun _ => hsync.elim Or.inl fun hT => Or.inr (Or.inl hT), fun _ _ => trivial⟩
  · simp only [if_neg hsync]
    rw [not_or, not_not] at hsync
    obtain ⟨hpath, rfl⟩ := hsync
    constructor
    · intro hall
      refine Or.inr (Or.inr (List.eq_nil_iff_forall_not_mem.mpr fun task hmem => ?_))
      exact List.not_mem_nil ((hall task).mp hmem).1
    · rintro (h | h | h) task
      · exact absurd h hpath
      · exact absurd rfl h
      · rw [KeyedTable.mem_def, h]
        simp

end Arrival

/-! ## Runs -/

/-- The agent after a list of acks. -/
def AgentRuntime.receiveAll (r : AgentRuntime) (ds : List AckDelivery) : AgentRuntime :=
  ds.foldl AgentRuntime.receive r

/-- The last list of tasks in a list of acks. -/
def lastTasks (ds : List AckDelivery) : Option (List ProbeTask) :=
  (ds.filterMap fun d => d.ack.tasks).getLast?

/-- The last list of tasks, when the first ack is looked at last. -/
lemma lastTasks_cons (d : AckDelivery) (ds : List AckDelivery) :
    lastTasks (d :: ds) = (lastTasks ds).or d.ack.tasks := by
  unfold lastTasks
  cases htasks : d.ack.tasks with
  | none => simp only [List.filterMap_cons, htasks, Option.or_none]
  | some T =>
    simp only [List.filterMap_cons, htasks, List.getLast?_cons]
    cases (ds.filterMap fun d => d.ack.tasks).getLast? <;> rfl

/-- Every list in a list of acks is taken over by the agent that it reaches. -/
def AgentRuntime.TakesOverAll (r : AgentRuntime) : List AckDelivery → Prop
  | [] => True
  | d :: ds => (∀ T, d.ack.tasks = some T → r.TakesOver d T) ∧ (r.receive d).TakesOverAll ds

/-- The tasks of an agent are enabled tasks of the last list. -/
def AgentRuntime.Within (r : AgentRuntime) (last : Option (List ProbeTask)) : Prop :=
  ∀ task ∈ r.probes.tasks, ∃ T, last = some T ∧ task ∈ T ∧ task.enabled = true

/-- An ack without tasks changes the tasks of an agent at most by removing all of them. -/
lemma AgentRuntime.mem_tasks_of_receive {r : AgentRuntime} {d : AckDelivery}
    (hnone : d.ack.tasks = none) {task : ProbeTask} (hmem : task ∈ (r.receive d).probes.tasks) :
    task ∈ r.probes.tasks := by
  by_cases hok : (d.path ≠ .report && !d.ack.accepted && d.ack.error ≠ "") = true
  · have hsame : r.receive d = r := by
      unfold AgentRuntime.receive
      rw [decodeAgentAck_encodeAgentAck]
      exact if_pos hok
    rwa [hsame] at hmem
  · rw [AgentRuntime.mem_tasks_receive (by simp [hnone]) (Bool.not_eq_true _ ▸ hok), hnone] at hmem
    split_ifs at hmem
    · exact absurd hmem.1 List.not_mem_nil
    · exact hmem

/-- An ack whose list is taken over keeps the tasks inside the last list. -/
lemma AgentRuntime.Within.receive {r : AgentRuntime} {d : AckDelivery}
    {last : Option (List ProbeTask)} (h : r.Within last) (hserved : Served d)
    (hover : ∀ T, d.ack.tasks = some T → r.TakesOver d T) :
    (r.receive d).Within (d.ack.tasks.or last) := by
  intro task hmem
  cases htasks : d.ack.tasks with
  | none => exact h task (AgentRuntime.mem_tasks_of_receive htasks hmem)
  | some T =>
    have hfollows := (hserved.follows_iff htasks).mpr (hover T htasks)
    obtain ⟨hT, henabled⟩ := (hfollows task).mp hmem
    exact ⟨T, rfl, hT, henabled⟩

/-- A list of acks whose lists are taken over keeps the tasks inside the last list. -/
lemma AgentRuntime.Within.receiveAll (ds : List AckDelivery) {r : AgentRuntime}
    {last : Option (List ProbeTask)} (h : r.Within last) (hserved : ∀ d ∈ ds, Served d)
    (hover : r.TakesOverAll ds) : (r.receiveAll ds).Within ((lastTasks ds).or last) := by
  induction ds generalizing r last with
  | nil => exact h
  | cons d ds ih =>
    rw [lastTasks_cons, Option.or_assoc]
    refine ih (h.receive (hserved d List.mem_cons_self) hover.1) ?_ hover.2
    exact fun d' hd' => hserved d' (List.mem_cons_of_mem _ hd')

/-- Whatever tasks an agent has, an ack with a list of tasks makes it follow the list exactly when
the ack is the first one of a stream or the one of a report, the list is not empty, or the agent has
no tasks; and over a run in which every list meets this condition the agent runs only tasks of the
last list. -/
theorem AgentRuntime.tasks_follow_server (r : AgentRuntime) (ds : List AckDelivery)
    (hserved : ∀ d ∈ ds, Served d) :
    (∀ d ∈ ds, ∀ T, d.ack.tasks = some T →
      ∀ r' : AgentRuntime, (r'.receive d).Follows T ↔ r'.TakesOver d T) ∧
    (r.probes.tasks.rows = [] → r.TakesOverAll ds →
      ∀ task ∈ (r.receiveAll ds).probes.tasks,
        ∃ T, lastTasks ds = some T ∧ task ∈ T ∧ task.enabled = true) := by
  constructor
  · intro d hd T htasks r'
    exact (hserved d hd).follows_iff htasks
  · intro hnew hover
    have hstart : r.Within none := by
      intro task hmem
      rw [KeyedTable.mem_def, hnew] at hmem
      exact absurd hmem List.not_mem_nil
    have hrun := hstart.receiveAll ds hserved hover
    rwa [Option.or_none] at hrun

/-- The first ack of a stream, with the tasks of a table. -/
def helloOf (tasks : ProbeTaskTable) : AckDelivery :=
  ⟨.hello,
    (openStream pingedNode {} (some (listProbeTasks tasks pingedNode)) unixEpoch unixEpoch).2,
    unixEpoch, fun _ => unixEpoch⟩

/-- The ack of a frame twenty seconds later, with the tasks of a table. -/
def refreshOf (tasks : ProbeTaskTable) : AckDelivery :=
  ⟨.stream, { type := .ack, accepted := true, serverTime := unixEpoch + 20 * second,
              tasks := some (listProbeTasks tasks pingedNode) },
    unixEpoch + 20 * second, fun _ => unixEpoch⟩

/-- The server sends these acks. -/
lemma served_helloOf_refreshOf (tasks : ProbeTaskTable) :
    Served (helloOf tasks) ∧ Served (refreshOf tasks) := by
  have hread : ∀ T, some (listProbeTasks tasks pingedNode) = some T → ReadTasks T := by
    intro T hT
    exact ⟨tasks, pingedNode, (Option.some.inj hT).symm⟩
  have hack : ((openStream pingedNode {} none unixEpoch unixEpoch).1.handleFrame 0
      { now := unixEpoch + 20 * second, tasks := some (listProbeTasks tasks pingedNode) }
      (some { type := .sample, sample := some {} })).2.ack = some (refreshOf tasks).ack := rfl
  exact ⟨.hello hread, .frame hread hack⟩

theorem tasks_follow_server_pingTask :
    (({} : AgentRuntime).receive (refreshOf pingTable)).Follows [pingTask] ∧
      ∀ task ∈
          (({} : AgentRuntime).receiveAll [helloOf pingTable, refreshOf pingTable]).probes.tasks,
        ∃ T, lastTasks [helloOf pingTable, refreshOf pingTable] = some T ∧ task ∈ T ∧
          task.enabled = true := by
  obtain ⟨hhello, hrefresh⟩ := served_helloOf_refreshOf pingTable
  obtain ⟨hfollows, hrun⟩ := AgentRuntime.tasks_follow_server {}
    [helloOf pingTable, refreshOf pingTable] (by simp [hhello, hrefresh])
  constructor
  · refine (hfollows (refreshOf pingTable) (by simp) [pingTask] (by decide +kernel) {}).mpr ?_
    exact Or.inr (Or.inl (by decide))
  · refine hrun rfl ⟨fun T _ => Or.inl rfl, fun T hT => Or.inr (Or.inl ?_), trivial⟩
    rintro rfl
    exact absurd hT (by decide +kernel)

/-- The last task of a node is deleted during a stream: the server sends the empty list, and the
agent keeps the task. -/
theorem empty_list_does_not_arrive :
    Served (refreshOf {}) ∧ (refreshOf {}).ack.tasks = some [] ∧
      pingTask ∈
        ((({} : AgentRuntime).receive (helloOf pingTable)).receive (refreshOf {})).probes.tasks ∧
      ¬ ((({} : AgentRuntime).receive (helloOf pingTable)).receive (refreshOf {})).Follows [] := by
  have hkeeps : pingTask ∈ ((({} : AgentRuntime).receive (helloOf pingTable)).receive
      (refreshOf {})).probes.tasks.rows := by
    decide +kernel
  refine ⟨(served_helloOf_refreshOf {}).2, by decide +kernel, hkeeps, fun h => ?_⟩
  exact absurd ((h pingTask).mp hkeeps).1 List.not_mem_nil

end Hostpin
