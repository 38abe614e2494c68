import Hostpin.Httpapi.ProbeTasks
import Hostpin.Probe.Scheduler

/-!
# Valid probe tasks

Whatever requests come in, in whatever order their calls reach the store and whichever of them fail,
every task in the store passes the check of the administrator and looks like one for its purpose
(`tasks_sound`): each handler saves only such tasks (`TaskRequest.asks_handler`), and what the store
adds keeps them so (`ProbeTask.Valid.stored`).

What the tasks are read from the store for is that the agents run them.  The intervals of valid tasks
are short enough that an agent can always say when to run a task next (`listed_representable`).
-/

namespace Hostpin

open Clock NetIP Procedure Runs Text

/-! ## Saving -/

section Saving

variable {tasks : TaskTable} {time : CallTime} {task : ProbeTask}

/-- A task that is saved gets a number that was never given before, or replaces the task with its
number; everything else is an error and leaves the rows as they are. -/
lemma TaskTable.saveProbeTask_cases (tasks : TaskTable) (time : CallTime) (task : ProbeTask) :
    tasks.lastID ≤ (tasks.saveProbeTask time task).2.lastID ∧
      ((∃ e, (tasks.saveProbeTask time task).1 = .error e ∧
          (tasks.saveProbeTask time task).2.table = tasks.table) ∨
        ∃ saved id created updated, (tasks.saveProbeTask time task).1 = .ok saved ∧
          (tasks.saveProbeTask time task).2.table =
            tasks.table.upsert
              { task.withDefaults with id, createdAt := created, updatedAt := updated } ∧
          (task.id = 0 ∧ tasks.lastID < id ∨
            task.id = id ∧ ∃ old ∈ tasks.table, old.id = id)) := by
  unfold TaskTable.saveProbeTask
  dsimp only
  split
  next hid =>
    have hid : task.id = 0 := hid
    split
    · refine ⟨le_max_left _ _, Or.inr ⟨_, _, _, _, rfl, rfl, Or.inl ⟨hid, ?_⟩⟩⟩
      have := Int.natCast_nonneg time.skipped
      omega
    · exact ⟨Int.le_add_of_nonneg_right (Int.natCast_nonneg _), Or.inl ⟨_, rfl, rfl⟩⟩
  next hid =>
    split
    · exact ⟨le_rfl, Or.inl ⟨_, rfl, rfl⟩⟩
    next old hold =>
      obtain ⟨hmem, hkey⟩ := KeyedTable.lookup_eq_some_iff.mp hold
      split
      · exact ⟨le_max_left _ _, Or.inr ⟨_, _, _, _, rfl, rfl, Or.inr ⟨rfl, old, hmem, hkey⟩⟩⟩
      · exact ⟨le_rfl, Or.inl ⟨_, rfl, rfl⟩⟩

end Saving

/-! ## Valid tasks -/

/-- What a task for a purpose looks like. -/
def ProbeTask.Form (task : ProbeTask) : Prop :=
  match task.purpose with
  | .custom => task.runOn = .monitor ∧ task.targetNodeID = "" ∧ task.isPublic = false ∧
    task.samples = 1 ∧ task.nodeIDs.Pairwise (· < ·)
  | .latency => task.runOn = .probe ∧ task.nodeIDs = [] ∧ task.expectedStatus = 0 ∧
    task.expectedValue = "" ∧ (task.type = .icmp ∨ task.type = .tcp)
  | .carrierTelecom | .carrierUnicom | .carrierMobile => task.runOn = .monitor ∧
    task.nodeIDs = [] ∧ task.targetNodeID = "" ∧ task.expectedStatus = 0 ∧
    task.expectedValue = "" ∧ task.isPublic = true ∧ (task.type = .icmp ∨ task.type = .tcp) ∧
    ∃ definition ∈ carrierDefinitions, definition.purpose = task.purpose ∧
      definition.name = task.name
  | .other _ _ => False

/-- A task that passes its check and looks like one for its purpose. -/
structure ProbeTask.Valid (P : TaskServices) (task : ProbeTask) : Prop where
  checked : validateProbeTask P task = .ok ()
  form : task.Form

/-- The bounds that a task keeps. -/
structure ProbeTask.Bounded (task : ProbeTask) : Prop where
  interval : 5 ≤ task.intervalSeconds ∧ task.intervalSeconds ≤ 86400
  timeout : 1 ≤ task.timeoutSeconds ∧ task.timeoutSeconds ≤ 60
  timeout_le : task.timeoutSeconds ≤ task.intervalSeconds
  samples : task.samples = 0 ∨ (1 ≤ task.samples ∧ task.samples ≤ 10)

section Valid

variable {P : TaskServices} {task : ProbeTask}

/-- What passes the check keeps the bounds. -/
lemma bounded_of_validateProbeTask (h : validateProbeTask P task = .ok ()) : task.Bounded := by
  unfold validateProbeTask at h
  split at h
  · cases h
  split at h
  · cases h
  split at h
  · cases h
  next htimes =>
    split at h
    · cases h
    split at h
    · cases h
    next hsamples =>
      constructor <;> omega

/-- The check does not depend on what the store adds to a task, nor on the number of samples as long
as that is in its range. -/
lemma validateProbeTask_stored (h : validateProbeTask P task = .ok ()) {samples : ℤ}
    (hpos : 1 ≤ samples) (hle : samples ≤ 10) (id : ℤ) (created updated : Time) :
    validateProbeTask P { task with id, samples, createdAt := created, updatedAt := updated } =
      .ok () := by
  unfold validateProbeTask at h ⊢
  dsimp only
  split at h
  · cases h
  next hname =>
    rw [if_neg hname]
    split at h
    · cases h
    next htarget =>
      rw [if_neg htarget]
      split at h
      · cases h
      next htimes =>
        rw [if_neg htimes]
        split at h
        · cases h
        next hsize =>
          rw [if_neg hsize, if_neg (by omega)]
          split at h
          · cases h
          · exact h

/-- A valid task has a purpose. -/
lemma ProbeTask.Form.purpose_ne_unset (h : task.Form) : task.purpose ≠ .unset := by
  intro hunset
  rw [Form, hunset] at h
  exact h

/-- A valid task has a role to run on. -/
lemma ProbeTask.Form.normalizeNodeRole_runOn (h : task.Form) :
    normalizeNodeRole task.runOn = task.runOn := by
  unfold Form at h
  split at h
  · rw [h.1]; rfl
  · rw [h.1]; rfl
  · rw [h.1]; rfl
  · rw [h.1]; rfl
  · rw [h.1]; rfl
  · exact h.elim

/-- The defaults of the store give a valid task a number of samples, and nothing else. -/
lemma ProbeTask.Valid.withDefaults_eq (h : task.Valid P) :
    task.withDefaults =
      { task with samples := if task.samples ≤ 0 then 1 else task.samples } := by
  have bounded := bounded_of_validateProbeTask h.checked
  have hinterval : ¬ task.intervalSeconds < 5 := not_lt.mpr bounded.interval.1
  have htimeout : ¬ (task.timeoutSeconds ≤ 0 ∨ task.intervalSeconds < task.timeoutSeconds) := by
    have := bounded.timeout
    have := bounded.timeout_le
    omega
  rw [ProbeTask.withDefaults, if_neg hinterval, if_neg htimeout, if_neg h.form.purpose_ne_unset,
    h.form.normalizeNodeRole_runOn]

/-- A valid task that is stored is valid, and has samples. -/
lemma ProbeTask.Valid.stored (h : task.Valid P) (id : ℤ) (created updated : Time) :
    ({ task.withDefaults with id, createdAt := created, updatedAt := updated } : ProbeTask).Valid P ∧
      1 ≤ task.withDefaults.samples := by
  have bounded := bounded_of_validateProbeTask h.checked
  have hsamples : 1 ≤ (if task.samples ≤ 0 then 1 else task.samples) ∧
      (if task.samples ≤ 0 then 1 else task.samples) ≤ 10 := by
    have := bounded.samples
    split <;> omega
  have hchecked :=
    validateProbeTask_stored h.checked hsamples.1 hsamples.2 id created updated
  rw [h.withDefaults_eq]
  refine ⟨⟨hchecked, ?_⟩, hsamples.1⟩
  have hform := h.form
  unfold ProbeTask.Form at hform ⊢
  dsimp only
  split at hform
  next hpurpose =>
    obtain ⟨hrun, htarget, hpublic, hone, hnodes⟩ := hform
    exact ⟨hrun, htarget, hpublic, by rw [hone]; rfl, hnodes⟩
  · exact hform
  next hpurpose => rw [hpurpose] at hform ⊢; exact hform
  next hpurpose => rw [hpurpose] at hform ⊢; exact hform
  next hpurpose => rw [hpurpose] at hform ⊢; exact hform
  · exact hform.elim

/-- The first probes of the carriers are valid. -/
lemma CarrierDefinition.valid_task {definition : CarrierDefinition}
    (h : definition ∈ carrierDefinitions) : definition.task.Valid P := by
  have hmem := h
  simp only [carrierDefinitions, List.mem_cons, List.not_mem_nil, or_false] at h
  rcases h with rfl | rfl | rfl
  all_goals exact ⟨by unfold validateProbeTask; rfl, rfl, rfl, rfl, rfl, rfl, rfl, Or.inr rfl, _,
    hmem, rfl, rfl⟩

/-- The ids of a probe of the administrator are in order and do not repeat. -/
lemma pairwise_lt_destutter (ids : List String) :
    ((ids.insertionSort (· ≤ ·)).destutter (· ≠ ·)).Pairwise (· < ·) := by
  have hle : ((ids.insertionSort (· ≤ ·)).destutter (· ≠ ·)).Pairwise (· ≤ ·) :=
    (List.pairwise_insertionSort _ ids).sublist (List.destutter_sublist _ _)
  have hne := List.isChain_destutter (R := (· ≠ ·)) (ids.insertionSort (· ≤ ·))
  rw [List.isChain_iff_getElem] at hne
  refine List.isChain_iff_pairwise.mp (List.isChain_iff_getElem.mpr fun i hi => ?_)
  exact lt_of_le_of_ne (List.pairwise_iff_getElem.mp hle i (i + 1) _ hi (Nat.lt_succ_self i))
    (hne i hi)

end Valid

/-! ## Calls for valid tasks -/

/-- Only valid tasks are saved. -/
def TaskCall.Sound (P : TaskServices) : TaskCall → Prop
  | .saveProbeTask task => task.Valid P
  | .listAllProbeTasks | .getNode _ | .deleteProbeTask _ => True

section Sound

variable {P : TaskServices}

lemma asks_allMonitors (ids : List String) : Asks (TaskCall.Sound P) (allMonitors ids) := by
  induction ids with
  | nil => trivial
  | cons id ids ih =>
    refine Asks.perform trivial fun answer => ?_
    cases answer with
    | error e => trivial
    | ok node =>
      change Asks _ (if _ then _ else _)
      split
      · exact ih
      · trivial

lemma asks_saveCustomTask (task : ProbeTask) : Asks (TaskCall.Sound P) (saveCustomTask P task) := by
  unfold saveCustomTask
  dsimp only
  split
  · trivial
  next hchecked =>
    refine Asks.bind (asks_allMonitors _) fun known => ?_
    split
    · refine Asks.perform ⟨hchecked, ?_⟩ fun answer => ?_
      · exact ⟨rfl, rfl, rfl, rfl, pairwise_lt_destutter _⟩
      · split <;> trivial
    · trivial

lemma asks_handleAdminSaveProbeTask (request : SaveTask) :
    Asks (TaskCall.Sound P) (handleAdminSaveProbeTask P request) := by
  unfold handleAdminSaveProbeTask
  split
  · trivial
  next task _ =>
    by_cases hpath : request.pathID = ""
    · rw [if_pos hpath]
      exact asks_saveCustomTask task
    · rw [if_neg hpath]
      split
      · trivial
      next id _ =>
        refine Asks.perform trivial fun answer => ?_
        split
        · trivial
        · exact asks_saveCustomTask { task with id }

lemma asks_handleAdminDeleteProbeTask (pathID : String) :
    Asks (TaskCall.Sound P) (handleAdminDeleteProbeTask P pathID) := by
  unfold handleAdminDeleteProbeTask
  split
  · trivial
  · refine Asks.perform trivial fun answer => ?_
    split <;> trivial

lemma asks_saveCarrierTasks {definitions : List CarrierDefinition}
    (h : ∀ definition ∈ definitions, definition ∈ carrierDefinitions) :
    Asks (TaskCall.Sound P) (saveCarrierTasks definitions) := by
  induction definitions with
  | nil => trivial
  | cons definition definitions ih =>
    rw [List.forall_mem_cons] at h
    have hvalid : TaskCall.Sound P (.saveProbeTask definition.task) :=
      CarrierDefinition.valid_task h.1
    refine Asks.perform hvalid fun answer => ?_
    cases answer with
    | error e => trivial
    | ok saved => exact ih h.2

lemma asks_ensureCarrierProbeTasks : Asks (TaskCall.Sound P) ensureCarrierProbeTasks := by
  refine Asks.perform trivial fun answer => ?_
  cases answer with
  | error e => trivial
  | ok tasks => exact asks_saveCarrierTasks fun definition h => List.mem_of_mem_filter h

lemma asks_handleAdminCarrierProbes : Asks (TaskCall.Sound P) handleAdminCarrierProbes := by
  refine Asks.bind asks_ensureCarrierProbeTasks fun answer => ?_
  cases answer with
  | error e => trivial
  | ok _ =>
    refine Asks.perform trivial fun answer => ?_
    cases answer <;> trivial

/-- An adjusted carrier probe looks like one. -/
lemma form_asCarrier {definition : CarrierDefinition} (h : definition ∈ carrierDefinitions)
    {update current : ProbeTask}
    (htype : (update.asCarrier definition current).type = .icmp ∨
      (update.asCarrier definition current).type = .tcp) :
    (update.asCarrier definition current).Form := by
  have hmem := h
  simp only [carrierDefinitions, List.mem_cons, List.not_mem_nil, or_false] at h
  rcases h with rfl | rfl | rfl
  all_goals exact ⟨rfl, rfl, rfl, rfl, rfl, rfl, htype, _, hmem, rfl, rfl⟩

lemma asks_handleAdminSaveCarrierProbe (carrier : String) (body : Except String ProbeTask) :
    Asks (TaskCall.Sound P) (handleAdminSaveCarrierProbe P carrier body) := by
  unfold handleAdminSaveCarrierProbe
  split
  · trivial
  next definition hdefinition =>
    refine Asks.bind asks_ensureCarrierProbeTasks fun answer => ?_
    cases answer with
    | error e => trivial
    | ok _ =>
      refine Asks.perform trivial fun answer => ?_
      cases answer with
      | error e => trivial
      | ok all =>
        dsimp only
        split
        · trivial
        next current hcurrent =>
          cases body with
          | error message => trivial
          | ok update =>
            dsimp only
            split
            · trivial
            next htype =>
              split
              · trivial
              next hchecked =>
                refine Asks.perform ⟨hchecked, ?_⟩ fun answer => ?_
                · exact form_asCarrier (List.mem_of_find?_eq_some hdefinition)
                    (by simpa only [not_and_or, not_not] using htype)
                · split <;> trivial

lemma asks_storeLatencyTask {task : ProbeTask} (h : task.Valid P) :
    Asks (TaskCall.Sound P) (storeLatencyTask task) := by
  refine Asks.perform trivial fun answer => ?_
  cases answer with
  | error e => trivial
  | ok all =>
    dsimp only
    split
    · trivial
    · refine Asks.perform h fun answer => ?_
      cases answer with
      | error e =>
        refine Asks.perform trivial fun answer => ?_
        split <;> trivial
      | ok saved => trivial

lemma asks_saveLatencyTask (task : ProbeTask) :
    Asks (TaskCall.Sound P) (saveLatencyTask P task) := by
  unfold saveLatencyTask
  dsimp only
  split
  · trivial
  next htype =>
    refine Asks.perform trivial fun answer => ?_
    cases answer with
    | error e => trivial
    | ok target =>
      dsimp only
      split
      · trivial
      · split
        · trivial
        next hchecked =>
          refine asks_storeLatencyTask ⟨hchecked, rfl, rfl, rfl, rfl, ?_⟩
          simpa only [not_and_or, not_not] using htype

lemma asks_handleAdminSaveLatencyTarget (request : SaveTask) :
    Asks (TaskCall.Sound P) (handleAdminSaveLatencyTarget P request) := by
  unfold handleAdminSaveLatencyTarget
  split
  · trivial
  · split
    · exact asks_saveLatencyTask _
    · split
      · trivial
      · exact asks_saveLatencyTask _

lemma asks_handleAdminDeleteLatencyTarget (pathID : String) :
    Asks (TaskCall.Sound P) (handleAdminDeleteLatencyTarget P pathID) := by
  unfold handleAdminDeleteLatencyTarget
  split
  · trivial
  · refine Asks.perform trivial fun answer => ?_
    cases answer with
    | error e => trivial
    | ok all =>
      dsimp only
      split
      · refine Asks.perform trivial fun answer => ?_
        cases answer <;> trivial
      · trivial

/-- Every handler saves only valid tasks. -/
lemma TaskRequest.asks_handler (request : TaskRequest) :
    Asks (TaskCall.Sound P) (request.handler P) := by
  cases request with
  | listProbes =>
    refine Asks.perform trivial fun answer => ?_
    cases answer <;> trivial
  | saveProbe request => exact asks_handleAdminSaveProbeTask request
  | deleteProbe pathID => exact asks_handleAdminDeleteProbeTask pathID
  | start => exact Asks.bind asks_ensureCarrierProbeTasks fun _ => trivial
  | listCarriers => exact asks_handleAdminCarrierProbes
  | saveCarrier carrier body => exact asks_handleAdminSaveCarrierProbe carrier body
  | saveLatency request => exact asks_handleAdminSaveLatencyTarget request
  | deleteLatency pathID => exact asks_handleAdminDeleteLatencyTarget pathID

/-- Every task in the store is valid, and has samples. -/
def TaskStore.Sound (P : TaskServices) (s : TaskStore) : Prop :=
  ∀ task ∈ s.tasks.table, task.Valid P ∧ 1 ≤ task.samples

/-- A store without tasks. -/
lemma TaskStore.sound_empty : TaskStore.Sound P {} :=
  fun _ htask => absurd htask (KeyedTable.notMem_empty _)

/-- A call that saves only valid tasks keeps the tasks valid. -/
lemma TaskStore.Sound.answer {s : TaskStore} (h : s.Sound P) {call : TaskCall} (hcall : call.Sound P)
    (time : CallTime) : (s.answer time call).2.Sound P := by
  cases call with
  | listAllProbeTasks => exact h
  | getNode id => exact h
  | saveProbeTask task =>
    obtain ⟨-, ⟨e, -, htable⟩ | ⟨saved, id, created, updated, -, htable, -⟩⟩ :=
      s.tasks.saveProbeTask_cases time task
    · intro row hrow
      exact h row (htable ▸ hrow)
    · intro row hrow
      change row ∈ (s.tasks.saveProbeTask time task).2.table at hrow
      rw [htable, KeyedTable.mem_upsert] at hrow
      rcases hrow with rfl | ⟨hrow, -⟩
      · exact hcall.stored id created updated
      · exact h row hrow
  | deleteProbeTask id =>
    intro row hrow
    change row ∈ (s.tasks.deleteProbeTask id).2.table at hrow
    unfold TaskTable.deleteProbeTask at hrow
    split at hrow
    · exact h row (KeyedTable.mem_deleteWhere.mp hrow).1
    · exact h row hrow

/-- So it does under every fate. -/
lemma TaskStore.Sound.answerTaskCall {s : TaskStore} (h : s.Sound P) {call : TaskCall}
    (hcall : call.Sound P) (fate : CallFate) : (answerTaskCall fate call s).2.Sound P := by
  cases fate with
  | works time => exact h.answer hcall time
  | fails e => exact h
  | worksUnheard time e => exact h.answer hcall time

/-- A change of the nodes keeps the tasks valid. -/
lemma TaskStore.Sound.changeNode {s : TaskStore} (h : s.Sound P) (change : NodeChange) :
    (s.changeNode change).Sound P := by
  cases change with
  | write node => exact h
  | delete id =>
    change (s.deleteNode id).Sound P
    unfold TaskStore.deleteNode
    split
    · exact fun row hrow => h row (KeyedTable.mem_deleteWhere.mp hrow).1
    · exact h

/-- In every run of the administration the tasks stay valid. -/
theorem tasks_sound {s : TaskStore} (h : s.Sound P) (events : List TaskEvent) :
    (run (TaskSystem.step P) { shared := s } events).shared.Sound P :=
  Pool.run_allowed (fun fate _ _ hcall hs => hs.answerTaskCall hcall fate)
    TaskRequest.asks_handler (fun change _ hs => hs.changeNode change) h events

/-- Services that know no URL. -/
def plainTaskServices : TaskServices where
  parseInt text := if text = "1" then some 1 else none
  toLower := id
  parseURL _ := none

/-- The start of a server, and a request that adjusts the second carrier probe. -/
def carrierEvents : List TaskEvent :=
  .start 0 .start :: .start 1 (.saveCarrier "unicom"
    (.ok { type := .icmp, target := " 1.1.1.1 ", intervalSeconds := 60, timeoutSeconds := 2,
           runOn := .monitor })) ::
    List.replicate 4 (.proceed 0 (.works {})) ++ List.replicate 3 (.proceed 1 (.works {}))

theorem tasks_sound_carrierEvents :
    (run (TaskSystem.step plainTaskServices) { shared := {} } carrierEvents).shared.Sound
      plainTaskServices :=
  tasks_sound TaskStore.sound_empty carrierEvents

example :
    (run (TaskSystem.step plainTaskServices) { shared := {} } carrierEvents).shared.tasks.table.rows.map
        (fun task => (task.id, task.purpose, task.target, task.samples)) =
      [(1, .carrierTelecom, "gd-ct-dualstack.ip.zstaticcdn.com:443", 4),
        (3, .carrierMobile, "gd-cm-dualstack.ip.zstaticcdn.com:443", 4),
        (2, .carrierUnicom, "1.1.1.1", 1)] := by
  decide +kernel

end Sound

/-! ## Agents -/

section Agents

variable {P : TaskServices}

/-- A valid task is read as it is stored. -/
lemma scanProbeTask_of_valid {task : ProbeTask} (h : task.Valid P) (hsamples : 1 ≤ task.samples) :
    scanProbeTask task = task := by
  rw [scanProbeTask, if_neg h.form.purpose_ne_unset, if_neg (by omega),
    h.form.normalizeNodeRole_runOn]

/-- The tasks that a node is given are valid. -/
lemma TaskStore.Sound.valid_of_listed {s : TaskStore} (h : s.Sound P) {node : Node}
    {task : ProbeTask} (htask : task ∈ listProbeTasks s.tasks.toProbeTaskTable node) :
    task.Valid P ∧ 1 ≤ task.samples := by
  obtain ⟨row, hrow, rfl⟩ := List.mem_map.mp (List.mem_of_mem_filter htask)
  obtain ⟨hvalid, hsamples⟩ := h row (KeyedTable.mem_selectOrdered.mp hrow).1
  rw [scanProbeTask_of_valid hvalid hsamples]
  exact ⟨hvalid, hsamples⟩

/-- The tasks that were taken over last come from a list that was taken over. -/
lemma exists_sync_of_mem_lastSynced {events : List ProbeEvent} {task : ProbeTask}
    (h : task ∈ ProbeScheduler.lastSynced events) :
    ∃ tasks clock, .sync tasks clock ∈ events ∧ task ∈ tasks := by
  induction events using List.reverseRecOn with
  | nil => cases h
  | append_singleton events event ih =>
    rw [ProbeScheduler.lastSynced, run_append, run_cons, run_nil] at h
    cases event with
    | sync tasks clock => exact ⟨tasks, clock, List.mem_append_right _ List.mem_cons_self, h⟩
    | setConcurrency _ | tick _ _ | report _ _ | complete _ | collect _ =>
      obtain ⟨tasks, clock, hmem, htask⟩ := ih h
      exact ⟨tasks, clock, List.mem_append_left _ hmem, htask⟩

/-- A list of tasks that the server gave to a node at some point of a run. -/
def ListedSometime (P : TaskServices) (tasks : List ProbeTask) : Prop :=
  ∃ (start : TaskStore) (events : List TaskEvent) (node : Node), start.Sound P ∧
    tasks = listProbeTasks
      (run (TaskSystem.step P) { shared := start } events).shared.tasks.toProbeTaskTable node

/-- An agent that takes its tasks from the server can always say when it runs a task next, as long
as its clock does not stand before the zero instant. -/
theorem listed_representable {events : List ProbeEvent}
    (hsync : ∀ tasks clock, .sync tasks clock ∈ events → ListedSometime P tasks)
    (htick : ∀ now order, .tick now order ∈ events → 0 ≤ now) :
    Along ProbeScheduler.step ProbeScheduler.Representable {} events := by
  refine along_iff_split.mpr fun before event rest hsplit => ?_
  cases event with
  | setConcurrency _ | sync _ _ | report _ _ | complete _ | collect _ => trivial
  | tick now order =>
    intro task htask _ _
    have hbefore : ∀ e ∈ before, e ∈ events := fun e he => hsplit ▸ List.mem_append_left _ he
    obtain ⟨tasks, clock, hmem, hlisted⟩ :=
      exists_sync_of_mem_lastSynced (ProbeScheduler.mem_lastSynced htask).1
    obtain ⟨start, requests, node, hstart, rfl⟩ := hsync tasks clock (hbefore _ hmem)
    have hvalid := ((tasks_sound hstart requests).valid_of_listed hlisted).1
    have hinterval := (bounded_of_validateProbeTask hvalid.checked).interval
    have hnow : 0 ≤ now := htick now order (hsplit ▸ List.mem_append_right _ List.mem_cons_self)
    refine ⟨hinterval.2.trans (by decide), ?_⟩
    have hpos : 0 < max task.intervalSeconds 5 * second :=
      mul_pos (lt_max_of_lt_right (by decide)) (by decide)
    exact (add_pos_of_nonneg_of_pos hnow hpos).ne'

/-- An agent that takes tasks over and runs them a second later. -/
def firstTick (tasks : List ProbeTask) : List ProbeEvent :=
  [.sync tasks fun _ => unixEpoch, .tick (unixEpoch + second) []]

theorem listed_representable_carrierAgent :
    Along ProbeScheduler.step ProbeScheduler.Representable {}
      (firstTick (listProbeTasks (run (TaskSystem.step plainTaskServices) { shared := {} }
        carrierEvents).shared.tasks.toProbeTaskTable {})) := by
  refine listed_representable (P := plainTaskServices) ?_ ?_
  · intro tasks clock hmem
    simp only [firstTick, List.mem_cons, List.not_mem_nil, or_false, reduceCtorEq] at hmem
    cases hmem
    exact ⟨{}, carrierEvents, {}, TaskStore.sound_empty, rfl⟩
  · intro now order hmem
    simp only [firstTick, List.mem_cons, List.not_mem_nil, or_false, reduceCtorEq,
      false_or] at hmem
    cases hmem
    decide

end Agents

end Hostpin
