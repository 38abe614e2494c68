import Hostpin.Foundation.Interleaving
import Hostpin.Foundation.NetIP
import Hostpin.Httpapi.Notifications
import Hostpin.Httpapi.Public

/-!
# The administration of probe tasks

One table holds three kinds of tasks: the probes of the administrator, the carrier probes, which are
created on demand and can only be adjusted, and the measurements of the latency to a node.  Each kind
has handlers of its own.  A handler checks the request, lists the tasks or reads nodes, and writes at
last; other requests come in between, and each call of the store can fail.

`TaskStore` is what the store holds, with the constraints of the schema as fields of `TaskTable`.
`TaskStore.answer` says what a call does, and the handlers are procedures of such calls.
-/

namespace Hostpin

open Clock NetIP Procedure Text

/-! ## The table -/

/-- Two tasks that cannot both be stored: tasks of one carrier, or measurements of one target. -/
def ProbeTask.clashes (task other : ProbeTask) : Bool :=
  task.id != other.id && task.purpose == other.purpose &&
    (task.purpose.isCarrier ||
      (task.purpose == .latency && task.targetNodeID == other.targetNodeID))

/-- Of two tasks that clash each clashes with the other. -/
lemma ProbeTask.clashes_comm (task other : ProbeTask) : task.clashes other = other.clashes task := by
  unfold clashes
  by_cases hpurpose : task.purpose = other.purpose
  · rw [hpurpose, bne_comm, BEq.comm (a := task.targetNodeID)]
  · rw [beq_eq_false_iff_ne.mpr hpurpose, beq_eq_false_iff_ne.mpr (Ne.symm hpurpose)]
    simp

/-- A task does not clash with itself. -/
lemma ProbeTask.clashes_self (task : ProbeTask) : task.clashes task = false := by
  simp [clashes]

/-- The tasks with the constraints of the schema, and the greatest number that was given so far. -/
structure TaskTable extends ProbeTaskTable where
  noClash : ∀ t ∈ table, ∀ u ∈ table, t.clashes u = false := by simp
  lastID : ℤ := 0
  lastID_nonneg : 0 ≤ lastID := by simp
  id_le : ∀ t ∈ table, t.id ≤ lastID := by simp

/-- The table with a row that clashes with no other one. -/
def TaskTable.put (tasks : TaskTable) (row : ProbeTask) (hpos : 0 < row.id)
    (hclash : ∀ other ∈ tasks.table, row.clashes other = false) : TaskTable where
  table := tasks.table.upsert row
  lastID := max tasks.lastID row.id
  id_pos task htask := by
    rcases KeyedTable.mem_upsert.mp htask with rfl | ⟨hmem, -⟩
    · exact hpos
    · exact tasks.id_pos task hmem
  noClash t ht u hu := by
    rcases KeyedTable.mem_upsert.mp ht with htr | ⟨ht, -⟩ <;>
      rcases KeyedTable.mem_upsert.mp hu with hur | ⟨hu, -⟩
    · rw [htr, hur, row.clashes_self]
    · rw [htr, hclash u hu]
    · rw [hur, t.clashes_comm, hclash t ht]
    · exact tasks.noClash t ht u hu
  lastID_nonneg := le_max_of_le_left tasks.lastID_nonneg
  id_le t ht := by
    rcases KeyedTable.mem_upsert.mp ht with rfl | ⟨hmem, -⟩
    · exact le_max_right _ _
    · exact (tasks.id_le t hmem).trans (le_max_left _ _)

/-- The table without some rows.  Their numbers are not given again. -/
def TaskTable.remove (tasks : TaskTable) (p : ProbeTask → Bool) : TaskTable where
  table := tasks.table.deleteWhere p
  lastID := tasks.lastID
  id_pos task htask := tasks.id_pos task (KeyedTable.mem_deleteWhere.mp htask).1
  noClash t ht u hu :=
    tasks.noClash t (KeyedTable.mem_deleteWhere.mp ht).1 u (KeyedTable.mem_deleteWhere.mp hu).1
  lastID_nonneg := tasks.lastID_nonneg
  id_le t ht := tasks.id_le t (KeyedTable.mem_deleteWhere.mp ht).1

/-- The table after some numbers were given and lost. -/
def TaskTable.skip (tasks : TaskTable) (count : ℕ) : TaskTable :=
  { tasks with
    lastID := tasks.lastID + count
    lastID_nonneg := add_nonneg tasks.lastID_nonneg (Int.natCast_nonneg count)
    id_le := fun t ht => (tasks.id_le t ht).trans (Int.le_add_of_nonneg_right count.cast_nonneg) }

/-! ## Calls of the store -/

/-- The calls that the handlers make. -/
inductive TaskCall where
  | listAllProbeTasks
  | getNode (id : String)
  | saveProbeTask (task : ProbeTask)
  | deleteProbeTask (id : ℤ)

/-- What a call answers with. -/
@[reducible] def TaskCall.Answer : TaskCall → Type
  | .listAllProbeTasks => Except StoreError (List ProbeTask)
  | .getNode _ => Except StoreError NodeRow
  | .saveProbeTask _ => Except StoreError ProbeTask
  | .deleteProbeTask _ => Except StoreError Unit

/-- What the handlers share. -/
structure TaskStore where
  nodes : NodeTable := KeyedTable.empty
  tasks : TaskTable := {}

/-- The time of a call, and how many numbers of tasks were lost since the last one was given. -/
structure CallTime where
  clock : Time := unixEpoch
  skipped : ℕ := 0

/-- What becomes of a call: it works, it fails, or it works and its answer is an error all the
same. -/
inductive CallFate where
  | works (time : CallTime)
  | fails (e : StoreError)
  | worksUnheard (time : CallTime) (e : StoreError)

/-- A time as it is stored. -/
def storedClock (clock : Time) : Time := ofUnixMilli (unixMilli clock)

/-- A task with the defaults of the store. -/
def ProbeTask.withDefaults (task : ProbeTask) : ProbeTask :=
  let interval := if task.intervalSeconds < 5 then 60 else task.intervalSeconds
  { task with
    intervalSeconds := interval
    timeoutSeconds :=
      if task.timeoutSeconds ≤ 0 ∨ interval < task.timeoutSeconds then 5 else task.timeoutSeconds
    purpose := if task.purpose = .unset then .custom else task.purpose
    runOn := normalizeNodeRole task.runOn
    samples := if task.samples ≤ 0 then 1 else task.samples }

/-- A constraint of the schema is violated. -/
def constraintFailed : StoreError := .failure "UNIQUE constraint failed"

/-- Insert a task under a new number, or write all columns of the task with a number but for the
time of its creation. -/
def TaskTable.saveProbeTask (tasks : TaskTable) (time : CallTime) (task : ProbeTask) :
    Except StoreError ProbeTask × TaskTable :=
  let task := task.withDefaults
  let stamp := storedClock time.clock
  if task.id = 0 then
    let id := tasks.lastID + 1 + time.skipped
    let row : ProbeTask := { task with id, createdAt := stamp, updatedAt := stamp }
    if h : 0 < row.id ∧ ∀ other ∈ tasks.table.rows, row.clashes other = false then
      (.ok { task with id, createdAt := time.clock, updatedAt := time.clock },
        tasks.put row h.1 h.2)
    else (.error constraintFailed, tasks.skip time.skipped)
  else
    match tasks.table.lookup task.id with
    | none => (.error .notFound, tasks)
    | some old =>
      let row : ProbeTask := { task with createdAt := old.createdAt, updatedAt := stamp }
      if h : 0 < row.id ∧ ∀ other ∈ tasks.table.rows, row.clashes other = false then
        (.ok { task with updatedAt := time.clock }, tasks.put row h.1 h.2)
      else (.error constraintFailed, tasks)

/-- Delete the task with a number. -/
def TaskTable.deleteProbeTask (tasks : TaskTable) (id : ℤ) : Except StoreError Unit × TaskTable :=
  if (tasks.table.lookup id).isSome then (.ok (), tasks.remove fun task => task.id = id)
  else (.error .notFound, tasks)

/-- All tasks, in the order of their numbers. -/
def TaskTable.listAllProbeTasks (tasks : TaskTable) : List ProbeTask :=
  (tasks.table.selectOrdered (fun _ => true) ProbeTask.id).map scanProbeTask

/-- What a call that reaches the store answers, and what it leaves. -/
def TaskStore.answer (s : TaskStore) (time : CallTime) :
    (call : TaskCall) → call.Answer × TaskStore
  | .listAllProbeTasks => (.ok s.tasks.listAllProbeTasks, s)
  | .getNode id => (found (s.nodes.getNode id), s)
  | .saveProbeTask task =>
    let (answer, tasks) := s.tasks.saveProbeTask time task
    (answer, { s with tasks })
  | .deleteProbeTask id =>
    let (answer, tasks) := s.tasks.deleteProbeTask id
    (answer, { s with tasks })

/-- The answer of a call that fails. -/
def TaskCall.failed (e : StoreError) : (call : TaskCall) → call.Answer
  | .listAllProbeTasks | .getNode _ | .saveProbeTask _ | .deleteProbeTask _ => .error e

/-- What a call answers and leaves under a fate. -/
def answerTaskCall : CallFate → Handler TaskCall TaskCall.Answer TaskStore
  | .works time, call, s => s.answer time call
  | .fails e, call, s => (call.failed e, s)
  | .worksUnheard time e, call, s => (call.failed e, (s.answer time call).2)

/-- Delete a node together with the measurements of the latency to it. -/
def TaskStore.deleteNode (s : TaskStore) (id : String) : TaskStore :=
  if (s.nodes.lookup id).isSome then
    { nodes := s.nodes.deleteWhere fun node => node.id = id
      tasks := s.tasks.remove fun task => task.purpose == .latency && task.targetNodeID == id }
  else s

/-! ## Requests -/

/-- Functions of packages that the handlers use. -/
structure TaskServices where
  parseInt : String → Option ℤ
  toLower : String → String
  parseURL : String → Option ParsedURL

/-- The positive integer that a text says. -/
def TaskServices.parsePositiveID (P : TaskServices) (raw : String) : Option ℤ :=
  (P.parseInt raw).filter (0 < ·)

/-- An answer that refuses a request. -/
structure TaskRefusal where
  status : ℕ
  code : String
  message : String

/-- What a handler answers with. -/
inductive TaskResponse where
  | refused (refusal : TaskRefusal)
  | saved (status : ℕ) (task : ProbeTask)
  | probes (tasks : List ProbeTask)
  | carriers (tasks : List ProbeTask)
  | noContent

/-- A handler in its course. -/
abbrev TaskHandler (α : Type) := Procedure TaskCall TaskCall.Answer α

/-- Make a call. -/
def taskCall (call : TaskCall) : TaskHandler call.Answer := perform call

/-- Refuse a request. -/
def refuse (status : ℕ) (code message : String) : TaskHandler TaskResponse :=
  return .refused ⟨status, code, message⟩

/-- A request that saves a task: the number in its path, if there is one, and the task that its body
says, or why the body cannot be read. -/
structure SaveTask where
  pathID : String := ""
  body : Except String ProbeTask

/-- Check a task. -/
@[irreducible] def validateProbeTask (P : TaskServices) (task : ProbeTask) : Except String Unit :=
  if trimSpace task.name = "" ∨ 128 < task.name.utf8ByteSize then .error "probe name is required"
  else if trimSpace task.target = "" ∨ 2048 < task.target.utf8ByteSize then
    .error "probe target is required"
  else if task.intervalSeconds < 5 ∨ 24 * 60 * 60 < task.intervalSeconds ∨ task.timeoutSeconds < 1 ∨
      60 < task.timeoutSeconds ∨ task.intervalSeconds < task.timeoutSeconds then
    .error ("probe interval must be 5 to 86400 seconds and timeout must be 1 to 60 seconds " ++
      "without exceeding the interval")
  else if 2048 < task.expectedValue.utf8ByteSize ∨ 1000 < task.nodeIDs.length then
    .error "probe expectation or node assignment is too large"
  else if task.samples ≠ 0 ∧ (task.samples < 1 ∨ 10 < task.samples) then
    .error "probe samples must be between 1 and 10"
  else
    match task.type with
    | .icmp | .dns =>
      if (trimSpace task.target).toList.any (" /\\".toList.contains ·) then
        .error "ICMP and DNS targets must be host names or addresses"
      else .ok ()
    | .tcp =>
      if (splitHostPort task.target).isNone then .error "TCP target must use host:port" else .ok ()
    | .http =>
      match P.parseURL task.target with
      | none => .error "HTTP target must be an absolute HTTP(S) URL"
      | some parsed =>
        if parsed.host = "" ∨ (parsed.scheme ≠ "http" ∧ parsed.scheme ≠ "https") then
          .error "HTTP target must be an absolute HTTP(S) URL"
        else if task.expectedStatus ≠ 0 ∧ (task.expectedStatus < 100 ∨ 599 < task.expectedStatus) then
          .error "expected HTTP status must be 100 to 599"
        else .ok ()
    | .other _ _ => .error "probe type must be icmp, tcp, http, or dns"

/-! ## Probes of the administrator -/

/-- List the probes. -/
def handleAdminProbeTasks : TaskHandler TaskResponse := do
  match ← taskCall .listAllProbeTasks with
  | .error _ => refuse 500 "store_error" "could not list probe tasks"
  | .ok tasks => return .probes (probeTasksByPurpose tasks .custom)

/-- Whether some ids are those of monitors. -/
def allMonitors : List String → TaskHandler Bool
  | [] => return true
  | id :: ids => do
    match ← taskCall (.getNode id) with
    | .error _ => return false
    | .ok node => if node.role = .monitor then allMonitors ids else return false

/-- A task as a probe of the administrator. -/
def ProbeTask.asCustom (task : ProbeTask) : ProbeTask :=
  { task with
    purpose := .custom
    runOn := .monitor
    targetNodeID := ""
    isPublic := false
    samples := 1
    name := trimSpace task.name
    target := trimSpace task.target
    nodeIDs := (task.nodeIDs.insertionSort (· ≤ ·)).destutter (· ≠ ·) }

/-- Save a probe, once it is clear which one is meant. -/
def saveCustomTask (P : TaskServices) (task : ProbeTask) : TaskHandler TaskResponse := do
  let task := task.asCustom
  match validateProbeTask P task with
  | .error message => refuse 400 "invalid_probe" message
  | .ok () =>
    if ← allMonitors task.nodeIDs then
      match ← taskCall (.saveProbeTask task) with
      | .error .notFound => refuse 404 "probe_not_found" "probe task was not found"
      | .error _ => refuse 500 "store_error" "could not save probe task"
      | .ok saved => return .saved (if task.id = 0 then 201 else 200) saved
    else refuse 400 "invalid_probe_node" "probe assignment contains an unknown node"

/-- Save a probe.  When the tasks cannot be listed, the request goes on as if there were none. -/
def handleAdminSaveProbeTask (P : TaskServices) (request : SaveTask) : TaskHandler TaskResponse := do
  match request.body with
  | .error message => refuse 400 "invalid_request" message
  | .ok task =>
    if request.pathID = "" then saveCustomTask P task
    else
      match P.parsePositiveID request.pathID with
      | none => refuse 400 "invalid_id" "invalid probe task id"
      | some id =>
        let all ← taskCall .listAllProbeTasks
        if (all.toOption.getD []).any fun existing =>
            existing.id = id ∧ existing.purpose ≠ .custom then
          refuse 404 "probe_not_found" "probe task was not found"
        else saveCustomTask P { task with id }

/-- Delete a probe, whatever it is for. -/
def handleAdminDeleteProbeTask (P : TaskServices) (pathID : String) :
    TaskHandler TaskResponse := do
  match P.parsePositiveID pathID with
  | none => refuse 400 "invalid_id" "invalid probe task id"
  | some id =>
    match ← taskCall (.deleteProbeTask id) with
    | .error .notFound => refuse 404 "probe_not_found" "probe task was not found"
    | .error _ => refuse 500 "store_error" "could not delete probe task"
    | .ok () => return .noContent

/-! ## Carrier probes -/

/-- A carrier, and how it is probed at first. -/
structure CarrierDefinition where
  key : String
  purpose : ProbePurpose
  name : String
  target : String
deriving DecidableEq

/-- The carriers. -/
def carrierDefinitions : List CarrierDefinition :=
  [⟨"telecom", .carrierTelecom, "China Telecom", "gd-ct-dualstack.ip.zstaticcdn.com:443"⟩,
    ⟨"unicom", .carrierUnicom, "China Unicom", "gd-cu-dualstack.ip.zstaticcdn.com:443"⟩,
    ⟨"mobile", .carrierMobile, "China Mobile", "gd-cm-dualstack.ip.zstaticcdn.com:443"⟩]

/-- The first probe of a carrier. -/
def CarrierDefinition.task (definition : CarrierDefinition) : ProbeTask where
  name := definition.name
  type := .tcp
  target := definition.target
  intervalSeconds := 120
  timeoutSeconds := 3
  purpose := definition.purpose
  runOn := .monitor
  isPublic := true
  samples := 4
  enabled := true

/-- Store the first probes of some carriers. -/
def saveCarrierTasks : List CarrierDefinition → TaskHandler (Except StoreError Unit)
  | [] => return .ok ()
  | definition :: definitions => do
    match ← taskCall (.saveProbeTask definition.task) with
    | .error e => return .error e
    | .ok _ => saveCarrierTasks definitions

/-- Create the probes of the carriers that have none. -/
def ensureCarrierProbeTasks : TaskHandler (Except StoreError Unit) := do
  match ← taskCall .listAllProbeTasks with
  | .error e => return .error e
  | .ok tasks =>
    saveCarrierTasks (carrierDefinitions.filter fun definition =>
      tasks.all fun task => task.purpose ≠ definition.purpose)

/-- List the carrier probes. -/
def handleAdminCarrierProbes : TaskHandler TaskResponse := do
  match ← ensureCarrierProbeTasks with
  | .error _ => refuse 500 "store_error" "could not initialize carrier probes"
  | .ok () =>
    match ← taskCall .listAllProbeTasks with
    | .error _ => refuse 500 "store_error" "could not list carrier probes"
    | .ok tasks => return .carriers (carrierProbeTasks tasks)

/-- An adjusted carrier probe: only how and what it measures is taken from the request. -/
def ProbeTask.asCarrier (update : ProbeTask) (definition : CarrierDefinition) (current : ProbeTask) :
    ProbeTask :=
  { update with
    id := current.id
    name := definition.name
    purpose := definition.purpose
    target := trimSpace update.target
    runOn := .monitor
    nodeIDs := []
    targetNodeID := ""
    expectedStatus := 0
    expectedValue := ""
    isPublic := true }

/-- Adjust a carrier probe. -/
def handleAdminSaveCarrierProbe (P : TaskServices) (carrier : String)
    (body : Except String ProbeTask) : TaskHandler TaskResponse := do
  match carrierDefinitions.find? (·.key = P.toLower (trimSpace carrier)) with
  | none => refuse 404 "carrier_not_found" "carrier must be telecom, unicom, or mobile"
  | some definition =>
    match ← ensureCarrierProbeTasks with
    | .error _ => refuse 500 "store_error" "could not initialize carrier probes"
    | .ok () =>
      match ← taskCall .listAllProbeTasks with
      | .error _ => refuse 500 "store_error" "could not read carrier probe"
      | .ok all =>
        match (all.find? (·.purpose = definition.purpose)).filter (·.id ≠ 0) with
        | none => refuse 404 "carrier_not_found" "carrier probe was not found"
        | some current =>
          match body with
          | .error message => refuse 400 "invalid_request" message
          | .ok update =>
            let update := update.asCarrier definition current
            if update.type ≠ .icmp ∧ update.type ≠ .tcp then
              refuse 400 "invalid_carrier_probe" "carrier probes must use ICMP or TCP"
            else
              match validateProbeTask P update with
              | .error message => refuse 400 "invalid_carrier_probe" message
              | .ok () =>
                match ← taskCall (.saveProbeTask update) with
                | .error .notFound => refuse 404 "carrier_not_found" "carrier probe was not found"
                | .error _ => refuse 500 "store_error" "could not save carrier probe"
                | .ok saved => return .saved 200 saved

/-! ## Latency targets -/

/-- A task as a measurement of the latency to a node. -/
def ProbeTask.asLatency (task : ProbeTask) : ProbeTask :=
  { task with
    name := trimSpace task.name
    target := trimSpace task.target
    purpose := .latency
    runOn := .probe
    nodeIDs := []
    expectedStatus := 0
    expectedValue := ""
    samples := if task.samples ≤ 0 then 3 else task.samples }

/-- Another task that measures the latency to the same node. -/
def ProbeTask.rivals (existing task : ProbeTask) : Bool :=
  existing.purpose == .latency && existing.targetNodeID == task.targetNodeID &&
    existing.id != task.id

/-- Why a latency target cannot be saved next to the tasks there are.  The tasks are looked at in
order, and the first obstacle decides.  The argument before the tasks says whether the target that
is changed was found. -/
def latencyConflict (task : ProbeTask) : Bool → List ProbeTask → Option TaskRefusal
  | updateFound, [] =>
    if updateFound then none
    else some ⟨404, "latency_target_not_found", "latency target was not found"⟩
  | updateFound, existing :: rest =>
    if existing.rivals task then
      some ⟨409, "latency_target_exists", "this monitored server already has a latency target"⟩
    else if task.id ≠ 0 ∧ existing.id = task.id then
      if existing.purpose ≠ .latency then
        some ⟨404, "latency_target_not_found", "latency target was not found"⟩
      else latencyConflict task true rest
    else latencyConflict task updateFound rest

/-- Store a latency target that has been checked. -/
def storeLatencyTask (task : ProbeTask) : TaskHandler TaskResponse := do
  match ← taskCall .listAllProbeTasks with
  | .error _ => refuse 500 "store_error" "could not inspect latency targets"
  | .ok all =>
    match latencyConflict task (task.id = 0) all with
    | some refusal => return .refused refusal
    | none =>
      match ← taskCall (.saveProbeTask task) with
      | .ok saved => return .saved (if task.id = 0 then 201 else 200) saved
      | .error _ =>
        let current ← taskCall .listAllProbeTasks
        if (current.toOption.getD []).any (·.rivals task) then
          refuse 409 "latency_target_exists" "this monitored server already has a latency target"
        else refuse 500 "store_error" "could not save latency target"

/-- Save a latency target, once it is clear which one is meant. -/
def saveLatencyTask (P : TaskServices) (task : ProbeTask) : TaskHandler TaskResponse := do
  let task := task.asLatency
  if task.type ≠ .icmp ∧ task.type ≠ .tcp then
    refuse 400 "invalid_latency_target" "latency targets must use ICMP or TCP"
  else
    match ← taskCall (.getNode task.targetNodeID) with
    | .error _ => refuse 400 "invalid_target_node" "target_node_id must identify a monitored server"
    | .ok target =>
      if target.role ≠ .monitor then
        refuse 400 "invalid_target_node" "target_node_id must identify a monitored server"
      else
        let task := { task with name := if task.name = "" then target.name else task.name }
        match validateProbeTask P task with
        | .error message => refuse 400 "invalid_latency_target" message
        | .ok () => storeLatencyTask task

/-- Save a latency target. -/
def handleAdminSaveLatencyTarget (P : TaskServices) (request : SaveTask) :
    TaskHandler TaskResponse :=
  match request.body with
  | .error message => refuse 400 "invalid_request" message
  | .ok task =>
    if request.pathID = "" then saveLatencyTask P task
    else
      match P.parsePositiveID request.pathID with
      | none => refuse 400 "invalid_id" "invalid latency target id"
      | some id => saveLatencyTask P { task with id }

/-- Delete a latency target. -/
def handleAdminDeleteLatencyTarget (P : TaskServices) (pathID : String) :
    TaskHandler TaskResponse := do
  match P.parsePositiveID pathID with
  | none => refuse 400 "invalid_id" "invalid latency target id"
  | some id =>
    match ← taskCall .listAllProbeTasks with
    | .error _ => refuse 500 "store_error" "could not inspect latency targets"
    | .ok all =>
      if all.any fun task => task.id = id ∧ task.purpose = .latency then
        match ← taskCall (.deleteProbeTask id) with
        | .error _ => refuse 500 "store_error" "could not delete latency target"
        | .ok () => return .noContent
      else refuse 404 "latency_target_not_found" "latency target was not found"

/-! ## The system -/

/-- A request about probe tasks.  The first carrier probes are also created when the server
starts. -/
inductive TaskRequest where
  | listProbes
  | saveProbe (request : SaveTask)
  | deleteProbe (pathID : String)
  | start
  | listCarriers
  | saveCarrier (carrier : String) (body : Except String ProbeTask)
  | saveLatency (request : SaveTask)
  | deleteLatency (pathID : String)

/-- The handler of a request. -/
def TaskRequest.handler (P : TaskServices) : TaskRequest → TaskHandler TaskResponse
  | .listProbes => handleAdminProbeTasks
  | .saveProbe request => handleAdminSaveProbeTask P request
  | .deleteProbe pathID => handleAdminDeleteProbeTask P pathID
  | .start => do
    let _ ← ensureCarrierProbeTasks
    return .noContent
  | .listCarriers => handleAdminCarrierProbes
  | .saveCarrier carrier body => handleAdminSaveCarrierProbe P carrier body
  | .saveLatency request => handleAdminSaveLatencyTarget P request
  | .deleteLatency pathID => handleAdminDeleteLatencyTarget P pathID

/-- What else changes the store: a node is written or deleted. -/
inductive NodeChange where
  | write (node : NodeRow)
  | delete (id : String)

/-- The store after a change of the nodes. -/
def TaskStore.changeNode (change : NodeChange) (s : TaskStore) : TaskStore :=
  match change with
  | .write node => { s with nodes := s.nodes.upsert node }
  | .delete id => s.deleteNode id

/-- The requests in flight and the store. -/
abbrev TaskSystem := Pool TaskCall TaskCall.Answer TaskResponse TaskStore

/-- What happens: a request starts, makes its next call, or a node changes. -/
abbrev TaskEvent := PoolEvent TaskRequest CallFate NodeChange

/-- The system after an event. -/
def TaskSystem.step (P : TaskServices) : TaskSystem → TaskEvent → TaskSystem :=
  Pool.step answerTaskCall (TaskRequest.handler P) TaskStore.changeNode

end Hostpin
