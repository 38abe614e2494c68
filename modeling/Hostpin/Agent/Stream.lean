import Hostpin.Agent.Wire
import Hostpin.Foundation.KeyedTable

/-!
# The server side of an agent

An agent reports over a stream or over HTTP.  This file models what the server does with a frame
(`StreamSession.handleFrame`) and with a report (`handleAgentReport`), and which probe tasks it
lists for a node (`listProbeTasks`).  The clock readings and the answers of the store are arguments.
-/

namespace Hostpin

open Clock

/-! ## Probe tasks -/

/-- The table of probe tasks; the database numbers its rows from one. -/
structure ProbeTaskTable where
  table : KeyedTable ProbeTask.id := KeyedTable.empty
  id_pos : ∀ task ∈ table, 0 < task.id := by simp

/-- A task as it is read: missing values have defaults. -/
def scanProbeTask (row : ProbeTask) : ProbeTask :=
  { row with
    purpose := if row.purpose = .unset then .custom else row.purpose
    runOn := normalizeNodeRole row.runOn
    samples := if row.samples ≤ 0 then 1 else row.samples }

/-- A task is one for a node: it runs on nodes of its role, or measures latency on a node that may
do so, and it names the node or no node at all. -/
def ProbeTask.assigned (task : ProbeTask) (node : Node) : Bool :=
  (task.runOn == node.role || (task.purpose == .latency && node.canMeasureLatency)) &&
    (task.nodeIDs.isEmpty || task.nodeIDs.contains node.id)

/-- The enabled tasks of a node, in the order of their numbers. -/
def listProbeTasks (tasks : ProbeTaskTable) (node : Node) : List ProbeTask :=
  ((tasks.table.selectOrdered ProbeTask.enabled ProbeTask.id).map scanProbeTask).filter
    (ProbeTask.assigned · node)

/-- The listed tasks have distinct numbers. -/
lemma nodup_listProbeTasks (tasks : ProbeTaskTable) (node : Node) :
    ((listProbeTasks tasks node).map ProbeTask.id).Nodup := by
  have hordered : (tasks.table.selectOrdered ProbeTask.enabled ProbeTask.id).Pairwise
      fun task task' => task.id < task'.id :=
    KeyedTable.pairwise_lt_selectOrdered fun _ _ _ _ h => h
  refine (List.filter_sublist.map _).nodup ?_
  rw [List.map_map]
  exact (List.pairwise_map.mpr hordered).imp ne_of_lt

/-- The listed tasks are enabled and have a positive number. -/
lemma enabled_of_mem_listProbeTasks {tasks : ProbeTaskTable} {node : Node} {task : ProbeTask}
    (h : task ∈ listProbeTasks tasks node) : task.enabled = true ∧ 0 < task.id := by
  obtain ⟨hmem, -⟩ := List.mem_filter.mp h
  obtain ⟨row, hrow, rfl⟩ := List.mem_map.mp hmem
  obtain ⟨hrow, henabled⟩ := KeyedTable.mem_selectOrdered.mp hrow
  exact ⟨henabled, tasks.id_pos row hrow⟩

/-- A node with a task that pings a host. -/
def pingedNode : Node := { id := "n1", role := .monitor }

/-- The task that pings a host. -/
def pingTask : ProbeTask :=
  { id := 1, name := "ping", type := .icmp, target := "example.org", intervalSeconds := 60,
    timeoutSeconds := 5, purpose := .custom, runOn := .monitor, samples := 1, enabled := true }

/-- The table with the task that pings a host. -/
def pingTable : ProbeTaskTable where
  table := ⟨[pingTask], List.nodup_singleton _⟩
  id_pos := by
    intro task htask
    rw [List.mem_singleton.mp htask]
    decide

/-- A list of tasks has an enabled task with a number. -/
def probeTaskAllowed (tasks : List ProbeTask) (taskID : ℤ) : Bool :=
  tasks.any fun task => task.id == taskID && task.enabled

/-- The result as the server stores it. -/
def stampProbe (node : Node) (now : Time) (result : ProbeResult) : ProbeResult :=
  { result with nodeID := node.id, receivedAt := now }

/-! ## Reports -/

/-- The time of a report and the answers of the store to it. -/
structure ReportCalls where
  now : Time
  persisted : Bool := false
  tasks : Option (List ProbeTask) := none

/-- Answer a report: the ack and the accepted results. -/
def handleAgentReport (node : Node) (cfg : AgentConfig) (report : AgentReport)
    (calls : ReportCalls) : Except ApiError (AgentAck × List ProbeResult) :=
  if node.role = .monitor && report.sample.isNone then
    .error ⟨400, "sample_required", "monitoring nodes must include a metric sample"⟩
  else
    let accepted := (report.probeResults.filter fun result =>
      probeTaskAllowed (calls.tasks.getD []) result.taskID).map (stampProbe node calls.now)
    .ok ({ type := .ack, accepted := true, persisted := node.role = .monitor && calls.persisted,
           serverTime := calls.now, nextReportMS := cfg.collectIntervalSeconds * 1000,
           config := cfg, tasks := calls.tasks }, accepted)

/-! ## Streams -/

/-- What the server remembers during a stream. -/
structure StreamSession where
  node : Node
  cfg : AgentConfig
  tasks : List ProbeTask
  lastConfigRefresh : Time
  identity : AgentIdentity := {}
  lastSeenUpdate : Time := 0

/-- The time of a frame and the answers of the store to it. -/
structure StreamCalls where
  now : Time
  node : Option Node := none
  config : Option AgentConfig := none
  tasks : Option (List ProbeTask) := none
  persisted : Bool := false

/-- Open a stream: the session and the first ack. -/
def openStream (node : Node) (cfg : AgentConfig) (tasks : Option (List ProbeTask))
    (refreshedAt serverTime : Time) : StreamSession × AgentAck :=
  ({ node, cfg, tasks := tasks.getD [], lastConfigRefresh := refreshedAt },
   { type := .hello, accepted := true, serverTime, config := cfg, tasks,
     nextReportMS := cfg.collectIntervalSeconds * 1000 })

/-- Fifteen seconds after the last time the server reads the node, its configuration and its tasks
again; the tasks are returned when they were read. -/
def StreamSession.refresh (s : StreamSession) (calls : StreamCalls) :
    StreamSession × Option (List ProbeTask) :=
  if 15 * second ≤ sub calls.now s.lastConfigRefresh then
    ({ s with
       lastConfigRefresh := calls.now
       node := calls.node.getD s.node
       cfg := calls.config.getD s.cfg
       tasks := calls.tasks.getD s.tasks }, calls.tasks)
  else (s, none)

/-- The time between two updates of the presence of a probe node. -/
def probePresenceInterval (offlineAfter : Duration) : Duration :=
  if min (15 * second) (offlineAfter.tdiv 2) < second then second
  else min (15 * second) (offlineAfter.tdiv 2)

/-- Update the presence of a probe node when it is due. -/
def StreamSession.touch (s : StreamSession) (offlineAfter : Duration) (now : Time) :
    StreamSession :=
  if isZero s.lastSeenUpdate || probePresenceInterval offlineAfter ≤ sub now s.lastSeenUpdate then
    { s with lastSeenUpdate := now }
  else s

/-- What a frame leads to: the ack that is written, if any, and the result that is accepted. -/
structure FrameOutcome where
  ack : Option AgentAck := none
  accepted : Option ProbeResult := none

/-- The ack of a frame that was understood. -/
def StreamSession.frameAck (s : StreamSession) (refreshed : Option (List ProbeTask)) (now : Time)
    (persisted : Bool) : AgentAck :=
  { type := .ack, accepted := true, persisted, serverTime := now,
    nextReportMS := s.cfg.collectIntervalSeconds * 1000, config := s.cfg, tasks := refreshed }

/-- The ack of a frame that was not understood. -/
def errorAck (now : Time) (error : String) : AgentAck :=
  { type := .error, accepted := false, serverTime := now, error }

/-- Handle a frame.  Frames that a node may not send and results of tasks that are not allowed are
passed over without an ack. -/
def StreamSession.handleFrame (s : StreamSession) (offlineAfter : Duration) (calls : StreamCalls)
    (payload : Option AgentFrame) : StreamSession × FrameOutcome :=
  match payload with
  | none => (s, { ack := some (errorAck calls.now "invalid frame") })
  | some frame =>
    let (s, refreshed) := s.refresh calls
    let answer := fun (s : StreamSession) (persisted : Bool) =>
      some (s.frameAck refreshed calls.now persisted)
    match frame.type with
    | .hello =>
      match frame.hello with
      | none => (s, { ack := answer s false })
      | some hello =>
        let version := if hello.identity.version ≠ "" then hello.identity.version else hello.version
        let s := { s with
          identity := { hello.identity with version }
          lastSeenUpdate := calls.now }
        (s, { ack := answer s false })
    | .sample =>
      if frame.sample.isNone || s.node.role ≠ .monitor then (s, {})
      else (s, { ack := answer s calls.persisted })
    | .heartbeat =>
      if s.node.role ≠ .probe then (s, {})
      else (s.touch offlineAfter calls.now, { ack := answer s false })
    | .probeResult =>
      match frame.probeResult with
      | none => (s, {})
      | some result =>
        if !probeTaskAllowed s.tasks result.taskID then (s, {})
        else
          let touched := if s.node.role = .probe then s.touch offlineAfter calls.now else s
          (touched, { ack := answer s false, accepted := stampProbe s.node calls.now result })
    | .other _ _ => (s, { ack := some (errorAck calls.now "unsupported frame type") })

/-- A frame is passed over: the node may not send it, or it has a result of a task that is not
allowed. -/
def StreamSession.passesOver (s : StreamSession) (frame : AgentFrame) : Bool :=
  match frame.type with
  | .hello => false
  | .sample => frame.sample.isNone || s.node.role ≠ .monitor
  | .heartbeat => s.node.role ≠ .probe
  | .probeResult =>
    match frame.probeResult with
    | none => true
    | some result => !probeTaskAllowed s.tasks result.taskID
  | .other _ _ => false

/-- The ack of a frame: none when the frame is passed over, an error when its kind is unknown, and
otherwise an ack with the tasks that were read. -/
lemma StreamSession.ack_handleFrame (s : StreamSession) (offlineAfter : Duration)
    (calls : StreamCalls) (frame : AgentFrame) :
    ∃ ack, (s.handleFrame offlineAfter calls (some frame)).2.ack =
        (if (s.refresh calls).1.passesOver frame then none else some ack) ∧
      ((∃ error, ack = errorAck calls.now error) ∨
        ∃ s' persisted, ack = frameAck s' (s.refresh calls).2 calls.now persisted) := by
  obtain ⟨type, sample, probeResult, hello⟩ := frame
  cases type with
  | hello =>
    cases hello with
    | none => exact ⟨_, rfl, Or.inr ⟨_, _, rfl⟩⟩
    | some hello => exact ⟨_, rfl, Or.inr ⟨_, _, rfl⟩⟩
  | sample =>
    refine ⟨_, ?_, Or.inr ⟨(s.refresh calls).1, calls.persisted, rfl⟩⟩
    simp only [StreamSession.handleFrame, StreamSession.passesOver, Bool.or_eq_true]
    split_ifs <;> simp_all
  | heartbeat =>
    refine ⟨_, ?_, Or.inr ⟨(s.refresh calls).1, false, rfl⟩⟩
    simp only [StreamSession.handleFrame, StreamSession.passesOver]
    split_ifs <;> simp_all
  | probeResult =>
    refine ⟨_, ?_, Or.inr ⟨(s.refresh calls).1, false, rfl⟩⟩
    cases probeResult with
    | none => rfl
    | some result =>
      simp only [StreamSession.handleFrame, StreamSession.passesOver]
      split_ifs <;> simp_all
  | other name unknown => exact ⟨_, rfl, Or.inl ⟨_, rfl⟩⟩

/-- The result of a frame is accepted when its task is allowed. -/
lemma StreamSession.accepted_handleFrame (s : StreamSession) (offlineAfter : Duration)
    (calls : StreamCalls) (result : ProbeResult) :
    (s.handleFrame offlineAfter calls
        (some { type := .probeResult, probeResult := some result })).2.accepted =
      if probeTaskAllowed (s.refresh calls).1.tasks result.taskID then
        some (stampProbe (s.refresh calls).1.node calls.now result)
      else none := by
  simp only [StreamSession.handleFrame]
  split_ifs <;> simp_all

/-- Handling a frame changes the node of a session only by reading it again. -/
lemma StreamSession.node_handleFrame (s : StreamSession) (offlineAfter : Duration)
    (calls : StreamCalls) (frame : AgentFrame) :
    (s.handleFrame offlineAfter calls (some frame)).1.node = (s.refresh calls).1.node := by
  have htouch : ∀ s' : StreamSession, (s'.touch offlineAfter calls.now).node = s'.node := by
    intro s'
    unfold StreamSession.touch
    split_ifs <;> rfl
  obtain ⟨type, sample, probeResult, hello⟩ := frame
  cases type with
  | hello => cases hello <;> rfl
  | sample =>
    simp only [StreamSession.handleFrame]
    split_ifs <;> rfl
  | heartbeat =>
    simp only [StreamSession.handleFrame]
    split_ifs
    · rfl
    · exact htouch _
  | probeResult =>
    cases probeResult with
    | none => rfl
    | some result =>
      simp only [StreamSession.handleFrame]
      split_ifs
      · rfl
      · exact htouch _
      · rfl
  | other name unknown => rfl

end Hostpin
