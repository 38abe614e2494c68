import Hostpin.Agent.Runtime
import Hostpin.Agent.Stream

/-!
# The stream between an agent and the server

An agent sends a frame, waits for its ack and only then sends the next one.  A `Link` is one stream
together with what happens around it: the administrator changes tasks, configuration and node, and
probes of the agent finish.  `Link.LockStep` says that every frame that was read has been answered
and that the agent never waits while nothing is on its way.

The server passes over the result of a task that it does not have in its list any more, and answers
nothing.  A link is in lock step as long as this does not happen (`Link.lock_step`).
-/

namespace Hostpin

open Clock

/-! ## State -/

/-- Where the agent stands in its stream loop. -/
inductive AgentPhase where
  | readHello
  | sendHello
  | readHelloAck
  | idle
  | readSampleAck
  | drain
  | readResultAck
deriving DecidableEq

/-- The agent is blocked until an ack arrives. -/
def AgentPhase.reading : AgentPhase → Bool
  | .readHello | .readHelloAck | .readSampleAck | .readResultAck => true
  | .sendHello | .idle | .drain => false

/-- What the store holds for the node of an agent. -/
structure AgentStore where
  node : Node
  config : AgentConfig := {}
  tasks : ProbeTaskTable := {}

/-- A stream: the store, the agent and its phase, the session of the server, the messages under way
in both directions, and how many frames the server has read and answered. -/
structure Link where
  store : AgentStore
  agent : AgentRuntime
  phase : AgentPhase
  session : StreamSession
  toServer : List AgentFrame := []
  toAgent : List AgentAck := []
  isOpen : Bool := true
  framesRead : ℕ := 0
  acksWritten : ℕ := 0

/-- What can happen around a stream. -/
inductive LinkEvent where
  | saveTasks (tasks : ProbeTaskTable)
  | saveConfig (config : AgentConfig)
  | updateNode (node : Node)
  | complete (result : ProbeResult)
  | agentSend (sample : MetricSample)
  | agentRead (clock : Time) (taskClock : ℤ → Time)
  | serverRead (now : Time) (nodeOK configOK tasksOK persisted writeOK : Bool)
  | close

/-- A stream that has just been opened.  Agent and server both know the role that the agent enrolled
with, and the first ack is under way. -/
def Link.start (role : NodeRole) (store : AgentStore) (agent : AgentRuntime) (tasksOK : Bool)
    (refreshedAt serverTime : Time) : Link :=
  let node := { store.node with role := normalizeNodeRole role }
  let tasks := if tasksOK then some (listProbeTasks store.tasks node) else none
  let (session, ack) := openStream node store.config tasks refreshedAt serverTime
  { store := { store with node }
    agent := { agent with role := normalizeNodeRole role }
    phase := .readHello
    session
    toAgent := [ack] }

/-! ## Steps -/

/-- The frame that an agent sends in its phase, and the phase in which it waits for the ack. -/
def Link.nextFrame (l : Link) (sample : MetricSample) : Option (AgentFrame × AgentPhase) :=
  match l.phase with
  | .sendHello => some (l.agent.helloFrame, .readHelloAck)
  | .idle => some (l.agent.roundFrame sample, .readSampleAck)
  | .drain =>
    l.agent.pending.head?.map fun result =>
      ({ type := .probeResult, probeResult := some result }, .readResultAck)
  | _ => none

/-- The agent sends the frame of its phase; when all results are acknowledged it goes back to the
start of its loop. -/
def Link.agentSend (l : Link) (sample : MetricSample) : Link :=
  match l.nextFrame sample with
  | some (frame, phase) => { l with toServer := l.toServer ++ [frame], phase }
  | none => if l.phase = .drain then { l with phase := .idle } else l

/-- The agent after the ack that it was waiting for. -/
def Link.afterAck (l : Link) (agent : AgentRuntime) : Link :=
  match l.phase with
  | .readHello => { l with agent, phase := .sendHello }
  | .readHelloAck => { l with agent, phase := .idle }
  | .readSampleAck => { l with agent := agent.collectProbeResults 128, phase := .drain }
  | .readResultAck =>
    { l with agent := { agent with pending := agent.pending.tail }, phase := .drain }
  | _ => l

/-- The agent reads an ack.  An ack that it cannot read and an error end the stream. -/
def Link.agentRead (l : Link) (clock : Time) (taskClock : ℤ → Time) : Link :=
  match l.phase.reading, l.toAgent with
  | true, sent :: rest =>
    match decodeAgentAck (encodeAgentAck sent) with
    | none => { l with toAgent := rest, isOpen := false }
    | some ack =>
      if !ack.accepted && ack.error ≠ "" then { l with toAgent := rest, isOpen := false }
      else
        Link.afterAck { l with toAgent := rest }
          (l.agent.applyAck ack (l.phase = .readHello) clock taskClock)
  | _, _ => l

/-- The answers of the store while a frame is handled. -/
def Link.calls (l : Link) (now : Time) (nodeOK configOK tasksOK persisted : Bool) :
    StreamCalls where
  now
  node := if nodeOK then some l.store.node else none
  config := if configOK then some l.store.config else none
  tasks := if tasksOK then some (listProbeTasks l.store.tasks l.store.node) else none
  persisted

/-- The server reads a frame and writes its ack, if it has one.  A failed write ends the stream. -/
def Link.serverRead (l : Link) (offlineAfter : Duration) (calls : StreamCalls) (writeOK : Bool) :
    Link :=
  match l.toServer with
  | [] => l
  | frame :: rest =>
    let (session, outcome) := l.session.handleFrame offlineAfter calls (some frame)
    let l := { l with session, toServer := rest, framesRead := l.framesRead + 1 }
    match outcome.ack with
    | none => l
    | some ack =>
      { l with toAgent := l.toAgent ++ [ack], isOpen := writeOK, acksWritten := l.acksWritten + 1 }

/-- The link after an event.  A closed stream stays as it is. -/
def Link.step (offlineAfter : Duration) (l : Link) (event : LinkEvent) : Link :=
  if !l.isOpen then l
  else
    match event with
    | .saveTasks tasks => { l with store := { l.store with tasks } }
    | .saveConfig config => { l with store := { l.store with config } }
    | .updateNode node =>
      -- the statement that updates a node does not write its role
      { l with store := { l.store with
          node := { node with id := l.store.node.id, role := l.store.node.role } } }
    | .complete result => { l with agent := l.agent.finish result }
    | .agentSend sample => l.agentSend sample
    | .agentRead clock taskClock => l.agentRead clock taskClock
    | .serverRead now nodeOK configOK tasksOK persisted writeOK =>
      l.serverRead offlineAfter (l.calls now nodeOK configOK tasksOK persisted) writeOK
    | .close => { l with isOpen := false }

/-- The link after a list of events. -/
def Link.run (offlineAfter : Duration) (l : Link) (events : List LinkEvent) : Link :=
  events.foldl (Link.step offlineAfter) l

/-! ## Lock step -/

/-- A link is in lock step: while it is open, every frame that was read has been answered, and the
agent waits for an ack only while a message is under way. -/
def Link.LockStep (l : Link) : Prop :=
  l.isOpen = true → l.framesRead = l.acksWritten ∧
    (l.phase.reading = true → l.toServer ≠ [] ∨ l.toAgent ≠ [])

/-- The server has the task of a result that it is about to read in its list. -/
def Link.allows (l : Link) : LinkEvent → Bool
  | .serverRead now nodeOK configOK tasksOK persisted _ =>
    match l.toServer.head? with
    | some ⟨.probeResult, _, some result, _⟩ =>
      probeTaskAllowed (l.session.refresh (l.calls now nodeOK configOK tasksOK persisted)).1.tasks
        result.taskID
    | _ => true
  | _ => true

/-- The server has the tasks of all results that it reads during a list of events. -/
def Link.allowsAll (offlineAfter : Duration) (l : Link) : List LinkEvent → Bool
  | [] => true
  | event :: events => l.allows event && (l.step offlineAfter event).allowsAll offlineAfter events

/-! ## The invariant -/

/-- A frame that an agent of a role sends. -/
inductive AgentFrame.Legal (role : NodeRole) : AgentFrame → Prop
  | hello {sample result hello} : Legal role ⟨.hello, sample, result, hello⟩
  | sample {sample result hello} (h : role = .monitor) :
      Legal role ⟨.sample, some sample, result, hello⟩
  | heartbeat {sample result hello} (h : role = .probe) :
      Legal role ⟨.heartbeat, sample, result, hello⟩
  | probeResult {sample result hello} : Legal role ⟨.probeResult, sample, some result, hello⟩

/-- An open link is balanced: all sides agree on the role, every frame that was read has been
answered, and exactly one message is under way while the agent waits, none while it does not. -/
structure Link.Balanced (l : Link) : Prop where
  role_known : l.agent.role = .monitor ∨ l.agent.role = .probe
  role_store : l.store.node.role = l.agent.role
  role_session : l.session.node.role = l.agent.role
  answered : l.framesRead = l.acksWritten
  waiting : l.phase.reading = true →
    (∃ frame, frame.Legal l.agent.role ∧ l.toServer = [frame] ∧ l.toAgent = []) ∨
      ∃ ack, l.toServer = [] ∧ l.toAgent = [ack]
  sending : l.phase.reading = false → l.toServer = [] ∧ l.toAgent = []

section Steps

variable {l : Link}

/-- The frame of a phase is one that the agent may send, and the agent waits for its ack. -/
lemma Link.legal_nextFrame (hrole : l.agent.role = .monitor ∨ l.agent.role = .probe)
    {sample : MetricSample} {frame : AgentFrame} {phase : AgentPhase}
    (h : l.nextFrame sample = some (frame, phase)) :
    frame.Legal l.agent.role ∧ l.phase.reading = false ∧ phase.reading = true := by
  unfold Link.nextFrame at h
  cases hphase : l.phase with
  | sendHello =>
    rw [hphase] at h
    cases h
    exact ⟨.hello, rfl, rfl⟩
  | idle =>
    rw [hphase] at h
    cases h
    refine ⟨?_, rfl, rfl⟩
    unfold AgentRuntime.roundFrame
    split_ifs with hmonitor
    · exact .sample hmonitor
    · exact .heartbeat (hrole.resolve_left hmonitor)
  | drain =>
    rw [hphase] at h
    obtain ⟨result, -, heq⟩ := Option.map_eq_some_iff.mp h
    cases heq
    exact ⟨.probeResult, rfl, rfl⟩
  | readHello => rw [hphase] at h; cases h
  | readHelloAck => rw [hphase] at h; cases h
  | readSampleAck => rw [hphase] at h; cases h
  | readResultAck => rw [hphase] at h; cases h

/-- Sending a frame keeps a link balanced. -/
lemma Link.Balanced.agentSend (h : l.Balanced) (sample : MetricSample) :
    (l.agentSend sample).Balanced := by
  unfold Link.agentSend
  cases hnext : l.nextFrame sample with
  | some next =>
    obtain ⟨frame, phase⟩ := next
    obtain ⟨hlegal, hsending, hwaiting⟩ := Link.legal_nextFrame h.role_known hnext
    obtain ⟨hserver, hagent⟩ := h.sending hsending
    refine ⟨h.role_known, h.role_store, h.role_session, h.answered, fun _ => Or.inl ?_,
      fun hread => ?_⟩
    · exact ⟨frame, hlegal, by simp [hserver], hagent⟩
    · exact absurd hwaiting (by simp [hread])
  | none =>
    by_cases hdrain : l.phase = .drain
    · have hquiet := h.sending (by rw [hdrain]; rfl)
      simp only [if_pos hdrain]
      exact ⟨h.role_known, h.role_store, h.role_session, h.answered, nofun, fun _ => hquiet⟩
    · simp only [if_neg hdrain]
      exact h

/-- An agent that keeps its role may change in other ways. -/
lemma Link.Balanced.withAgent (h : l.Balanced) {agent : AgentRuntime}
    (hrole : agent.role = l.agent.role) : ({ l with agent } : Link).Balanced := by
  obtain ⟨hknown, hstore, hsession, hanswered, hwaiting, hsending⟩ := h
  rw [← hrole] at hknown hstore hsession hwaiting
  exact ⟨hknown, hstore, hsession, hanswered, hwaiting, hsending⟩

/-- The store may change as long as the role of the node stays. -/
lemma Link.Balanced.withStore (h : l.Balanced) {store : AgentStore}
    (hrole : store.node.role = l.store.node.role) : ({ l with store } : Link).Balanced :=
  ⟨h.role_known, hrole.trans h.role_store, h.role_session, h.answered, h.waiting, h.sending⟩

/-- An agent that does not wait is balanced when nothing is under way. -/
lemma Link.Balanced.goOn (h : l.Balanced) {agent : AgentRuntime} {phase : AgentPhase}
    (hrole : agent.role = l.agent.role) (hphase : phase.reading = false)
    (hserver : l.toServer = []) : ({ l with agent, phase, toAgent := [] } : Link).Balanced := by
  obtain ⟨hknown, hstore, hsession, hanswered, -, -⟩ := h.withAgent hrole
  refine ⟨hknown, hstore, hsession, hanswered, fun hread => ?_, fun _ => ⟨hserver, rfl⟩⟩
  exact absurd hread (by simp [hphase])

/-- The agent goes on after an ack with nothing under way. -/
lemma Link.Balanced.afterAck (h : l.Balanced) (hread : l.phase.reading = true)
    {agent : AgentRuntime} (hrole : agent.role = l.agent.role) (hserver : l.toServer = []) :
    (Link.afterAck { l with toAgent := [] } agent).Balanced := by
  unfold Link.afterAck
  cases hphase : l.phase with
  | readHello => exact h.goOn hrole rfl hserver
  | readHelloAck => exact h.goOn hrole rfl hserver
  | readSampleAck => exact h.goOn hrole rfl hserver
  | readResultAck => exact h.goOn hrole rfl hserver
  | sendHello => rw [hphase] at hread; cases hread
  | idle => rw [hphase] at hread; cases hread
  | drain => rw [hphase] at hread; cases hread

/-- Reading an ack keeps a link balanced, unless it ends the stream. -/
lemma Link.Balanced.agentRead (h : l.Balanced) (clock : Time) (taskClock : ℤ → Time)
    (hopen : (l.agentRead clock taskClock).isOpen = true) :
    (l.agentRead clock taskClock).Balanced := by
  cases hread : l.phase.reading with
  | false =>
    have hsame : l.agentRead clock taskClock = l := by
      unfold Link.agentRead
      rw [hread]
    rwa [hsame]
  | true =>
    rcases h.waiting hread with ⟨frame, -, -, hagent⟩ | ⟨ack, hserver, hagent⟩
    · have hsame : l.agentRead clock taskClock = l := by
        unfold Link.agentRead
        rw [hread, hagent]
      rwa [hsame]
    · have hstep : l.agentRead clock taskClock =
          if !ack.accepted && ack.error ≠ "" then { l with toAgent := [], isOpen := false }
          else Link.afterAck { l with toAgent := [] } (l.agent.applyAck
            { ack with tasks := ack.arrivingTasks } (l.phase = .readHello) clock taskClock) := by
        unfold Link.agentRead
        rw [hread, hagent]
        simp only [decodeAgentAck_encodeAgentAck]
      rw [hstep] at hopen ⊢
      split_ifs at hopen ⊢ with herror
      exact h.afterAck hread (AgentRuntime.role_applyAck _ _ _ _ _) hserver

/-- A frame that the agent may send is passed over only when it has a result of a task that the
server does not have. -/
lemma AgentFrame.Legal.not_passesOver {s : StreamSession} {frame : AgentFrame}
    (h : frame.Legal s.node.role)
    (hresult : ∀ result, frame.type = .probeResult → frame.probeResult = some result →
      probeTaskAllowed s.tasks result.taskID = true) : s.passesOver frame = false := by
  cases h with
  | hello => rfl
  | sample hrole => simp [StreamSession.passesOver, hrole]
  | heartbeat hrole => simp [StreamSession.passesOver, hrole]
  | @probeResult sample result hello =>
    have hallowed := hresult result rfl rfl
    simp [StreamSession.passesOver, hallowed]

/-- Reading the node again keeps the role of the session. -/
lemma Link.role_refresh (h : l.Balanced) (now : Time) (nodeOK configOK tasksOK persisted : Bool) :
    (l.session.refresh (l.calls now nodeOK configOK tasksOK persisted)).1.node.role =
      l.agent.role := by
  unfold StreamSession.refresh
  split_ifs
  · cases nodeOK with
    | true => exact h.role_store
    | false => exact h.role_session
  · exact h.role_session

/-- Reading a frame keeps a link balanced when the server has the task of a result. -/
lemma Link.Balanced.serverRead (h : l.Balanced) (offlineAfter : Duration) (now : Time)
    (nodeOK configOK tasksOK persisted writeOK : Bool)
    (hallows : l.allows (.serverRead now nodeOK configOK tasksOK persisted writeOK) = true) :
    (l.serverRead offlineAfter (l.calls now nodeOK configOK tasksOK persisted)
      writeOK).Balanced := by
  set calls := l.calls now nodeOK configOK tasksOK persisted with hcalls
  have hrole := Link.role_refresh h now nodeOK configOK tasksOK persisted
  rw [← hcalls] at hrole
  by_cases hempty : l.toServer = []
  · have hsame : l.serverRead offlineAfter calls writeOK = l := by
      unfold Link.serverRead
      rw [hempty]
    rwa [hsame]
  · have hread : l.phase.reading = true := by
      by_contra hnot
      exact hempty (h.sending (Bool.not_eq_true _ ▸ hnot)).1
    rcases h.waiting hread with ⟨frame, hlegal, hserver, hagent⟩ | ⟨ack, hserver, -⟩
    · have hnot : (l.session.refresh calls).1.passesOver frame = false := by
        rw [← hrole] at hlegal
        refine hlegal.not_passesOver fun result htype hresult => ?_
        obtain ⟨type, sample, probeResult, hello⟩ := frame
        cases htype
        cases hresult
        simpa [Link.allows, hserver] using hallows
      obtain ⟨ack, hack, -⟩ := l.session.ack_handleFrame offlineAfter calls frame
      rw [hnot, if_neg Bool.false_ne_true] at hack
      have hstep : l.serverRead offlineAfter calls writeOK =
          { l with session := (l.session.handleFrame offlineAfter calls (some frame)).1
                   toServer := [], toAgent := [ack], isOpen := writeOK
                   framesRead := l.framesRead + 1, acksWritten := l.acksWritten + 1 } := by
        unfold Link.serverRead
        rw [hserver]
        simp only [hack, hagent, List.nil_append]
      rw [hstep]
      refine ⟨h.role_known, h.role_store, ?_, congrArg (· + 1) h.answered,
        fun _ => Or.inr ⟨ack, rfl, rfl⟩, fun hnotReading => ?_⟩
      · rw [StreamSession.node_handleFrame]
        exact hrole
      · exact absurd hread (by simp [hnotReading])
    · exact absurd hserver hempty

/-- An event that the server can answer keeps an open link balanced. -/
lemma Link.Balanced.step (offlineAfter : Duration) (event : LinkEvent)
    (h : l.isOpen = true → l.Balanced) (hallows : l.allows event = true)
    (hopen : (l.step offlineAfter event).isOpen = true) :
    (l.step offlineAfter event).Balanced := by
  cases hl : l.isOpen with
  | false =>
    have hsame : l.step offlineAfter event = l := by simp [Link.step, hl]
    rw [hsame, hl] at hopen
    cases hopen
  | true =>
    have hbal := h hl
    have hstep : ¬ (!l.isOpen) = true := by simp [hl]
    unfold Link.step at hopen ⊢
    rw [if_neg hstep] at hopen ⊢
    cases event with
    | saveTasks tasks => exact hbal.withStore rfl
    | saveConfig config => exact hbal.withStore rfl
    | updateNode node => exact hbal.withStore rfl
    | complete result => exact hbal.withAgent (AgentRuntime.role_finish _ _)
    | agentSend sample => exact hbal.agentSend sample
    | agentRead clock taskClock => exact hbal.agentRead clock taskClock hopen
    | serverRead now nodeOK configOK tasksOK persisted writeOK =>
      exact hbal.serverRead offlineAfter now nodeOK configOK tasksOK persisted writeOK hallows
    | close => cases hopen

/-- Events that the server can answer keep an open link balanced. -/
lemma Link.Balanced.run (offlineAfter : Duration) (events : List LinkEvent)
    (h : l.isOpen = true → l.Balanced) (hallows : l.allowsAll offlineAfter events = true)
    (hopen : (l.run offlineAfter events).isOpen = true) : (l.run offlineAfter events).Balanced := by
  induction events generalizing l with
  | nil => exact h hopen
  | cons event events ih =>
    obtain ⟨hevent, hevents⟩ := (Bool.and_eq_true _ _).mp hallows
    exact ih (fun hstep => Link.Balanced.step offlineAfter event h hevent hstep) hevents hopen

end Steps

/-- A new stream is balanced. -/
lemma Link.balanced_start (role : NodeRole) (store : AgentStore) (agent : AgentRuntime)
    (tasksOK : Bool) (refreshedAt serverTime : Time) :
    (Link.start role store agent tasksOK refreshedAt serverTime).Balanced where
  role_known := by cases role <;> simp [Link.start, normalizeNodeRole]
  role_store := rfl
  role_session := rfl
  answered := rfl
  waiting := fun _ => Or.inr ⟨_, rfl, rfl⟩
  sending := nofun

/-- A stream is in lock step in every state that it reaches, as long as the server has the tasks of
the results that it reads in its list. -/
theorem Link.lock_step (offlineAfter : Duration) (role : NodeRole) (store : AgentStore)
    (agent : AgentRuntime) (tasksOK : Bool) (refreshedAt serverTime : Time)
    (events : List LinkEvent)
    (hallows : (Link.start role store agent tasksOK refreshedAt serverTime).allowsAll offlineAfter
      events = true) :
    ((Link.start role store agent tasksOK refreshedAt serverTime).run offlineAfter
      events).LockStep := by
  intro hopen
  have hstart := Link.balanced_start role store agent tasksOK refreshedAt serverTime
  have hbal := Link.Balanced.run offlineAfter events (fun _ => hstart) hallows hopen
  refine ⟨hbal.answered, fun hread => ?_⟩
  rcases hbal.waiting hread with ⟨frame, -, hserver, -⟩ | ⟨ack, -, hagent⟩
  · exact Or.inl (by simp [hserver])
  · exact Or.inr (by simp [hagent])

/-- A stream of a node with a task. -/
def pingLink : Link :=
  Link.start .monitor { node := pingedNode, tasks := pingTable } {} true unixEpoch unixEpoch

/-- The server reads a frame a number of seconds after the stream was opened. -/
def readAfter (seconds : ℤ) : LinkEvent :=
  .serverRead (unixEpoch + seconds * second) true true true false true

/-- The agent introduces itself, a probe finishes, and the agent sends a sample. -/
def untilResult : List LinkEvent :=
  [.agentRead unixEpoch fun _ => unixEpoch, .agentSend {}, readAfter 1,
   .agentRead unixEpoch fun _ => unixEpoch, .complete { taskID := 1, collectedAt := unixEpoch },
   .agentSend {}, readAfter 3, .agentRead unixEpoch fun _ => unixEpoch]

theorem lock_step_pingLink :
    (pingLink.run (90 * second) (untilResult ++ [.agentSend {}, readAfter 20])).LockStep :=
  Link.lock_step (90 * second) .monitor { node := pingedNode, tasks := pingTable } {} true unixEpoch
    unixEpoch (untilResult ++ [.agentSend {}, readAfter 20]) (by decide +kernel)

/-- The task is deleted before its result is sent, and the server has read its list again. -/
def orphanedResult : Link :=
  pingLink.run (90 * second) (untilResult ++ [.saveTasks {}, .agentSend {}, readAfter 20])

/-- The server passes over the result of the deleted task: the agent waits on an open stream, and
nothing is under way. -/
theorem deleted_task_blocks_agent :
    orphanedResult.isOpen = true ∧ orphanedResult.phase.reading = true ∧
      orphanedResult.toServer = [] ∧ orphanedResult.toAgent = [] ∧ ¬ orphanedResult.LockStep := by
  refine ⟨by decide +kernel, by decide +kernel, by decide +kernel, by decide +kernel, fun h => ?_⟩
  exact absurd (h (by decide +kernel)).1 (by decide +kernel)

end Hostpin
