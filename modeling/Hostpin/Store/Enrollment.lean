import Hostpin.Foundation.Runs
import Hostpin.Store.EnrollmentPINs
import Hostpin.Store.Nodes

/-!
# Enrollment in the store

An enrollment looks for the installation that enrolls.  One that is known answers with its node, or
with a conflict, and one that is not writes a node, its credential and its configuration, and claims
the temporary PIN that it came with.  `EnrollmentSystem` runs any number of enrollments, deletions
of nodes, replacements and revocations of PINs at the same time.

A transaction takes effect as a whole when it commits.  The rows that it writes are locked until
then, so its writes are one step; but each of its reads is a step of its own, after which other
transactions may commit, and what the check for a known installation did not see is caught by the
constraints of the schema.

What an event may do is said once (`Becomes`); every invariant is a case analysis over it.
-/

namespace Hostpin

open Clock Text Runs

/-! ## Data -/

/-- What an agent asks to be set on its node. -/
structure EnrollmentMetadata where
  name : String := ""
  group : String := ""
  region : String := ""
  countryCode : String := ""
  latitude : Option Float := none
  longitude : Option Float := none
  tags : List String := []
  publicRemark : String := ""
  privateRemark : String := ""
  hidden : Bool := false
  price : Float := 0
  currency : String := ""
  billingCycleDays : ℤ := 0
  expiresAt : Option Time := none
  autoRenewal : Bool := false
  trafficLimit : ℤ := 0
  trafficLimitType : String := ""
  trafficResetDay : ℤ := 0

/-- The part of an enrollment request that the store reads. -/
structure EnrollmentRequest where
  installID : String
  role : NodeRole := .monitor
  identity : AgentIdentity := {}
  metadata : EnrollmentMetadata := {}
  config : AgentConfig := {}

/-- The parameters of an enrollment.  Without a temporary PIN its id is empty. -/
structure EnrollParams where
  request : EnrollmentRequest
  nodeID : String
  tokenID : String
  tokenHash : String
  sourceIP : String := ""
  locationManual : Bool := false
  temporaryPINID : String := ""
  now : Time := 0

/-- The credential of an agent. -/
structure AgentCredential where
  nodeID : String
  installID : String
  tokenID : String
  tokenHash : String
  createdAt : ℤ := 0
  rotatedAt : ℤ := 0
deriving DecidableEq

/-- The configuration of an agent in the store. -/
structure AgentConfigRow where
  nodeID : String
  config : AgentConfig
  configVersion : ℤ := 1
  updatedAt : ℤ := 0
deriving DecidableEq

/-- The answer to an enrollment. -/
structure EnrollmentRecord where
  node : NodeRow
  config : AgentConfig
  created : Bool

/-- Why an enrollment fails. -/
inductive EnrollError where
  | installConflict
  | temporaryPINUnavailable
  | notFound
  | insertNode
  | insertCredential
  | insertConfig
  | store
deriving DecidableEq

/-- The tables that an enrollment touches. -/
structure EnrollmentStore where
  nodes : NodeTable := .empty
  credentials : KeyedTable AgentCredential.nodeID := .empty
  configs : KeyedTable AgentConfigRow.nodeID := .empty
  pins : PINTable := .empty
  tasks : KeyedTable ProbeTask.id := .empty

/-! ## The rows of a new node -/

/-- The default configuration of an agent. -/
def defaultAgentConfig : AgentConfig where
  collectIntervalSeconds := 3
  persistIntervalSeconds := 60
  probeConcurrency := 4
  configVersion := 1

namespace EnrollParams

/-- The name of a new node. -/
def nodeName (params : EnrollParams) : String :=
  let name := trimSpace params.request.metadata.name
  let name := if name = "" then params.request.identity.hostname else name
  if name = "" then "Unnamed node" else name

/-- The row of a new node. -/
def nodeRow (params : EnrollParams) : NodeRow :=
  let metadata := params.request.metadata
  let identity := params.request.identity
  let role := normalizeNodeRole params.request.role
  { id := params.nodeID
    role
    latencyEnabled := role = .probe
    name := params.nodeName
    hostname := identity.hostname
    group := metadata.group
    region := metadata.region
    countryCode := metadata.countryCode.toUpper
    latitude := metadata.latitude
    longitude := metadata.longitude
    locationManual := params.locationManual
    tags := metadata.tags
    publicRemark := metadata.publicRemark
    privateRemark := metadata.privateRemark
    hidden := metadata.hidden
    weight := 0
    price := metadata.price
    currency := if metadata.currency = "" then "$" else metadata.currency
    billingCycleDays := if metadata.billingCycleDays ≤ 0 then 30 else metadata.billingCycleDays
    expiresAt := metadata.expiresAt.map storedTime
    autoRenewal := metadata.autoRenewal
    trafficLimit := metadata.trafficLimit
    trafficLimitType := if metadata.trafficLimitType = "" then "sum" else metadata.trafficLimitType
    trafficResetDay :=
      if metadata.trafficResetDay ≤ 0 ∨ 31 < metadata.trafficResetDay then 1
      else metadata.trafficResetDay
    agentVersion := identity.version
    os := identity.os
    arch := identity.arch
    cpuName := identity.cpuName
    cpuCores := identity.cpuCores
    virtualization := identity.virtualization
    kernelVersion := identity.kernelVersion
    ipv4 := identity.ipv4
    ipv6 := identity.ipv6
    sourceIP := params.sourceIP
    createdAt := storedTime params.now
    updatedAt := storedTime params.now }

/-- The row of a new credential. -/
def credentialRow (params : EnrollParams) : AgentCredential where
  nodeID := params.nodeID
  installID := params.request.installID
  tokenID := params.tokenID
  tokenHash := params.tokenHash
  createdAt := unixMilli params.now
  rotatedAt := unixMilli params.now

/-- The configuration of a new agent. -/
def config (params : EnrollParams) : AgentConfig :=
  let cfg := params.request.config
  let cfg := if cfg.collectIntervalSeconds ≤ 0 then defaultAgentConfig else cfg
  { cfg with
    persistIntervalSeconds :=
      if cfg.persistIntervalSeconds < cfg.collectIntervalSeconds then 60
      else cfg.persistIntervalSeconds
    probeConcurrency := if cfg.probeConcurrency ≤ 0 then 4 else cfg.probeConcurrency
    configVersion := if cfg.configVersion ≤ 0 then 1 else cfg.configVersion }

/-- The row of a new configuration. -/
def configRow (params : EnrollParams) : AgentConfigRow where
  nodeID := params.nodeID
  config := params.config
  configVersion := params.config.configVersion
  updatedAt := unixMilli params.now

end EnrollParams

/-! ## Transactions -/

/-- Where an enrollment stands: what it has read of a known installation, whether it has committed,
or what it has returned. -/
inductive EnrollPhase where
  | begun
  | known (nodeID : String)
  | checked (node : NodeRow)
  | absent
  | committed
  | returned (result : Except EnrollError EnrollmentRecord)

/-- Which of the writes of an enrollment work. -/
structure WriteCalls where
  claim : Bool := true
  node : Bool := true
  credential : Bool := true
  config : Bool := true
  commit : Bool := true

namespace EnrollmentStore

/-- The credential of the installation is read, and the token is compared with it. -/
def readCredential (s : EnrollmentStore) (params : EnrollParams) : EnrollPhase :=
  match s.credentials.rows.find? fun c => c.installID = params.request.installID with
  | none => .absent
  | some credential =>
    if credential.tokenHash ≠ params.tokenHash then .returned (.error .installConflict)
    else .known credential.nodeID

/-- The node of a known installation is read, and the role is compared with it. -/
def readNode (s : EnrollmentStore) (params : EnrollParams) (nodeID : String) : EnrollPhase :=
  match s.nodes.getNode nodeID with
  | none => .returned (.error .notFound)
  | some node =>
    if node.role ≠ normalizeNodeRole params.request.role then .returned (.error .installConflict)
    else .checked node

/-- The configuration of a known installation is read, and the transaction commits. -/
def readConfig (s : EnrollmentStore) (node : NodeRow) : EnrollPhase :=
  match s.configs.lookup node.id with
  | none => .returned (.error .notFound)
  | some row => .returned (.ok ⟨node, row.config, false⟩)

/-- The next read of an enrollment; the other phases have nothing to read. -/
def read (s : EnrollmentStore) (params : EnrollParams) : EnrollPhase → EnrollPhase
  | .begun => s.readCredential params
  | .known nodeID => s.readNode params nodeID
  | .checked node => s.readConfig node
  | phase => phase

/-- The PINs after the claim of an enrollment. -/
def claimFor (s : EnrollmentStore) (params : EnrollParams) (works : Bool) :
    Except EnrollError PINTable :=
  if params.temporaryPINID = "" then .ok s.pins
  else if !works then .error .store
  else
    match s.pins.claim params.temporaryPINID params.request.installID params.tokenID params.now with
    | none => .error .temporaryPINUnavailable
    | some pins => .ok pins

/-- Insert a credential, with an installation and a token of its own. -/
def insertCredential (s : EnrollmentStore) (c : AgentCredential) :
    Option (KeyedTable AgentCredential.nodeID) :=
  if s.credentials.rows.any fun r => r.installID = c.installID ∨ r.tokenID = c.tokenID then none
  else s.credentials.insertNew c

/-- An enrollment of an unknown installation. -/
def writeInstall (s : EnrollmentStore) (params : EnrollParams) (calls : WriteCalls) :
    Except EnrollError EnrollmentStore :=
  match s.claimFor params calls.claim with
  | .error e => .error e
  | .ok pins =>
    match if calls.node then s.nodes.insertNew params.nodeRow else none with
    | none => .error .insertNode
    | some nodes =>
      match if calls.credential then s.insertCredential params.credentialRow else none with
      | none => .error .insertCredential
      | some credentials =>
        match if calls.config then s.configs.insertNew params.configRow else none with
        | none => .error .insertConfig
        | some configs =>
          if calls.commit then .ok { s with nodes, credentials, configs, pins } else .error .store

/-- Delete a node, and with it its credential, its configuration and the latency tasks that target
it. -/
def deleteNode (s : EnrollmentStore) (id : String) : Option EnrollmentStore :=
  match s.nodes.lookup id with
  | none => none
  | some _ =>
    some { s with
      nodes := s.nodes.deleteWhere fun n => n.id = id
      credentials := s.credentials.deleteWhere fun c => c.nodeID = id
      configs := s.configs.deleteWhere fun c => c.nodeID = id
      tasks := s.tasks.deleteWhere fun t => t.purpose = .latency ∧ t.targetNodeID = id }

end EnrollmentStore

/-! ## The system -/

/-- An enrollment. -/
structure EnrollCall where
  params : EnrollParams
  phase : EnrollPhase := .begun

/-- A replacement of the temporary PIN, with the ids that it found unrevoked. -/
structure ReplaceCall where
  pin : TemporaryEnrollmentPIN
  now : Time
  found : List String
  finished : Bool := false

/-- A node that was created with a temporary PIN: the enrollment, and the PIN as it was when the
enrollment committed. -/
structure PINCreation where
  pin : TemporaryEnrollmentPIN
  params : EnrollParams

/-- The store and everything that runs on it.  Calls are numbered by their place in the list. -/
structure EnrollmentSystem where
  store : EnrollmentStore := {}
  calls : List EnrollCall := []
  replacements : List ReplaceCall := []
  creations : List PINCreation := []

/-- What can happen.  A call of the store that does not work says so. -/
inductive EnrollmentEvent where
  | enroll (params : EnrollParams)
  | read (i : ℕ) (works : Bool)
  | write (i : ℕ) (answers : WriteCalls)
  | reload (i : ℕ) (works : Bool)
  | deleteNode (id : String) (works : Bool)
  | replacePIN (pin : TemporaryEnrollmentPIN) (now : Time)
  | commitPIN (i : ℕ) (works : Bool)
  | revokePIN (id : String) (now : Time) (works : Bool)

/-- The event is a step of an enrollment. -/
def EnrollmentEvent.isEnroll : EnrollmentEvent → Bool
  | .enroll _ | .read .. | .write .. | .reload .. => true
  | _ => false

/-- The enrollment whose step the event is. -/
def EnrollmentEvent.call? : EnrollmentEvent → Option ℕ
  | .read i _ | .write i _ | .reload i _ => some i
  | _ => none

namespace EnrollmentSystem

/-- A call goes on to a phase. -/
def setPhase (s : EnrollmentSystem) (i : ℕ) (call : EnrollCall) (phase : EnrollPhase) :
    EnrollmentSystem :=
  { s with calls := s.calls.set i { call with phase } }

/-- An enrollment that reads goes on with what it reads. -/
def read (s : EnrollmentSystem) (i : ℕ) (call : EnrollCall) (works : Bool) : EnrollmentSystem :=
  match call.phase with
  | .begun | .known _ | .checked _ =>
    s.setPhase i call
      (if works then s.store.read call.params call.phase else .returned (.error .store))
  | _ => s

/-- What is noted about a node that is created with a temporary PIN. -/
def creationsOf (s : EnrollmentSystem) (params : EnrollParams) : List PINCreation :=
  if params.temporaryPINID = "" then []
  else (s.store.pins.lookup params.temporaryPINID).toList.map fun pin => ⟨pin, params⟩

/-- An enrollment of an unknown installation writes its rows. -/
def write (s : EnrollmentSystem) (i : ℕ) (call : EnrollCall) (answers : WriteCalls) :
    EnrollmentSystem :=
  match call.phase with
  | .absent =>
    match s.store.writeInstall call.params answers with
    | .error e => s.setPhase i call (.returned (.error e))
    | .ok store =>
      { s.setPhase i call .committed with
        store
        creations := s.creations ++ s.creationsOf call.params }
  | _ => s

/-- An enrollment reads the node that it has created. -/
def reload (s : EnrollmentSystem) (i : ℕ) (call : EnrollCall) (works : Bool) : EnrollmentSystem :=
  match call.phase with
  | .committed =>
    match if works then s.store.nodes.getNode call.params.nodeID else none with
    | none => s.setPhase i call (.returned (.error (if works then .notFound else .store)))
    | some node => s.setPhase i call (.returned (.ok ⟨node, call.params.config, true⟩))
  | _ => s

/-- A replacement of the temporary PIN commits. -/
def commitPIN (s : EnrollmentSystem) (i : ℕ) (call : ReplaceCall) : EnrollmentSystem :=
  match s.store.pins.replace call.found call.pin call.now with
  | none => s
  | some pins =>
    { s with
      store := { s.store with pins }
      replacements := s.replacements.set i { call with finished := true } }

/-- A step of the enrollment with a number. -/
def onCall (s : EnrollmentSystem) (i : ℕ) (f : EnrollCall → EnrollmentSystem) : EnrollmentSystem :=
  match s.calls[i]? with
  | some call => f call
  | none => s

/-- The system after an event. -/
def step (s : EnrollmentSystem) : EnrollmentEvent → EnrollmentSystem
  | .enroll params => { s with calls := s.calls ++ [{ params }] }
  | .read i works => s.onCall i fun call => s.read i call works
  | .write i answers => s.onCall i fun call => s.write i call answers
  | .reload i works => s.onCall i fun call => s.reload i call works
  | .deleteNode id works =>
    match if works then s.store.deleteNode id else none with
    | some store => { s with store }
    | none => s
  | .replacePIN pin now =>
    { s with replacements := s.replacements ++ [{ pin, now, found := s.store.pins.unrevoked }] }
  | .commitPIN i works =>
    match s.replacements[i]? with
    | some call => if works ∧ call.finished = false then s.commitPIN i call else s
    | none => s
  | .revokePIN id now works =>
    match if works then s.store.pins.revoke id now else none with
    | some pins => { s with store := { s.store with pins } }
    | none => s

end EnrollmentSystem

/-! ## What a transaction does -/

namespace EnrollmentStore

variable {s s' : EnrollmentStore} {params : EnrollParams}

lemma insertCredential_eq_some {c : AgentCredential} {t : KeyedTable AgentCredential.nodeID}
    (h : s.insertCredential c = some t) :
    s.credentials.insertNew c = some t ∧
      ∀ r ∈ s.credentials, r.installID ≠ c.installID ∧ r.tokenID ≠ c.tokenID := by
  unfold insertCredential at h
  split at h
  · cases h
  next fresh =>
    refine ⟨h, fun r mem => ?_⟩
    have := List.any_eq_false.mp (Bool.not_eq_true _ ▸ fresh) r mem
    simpa [not_or] using this

/-- What an enrollment that commits has written. -/
lemma writeInstall_eq_ok {calls : WriteCalls} (h : s.writeInstall params calls = .ok s') :
    ∃ pins nodes credentials configs,
      s.claimFor params calls.claim = .ok pins ∧ s.nodes.insertNew params.nodeRow = some nodes ∧
      s.insertCredential params.credentialRow = some credentials ∧
      s.configs.insertNew params.configRow = some configs ∧
      s' = { s with nodes, credentials, configs, pins } := by
  unfold writeInstall at h
  split at h
  · cases h
  next pins hpins =>
    split at h
    · cases h
    next nodes hnodes =>
      split at h
      · cases h
      next credentials hcredentials =>
        split at h
        · cases h
        next configs hconfigs =>
          split at h
          · refine ⟨pins, nodes, credentials, configs, hpins, ?_, ?_, ?_, (Except.ok.inj h).symm⟩
            · exact (Option.ite_none_right_eq_some.mp hnodes).2
            · exact (Option.ite_none_right_eq_some.mp hcredentials).2
            · exact (Option.ite_none_right_eq_some.mp hconfigs).2
          · cases h

lemma deleteNode_eq_some {id : String} (h : s.deleteNode id = some s') :
    s' = { s with
      nodes := s.nodes.deleteWhere fun n => n.id = id
      credentials := s.credentials.deleteWhere fun c => c.nodeID = id
      configs := s.configs.deleteWhere fun c => c.nodeID = id
      tasks := s.tasks.deleteWhere fun t => t.purpose = .latency ∧ t.targetNodeID = id } := by
  unfold deleteNode at h
  split at h
  · cases h
  · exact (Option.some.inj h).symm

/-- Installations and tokens are not shared, and each node has its credential and its
configuration. -/
structure Consistent (s : EnrollmentStore) : Prop where
  installs : s.credentials.Unique AgentCredential.installID
  tokens : s.credentials.Unique AgentCredential.tokenID
  credentials : s.credentials.SameKeys s.nodes
  configs : s.configs.SameKeys s.nodes

lemma Consistent.writeInstall (h : s.Consistent) {calls : WriteCalls}
    (written : s.writeInstall params calls = .ok s') : s'.Consistent := by
  obtain ⟨pins, nodes, credentials, configs, -, hnodes, hcredential, hconfigs, rfl⟩ :=
    writeInstall_eq_ok written
  obtain ⟨hcredentials, fresh⟩ := insertCredential_eq_some hcredential
  exact
    { installs := h.installs.insertNew hcredentials fun r mem => (fresh r mem).1
      tokens := h.tokens.insertNew hcredentials fun r mem => (fresh r mem).2
      credentials := h.credentials.insertNew hcredentials hnodes rfl
      configs := h.configs.insertNew hconfigs hnodes rfl }

lemma Consistent.deleteNode (h : s.Consistent) {id : String}
    (deleted : s.deleteNode id = some s') : s'.Consistent := by
  rw [deleteNode_eq_some deleted]
  exact
    { installs := h.installs.deleteWhere _
      tokens := h.tokens.deleteWhere _
      credentials := h.credentials.deleteKey id
      configs := h.configs.deleteKey id }

end EnrollmentStore

/-! ## What an event does -/

namespace EnrollmentSystem

variable {s : EnrollmentSystem} {event : EnrollmentEvent}

@[simp] lemma setPhase_store (i : ℕ) (call : EnrollCall) (phase : EnrollPhase) :
    (s.setPhase i call phase).store = s.store := rfl

/-- What an event may do. -/
inductive Becomes (s : EnrollmentSystem) : EnrollmentEvent → EnrollmentSystem → Prop
  | idle (event : EnrollmentEvent) : Becomes s event s
  | enroll (params : EnrollParams) :
      Becomes s (.enroll params) { s with calls := s.calls ++ [{ params }] }
  | phase {event : EnrollmentEvent} {i : ℕ} {call : EnrollCall} (found : s.calls[i]? = some call)
      (own : event.call? = some i) (phase : EnrollPhase) : Becomes s event (s.setPhase i call phase)
  | write {i : ℕ} {call : EnrollCall} {answers : WriteCalls} {store : EnrollmentStore}
      (found : s.calls[i]? = some call) (absent : call.phase = .absent)
      (written : s.store.writeInstall call.params answers = .ok store) :
      Becomes s (.write i answers) { s.setPhase i call .committed with
        store
        creations := s.creations ++ s.creationsOf call.params }
  | deleteNode {id : String} {store : EnrollmentStore}
      (deleted : s.store.deleteNode id = some store) :
      Becomes s (.deleteNode id true) { s with store }
  | replacePIN (pin : TemporaryEnrollmentPIN) (now : Time) :
      Becomes s (.replacePIN pin now)
        { s with replacements := s.replacements ++ [{ pin, now, found := s.store.pins.unrevoked }] }
  | commitPIN {i : ℕ} {call : ReplaceCall} {pins : PINTable}
      (replaced : s.store.pins.replace call.found call.pin call.now = some pins) :
      Becomes s (.commitPIN i true)
        { s with
          store := { s.store with pins }
          replacements := s.replacements.set i { call with finished := true } }
  | revokePIN {id : String} {now : Time} {pins : PINTable}
      (revoked : s.store.pins.revoke id now = some pins) :
      Becomes s (.revokePIN id now true) { s with store := { s.store with pins } }

lemma becomes_onCall {i : ℕ} {f : EnrollCall → EnrollmentSystem}
    (h : ∀ call, s.calls[i]? = some call → Becomes s event (f call)) :
    Becomes s event (s.onCall i f) := by
  unfold onCall
  split
  next call found => exact h call found
  next => exact .idle event

lemma becomes_step (s : EnrollmentSystem) (event : EnrollmentEvent) :
    Becomes s event (s.step event) := by
  cases event with
  | enroll params => exact .enroll params
  | read i works =>
    refine becomes_onCall fun call found => ?_
    unfold read
    split
    · exact .phase found rfl _
    · exact .phase found rfl _
    · exact .phase found rfl _
    · exact .idle _
  | write i answers =>
    refine becomes_onCall fun call found => ?_
    unfold write
    split
    next absent =>
      split
      · exact .phase found rfl _
      next written => exact .write found absent written
    next => exact .idle _
  | reload i works =>
    refine becomes_onCall fun call found => ?_
    unfold reload
    split
    · split <;> exact .phase found rfl _
    · exact .idle _
  | deleteNode id works =>
    simp only [step]
    split
    next store deleted =>
      obtain ⟨rfl, deleted⟩ := Option.ite_none_right_eq_some.mp deleted
      exact .deleteNode deleted
    next => exact .idle _
  | replacePIN pin now => exact .replacePIN pin now
  | commitPIN i works =>
    simp only [step]
    split
    next call _ =>
      split
      next hworks =>
        obtain ⟨rfl, -⟩ := hworks
        unfold commitPIN
        split
        · exact .idle _
        next replaced => exact .commitPIN replaced
      next => exact .idle _
    next => exact .idle _
  | revokePIN id now works =>
    simp only [step]
    split
    next pins revoked =>
      obtain ⟨rfl, revoked⟩ := Option.ite_none_right_eq_some.mp revoked
      exact .revokePIN revoked
    next => exact .idle _

/-- The changes of the store: an enrollment writes, a node is deleted, or the PINs are managed. -/
lemma step_store (s : EnrollmentSystem) (event : EnrollmentEvent) :
    (s.step event).store = s.store ∨
      (∃ i call answers, event = .write i answers ∧ s.calls[i]? = some call ∧
        call.phase = .absent ∧
        s.store.writeInstall call.params answers = .ok (s.step event).store) ∨
      (∃ id, event = .deleteNode id true ∧ s.store.deleteNode id = some (s.step event).store) ∨
      (event.isEnroll = false ∧ ∃ pins, (s.step event).store = { s.store with pins }) := by
  have becomes := becomes_step s event
  generalize s.step event = s' at becomes ⊢
  cases becomes with
  | idle | enroll | phase | replacePIN => exact .inl rfl
  | write found absent written =>
    exact .inr (.inl ⟨_, _, _, rfl, found, absent, written⟩)
  | deleteNode deleted => exact .inr (.inr (.inl ⟨_, rfl, deleted⟩))
  | commitPIN | revokePIN => exact .inr (.inr (.inr ⟨rfl, _, rfl⟩))

lemma consistent_step (h : s.store.Consistent) (event : EnrollmentEvent) :
    (s.step event).store.Consistent := by
  rcases step_store s event with same | ⟨i, call, answers, -, -, -, written⟩ |
    ⟨id, -, deleted⟩ | ⟨-, pins, managed⟩
  · exact same ▸ h
  · exact h.writeInstall written
  · exact h.deleteNode deleted
  · exact managed ▸ ⟨h.installs, h.tokens, h.credentials, h.configs⟩

/-- A node that an event does not delete stays as it is. -/
lemma node_step {n m : NodeRow} (before : n ∈ s.store.nodes)
    (after : m ∈ (s.step event).store.nodes) (same : n.id = m.id) : n = m := by
  have stays : n ∈ (s.step event).store.nodes → n = m :=
    fun mem => KeyedTable.eq_of_key_eq mem after same
  rcases step_store s event with unchanged | ⟨i, call, answers, -, -, -, written⟩ |
    ⟨id, -, deleted⟩ | ⟨-, pins, managed⟩
  · exact stays (unchanged ▸ before)
  · obtain ⟨pins, nodes, credentials, configs, -, hnodes, -, -, eq⟩ :=
      EnrollmentStore.writeInstall_eq_ok written
    refine stays ?_
    rw [eq]
    exact ((KeyedTable.insertNew_eq_some hnodes).1 n).mpr (.inr before)
  · rw [EnrollmentStore.deleteNode_eq_some deleted] at after
    obtain ⟨mem, -⟩ := KeyedTable.mem_deleteWhere.mp after
    exact KeyedTable.eq_of_key_eq before mem same
  · exact stays (managed ▸ before)

/-! ## The calls -/

lemma onCall_of_found {i : ℕ} {call : EnrollCall} (found : s.calls[i]? = some call)
    (f : EnrollCall → EnrollmentSystem) : s.onCall i f = f call := by
  simp only [onCall, found]

/-- A call that takes its step leaves the others alone. -/
lemma setPhase_calls_of_ne {i j : ℕ} (hne : j ≠ i) (call : EnrollCall) (phase : EnrollPhase) :
    (s.setPhase j call phase).calls[i]? = s.calls[i]? :=
  List.getElem?_set_ne hne

lemma setPhase_calls {i : ℕ} {call : EnrollCall} (found : s.calls[i]? = some call)
    (phase : EnrollPhase) : (s.setPhase i call phase).calls[i]? = some { call with phase } := by
  obtain ⟨inside, -⟩ := List.getElem?_eq_some_iff.mp found
  simp [setPhase, inside]

/-- An enrollment whose read works goes on with it. -/
lemma step_read {i : ℕ} {call : EnrollCall} (found : s.calls[i]? = some call) :
    (s.step (.read i true)).calls[i]? =
      some { call with phase := s.store.read call.params call.phase } := by
  rw [step, onCall_of_found found, read]
  split
  · exact setPhase_calls found _
  · exact setPhase_calls found _
  · exact setPhase_calls found _
  next idle₁ idle₂ idle₃ =>
    have stays : s.store.read call.params call.phase = call.phase := by
      cases hphase : call.phase with
      | begun => exact absurd hphase idle₁
      | known nodeID => exact absurd hphase (idle₂ nodeID)
      | checked node => exact absurd hphase (idle₃ node)
      | absent | committed | returned => rfl
    rw [stays]
    exact found

/-- An enrollment stays where it is until its next step. -/
lemma step_call_other {i : ℕ} {call : EnrollCall} (found : s.calls[i]? = some call)
    (other : event.call? ≠ some i) : (s.step event).calls[i]? = some call := by
  have becomes := becomes_step s event
  generalize s.step event = s' at becomes ⊢
  cases becomes with
  | idle | deleteNode | replacePIN | commitPIN | revokePIN => exact found
  | enroll params =>
    obtain ⟨inside, -⟩ := List.getElem?_eq_some_iff.mp found
    exact (List.getElem?_append_left inside).trans found
  | phase _ own _ =>
    refine (setPhase_calls_of_ne (fun same => ?_) _ _).trans found
    exact other (own.trans (congrArg some same))
  | write => exact (setPhase_calls_of_ne (fun same => other (congrArg some same)) _ _).trans found

/-- An enrollment that neither found its installation unknown nor committed only reads. -/
lemma step_call_idle {i : ℕ} {call : EnrollCall} (found : s.calls[i]? = some call)
    (reading : call.phase ≠ .absent ∧ call.phase ≠ .committed) (own : event.call? = some i)
    (noRead : ∀ works, event ≠ .read i works) : s.step event = s := by
  cases event with
  | read j works => exact absurd (Option.some.inj own ▸ rfl) (noRead works)
  | write j answers =>
    obtain rfl : j = i := Option.some.inj own
    rw [step, onCall_of_found found, write]
    split
    next absent => exact absurd absent reading.1
    next => rfl
  | reload j works =>
    obtain rfl : j = i := Option.some.inj own
    rw [step, onCall_of_found found, reload]
    split
    next committed => exact absurd committed reading.2
    next => rfl
  | enroll _ | deleteNode _ _ | replacePIN _ _ | commitPIN _ _ | revokePIN _ _ _ => cases own

end EnrollmentSystem

end Hostpin
