import Hostpin.Agent.Convergence
import Hostpin.Alerting.Admin
import Hostpin.Store.Enrollment

/-!
# Versions of the configuration of an agent

The store has one configuration for each agent, in a column of its own and with the version that the
configuration holds as well.  `SaveAgentConfig` reads the version, counts it up, and updates the row
if it still has the version that was read; otherwise it tries again, five times in all.  An agent
takes over every configuration whose version is not below that of its own, so what it needs is that
later configurations have greater versions.

`ConfigSystem` runs enrollments and any number of saves in any order, next to the configurations
that were stored, in order (`ConfigSystem.history`).  The version is a 64-bit integer, the first one
is the enrolling agent's choice, and counting up wraps around (`ConfigSystem.version_wraps`).  As
long as no save replaces the greatest version everything is as it should be, and otherwise it is not
(`ConfigSystem.versions_iff`).
-/

namespace Hostpin

open Clock Text Runs

/-! ## Requests -/

/-- Check a configuration; one that is left blank is fine where there is a default. -/
def validateAgentConfig (cfg : AgentConfig) (allowDefault : Bool) : Except String Unit :=
  if !(allowDefault && cfg.collectIntervalSeconds = 0 && cfg.persistIntervalSeconds = 0) &&
      (cfg.collectIntervalSeconds < 1 || 300 < cfg.collectIntervalSeconds) then
    .error "collection interval must be 1 to 300 seconds"
  else if !(allowDefault && cfg.collectIntervalSeconds = 0 && cfg.persistIntervalSeconds = 0) &&
      (cfg.persistIntervalSeconds < cfg.collectIntervalSeconds ||
        24 * 60 * 60 < cfg.persistIntervalSeconds) then
    .error "persistence interval must be at least the collection interval and at most one day"
  else if 64 < cfg.includeNICs.length || 64 < cfg.excludeNICs.length ||
      64 < cfg.includeMountpoints.length then
    .error "collector filter list is too large"
  else if !(allowDefault && cfg.probeConcurrency = 0) &&
      (cfg.probeConcurrency < 1 || 32 < cfg.probeConcurrency) then
    .error "probe concurrency must be between 1 and 32"
  else if (cfg.includeNICs ++ cfg.excludeNICs ++ cfg.includeMountpoints).any fun value =>
      255 < value.utf8ByteSize || value.toList.any (·.toNat = 0) then
    .error "collector filter values must not exceed 255 characters"
  else .ok ()

/-- The configuration that a request of the administrator saves. -/
def requestedConfig (cfg : AgentConfig) (current : AgentConfigRow) : AgentConfig :=
  { cfg with
    includeNICs := normalizeAgentList cfg.includeNICs
    excludeNICs := normalizeAgentList cfg.excludeNICs
    includeMountpoints := normalizeAgentList cfg.includeMountpoints
    configVersion := current.config.configVersion }

/-! ## The system -/

/-- Why a save fails. -/
inductive SaveConfigError where
  | notFound
  | store
  | concurrent
deriving DecidableEq

/-- Where a save stands: before an attempt reads the version, after it, or at its end. -/
inductive SaveConfigPhase where
  | reading (attempt : ℕ)
  | updating (attempt : ℕ) (current : ℤ)
  | saved
  | failed (error : SaveConfigError)
deriving DecidableEq

/-- A save. -/
structure SaveConfigCall where
  nodeID : String
  config : AgentConfig
  phase : SaveConfigPhase := .reading 0

/-- The store, the saves, which are numbered by their place in the list, and the configurations that
were stored so far with their nodes, in order. -/
structure ConfigSystem where
  store : EnrollmentStore := {}
  calls : List SaveConfigCall := []
  stored : List (String × AgentConfig) := []

/-- What can happen.  A call of the store that does not work says so. -/
inductive ConfigEvent where
  | enroll (params : EnrollParams) (calls : WriteCalls)
  | save (nodeID : String) (cfg : AgentConfig) (works : Bool)
  | read (i : ℕ) (works : Bool)
  | update (i : ℕ) (works : Bool) (now : Time)

/-- A row after the update of a save, which looks for the version that was read. -/
def AgentConfigRow.update (row : AgentConfigRow) (nodeID : String) (current : ℤ)
    (config : AgentConfig) (now : Time) : AgentConfigRow :=
  if row.nodeID = nodeID ∧ row.configVersion = current then
    { row with config, configVersion := config.configVersion, updatedAt := unixMilli now }
  else row

@[simp] lemma AgentConfigRow.nodeID_update (nodeID : String) (current : ℤ) (config : AgentConfig)
    (now : Time) (row : AgentConfigRow) :
    (row.update nodeID current config now).nodeID = row.nodeID := by
  unfold update
  split_ifs <;> rfl

/-- The configuration that a save writes when it has read a version. -/
def SaveConfigCall.next (call : SaveConfigCall) (current : ℤ) : AgentConfig :=
  { call.config with configVersion := wrap64 (current + 1) }

namespace ConfigSystem

/-- A save goes on. -/
def setPhase (s : ConfigSystem) (i : ℕ) (call : SaveConfigCall) (phase : SaveConfigPhase) :
    ConfigSystem :=
  { s with calls := s.calls.set i { call with phase } }

/-- An agent enrolls. -/
def enroll (s : ConfigSystem) (params : EnrollParams) (calls : WriteCalls) : ConfigSystem :=
  match validateAgentConfig params.request.config true with
  | .error _ => s
  | .ok () =>
    match s.store.writeInstall params calls with
    | .error _ => s
    | .ok store => { s with store, stored := s.stored ++ [(params.nodeID, params.config)] }

/-- A request of the administrator begins a save. -/
def save (s : ConfigSystem) (nodeID : String) (cfg : AgentConfig) (works : Bool) : ConfigSystem :=
  match if works then s.store.configs.lookup nodeID else none with
  | none => s
  | some current =>
    match validateAgentConfig (requestedConfig cfg current) false with
    | .error _ => s
    | .ok () => { s with calls := s.calls ++ [{ nodeID, config := requestedConfig cfg current }] }

/-- An attempt reads the version of the row. -/
def read (s : ConfigSystem) (i : ℕ) (call : SaveConfigCall) (attempt : ℕ) (works : Bool) :
    ConfigSystem :=
  if !works then s.setPhase i call (.failed .store)
  else
    match s.store.configs.lookup call.nodeID with
    | none => s.setPhase i call (.failed .notFound)
    | some row => s.setPhase i call (.updating attempt row.configVersion)

/-- A save replaces the row that has the version it has read. -/
def replace (s : ConfigSystem) (i : ℕ) (call : SaveConfigCall) (current : ℤ) (now : Time) :
    ConfigSystem :=
  { store := { s.store with
      configs := s.store.configs.updateAll (·.update call.nodeID current (call.next current) now)
        (AgentConfigRow.nodeID_update call.nodeID current (call.next current) now) }
    calls := s.calls.set i { call with phase := .saved }
    stored := s.stored ++ [(call.nodeID, call.next current)] }

/-- An attempt updates the row if it still has the version that was read. -/
def update (s : ConfigSystem) (i : ℕ) (call : SaveConfigCall) (attempt : ℕ) (current : ℤ)
    (works : Bool) (now : Time) : ConfigSystem :=
  if !works then s.setPhase i call (.failed .store)
  else if s.store.configs.rows.any fun row =>
      row.nodeID = call.nodeID && row.configVersion = current then
    s.replace i call current now
  else if attempt + 1 < 5 then s.setPhase i call (.reading (attempt + 1))
  else s.setPhase i call (.failed .concurrent)

/-- The system after an event. -/
def step (s : ConfigSystem) : ConfigEvent → ConfigSystem
  | .enroll params calls => s.enroll params calls
  | .save nodeID cfg works => s.save nodeID cfg works
  | .read i works =>
    match s.calls[i]? with
    | none => s
    | some call =>
      match call.phase with
      | .reading attempt => s.read i call attempt works
      | _ => s
  | .update i works now =>
    match s.calls[i]? with
    | none => s
    | some call =>
      match call.phase with
      | .updating attempt current => s.update i call attempt current works now
      | _ => s

/-- The configurations that were stored for a node, in order. -/
def history (s : ConfigSystem) (nodeID : String) : List AgentConfig :=
  (s.stored.filter (·.1 = nodeID)).map Prod.snd

/-! ## What is to be shown -/

/-- A save succeeds in a step. -/
def Succeeds (s s' : ConfigSystem) (call : SaveConfigCall) : Prop :=
  ∃ i : ℕ, s.calls[i]? = some call ∧ call.phase ≠ .saved ∧
    s'.calls[i]? = some { call with phase := .saved }

/-- What a step of a save does.  A save that succeeds counts up the version of the row it replaces,
and otherwise nothing changes. -/
structure Saves (s s' : ConfigSystem) : Prop where
  counts : ∀ call, Succeeds s s' call → ∃ old ∈ s.store.configs, ∃ new ∈ s'.store.configs,
    old.nodeID = call.nodeID ∧ new.nodeID = call.nodeID ∧
      new.configVersion = old.configVersion + 1 ∧
      new.config = { call.config with configVersion := new.configVersion } ∧
      ∀ row : AgentConfigRow, row.nodeID ≠ call.nodeID →
        (row ∈ s'.store.configs ↔ row ∈ s.store.configs)
  otherwise : (∀ call, ¬Succeeds s s' call) → s'.store = s.store

/-- An event does what it should, if it is one of a save. -/
def SavesAt (s : ConfigSystem) : ConfigEvent → Prop
  | .enroll _ _ => True
  | event => Saves s (s.step event)

/-- The column has the version that the configuration holds. -/
def SameVersion (s : ConfigSystem) : Prop :=
  ∀ row ∈ s.store.configs, row.config.configVersion = row.configVersion

/-- The one of some configurations that was stored last. -/
def Newest (history received : List AgentConfig) (config : AgentConfig) : Prop :=
  config ∈ received ∧ ∀ other ∈ received, ∃ j k : ℕ, j ≤ k ∧ history[j]? = some other ∧
    history[k]? = some config

end ConfigSystem

/-- An agent applies some acks. -/
def AgentRuntime.applyAcks (r : AgentRuntime) (acks : List AckDelivery) : AgentRuntime :=
  acks.foldl (fun r d => r.applyAck d.ack d.path.syncTasks d.clock d.taskClock) r

namespace ConfigSystem

/-- Every agent that has a configuration of its node and applies acks with configurations of its
node, in any order, ends on the newest of them. -/
def AgentsFollow (s : ConfigSystem) : Prop :=
  ∀ (nodeID : String) (r : AgentRuntime) (acks : List AckDelivery),
    r.config ∈ s.history nodeID → (∀ d ∈ acks, d.ack.config ∈ s.history nodeID) →
      Newest (s.history nodeID) (r.config :: acks.map (·.ack.config)) (r.applyAcks acks).config

/-- An update does not replace the greatest version. -/
def BelowMax (s : ConfigSystem) : ConfigEvent → Prop
  | .update i works _ => ∀ call attempt current, s.calls[i]? = some call →
      call.phase = .updating attempt current → works = true →
      ∀ row ∈ s.store.configs, row.nodeID = call.nodeID → row.configVersion = current →
        current < maxInt64
  | _ => True

/-! ## What an event does -/

variable {s : ConfigSystem} {event : ConfigEvent}

/-- An enrollment stores the first configuration of a node, a save replaces a row, and any other
event leaves the store as it is; then no save succeeds. -/
inductive Becomes (s : ConfigSystem) : ConfigEvent → ConfigSystem → Prop
  | enrolled {params calls store} (written : s.store.writeInstall params calls = .ok store) :
      Becomes s (.enroll params calls)
        { s with store, stored := s.stored ++ [(params.nodeID, params.config)] }
  | replaced {i : ℕ} {call attempt current now} (found : s.calls[i]? = some call)
      (phase : call.phase = .updating attempt current)
      (row : ∃ row ∈ s.store.configs, row.nodeID = call.nodeID ∧ row.configVersion = current) :
      Becomes s (.update i true now) (s.replace i call current now)
  | begun {e call} (config : 0 < call.config.collectIntervalSeconds)
      (phase : call.phase = .reading 0) :
      Becomes s e { s with calls := s.calls ++ [call] }
  | moved {e} {i : ℕ} {call phase} (found : s.calls[i]? = some call) (unsaved : phase ≠ .saved) :
      Becomes s e (s.setPhase i call phase)
  | same {e} : Becomes s e s

/-- A validated configuration has an interval. -/
lemma pos_of_validateAgentConfig {cfg : AgentConfig} (h : validateAgentConfig cfg false = .ok ()) :
    0 < cfg.collectIntervalSeconds := by
  by_contra! nonpos
  rw [validateAgentConfig, if_pos] at h
  · cases h
  · simp only [Bool.false_and, Bool.not_false, Bool.true_and, Bool.or_eq_true, decide_eq_true_eq]
    exact Or.inl (by omega)

/-- A save replaces the row that has the version it has read. -/
lemma step_of_row {i : ℕ} {call : SaveConfigCall} {attempt : ℕ} {current : ℤ}
    (found : s.calls[i]? = some call) (phase : call.phase = .updating attempt current)
    {row : AgentConfigRow} (mem : row ∈ s.store.configs) (node : row.nodeID = call.nodeID)
    (version : row.configVersion = current) (now : Time) :
    s.step (.update i true now) = s.replace i call current now := by
  simp only [step, found, phase, update, Bool.not_true, Bool.false_eq_true, if_false]
  rw [if_pos]
  exact List.any_eq_true.mpr ⟨row, mem, by simp [node, version]⟩

lemma becomes_step (s : ConfigSystem) (event : ConfigEvent) : Becomes s event (s.step event) := by
  cases event with
  | enroll params calls =>
    simp only [step, enroll]
    cases validateAgentConfig params.request.config true with
    | error message => exact .same
    | ok =>
      cases written : s.store.writeInstall params calls with
      | error e => exact .same
      | ok store => exact .enrolled written
  | save nodeID cfg works =>
    simp only [step, save]
    cases if works then s.store.configs.lookup nodeID else none with
    | none => exact .same
    | some current =>
      cases valid : validateAgentConfig (requestedConfig cfg current) false with
      | error message => simp only [valid]; exact .same
      | ok =>
        simp only [valid]
        exact .begun (pos_of_validateAgentConfig valid) rfl
  | read i works =>
    simp only [step]
    cases found : s.calls[i]? with
    | none => exact .same
    | some call =>
      cases phase : call.phase with
      | reading attempt =>
        simp only [phase, read]
        by_cases fails : !works
        · rw [if_pos fails]
          exact .moved found (by rintro ⟨⟩)
        · rw [if_neg fails]
          cases s.store.configs.lookup call.nodeID with
          | none => exact .moved found (by rintro ⟨⟩)
          | some row => exact .moved found (by rintro ⟨⟩)
      | updating attempt current => simp only [phase]; exact .same
      | saved => simp only [phase]; exact .same
      | failed error => simp only [phase]; exact .same
  | update i works now =>
    simp only [step]
    cases found : s.calls[i]? with
    | none => exact .same
    | some call =>
      cases phase : call.phase with
      | updating attempt current =>
        simp only [phase, update]
        by_cases fails : !works
        · rw [if_pos fails]
          exact .moved found (by rintro ⟨⟩)
        rw [if_neg fails]
        obtain rfl : works = true := by simpa using fails
        by_cases present : s.store.configs.rows.any fun row =>
            row.nodeID = call.nodeID && row.configVersion = current
        · rw [if_pos present]
          obtain ⟨row, mem, eq⟩ := List.any_eq_true.mp present
          exact .replaced found phase ⟨row, mem, by simpa using eq⟩
        rw [if_neg present]
        by_cases again : attempt + 1 < 5
        · rw [if_pos again]
          exact .moved found (by rintro ⟨⟩)
        · rw [if_neg again]
          exact .moved found (by rintro ⟨⟩)
      | reading attempt => simp only [phase]; exact .same
      | saved => simp only [phase]; exact .same
      | failed error => simp only [phase]; exact .same

/-! ## A step that counts up -/

/-- The rows after a replacement. -/
lemma mem_replace {i : ℕ} {call : SaveConfigCall} {current : ℤ} {now : Time}
    {row : AgentConfigRow} :
    row ∈ (s.replace i call current now).store.configs ↔ ∃ old ∈ s.store.configs,
      old.update call.nodeID current (call.next current) now = row :=
  @KeyedTable.mem_updateAll _ _ _ _ _
    (AgentConfigRow.nodeID_update call.nodeID current (call.next current) now) row

/-- A step without a replacement has no save that succeeds. -/
lemma not_succeeds_setPhase {i : ℕ} {call : SaveConfigCall} {phase : SaveConfigPhase}
    (found : s.calls[i]? = some call) (unsaved : phase ≠ .saved) (other : SaveConfigCall) :
    ¬Succeeds s (s.setPhase i call phase) other := by
  rintro ⟨j, before, running, after⟩
  by_cases same : i = j
  · subst same
    rw [setPhase, List.getElem?_set_self (List.getElem?_eq_some_iff.mp found).1] at after
    exact unsaved (congrArg SaveConfigCall.phase (Option.some.inj after))
  · rw [setPhase, List.getElem?_set_ne same, before] at after
    exact running (congrArg SaveConfigCall.phase (Option.some.inj after))

lemma not_succeeds_append (call other : SaveConfigCall) :
    ¬Succeeds s { s with calls := s.calls ++ [call] } other := by
  rintro ⟨j, before, running, after⟩
  rw [List.getElem?_append_left (List.getElem?_eq_some_iff.mp before).1, before] at after
  exact running (congrArg SaveConfigCall.phase (Option.some.inj after))

lemma not_succeeds_self (other : SaveConfigCall) : ¬Succeeds s s other := by
  rintro ⟨j, before, running, after⟩
  rw [before] at after
  exact running (congrArg SaveConfigCall.phase (Option.some.inj after))

/-- The only save that succeeds in a replacement is the one that replaces. -/
lemma succeeds_replace_iff {i : ℕ} {call : SaveConfigCall} {attempt : ℕ} {current : ℤ} {now : Time}
    (found : s.calls[i]? = some call) (phase : call.phase = .updating attempt current)
    (other : SaveConfigCall) :
    Succeeds s (s.replace i call current now) other ↔ other = call := by
  constructor
  · rintro ⟨j, before, running, after⟩
    by_cases same : i = j
    · subst same
      rw [found] at before
      exact (Option.some.inj before).symm
    · rw [replace, List.getElem?_set_ne same, before] at after
      exact absurd (congrArg SaveConfigCall.phase (Option.some.inj after)) running
  · rintro rfl
    refine ⟨i, found, by simp [phase], ?_⟩
    rw [replace, List.getElem?_set_self (List.getElem?_eq_some_iff.mp found).1]

/-- A replacement does what it should if and only if it counts up. -/
lemma saves_replace_iff {i : ℕ} {call : SaveConfigCall} {attempt : ℕ} {current : ℤ} {now : Time}
    (found : s.calls[i]? = some call) (phase : call.phase = .updating attempt current)
    {row : AgentConfigRow} (mem : row ∈ s.store.configs) (node : row.nodeID = call.nodeID)
    (version : row.configVersion = current) :
    Saves s (s.replace i call current now) ↔ wrap64 (current + 1) = current + 1 := by
  have updated : row.update call.nodeID current (call.next current) now =
      ⟨row.nodeID, call.next current, wrap64 (current + 1), unixMilli now⟩ := by
    rw [AgentConfigRow.update, if_pos ⟨node, version⟩]
    rfl
  have mem' : row.update call.nodeID current (call.next current) now ∈
      (s.replace i call current now).store.configs := mem_replace.mpr ⟨row, mem, rfl⟩
  constructor
  · intro saves
    obtain ⟨old, oldMem, new, newMem, oldNode, newNode, counts, -⟩ :=
      saves.counts call ((succeeds_replace_iff found phase call).mpr rfl)
    obtain rfl := KeyedTable.eq_of_key_eq oldMem mem (oldNode.trans node.symm)
    have same : new = old.update call.nodeID current (call.next current) now :=
      KeyedTable.eq_of_key_eq newMem mem'
        (newNode.trans (by rw [AgentConfigRow.nodeID_update, node]))
    rw [same, updated, version] at counts
    exact counts
  · intro counts
    refine ⟨fun other succeeds => ?_, fun none => ?_⟩
    · obtain rfl := (succeeds_replace_iff found phase other).mp succeeds
      refine ⟨row, mem, _, mem', node, by rw [AgentConfigRow.nodeID_update, node], ?_, ?_, ?_⟩
      · rw [updated, version]
        exact counts
      · rw [updated]
        rfl
      · intro r hr
        rw [mem_replace]
        constructor
        · rintro ⟨old, oldMem, rfl⟩
          rw [AgentConfigRow.nodeID_update] at hr
          rwa [AgentConfigRow.update, if_neg (fun h => hr h.1)]
        · intro rmem
          exact ⟨r, rmem, by rw [AgentConfigRow.update, if_neg (fun h => hr h.1)]⟩
    · exact absurd ((succeeds_replace_iff found phase call).mpr rfl) (none call)

/-- Counting up the greatest version wraps around. -/
lemma lt_maxInt64_of_wrap64 {n : ℤ} (h : wrap64 (n + 1) = n + 1) : n < maxInt64 := by
  unfold wrap64 at h
  unfold maxInt64
  rw [Int.bmod_def] at h
  split at h <;> omega

/-- A step that counts up does not replace the greatest version. -/
lemma belowMax_of_savesAt (h : s.SavesAt event) : s.BelowMax event := by
  cases event with
  | update i works now =>
    rintro call attempt current found phase rfl row mem node version
    change Saves s (s.step (.update i true now)) at h
    rw [step_of_row found phase mem node version] at h
    exact lt_maxInt64_of_wrap64 ((saves_replace_iff found phase mem node version).mp h)
  | enroll params calls => trivial
  | save nodeID cfg works => trivial
  | read i works => trivial

/-! ## The invariant -/

/-- Versions are positive and the ones of the configurations, later configurations of a node have
greater versions, none of them greater than that of the row, and all configurations have an
interval. -/
structure Inv (s : ConfigSystem) : Prop where
  pos : ∀ row ∈ s.store.configs, 1 ≤ row.configVersion
  same : s.SameVersion
  sorted : ∀ nodeID, (s.history nodeID).Pairwise fun c d => c.configVersion < d.configVersion
  covered : ∀ nodeID, ∀ c ∈ s.history nodeID, 0 < c.collectIntervalSeconds ∧
    ∃ row ∈ s.store.configs, row.nodeID = nodeID ∧ c.configVersion ≤ row.configVersion
  calls : ∀ call ∈ s.calls, 0 < call.config.collectIntervalSeconds

lemma history_append (stored : List (String × AgentConfig)) (store : EnrollmentStore)
    (calls : List SaveConfigCall) (nodeID nodeID' : String) (config : AgentConfig) :
    (ConfigSystem.mk store calls (stored ++ [(nodeID, config)])).history nodeID' =
      (stored.filter (·.1 = nodeID')).map Prod.snd ++ if nodeID = nodeID' then [config] else [] := by
  rw [history, List.filter_append, List.map_append]
  congr 1
  by_cases h : nodeID = nodeID' <;> simp [h]

lemma one_le_configVersion (params : EnrollParams) : 1 ≤ params.config.configVersion := by
  unfold EnrollParams.config
  simp only
  split_ifs <;> omega

lemma collectIntervalSeconds_pos (params : EnrollParams) :
    0 < params.config.collectIntervalSeconds := by
  by_cases h : params.request.config.collectIntervalSeconds ≤ 0
  · simp [EnrollParams.config, h, defaultAgentConfig]
  · simp only [EnrollParams.config, h, if_false]
    omega

/-- One more configuration in the history of a node. -/
lemma Inv.append (h : s.Inv) {store : EnrollmentStore} {calls : List SaveConfigCall}
    {nodeID : String} {config : AgentConfig} (interval : 0 < config.collectIntervalSeconds)
    (newer : ∀ c ∈ s.history nodeID, c.configVersion < config.configVersion)
    (row : ∃ row ∈ store.configs, row.nodeID = nodeID ∧
      row.configVersion = config.configVersion)
    (others : ∀ row ∈ s.store.configs, row.nodeID ≠ nodeID → row ∈ store.configs)
    (pos : ∀ row ∈ store.configs, 1 ≤ row.configVersion)
    (same : ∀ row ∈ store.configs, row.config.configVersion = row.configVersion)
    (hcalls : ∀ call ∈ calls, 0 < call.config.collectIntervalSeconds) :
    (ConfigSystem.mk store calls (s.stored ++ [(nodeID, config)])).Inv where
  pos := pos
  same := same
  sorted nodeID' := by
    rw [history_append]
    by_cases hnode : nodeID = nodeID'
    · subst hnode
      rw [if_pos rfl, List.pairwise_append]
      refine ⟨h.sorted nodeID, List.pairwise_singleton _ _, fun c mem d hd => ?_⟩
      rw [List.mem_singleton.mp hd]
      exact newer c mem
    · rw [if_neg hnode, List.append_nil]
      exact h.sorted nodeID'
  covered nodeID' c mem := by
    rw [history_append] at mem
    obtain ⟨current, rowMem, rowNode, rowVersion⟩ := row
    rcases List.mem_append.mp mem with old | new
    · obtain ⟨interval, oldRow, oldMem, oldNode, le⟩ := h.covered nodeID' c old
      refine ⟨interval, ?_⟩
      by_cases hnode : nodeID = nodeID'
      · subst hnode
        exact ⟨current, rowMem, rowNode, (rowVersion ▸ newer c old).le⟩
      · exact ⟨oldRow, others oldRow oldMem (fun h => hnode (h.symm.trans oldNode)), oldNode, le⟩
    · by_cases hnode : nodeID = nodeID'
      · subst hnode
        rw [if_pos rfl, List.mem_singleton] at new
        subst new
        exact ⟨interval, current, rowMem, rowNode, rowVersion.ge⟩
      · rw [if_neg hnode] at new
        cases new
  calls := hcalls

/-- An update below the greatest version counts up. -/
lemma Inv.wrap64_eq (h : s.Inv) {i : ℕ} {call : SaveConfigCall} {attempt : ℕ} {current : ℤ}
    {now : Time} (below : s.BelowMax (.update i true now)) (found : s.calls[i]? = some call)
    (phase : call.phase = .updating attempt current)
    {row : AgentConfigRow} (mem : row ∈ s.store.configs) (node : row.nodeID = call.nodeID)
    (version : row.configVersion = current) : wrap64 (current + 1) = current + 1 := by
  have pos := h.pos row mem
  have lt := below call attempt current found phase rfl row mem node version
  refine wrap64_eq_self ?_ (by omega)
  unfold minInt64
  omega

/-- A step below the greatest version keeps the invariant. -/
lemma Inv.step (h : s.Inv) (below : s.BelowMax event) : (s.step event).Inv := by
  have becomes := becomes_step s event
  generalize s.step event = s' at becomes
  cases becomes with
  | same => exact h
  | @moved _ i call phase found unsaved =>
    refine { h with calls := fun other mem => ?_ }
    rcases List.mem_or_eq_of_mem_set mem with mem | rfl
    · exact h.calls other mem
    · exact h.calls call (List.mem_of_getElem? found)
  | begun config phase =>
    refine { h with calls := fun call mem => ?_ }
    rcases List.mem_append.mp mem with mem | mem
    · exact h.calls call mem
    · rw [List.mem_singleton.mp mem]
      exact config
  | @enrolled params calls store written =>
    obtain ⟨pins, nodes, credentials, configs, -, -, -, hconfigs, rfl⟩ :=
      EnrollmentStore.writeInstall_eq_ok written
    obtain ⟨rows, fresh⟩ := KeyedTable.insertNew_eq_some hconfigs
    refine h.append (collectIntervalSeconds_pos params) (fun c mem => ?_)
      ⟨params.configRow, (rows _).mpr (Or.inl rfl), rfl, rfl⟩
      (fun row mem _ => (rows row).mpr (Or.inr mem)) (fun row mem => ?_) (fun row mem => ?_) h.calls
    · obtain ⟨-, row, mem, node, -⟩ := h.covered _ c mem
      exact absurd node (fresh row mem)
    · rcases (rows row).mp mem with rfl | mem
      · exact one_le_configVersion params
      · exact h.pos row mem
    · rcases (rows row).mp mem with rfl | mem
      · rfl
      · exact h.same row mem
  | @replaced i call attempt current now found phase row =>
    obtain ⟨row, mem, node, version⟩ := row
    have counts := h.wrap64_eq below found phase mem node version
    have updated : ∀ r : AgentConfigRow, r.nodeID = call.nodeID ∧ r.configVersion = current →
        (r.update call.nodeID current (call.next current) now).configVersion = current + 1 ∧
        (r.update call.nodeID current (call.next current) now).config.configVersion =
          current + 1 := by
      intro r hr
      rw [AgentConfigRow.update, if_pos hr]
      exact ⟨counts, counts⟩
    refine h.append (h.calls call (List.mem_of_getElem? found)) (fun c hc => ?_)
      ⟨_, (mem_replace (i := i)).mpr ⟨row, mem, rfl⟩, by rw [AgentConfigRow.nodeID_update, node],
        (updated row ⟨node, version⟩).1.trans counts.symm⟩
      (fun r hr hne => (mem_replace (i := i)).mpr
        ⟨r, hr, by rw [AgentConfigRow.update, if_neg (fun h => hne h.1)]⟩)
      (fun r hr => ?_) (fun r hr => ?_) (fun c hc => ?_)
    · obtain ⟨-, r, hr, hnode, le⟩ := h.covered _ c hc
      obtain rfl := KeyedTable.eq_of_key_eq hr mem (hnode.trans node.symm)
      have next : (call.next current).configVersion = current + 1 := counts
      omega
    · obtain ⟨old, hold, rfl⟩ := (mem_replace (i := i)).mp hr
      by_cases matched : old.nodeID = call.nodeID ∧ old.configVersion = current
      · rw [(updated old matched).1]
        have := h.pos old hold
        omega
      · rw [AgentConfigRow.update, if_neg matched]
        exact h.pos old hold
    · obtain ⟨old, hold, rfl⟩ := (mem_replace (i := i)).mp hr
      by_cases matched : old.nodeID = call.nodeID ∧ old.configVersion = current
      · rw [(updated old matched).1, (updated old matched).2]
      · rw [AgentConfigRow.update, if_neg matched]
        exact h.same old hold
    · rcases List.mem_or_eq_of_mem_set hc with hc | rfl
      · exact h.calls c hc
      · exact h.calls call (List.mem_of_getElem? found)

/-- A step below the greatest version counts up. -/
lemma Inv.savesAt (h : s.Inv) (below : s.BelowMax event) : s.SavesAt event := by
  have saves : ∀ s', Becomes s event s' → s.SavesAt event ∨ (s' = s.step event → Saves s s') := by
    intro s' becomes
    cases becomes with
    | enrolled written => exact Or.inl trivial
    | @replaced i call attempt current now found phase row =>
      obtain ⟨row, mem, node, version⟩ := row
      exact Or.inr fun _ => (saves_replace_iff found phase mem node version).mpr
        (h.wrap64_eq below found phase mem node version)
    | @begun e call config phase =>
      exact Or.inr fun _ => ⟨fun other succeeds => absurd succeeds (not_succeeds_append call other),
        fun _ => rfl⟩
    | moved found unsaved =>
      exact Or.inr fun _ =>
        ⟨fun other succeeds => absurd succeeds (not_succeeds_setPhase found unsaved other),
          fun _ => rfl⟩
    | same =>
      exact Or.inr fun _ => ⟨fun other succeeds => absurd succeeds (not_succeeds_self other),
        fun _ => rfl⟩
  rcases saves _ (becomes_step s event) with done | saves
  · exact done
  · cases event with
    | enroll params calls => trivial
    | save nodeID cfg works => exact saves rfl
    | read i works => exact saves rfl
    | update i works now => exact saves rfl

end ConfigSystem

/-! ## Agents -/

/-- An ack with a configuration that has an interval is applied unless it is older. -/
lemma AgentRuntime.config_applyAck (r : AgentRuntime) {ack : AgentAck}
    (interval : 0 < ack.config.collectIntervalSeconds) (syncTasks : Bool) (clock : Time)
    (taskClock : ℤ → Time) :
    (r.applyAck ack syncTasks clock taskClock).config =
      if r.config.configVersion ≤ ack.config.configVersion then ack.config else r.config := by
  have kept : (r.applyServerTime ack clock).config = r.config := by
    unfold applyServerTime
    split_ifs <;> rfl
  have applied : ((r.applyServerTime ack clock).applyConfig ack).config =
      if r.config.configVersion ≤ ack.config.configVersion then ack.config else r.config := by
    simp only [applyConfig, kept, interval, decide_true, Bool.true_and, decide_eq_true_eq]
    split_ifs
    · rfl
    · exact kept
  rw [← applied]
  unfold applyAck
  dsimp only
  split_ifs <;> rfl

/-- An agent ends on one of the configurations that it had or got, and none of them has a greater
version. -/
lemma AgentRuntime.config_applyAcks (r : AgentRuntime) {acks : List AckDelivery}
    (intervals : ∀ d ∈ acks, 0 < d.ack.config.collectIntervalSeconds) :
    (r.applyAcks acks).config ∈ r.config :: acks.map (·.ack.config) ∧
      ∀ other ∈ r.config :: acks.map (·.ack.config),
        other.configVersion ≤ (r.applyAcks acks).config.configVersion := by
  induction acks generalizing r with
  | nil => exact ⟨List.mem_cons_self, fun other mem => by rw [List.mem_singleton.mp mem]; rfl⟩
  | cons d acks ih =>
    have config := r.config_applyAck (intervals d List.mem_cons_self) d.path.syncTasks d.clock
      d.taskClock
    have later : (r.applyAcks (d :: acks)) =
        (r.applyAck d.ack d.path.syncTasks d.clock d.taskClock).applyAcks acks := rfl
    obtain ⟨mem, greatest⟩ := ih (r.applyAck d.ack d.path.syncTasks d.clock d.taskClock)
      fun e he => intervals e (List.mem_cons_of_mem _ he)
    rw [later]
    have first := greatest _ List.mem_cons_self
    rw [config] at first
    refine ⟨?_, fun other hother => ?_⟩
    · rcases List.mem_cons.mp mem with same | mem
      · rw [same, config]
        split_ifs <;> simp
      · exact List.mem_cons_of_mem _ (List.mem_cons_of_mem _ mem)
    · rw [List.map_cons] at hother
      rcases List.mem_cons.mp hother with rfl | hother
      · split_ifs at first with le
        · exact le.trans first
        · exact first
      rcases List.mem_cons.mp hother with rfl | hother
      · split_ifs at first with le
        · exact first
        · exact (not_le.mp le).le.trans first
      · exact greatest other (List.mem_cons_of_mem _ hother)

namespace ConfigSystem

variable {s : ConfigSystem}

/-- A greater version was stored later. -/
lemma Inv.exists_le (h : s.Inv) {nodeID : String} {c d : AgentConfig} (hc : c ∈ s.history nodeID)
    (hd : d ∈ s.history nodeID) (le : d.configVersion ≤ c.configVersion) :
    ∃ j k : ℕ, j ≤ k ∧ (s.history nodeID)[j]? = some d ∧ (s.history nodeID)[k]? = some c := by
  obtain ⟨j, hj, rfl⟩ := List.getElem_of_mem hd
  obtain ⟨k, hk, rfl⟩ := List.getElem_of_mem hc
  refine ⟨j, k, ?_, List.getElem?_eq_getElem hj, List.getElem?_eq_getElem hk⟩
  by_contra! later
  have := List.pairwise_iff_getElem.mp (h.sorted nodeID) k j hk hj later
  omega

lemma Inv.agentsFollow (h : s.Inv) : s.AgentsFollow := by
  intro nodeID r acks own sent
  obtain ⟨mem, greatest⟩ := r.config_applyAcks fun d hd => (h.covered nodeID _ (sent d hd)).1
  have known : ∀ other ∈ r.config :: acks.map (·.ack.config), other ∈ s.history nodeID := by
    intro other hother
    rcases List.mem_cons.mp hother with rfl | hother
    · exact own
    · obtain ⟨d, hd, rfl⟩ := List.mem_map.mp hother
      exact sent d hd
  exact ⟨mem, fun other hother =>
    h.exists_le (known _ mem) (known other hother) (greatest other hother)⟩

lemma inv_empty : Inv {} where
  pos row mem := absurd mem (KeyedTable.notMem_empty row)
  same row mem := absurd mem (KeyedTable.notMem_empty row)
  sorted _ := List.Pairwise.nil
  covered _ _ mem := absurd mem List.not_mem_nil
  calls _ mem := absurd mem List.not_mem_nil

/-- In every run, each save that succeeds counts up the version by one and nothing else changes, the
column is always the version of the configuration, and agents end on the newest configuration that
they have got, if and only if no save replaces the greatest version. -/
theorem versions_iff (events : List ConfigEvent) :
    (Along ConfigSystem.step SavesAt {} events ∧
        Always ConfigSystem.step (fun s => s.SameVersion ∧ s.AgentsFollow) {} events) ↔
      Along ConfigSystem.step BelowMax {} events := by
  constructor
  · rintro ⟨saves, -⟩
    exact saves.of_invariant (I := fun _ => True) (fun _ _ _ _ => trivial)
      (fun _ _ _ h => belowMax_of_savesAt h) trivial
  · intro below
    refine ⟨below.of_invariant (I := Inv) (fun _ _ h => h.step) (fun _ _ h => h.savesAt) inv_empty,
      ?_⟩
    rintro before ⟨after, rfl⟩
    have inv : Inv (run ConfigSystem.step {} before) :=
      run_keeps_along (fun _ _ h => h.step) inv_empty (along_append.mp below).1
    exact ⟨inv.same, inv.agentsFollow⟩

/-- An agent that enrolls with the greatest version. -/
def greatestVersion : EnrollParams where
  request :=
    { installID := "i1"
      config := { collectIntervalSeconds := 3, persistIntervalSeconds := 60, probeConcurrency := 4,
                  configVersion := maxInt64 } }
  nodeID := "n1"
  tokenID := "t1"
  tokenHash := "h1"

/-- The agent enrolls, and then the administrator saves a configuration. -/
def savedGreatest : List ConfigEvent :=
  [.enroll greatestVersion {},
    .save "n1"
      { collectIntervalSeconds := 5, persistIntervalSeconds := 60, probeConcurrency := 4 } true,
    .read 0 true, .update 0 true 0]

/-- A save that replaces the greatest version counts down. -/
theorem version_wraps :
    ¬ ∀ events : List ConfigEvent, Along ConfigSystem.step SavesAt {} events ∧
      Always ConfigSystem.step (fun s => s.SameVersion ∧ s.AgentsFollow) {} events := by
  intro claim
  obtain ⟨-, -, -, last, -⟩ := (claim savedGreatest).1
  have below := belowMax_of_savesAt last _ 0 maxInt64 rfl rfl rfl greatestVersion.configRow
    List.mem_cons_self rfl rfl
  exact lt_irrefl _ below

end ConfigSystem

end Hostpin
