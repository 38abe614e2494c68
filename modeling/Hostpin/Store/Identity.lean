import Hostpin.Store.Enrollment

/-!
# The identity of an installation

`enrollment_identity` says of every interleaving of enrollments and deletions that an installation
and a token belong to one node at most, that each node has one credential and one configuration,
that a known installation gets its node or a conflict, and that an enrollment that creates no node
changes nothing.

An enrollment of a known installation is followed by the number of its reads (`Reached`).
-/

namespace Hostpin

open Runs

namespace EnrollmentSystem

variable {s : EnrollmentSystem} {event : EnrollmentEvent}

/-! ## A known installation -/

/-- What an enrollment of a known installation answers. -/
def answerOf (params : EnrollParams) (credential : AgentCredential) (node : NodeRow)
    (cfg : AgentConfigRow) : Except EnrollError EnrollmentRecord :=
  if credential.tokenHash = params.tokenHash ∧
      (scanNode node).role = normalizeNodeRole params.request.role then
    .ok ⟨scanNode node, cfg.config, false⟩
  else .error .installConflict

/-- An enrollment does not fail to read, and its node is not deleted. -/
def Spares (i : ℕ) (nodeID : String) : EnrollmentEvent → Prop
  | .read j works => j = i → works = true
  | .deleteNode id works => works = true → id ≠ nodeID
  | _ => True

variable {params : EnrollParams} {credential : AgentCredential} {node : NodeRow}
  {cfg : AgentConfigRow}

/-- Where an enrollment of a known installation stands after a number of reads, if it has not
answered yet. -/
inductive Reached (params : EnrollParams) (credential : AgentCredential) (node : NodeRow)
    (cfg : AgentConfigRow) : ℕ → EnrollPhase → Prop
  | begun : Reached params credential node cfg 0 .begun
  | known (hash : credential.tokenHash = params.tokenHash) :
      Reached params credential node cfg 1 (.known node.id)
  | checked (hash : credential.tokenHash = params.tokenHash)
      (role : (scanNode node).role = normalizeNodeRole params.request.role) :
      Reached params credential node cfg 2 (.checked (scanNode node))
  | returned {reads : ℕ} :
      Reached params credential node cfg reads (.returned (answerOf params credential node cfg))

/-- The rows of an installation. -/
structure HasInstall (store : EnrollmentStore) (credential : AgentCredential) (node : NodeRow)
    (cfg : AgentConfigRow) : Prop where
  credential_mem : credential ∈ store.credentials
  node_mem : node ∈ store.nodes
  config_mem : cfg ∈ store.configs
  node_id : credential.nodeID = node.id
  config_id : cfg.nodeID = node.id

/-- A read takes an enrollment of a known installation one step further. -/
lemma Reached.read {store : EnrollmentStore} {reads : ℕ} {phase : EnrollPhase}
    (h : Reached params credential node cfg reads phase) (consistent : store.Consistent)
    (rows : HasInstall store credential node cfg)
    (install : credential.installID = params.request.installID) :
    Reached params credential node cfg (reads + 1) (store.read params phase) := by
  cases h with
  | begun =>
    have found : (store.credentials.rows.find? fun c => c.installID = params.request.installID) =
        some credential := by
      cases hfind :
        store.credentials.rows.find? fun c => c.installID = params.request.installID with
      | none =>
        have := List.find?_eq_none.mp hfind credential rows.credential_mem
        simp [install] at this
      | some c =>
        have same : c.installID = params.request.installID := by simpa using List.find?_some hfind
        rw [consistent.installs c (List.mem_of_find?_eq_some hfind) credential rows.credential_mem
          (same.trans install.symm)]
    simp only [EnrollmentStore.read, EnrollmentStore.readCredential, found]
    split
    next hne =>
      rw [show EnrollPhase.returned (.error .installConflict) =
        .returned (answerOf params credential node cfg) by simp [answerOf, hne]]
      exact .returned
    next hash =>
      rw [rows.node_id]
      exact .known (not_not.mp hash)
  | known hash =>
    have stored : store.nodes.lookup node.id = some node :=
      KeyedTable.lookup_eq_some_iff.mpr ⟨rows.node_mem, rfl⟩
    have found : store.nodes.getNode node.id = some (scanNode node) := by
      rw [NodeTable.getNode, stored, Option.map_some]
    simp only [EnrollmentStore.read, EnrollmentStore.readNode, found]
    split
    next hne =>
      rw [show EnrollPhase.returned (.error .installConflict) =
        .returned (answerOf params credential node cfg) by simp [answerOf, hne]]
      exact .returned
    next role => exact .checked hash (not_not.mp role)
  | checked hash role =>
    have found : store.configs.lookup (scanNode node).id = some cfg :=
      KeyedTable.lookup_eq_some_iff.mpr ⟨rows.config_mem, rows.config_id⟩
    simp only [EnrollmentStore.read, EnrollmentStore.readConfig, found]
    rw [show EnrollPhase.returned (.ok ⟨scanNode node, cfg.config, false⟩) =
      .returned (answerOf params credential node cfg) by simp [answerOf, hash, role]]
    exact .returned
  | returned => exact .returned

lemma HasInstall.step (h : HasInstall s.store credential node cfg)
    (spared : ∀ id, event = .deleteNode id true → id ≠ node.id) :
    HasInstall (s.step event).store credential node cfg := by
  rcases step_store s event with same | ⟨i, call, answers, -, -, -, written⟩ |
    ⟨id, rfl, deleted⟩ | ⟨-, pins, managed⟩
  · exact same ▸ h
  · obtain ⟨pins, nodes, credentials, configs, -, hnodes, hcredential, hconfigs, eq⟩ :=
      EnrollmentStore.writeInstall_eq_ok written
    obtain ⟨hcredentials, -⟩ := EnrollmentStore.insertCredential_eq_some hcredential
    rw [eq]
    exact
      { h with
        credential_mem := ((KeyedTable.insertNew_eq_some hcredentials).1 _).mpr
          (.inr h.credential_mem)
        node_mem := ((KeyedTable.insertNew_eq_some hnodes).1 _).mpr (.inr h.node_mem)
        config_mem := ((KeyedTable.insertNew_eq_some hconfigs).1 _).mpr (.inr h.config_mem) }
  · have hne : node.id ≠ id := (spared id rfl).symm
    rw [EnrollmentStore.deleteNode_eq_some deleted]
    exact
      { h with
        credential_mem := KeyedTable.mem_deleteWhere.mpr
          ⟨h.credential_mem, by simpa [h.node_id] using hne⟩
        node_mem := KeyedTable.mem_deleteWhere.mpr ⟨h.node_mem, by simpa using hne⟩
        config_mem := KeyedTable.mem_deleteWhere.mpr
          ⟨h.config_mem, by simpa [h.config_id] using hne⟩ }
  · exact managed ▸ { h with }

variable {i reads : ℕ}

lemma Reached.reading {phase : EnrollPhase} (h : Reached params credential node cfg reads phase) :
    phase ≠ .absent ∧ phase ≠ .committed := by
  cases h <;> exact ⟨nofun, nofun⟩

/-- An enrollment that has read three times has answered. -/
lemma Reached.answered {phase : EnrollPhase}
    (h : Reached params credential node cfg (reads + 3) phase) :
    phase = .returned (answerOf params credential node cfg) := by
  cases h
  rfl

/-- An enrollment of a known installation is under way. -/
structure Recognises (i : ℕ) (params : EnrollParams) (credential : AgentCredential)
    (node : NodeRow) (cfg : AgentConfigRow) (reads : ℕ) (s : EnrollmentSystem) : Prop where
  consistent : s.store.Consistent
  rows : HasInstall s.store credential node cfg
  install : credential.installID = params.request.installID
  phase : ∃ phase, s.calls[i]? = some ⟨params, phase⟩ ∧
    Reached params credential node cfg reads phase

lemma Recognises.read (h : Recognises i params credential node cfg reads s) :
    Recognises i params credential node cfg (reads + 1) (s.step (.read i true)) := by
  obtain ⟨phase, found, reached⟩ := h.phase
  exact
    { consistent := consistent_step h.consistent _
      rows := h.rows.step nofun
      install := h.install
      phase := ⟨_, step_read found, reached.read h.consistent h.rows h.install⟩ }

/-- Its own steps change nothing in the store. -/
lemma Recognises.store_step (h : Recognises i params credential node cfg reads s)
    (own : event.call? = some i) : (s.step event).store = s.store := by
  obtain ⟨phase, found, reached⟩ := h.phase
  rcases step_store s event with same | ⟨j, call, answers, rfl, -, -, -⟩ | ⟨id, rfl, -⟩ |
    ⟨managed, -⟩
  · exact same
  · rw [step_call_idle found reached.reading own nofun]
  · cases own
  · cases event <;> simp [EnrollmentEvent.call?, EnrollmentEvent.isEnroll] at own managed

lemma Recognises.goesOn (h : Recognises i params credential node cfg reads s)
    (spares : Spares i node.id event) :
    ∃ reads, Recognises i params credential node cfg reads (s.step event) := by
  by_cases hread : ∃ works, event = .read i works
  · obtain ⟨works, rfl⟩ := hread
    obtain rfl : works = true := spares rfl
    exact ⟨_, h.read⟩
  · obtain ⟨phase, found, reached⟩ := h.phase
    refine ⟨reads, consistent_step h.consistent _, h.rows.step ?_, h.install, phase, ?_, reached⟩
    · rintro id rfl
      exact spares rfl
    · by_cases own : event.call? = some i
      · rw [step_call_idle found reached.reading own fun works same => hread ⟨works, same⟩]
        exact found
      · exact step_call_other found own

lemma Recognises.along (h : Recognises i params credential node cfg reads s)
    {events : List EnrollmentEvent} (spared : ∀ event ∈ events, Spares i node.id event) :
    ∃ reads, Recognises i params credential node cfg reads (run step s events) := by
  refine run_keeps_along (I := fun s => ∃ reads, Recognises i params credential node cfg reads s)
    (C := fun _ event => Spares i node.id event) ?_ ⟨reads, h⟩ (Along.of_forall spared s)
  rintro s event ⟨reads, h⟩ spares
  exact h.goesOn spares

/-- In every run from a consistent store, an installation and a token belong to one node at most,
and each node has exactly one credential and one configuration; the role of a node does not change;
an enrollment of a known installation changes nothing and answers with its node, or with a conflict
when the token or the role is another one; and every step of an enrollment that creates no node
leaves all tables as they are. -/
theorem enrollment_identity (start : EnrollmentSystem) (consistent : start.store.Consistent)
    (events : List EnrollmentEvent) :
    let s := run step start events
    (∀ n ∈ s.store.nodes,
      (∃! c, c ∈ s.store.credentials ∧ c.nodeID = n.id) ∧
        ∃! c, c ∈ s.store.configs ∧ c.nodeID = n.id) ∧
    (∀ n ∈ s.store.nodes, ∀ m ∈ s.store.nodes, ∀ c ∈ s.store.credentials,
      ∀ d ∈ s.store.credentials, c.nodeID = n.id → d.nodeID = m.id →
        c.installID = d.installID ∨ c.tokenID = d.tokenID → n = m) ∧
    (∀ event, ∀ n ∈ s.store.nodes, ∀ m ∈ (s.step event).store.nodes, n.id = m.id →
      n.role = m.role) ∧
    (∀ (i : ℕ) (params : EnrollParams) (c : AgentCredential) (n : NodeRow) (cfg : AgentConfigRow),
      s.calls[i]? = some ⟨params, .begun⟩ → c ∈ s.store.credentials →
      c.installID = params.request.installID → n ∈ s.store.nodes → c.nodeID = n.id →
      cfg ∈ s.store.configs → cfg.nodeID = n.id →
      ∀ later, (∀ event ∈ later, Spares i n.id event) →
        let t := run step s later
        (∀ event, event.call? = some i → (t.step event).store = t.store) ∧
          (run step t [.read i true, .read i true, .read i true]).calls[i]? =
            some ⟨params, .returned (answerOf params c n cfg)⟩) ∧
    ∀ event, event.isEnroll →
      (s.step event).store = s.store ∨
        ∃ n ∈ (s.step event).store.nodes, ∀ m ∈ s.store.nodes, m.id ≠ n.id := by
  intro s
  have consistent : s.store.Consistent :=
    run_keeps (I := fun s : EnrollmentSystem => s.store.Consistent)
      (fun _ event h => consistent_step h event) consistent events
  refine ⟨fun n mem =>
      ⟨consistent.credentials.existsUnique mem, consistent.configs.existsUnique mem⟩,
    ?_, fun event n hn m hm same => congrArg (·.role) (node_step hn hm same), ?_, ?_⟩
  · intro n hn m hm c hc d hd hcn hdm shared
    have same : c = d := shared.elim (consistent.installs c hc d hd) (consistent.tokens c hc d hd)
    subst same
    exact KeyedTable.eq_of_key_eq hn hm (hcn.symm.trans hdm)
  · intro i params c n cfg found hc install hn hcn hcfg hcfgn later spared t
    have begun : Recognises i params c n cfg 0 s :=
      ⟨consistent, ⟨hc, hn, hcfg, hcn, hcfgn⟩, install, _, found, .begun⟩
    obtain ⟨reads, recognises⟩ := begun.along spared
    refine ⟨fun event own => recognises.store_step own, ?_⟩
    obtain ⟨phase, found, reached⟩ := recognises.read.read.read.phase
    rw [reached.answered] at found
    exact found
  · intro event enrolls
    rcases step_store s event with same | ⟨i, call, answers, -, -, -, written⟩ | ⟨id, rfl, -⟩ |
      ⟨managed, -⟩
    · exact .inl same
    · obtain ⟨pins, nodes, credentials, configs, -, hnodes, -, -, eq⟩ :=
        EnrollmentStore.writeInstall_eq_ok written
      obtain ⟨members, fresh⟩ := KeyedTable.insertNew_eq_some hnodes
      refine .inr ⟨call.params.nodeRow, ?_, fresh⟩
      rw [eq]
      exact (members _).mpr (.inl rfl)
    · cases enrolls
    · simp [managed] at enrolls

/-- An agent that enrolls twice, the second time after the first has committed. -/
def enrolledTwice : List EnrollmentEvent :=
  let first : EnrollParams :=
    { request := { installID := "install" }, nodeID := "node-1", tokenID := "token",
      tokenHash := "hash" }
  [.enroll first, .enroll { first with nodeID := "node-2" }, .read 0 true, .write 0 {},
    .read 1 true, .read 1 true, .read 1 true]

lemma consistent_empty : ({} : EnrollmentStore).Consistent where
  installs c mem := absurd mem (KeyedTable.notMem_empty c)
  tokens c mem := absurd mem (KeyedTable.notMem_empty c)
  credentials id := by simp
  configs id := by simp

theorem enrollment_identity_twice :
    (run step {} enrolledTwice).store.nodes.rows.length = 1 ∧
      ∀ n ∈ (run step {} enrolledTwice).store.nodes,
        ∃! c, c ∈ (run step {} enrolledTwice).store.credentials ∧ c.nodeID = n.id :=
  ⟨rfl, fun n mem => ((enrollment_identity {} consistent_empty enrolledTwice).1 n mem).1⟩

end EnrollmentSystem

end Hostpin
