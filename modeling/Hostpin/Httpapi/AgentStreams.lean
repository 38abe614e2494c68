import Hostpin.Foundation.KeyedTable
import Hostpin.Foundation.Runs

/-!
# Revocation of agent streams

Each stream of an agent has a channel that is closed to end the stream.  The registry holds the
channels of the streams that are open, by node: a stream registers before it looks for its node
again, and unregisters when it ends.  Whoever deletes a node revokes its streams afterwards, which
closes the channels that are in the registry and takes them out; so does a shutdown with all.

`StreamSystem` runs streams, revocations and deletions of nodes in any order.  Closing a channel
twice would be a panic; `closed` lists the channels in the order in which they were closed, and no
channel is in it twice (`StreamSystem.streams_revoked`).
-/

namespace Hostpin

open Runs

/-! ## The registry -/

/-- The channels of the streams of a node. -/
structure StreamEntry where
  nodeID : String
  channels : List ℕ
deriving DecidableEq

/-- The registry of the streams, by node. -/
abbrev StreamRegistry := KeyedTable StreamEntry.nodeID

namespace StreamRegistry

/-- The channels of a node. -/
def channelsOf (t : StreamRegistry) (nodeID : String) : List ℕ :=
  match t.lookup nodeID with
  | none => []
  | some entry => entry.channels

/-- Add a channel to a node. -/
def register (t : StreamRegistry) (nodeID : String) (channel : ℕ) : StreamRegistry :=
  match t.lookup nodeID with
  | none => t.upsert ⟨nodeID, [channel]⟩
  | some entry => t.upsert ⟨nodeID, channel :: entry.channels⟩

/-- Take a channel of a node out, and with the last one the node. -/
def unregister (t : StreamRegistry) (nodeID : String) (channel : ℕ) : StreamRegistry :=
  match t.lookup nodeID with
  | none => t
  | some entry =>
    let channels := entry.channels.filter (· ≠ channel)
    if channels.length = 0 then t.deleteWhere fun e => e.nodeID = nodeID
    else t.upsert ⟨nodeID, channels⟩

/-- Take out a node with its channels. -/
def revoke (t : StreamRegistry) (nodeID : String) : StreamRegistry :=
  t.deleteWhere fun e => e.nodeID = nodeID

/-- All channels of the registry. -/
def all (t : StreamRegistry) : List ℕ := t.rows.flatMap StreamEntry.channels

variable {t : StreamRegistry}

@[simp] lemma channelsOf_register (nodeID other : String) (channel : ℕ) :
    (register t nodeID channel).channelsOf other =
      if nodeID = other then channel :: channelsOf t nodeID else channelsOf t other := by
  unfold register channelsOf
  cases h : t.lookup nodeID with
  | none => simp only [KeyedTable.lookup_upsert]; split_ifs <;> rfl
  | some entry => simp only [KeyedTable.lookup_upsert]; split_ifs <;> rfl

@[simp] lemma channelsOf_unregister (nodeID other : String) (channel : ℕ) :
    (unregister t nodeID channel).channelsOf other =
      if nodeID = other then (channelsOf t nodeID).filter (· ≠ channel)
      else channelsOf t other := by
  unfold unregister channelsOf
  cases h : t.lookup nodeID with
  | none =>
    by_cases same : nodeID = other
    · subst same
      simp [h]
    · simp [same]
  | some entry =>
    simp only
    by_cases last : (entry.channels.filter (· ≠ channel)).length = 0
    · rw [if_pos last, KeyedTable.lookup_deleteKey, List.length_eq_zero_iff.mp last]
      split_ifs <;> rfl
    · rw [if_neg last, KeyedTable.lookup_upsert]
      split_ifs <;> rfl

@[simp] lemma channelsOf_revoke (nodeID other : String) :
    (revoke t nodeID).channelsOf other = if nodeID = other then [] else channelsOf t other := by
  unfold revoke channelsOf
  rw [KeyedTable.lookup_deleteKey]
  split_ifs <;> rfl

/-- The channels of the registry are the channels of its nodes. -/
lemma mem_all {channel : ℕ} : channel ∈ all t ↔ ∃ nodeID, channel ∈ channelsOf t nodeID := by
  simp only [all, List.mem_flatMap, channelsOf]
  constructor
  · rintro ⟨entry, mem, h⟩
    refine ⟨entry.nodeID, ?_⟩
    rw [KeyedTable.lookup_eq_some_iff.mpr ⟨mem, rfl⟩]
    exact h
  · rintro ⟨nodeID, h⟩
    cases found : t.lookup nodeID with
    | none => rw [found] at h; cases h
    | some entry =>
      rw [found] at h
      exact ⟨entry, (KeyedTable.lookup_eq_some_iff.mp found).1, h⟩

/-- No channel is in the registry twice, if none is twice in a node or in two nodes. -/
lemma nodup_all (each : ∀ nodeID, (channelsOf t nodeID).Nodup)
    (one : ∀ nodeID nodeID' channel, channel ∈ channelsOf t nodeID →
      channel ∈ channelsOf t nodeID' → nodeID = nodeID') : (all t).Nodup := by
  have entries : ∀ entry ∈ t.rows, channelsOf t entry.nodeID = entry.channels := by
    intro entry mem
    unfold channelsOf
    rw [KeyedTable.lookup_eq_some_iff.mpr ⟨mem, rfl⟩]
  refine List.nodup_flatMap.mpr ⟨fun entry mem => entries entry mem ▸ each entry.nodeID, ?_⟩
  have distinct := t.keys_nodup
  rw [List.nodup_iff_pairwise_ne, List.pairwise_map] at distinct
  refine List.Pairwise.imp_of_mem (fun {e f} he hf hne channel hce hcf => hne ?_) distinct
  exact one _ _ channel (entries e he ▸ hce) (entries f hf ▸ hcf)

end StreamRegistry

/-! ## The system -/

/-- Where a stream stands: before it registers, before it looks for its node again, before its loop,
in its loop, on its way out, and after it has unregistered. -/
inductive StreamPhase where
  | authenticated
  | registered
  | checked
  | looping
  | leaving
  | ended
deriving DecidableEq

/-- The stream has registered and not unregistered. -/
def StreamPhase.active : StreamPhase → Bool
  | .registered | .checked | .looping | .leaving => true
  | .authenticated | .ended => false

/-- A stream of a node.  Its channel has the number of its place in the list of the streams. -/
structure AgentStream where
  nodeID : String
  phase : StreamPhase := .authenticated

/-- A deletion of a node, which is finished when the streams of the node are revoked. -/
structure NodeDeletion where
  nodeID : String
  finished : Bool := false

/-- The nodes of the store, the deletions that have deleted their node, the registry, the channels
that were closed, in order, and the streams. -/
structure StreamSystem where
  nodes : List String := []
  deletions : List NodeDeletion := []
  registry : StreamRegistry := .empty
  closed : List ℕ := []
  streams : List AgentStream := []

/-- What can happen.  A call that does not work says so. -/
inductive StreamEvent where
  | enroll (nodeID : String)
  | authenticate (nodeID : String)
  | register (i : ℕ)
  | recheck (i : ℕ) (works : Bool)
  | enter (i : ℕ) (works : Bool)
  | leave (i : ℕ)
  | unregister (i : ℕ)
  | revoke (nodeID : String)
  | deleteNode (nodeID : String) (works : Bool)
  | finishDeletion (j : ℕ)
  | shutdown

namespace StreamSystem

/-- A stream goes on. -/
def setPhase (s : StreamSystem) (i : ℕ) (stream : AgentStream) (phase : StreamPhase) :
    StreamSystem :=
  { s with streams := s.streams.set i { stream with phase } }

/-- Close the channels of a node. -/
def revokeAgentStreams (s : StreamSystem) (nodeID : String) : StreamSystem :=
  { s with
    closed := s.closed ++ s.registry.channelsOf nodeID
    registry := s.registry.revoke nodeID }

/-- Close all channels. -/
def shutdown (s : StreamSystem) : StreamSystem :=
  { s with closed := s.closed ++ s.registry.all, registry := .empty }

/-- A stream takes its next step, if this is what comes next. -/
def proceed (s : StreamSystem) (i : ℕ) (stream : AgentStream) :
    StreamEvent → StreamPhase → StreamSystem
  | .register _, .authenticated =>
    { s.setPhase i stream .registered with registry := s.registry.register stream.nodeID i }
  | .recheck _ works, .registered =>
    if works && s.nodes.contains stream.nodeID then s.setPhase i stream .checked
    else s.setPhase i stream .leaving
  | .enter _ works, .checked =>
    if works then s.setPhase i stream .looping else s.setPhase i stream .leaving
  | .leave _, .authenticated => s.setPhase i stream .ended
  | .leave _, .registered | .leave _, .checked | .leave _, .looping => s.setPhase i stream .leaving
  | .unregister _, .leaving =>
    { s.setPhase i stream .ended with registry := s.registry.unregister stream.nodeID i }
  | _, _ => s

/-- The system after an event.  The id of a new node was not in use before. -/
def step (s : StreamSystem) (event : StreamEvent) : StreamSystem :=
  match event with
  | .enroll nodeID =>
    if nodeID ∈ s.nodes ++ s.deletions.map NodeDeletion.nodeID then s
    else { s with nodes := nodeID :: s.nodes }
  | .authenticate nodeID =>
    if nodeID ∈ s.nodes then { s with streams := s.streams ++ [{ nodeID }] } else s
  | .register i | .recheck i _ | .enter i _ | .leave i | .unregister i =>
    match s.streams[i]? with
    | none => s
    | some stream => s.proceed i stream event stream.phase
  | .revoke nodeID => s.revokeAgentStreams nodeID
  | .deleteNode nodeID works =>
    if works && s.nodes.contains nodeID then
      { s with
        nodes := s.nodes.filter (· ≠ nodeID)
        deletions := s.deletions ++ [{ nodeID }] }
    else s
  | .finishDeletion j =>
    match s.deletions[j]? with
    | none => s
    | some deletion =>
      { s.revokeAgentStreams deletion.nodeID with
        deletions := s.deletions.set j { deletion with finished := true } }
  | .shutdown => s.shutdown

/-! ## What an event does -/

variable {s : StreamSystem} {event : StreamEvent}

/-- What the steps do to nodes, deletions, streams and the registry. -/
inductive Becomes (s : StreamSystem) : StreamSystem → Prop
  | same : Becomes s s
  | enrolled {nodeID} (fresh : nodeID ∉ s.deletions.map NodeDeletion.nodeID) :
      Becomes s { s with nodes := nodeID :: s.nodes }
  | authenticated (nodeID) : Becomes s { s with streams := s.streams ++ [{ nodeID }] }
  | registered {i : ℕ} {stream} (found : s.streams[i]? = some stream)
      (phase : stream.phase = .authenticated) :
      Becomes s
        { s.setPhase i stream .registered with registry := s.registry.register stream.nodeID i }
  | checked {i : ℕ} {stream} (found : s.streams[i]? = some stream)
      (phase : stream.phase = .registered) (exists_ : stream.nodeID ∈ s.nodes) :
      Becomes s (s.setPhase i stream .checked)
  | entered {i : ℕ} {stream} (found : s.streams[i]? = some stream)
      (phase : stream.phase = .checked) : Becomes s (s.setPhase i stream .looping)
  | left {i : ℕ} {stream} (found : s.streams[i]? = some stream)
      (active : stream.phase.active = true) : Becomes s (s.setPhase i stream .leaving)
  | dropped {i : ℕ} {stream} (found : s.streams[i]? = some stream)
      (phase : stream.phase = .authenticated) : Becomes s (s.setPhase i stream .ended)
  | unregistered {i : ℕ} {stream} (found : s.streams[i]? = some stream)
      (phase : stream.phase = .leaving) :
      Becomes s
        { s.setPhase i stream .ended with registry := s.registry.unregister stream.nodeID i }
  | revoked (nodeID) : Becomes s (s.revokeAgentStreams nodeID)
  | deleted (nodeID) :
      Becomes s
        { s with
          nodes := s.nodes.filter (· ≠ nodeID)
          deletions := s.deletions ++ [{ nodeID }] }
  | finished {j : ℕ} {deletion} (found : s.deletions[j]? = some deletion) :
      Becomes s
        { s.revokeAgentStreams deletion.nodeID with
          deletions := s.deletions.set j { deletion with finished := true } }
  | shutdown : Becomes s s.shutdown

lemma becomes_proceed {i : ℕ} {stream : AgentStream} (found : s.streams[i]? = some stream) :
    Becomes s (s.proceed i stream event stream.phase) := by
  unfold proceed
  split
  next phase => exact .registered found phase
  next works phase =>
    by_cases h : works && s.nodes.contains stream.nodeID
    · rw [if_pos h]
      exact .checked found phase (by simpa using (Bool.and_eq_true_iff.mp h).2)
    · rw [if_neg h]
      exact .left found (by simp [phase, StreamPhase.active])
  next works phase =>
    by_cases h : works
    · rw [if_pos h]
      exact .entered found phase
    · rw [if_neg h]
      exact .left found (by simp [phase, StreamPhase.active])
  next phase => exact .dropped found phase
  next phase => exact .left found (by simp [phase, StreamPhase.active])
  next phase => exact .left found (by simp [phase, StreamPhase.active])
  next phase => exact .left found (by simp [phase, StreamPhase.active])
  next phase => exact .unregistered found phase
  next => exact .same

lemma becomes_step (s : StreamSystem) (event : StreamEvent) : Becomes s (s.step event) := by
  have ofStream : ∀ i : ℕ, Becomes s
      (match s.streams[i]? with
        | none => s
        | some stream => s.proceed i stream event stream.phase) := by
    intro i
    cases found : s.streams[i]? with
    | none => exact .same
    | some stream => exact becomes_proceed found
  cases event with
  | enroll nodeID =>
    simp only [step]
    split_ifs with used
    · exact .same
    · exact .enrolled fun mem => used (List.mem_append_right _ mem)
  | authenticate nodeID =>
    simp only [step]
    split_ifs
    · exact .authenticated nodeID
    · exact .same
  | register i => exact ofStream i
  | recheck i works => exact ofStream i
  | enter i works => exact ofStream i
  | leave i => exact ofStream i
  | unregister i => exact ofStream i
  | revoke nodeID => exact .revoked nodeID
  | deleteNode nodeID works =>
    simp only [step]
    split_ifs
    · exact .deleted nodeID
    · exact .same
  | finishDeletion j =>
    simp only [step]
    cases found : s.deletions[j]? with
    | none => exact .same
    | some deletion => exact .finished found
  | shutdown => exact .shutdown

/-! ## The invariant -/

/-- The streams of a deleted node that have passed their check have a closed channel. -/
def Revoked (s : StreamSystem) : Prop :=
  ∀ (i : ℕ) (stream : AgentStream), s.streams[i]? = some stream →
    stream.phase = .checked ∨ stream.phase = .looping → ∀ deletion ∈ s.deletions,
      deletion.finished = true → deletion.nodeID = stream.nodeID → i ∈ s.closed

/-- The channels in the registry are open and belong to active streams of the node, each channel of
an active stream is closed or in the registry, no channel is closed twice, and deleted nodes do not
come back. -/
structure Inv (s : StreamSystem) : Prop where
  each : ∀ nodeID, (s.registry.channelsOf nodeID).Nodup
  listed : ∀ nodeID, ∀ i ∈ s.registry.channelsOf nodeID, i ∉ s.closed ∧
    ∃ stream, s.streams[i]? = some stream ∧ stream.nodeID = nodeID ∧ stream.phase.active = true
  nodup : s.closed.Nodup
  known : ∀ i ∈ s.closed, ∃ stream, s.streams[i]? = some stream ∧ stream.phase ≠ .authenticated
  covered : ∀ (i : ℕ) (stream : AgentStream), s.streams[i]? = some stream →
    stream.phase.active = true → i ∈ s.closed ∨ i ∈ s.registry.channelsOf stream.nodeID
  gone : ∀ deletion ∈ s.deletions, deletion.nodeID ∉ s.nodes
  revoked : s.Revoked

lemma getElem?_setPhase {i : ℕ} {stream : AgentStream} (found : s.streams[i]? = some stream)
    (phase : StreamPhase) (j : ℕ) : (s.setPhase i stream phase).streams[j]? =
      if i = j then some { stream with phase } else s.streams[j]? := by
  unfold setPhase
  split_ifs with same
  · subst same
    exact List.getElem?_set_self (List.getElem?_eq_some_iff.mp found).1
  · exact List.getElem?_set_ne same

/-- A stream that stays active keeps the invariant; it passes its check only while its node is
there. -/
lemma Inv.move (h : s.Inv) {i : ℕ} {stream : AgentStream} {phase : StreamPhase}
    (found : s.streams[i]? = some stream) (before : stream.phase.active = true)
    (after : phase.active = true)
    (revoked : phase = .checked ∨ phase = .looping → ∀ deletion ∈ s.deletions,
      deletion.finished = true → deletion.nodeID = stream.nodeID → i ∈ s.closed) :
    (s.setPhase i stream phase).Inv where
  each := h.each
  nodup := h.nodup
  gone := h.gone
  listed nodeID j hj := by
    obtain ⟨open_, other, hother, node, active⟩ := h.listed nodeID j hj
    refine ⟨open_, ?_⟩
    rw [getElem?_setPhase found]
    by_cases same : i = j
    · subst same
      rw [found] at hother
      cases hother
      exact ⟨_, if_pos rfl, node, after⟩
    · exact ⟨other, by rw [if_neg same, hother], node, active⟩
  known j hj := by
    rw [getElem?_setPhase found]
    by_cases same : i = j
    · refine ⟨_, if_pos same, ?_⟩
      rintro rfl
      cases after
    · rw [if_neg same]
      exact h.known j hj
  covered j other hother active := by
    rw [getElem?_setPhase found] at hother
    split_ifs at hother with same
    · cases hother
      subst same
      exact h.covered i stream found before
    · exact h.covered j other hother active
  revoked j other hother phases := by
    rw [getElem?_setPhase found] at hother
    split_ifs at hother with same
    · cases hother
      subst same
      exact revoked phases
    · exact h.revoked j other hother phases

/-- Closing channels of the registry and taking them out keeps the invariant. -/
lemma Inv.close (h : s.Inv) {channels : List ℕ} {registry : StreamRegistry}
    (nodup : channels.Nodup) (listed : ∀ i ∈ channels, ∃ nodeID, i ∈ s.registry.channelsOf nodeID)
    (each : ∀ nodeID, (registry.channelsOf nodeID).Nodup)
    (rest : ∀ nodeID i, i ∈ registry.channelsOf nodeID ↔
      i ∈ s.registry.channelsOf nodeID ∧ i ∉ channels) :
    ({ s with closed := s.closed ++ channels, registry } : StreamSystem).Inv where
  each := each
  gone := h.gone
  listed nodeID i hi := by
    obtain ⟨old, kept⟩ := (rest nodeID i).mp hi
    obtain ⟨open_, stream⟩ := h.listed nodeID i old
    exact ⟨by simp [open_, kept], stream⟩
  nodup := by
    refine List.nodup_append.mpr ⟨h.nodup, nodup, ?_⟩
    rintro i closed j channel rfl
    obtain ⟨nodeID, mem⟩ := listed i channel
    exact (h.listed nodeID i mem).1 closed
  known i hi := by
    rcases List.mem_append.mp hi with closed | channel
    · exact h.known i closed
    · obtain ⟨nodeID, mem⟩ := listed i channel
      obtain ⟨-, stream, found, -, active⟩ := h.listed nodeID i mem
      refine ⟨stream, found, ?_⟩
      intro phase
      rw [phase] at active
      cases active
  covered i stream found active := by
    rcases h.covered i stream found active with closed | mem
    · exact Or.inl (List.mem_append_left _ closed)
    · by_cases channel : i ∈ channels
      · exact Or.inl (List.mem_append_right _ channel)
      · exact Or.inr ((rest _ i).mpr ⟨mem, channel⟩)
  revoked i stream found phases deletion mem finished node :=
    List.mem_append_left _ (h.revoked i stream found phases deletion mem finished node)

lemma Inv.revokeAgentStreams (h : s.Inv) (nodeID : String) : (s.revokeAgentStreams nodeID).Inv := by
  refine h.close (h.each nodeID) (fun i mem => ⟨nodeID, mem⟩) (fun other => ?_) fun other i => ?_
  · rw [StreamRegistry.channelsOf_revoke]
    split_ifs
    · exact List.nodup_nil
    · exact h.each other
  · rw [StreamRegistry.channelsOf_revoke]
    split_ifs with same
    · subst same
      simp
    · refine ⟨fun mem => ⟨mem, fun channel => same ?_⟩, fun mem => mem.1⟩
      obtain ⟨-, stream, found, node, -⟩ := h.listed other i mem
      obtain ⟨-, stream', found', node', -⟩ := h.listed nodeID i channel
      rw [found] at found'
      cases found'
      exact node'.symm.trans node

lemma Inv.shutdown (h : s.Inv) : s.shutdown.Inv := by
  have one : ∀ nodeID nodeID' i, i ∈ s.registry.channelsOf nodeID →
      i ∈ s.registry.channelsOf nodeID' → nodeID = nodeID' := by
    intro nodeID nodeID' i mem mem'
    obtain ⟨-, stream, found, node, -⟩ := h.listed nodeID i mem
    obtain ⟨-, stream', found', node', -⟩ := h.listed nodeID' i mem'
    rw [found] at found'
    cases found'
    exact node.symm.trans node'
  refine h.close (StreamRegistry.nodup_all h.each one) (fun i mem => StreamRegistry.mem_all.mp mem)
    (fun nodeID => List.nodup_nil) fun nodeID i => ?_
  refine ⟨fun mem => absurd mem List.not_mem_nil, fun ⟨mem, out⟩ => ?_⟩
  exact absurd (StreamRegistry.mem_all.mpr ⟨nodeID, mem⟩) out

/-- After a revocation every active stream of the node has a closed channel. -/
lemma Inv.closed_of_revoke (h : s.Inv) {i : ℕ} {stream : AgentStream}
    (found : s.streams[i]? = some stream) (active : stream.phase.active = true) :
    i ∈ (s.revokeAgentStreams stream.nodeID).closed :=
  List.mem_append.mpr (h.covered i stream found active)

/-- A new stream keeps the invariant. -/
lemma Inv.authenticated (h : s.Inv) (nodeID : String) :
    ({ s with streams := s.streams ++ [{ nodeID }] } : StreamSystem).Inv := by
  have old : ∀ (i : ℕ) (stream : AgentStream), s.streams[i]? = some stream →
      (s.streams ++ [(⟨nodeID, .authenticated⟩ : AgentStream)])[i]? = some stream := by
    intro i stream found
    rw [List.getElem?_append_left (List.getElem?_eq_some_iff.mp found).1, found]
  have new : ∀ (i : ℕ) (stream : AgentStream),
      (s.streams ++ [(⟨nodeID, .authenticated⟩ : AgentStream)])[i]? = some stream →
        s.streams[i]? = some stream ∨ stream.phase = .authenticated := by
    intro i stream found
    rcases lt_or_ge i s.streams.length with lt | ge
    · rw [List.getElem?_append_left lt] at found
      exact Or.inl found
    · rw [List.getElem?_append_right ge] at found
      rw [List.mem_singleton.mp (List.mem_of_getElem? found)]
      exact Or.inr rfl
  exact
    { each := h.each
      nodup := h.nodup
      gone := h.gone
      listed := fun other i mem => by
        obtain ⟨open_, stream, found, rest⟩ := h.listed other i mem
        exact ⟨open_, stream, old i stream found, rest⟩
      known := fun i mem => by
        obtain ⟨stream, found, phase⟩ := h.known i mem
        exact ⟨stream, old i stream found, phase⟩
      covered := fun i stream found active => by
        rcases new i stream found with found | phase
        · exact h.covered i stream found active
        · rw [phase] at active
          cases active
      revoked := fun i stream found phases => by
        rcases new i stream found with found | phase
        · exact h.revoked i stream found phases
        · rw [phase] at phases
          rcases phases with phases | phases <;> cases phases }

/-- A stream that registers keeps the invariant: its channel is new. -/
lemma Inv.registered (h : s.Inv) {i : ℕ} {stream : AgentStream}
    (found : s.streams[i]? = some stream) (phase : stream.phase = .authenticated) :
    ({ s.setPhase i stream .registered with
      registry := s.registry.register stream.nodeID i } : StreamSystem).Inv := by
  have unlisted : ∀ nodeID, i ∉ s.registry.channelsOf nodeID := by
    intro nodeID mem
    obtain ⟨-, other, found', -, active⟩ := h.listed nodeID i mem
    rw [found] at found'
    cases found'
    rw [phase] at active
    cases active
  have open_ : i ∉ s.closed := by
    intro mem
    obtain ⟨other, found', began⟩ := h.known i mem
    rw [found] at found'
    cases found'
    exact began phase
  refine
    { each := fun nodeID => ?_
      nodup := h.nodup
      gone := h.gone
      listed := fun nodeID j mem => ?_
      known := fun j mem => ?_
      covered := fun j other hother active => ?_
      revoked := fun j other hother phases => ?_ }
  · simp only [StreamRegistry.channelsOf_register]
    split_ifs
    · exact List.nodup_cons.mpr ⟨unlisted _, h.each _⟩
    · exact h.each nodeID
  · change _ ∧ ∃ other, (s.setPhase i stream .registered).streams[j]? = some other ∧ _
    rw [getElem?_setPhase found]
    have mem' : (stream.nodeID = nodeID ∧ j = i) ∨ j ∈ s.registry.channelsOf nodeID := by
      simp only [StreamRegistry.channelsOf_register] at mem
      split_ifs at mem with same
      · rcases List.mem_cons.mp mem with rfl | mem
        · exact Or.inl ⟨same, rfl⟩
        · exact Or.inr (same ▸ mem)
      · exact Or.inr mem
    rcases mem' with ⟨node, rfl⟩ | mem'
    · exact ⟨open_, _, if_pos rfl, node, rfl⟩
    · obtain ⟨hopen, other, hother, rest⟩ := h.listed nodeID j mem'
      refine ⟨hopen, other, ?_, rest⟩
      rw [if_neg, hother]
      rintro rfl
      exact unlisted nodeID mem'
  · change ∃ other, (s.setPhase i stream .registered).streams[j]? = some other ∧ _
    obtain ⟨other, hother, began⟩ := h.known j mem
    refine ⟨other, ?_, began⟩
    rw [getElem?_setPhase found, if_neg, hother]
    rintro rfl
    exact open_ mem
  · change (s.setPhase i stream .registered).streams[j]? = some other at hother
    rw [getElem?_setPhase found] at hother
    simp only [StreamRegistry.channelsOf_register]
    split_ifs at hother with same
    · cases hother
      subst same
      exact Or.inr (by simp)
    · rcases h.covered j other hother active with closed | mem
      · exact Or.inl closed
      · refine Or.inr ?_
        split_ifs with node
        · exact List.mem_cons_of_mem _ (node ▸ mem)
        · exact mem
  · change (s.setPhase i stream .registered).streams[j]? = some other at hother
    rw [getElem?_setPhase found] at hother
    split_ifs at hother with same
    · cases hother
      rcases phases with phases | phases <;> cases phases
    · exact h.revoked j other hother phases

/-- A stream that ends keeps the invariant, when its channel is not in the registry any more. -/
lemma Inv.ended (h : s.Inv) {i : ℕ} {stream : AgentStream} {registry : StreamRegistry}
    (found : s.streams[i]? = some stream)
    (each : ∀ nodeID, (registry.channelsOf nodeID).Nodup)
    (rest : ∀ nodeID j, j ∈ registry.channelsOf nodeID ↔
      j ∈ s.registry.channelsOf nodeID ∧ j ≠ i) :
    ({ s.setPhase i stream .ended with registry } : StreamSystem).Inv := by
  refine
    { each := each
      nodup := h.nodup
      gone := h.gone
      listed := fun nodeID j mem => ?_
      known := fun j mem => ?_
      covered := fun j other hother active => ?_
      revoked := fun j other hother phases => ?_ }
  · change _ ∧ ∃ other, (s.setPhase i stream .ended).streams[j]? = some other ∧ _
    rw [getElem?_setPhase found]
    obtain ⟨old, hne⟩ := (rest nodeID j).mp mem
    rw [if_neg (Ne.symm hne)]
    exact h.listed nodeID j old
  · change ∃ other, (s.setPhase i stream .ended).streams[j]? = some other ∧ _
    rw [getElem?_setPhase found]
    by_cases same : i = j
    · exact ⟨_, if_pos same, nofun⟩
    · rw [if_neg same]
      exact h.known j mem
  · change (s.setPhase i stream .ended).streams[j]? = some other at hother
    rw [getElem?_setPhase found] at hother
    split_ifs at hother with same
    · cases hother
      cases active
    · rcases h.covered j other hother active with closed | mem
      · exact Or.inl closed
      · exact Or.inr ((rest _ j).mpr ⟨mem, Ne.symm same⟩)
  · change (s.setPhase i stream .ended).streams[j]? = some other at hother
    rw [getElem?_setPhase found] at hother
    split_ifs at hother with same
    · cases hother
      rcases phases with phases | phases <;> cases phases
    · exact h.revoked j other hother phases

/-- Every step keeps the invariant. -/
lemma Inv.step (h : s.Inv) (event : StreamEvent) : (s.step event).Inv := by
  have becomes := becomes_step s event
  generalize s.step event = s' at becomes
  cases becomes with
  | same => exact h
  | enrolled fresh =>
    refine { h with gone := fun deletion mem back => ?_ }
    rcases List.mem_cons.mp back with rfl | old
    · exact fresh (List.mem_map_of_mem mem)
    · exact h.gone deletion mem old
  | authenticated nodeID => exact h.authenticated nodeID
  | registered found phase => exact h.registered found phase
  | checked found phase exists_ =>
    refine h.move found (by simp [phase, StreamPhase.active]) rfl
      fun _ deletion mem _ node => absurd exists_ (node ▸ h.gone deletion mem)
  | entered found phase =>
    exact h.move found (by simp [phase, StreamPhase.active]) rfl
      fun _ => h.revoked _ _ found (Or.inl phase)
  | left found active => exact h.move found active rfl (by simp)
  | @dropped i stream found phase =>
    refine h.ended found h.each fun nodeID j => ⟨fun mem => ⟨mem, ?_⟩, fun mem => mem.1⟩
    rintro rfl
    obtain ⟨-, other, found', -, active⟩ := h.listed nodeID j mem
    rw [found] at found'
    cases found'
    rw [phase] at active
    cases active
  | @unregistered i stream found phase =>
    refine h.ended found (fun nodeID => ?_) fun nodeID j => ?_
    · rw [StreamRegistry.channelsOf_unregister]
      split_ifs
      · exact (h.each _).filter _
      · exact h.each nodeID
    · rw [StreamRegistry.channelsOf_unregister]
      split_ifs with node
      · subst node
        simp
      · refine ⟨fun mem => ⟨mem, ?_⟩, fun mem => mem.1⟩
        rintro rfl
        obtain ⟨-, other, found', node', -⟩ := h.listed nodeID j mem
        rw [found] at found'
        cases found'
        exact node node'
  | revoked nodeID => exact h.revokeAgentStreams nodeID
  | deleted nodeID =>
    refine { h with gone := fun deletion mem present => ?_, revoked := ?_ }
    · rw [List.mem_filter] at present
      rcases List.mem_append.mp mem with old | new
      · exact h.gone deletion old present.1
      · rw [List.mem_singleton.mp new] at present
        simp at present
    · intro i stream found phases deletion mem finished node
      rcases List.mem_append.mp mem with old | new
      · exact h.revoked i stream found phases deletion old finished node
      · rw [List.mem_singleton.mp new] at finished
        cases finished
  | @finished j deletion found =>
    have revoked := h.revokeAgentStreams deletion.nodeID
    refine { revoked with gone := fun other mem => ?_, revoked := ?_ }
    · rcases List.mem_or_eq_of_mem_set mem with old | rfl
      · exact h.gone other old
      · exact h.gone deletion (List.mem_of_getElem? found)
    · intro i stream hstream phases other mem finished node
      rcases List.mem_or_eq_of_mem_set mem with old | rfl
      · exact revoked.revoked i stream hstream phases other old finished node
      · have active : stream.phase.active = true := by
          rcases phases with phase | phase <;> rw [phase] <;> rfl
        exact node ▸ h.closed_of_revoke hstream active
  | shutdown => exact h.shutdown

lemma inv_empty : Inv {} where
  each _ := List.nodup_nil
  listed _ _ mem := absurd mem List.not_mem_nil
  nodup := List.nodup_nil
  known _ mem := absurd mem List.not_mem_nil
  covered _ _ found := by simp at found
  gone _ mem := absurd mem List.not_mem_nil
  revoked _ _ found := by simp at found

/-- However streams, revocations and deletions interleave, no channel is closed twice, the registry
has no channel of a stream that has ended, and the streams of a node whose deletion is finished have
a closed channel when they are about to enter the loop or in it. -/
theorem streams_revoked (events : List StreamEvent) :
    (run step {} events).closed.Nodup ∧
      (∀ (i : ℕ) (stream : AgentStream), (run step {} events).streams[i]? = some stream →
        stream.phase = .ended → i ∉ (run step {} events).registry.all) ∧
      (run step {} events).Revoked := by
  have inv : (run step {} events).Inv := run_keeps (fun _ event h => h.step event) inv_empty events
  refine ⟨inv.nodup, fun i stream found phase mem => ?_, inv.revoked⟩
  obtain ⟨nodeID, listed⟩ := StreamRegistry.mem_all.mp mem
  obtain ⟨-, other, found', -, active⟩ := inv.listed nodeID i listed
  rw [found] at found'
  cases found'
  rw [phase] at active
  cases active

end StreamSystem

end Hostpin
