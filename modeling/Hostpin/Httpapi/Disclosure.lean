import Hostpin.Httpapi.PrivateSite

/-!
# What everybody may know

A `Disclosure` says which nodes and which probe tasks everybody may know.  `Site.disclosed` is the
site without anything else, and `Site.Discloses` says that a site keeps back only what is to be kept
back: the hidden nodes, the tasks that are assigned to hidden nodes alone, and the latency tasks
that are not public or whose target is not.

A query for the results of probes reads a limited number of rows.  It is `Unaffected` by the rows
that are kept back when none of these is shown and none of them takes the place of one that is
(`unaffected_iff`).
-/

namespace Hostpin

open Clock Procedure

/-! ## Disclosures -/

/-- The nodes and the probe tasks that everybody may know. -/
structure Disclosure where
  nodes : String → Bool
  tasks : ℤ → Bool

/-- A result that everybody may know: one of a node and a task that everybody may know. -/
def Disclosure.result (c : Disclosure) (r : ProbeResultRow) : Bool :=
  c.nodes r.nodeID && c.tasks r.taskID

/-- A task that may be kept back: it is assigned to hidden nodes alone, or it measures latency and
it or its target is not public. -/
def ProbeTask.MayHide (nodes : String → Bool) (task : ProbeTask) : Prop :=
  (task.nodeIDs ≠ [] ∧ ∀ id ∈ task.nodeIDs, nodes id = false) ∨
    (task.purpose = .latency ∧ (task.isPublic = false ∨ nodes task.targetNodeID = false))

/-- The metrics and results that everybody may know. -/
def MetricStore.disclosed (c : Disclosure) (s : MetricStore) : MetricStore where
  raw := s.raw.deleteWhere fun r => !c.nodes r.nodeID
  five := s.five.deleteWhere fun r => !c.nodes r.nodeID
  hour := s.hour.deleteWhere fun r => !c.nodes r.nodeID
  probeResults := s.probeResults.deleteWhere fun r => !c.result r
  five_plain := fun r hr => s.five_plain r (KeyedTable.mem_deleteWhere.mp hr).1
  hour_plain := fun r hr => s.hour_plain r (KeyedTable.mem_deleteWhere.mp hr).1

/-- The tasks that everybody may know. -/
def CarrierTaskTable.disclosed (c : Disclosure) (tasks : CarrierTaskTable) : CarrierTaskTable where
  table := tasks.table.deleteWhere fun task => !c.tasks task.id
  id_pos := fun task h => tasks.id_pos task (KeyedTable.mem_deleteWhere.mp h).1
  carrier_unique := fun t ht u hu =>
    tasks.carrier_unique t (KeyedTable.mem_deleteWhere.mp ht).1 u
      (KeyedTable.mem_deleteWhere.mp hu).1

/-- The site as everybody may know it. -/
def Site.disclosed (c : Disclosure) (d : Site) : Site :=
  { d with
    nodes := d.nodes.deleteWhere fun node => !c.nodes node.id
    tasks := d.tasks.disclosed c
    metrics := d.metrics.disclosed c
    latest := fun id => if c.nodes id then d.latest id else none
    traffic :=
      { states := fun id => if c.nodes id then d.traffic.states id else none
        policies := fun id => if c.nodes id then d.traffic.policies id else none } }

/-- A site keeps back the hidden nodes, and only tasks that may be kept back. -/
structure Site.Discloses (c : Disclosure) (d : Site) : Prop where
  nodes : ∀ node ∈ d.nodes, c.nodes node.id = !node.hidden
  tasks : ∀ task ∈ d.tasks.table, c.tasks task.id = false → task.MayHide c.nodes

/-! ## The parts of the site -/

section Parts

variable {c : Disclosure} {d : Site} {nodeID : String}

/-- The nodes that everybody may know are those that are not hidden. -/
lemma Site.Discloses.nodes_eq (h : d.Discloses c) :
    (d.disclosed c).nodes.rows = d.nodes.rows.filter fun node => !node.hidden := by
  change (d.nodes.rows.filter fun node => !!c.nodes node.id) = _
  refine List.filter_congr fun node hnode => ?_
  rw [Bool.not_not, h.nodes node hnode]

/-- The nodes that are listed without a session. -/
lemma Site.Discloses.listNodes (h : d.Discloses c) (textLE : String → String → Bool) :
    (d.disclosed c).nodes.listNodes textLE false = d.nodes.listNodes textLE false := by
  unfold NodeTable.listNodes NodeTable.listNodesByRole
  rw [h.nodes_eq, List.filter_filter]
  congr 2
  refine List.filter_congr fun node _ => ?_
  cases node.hidden <;> simp

/-- The listed nodes are known to everybody. -/
lemma Site.Discloses.of_mem_listNodes (h : d.Discloses c) {textLE : String → String → Bool}
    {node : NodeRow} (hnode : node ∈ d.nodes.listNodes textLE false) :
    c.nodes node.id = true ∧ node.hidden = false := by
  unfold NodeTable.listNodes NodeTable.listNodesByRole at hnode
  obtain ⟨row, hrow, rfl⟩ := List.mem_map.mp hnode
  rw [List.mem_insertionSort, List.mem_filter] at hrow
  obtain ⟨hmem, hsel⟩ := hrow
  have hhidden : row.hidden = false := by simpa using (of_decide_eq_true hsel).2
  refine ⟨?_, hhidden⟩
  change c.nodes row.id = true
  rw [h.nodes row hmem, hhidden]
  rfl

/-- The node of an answer, unless it is hidden. -/
def shownNode (answer : Except StoreError NodeRow) : Option NodeRow :=
  answer.toOption.filter fun node => !node.hidden

/-- A node that is found is known to everybody exactly when it is not hidden. -/
lemma Site.Discloses.of_getNode (h : d.Discloses c) {node : NodeRow}
    (hnode : d.nodes.getNode nodeID = some node) : c.nodes nodeID = !node.hidden := by
  obtain ⟨row, hrow, rfl⟩ := Option.map_eq_some_iff.mp hnode
  obtain ⟨hmem, hkey⟩ := KeyedTable.lookup_eq_some_iff.mp hrow
  rw [← hkey]
  exact h.nodes row hmem

/-- A node is found by its id. -/
lemma NodeTable.id_of_getNode {t : NodeTable} {node : NodeRow}
    (h : t.getNode nodeID = some node) : node.id = nodeID := by
  obtain ⟨row, hrow, rfl⟩ := Option.map_eq_some_iff.mp h
  exact (KeyedTable.lookup_eq_some_iff.mp hrow).2

/-- A node of the site as everybody may know it. -/
lemma Site.getNode_disclosed (c : Disclosure) (d : Site) (nodeID : String) :
    (d.disclosed c).nodes.getNode nodeID = if c.nodes nodeID then d.nodes.getNode nodeID else none
    := by
  unfold NodeTable.getNode
  split_ifs with hknown
  · congr 1
    refine KeyedTable.lookup_congr fun node hkey => ?_
    change node.id = nodeID at hkey
    simp [Site.disclosed, hkey, hknown]
  · rw [Option.map_eq_none_iff, KeyedTable.lookup_eq_none_iff]
    intro node hnode hkey
    obtain ⟨-, hkept⟩ := KeyedTable.mem_deleteWhere.mp hnode
    change node.id = nodeID at hkey
    rw [hkey] at hkept
    exact hknown (by simpa using hkept)

/-- A node that is not hidden is the same on the site as everybody may know it. -/
lemma Site.Discloses.shownNode_getNode (h : d.Discloses c) (nodeID : String) :
    shownNode (found ((d.disclosed c).nodes.getNode nodeID)) =
      shownNode (found (d.nodes.getNode nodeID)) := by
  rw [Site.getNode_disclosed]
  split_ifs with hknown
  · rfl
  · cases hnode : d.nodes.getNode nodeID with
    | none => rfl
    | some node =>
      have hhidden : node.hidden = true := by
        simpa [h.of_getNode hnode] using hknown
      simp [shownNode, found, Except.toOption, Option.filter, hhidden]

/-! ### Tasks -/

/-- The enabled tasks that everybody may know. -/
lemma CarrierTaskTable.listEnabled_disclosed (c : Disclosure) (tasks : CarrierTaskTable) :
    (tasks.disclosed c).listEnabled = tasks.listEnabled.filter fun task => c.tasks task.id := by
  unfold ProbeTaskTable.listEnabled CarrierTaskTable.disclosed
  rw [KeyedTable.selectOrdered_deleteWhere, List.filter_map]
  simp only [Bool.not_not]
  rfl

/-- The enabled tasks of a node that everybody may know. -/
lemma CarrierTaskTable.listProbeTasks_disclosed (c : Disclosure) (tasks : CarrierTaskTable)
    (node : Node) :
    listProbeTasks (tasks.disclosed c).toProbeTaskTable node =
      (listProbeTasks tasks.toProbeTaskTable node).filter fun task => c.tasks task.id := by
  change (tasks.disclosed c).listEnabled.filter _ = (tasks.listEnabled.filter _).filter _
  rw [CarrierTaskTable.listEnabled_disclosed, List.filter_filter, List.filter_filter]
  simp only [Bool.and_comm]

/-- A listed task that is kept back is one that may be. -/
lemma Site.Discloses.mayHide (h : d.Discloses c) {task : ProbeTask}
    (htask : task ∈ d.tasks.listEnabled) (hback : c.tasks task.id = false) :
    task.MayHide c.nodes := by
  obtain ⟨row, hrow, rfl⟩ := List.mem_map.mp htask
  obtain ⟨hmem, -⟩ := KeyedTable.mem_selectOrdered.mp hrow
  rcases h.tasks row hmem hback with hnodes | ⟨hlatency, hpublic⟩
  · exact .inl hnodes
  · refine .inr ⟨?_, hpublic⟩
    simp [scanProbeTask, hlatency, ProbePurpose.unset]

end Parts

/-! ## Metrics and results -/

section Metrics

variable {c : Disclosure} {s : MetricStore}

/-- The history of a node that everybody may know. -/
lemma MetricStore.historySamples_disclosed {query : HistoryQuery} (h : c.nodes query.nodeID = true)
    (clock : Time) :
    (s.disclosed c).historySamples query clock = s.historySamples query clock := by
  have hrows : (s.disclosed c).windowRows (query.withDefaults clock) =
      s.windowRows (query.withDefaults clock) := by
    have hselects : ∀ r : MetricRow, (query.withDefaults clock).selects r = true →
        (!c.nodes r.nodeID) = false := by
      intro r hr
      have hnode : r.nodeID = query.nodeID := (of_decide_eq_true hr).1
      rw [hnode, h]
      rfl
    unfold MetricStore.windowRows
    cases (query.withDefaults clock).table <;>
      exact KeyedTable.selectOrdered_deleteWhere_eq fun r _ => hselects r
  simp only [MetricStore.historySamples, MetricStore.history, hrows]

/-- The recent samples of a node that everybody may know. -/
lemma MetricStore.recentMetrics_disclosed {nodeID : String} (h : c.nodes nodeID = true)
    (since : Time) : (s.disclosed c).recentMetrics nodeID since = s.recentMetrics nodeID since := by
  unfold MetricStore.recentMetrics
  congr 1
  refine KeyedTable.selectOrdered_deleteWhere_eq fun r _ hr => ?_
  rw [(of_decide_eq_true hr).1, h]
  rfl

/-- The results inside the window that everybody may know. -/
lemma MetricStore.probeWindow_disclosed (query : ProbeQuery) :
    (s.disclosed c).probeWindow query = (s.probeWindow query).filter c.result := by
  unfold MetricStore.probeWindow MetricStore.disclosed
  rw [KeyedTable.selectOrdered_deleteWhere]
  simp only [Bool.not_not]

/-- A query is not affected by the results that are kept back: none of the rows that it reads and
that are shown is kept back, and it reads all that it would show without them. -/
structure MetricStore.Unaffected (c : Disclosure) (s : MetricStore) (query : ProbeQuery)
    (shown : ProbeResult → Bool) : Prop where
  public_of_shown : ∀ r ∈ (s.probeWindow query).take query.rowLimit,
    shown (scanProbeResult r) = true → c.result r = true
  reads_shown : ∀ r ∈ ((s.probeWindow query).filter c.result).take query.rowLimit,
    shown (scanProbeResult r) = true → r ∈ (s.probeWindow query).take query.rowLimit

/-- The results that a query shows. -/
lemma MetricStore.filter_probeHistory (s : MetricStore) (query : ProbeQuery)
    (shown : ProbeResult → Bool) :
    (s.probeHistory query).filter shown =
      ((((s.probeWindow query).take query.rowLimit).filter fun r => shown (scanProbeResult r)).map
        scanProbeResult).reverse := by
  rw [MetricStore.probeHistory, List.filter_reverse, List.filter_map]
  rfl

/-- Every result is stored once. -/
lemma MetricStore.nodup_probeWindow (s : MetricStore) (query : ProbeQuery) :
    (s.probeWindow query).Nodup := by
  refine (List.perm_insertionSort _ _).nodup_iff.mpr ?_
  exact (List.Nodup.of_map _ s.probeResults.keys_nodup).filter _

/-- A query that is not affected shows the same without the results that are kept back. -/
lemma MetricStore.Unaffected.filter_probeHistory {query : ProbeQuery} {shown : ProbeResult → Bool}
    (h : s.Unaffected c query shown) :
    ((s.disclosed c).probeHistory query).filter shown = (s.probeHistory query).filter shown := by
  have hlimit := (Sorting.filter_take_iff (s.nodup_probeWindow query)).mpr
    ⟨h.public_of_shown, h.reads_shown⟩
  rw [MetricStore.filter_probeHistory, MetricStore.filter_probeHistory,
    MetricStore.probeWindow_disclosed, ← hlimit]

/-- The results of the store as everybody may know it. -/
lemma MetricStore.of_mem_probeHistory_disclosed {query : ProbeQuery} {result : ProbeResult}
    (h : result ∈ (s.disclosed c).probeHistory query) :
    c.nodes result.nodeID = true ∧ c.tasks result.taskID = true := by
  obtain ⟨r, hr, rfl⟩ := List.mem_map.mp (List.mem_reverse.mp h)
  have hmem := List.mem_of_mem_take hr
  rw [MetricStore.probeWindow_disclosed] at hmem
  exact Bool.and_eq_true_iff.mp (List.mem_filter.mp hmem).2

/-- A query that is affected shows a result that is kept back, or less than it would show without
these. -/
lemma MetricStore.affected_cases {query : ProbeQuery} {shown : ProbeResult → Bool}
    (h : ¬s.Unaffected c query shown) :
    (∃ result ∈ (s.probeHistory query).filter shown,
        (c.nodes result.nodeID && c.tasks result.taskID) = false) ∨
      ∃ missed, missed ≠ [] ∧ ((s.disclosed c).probeHistory query).filter shown =
        missed ++ (s.probeHistory query).filter shown := by
  rw [MetricStore.filter_probeHistory, MetricStore.filter_probeHistory,
    MetricStore.probeWindow_disclosed]
  by_cases hpublic : ∀ r ∈ (s.probeWindow query).take query.rowLimit,
      shown (scanProbeResult r) = true → c.result r = true
  · right
    obtain ⟨rest, hrest⟩ := Sorting.prefix_filter_take hpublic
    refine ⟨(rest.map scanProbeResult).reverse, fun hnil => h ?_, ?_⟩
    · rw [List.reverse_eq_nil_iff, List.map_eq_nil_iff] at hnil
      rw [hnil, List.append_nil] at hrest
      have hlimit := (Sorting.filter_take_iff (s.nodup_probeWindow query)).mp hrest
      exact ⟨hlimit.1, hlimit.2⟩
    · rw [← hrest, List.map_append, List.reverse_append]
  · left
    push Not at hpublic
    obtain ⟨r, hr, hshown, hback⟩ := hpublic
    refine ⟨scanProbeResult r, ?_, Bool.eq_false_iff.mpr hback⟩
    exact List.mem_reverse.mpr (List.mem_map_of_mem (List.mem_filter.mpr ⟨hr, hshown⟩))

/-- A query is affected exactly when it shows something else without the results that are kept
back. -/
lemma MetricStore.unaffected_iff {query : ProbeQuery} {shown : ProbeResult → Bool} :
    s.Unaffected c query shown ↔
      ((s.disclosed c).probeHistory query).filter shown = (s.probeHistory query).filter shown := by
  refine ⟨fun h => h.filter_probeHistory, fun heq => ?_⟩
  by_contra h
  rcases MetricStore.affected_cases h with ⟨result, hresult, hback⟩ | ⟨missed, hmissed, happend⟩
  · rw [← heq] at hresult
    obtain ⟨hnode, htask⟩ :=
      MetricStore.of_mem_probeHistory_disclosed (List.mem_filter.mp hresult).1
    rw [hnode, htask] at hback
    cases hback
  · exact hmissed (List.append_left_eq_self.mp (happend.symm.trans heq))

/-- Without the results that are kept back no query is affected. -/
lemma MetricStore.unaffected_disclosed (c : Disclosure) (s : MetricStore) (query : ProbeQuery)
    (shown : ProbeResult → Bool) : (s.disclosed c).Unaffected c query shown := by
  have hpublic : ∀ r ∈ (s.disclosed c).probeWindow query, c.result r = true := by
    intro r hr
    rw [MetricStore.probeWindow_disclosed] at hr
    exact (List.mem_filter.mp hr).2
  refine ⟨fun r hr _ => hpublic r (List.mem_of_mem_take hr), fun r hr _ => ?_⟩
  rwa [List.filter_eq_self.mpr hpublic] at hr

/-- A query for the results of a node and a task that everybody may know. -/
lemma MetricStore.probeHistory_disclosed {query : ProbeQuery} (hnode : query.nodeID ≠ "")
    (hknown : c.nodes query.nodeID = true) (htask : 0 < query.taskID)
    (htaskKnown : c.tasks query.taskID = true) :
    (s.disclosed c).probeHistory query = s.probeHistory query := by
  unfold MetricStore.probeHistory
  rw [MetricStore.probeWindow_disclosed, List.filter_eq_self.mpr]
  intro r hr
  obtain ⟨-, hsel⟩ := KeyedTable.mem_selectOrdered.mp hr
  obtain ⟨-, -, hnodeID, htaskID⟩ := of_decide_eq_true hsel
  rw [Disclosure.result, hnodeID.resolve_left hnode, htaskID.resolve_left (not_le.mpr htask),
    hknown, htaskKnown]
  rfl

end Metrics

end Hostpin
