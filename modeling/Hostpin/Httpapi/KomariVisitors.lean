import Hostpin.Httpapi.Visitors

/-!
# Komari requests without a session

The Komari endpoints and the remote procedure calls, run on a site and on the site as everybody may
know it.  They end alike except where they read the results of probes with a limit or list the tasks
of a node; what is asked of these reads is said before (`Site.showsResult`, `Site.DiscreetRecords`,
`Site.DiscreetSeries` and `Site.DiscreetStats`).
-/

namespace Hostpin

open Clock Procedure

section Komari

variable {P : Platform} {c : Disclosure} {d : Site} {cookie : Option String} {clock : Time}

/-! ## Nodes -/

/-- The nodes as they are shown. -/
lemma alike_komariNodes (hd : d.Discloses c) :
    Alike (answerCall P) (c.Paired d) (komariNodes P false) := by
  refine (related_listNodes hd).bindEnds (fun e => .pure rfl) ?_
  refine Alike.bind (.each fun node hnode => ?_) fun entries => .pure _
  have hknown := (hd.of_mem_listNodes (List.mem_filter.mp hnode).1).1
  refine Alike.bind ((alike_latest hknown).bind fun sample => ?_) fun gpu =>
    (alike_latest hknown).bind fun sample => .pure _
  cases sample <;> exact .pure _

/-- The latest states of the nodes, which are all nodes that everybody may know. -/
lemma related_komariLatest (hd : d.Discloses c) :
    Related (answerCall P) (c.Paired d)
      (SameOK fun statuses => ∀ status ∈ statuses, c.nodes status.1 = true)
      (komariLatest P clock false) (komariLatest P clock false) := by
  refine (related_listNodes hd).bindEnds (fun e => .pure ⟨rfl, nofun⟩) ?_
  have hstatus : ∀ node ∈ (d.nodes.listNodes P.textLE false).filter (fun node =>
      !(node.hidden && !false)), Related (answerCall P) (c.Paired d)
      (fun x y => x = y ∧ c.nodes x.1 = true) (latestStatus P clock node.id)
      (latestStatus P clock node.id) := by
    intro node hnode
    have hknown := (hd.of_mem_listNodes (List.mem_filter.mp hnode).1).1
    refine Related.bind (alike_latest hknown) ?_
    rintro sample _ rfl
    cases sample <;> exact .pure ⟨rfl, hknown⟩
  refine (Related.each hstatus).bind ?_
  rintro statuses _ ⟨rfl, hstatuses⟩
  exact .pure ⟨rfl, fun all hall => by cases hall; exact hstatuses⟩

/-- The messages to a live client. -/
lemma alike_clientsMessages (hd : d.Discloses c) (ticks : List Time) :
    Alike (answerCall P) (c.Paired d) (clientsMessages P false ticks) := by
  induction ticks with
  | nil => exact .pure _
  | cons now ticks ih =>
    refine (related_komariLatest hd).bindSame (fun e => .pure rfl) fun statuses hknown => ?_
    refine Alike.bind (.each fun id hid => ?_) fun nested => ih.bind fun messages => .pure _
    obtain ⟨status, hstatus, rfl⟩ := List.mem_map.mp hid
    exact (alike_latest (hknown status hstatus)).bind fun sample => .pure _

/-- The states of a node over some hours. -/
lemma alike_komariLoadRecords (hd : d.Discloses c) (nodeID : String) (hours : Float)
    (maxPoints : ℤ) :
    Alike (answerCall P) (c.Paired d)
      (komariLoadRecords P clock false nodeID hours maxPoints) := by
  refine (related_ensureVisibleNode hd nodeID).bindSame (fun e => .pure rfl) fun _ hshows => ?_
  refine Alike.bind (alike_history (hd.of_shows hshows) clock) fun samples => ?_
  cases samples <;> exact .pure _

/-! ## Probes -/

/-- A result that the Komari endpoints show without a session: one of a task that themes show and of
a node that is listed. -/
def Site.showsResult (P : Platform) (d : Site) (r : ProbeResult) : Bool :=
  r.taskID ∈ (d.tasks.listEnabled.filter isKomariPingTask).map (·.id) &&
    r.nodeID ∈ d.monitorIDs P

/-- The results that a request without a session may see, when these are the same in the two
runs. -/
lemma related_filterVisibleProbeRecords (hd : d.Discloses c) {records kept : List ProbeResult}
    (hsame : kept.filter (d.showsResult P) = records.filter (d.showsResult P))
    (hknown : ∀ r ∈ kept, c.tasks r.taskID = true) :
    Related (answerCall P) (c.Paired d)
      (EndsIn (records.filter (d.showsResult P)) (records.filter (d.showsResult P)))
      (filterVisibleProbeRecords records false) (filterVisibleProbeRecords kept false) := by
  refine related_listProbeTasks.bindEnds (fun e => .pure (.inl ⟨e, rfl, rfl⟩)) ?_
  refine (related_visibleNodeSet hd).bindEnds (fun e => .pure (.inl ⟨e, rfl, rfl⟩)) ?_
  refine .pure (.inr ⟨rfl, congrArg Except.ok ?_⟩)
  rw [← hsame]
  refine List.filter_congr fun r hr => ?_
  have htasks : r.taskID ∈ ((d.tasks.listEnabled.filter fun task => c.tasks task.id).filter
      isKomariPingTask).map (·.id) ↔
      r.taskID ∈ (d.tasks.listEnabled.filter isKomariPingTask).map (·.id) := by
    simp only [List.mem_map, List.mem_filter]
    constructor
    · rintro ⟨task, ⟨⟨hmem, -⟩, hkomari⟩, hid⟩
      exact ⟨task, ⟨hmem, hkomari⟩, hid⟩
    · rintro ⟨task, ⟨hmem, hkomari⟩, hid⟩
      exact ⟨task, ⟨⟨hmem, hid ▸ hknown r hr⟩, hkomari⟩, hid⟩
  simp only [Site.showsResult, htasks]

/-- The visible tasks that themes show are not affected by those that are kept back. -/
lemma Site.Discloses.filter_isKomariPingTask (hd : d.Discloses c) :
    ((d.tasks.listEnabled.filter fun task => c.tasks task.id).filterMap
        (·.restricted (d.monitorIDs P))).filter isKomariPingTask =
      (d.tasks.listEnabled.filterMap (·.restricted (d.monitorIDs P))).filter isKomariPingTask := by
  have hkeeps : ∀ task kept : ProbeTask, task.restricted (d.monitorIDs P) = some kept →
      isKomariPingTask kept = isKomariPingTask task := by
    intro task kept h
    unfold ProbeTask.restricted at h
    dsimp only at h
    split_ifs at h <;> cases h <;> rfl
  have hexchange : ∀ tasks : List ProbeTask,
      (tasks.filterMap (·.restricted (d.monitorIDs P))).filter isKomariPingTask =
        (tasks.filter isKomariPingTask).filterMap (·.restricted (d.monitorIDs P)) := by
    intro tasks
    rw [List.filter_filterMap, List.filterMap_filter]
    refine List.filterMap_congr fun task _ => ?_
    cases hkept : task.restricted (d.monitorIDs P) with
    | none => simp
    | some kept => simp [Option.filter, hkeeps task kept hkept]
  rw [hexchange, hexchange]
  refine hd.filterMap_restricted (fun id hid => hd.of_mem_monitorIDs hid) fun task htask => ?_
  intro hlatency
  simp [isKomariPingTask, hlatency, ProbePurpose.isCarrier] at htask

/-- Results with the tasks they belong to. -/
lemma alike_komariProbeRecords (hd : d.Discloses c) (records : List ProbeResult) :
    Alike (answerCall P) (c.Paired d) (komariProbeRecords P records false) := by
  refine related_listProbeTasks.bindEnds (fun e => ?_) ?_
  · exact (related_filterVisibleProbeTasks hd [] []).bindEnds (fun e => .pure rfl) (.pure rfl)
  · refine (related_filterVisibleProbeTasks hd _ _).bindEnds (fun e => .pure rfl) (.pure ?_)
    simp only [Except.toOption, Option.getD_some, komariTaskList, hd.filter_isKomariPingTask]

/-- The visible tasks as themes show them are not affected by those that are kept back. -/
lemma Site.Discloses.komariTaskList_restricted (hd : d.Discloses c) :
    komariTaskList (d.tasks.listEnabled.filterMap (·.restricted (d.monitorIDs P))) =
      komariTaskList ((d.tasks.listEnabled.filter fun task => c.tasks task.id).filterMap
        (·.restricted (d.monitorIDs P))) := by
  rw [komariTaskList, komariTaskList, hd.filter_isKomariPingTask]

/-- The visible tasks. -/
lemma related_visibleTasks (hd : d.Discloses c) :
    Related (answerCall P) (c.Paired d)
      (EndsIn (d.tasks.listEnabled.filterMap (·.restricted (d.monitorIDs P)))
        ((d.tasks.listEnabled.filter fun task => c.tasks task.id).filterMap
          (·.restricted (d.monitorIDs P))))
      (visibleTasks false) (visibleTasks false) :=
  related_listProbeTasks.bindEnds (fun e => .pure (.inl ⟨e, rfl, rfl⟩))
    (related_filterVisibleProbeTasks hd _ _)

/-- What is asked of the query for the results of a node, or of all nodes, when it is made: it is
not affected by the results that are kept back. -/
def Site.DiscreetRecords (P : Platform) (c : Disclosure) (d : Site) (query : ProbeQuery) : Prop :=
  (query.nodeID ≠ "" → d.Shows query.nodeID) →
    d.metrics.Unaffected c query (d.showsResult P)

/-- Whether a request without a session may see the node that it names, if it names one. -/
lemma related_namedNode (hd : d.Discloses c) (nodeID : String) :
    Related (answerCall P) (c.Paired d)
      (SameOK fun _ => nodeID ≠ "" → d.Shows nodeID)
      (if nodeID = "" then pure (.ok ()) else ensureVisibleNode nodeID false)
      (if nodeID = "" then pure (.ok ()) else ensureVisibleNode nodeID false) := by
  split_ifs with hid
  · exact .pure ⟨rfl, fun _ _ hne => absurd hid hne⟩
  · exact (related_ensureVisibleNode hd nodeID).mono fun _ _ h => ⟨h.1, fun x hx _ => h.2 x hx⟩

/-- The visible results of a query that is not affected by the results that are kept back. -/
lemma related_visibleRecords (hd : d.Discloses c) {query : ProbeQuery}
    (hdiscreet : d.metrics.Unaffected c query (d.showsResult P)) :
    Related (answerCall P) (c.Paired d)
      (EndsIn ((d.metrics.probeHistory query).filter (d.showsResult P))
        ((d.metrics.probeHistory query).filter (d.showsResult P)))
      (filterVisibleProbeRecords (d.metrics.probeHistory query) false)
      (filterVisibleProbeRecords ((d.metrics.disclosed c).probeHistory query) false) :=
  related_filterVisibleProbeRecords hd hdiscreet.filter_probeHistory
    fun _ hr => (MetricStore.of_mem_probeHistory_disclosed hr).2

/-! ## The Komari endpoints -/

/-- The settings that everybody may see. -/
lemma alike_komariPublicSettings (settings : StoredSettings) :
    Alike (answerCall P) (c.Paired d) (komariPublicSettings settings) := by
  refine Alike.bind (Alike.ite (fun _ => .pure _) fun _ => ?_) fun themeSettings => .pure _
  exact (alike_getTheme settings.theme).bind fun theme => .pure _

/-- The settings. -/
lemma alike_handleKomariPublic : Alike (answerCall P) (c.Paired d) handleKomariPublic :=
  related_siteSettings.bindEnds (fun _ => .pure rfl)
    ((alike_komariPublicSettings d.settings).bind fun _ => .pure _)

/-- Who the request is from. -/
lemma alike_handleKomariMe : Alike (answerCall P) (c.Paired d) (handleKomariMe P cookie clock) := by
  refine (alike_currentAdmin cookie clock).bind fun admin => ?_
  cases admin <;> exact .pure _

/-- The query that the endpoint for the results of probes makes. -/
def pingHistoryQuery (P : Platform) (clock : Time) (uuid taskID hours : String) : ProbeQuery :=
  ⟨uuid, (P.parseInt taskID).1, hoursBefore P clock (parseHours P hours), clock, 4000⟩

section Handlers

variable (hd : d.Discloses c) (hsession : ¬d.HasSession P cookie clock)
include hd hsession

/-- The nodes. -/
lemma alike_handleKomariNodes :
    Alike (answerCall P) (c.Paired d) (handleKomariNodes P cookie clock) := by
  refine (related_publicAccess hsession).bindSame (fun e => .pure rfl) ?_
  rintro _ ⟨rfl, -⟩
  refine Alike.bind (alike_komariNodes hd) fun nodes => ?_
  cases nodes <;> exact .pure _

/-- The samples of a node in the last minute. -/
lemma alike_handleKomariRecent (uuid : String) :
    Alike (answerCall P) (c.Paired d) (handleKomariRecent P cookie clock uuid) := by
  refine (related_publicAccess hsession).bindSame (fun e => .pure rfl) ?_
  rintro _ ⟨rfl, -⟩
  refine (related_ensureVisibleNode hd uuid).bindSame (fun e => .pure rfl) fun _ hshows => ?_
  refine Alike.bind (alike_recentMetrics (hd.of_shows hshows) _) fun samples => ?_
  cases samples <;> exact .pure _

/-- The states of a node over some hours. -/
lemma alike_handleKomariLoadHistory (uuid hours : String) :
    Alike (answerCall P) (c.Paired d) (handleKomariLoadHistory P cookie clock uuid hours) := by
  refine (related_publicAccess hsession).bindSame (fun e => .pure rfl) ?_
  rintro _ ⟨rfl, -⟩
  refine Alike.bind (alike_komariLoadRecords hd uuid _ 4000) fun records => ?_
  cases records <;> exact .pure _

/-- The results of the probes of a node, or of all nodes when no node is named. -/
lemma alike_handleKomariPingHistory (uuid taskID hours : String)
    (hdiscreet : d.settings.isPrivate = false →
      d.DiscreetRecords P c (pingHistoryQuery P clock uuid taskID hours)) :
    Alike (answerCall P) (c.Paired d)
      (handleKomariPingHistory P cookie clock uuid taskID hours) := by
  refine (related_publicAccess hsession).bindSame (fun e => .pure rfl) ?_
  rintro _ ⟨rfl, hprivate⟩
  refine (related_namedNode hd uuid).bindSame (fun e => .pure rfl) fun _ hshows => ?_
  refine (related_probeHistory (pingHistoryQuery P clock uuid taskID hours)).bindEnds
    (fun e => .pure rfl) ?_
  refine (related_visibleRecords hd (hdiscreet hprivate hshows)).bindEnds (fun e => .pure rfl) ?_
  exact (alike_komariProbeRecords hd _).bind fun records => .pure _

/-- The tasks. -/
lemma alike_handleKomariPingTasks :
    Alike (answerCall P) (c.Paired d) (handleKomariPingTasks P cookie clock) := by
  refine (related_publicAccess hsession).bindSame (fun e => .pure rfl) ?_
  rintro _ ⟨rfl, -⟩
  exact (related_visibleTasks hd).bindEnds (fun e => .pure rfl)
    (.pure (congrArg KomariResponse.tasks hd.komariTaskList_restricted))

/-- A live client. -/
lemma alike_handleKomariClients (ticks : List Time) :
    Alike (answerCall P) (c.Paired d) (handleKomariClients P cookie clock ticks) := by
  refine (related_publicAccess hsession).bindSame (fun e => .pure rfl) ?_
  rintro _ ⟨rfl, -⟩
  exact Alike.bind (alike_clientsMessages hd ticks) fun messages => .pure _

end Handlers

/-! ## Series -/

section Series

variable {params : Params}

/-- The nodes that a query for series names. -/
def seriesNodes (P : Platform) (params : Params) : List String :=
  namedNodes P params (stringParam P params "entity_id")

/-- The nodes that a query without a session asks for. -/
def Site.askedNodes (P : Platform) (d : Site) (named : List String) : List String :=
  if named ≠ [] then named else d.monitorIDs P

/-- The nodes that a query asks for. -/
lemma related_queriedNodes (hd : d.Discloses c) (named : List String) :
    Related (answerCall P) (c.Paired d) (EndsIn (d.askedNodes P named) (d.askedNodes P named))
      (queriedNodes named false) (queriedNodes named false) := by
  unfold queriedNodes Site.askedNodes
  split_ifs
  · exact .pure (.inr ⟨rfl, rfl⟩)
  · exact related_visibleNodeSet hd

/-- What is asked of the reads for the series of the probes of a node: none of the tasks that are
listed is kept back, and the query for their results is not affected by results that are. -/
def Site.DiscreetSeriesOf (P : Platform) (c : Disclosure) (d : Site) (params : Params)
    (query : SeriesQuery) (nodeID : String) : Prop :=
  ∀ node, d.nodes.getNode nodeID = some node →
    let tasks := requestedTasks P params (listProbeTasks d.tasks.toProbeTaskTable node.toNode)
    (∀ task ∈ tasks, c.tasks task.id = true) ∧
      d.metrics.Unaffected c
        (probeSeriesQuery nodeID query.start query.endAt query.maxPoints tasks)
        fun r => r.taskID ∈ tasks.map (·.id)

/-- What is asked of a query for series that is made and names a metric of probes, for every node
that it may see. -/
def Site.DiscreetSeries (P : Platform) (c : Disclosure) (d : Site) (params : Params)
    (clock : Time) : Prop :=
  unknownMetric (namedMetrics P params) = none →
    (∃ metric ∈ namedMetrics P params, isProbeMetric metric = true) →
    ∀ query, seriesQuery P params clock (namedMetrics P params) = .ok query →
    ∀ nodeID ∈ d.askedNodes P (seriesNodes P params), d.Shows nodeID →
      d.DiscreetSeriesOf P c params query nodeID

/-- The series of tasks depend only on the results of these tasks. -/
lemma probeSeries_congr {nodeID metric : String} {definition : KomariMetricDefinition}
    {fillEmpty : Bool} {maxPoints : ℤ} {tasks : List ProbeTask}
    {records records' : List ProbeResult}
    (h : records'.filter (fun r => r.taskID ∈ tasks.map (·.id)) =
      records.filter fun r => r.taskID ∈ tasks.map (·.id)) :
    probeSeries nodeID metric definition fillEmpty maxPoints tasks records' =
      probeSeries nodeID metric definition fillEmpty maxPoints tasks records := by
  have hrefine : ∀ task ∈ tasks, ∀ l : List ProbeResult, l.filter (·.taskID = task.id) =
      (l.filter fun r => r.taskID ∈ tasks.map (·.id)).filter (·.taskID = task.id) := by
    intro task htask l
    rw [List.filter_filter]
    refine List.filter_congr fun r _ => ?_
    by_cases hr : r.taskID = task.id
    · simp only [hr, List.mem_map_of_mem htask, decide_true, Bool.and_self]
    · simp [hr]
  have hseries : tasks.map (fun task => komariMetricSeries metric nodeID definition
        [("task_id", toString task.id)]
        ((records'.filter (·.taskID = task.id)).map (probePoint metric fillEmpty)) maxPoints) =
      tasks.map fun task => komariMetricSeries metric nodeID definition
        [("task_id", toString task.id)]
        ((records.filter (·.taskID = task.id)).map (probePoint metric fillEmpty)) maxPoints := by
    refine List.map_congr_left fun task htask => ?_
    rw [hrefine task htask records', h, ← hrefine task htask records]
  unfold probeSeries
  rw [hseries]

/-- The series of the probes of a node. -/
lemma alike_rpcProbeMetricSeries (hd : d.Discloses c) {nodeID : String} (hshows : d.Shows nodeID)
    {query : SeriesQuery} (hdiscreet : d.DiscreetSeriesOf P c params query nodeID) (metric : String)
    (definition : KomariMetricDefinition) :
    Alike (answerCall P) (c.Paired d)
      (rpcProbeMetricSeries P params nodeID metric definition query.start query.endAt
        query.maxPoints query.fillEmpty) := by
  have hknown := hd.of_shows hshows
  obtain ⟨hid, node, hnode, -⟩ := hshows
  obtain ⟨htasks, hresults⟩ := hdiscreet node hnode
  refine (related_listProbeTasks_node hid hnode hknown).bindEnds (fun e => .pure rfl) ?_
  have hrequested : requestedTasks P params
      ((listProbeTasks d.tasks.toProbeTaskTable node.toNode).filter fun task => c.tasks task.id) =
      requestedTasks P params (listProbeTasks d.tasks.toProbeTaskTable node.toNode) := by
    unfold requestedTasks at htasks ⊢
    rw [List.filter_comm, List.filter_eq_self.mpr htasks]
  dsimp only
  rw [hrequested]
  refine (related_probeHistory _).bindEnds (fun e => .pure rfl) (.pure ?_)
  rw [probeSeries_congr hresults.filter_probeHistory]

/-- The samples of a node that a request may see. -/
lemma related_visibleSamples (hd : d.Discloses c) (query : SeriesQuery) (nodeID : String) :
    Related (answerCall P) (c.Paired d)
      (SameOK fun samples => ∀ seen ∈ samples, seen.1 = nodeID ∧ d.Shows nodeID)
      (visibleSamples clock false query nodeID) (visibleSamples clock false query nodeID) := by
  refine (related_ensureVisibleNode hd nodeID).bindSame
    (fun e => .pure ⟨rfl, fun samples hsamples => ?_⟩) fun _ hshows => ?_
  · cases hsamples
    exact nofun
  · refine Related.bind (alike_history (hd.of_shows hshows) clock) ?_
    rintro samples _ rfl
    cases samples with
    | error e => exact .pure ⟨rfl, nofun⟩
    | ok samples =>
      refine .pure ⟨rfl, fun seen hseen => ?_⟩
      cases hseen
      intro pair hpair
      cases hpair
      exact ⟨rfl, hshows⟩

/-- The series of a metric of a node. -/
lemma alike_nodeSeries (hd : d.Discloses c) {query : SeriesQuery} {metric : String}
    {nodeSamples : String × List MetricSample} (hshows : d.Shows nodeSamples.1)
    (hdiscreet : isProbeMetric metric = true →
      d.DiscreetSeriesOf P c params query nodeSamples.1) :
    Alike (answerCall P) (c.Paired d) (nodeSeries P params query metric nodeSamples) := by
  refine Alike.ite (fun hprobe => ?_) fun _ => Alike.ite (fun _ => .pure _) fun _ => .pure _
  exact alike_rpcProbeMetricSeries hd hshows (hdiscreet hprobe) metric _

/-- The series of the metrics of the nodes. -/
lemma alike_allSeries (hd : d.Discloses c) {query : SeriesQuery}
    {samples : List (String × List MetricSample)} (hshows : ∀ seen ∈ samples, d.Shows seen.1)
    (hdiscreet : (∃ metric ∈ query.metrics, isProbeMetric metric = true) →
      ∀ seen ∈ samples, d.DiscreetSeriesOf P c params query seen.1) :
    Alike (answerCall P) (c.Paired d) (allSeries P params query samples) := by
  refine Alike.bind (.eachOK fun pair hpair => ?_) fun series => ?_
  · obtain ⟨metric, hmetric, hmem⟩ := List.mem_flatMap.mp hpair
    obtain ⟨seen, hseen, rfl⟩ := List.mem_map.mp hmem
    exact alike_nodeSeries hd (hshows seen hseen) fun hprobe =>
      hdiscreet ⟨metric, hmetric, hprobe⟩ seen hseen
  · cases series <;> exact .pure _

/-- A query for series is one for the metrics that are named. -/
lemma metrics_of_seriesQuery {metrics : List String} {query : SeriesQuery}
    (h : seriesQuery P params clock metrics = .ok query) : query.metrics = metrics := by
  unfold seriesQuery at h
  cases hwindow : rpcWindow P params clock with
  | error e =>
    rw [hwindow] at h
    cases h
  | ok window =>
    rw [hwindow] at h
    dsimp only [Bind.bind, Except.bind] at h
    split_ifs at h
    cases h
    rfl

/-- The series that a query asks for. -/
lemma alike_rpcQueryMetrics (hd : d.Discloses c) (hdiscreet : d.DiscreetSeries P c params clock) :
    Alike (answerCall P) (c.Paired d) (rpcQueryMetrics P params clock false) := by
  refine Alike.ite (fun _ => .pure _) fun _ => ?_
  cases hunknown : unknownMetric (namedMetrics P params) with
  | some metric => exact .pure _
  | none =>
    refine (related_queriedNodes hd (seriesNodes P params)).bindEnds (fun e => .pure rfl) ?_
    dsimp only
    cases hquery : seriesQuery P params clock (namedMetrics P params) with
    | error e => exact .pure rfl
    | ok query =>
      set asked := d.askedNodes P (seriesNodes P params) with hasked
      have hvisible : ∀ nodeID ∈ asked.eraseDups, Related (answerCall P) (c.Paired d)
          (SameOK fun samples => ∀ seen ∈ samples, seen.1 ∈ asked ∧ d.Shows seen.1)
          (visibleSamples clock false query nodeID) (visibleSamples clock false query nodeID) := by
        intro nodeID hnodeID
        refine (related_visibleSamples hd query nodeID).mono fun _ _ h =>
          ⟨h.1, fun samples hsamples seen hseen => ?_⟩
        obtain ⟨hsame, hshows⟩ := h.2 samples hsamples seen hseen
        rw [hsame]
        exact ⟨List.mem_eraseDups.mp hnodeID, hshows⟩
      refine (Related.eachOK hvisible).bindSame (fun e => .pure rfl) fun samples hsamples => ?_
      have hseen : ∀ seen ∈ samples.filterMap id, seen.1 ∈ asked ∧ d.Shows seen.1 := by
        intro seen hmem
        obtain ⟨o, ho, rfl⟩ := List.mem_filterMap.mp hmem
        exact hsamples _ ho seen rfl
      refine Alike.bind (alike_allSeries hd (fun seen hmem => (hseen seen hmem).2)
        fun hprobe seen hmem => ?_) fun series => ?_
      · rw [metrics_of_seriesQuery hquery] at hprobe
        obtain ⟨hnode, hshows⟩ := hseen seen hmem
        exact hdiscreet hunknown hprobe query hquery seen.1 hnode hshows
      · cases series <;> exact .pure _

end Series

/-! ## Statistics -/

section Stats

variable {params : Params}

/-- What is asked of a query for statistics that is made, for every node that it may see: the query
for the results of the node is not affected by results that are kept back. -/
def Site.DiscreetStats (P : Platform) (c : Disclosure) (d : Site) (params : Params) (clock : Time) :
    Prop :=
  ∀ start endAt, rpcWindow P params clock = .ok (start, endAt) →
    ∀ nodeID ∈ d.askedNodes P (pingStatsNodes P params), d.Shows nodeID →
      d.metrics.Unaffected c (pingStatsQuery nodeID start endAt) fun r =>
        rpcTaskIDFilter P params = [] ∨ r.taskID ∈ rpcTaskIDFilter P params

/-- The results of a node that a request may see, which are all results of tasks that everybody may
know. -/
lemma related_visibleResults (hd : d.Discloses c) {start endAt : Time} {nodeID : String}
    (hdiscreet : d.Shows nodeID →
      d.metrics.Unaffected c (pingStatsQuery nodeID start endAt) fun r =>
        rpcTaskIDFilter P params = [] ∨ r.taskID ∈ rpcTaskIDFilter P params) :
    Related (answerCall P) (c.Paired d)
      (SameOK fun records => ∀ seen ∈ records, c.tasks seen.2.taskID = true)
      (visibleResults P params false start endAt nodeID)
      (visibleResults P params false start endAt nodeID) := by
  refine (related_ensureVisibleNode hd nodeID).bindSame
    (fun e => .pure ⟨rfl, fun records hrecords => ?_⟩) fun _ hshows => ?_
  · cases hrecords
    exact nofun
  · refine (related_probeHistory _).bindEnds (fun e => .pure ⟨rfl, nofun⟩) ?_
    have hsame := (hdiscreet hshows).filter_probeHistory
    dsimp only
    rw [hsame]
    refine .pure ⟨rfl, fun records hrecords => ?_⟩
    cases hrecords
    rw [← hsame]
    intro seen hseen
    obtain ⟨r, hr, rfl⟩ := List.mem_map.mp hseen
    exact (MetricStore.of_mem_probeHistory_disclosed (List.mem_filter.mp hr).1).2

/-- The task with a number that everybody may know. -/
lemma taskByID_filter {tasks : List ProbeTask} {id : ℤ} (h : c.tasks id = true) :
    taskByID (tasks.filter fun task => c.tasks task.id) id = taskByID tasks id := by
  unfold taskByID
  rw [List.find?_filter]
  congr 2
  funext task
  by_cases hid : task.id = id
  · simp [hid, h]
  · simp [hid]

/-- The statistics of results depend only on the tasks that these belong to. -/
lemma pingStats_filter {tasks : List ProbeTask} {records : List (String × ProbeResult)}
    (h : ∀ seen ∈ records, c.tasks seen.2.taskID = true) :
    pingStats P (tasks.filter fun task => c.tasks task.id) records = pingStats P tasks records := by
  unfold pingStats
  refine List.map_congr_left fun group hgroup => ?_
  rw [List.mem_insertionSort, List.mem_eraseDups] at hgroup
  obtain ⟨seen, hseen, rfl⟩ := List.mem_map.mp hgroup
  dsimp only
  rw [taskByID_filter (h seen hseen)]

/-- The statistics that a query asks for. -/
lemma alike_rpcPingStats (hd : d.Discloses c) (hdiscreet : d.DiscreetStats P c params clock) :
    Alike (answerCall P) (c.Paired d) (rpcPingStats P params clock false) := by
  unfold rpcPingStats
  cases hwindow : rpcWindow P params clock with
  | error e => exact .pure _
  | ok window =>
    obtain ⟨start, endAt⟩ := window
    refine (related_queriedNodes hd (pingStatsNodes P params)).bindEnds (fun e => .pure rfl) ?_
    refine related_listProbeTasks.bindEnds (fun e => .pure rfl) ?_
    have hresults : ∀ nodeID ∈ (d.askedNodes P (pingStatsNodes P params)).eraseDups,
        Related (answerCall P) (c.Paired d)
          (SameOK fun records => ∀ seen ∈ records, c.tasks seen.2.taskID = true)
          (visibleResults P params false start endAt nodeID)
          (visibleResults P params false start endAt nodeID) := by
      intro nodeID hnodeID
      have hasked := List.mem_eraseDups.mp hnodeID
      exact related_visibleResults hd (hdiscreet start endAt hwindow nodeID hasked)
    refine (Related.eachOK hresults).bindSame (fun e => .pure rfl) fun records hrecords => ?_
    have hknown : ∀ seen ∈ records.flatten, c.tasks seen.2.taskID = true := by
      intro seen hseen
      obtain ⟨ofNode, hofNode, hmem⟩ := List.mem_flatten.mp hseen
      exact hrecords ofNode hofNode seen hmem
    dsimp only
    rw [pingStats_filter hknown]
    exact .pure rfl

end Stats

/-! ## Remote procedure calls -/

section Calls

variable {params : Params}

/-- What is asked of the reads of a call. -/
def Site.DiscreetCall (P : Platform) (c : Disclosure) (d : Site) (method : RPCMethod)
    (params : Params) (clock : Time) : Prop :=
  match method with
  | .getRecords =>
    stringParam P params "type" = "ping" →
      d.DiscreetRecords P c (probeRecordsQuery P clock params)
  | .publicGetPingRecords => d.DiscreetRecords P c (probeRecordsQuery P clock params)
  | .publicQueryMetrics => d.DiscreetSeries P c params clock
  | .publicGetPingMetricStats => d.DiscreetStats P c params clock
  | _ => True

/-- The settings. -/
lemma alike_rpcPublicSettings : Alike (answerCall P) (c.Paired d) rpcPublicSettings :=
  related_siteSettings.bindEnds (fun _ => .pure rfl)
    ((alike_komariPublicSettings d.settings).bind fun _ => .pure _)

/-- The states of a node in the last minute. -/
lemma alike_rpcRecent (hd : d.Discloses c) (result : List KomariStatus → RPCResult) :
    Alike (answerCall P) (c.Paired d) (rpcRecent P clock params false result) := by
  refine (related_ensureVisibleNode hd _).bindSame (fun e => .pure rfl) fun _ hshows => ?_
  refine Alike.bind (alike_recentMetrics (hd.of_shows hshows) _) fun records => ?_
  cases records <;> exact .pure _

/-- The results of the probes of a node, or of all nodes when no node is named. -/
lemma alike_rpcProbeRecords (hd : d.Discloses c)
    (hdiscreet : d.DiscreetRecords P c (probeRecordsQuery P clock params)) :
    Alike (answerCall P) (c.Paired d) (rpcProbeRecords P clock params false) := by
  refine (related_namedNode hd _).bindSame (fun e => .pure rfl) fun _ hshows => ?_
  refine (related_probeHistory (probeRecordsQuery P clock params)).bindEnds (fun e => .pure rfl) ?_
  refine (related_visibleRecords hd (hdiscreet hshows)).bindEnds (fun e => .pure rfl) ?_
  exact (alike_komariProbeRecords hd _).bind fun records => .pure _

/-- A call of a method. -/
lemma alike_callMethod (hd : d.Discloses c) {method : RPCMethod}
    (hdiscreet : d.DiscreetCall P c method params clock) :
    Alike (answerCall P) (c.Paired d) (callMethod P clock method params false) := by
  cases method with
  | ping | version | methods | getVersion | publicGetVersion | getMe | publicGetMe
  | publicListMetricDefinitions => exact .pure _
  | getPublicInfo | publicGetPublicSettings => exact alike_rpcPublicSettings
  | getNodes | publicGetNodesInformation =>
    exact (alike_komariNodes hd).bind fun nodes => .pure _
  | getNodesLatestStatus | publicGetNodesLatestStatus =>
    exact Alike.bind ((related_komariLatest hd).mono fun _ _ h => h.1) fun statuses => .pure _
  | getNodeRecentStatus | publicGetClientRecentRecords => exact alike_rpcRecent hd _
  | getRecords =>
    refine Alike.ite (fun hping => alike_rpcProbeRecords hd (hdiscreet hping)) fun _ => ?_
    exact (alike_komariLoadRecords hd _ _ _).bind fun records => .pure _
  | publicGetRecordsByUUID =>
    exact (alike_komariLoadRecords hd _ _ 4000).bind fun records => .pure _
  | publicGetPingRecords => exact alike_rpcProbeRecords hd hdiscreet
  | publicGetPublicPingTasks =>
    refine (related_visibleTasks hd).bindEnds (fun e => .pure rfl) (.pure ?_)
    rw [failing, failing, hd.komariTaskList_restricted]
  | publicQueryMetrics => exact (alike_rpcQueryMetrics hd hdiscreet).bind fun answer => .pure _
  | publicGetPingMetricStats => exact (alike_rpcPingStats hd hdiscreet).bind fun answer => .pure _

/-- What is asked of the reads of a request that is a call. -/
def Site.DiscreetRequest (P : Platform) (c : Disclosure) (d : Site) (clock : Time)
    (request : RPCRequest) : Prop :=
  request.jsonrpc = "2.0" → ∀ method, RPCMethod.ofName request.method = some method →
    d.DiscreetCall P c method (rpcParams method request.params) clock

/-- A call of the method with a name. -/
lemma alike_callRPC (hd : d.Discloses c) {request : RPCRequest}
    (hdiscreet : d.DiscreetRequest P c clock request) (hjsonrpc : request.jsonrpc = "2.0") :
    Alike (answerCall P) (c.Paired d) (callRPC P clock request.method request.params false) := by
  unfold callRPC
  cases hname : RPCMethod.ofName request.method with
  | none => exact .pure _
  | some method => exact alike_callMethod hd (hdiscreet hjsonrpc method hname)

/-- The answer to a request. -/
lemma alike_dispatchRPC (hd : d.Discloses c) (hsession : ¬d.HasSession P cookie clock)
    {request : RPCRequest} (hdiscreet : d.DiscreetRequest P c clock request) :
    Alike (answerCall P) (c.Paired d) (dispatchRPC P cookie clock request) := by
  refine Alike.ite (fun _ => .pure _) fun hvalid => ?_
  have hjsonrpc : request.jsonrpc = "2.0" := not_ne_iff.mp (not_or.mp hvalid).1
  refine (related_publicAccess hsession).bind ?_
  rintro access _ ⟨rfl, haccess⟩
  have hvisitor : access.toOption.getD false = false := by
    cases access with
    | error e => rfl
    | ok authenticated => exact (haccess authenticated rfl).1
  have hserve (settings : StoredSettings) : Alike (answerCall P) (c.Paired d) (do
      if !access.toOption.isSome && settings.isPrivate && request.method ∉ loginMethods then
        return .error request.id 403 "Private site enabled, please login first"
      else
        let returned ← callRPC P clock request.method request.params
          (access.toOption.getD false)
        return RPCReturn.response request.id returned) := by
    refine Alike.ite (fun _ => .pure _) fun _ => ?_
    rw [hvisitor]
    exact (alike_callRPC hd hdiscreet hjsonrpc).bind fun returned => .pure _
  exact related_siteSettings.bindEnds (fun e => hserve {}) (hserve d.settings)

/-- The answers to what a client sends. -/
lemma alike_handleRPC2 (hd : d.Discloses c) {body : RPCBody}
    (hsession : ∀ request ∈ body.requests, ¬d.HasSession P cookie request.1)
    (hdiscreet : ∀ request ∈ body.requests, d.DiscreetRequest P c request.1 request.2) :
    Alike (answerCall P) (c.Paired d) (handleRPC2 P cookie body) := by
  have hall : Alike (answerCall P) (c.Paired d) (dispatchAll P cookie body.requests) :=
    .each fun request hrequest =>
      alike_dispatchRPC hd (hsession request hrequest) (hdiscreet request hrequest)
  cases body with
  | malformed | invalid => exact .pure _
  | single clock request => exact hall
  | batch requests =>
    cases requests with
    | nil => exact .pure _
    | cons request requests => exact hall
  | webSocket messages => exact hall

/-- Without what is kept back every request is answered discreetly. -/
lemma discreetRequest_disclosed (P : Platform) (c : Disclosure) (d : Site) (clock : Time)
    (request : RPCRequest) : (d.disclosed c).DiscreetRequest P c clock request := by
  intro _ method hmethod
  have hrecords (query : ProbeQuery) : (d.disclosed c).DiscreetRecords P c query :=
    fun _ => MetricStore.unaffected_disclosed c d.metrics query _
  cases method with
  | getRecords => exact fun _ => hrecords _
  | publicGetPingRecords => exact hrecords _
  | publicQueryMetrics =>
    intro hknown hprobe query hquery nodeID hnodeID hshows node hnode
    refine ⟨fun task htask => ?_, MetricStore.unaffected_disclosed c d.metrics _ _⟩
    have hlisted := (List.mem_filter.mp htask).1
    change task ∈ listProbeTasks (d.tasks.disclosed c).toProbeTaskTable node.toNode at hlisted
    rw [CarrierTaskTable.listProbeTasks_disclosed] at hlisted
    exact (List.mem_filter.mp hlisted).2
  | publicGetPingMetricStats =>
    exact fun start endAt hwindow nodeID hnodeID hshows =>
      MetricStore.unaffected_disclosed c d.metrics _ _
  | _ => trivial

end Calls

end Komari

end Hostpin
