import Hostpin.Httpapi.KomariVisitors

/-!
# Hidden data

Requests without a session get the same answers from two sites that differ only in what is kept
back, as long as the sites are discreet towards the requests (`responses_eq`).

A site is not discreet when a read is limited or filtered in the wrong place: rows that are kept
back take the place of rows that are shown, the results of a task stay visible after it was assigned
to hidden nodes, and the statistics and the series of probes do not look at the purpose of a task.
The last is enough to tell a visitor the name and the results of a latency task that is not public
(`responses_tell_latencyTask`).
-/

namespace Hostpin

open Clock Procedure

/-! ## Requests -/

/-- What a client asks of the public and of the Komari endpoints. -/
inductive Endpoint where
  | publicNodes
  | publicNode (id : String)
  | publicHistory (nodeID hours points : String)
  | publicProbes (nodeID purpose hours points : String)
  | publicLive (events : List FeedEvent)
  | komariPublic
  | komariVersion
  | komariMe
  | komariNodes
  | komariRecent (uuid : String)
  | komariLoadHistory (uuid hours : String)
  | komariPingHistory (uuid taskID hours : String)
  | komariPingTasks
  | komariClients (ticks : List Time)
  | rpc2 (body : RPCBody)

/-- A request, with the cookie of a session and the time at which it comes.  The messages of
`rpc2` have their own times. -/
structure SiteRequest where
  cookie : Option String
  clock : Time
  endpoint : Endpoint

/-- The answer to a request. -/
inductive SiteResponse where
  | ofPublic (response : PublicResponse)
  | ofKomari (response : KomariResponse)
  | ofRPC (responses : List RPCResponse)

/-- The answer to a request. -/
def respond (P : Platform) (request : SiteRequest) : Serve SiteResponse :=
  let cookie := request.cookie
  let clock := request.clock
  match request.endpoint with
  | .publicNodes => return .ofPublic (← handlePublicNodes P cookie clock)
  | .publicNode id => return .ofPublic (← handlePublicNode P cookie clock id)
  | .publicHistory nodeID hours points =>
    return .ofPublic (← handlePublicHistory P cookie clock nodeID hours points)
  | .publicProbes nodeID purpose hours points =>
    return .ofPublic (← handlePublicProbes P cookie clock nodeID purpose hours points)
  | .publicLive events => return .ofPublic (← handlePublicLive P cookie clock events)
  | .komariPublic => return .ofKomari (← handleKomariPublic)
  | .komariVersion => return .ofKomari (← handleKomariVersion P)
  | .komariMe => return .ofKomari (← handleKomariMe P cookie clock)
  | .komariNodes => return .ofKomari (← handleKomariNodes P cookie clock)
  | .komariRecent uuid => return .ofKomari (← handleKomariRecent P cookie clock uuid)
  | .komariLoadHistory uuid hours =>
    return .ofKomari (← handleKomariLoadHistory P cookie clock uuid hours)
  | .komariPingHistory uuid taskID hours =>
    return .ofKomari (← handleKomariPingHistory P cookie clock uuid taskID hours)
  | .komariPingTasks => return .ofKomari (← handleKomariPingTasks P cookie clock)
  | .komariClients ticks => return .ofKomari (← handleKomariClients P cookie clock ticks)
  | .rpc2 body => return .ofRPC (← handleRPC2 P cookie body)

/-- The answers of a site to some requests, one after the other.  The outcomes tell which calls of
the store fail. -/
def responses (P : Platform) (d : Site) (outcomes : ℕ → Option StoreError)
    (requests : List SiteRequest) : List SiteResponse :=
  ((each (respond P) requests).run (answerCall P) ⟨d, outcomes⟩).1

/-- The times at which a request asks for the administrator. -/
def SiteRequest.clocks (request : SiteRequest) : List Time :=
  match request.endpoint with
  | .publicLive events => request.clock :: events.filterMap fun
    | .revalidate now => some now
    | _ => none
  | .rpc2 body => body.requests.map (·.1)
  | _ => [request.clock]

/-- A request does not come from a session of the administrator. -/
def SiteRequest.WithoutSession (P : Platform) (d : Site) (request : SiteRequest) : Prop :=
  ∀ clock ∈ request.clocks, ¬d.HasSession P request.cookie clock

/-- A request while only samples that everybody may know are published. -/
def SiteRequest.disclosed (c : Disclosure) (request : SiteRequest) : SiteRequest :=
  match request.endpoint with
  | .publicLive events => { request with endpoint := .publicLive (events.filter (·.known c)) }
  | _ => request

/-- A site is discreet towards a request: nothing that is kept back affects what the request
reads. -/
def Site.Discreet (P : Platform) (c : Disclosure) (d : Site) (request : SiteRequest) : Prop :=
  match request.endpoint with
  | .komariPingHistory uuid taskID hours => d.settings.isPrivate = false →
    d.DiscreetRecords P c (pingHistoryQuery P request.clock uuid taskID hours)
  | .rpc2 body => ∀ message ∈ body.requests, d.DiscreetRequest P c message.1 message.2
  | _ => True

section Responses

variable {P : Platform} {c : Disclosure} {d : Site}

/-- The answer to a request. -/
lemma related_respond (hd : d.Discloses c) {request : SiteRequest}
    (hsession : request.WithoutSession P d) (hdiscreet : d.Discreet P c request) :
    Related (answerCall P) (c.Paired d) Eq (respond P request)
      (respond P (request.disclosed c)) := by
  obtain ⟨cookie, clock, endpoint⟩ := request
  cases endpoint with
  | publicLive events =>
    have hevents : ∀ now, .revalidate now ∈ events → ¬d.HasSession P cookie now := by
      intro now hnow
      exact hsession now (List.mem_cons_of_mem _ (List.mem_filterMap.mpr ⟨_, hnow, rfl⟩))
    refine (related_handlePublicLive hd (hsession clock List.mem_cons_self) hevents).bind ?_
    rintro response _ rfl
    exact .pure rfl
  | rpc2 body =>
    have hmessages : ∀ message ∈ body.requests, ¬d.HasSession P cookie message.1 :=
      fun message hmessage => hsession _ (List.mem_map_of_mem hmessage)
    exact (alike_handleRPC2 hd hmessages hdiscreet).bind fun response => .pure _
  | komariPublic => exact alike_handleKomariPublic.bind fun response => .pure _
  | komariVersion => exact .pure rfl
  | komariMe => exact alike_handleKomariMe.bind fun response => .pure _
  | publicNodes =>
    exact (alike_handlePublicNodes hd (hsession clock List.mem_cons_self)).bind fun _ => .pure _
  | publicNode id =>
    exact (alike_handlePublicNode hd (hsession clock List.mem_cons_self) id).bind fun _ => .pure _
  | publicHistory nodeID hours points =>
    exact (alike_handlePublicHistory hd (hsession clock List.mem_cons_self) nodeID hours
      points).bind fun _ => .pure _
  | publicProbes nodeID purpose hours points =>
    exact (alike_handlePublicProbes hd (hsession clock List.mem_cons_self) nodeID purpose hours
      points).bind fun _ => .pure _
  | komariNodes =>
    exact (alike_handleKomariNodes hd (hsession clock List.mem_cons_self)).bind fun _ => .pure _
  | komariRecent uuid =>
    exact (alike_handleKomariRecent hd (hsession clock List.mem_cons_self) uuid).bind fun _ =>
      .pure _
  | komariLoadHistory uuid hours =>
    exact (alike_handleKomariLoadHistory hd (hsession clock List.mem_cons_self) uuid hours).bind
      fun _ => .pure _
  | komariPingHistory uuid taskID hours =>
    exact (alike_handleKomariPingHistory hd (hsession clock List.mem_cons_self) uuid taskID hours
      hdiscreet).bind fun _ => .pure _
  | komariPingTasks =>
    exact (alike_handleKomariPingTasks hd (hsession clock List.mem_cons_self)).bind fun _ => .pure _
  | komariClients ticks =>
    exact (alike_handleKomariClients hd (hsession clock List.mem_cons_self) ticks).bind fun _ =>
      .pure _

/-- The answers to some requests are those of the site as everybody may know it. -/
lemma responses_disclosed (hd : d.Discloses c) {requests : List SiteRequest}
    (hsession : ∀ request ∈ requests, request.WithoutSession P d)
    (hdiscreet : ∀ request ∈ requests, d.Discreet P c request)
    (outcomes : ℕ → Option StoreError) :
    responses P d outcomes requests =
      responses P (d.disclosed c) outcomes (requests.map (·.disclosed c)) := by
  have hrelated : Related (answerCall P) (c.Paired d) Eq (each (respond P) requests)
      (each (respond P) (requests.map (·.disclosed c))) := by
    induction requests with
    | nil => exact .pure rfl
    | cons request requests ih =>
      rw [List.forall_mem_cons] at hsession hdiscreet
      refine (related_respond hd hsession.1 hdiscreet.1).bind ?_
      rintro response _ rfl
      refine (ih hsession.2 hdiscreet.2).bind ?_
      rintro rest _ rfl
      exact .pure rfl
  exact (hrelated _ _ (Disclosure.Paired.start c d outcomes)).1

/-- A site as everybody may know it keeps nothing back. -/
lemma Site.disclosed_disclosed (c : Disclosure) (d : Site) :
    (d.disclosed c).disclosed c = d.disclosed c := by
  have hkept {K V : Type} {key : V → K} (t : KeyedTable key) (p : V → Bool) :
      (t.deleteWhere p).deleteWhere p = t.deleteWhere p := by
    simp [KeyedTable.deleteWhere, List.filter_filter]
  have htasks : (d.tasks.disclosed c).disclosed c = d.tasks.disclosed c := by
    simp only [CarrierTaskTable.disclosed, hkept]
  have hmetrics : (d.metrics.disclosed c).disclosed c = d.metrics.disclosed c := by
    simp only [MetricStore.disclosed, hkept]
  unfold Site.disclosed
  dsimp only
  rw [htasks, hmetrics, hkept]
  congr 1
  · funext id
    split_ifs <;> rfl
  · congr 1 <;> funext id <;> split_ifs <;> rfl

/-- A site as everybody may know it is discreet towards every request. -/
lemma Site.discreet_disclosed (P : Platform) (c : Disclosure) (d : Site) (request : SiteRequest) :
    (d.disclosed c).Discreet P c request := by
  obtain ⟨cookie, clock, endpoint⟩ := request
  cases endpoint with
  | komariPingHistory uuid taskID hours =>
    exact fun _ _ => MetricStore.unaffected_disclosed c d.metrics _ _
  | rpc2 body =>
    exact fun message _ => discreetRequest_disclosed P c d message.1 message.2
  | _ => trivial

/-- A site as everybody may know it discloses the same. -/
lemma Site.Discloses.disclosed (hd : d.Discloses c) : (d.disclosed c).Discloses c where
  nodes := fun node hnode => hd.nodes node (KeyedTable.mem_deleteWhere.mp hnode).1
  tasks := fun task htask => hd.tasks task (KeyedTable.mem_deleteWhere.mp htask).1

end Responses

/-! ## Examples -/

/-- The table with one row has only this row. -/
lemma eq_of_mem_upsert_empty {K V : Type} [DecidableEq K] {key : V → K} {v r : V}
    (h : r ∈ (KeyedTable.empty : KeyedTable key).upsert v) : r = v := by
  rcases KeyedTable.mem_upsert.mp h with rfl | ⟨hmem, -⟩
  · rfl
  · exact absurd hmem (KeyedTable.notMem_empty r)

/-- The table of one task, which has a positive number. -/
def singleTask (task : ProbeTask) (h : 0 < task.id) : CarrierTaskTable where
  table := (KeyedTable.empty : KeyedTable ProbeTask.id).upsert task
  id_pos := fun t ht => by rw [eq_of_mem_upsert_empty ht]; exact h
  carrier_unique := fun t ht u hu _ _ => by
    rw [eq_of_mem_upsert_empty ht, eq_of_mem_upsert_empty hu]

/-- A result of the task with number 1, half an hour after the epoch. -/
def resultOf (nodeID : String) : ProbeResultRow where
  nodeID
  taskID := 1
  ts := 1800000
  collectedAt := 1800000
  success := true
  latencyMS := 12
  lossPercent := 0
  statusCode := 0
  value := ""
  error := ""

/-- A visible node and a hidden one, which both have a result of a task for all nodes. -/
def watchedSite : Site where
  nodes := ((KeyedTable.empty : NodeTable).upsert { id := "n1", role := .monitor }).upsert
    { id := "n2", role := .monitor, hidden := true }
  tasks := singleTask
    { id := 1, name := "web", type := .http, purpose := .custom, runOn := .monitor, enabled := true }
    Int.one_pos
  metrics :=
    { MetricStore.empty with
      probeResults := (KeyedTable.empty.upsert (resultOf "n1")).upsert (resultOf "n2") }

/-- The hidden node is kept back. -/
def watchedDisclosure : Disclosure := ⟨fun id => id ≠ "n2", fun _ => true⟩

/-- Requests for the nodes and for the results of all probes, an hour after the epoch. -/
def watchedRequests : List SiteRequest :=
  [⟨none, unixEpoch + hour, .komariNodes⟩,
   ⟨none, unixEpoch + hour, .komariPingHistory "" "" ""⟩]

/-- Two sites that differ only in what is kept back, and requests without a session that come while
the hubs publish samples that differ only for nodes that are kept back: where both sites are
discreet towards the requests the answers are the same, whatever becomes of the calls of the
store. -/
theorem responses_eq (P : Platform) {c : Disclosure} {d e : Site} (hd : d.Discloses c)
    (he : e.Discloses c) (hsame : d.disclosed c = e.disclosed c)
    {requests others : List SiteRequest}
    (hrequests : requests.map (·.disclosed c) = others.map (·.disclosed c))
    (hsession : ∀ request ∈ requests, request.WithoutSession P d)
    (hothers : ∀ request ∈ others, request.WithoutSession P e)
    (hdiscreet : ∀ request ∈ requests, d.Discreet P c request)
    (hdiscreet' : ∀ request ∈ others, e.Discreet P c request)
    (outcomes : ℕ → Option StoreError) :
    responses P d outcomes requests = responses P e outcomes others := by
  rw [responses_disclosed hd hsession hdiscreet, responses_disclosed he hothers hdiscreet', hsame,
    hrequests]

theorem responses_eq_watchedSite :
    (watchedSite.disclosed watchedDisclosure =
        (watchedSite.disclosed watchedDisclosure).disclosed watchedDisclosure ∧
      ∀ request ∈ watchedRequests, watchedSite.Discreet examplePlatform watchedDisclosure request) ∧
      responses examplePlatform watchedSite (fun _ => none) watchedRequests =
        responses examplePlatform (watchedSite.disclosed watchedDisclosure) (fun _ => none)
          watchedRequests := by
  have hd : watchedSite.Discloses watchedDisclosure := by
    refine ⟨?_, fun task _ hkept => ?_⟩
    · change ∀ node ∈ watchedSite.nodes.rows, _
      decide
    · cases hkept
  have hsame := (Site.disclosed_disclosed watchedDisclosure watchedSite).symm
  have hsession (d : Site) : ∀ request ∈ watchedRequests,
      request.WithoutSession examplePlatform d := by
    rintro request hrequest clock - ⟨value, session, hcookie, -⟩
    have hnone : ∀ request ∈ watchedRequests, request.cookie = none := by
      simp [watchedRequests]
    rw [hnone request hrequest] at hcookie
    cases hcookie
  have hdiscreet : ∀ request ∈ watchedRequests,
      watchedSite.Discreet examplePlatform watchedDisclosure request := by
    refine List.forall_mem_cons.mpr ⟨trivial, List.forall_mem_singleton.mpr fun _ _ => ?_⟩
    exact ⟨by decide +kernel, by decide +kernel⟩
  exact ⟨⟨hsame, hdiscreet⟩, responses_eq examplePlatform hd hd.disclosed hsame rfl (hsession _)
    (hsession _) hdiscreet (fun _ _ => Site.discreet_disclosed _ _ _ _) _⟩

/-- A latency task that is not public. -/
def privateTask : ProbeTask :=
  { id := 1, name := "backbone", type := .icmp, purpose := .latency, runOn := .probe,
    enabled := true }

/-- A node that measures latency with a task that is not public. -/
def measuringSite : Site where
  nodes := (KeyedTable.empty : NodeTable).upsert
    { id := "n1", role := .monitor, latencyEnabled := true }
  tasks := singleTask privateTask Int.one_pos
  metrics := { MetricStore.empty with probeResults := KeyedTable.empty.upsert (resultOf "n1") }

/-- The task is kept back. -/
def measuringDisclosure : Disclosure := ⟨fun _ => true, fun id => id ≠ 1⟩

/-- A request for the statistics of the probes, an hour after the epoch. -/
def statsRequest : SiteRequest :=
  ⟨none, unixEpoch + hour, .rpc2 (.single (unixEpoch + hour)
    { method := "public:getPingMetricStats" })⟩

/-- The names of the tasks in statistics. -/
def statNames : List SiteResponse → List String
  | [.ofRPC [.result _ (.pingStats answer)]] => answer.stats.filterMap fun stat =>
    stat.task.map (·.name)
  | _ => []

/-- The statistics of probes tell a visitor of a latency task that is not public. -/
theorem responses_tell_latencyTask :
    (measuringSite.Discloses measuringDisclosure ∧
      (measuringSite.disclosed measuringDisclosure).Discloses measuringDisclosure ∧
      measuringSite.disclosed measuringDisclosure =
        (measuringSite.disclosed measuringDisclosure).disclosed measuringDisclosure ∧
      statsRequest.WithoutSession examplePlatform measuringSite) ∧
      responses examplePlatform measuringSite (fun _ => none) [statsRequest] ≠
        responses examplePlatform (measuringSite.disclosed measuringDisclosure) (fun _ => none)
          [statsRequest] := by
  have hd : measuringSite.Discloses measuringDisclosure := by
    refine ⟨fun node hnode => ?_, fun task htask _ => ?_⟩
    · rw [eq_of_mem_upsert_empty hnode]
      rfl
    · rw [eq_of_mem_upsert_empty htask]
      exact .inr ⟨rfl, .inl rfl⟩
  refine ⟨⟨hd, hd.disclosed, (Site.disclosed_disclosed _ _).symm, ?_⟩, fun heq => ?_⟩
  · rintro clock - ⟨value, session, hcookie, -⟩
    cases hcookie
  · have hnames := congrArg statNames heq
    revert hnames
    decide +kernel

end Hostpin
