import Hostpin.Agent.Runtime
import Hostpin.Agent.Stream
import Hostpin.Store.Metrics

/-!
# From the agent to the table of probe results

A finished probe waits at the agent until the server has acknowledged its result.  The agent sends
one result in a frame or all waiting results in a report; requests and acks may get lost, and an
agent that gives up waiting sends its results again.  The server stamps the results of a request
with the time of the request and queues them, and the persister stores them one after the other.

* `Delivery.StoredOnce` says that every accepted result has one row of its own.
* `Delivery.Sound` is the invariant of the exchange: what is not acknowledged has not been accepted.
* `Delivery.Stored` is the invariant of the table: nothing that was queued is overwritten.
* `Delivery.stored_once` is the result, for runs in which the agent repeats nothing that was
  accepted and no two results of a task are accepted in one millisecond.
-/

namespace Hostpin

open Clock

/-! ## State -/

/-- A result is known by its task and the time of its collection. -/
def ProbeResult.ident (r : ProbeResult) : ℤ × Time := (r.taskID, r.collectedAt)

/-- What an agent sends to have results stored. -/
inductive Request where
  | frame (result : ProbeResult)
  | report (report : AgentReport)

/-- The results of a request. -/
def Request.results : Request → List ProbeResult
  | .frame result => [result]
  | .report body => body.probeResults

/-- An agent, the requests and acks under way, the queue of the persister and the store.  The agent
waits for the request with a number and takes a number of results as acknowledged by it.  All
results that were put out by probes and all that were accepted are remembered. -/
structure Delivery where
  agent : AgentRuntime := {}
  awaiting : Option (ℕ × ℕ) := none
  sent : ℕ := 0
  requests : List (ℕ × Request) := []
  acks : List ℕ := []
  queue : List ProbeResult := []
  store : MetricStore := .empty
  completed : List ProbeResult := []
  accepted : List ProbeResult := []

/-- The side of the server that handles a request: the session of a stream, or the handler of
reports. -/
inductive Service where
  | stream (session : StreamSession) (offlineAfter : Duration) (calls : StreamCalls)
  | http (node : Node) (cfg : AgentConfig) (calls : ReportCalls)

/-- What can happen on the way of a result. -/
inductive DeliveryEvent where
  | complete (result : ProbeResult)
  | collect
  | sendFrame
  | sendReport (sample : Option MetricSample)
  | serve (number : ℕ) (service : Service) (recordEnabled : ℤ × Time → Bool)
  | loseRequest (number : ℕ)
  | loseAck (number : ℕ)
  | readAck
  | giveUp
  | persist (clock : Time)

/-! ## Steps -/

/-- The time at which a request is handled. -/
def Service.now : Service → Time
  | .stream _ _ calls => calls.now
  | .http _ _ calls => calls.now

/-- The server has the task in the list that it checks a request against. -/
def Service.allowed (taskID : ℤ) : Service → Bool
  | .stream session _ calls => probeTaskAllowed (session.refresh calls).1.tasks taskID
  | .http _ _ calls => probeTaskAllowed (calls.tasks.getD []) taskID

/-- Handle a request: the accepted results and whether the request is acknowledged.  A frame goes to
a stream and a report to the handler of reports. -/
def Service.handle : Service → Request → Option (List ProbeResult × Bool)
  | .stream session offlineAfter calls, .frame result =>
    let outcome := (session.handleFrame offlineAfter calls
      (some { type := .probeResult, probeResult := some result })).2
    some (outcome.accepted.toList, outcome.ack.isSome)
  | .http node cfg calls, .report report =>
    match handleAgentReport node cfg report calls with
    | .error _ => some ([], false)
    | .ok (_, accepted) => some (accepted, true)
  | _, _ => none

/-- Put a request of the agent under way and wait for its ack. -/
def Delivery.send (d : Delivery) (request : Request) : Delivery :=
  { d with
    awaiting := some (d.sent, request.results.length)
    requests := d.requests ++ [(d.sent, request)]
    sent := d.sent + 1 }

/-- The server has handled a request: the recorded results are queued. -/
def Delivery.accept (d : Delivery) (number : ℕ) (recorded : List ProbeResult) (acked : Bool) :
    Delivery :=
  { d with
    requests := d.requests.filter (·.1 ≠ number)
    acks := if acked then d.acks ++ [number] else d.acks
    queue := d.queue ++ recorded
    accepted := d.accepted ++ recorded }

/-- What happens to a delivery. -/
def Delivery.step (d : Delivery) : DeliveryEvent → Delivery
  | .complete result =>
    { d with completed := d.completed ++ [result], agent := d.agent.finish result }
  | .collect =>
    if d.awaiting.isSome then d else { d with agent := d.agent.collectProbeResults 128 }
  | .sendFrame =>
    match d.awaiting, d.agent.pending with
    | none, result :: _ => d.send (.frame result)
    | _, _ => d
  | .sendReport sample =>
    if d.awaiting.isSome then d
    else
      let d := { d with agent := d.agent.collectProbeResults 128 }
      d.send (.report { identity := d.agent.identity, sample, probeResults := d.agent.pending })
  | .serve number service recordEnabled =>
    match d.requests.lookup number with
    | none => d
    | some request =>
      match service.handle request with
      | none => d
      | some (accepted, acked) =>
        d.accept number (accepted.filter fun r => recordEnabled r.ident) acked
  | .loseRequest number => { d with requests := d.requests.filter (·.1 ≠ number) }
  | .loseAck number => { d with acks := d.acks.filter (· ≠ number) }
  | .readAck =>
    match d.awaiting with
    | none => d
    | some (number, count) =>
      if number ∈ d.acks then
        { d with
          awaiting := none
          acks := d.acks.filter (· ≠ number)
          agent := { d.agent with pending := d.agent.pending.drop count } }
      else d
  | .giveUp => { d with awaiting := none }
  | .persist clock =>
    match d.queue with
    | [] => d
    | result :: queue => { d with queue, store := d.store.saveProbeResult result clock }

/-- The delivery after a list of events. -/
def Delivery.run (d : Delivery) (events : List DeliveryEvent) : Delivery :=
  events.foldl Delivery.step d

/-- The results that probes put out during a list of events. -/
def completions (events : List DeliveryEvent) : List ProbeResult :=
  events.filterMap fun event =>
    match event with
    | .complete result => some result
    | _ => none

/-! ## Conditions -/

/-- Every accepted result has one row of its own: the rows of the table are the rows of some
accepted results, among them each result once. -/
def Delivery.StoredOnce (d : Delivery) : Prop :=
  ∃ chosen : List ProbeResult, (∀ r ∈ chosen, r ∈ d.accepted) ∧
    (chosen.map ProbeResult.ident).Nodup ∧
    (∀ r ∈ d.accepted, r.ident ∈ chosen.map ProbeResult.ident) ∧
    d.store.probeResults.rows.Perm (chosen.map (ProbeResult.row · 0))

/-- The results of a request that will be stored: their task is allowed and recording is enabled. -/
def Service.recorded (service : Service) (recordEnabled : ℤ × Time → Bool) (request : Request) :
    List ProbeResult :=
  request.results.filter fun r => service.allowed r.taskID && recordEnabled r.ident

/-- A step repeats nothing and merges nothing.  A request has at most one result of each task to be
stored, and none of these tasks has had a result in the same millisecond; the agent gives up waiting
only for a request that is not under way and of whose results none has been accepted. -/
def Delivery.Allows (d : Delivery) : DeliveryEvent → Prop
  | .serve number service recordEnabled =>
    ∀ request, d.requests.lookup number = some request →
      service.now ≠ 0 ∧
      ((service.recorded recordEnabled request).map ProbeResult.taskID).Nodup ∧
      ∀ r ∈ service.recorded recordEnabled request, ∀ a ∈ d.accepted,
        a.taskID = r.taskID → unixMilli a.receivedAt ≠ unixMilli service.now
  | .giveUp =>
    ∀ number count, d.awaiting = some (number, count) →
      d.requests.lookup number = none ∧
      ∀ r ∈ d.agent.pending.take count, r.ident ∉ d.accepted.map ProbeResult.ident
  | _ => True

/-- Every step of a list of events repeats nothing and merges nothing. -/
def Delivery.AllowsAll (d : Delivery) : List DeliveryEvent → Prop
  | [] => True
  | event :: events => d.Allows event ∧ (d.step event).AllowsAll events

/-! ## The exchange -/

section Services

variable {service : Service} {request : Request} {accepted : List ProbeResult} {acked : Bool}

/-- The server accepts results of the request whose task is allowed, and stamps them with the time
of the request. -/
lemma Service.sublist_of_handle (h : service.handle request = some (accepted, acked)) :
    ∃ node, accepted.Sublist ((request.results.filter fun r => service.allowed r.taskID).map
      (stampProbe node service.now)) := by
  cases service with
  | stream session offlineAfter calls =>
    cases request with
    | report body => cases h
    | frame result =>
      cases h
      refine ⟨(session.refresh calls).1.node, ?_⟩
      rw [StreamSession.accepted_handleFrame]
      simp only [Request.results, Service.allowed, Service.now]
      split_ifs with hallowed
      · simp [hallowed]
      · simp
  | http node cfg calls =>
    cases request with
    | frame result => cases h
    | report body =>
      refine ⟨node, ?_⟩
      simp only [Service.handle, handleAgentReport] at h
      split_ifs at h
      · cases h
        exact List.nil_sublist _
      · cases h
        exact List.Sublist.refl _

/-- The results that are recorded are stamped results of the request that will be stored. -/
lemma Service.sublist_recorded (h : service.handle request = some (accepted, acked))
    (recordEnabled : ℤ × Time → Bool) :
    ∃ node, (accepted.filter fun r => recordEnabled r.ident).Sublist
      ((service.recorded recordEnabled request).map (stampProbe node service.now)) := by
  obtain ⟨node, hsub⟩ := Service.sublist_of_handle h
  refine ⟨node, (hsub.filter _).trans ?_⟩
  rw [List.filter_map, List.filter_filter]
  have hsame : (request.results.filter fun r =>
      ((fun r => recordEnabled r.ident) ∘ stampProbe node service.now) r &&
        service.allowed r.taskID) = service.recorded recordEnabled request :=
    List.filter_congr fun r _ => Bool.and_comm _ _
  rw [hsame]

end Services

/-- The exchange is sound.  The results at the agent are results of probes in the order in which
they were put out.  No result is accepted twice, and what has been accepted is either acknowledged
or belongs to the request that the agent waits for; while this request is under way, nothing of it
has been accepted. -/
structure Delivery.Sound (d : Delivery) : Prop where
  nodup : (d.completed.map ProbeResult.ident).Nodup
  queued : (d.agent.pending ++ d.agent.results).Sublist d.completed
  accepted_sub : ∀ r ∈ d.accepted, r.ident ∈ d.completed.map ProbeResult.ident
  accepted_nodup : (d.accepted.map ProbeResult.ident).Nodup
  acks_lt : ∀ n ∈ d.acks, n < d.sent
  idle : d.awaiting = none → d.requests = [] ∧
    ∀ r ∈ d.agent.pending ++ d.agent.results, r.ident ∉ d.accepted.map ProbeResult.ident
  busy : ∀ number count, d.awaiting = some (number, count) → number < d.sent ∧
    (∀ r ∈ d.agent.pending.drop count ++ d.agent.results,
      r.ident ∉ d.accepted.map ProbeResult.ident) ∧
    (d.requests = [] ∨ number ∉ d.acks ∧ ∃ request, d.requests = [(number, request)] ∧
      request.results = d.agent.pending.take count ∧
      ∀ r ∈ d.agent.pending.take count, r.ident ∉ d.accepted.map ProbeResult.ident)

namespace Delivery.Sound

variable {d : Delivery}

/-- A new result of a probe keeps the exchange sound. -/
lemma complete (h : d.Sound) {result : ProbeResult}
    (hfresh : result.ident ∉ d.completed.map ProbeResult.ident) :
    (d.step (.complete result)).Sound := by
  have hnodup : ((d.completed ++ [result]).map ProbeResult.ident).Nodup := by
    rw [List.map_append, List.nodup_append]
    refine ⟨h.nodup, List.nodup_singleton _, ?_⟩
    rintro k hk k' hk' rfl
    rw [List.map_singleton, List.mem_singleton] at hk'
    exact hfresh (hk' ▸ hk)
  have hsub : ∀ r ∈ d.accepted, r.ident ∈ (d.completed ++ [result]).map ProbeResult.ident := by
    intro r hr
    rw [List.map_append]
    exact List.mem_append_left _ (h.accepted_sub r hr)
  have hnew : ∀ (l : List ProbeResult),
      (∀ r ∈ l ++ d.agent.results, r.ident ∉ d.accepted.map ProbeResult.ident) →
      ∀ r ∈ l ++ (d.agent.results ++ [result]), r.ident ∉ d.accepted.map ProbeResult.ident := by
    intro l hl r hr
    rw [← List.append_assoc] at hr
    rcases List.mem_append.mp hr with hr | hr
    · exact hl r hr
    · rw [List.mem_singleton.mp hr]
      intro hmem
      obtain ⟨a, ha, hident⟩ := List.mem_map.mp hmem
      exact hfresh (hident ▸ h.accepted_sub a ha)
  unfold Delivery.step AgentRuntime.finish
  simp only
  split_ifs
  · refine ⟨hnodup, ?_, hsub, h.accepted_nodup, h.acks_lt, fun hidle => ?_,
      fun number count hbusy => ?_⟩
    · rw [← List.append_assoc]
      exact h.queued.append (List.Sublist.refl _)
    · exact ⟨(h.idle hidle).1, hnew _ (h.idle hidle).2⟩
    · obtain ⟨hlt, hrest, hcase⟩ := h.busy number count hbusy
      exact ⟨hlt, hnew _ hrest, hcase⟩
  · exact ⟨hnodup, h.queued.trans (List.sublist_append_left _ _), hsub, h.accepted_nodup, h.acks_lt,
      h.idle, h.busy⟩

/-- The results of a request and the results behind them. -/
lemma split_waiting (r : AgentRuntime) (count : ℕ) :
    r.pending ++ r.results = r.pending.take count ++ (r.pending.drop count ++ r.results) := by
  rw [← List.append_assoc, List.take_append_drop]

/-- Collecting results moves them to the waiting ones. -/
lemma pending_append_results (r : AgentRuntime) (limit : ℕ) :
    (r.collectProbeResults limit).pending ++ (r.collectProbeResults limit).results =
      r.pending ++ r.results := by
  simp [AgentRuntime.collectProbeResults]

/-- Collecting results keeps the exchange sound. -/
lemma collect (h : d.Sound) (hidle : d.awaiting = none) :
    ({ d with agent := d.agent.collectProbeResults 128 } : Delivery).Sound := by
  obtain ⟨hrequests, hnew⟩ := h.idle hidle
  have hqueued := h.queued
  rw [← pending_append_results d.agent 128] at hqueued hnew
  refine ⟨h.nodup, hqueued, h.accepted_sub, h.accepted_nodup, h.acks_lt,
    fun _ => ⟨hrequests, hnew⟩, ?_⟩
  intro number count hbusy
  exact absurd hbusy (by simp [hidle])

/-- Sending the first results keeps the exchange sound. -/
lemma send (h : d.Sound) (hidle : d.awaiting = none) {request : Request}
    (hresults : request.results = d.agent.pending.take request.results.length) :
    (d.send request).Sound := by
  obtain ⟨hrequests, hnew⟩ := h.idle hidle
  refine ⟨h.nodup, h.queued, h.accepted_sub, h.accepted_nodup, ?_, nofun, ?_⟩
  · intro n hn
    exact Nat.lt_succ_of_lt (h.acks_lt n hn)
  · intro number count hbusy
    obtain ⟨rfl, rfl⟩ := Prod.mk.inj (Option.some.inj hbusy)
    refine ⟨Nat.lt_succ_self _, fun r hr => ?_,
      Or.inr ⟨fun hack => ?_, request, ?_, hresults, fun r hr => ?_⟩⟩
    · refine hnew r ?_
      rcases List.mem_append.mp hr with hr | hr
      · exact List.mem_append_left _ (List.mem_of_mem_drop hr)
      · exact List.mem_append_right _ hr
    · exact lt_irrefl _ (h.acks_lt _ hack)
    · simp [Delivery.send, hrequests]
    · exact hnew r (List.mem_append_left _ (List.mem_of_mem_take hr))

/-- Losing a request keeps the exchange sound. -/
lemma loseRequest (h : d.Sound) (number : ℕ) : (d.step (.loseRequest number)).Sound := by
  refine ⟨h.nodup, h.queued, h.accepted_sub, h.accepted_nodup, h.acks_lt, ?_, ?_⟩
  · intro hidle
    obtain ⟨hrequests, hnew⟩ := h.idle hidle
    exact ⟨by simp [Delivery.step, hrequests], hnew⟩
  · intro n count hbusy
    obtain ⟨hlt, hnew, hrequests | ⟨hack, request, hrequests, hrest⟩⟩ := h.busy n count hbusy
    · exact ⟨hlt, hnew, Or.inl (by simp [Delivery.step, hrequests])⟩
    · refine ⟨hlt, hnew, ?_⟩
      by_cases hsame : n = number
      · exact Or.inl (by simp [Delivery.step, hrequests, hsame])
      · exact Or.inr ⟨hack, request, by simp [Delivery.step, hrequests, hsame], hrest⟩

/-- Losing an ack keeps the exchange sound. -/
lemma loseAck (h : d.Sound) (number : ℕ) : (d.step (.loseAck number)).Sound := by
  refine ⟨h.nodup, h.queued, h.accepted_sub, h.accepted_nodup, ?_, h.idle, ?_⟩
  · intro n hn
    exact h.acks_lt n (List.mem_of_mem_filter hn)
  · intro n count hbusy
    obtain ⟨hlt, hnew, hrequests | ⟨hack, hrest⟩⟩ := h.busy n count hbusy
    · exact ⟨hlt, hnew, Or.inl hrequests⟩
    · exact ⟨hlt, hnew, Or.inr ⟨fun hn => hack (List.mem_of_mem_filter hn), hrest⟩⟩

/-- Reading an ack keeps the exchange sound: the request has been handled, and what it may have had
accepted is not waiting any more. -/
lemma readAck (h : d.Sound) : (d.step .readAck).Sound := by
  cases hbusy : d.awaiting with
  | none => simpa [Delivery.step, hbusy] using h
  | some waiting =>
    obtain ⟨number, count⟩ := waiting
    by_cases hack : number ∈ d.acks
    · have hstep : d.step .readAck = { d with
          awaiting := none
          acks := d.acks.filter (· ≠ number)
          agent := { d.agent with pending := d.agent.pending.drop count } } := by
        simp [Delivery.step, hbusy, hack]
      obtain ⟨-, hnew, hrequests | ⟨hnot, -⟩⟩ := h.busy number count hbusy
      · rw [hstep]
        refine ⟨h.nodup, ?_, h.accepted_sub, h.accepted_nodup, ?_,
          fun _ => ⟨hrequests, hnew⟩, nofun⟩
        · exact ((List.drop_sublist count _).append (List.Sublist.refl _)).trans h.queued
        · intro n hn
          exact h.acks_lt n (List.mem_of_mem_filter hn)
      · exact absurd hack hnot
    · simpa [Delivery.step, hbusy, hack] using h

/-- Giving up keeps the exchange sound when the request was lost before anything of it was
accepted. -/
lemma giveUp (h : d.Sound) (hallows : d.Allows .giveUp) : (d.step .giveUp).Sound := by
  cases hbusy : d.awaiting with
  | none =>
    exact ⟨h.nodup, h.queued, h.accepted_sub, h.accepted_nodup, h.acks_lt,
      fun _ => h.idle hbusy, nofun⟩
  | some waiting =>
    obtain ⟨number, count⟩ := waiting
    obtain ⟨hlost, hclean⟩ := hallows number count hbusy
    obtain ⟨-, hnew, hcase⟩ := h.busy number count hbusy
    refine ⟨h.nodup, h.queued, h.accepted_sub, h.accepted_nodup, h.acks_lt,
      fun _ => ⟨?_, ?_⟩, nofun⟩
    · rcases hcase with hrequests | ⟨-, request, hrequests, -⟩
      · exact hrequests
      · rw [hrequests] at hlost
        simp at hlost
    · intro r hr
      have hr' : r ∈ d.agent.pending ++ d.agent.results := hr
      rw [split_waiting d.agent count] at hr'
      rcases List.mem_append.mp hr' with hr' | hr'
      · exact hclean r hr'
      · exact hnew r hr'

/-- Accepting some of the results that the agent waits for keeps the exchange sound. -/
lemma accept (h : d.Sound) {number count : ℕ} (hbusy : d.awaiting = some (number, count))
    (hrequests : ∀ q ∈ d.requests, q.1 = number)
    (hclean : ∀ r ∈ d.agent.pending.take count, r.ident ∉ d.accepted.map ProbeResult.ident)
    {recorded : List ProbeResult} (acked : Bool)
    (hids : (recorded.map ProbeResult.ident).Sublist
      ((d.agent.pending.take count).map ProbeResult.ident)) :
    (d.accept number recorded acked).Sound := by
  obtain ⟨hlt, hnew, -⟩ := h.busy number count hbusy
  have hqueued : ((d.agent.pending ++ d.agent.results).map ProbeResult.ident).Sublist
      (d.completed.map ProbeResult.ident) := h.queued.map _
  rw [split_waiting d.agent count, List.map_append] at hqueued
  obtain ⟨hnodup, -, hdisjoint⟩ := List.nodup_append.mp (hqueued.nodup h.nodup)
  refine ⟨h.nodup, h.queued, ?_, ?_, ?_, fun hidle => ?_, fun n c hwait => ?_⟩
  · intro r hr
    rcases List.mem_append.mp hr with hr | hr
    · exact h.accepted_sub r hr
    · have hmem := hids.subset (List.mem_map_of_mem hr)
      exact hqueued.subset (List.mem_append_left _ hmem)
  · have hmap : (d.accept number recorded acked).accepted.map ProbeResult.ident =
        d.accepted.map ProbeResult.ident ++ recorded.map ProbeResult.ident := List.map_append
    rw [hmap, List.nodup_append]
    refine ⟨h.accepted_nodup, hids.nodup hnodup, ?_⟩
    rintro k hk k' hk' rfl
    obtain ⟨r, hr, hident⟩ := List.mem_map.mp (hids.subset hk')
    exact hclean r hr (hident ▸ hk)
  · intro n hn
    unfold Delivery.accept at hn
    simp only at hn
    split_ifs at hn
    · rcases List.mem_append.mp hn with hn | hn
      · exact h.acks_lt n hn
      · rw [List.mem_singleton.mp hn]
        exact hlt
    · exact h.acks_lt n hn
  · have hwaiting : d.awaiting = none := hidle
    rw [hbusy] at hwaiting
    cases hwaiting
  · have hsame : d.awaiting = some (n, c) := hwait
    rw [hbusy] at hsame
    cases hsame
    refine ⟨hlt, fun r hr hmem => ?_, Or.inl ?_⟩
    · obtain ⟨a, ha, hident⟩ := List.mem_map.mp hmem
      rcases List.mem_append.mp ha with ha | ha
      · exact hnew r hr (List.mem_map.mpr ⟨a, ha, hident⟩)
      · have hfirst := hids.subset (List.mem_map_of_mem ha)
        rw [hident] at hfirst
        exact hdisjoint _ hfirst _ (List.mem_map_of_mem hr) rfl
    · exact List.filter_eq_nil_iff.mpr fun q hq => by simp [hrequests q hq]

/-- Handling a request keeps the exchange sound: the accepted results are results of the request
that the agent waits for, and none of them has been accepted before. -/
lemma serve (h : d.Sound) (number : ℕ) (service : Service) (recordEnabled : ℤ × Time → Bool) :
    (d.step (.serve number service recordEnabled)).Sound := by
  cases hlookup : d.requests.lookup number with
  | none => simpa [Delivery.step, hlookup] using h
  | some request =>
    cases hhandle : service.handle request with
    | none => simpa [Delivery.step, hlookup, hhandle] using h
    | some answer =>
      obtain ⟨accepted, acked⟩ := answer
      have hstep : d.step (.serve number service recordEnabled) =
          d.accept number (accepted.filter fun r => recordEnabled r.ident) acked := by
        simp [Delivery.step, hlookup, hhandle]
      rw [hstep]
      cases hbusy : d.awaiting with
      | none =>
        rw [(h.idle hbusy).1] at hlookup
        cases hlookup
      | some waiting =>
        obtain ⟨n, count⟩ := waiting
        obtain ⟨-, -, hrequests | ⟨-, req, hrequests, hresults, hclean⟩⟩ := h.busy n count hbusy
        · rw [hrequests] at hlookup
          cases hlookup
        · have hfound : number = n ∧ req = request := by
            rw [hrequests, List.lookup_cons] at hlookup
            by_cases hn : number = n
            · simpa [hn] using hlookup
            · simp [beq_false_of_ne hn] at hlookup
          obtain ⟨rfl, rfl⟩ := hfound
          obtain ⟨node, hsub⟩ := Service.sublist_recorded hhandle recordEnabled
          have hids := hsub.map ProbeResult.ident
          rw [List.map_map] at hids
          have hstamp : ProbeResult.ident ∘ stampProbe node service.now = ProbeResult.ident := rfl
          rw [hstamp] at hids
          refine h.accept hbusy (by simp [hrequests]) hclean acked ?_
          rw [← hresults]
          exact hids.trans (List.filter_sublist.map _)

/-- A step that repeats nothing keeps the exchange sound. -/
lemma step (h : d.Sound) (event : DeliveryEvent) (hallows : d.Allows event)
    (hfresh : ∀ result, event = .complete result →
      result.ident ∉ d.completed.map ProbeResult.ident) : (d.step event).Sound := by
  cases event with
  | complete result => exact h.complete (hfresh result rfl)
  | collect =>
    cases hbusy : d.awaiting with
    | none => simpa [Delivery.step, hbusy] using h.collect hbusy
    | some waiting => simpa [Delivery.step, hbusy] using h
  | sendFrame =>
    cases hbusy : d.awaiting with
    | some waiting => simpa [Delivery.step, hbusy] using h
    | none =>
      cases hpending : d.agent.pending with
      | nil => simpa [Delivery.step, hbusy, hpending] using h
      | cons result rest =>
        have hsend : (d.send (.frame result)).Sound :=
          h.send hbusy (by simp [Request.results, hpending])
        simpa [Delivery.step, hbusy, hpending] using hsend
  | sendReport sample =>
    cases hbusy : d.awaiting with
    | some waiting => simpa [Delivery.step, hbusy] using h
    | none =>
      have hcollected := h.collect hbusy
      have hsend : (({ d with agent := d.agent.collectProbeResults 128 } : Delivery).send (.report
          { identity := (d.agent.collectProbeResults 128).identity, sample
            probeResults := (d.agent.collectProbeResults 128).pending })).Sound :=
        hcollected.send hbusy (by simp [Request.results])
      simpa [Delivery.step, hbusy] using hsend
  | serve number service recordEnabled => exact h.serve number service recordEnabled
  | loseRequest number => exact h.loseRequest number
  | loseAck number => exact h.loseAck number
  | readAck => exact h.readAck
  | giveUp => exact h.giveUp hallows
  | persist clock =>
    cases hqueue : d.queue with
    | nil => simpa [Delivery.step, hqueue] using h
    | cons result queue =>
      simp only [Delivery.step, hqueue]
      exact ⟨h.nodup, h.queued, h.accepted_sub, h.accepted_nodup, h.acks_lt, h.idle, h.busy⟩

end Delivery.Sound

/-! ## The table -/

/-- Nothing is overwritten in the table: the accepted results have distinct keys, and their rows are
stored or still queued. -/
structure Delivery.Stored (d : Delivery) : Prop where
  clock : ∀ r ∈ d.accepted, r.receivedAt ≠ 0
  queue_sub : ∀ r ∈ d.queue, r ∈ d.accepted
  keys : (d.accepted.map fun r => (r.row 0).key).Nodup
  rows : (d.store.probeResults.rows ++ d.queue.map (ProbeResult.row · 0)).Perm
    (d.accepted.map (ProbeResult.row · 0))

/-- The row of a result with a time of receipt does not depend on the clock. -/
lemma ProbeResult.row_eq {r : ProbeResult} (h : r.receivedAt ≠ 0) (clock : Time) :
    r.row clock = r.row 0 := by
  simp [ProbeResult.row, isZero, h]

/-- The key of a result with a time of receipt. -/
lemma ProbeResult.key_row {r : ProbeResult} (h : r.receivedAt ≠ 0) :
    (r.row 0).key = ⟨r.nodeID, r.taskID, unixMilli r.receivedAt⟩ := by
  simp [ProbeResult.row, ProbeResultRow.key, isZero, h]

namespace Delivery.Stored

variable {d : Delivery}

/-- Storing the first result of the queue overwrites nothing. -/
lemma persist (h : d.Stored) (clock : Time) : (d.step (.persist clock)).Stored := by
  cases hqueue : d.queue with
  | nil => simpa [Delivery.step, hqueue] using h
  | cons result queue =>
    have hstep : d.step (.persist clock) =
        { d with queue, store := d.store.saveProbeResult result clock } := by
      simp only [Delivery.step, hqueue]
    have hrows := h.rows
    rw [hqueue, List.map_cons] at hrows
    have hreceived : result.receivedAt ≠ 0 :=
      h.clock result (h.queue_sub result (by simp [hqueue]))
    have hkeys : ((d.store.probeResults.rows ++ result.row 0 :: queue.map (ProbeResult.row · 0)).map
        ProbeResultRow.key).Nodup := by
      rw [(hrows.map _).nodup_iff, List.map_map]
      exact h.keys
    have hnew : (result.row 0).key ∉ d.store.probeResults.rows.map ProbeResultRow.key := by
      rw [List.map_append, List.nodup_append] at hkeys
      exact fun hmem => hkeys.2.2 _ hmem _ List.mem_cons_self rfl
    have hstored : (d.store.saveProbeResult result clock).probeResults.rows =
        d.store.probeResults.rows ++ [result.row 0] := by
      rw [MetricStore.saveProbeResult, ProbeResult.row_eq hreceived]
      exact KeyedTable.rows_upsert_of_notMem hnew
    rw [hstep]
    refine ⟨h.clock, fun r hr => h.queue_sub r (by simp [hqueue, hr]), h.keys, ?_⟩
    rw [hstored, List.append_assoc]
    exact hrows

/-- Queueing results with new keys overwrites nothing. -/
lemma accept (h : d.Stored) (number : ℕ) {recorded : List ProbeResult} (acked : Bool)
    (hclock : ∀ r ∈ recorded, r.receivedAt ≠ 0)
    (hnodup : (recorded.map fun r => (r.row 0).key).Nodup)
    (hnew : ∀ r ∈ recorded, ∀ a ∈ d.accepted, (a.row 0).key ≠ (r.row 0).key) :
    (d.accept number recorded acked).Stored := by
  have haccepted : (d.accept number recorded acked).accepted = d.accepted ++ recorded := rfl
  have hqueue : (d.accept number recorded acked).queue = d.queue ++ recorded := rfl
  refine ⟨fun r hr => ?_, fun r hr => ?_, ?_, ?_⟩
  · rcases List.mem_append.mp hr with hr | hr
    · exact h.clock r hr
    · exact hclock r hr
  · rcases List.mem_append.mp hr with hr | hr
    · exact List.mem_append_left _ (h.queue_sub r hr)
    · exact List.mem_append_right _ hr
  · rw [haccepted, List.map_append, List.nodup_append]
    refine ⟨h.keys, hnodup, ?_⟩
    intro k hk k' hk' heq
    obtain ⟨a, ha, rfl⟩ := List.mem_map.mp hk
    obtain ⟨r, hr, rfl⟩ := List.mem_map.mp hk'
    exact hnew r hr a ha heq
  · rw [haccepted, hqueue, List.map_append, List.map_append, ← List.append_assoc]
    exact h.rows.append_right _

/-- Handling a request overwrites nothing when its tasks have had no result in the same
millisecond. -/
lemma serve (h : d.Stored) (number : ℕ) (service : Service) (recordEnabled : ℤ × Time → Bool)
    (hallows : d.Allows (.serve number service recordEnabled)) :
    (d.step (.serve number service recordEnabled)).Stored := by
  cases hlookup : d.requests.lookup number with
  | none => simpa [Delivery.step, hlookup] using h
  | some request =>
    cases hhandle : service.handle request with
    | none => simpa [Delivery.step, hlookup, hhandle] using h
    | some answer =>
      obtain ⟨accepted, acked⟩ := answer
      obtain ⟨hnow, htasks, hother⟩ := hallows request hlookup
      obtain ⟨node, hsub⟩ := Service.sublist_recorded hhandle recordEnabled
      set recorded := accepted.filter fun r => recordEnabled r.ident with hrecorded
      have hstep : d.step (.serve number service recordEnabled) =
          d.accept number recorded acked := by
        simp [Delivery.step, hlookup, hhandle, hrecorded]
      -- every recorded result is a stamped result of the request
      have hstamped : ∀ r ∈ recorded, r.receivedAt = service.now ∧
          ∃ sent ∈ service.recorded recordEnabled request, sent.taskID = r.taskID := by
        intro r hr
        obtain ⟨sent, hsent, rfl⟩ := List.mem_map.mp (hsub.subset hr)
        exact ⟨rfl, sent, hsent, rfl⟩
      have hclock : ∀ r ∈ recorded, r.receivedAt ≠ 0 := fun r hr => (hstamped r hr).1 ▸ hnow
      rw [hstep]
      refine h.accept number acked hclock ?_ ?_
      · have hids := (hsub.map ProbeResult.taskID).nodup (by rw [List.map_map]; exact htasks)
        refine List.Nodup.of_map ProbeRowKey.taskID ?_
        rw [List.map_map]
        exact hids
      · intro r hr a ha heq
        obtain ⟨hreceived, sent, hsent, htask⟩ := hstamped r hr
        rw [ProbeResult.key_row (h.clock a ha), ProbeResult.key_row (hclock r hr), hreceived] at heq
        obtain ⟨-, htaskID, hts⟩ := ProbeRowKey.mk.inj heq
        exact hother sent hsent a ha (htaskID.trans htask.symm) hts

/-- A step that merges nothing overwrites nothing. -/
lemma step (h : d.Stored) (event : DeliveryEvent) (hallows : d.Allows event) :
    (d.step event).Stored := by
  cases event with
  | serve number service recordEnabled => exact h.serve number service recordEnabled hallows
  | persist clock => exact h.persist clock
  | complete result => exact ⟨h.clock, h.queue_sub, h.keys, h.rows⟩
  | collect =>
    simp only [Delivery.step]
    split_ifs <;> exact ⟨h.clock, h.queue_sub, h.keys, h.rows⟩
  | sendFrame =>
    simp only [Delivery.step]
    split <;> exact ⟨h.clock, h.queue_sub, h.keys, h.rows⟩
  | sendReport sample =>
    simp only [Delivery.step]
    split_ifs <;> exact ⟨h.clock, h.queue_sub, h.keys, h.rows⟩
  | readAck =>
    simp only [Delivery.step]
    split
    · exact h
    · split_ifs <;> exact ⟨h.clock, h.queue_sub, h.keys, h.rows⟩
  | loseRequest number => exact ⟨h.clock, h.queue_sub, h.keys, h.rows⟩
  | loseAck number => exact ⟨h.clock, h.queue_sub, h.keys, h.rows⟩
  | giveUp => exact ⟨h.clock, h.queue_sub, h.keys, h.rows⟩

end Delivery.Stored

/-! ## Runs -/

/-- An agent without results. -/
def Delivery.start (agent : AgentRuntime) : Delivery :=
  { agent := { agent with results := [], pending := [] } }

/-- The results that probes have put out after an event. -/
lemma Delivery.completed_step (d : Delivery) (event : DeliveryEvent) :
    (d.step event).completed = d.completed ++ completions [event] := by
  cases event with
  | complete result => rfl
  | collect =>
    simp only [Delivery.step, completions]
    split_ifs <;> simp
  | sendFrame =>
    simp only [Delivery.step, completions]
    split <;> simp [Delivery.send]
  | sendReport sample =>
    simp only [Delivery.step, completions]
    split_ifs <;> simp [Delivery.send]
  | serve number service recordEnabled =>
    simp only [Delivery.step, completions]
    split
    · simp
    · split <;> simp [Delivery.accept]
  | readAck =>
    simp only [Delivery.step, completions]
    split
    · simp
    · split_ifs <;> simp
  | persist clock =>
    simp only [Delivery.step, completions]
    split <;> simp
  | loseRequest number => simp [Delivery.step, completions]
  | loseAck number => simp [Delivery.step, completions]
  | giveUp => simp [Delivery.step, completions]

/-- Both invariants hold after a list of events that repeats and merges nothing. -/
lemma Delivery.invariants_run (events : List DeliveryEvent) {d : Delivery} (hsound : d.Sound)
    (hstored : d.Stored) (hallows : d.AllowsAll events)
    (hdistinct : ((d.completed ++ completions events).map ProbeResult.ident).Nodup) :
    (d.run events).Sound ∧ (d.run events).Stored := by
  induction events generalizing d with
  | nil => exact ⟨hsound, hstored⟩
  | cons event events ih =>
    obtain ⟨hevent, hevents⟩ := hallows
    have hcompletions : completions (event :: events) = completions [event] ++ completions events :=
      List.filterMap_append (l := [event])
    rw [hcompletions, ← List.append_assoc, ← Delivery.completed_step] at hdistinct
    refine ih (hsound.step event hevent ?_) (hstored.step event hevent) hevents hdistinct
    rintro result rfl hmem
    rw [Delivery.completed_step, List.map_append, List.nodup_append] at hdistinct
    have hnodup := hdistinct.1
    rw [List.map_append, List.nodup_append] at hnodup
    exact hnodup.2.2 _ hmem _ List.mem_cons_self rfl

/-- Both invariants hold at the start. -/
lemma Delivery.invariants_start (agent : AgentRuntime) :
    (Delivery.start agent).Sound ∧ (Delivery.start agent).Stored := by
  constructor
  · exact ⟨List.nodup_nil, List.Sublist.refl _, nofun, List.nodup_nil, nofun, fun _ => ⟨rfl, nofun⟩,
      nofun⟩
  · exact ⟨nofun, nofun, List.nodup_nil, List.Perm.refl _⟩

/-- In every run that repeats nothing and merges nothing, once the queue is empty every accepted
result has exactly one row of its own. -/
theorem Delivery.stored_once (agent : AgentRuntime) (events : List DeliveryEvent)
    (hdistinct : ((completions events).map ProbeResult.ident).Nodup)
    (hallows : (Delivery.start agent).AllowsAll events)
    (hdrained : ((Delivery.start agent).run events).queue = []) :
    ((Delivery.start agent).run events).StoredOnce := by
  obtain ⟨hsound, hstored⟩ := Delivery.invariants_start agent
  obtain ⟨hsound, hstored⟩ := Delivery.invariants_run events hsound hstored hallows hdistinct
  have hrows := hstored.rows
  rw [hdrained, List.map_nil, List.append_nil] at hrows
  exact ⟨_, fun _ hr => hr, hsound.accepted_nodup, fun _ hr => List.mem_map_of_mem hr, hrows⟩

/-- When every accepted result has one row of its own, there are as many rows as results. -/
lemma Delivery.StoredOnce.length_eq {d : Delivery} (h : d.StoredOnce) :
    d.store.probeResults.rows.length = (d.accepted.map ProbeResult.ident).dedup.length := by
  obtain ⟨chosen, hsub, hnodup, hall, hperm⟩ := h
  have hids : (chosen.map ProbeResult.ident).Perm (d.accepted.map ProbeResult.ident).dedup := by
    refine (List.perm_ext_iff_of_nodup hnodup (List.nodup_dedup _)).mpr fun k => ?_
    rw [List.mem_dedup]
    constructor
    · intro hk
      obtain ⟨r, hr, rfl⟩ := List.mem_map.mp hk
      exact List.mem_map_of_mem (hsub r hr)
    · intro hk
      obtain ⟨r, hr, rfl⟩ := List.mem_map.mp hk
      exact hall r hr
  rw [hperm.length_eq, List.length_map, ← hids.length_eq, List.length_map]

/-- A result of the task that pings a host, collected a number of seconds after the epoch. -/
def pingResult (seconds : ℤ) : ProbeResult :=
  { taskID := 1, collectedAt := unixEpoch + seconds * second, success := true }

/-- The stream of a node handles a frame a number of seconds after the epoch. -/
def pingStream (seconds : ℤ) : Service :=
  .stream (openStream pingedNode {} (some [pingTask]) unixEpoch unixEpoch).1 (90 * second)
    { now := unixEpoch + seconds * second, tasks := some [pingTask] }

/-- The report of a node is handled a number of seconds after the epoch. -/
def pingReport (seconds : ℤ) : Service :=
  .http pingedNode {} { now := unixEpoch + seconds * second, tasks := some [pingTask] }

/-- One result is sent in a frame and the next one in a report. -/
def frameThenReport : List DeliveryEvent :=
  [.complete (pingResult 60), .collect, .sendFrame, .serve 0 (pingStream 61) fun _ => true,
   .readAck, .complete (pingResult 120), .sendReport (some {}),
   .serve 1 (pingReport 121) fun _ => true, .readAck, .persist 0, .persist 0]

theorem stored_once_frameThenReport : ((Delivery.start {}).run frameThenReport).StoredOnce := by
  refine Delivery.stored_once {} frameThenReport (by decide +kernel) ?_ (by decide +kernel)
  refine ⟨trivial, trivial, trivial, ?_, trivial, trivial, trivial, ?_, trivial, trivial, trivial,
    trivial⟩
  · rintro request ⟨⟩
    exact ⟨by decide +kernel, by decide +kernel, by decide +kernel⟩
  · rintro request ⟨⟩
    exact ⟨by decide +kernel, by decide +kernel, by decide +kernel⟩

/-- Two results of a task wait and are sent in one report. -/
def backlog : List DeliveryEvent :=
  [.complete (pingResult 60), .complete (pingResult 120), .sendReport (some {}),
   .serve 0 (pingReport 121) fun _ => true, .readAck, .persist 0, .persist 0]

/-- The ack of a report is lost, and the result is sent again. -/
def lostAck : List DeliveryEvent :=
  [.complete (pingResult 60), .sendReport (some {}), .serve 0 (pingReport 61) fun _ => true,
   .loseAck 0, .giveUp, .sendReport (some {}), .serve 1 (pingReport 81) fun _ => true, .readAck,
   .persist 0, .persist 0]

/-- The results of the backlog get one stamp, so that the second overwrites the first; the result
whose ack was lost is stored twice under two stamps. -/
theorem backlog_merges_and_lost_ack_duplicates :
    (((completions backlog).map ProbeResult.ident).Nodup ∧
      ((Delivery.start {}).run backlog).queue = [] ∧
      ¬ ((Delivery.start {}).run backlog).StoredOnce) ∧
    ((completions lostAck).map ProbeResult.ident).Nodup ∧
      ((Delivery.start {}).run lostAck).queue = [] ∧
      ¬ ((Delivery.start {}).run lostAck).StoredOnce := by
  refine ⟨⟨by decide +kernel, by decide +kernel, fun h => ?_⟩, by decide +kernel, by decide +kernel,
    fun h => ?_⟩
  · exact absurd h.length_eq (by decide +kernel)
  · exact absurd h.length_eq (by decide +kernel)

end Hostpin
