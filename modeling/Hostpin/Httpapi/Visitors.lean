import Hostpin.Httpapi.Disclosure

/-!
# Requests without a session

A procedure is run on a site and on the site as everybody may know it (`Disclosure.Paired`).  The
calls of a request without a session end alike in the two runs, except for those that read tasks and
results, whose answers differ by what is kept back.
-/

namespace Hostpin

open Clock Procedure

/-- Two runs: one on a site, from which at most sessions were deleted, and one on that site as
everybody may know it. -/
structure Disclosure.Paired (c : Disclosure) (d : Site) (s t : ServeState) : Prop where
  kept : d.Kept s.site
  site : t.site = s.site.disclosed c
  outcomes : t.outcomes = s.outcomes

section Calls

variable {P : Platform} {c : Disclosure} {d : Site} {s t : ServeState}

namespace Disclosure.Paired

/-- The two runs at their start. -/
lemma start (c : Disclosure) (d : Site) (outcomes : ℕ → Option StoreError) :
    c.Paired d ⟨d, outcomes⟩ ⟨d.disclosed c, outcomes⟩ :=
  ⟨.refl d, rfl, rfl⟩

/-- What does not depend on the sessions is the same on the site of the first run. -/
lemma left {α : Type} (h : c.Paired d s t) (f : Site → α)
    (hf : ∀ sessions, f { d with sessions } = f d) : f s.site = f d := by
  rw [h.kept.eq]
  exact hf _

/-- What does not depend on the sessions is the same on the site of the second run. -/
lemma right {α : Type} (h : c.Paired d s t) (f : Site → α)
    (hf : ∀ sessions, f { d.disclosed c with sessions } = f (d.disclosed c)) :
    f t.site = f (d.disclosed c) := by
  rw [h.site, h.kept.eq]
  exact hf _

/-- A call of the store that succeeds or not, and does not depend on the sessions. -/
lemma attempt {α : Type} {answer : Site → Except StoreError α}
    {R : Except StoreError α → Except StoreError α → Prop} (h : c.Paired d s t)
    (hsessions : ∀ (e : Site) sessions, answer { e with sessions } = answer e)
    (herror : ∀ e, R (.error e) (.error e)) (hanswer : R (answer d) (answer (d.disclosed c))) :
    R (s.attempt answer).1 (t.attempt answer).1 ∧
      c.Paired d (s.attempt answer).2 (t.attempt answer).2 := by
  have hnext : c.Paired d (s.next s.site) (t.next t.site) := by
    refine ⟨h.kept, h.site, ?_⟩
    simp only [ServeState.next, h.outcomes]
  rw [ServeState.attempt_site, ServeState.attempt_site]
  refine ⟨?_, hnext⟩
  unfold ServeState.attempt
  rw [h.outcomes, h.left answer (hsessions d), h.right answer (hsessions _)]
  cases s.outcomes 0 with
  | none => exact hanswer
  | some e => exact herror e

/-- A call of the store that always finds what it answers. -/
lemma attemptOK {α : Type} {answer : Site → Except StoreError α} {x y : α} (h : c.Paired d s t)
    (hsessions : ∀ (e : Site) sessions, answer { e with sessions } = answer e)
    (hx : answer d = .ok x) (hy : answer (d.disclosed c) = .ok y) :
    EndsIn x y (s.attempt answer).1 (t.attempt answer).1 ∧
      c.Paired d (s.attempt answer).2 (t.attempt answer).2 :=
  h.attempt hsessions (fun e => .inl ⟨e, rfl, rfl⟩) (.inr ⟨hx, hy⟩)

end Disclosure.Paired

/-! ## Calls -/

/-- The settings. -/
lemma related_siteSettings :
    Related (answerCall P) (c.Paired d) (EndsIn d.settings d.settings) (call .siteSettings)
      (call .siteSettings) :=
  fun _ _ h => h.attemptOK (fun _ _ => rfl) rfl rfl

/-- The session of a token. -/
lemma alike_getSession (tokenHash : String) (clock : Time) :
    Alike (answerCall P) (c.Paired d) (call (.getSession tokenHash clock)) := by
  intro s t h
  have hsessions : t.site.sessions = s.site.sessions := by
    rw [h.site]
    rfl
  have hnext : c.Paired d (s.next s.site) (t.next t.site) := by
    refine ⟨h.kept, h.site, ?_⟩
    simp only [ServeState.next, h.outcomes]
  have hdeleted : c.Paired d (s.next (s.site.deleteSession tokenHash))
      (t.next (t.site.deleteSession tokenHash)) := by
    refine ⟨h.kept.deleteSession tokenHash, ?_, hnext.outcomes⟩
    change t.site.deleteSession tokenHash = (s.site.deleteSession tokenHash).disclosed c
    rw [h.site]
    rfl
  change (s.getSession tokenHash clock).1 = (t.getSession tokenHash clock).1 ∧
    c.Paired d (s.getSession tokenHash clock).2 (t.getSession tokenHash clock).2
  unfold ServeState.getSession
  rw [h.outcomes, hsessions]
  cases s.outcomes 0 with
  | some e => exact ⟨rfl, hnext⟩
  | none =>
    cases s.site.sessions tokenHash with
    | none => exact ⟨rfl, hnext⟩
    | some session =>
      dsimp only
      split_ifs with hexpired
      · exact ⟨rfl, hdeleted⟩
      · exact ⟨rfl, hnext⟩

/-- An administrator. -/
lemma alike_getAdminByID (id : String) :
    Alike (answerCall P) (c.Paired d) (call (.getAdminByID id)) :=
  fun _ _ h => h.attempt (fun _ _ => rfl) (fun _ => rfl) rfl

/-- A theme. -/
lemma alike_getTheme (short : String) :
    Alike (answerCall P) (c.Paired d) (call (.getTheme short)) :=
  fun _ _ h => h.attempt (fun _ _ => rfl) (fun _ => rfl) rfl

/-- The listed nodes. -/
lemma related_listNodes (hd : d.Discloses c) :
    Related (answerCall P) (c.Paired d)
      (EndsIn (d.nodes.listNodes P.textLE false) (d.nodes.listNodes P.textLE false))
      (call (.listNodes false)) (call (.listNodes false)) :=
  fun _ _ h => h.attemptOK (fun _ _ => rfl) rfl (congrArg Except.ok (hd.listNodes P.textLE))

/-- A node is the same, unless it is hidden. -/
lemma related_getNode (hd : d.Discloses c) (id : String) :
    Related (answerCall P) (c.Paired d) (fun a b => shownNode a = shownNode b) (call (.getNode id))
      (call (.getNode id)) :=
  fun _ _ h => h.attempt (R := fun a b => shownNode a = shownNode b) (fun _ _ => rfl)
    (fun _ => rfl) (hd.shownNode_getNode id).symm

/-- The tasks of all nodes, without those that are kept back. -/
lemma related_listProbeTasks :
    Related (answerCall P) (c.Paired d)
      (EndsIn d.tasks.listEnabled (d.tasks.listEnabled.filter fun task => c.tasks task.id))
      (call (.listProbeTasks "")) (call (.listProbeTasks "")) := by
  refine fun _ _ h => h.attemptOK (fun _ _ => rfl) rfl ?_
  change Except.ok (d.tasks.disclosed c).listEnabled = _
  rw [CarrierTaskTable.listEnabled_disclosed]

/-- The tasks of a node that everybody may know, without those that are kept back. -/
lemma related_listProbeTasks_node {nodeID : String} {node : NodeRow} (hid : nodeID ≠ "")
    (hnode : d.nodes.getNode nodeID = some node) (hknown : c.nodes nodeID = true) :
    Related (answerCall P) (c.Paired d)
      (EndsIn (listProbeTasks d.tasks.toProbeTaskTable node.toNode)
        ((listProbeTasks d.tasks.toProbeTaskTable node.toNode).filter fun task => c.tasks task.id))
      (call (.listProbeTasks nodeID)) (call (.listProbeTasks nodeID)) := by
  refine fun _ _ h => h.attemptOK (fun _ _ => rfl) ?_ ?_
  · rw [ProbeTaskTable.listTasks, if_neg hid, hnode]
    rfl
  · rw [ProbeTaskTable.listTasks, if_neg hid, Site.getNode_disclosed, if_pos hknown, hnode,
      Option.map_some, found]
    exact congrArg Except.ok (CarrierTaskTable.listProbeTasks_disclosed c d.tasks node.toNode)

/-- The results of a query, on the site and on the site as everybody may know it. -/
lemma related_probeHistory (query : ProbeQuery) :
    Related (answerCall P) (c.Paired d)
      (EndsIn (d.metrics.probeHistory query) ((d.metrics.disclosed c).probeHistory query))
      (call (.probeHistory query)) (call (.probeHistory query)) :=
  fun _ _ h => h.attemptOK (fun _ _ => rfl) rfl rfl

/-- The recent samples of a node that everybody may know. -/
lemma alike_recentMetrics {nodeID : String} (hknown : c.nodes nodeID = true) (since : Time) :
    Alike (answerCall P) (c.Paired d) (call (.recentMetrics nodeID since)) :=
  fun _ _ h => h.attempt (fun _ _ => rfl) (fun _ => rfl)
    (congrArg Except.ok (MetricStore.recentMetrics_disclosed hknown since).symm)

/-- The history of a node that everybody may know. -/
lemma alike_history {query : HistoryQuery} (hknown : c.nodes query.nodeID = true) (clock : Time) :
    Alike (answerCall P) (c.Paired d) (call (.history query clock)) :=
  fun _ _ h => h.attempt (fun _ _ => rfl) (fun _ => rfl)
    (congrArg Except.ok (MetricStore.historySamples_disclosed hknown clock).symm)

/-- The latest sample of a node that everybody may know. -/
lemma alike_latest {nodeID : String} (hknown : c.nodes nodeID = true) :
    Alike (answerCall P) (c.Paired d) (call (.latest nodeID)) := by
  refine fun s t h => ⟨?_, h⟩
  change s.site.latest nodeID = t.site.latest nodeID
  rw [h.site]
  exact (if_pos hknown).symm

/-- The shown sample of a node that everybody may know. -/
lemma alike_correct {nodeID : String} (hknown : c.nodes nodeID = true) (sample : MetricSample)
    (clock : Time) : Alike (answerCall P) (c.Paired d) (call (.correct nodeID sample clock)) := by
  refine fun s t h => ⟨?_, h⟩
  change s.site.traffic.correct nodeID sample clock = t.site.traffic.correct nodeID sample clock
  have hpolicies : t.site.traffic.policies nodeID = s.site.traffic.policies nodeID := by
    rw [h.site]
    exact if_pos hknown
  unfold TrafficTracker.correct TrafficTracker.activePolicy
  rw [hpolicies]

/-! ## Access -/

/-- The administrator of a session. -/
lemma alike_currentAdmin (cookie : Option String) (clock : Time) :
    Alike (answerCall P) (c.Paired d) (currentAdmin P cookie clock) := by
  cases cookie with
  | none => exact .pure _
  | some value =>
    refine Alike.ite (fun _ => .pure _) fun _ => (alike_getSession _ clock).bind fun session => ?_
    cases session with
    | error e => exact .pure _
    | ok session =>
      refine (alike_getAdminByID session.adminID).bind fun admin => ?_
      cases admin with
      | error e => exact .pure _
      | ok admin => exact .pure _

/-- Without a session there is no administrator. -/
lemma related_currentAdmin {cookie : Option String} {clock : Time}
    (hsession : ¬d.HasSession P cookie clock) :
    Related (answerCall P) (c.Paired d) (fun a b => a = b ∧ a = .error .unauthorized)
      (currentAdmin P cookie clock) (currentAdmin P cookie clock) :=
  (alike_currentAdmin cookie clock).known fun _ _ h =>
    run_currentAdmin fun hs => hsession (h.kept.hasSession hs)

/-- Without a session a request is not one of the administrator, and a private site does not answer
it. -/
lemma related_publicAccess {cookie : Option String} {clock : Time}
    (hsession : ¬d.HasSession P cookie clock) :
    Related (answerCall P) (c.Paired d)
      (SameOK fun x => x = false ∧ d.settings.isPrivate = false)
      (publicAccess P cookie clock) (publicAccess P cookie clock) := by
  refine related_siteSettings.bindEnds (fun e => .pure ⟨rfl, nofun⟩) ?_
  refine (related_currentAdmin hsession).bind ?_
  rintro _ _ ⟨rfl, rfl⟩
  cases hprivate : d.settings.isPrivate with
  | true => exact .pure ⟨rfl, nofun⟩
  | false => exact .pure ⟨rfl, fun x hx => ⟨(Except.ok.inj hx).symm, rfl⟩⟩

/-! ## Nodes -/

/-- The nodes that are shown without a session. -/
def Site.monitorIDs (P : Platform) (d : Site) : List String :=
  (d.nodes.listNodes P.textLE false).map (·.id)

/-- The nodes that are shown are known to everybody. -/
lemma Site.Discloses.of_mem_monitorIDs (hd : d.Discloses c) {id : String}
    (hid : id ∈ d.monitorIDs P) : c.nodes id = true := by
  obtain ⟨node, hnode, rfl⟩ := List.mem_map.mp hid
  exact (hd.of_mem_listNodes hnode).1

/-- A node that everybody may see is known to everybody. -/
lemma Site.Discloses.of_shows (hd : d.Discloses c) {id : String} (hid : d.Shows id) :
    c.nodes id = true := by
  obtain ⟨-, node, hnode, hhidden⟩ := hid
  rw [hd.of_getNode hnode, hhidden]
  rfl

/-- The nodes that a request without a session may see. -/
lemma related_visibleNodeSet (hd : d.Discloses c) :
    Related (answerCall P) (c.Paired d) (EndsIn (d.monitorIDs P) (d.monitorIDs P))
      (visibleNodeSet false) (visibleNodeSet false) := by
  refine (related_listNodes hd).bindEnds (fun e => .pure (.inl ⟨e, rfl, rfl⟩)) ?_
  have hshown : (d.nodes.listNodes P.textLE false).filter (fun node => false || !node.hidden) =
      d.nodes.listNodes P.textLE false := by
    refine List.filter_eq_self.mpr fun node hnode => ?_
    rw [(hd.of_mem_listNodes hnode).2]
    rfl
  refine .pure (.inr ⟨?_, ?_⟩) <;>
    rw [hshown, Site.monitorIDs]

/-- A node that is shown is the one of the answer, and is not hidden. -/
lemma shownNode_eq_some {answer : Except StoreError NodeRow} {node : NodeRow}
    (h : shownNode answer = some node) : answer = .ok node ∧ node.hidden = false := by
  cases answer with
  | error e => cases h
  | ok other =>
    obtain ⟨hsame, hhidden⟩ := Option.filter_eq_some_iff.mp h
    cases hsame
    exact ⟨rfl, by simpa using hhidden⟩

/-- What asks for a node and treats a hidden one as if there were none is alike. -/
lemma alike_getNode_bind {α : Type} (hd : d.Discloses c) (nodeID : String)
    {f : Except StoreError NodeRow → Serve α} (unseen : α)
    (herror : ∀ e, f (.error e) = pure unseen)
    (hhidden : ∀ node : NodeRow, node.hidden = true → f (.ok node) = pure unseen)
    (hshown : ∀ node : NodeRow, node.hidden = false →
      Alike (answerCall P) (c.Paired d) (f (.ok node))) :
    Alike (answerCall P) (c.Paired d) (call (.getNode nodeID) >>= f) := by
  have hnone : ∀ answer, shownNode answer = none → f answer = pure unseen := by
    intro answer h
    cases answer with
    | error e => exact herror e
    | ok node =>
      refine hhidden node ?_
      simpa [shownNode, Except.toOption, Option.filter] using h
  refine (related_getNode hd nodeID).bind fun a b hab => ?_
  cases ha : shownNode a with
  | none =>
    rw [hnone a ha, hnone b (hab.symm.trans ha)]
    exact .pure rfl
  | some node =>
    obtain ⟨rfl, hnode⟩ := shownNode_eq_some ha
    obtain ⟨rfl, -⟩ := shownNode_eq_some (hab.symm.trans ha)
    exact hshown node hnode

/-- Whether a request without a session may see a node. -/
lemma related_ensureVisibleNode (hd : d.Discloses c) (nodeID : String) :
    Related (answerCall P) (c.Paired d) (SameOK fun _ => d.Shows nodeID)
      (ensureVisibleNode nodeID false) (ensureVisibleNode nodeID false) := by
  have halike : Alike (answerCall P) (c.Paired d) (ensureVisibleNode nodeID false) := by
    refine Alike.ite (fun _ => .pure _) fun _ => ?_
    refine alike_getNode_bind hd nodeID (.error "node not found") (fun e => rfl)
      (fun node hnode => ?_) fun node hnode => ?_
    · simp [hnode]
    · simp only [hnode]
      exact .pure _
  refine halike.known fun s t h _ hok => ?_
  obtain ⟨hid, node, hnode, hhidden⟩ := shows_of_ensureVisibleNode hok
  exact ⟨hid, node, h.left (fun d => d.nodes.getNode nodeID) (fun _ => rfl) ▸ hnode, hhidden⟩

/-- A monitor that a request without a session may see. -/
lemma related_publicMonitor (hd : d.Discloses c) (nodeID : String) :
    Related (answerCall P) (c.Paired d)
      (fun a b => a = b ∧ ∀ node, a = some node →
        d.nodes.getNode nodeID = some node ∧ c.nodes node.id = true)
      (publicMonitor false nodeID) (publicMonitor false nodeID) := by
  have halike : Alike (answerCall P) (c.Paired d) (publicMonitor false nodeID) := by
    refine alike_getNode_bind hd nodeID none (fun e => rfl) (fun node hnode => ?_) fun node _ => ?_
    · simp [hnode]
    · exact .ite (fun _ => .pure _) fun _ => .pure _
  refine halike.known fun s t h node hok => ?_
  rw [publicMonitor, run_bind, run_call] at hok
  cases hanswer : (answerCall P (.getNode nodeID) s).1 with
  | error e =>
    rw [hanswer] at hok
    cases hok
  | ok other =>
    rw [hanswer] at hok
    dsimp only at hok
    split_ifs at hok with hunseen
    · cases hok
    · cases hok
      have hanswered := found_eq_ok (ServeState.attempt_eq_ok hanswer)
      have hfound : d.nodes.getNode nodeID = some node :=
        h.left (fun d => d.nodes.getNode nodeID) (fun _ => rfl) ▸ hanswered
      refine ⟨hfound, ?_⟩
      rw [NodeTable.id_of_getNode hfound, hd.of_getNode hfound]
      simpa using (not_or.mp hunseen).2

/-! ## Tasks -/

section Tasks

variable {allowed : List String}

/-- A task that is kept back, and does not measure latency, is one for no node that is allowed. -/
lemma ProbeTask.restricted_of_mayHide {task : ProbeTask}
    (hallowed : ∀ id ∈ allowed, c.nodes id = true) (hpurpose : task.purpose ≠ .latency)
    (h : task.MayHide c.nodes) : task.restricted allowed = none := by
  rcases h with ⟨hne, hhidden⟩ | ⟨hlatency, -⟩
  · have hnone : task.nodeIDs.filter (· ∈ allowed) = [] := by
      refine List.filter_eq_nil_iff.mpr fun id hid hmem => ?_
      have hknown := hallowed id (of_decide_eq_true hmem)
      rw [hhidden id hid] at hknown
      cases hknown
    rw [ProbeTask.restricted, if_neg hne]
    exact if_pos hnone
  · exact absurd hlatency hpurpose

/-- The visible tasks among those that do not measure latency are not affected by those that are
kept back. -/
lemma Site.Discloses.filterMap_restricted (hd : d.Discloses c)
    (hallowed : ∀ id ∈ allowed, c.nodes id = true) {p : ProbeTask → Bool}
    (hp : ∀ task, p task = true → task.purpose ≠ .latency) :
    ((d.tasks.listEnabled.filter fun task => c.tasks task.id).filter p).filterMap
        (·.restricted allowed) =
      (d.tasks.listEnabled.filter p).filterMap (·.restricted allowed) := by
  rw [List.filter_filter, List.filterMap_filter, List.filterMap_filter]
  refine List.filterMap_congr fun task htask => ?_
  cases hkept : c.tasks task.id with
  | true => simp
  | false =>
    cases hsel : p task with
    | false => rfl
    | true =>
      have hnone := ProbeTask.restricted_of_mayHide hallowed (hp task hsel)
        (hd.mayHide htask hkept)
      simp [hnone]

/-- The probes of the carriers do not measure latency. -/
lemma ne_latency_of_isCarrier {purpose : ProbePurpose} (h : purpose.isCarrier = true) :
    purpose ≠ .latency := by
  rintro rfl
  cases h

lemma isCarrier_carriers :
    ∀ purpose ∈ [ProbePurpose.carrierTelecom, .carrierUnicom, .carrierMobile],
      purpose.isCarrier = true := by decide

/-- Two enabled tasks of a carrier are the same. -/
lemma CarrierTaskTable.eq_of_carrier {tasks : CarrierTaskTable} {purpose : ProbePurpose}
    (hcarrier : purpose.isCarrier = true) {t u : ProbeTask} (ht : t ∈ tasks.listEnabled)
    (hu : u ∈ tasks.listEnabled) (htp : t.purpose = purpose) (hup : u.purpose = purpose) :
    t = u := by
  have hscan : ∀ row : ProbeTask, (scanProbeTask row).purpose = purpose →
      row.purpose = purpose := by
    intro row hrow
    unfold scanProbeTask at hrow
    dsimp only at hrow
    split_ifs at hrow
    · rw [← hrow] at hcarrier
      cases hcarrier
    · exact hrow
  obtain ⟨row, hrow, rfl⟩ := List.mem_map.mp ht
  obtain ⟨other, hother, rfl⟩ := List.mem_map.mp hu
  have hsame : row = other := by
    refine tasks.carrier_unique row (KeyedTable.mem_selectOrdered.mp hrow).1 other
      (KeyedTable.mem_selectOrdered.mp hother).1 ?_ ?_
    · rw [hscan row htp, hcarrier]
    · rw [hscan row htp, hscan other hup]
  rw [hsame]

/-- The last of some elements, when these are all the same, after others are left out. -/
lemma getLast?_filter_filter {α : Type} {p q : α → Bool} {l : List α}
    (h : ∀ a ∈ l, ∀ b ∈ l, p a = true → p b = true → a = b) :
    ((l.filter q).filter p).getLast? = (l.filter p).getLast?.filter q := by
  rw [List.filter_filter, show (fun a => p a && q a) = fun a => q a && p a from
    funext fun a => Bool.and_comm _ _, ← List.filter_filter]
  cases hlast : (l.filter p).getLast? with
  | none =>
    rw [List.getLast?_eq_none_iff.mp hlast]
    rfl
  | some t =>
    have hmem := List.mem_filter.mp (List.mem_of_getLast? hlast)
    have hsame : ∀ a ∈ l.filter p, a = t := fun a ha =>
      h a (List.mem_filter.mp ha).1 t hmem.1 (List.mem_filter.mp ha).2 hmem.2
    cases hq : q t with
    | true =>
      have hall : (l.filter p).filter q = l.filter p :=
        List.filter_eq_self.mpr fun a ha => by rw [hsame a ha, hq]
      rw [hall, hlast, Option.filter_some_pos hq]
    | false =>
      have hnone : (l.filter p).filter q = [] :=
        List.filter_eq_nil_iff.mpr fun a ha => by rw [hsame a ha, hq]; decide
      rw [hnone, Option.filter_some_neg (by simp [hq])]
      rfl

/-- The visible carrier tasks are not affected by those that are kept back. -/
lemma Site.Discloses.filterMap_restricted_carrier (hd : d.Discloses c)
    (hallowed : ∀ id ∈ allowed, c.nodes id = true) :
    (carrierProbeTasks (d.tasks.listEnabled.filter fun task => c.tasks task.id)).filterMap
        (·.restricted allowed) =
      (carrierProbeTasks d.tasks.listEnabled).filterMap (·.restricted allowed) := by
  unfold carrierProbeTasks
  rw [List.filterMap_filterMap, List.filterMap_filterMap]
  refine List.filterMap_congr fun purpose hpurpose => ?_
  have hcarrier := isCarrier_carriers purpose hpurpose
  unfold probeTasksByPurpose
  rw [getLast?_filter_filter fun t ht u hu htp hup => CarrierTaskTable.eq_of_carrier hcarrier ht hu
    (of_decide_eq_true htp) (of_decide_eq_true hup)]
  cases hlast : (d.tasks.listEnabled.filter (·.purpose = purpose)).getLast? with
  | none => rfl
  | some task =>
    obtain ⟨htask, hsel⟩ := List.mem_filter.mp (List.mem_of_getLast? hlast)
    cases hkept : c.tasks task.id with
    | true => simp [Option.filter, hkept]
    | false =>
      have hlatency : task.purpose ≠ .latency := by
        rw [of_decide_eq_true hsel]
        exact ne_latency_of_isCarrier hcarrier
      have hnone := ProbeTask.restricted_of_mayHide hallowed hlatency (hd.mayHide htask hkept)
      simp [Option.filter, hkept, hnone]

/-- The tasks of a purpose that a request may see are not affected by those that are kept back. -/
lemma Site.Discloses.tasksOfPurpose_restricted (hd : d.Discloses c)
    (hallowed : ∀ id ∈ allowed, c.nodes id = true) (purpose : String) :
    (tasksOfPurpose purpose (d.tasks.listEnabled.filter fun task => c.tasks task.id)).map
        (·.filterMap (·.restricted allowed)) =
      (tasksOfPurpose purpose d.tasks.listEnabled).map (·.filterMap (·.restricted allowed)) := by
  unfold tasksOfPurpose
  split_ifs
  · refine congrArg some (hd.filterMap_restricted hallowed fun task htask => ?_)
    rw [of_decide_eq_true htask]
    decide
  · exact congrArg some (hd.filterMap_restricted_carrier hallowed)
  · rfl

/-- A task of a node that everybody may know is not kept back, unless it measures latency. -/
lemma Site.Discloses.of_mem_listProbeTasks (hd : d.Discloses c) {node : Node}
    (hnode : c.nodes node.id = true) {task : ProbeTask}
    (htask : task ∈ listProbeTasks d.tasks.toProbeTaskTable node)
    (hpurpose : task.purpose ≠ .latency) : c.tasks task.id = true := by
  obtain ⟨hlisted, hassigned⟩ := List.mem_filter.mp htask
  refine Bool.eq_true_of_not_eq_false fun hkept => ?_
  rcases hd.mayHide hlisted hkept with ⟨hne, hhidden⟩ | ⟨hlatency, -⟩
  · have hmem : node.id ∈ task.nodeIDs := by
      have hnodes := (Bool.and_eq_true_iff.mp hassigned).2
      simpa [hne] using hnodes
    rw [hhidden node.id hmem] at hnode
    cases hnode
  · exact hpurpose hlatency

/-- The tasks of a purpose do not measure latency. -/
lemma purpose_of_mem_tasksOfPurpose {purpose : String} {tasks selected : List ProbeTask}
    (h : tasksOfPurpose purpose tasks = some selected) {task : ProbeTask}
    (htask : task ∈ selected) : task ∈ tasks ∧ task.purpose ≠ .latency := by
  unfold tasksOfPurpose at h
  split_ifs at h
  · cases h
    obtain ⟨hmem, hpurpose⟩ := List.mem_filter.mp htask
    refine ⟨hmem, ?_⟩
    rw [of_decide_eq_true hpurpose]
    decide
  · cases h
    obtain ⟨purpose, hpurpose, hlast⟩ := List.mem_filterMap.mp htask
    obtain ⟨hmem, hsel⟩ := List.mem_filter.mp (List.mem_of_getLast? hlast)
    refine ⟨hmem, ?_⟩
    rw [of_decide_eq_true hsel]
    exact ne_latency_of_isCarrier (isCarrier_carriers purpose hpurpose)

/-- The tasks of a purpose are selected in the same way when only tasks that measure latency are
left out. -/
lemma tasksOfPurpose_filter {purpose : String} {tasks : List ProbeTask} {q : ProbeTask → Bool}
    (hq : ∀ task ∈ tasks, task.purpose ≠ .latency → q task = true) :
    tasksOfPurpose purpose (tasks.filter q) = tasksOfPurpose purpose tasks := by
  have hselect : ∀ p : ProbePurpose, p ≠ .latency →
      probeTasksByPurpose (tasks.filter q) p = probeTasksByPurpose tasks p := by
    intro p hp
    unfold probeTasksByPurpose
    rw [List.filter_filter]
    refine List.filter_congr fun task htask => ?_
    by_cases hsel : task.purpose = p
    · rw [hq task htask (hsel ▸ hp), Bool.and_true]
    · simp [hsel]
  have hcarriers : carrierProbeTasks (tasks.filter q) = carrierProbeTasks tasks := by
    refine List.filterMap_congr fun p hp => ?_
    rw [hselect p (ne_latency_of_isCarrier (isCarrier_carriers p hp))]
  unfold tasksOfPurpose
  rw [hselect .custom (by decide), hcarriers]

end Tasks

/-! ## The public endpoints -/

section Public

variable {cookie : Option String} {clock : Time}

/-- The list of nodes. -/
lemma alike_handlePublicNodes (hd : d.Discloses c) (hsession : ¬d.HasSession P cookie clock) :
    Alike (answerCall P) (c.Paired d) (handlePublicNodes P cookie clock) := by
  refine (related_publicAccess hsession).bindSame (fun e => by cases e <;> exact .pure rfl) ?_
  rintro _ ⟨rfl, -⟩
  refine (related_listNodes hd).bindEnds (fun e => .pure rfl) ?_
  refine Alike.bind (.each fun node hnode => ?_) fun snapshots => .pure _
  have hknown := (hd.of_mem_listNodes (List.mem_filter.mp hnode).1).1
  exact (alike_latest hknown).bind fun sample => .pure _

/-- One node. -/
lemma alike_handlePublicNode (hd : d.Discloses c) (hsession : ¬d.HasSession P cookie clock)
    (id : String) : Alike (answerCall P) (c.Paired d) (handlePublicNode P cookie clock id) := by
  refine (related_publicAccess hsession).bindSame (fun e => .pure rfl) ?_
  rintro _ ⟨rfl, -⟩
  refine (related_publicMonitor hd id).bind ?_
  rintro monitor _ ⟨rfl, hmonitor⟩
  cases monitor with
  | none => exact .pure rfl
  | some node =>
    exact (alike_latest (hmonitor node rfl).2).bind fun sample => .pure _

/-- The history of a node. -/
lemma alike_handlePublicHistory (hd : d.Discloses c) (hsession : ¬d.HasSession P cookie clock)
    (nodeID hoursText pointsText : String) :
    Alike (answerCall P) (c.Paired d)
      (handlePublicHistory P cookie clock nodeID hoursText pointsText) := by
  refine (related_publicAccess hsession).bindSame (fun e => .pure rfl) ?_
  rintro _ ⟨rfl, -⟩
  refine Alike.ite (fun _ => .pure _) fun hid => ?_
  refine (related_publicMonitor hd nodeID).bind ?_
  rintro monitor _ ⟨rfl, hmonitor⟩
  cases monitor with
  | none => exact .pure rfl
  | some node =>
    obtain ⟨hnode, hknown⟩ := hmonitor node rfl
    have hquery : c.nodes nodeID = true := NodeTable.id_of_getNode hnode ▸ hknown
    refine (alike_history hquery clock).bind fun samples => ?_
    cases samples with
    | error e => exact .pure _
    | ok samples =>
      refine Alike.bind (.each fun sample _ => ?_) fun corrected => .pure _
      exact alike_correct hknown sample clock

/-- The results of a task of a node. -/
lemma alike_publicProbeSnapshot {nodeID : String} (hid : nodeID ≠ "")
    (hknown : c.nodes nodeID = true) (hours : Float) (carrier : Bool) (maxPoints : ℤ)
    {task : ProbeTask} (hpos : 0 < task.id) (htask : c.tasks task.id = true) :
    Alike (answerCall P) (c.Paired d)
      (publicProbeSnapshot P clock nodeID hours carrier maxPoints task) := by
  refine (related_probeHistory _).bindEnds (fun e => .pure rfl) ?_
  rw [MetricStore.probeHistory_disclosed hid hknown hpos htask]
  exact .pure rfl

/-- The tasks that a request without a session may see. -/
lemma related_filterVisibleProbeTasks (hd : d.Discloses c) (tasks tasks' : List ProbeTask) :
    Related (answerCall P) (c.Paired d)
      (EndsIn (tasks.filterMap (·.restricted (d.monitorIDs P)))
        (tasks'.filterMap (·.restricted (d.monitorIDs P))))
      (filterVisibleProbeTasks tasks false) (filterVisibleProbeTasks tasks' false) :=
  (related_visibleNodeSet hd).bindEnds (fun e => .pure (.inl ⟨e, rfl, rfl⟩))
    (.pure (.inr ⟨rfl, rfl⟩))

/-- All probes. -/
lemma alike_handlePublicProbes_all (hd : d.Discloses c) (hsession : ¬d.HasSession P cookie clock)
    (purpose hoursText pointsText : String) :
    Alike (answerCall P) (c.Paired d)
      (handlePublicProbes P cookie clock "" purpose hoursText pointsText) := by
  refine (related_publicAccess hsession).bindSame (fun e => .pure rfl) ?_
  rintro _ ⟨rfl, -⟩
  refine Alike.bind (.pure _) fun node => Alike.ite (fun _ => .pure _) fun _ => ?_
  refine related_listProbeTasks.bindEnds (fun e => .pure rfl) ?_
  have hrestricted := hd.tasksOfPurpose_restricted
    (fun id hid => hd.of_mem_monitorIDs (P := P) hid) purpose
  dsimp only
  cases hall : tasksOfPurpose purpose d.tasks.listEnabled with
  | none =>
    rw [hall, Option.map_none, Option.map_eq_none_iff] at hrestricted
    rw [hrestricted]
    exact .pure rfl
  | some tasks =>
    rw [hall, Option.map_some, Option.map_eq_some_iff] at hrestricted
    obtain ⟨kept, hkept, heq⟩ := hrestricted
    rw [hkept]
    refine (related_filterVisibleProbeTasks hd tasks kept).bindEnds (fun e => .pure rfl) ?_
    rw [heq]
    exact .pure rfl

/-- The probes of a node with their results. -/
lemma alike_handlePublicProbes_node (hd : d.Discloses c) (hsession : ¬d.HasSession P cookie clock)
    {nodeID : String} (hid : nodeID ≠ "") (purpose hoursText pointsText : String) :
    Alike (answerCall P) (c.Paired d)
      (handlePublicProbes P cookie clock nodeID purpose hoursText pointsText) := by
  refine (related_publicAccess hsession).bindSame (fun e => .pure rfl) ?_
  rintro _ ⟨rfl, -⟩
  dsimp only
  rw [if_neg hid]
  refine (related_publicMonitor hd nodeID).bind ?_
  rintro monitor _ ⟨rfl, hmonitor⟩
  refine Alike.ite (fun _ => .pure _) fun hsome => ?_
  obtain ⟨node, rfl⟩ : ∃ node, monitor = some node := by
    cases monitor with
    | none => exact absurd ⟨hid, rfl⟩ hsome
    | some node => exact ⟨node, rfl⟩
  obtain ⟨hnode, hknown⟩ := hmonitor node rfl
  have hnodeID := NodeTable.id_of_getNode hnode
  refine (related_listProbeTasks_node hid hnode (hnodeID ▸ hknown)).bindEnds
    (fun e => .pure rfl) ?_
  dsimp only
  rw [tasksOfPurpose_filter fun task htask hpurpose =>
    hd.of_mem_listProbeTasks hknown htask hpurpose]
  cases hselected : tasksOfPurpose purpose
      (listProbeTasks d.tasks.toProbeTaskTable node.toNode) with
  | none => exact .pure rfl
  | some tasks =>
    refine Alike.ite (fun _ => ?_) fun hnot => absurd hid hnot
    refine Alike.bind (.eachOK fun task htask => ?_) fun snapshots => ?_
    · obtain ⟨listed, hlisted, rfl⟩ := List.mem_map.mp htask
      obtain ⟨hmem, hpurpose⟩ := purpose_of_mem_tasksOfPurpose hselected hlisted
      have hkept : c.tasks listed.id = true := hd.of_mem_listProbeTasks hknown hmem hpurpose
      exact alike_publicProbeSnapshot hid (hnodeID ▸ hknown) _ _ _
        (enabled_of_mem_listProbeTasks hmem).2 hkept
    · cases snapshots <;> exact .pure _

/-- The probes of a node with their results, or all probes. -/
lemma alike_handlePublicProbes (hd : d.Discloses c) (hsession : ¬d.HasSession P cookie clock)
    (nodeID purpose hoursText pointsText : String) :
    Alike (answerCall P) (c.Paired d)
      (handlePublicProbes P cookie clock nodeID purpose hoursText pointsText) := by
  by_cases hid : nodeID = ""
  · rw [hid]
    exact alike_handlePublicProbes_all hd hsession purpose hoursText pointsText
  · exact alike_handlePublicProbes_node hd hsession hid purpose hoursText pointsText

/-- Everybody may know of an event, unless it is a sample of a node that is kept back. -/
def FeedEvent.known (c : Disclosure) : FeedEvent → Bool
  | .publish _ sample => c.nodes sample.nodeID
  | _ => true

/-- A live connection to known nodes does not depend on the samples of other nodes. -/
lemma related_liveUpdates (hd : d.Discloses c) {allowed : List String}
    (hallowed : ∀ id ∈ allowed, c.nodes id = true) {events : List FeedEvent}
    (hsession : ∀ now, .revalidate now ∈ events → ¬d.HasSession P cookie now)
    (queue : List LiveMessage) :
    Related (answerCall P) (c.Paired d) Eq (liveUpdates P cookie false allowed events queue)
      (liveUpdates P cookie false allowed (events.filter (·.known c)) queue) := by
  induction events generalizing queue with
  | nil => exact .pure rfl
  | cons event events ih =>
    have ih := ih fun now hnow => hsession now (List.mem_cons_of_mem _ hnow)
    cases event with
    | publish sentAt sample =>
      cases hknown : c.nodes sample.nodeID with
      | true =>
        rw [List.filter_cons_of_pos (by exact hknown)]
        exact ih _
      | false =>
        have hnot : sample.nodeID ∉ allowed := fun hmem => by
          rw [hallowed _ hmem] at hknown
          cases hknown
        rw [List.filter_cons_of_neg (by simp [FeedEvent.known, hknown]), liveUpdates, if_neg hnot]
        exact ih queue
    | deliver =>
      rw [List.filter_cons_of_pos rfl]
      cases queue with
      | nil => exact ih []
      | cons message queue =>
        refine (ih queue).bind ?_
        rintro messages _ rfl
        exact .pure rfl
    | revalidate now =>
      rw [List.filter_cons_of_pos rfl]
      refine (related_publicAccess (hsession now List.mem_cons_self)).bindSame
        (fun e => .pure rfl) ?_
      rintro _ ⟨rfl, -⟩
      refine (related_visibleNodeSet hd).bindEnds (fun e => .pure rfl) ?_
      dsimp only
      split_ifs
      · exact .pure rfl
      · exact ih queue

/-- A live connection: the latest samples, and what the hub publishes from then on. -/
lemma related_handlePublicLive (hd : d.Discloses c) (hsession : ¬d.HasSession P cookie clock)
    {events : List FeedEvent}
    (hevents : ∀ now, .revalidate now ∈ events → ¬d.HasSession P cookie now) :
    Related (answerCall P) (c.Paired d) Eq (handlePublicLive P cookie clock events)
      (handlePublicLive P cookie clock (events.filter (·.known c))) := by
  refine (related_publicAccess hsession).bindSame (fun e => .pure rfl) ?_
  rintro _ ⟨rfl, -⟩
  refine (related_visibleNodeSet hd).bindEnds (fun e => .pure rfl) ?_
  have hknown : ∀ id ∈ d.monitorIDs P, c.nodes id = true := fun id => hd.of_mem_monitorIDs
  have hsnapshot : Alike (answerCall P) (c.Paired d) (hubSnapshot (d.monitorIDs P)) := by
    refine Alike.bind (.each fun id hid => ?_) fun samples => .pure _
    exact (alike_latest (hknown id hid)).bind fun sample => .pure _
  refine Related.bind hsnapshot ?_
  rintro samples _ rfl
  refine (related_liveUpdates hd hknown hevents []).bind ?_
  rintro updates _ rfl
  exact .pure rfl

end Public

end Calls

end Hostpin
