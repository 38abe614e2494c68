import Hostpin.Httpapi.KomariRPC

/-!
# A private site

A private site is to tell nothing to requests without a session, except for a few methods.  The gate
in front of the calls reads the settings twice and drops the error of the second read, so that a
request is served when just this read fails (`privateSite_listsNodes`).  That is the only way: when
the second read works, nothing is told (`privateSite_failsClosed`).
-/

namespace Hostpin

open Clock Procedure

/-! ## Data -/

/-- A result tells something about nodes, metrics or probes. -/
def RPCResult.isData : RPCResult → Bool
  | .node _ | .nodes _ | .nodeMap _ | .status _ | .statuses _ | .recent _ | .countedRecent _
  | .load _ | .ping _ | .tasks _ | .metrics _ | .pingStats _ => true
  | _ => false

/-- An answer tells something about nodes, metrics or probes. -/
def RPCResponse.isData : RPCResponse → Bool
  | .result _ data => data.isData
  | .error _ _ _ => false

/-- A call returns something about nodes, metrics or probes. -/
def RPCReturn.isData : RPCReturn → Bool
  | .ok result => result.isData
  | .error _ => false

/-- A method tells something about nodes, metrics or probes. -/
def RPCMethod.returnsData : RPCMethod → Bool
  | .ping | .version | .methods | .getPublicInfo | .getVersion | .getMe | .publicGetMe
  | .publicGetPublicSettings | .publicGetVersion | .publicListMetricDefinitions => false
  | _ => true

/-- A method tells something about a node that has to be named. -/
def RPCMethod.needsNode : RPCMethod → Bool
  | .getNodeRecentStatus | .publicGetClientRecentRecords | .publicGetRecordsByUUID => true
  | _ => false

/-- A node that everybody may see. -/
def Site.Shows (d : Site) (id : String) : Prop :=
  id ≠ "" ∧ ∃ node, d.nodes.getNode id = some node ∧ node.hidden = false

/-- There is something that the method with a name tells everybody. -/
def Site.Offers (d : Site) (name : String) : Prop :=
  ∃ method, RPCMethod.ofName name = some method ∧ method.returnsData = true ∧
    (method.needsNode = true → ∃ id, d.Shows id)

/-! ## Sessions -/

/-- A cookie belongs to a session of the administrator. -/
def Site.HasSession (P : Platform) (d : Site) (cookie : Option String) (clock : Time) : Prop :=
  ∃ value session, cookie = some value ∧ value ≠ "" ∧
    d.sessions (P.hashToken value) = some session ∧ clock ≤ session.expiresAt ∧
    ∃ admin ∈ d.admins, admin.id = session.adminID

/-- A site from which at most sessions were deleted. -/
structure Site.Kept (d d' : Site) : Prop where
  eq : d' = { d with sessions := d'.sessions }
  sessions : ∀ hash, d'.sessions hash = d.sessions hash ∨ d'.sessions hash = none

namespace Site.Kept

variable {d d' : Site} {P : Platform}

lemma refl (d : Site) : d.Kept d := ⟨rfl, fun _ => .inl rfl⟩

/-- A session that is deleted. -/
lemma deleteSession (h : d.Kept d') (hash : String) : d.Kept (d'.deleteSession hash) where
  eq := by
    have heq := h.eq
    rw [Site.deleteSession, heq]
  sessions := fun other => by
    unfold Site.deleteSession
    dsimp only
    split
    · exact .inr rfl
    · exact h.sessions other

/-- What a call does to the site. -/
lemma answerCall (op : SiteCall) (s : ServeState) (h : d.Kept s.site) :
    d.Kept (answerCall P op s).2.site := by
  have attempt {α : Type} (f : Site → Except StoreError α) : d.Kept (s.attempt f).2.site := by
    unfold ServeState.attempt
    split <;> exact h
  cases op with
  | getSession tokenHash clock =>
    change d.Kept (s.getSession tokenHash clock).2.site
    unfold ServeState.getSession
    split
    · exact h
    · split
      · exact h
      · split
        · exact h.deleteSession tokenHash
        · exact h
  | latest | correct => exact h
  | _ => exact attempt _

/-- What a run does to the site. -/
lemma run {α : Type} (p : Serve α) {s : ServeState} (h : d.Kept s.site) :
    d.Kept (p.run (Hostpin.answerCall P) s).2.site :=
  run_keeps (Hostpin.answerCall P) (fun op s h => answerCall op s h) p h

/-- No session comes up. -/
lemma hasSession (h : d.Kept d') {cookie : Option String} {clock : Time}
    (hd' : d'.HasSession P cookie clock) : d.HasSession P cookie clock := by
  obtain ⟨value, session, hcookie, hvalue, hsession, hclock, admin, hadmin, hid⟩ := hd'
  have hadmins : d'.admins = d.admins := by rw [h.eq]
  rcases h.sessions (P.hashToken value) with hsame | hnone
  · exact ⟨value, session, hcookie, hvalue, hsame ▸ hsession, hclock, admin, hadmins ▸ hadmin, hid⟩
  · rw [hnone] at hsession
    cases hsession

end Site.Kept

/-! ## The gate -/

section Gate

variable {P : Platform} {cookie : Option String} {clock : Time} {s : ServeState}

/-- Without a session nobody is the administrator. -/
lemma run_currentAdmin (h : ¬s.site.HasSession P cookie clock) :
    ((currentAdmin P cookie clock).run (answerCall P) s).1 = .error .unauthorized := by
  cases cookie with
  | none => rfl
  | some value =>
    by_cases hvalue : value = ""
    · rw [currentAdmin, if_pos hvalue]
      rfl
    rw [currentAdmin, if_neg hvalue, run_bind, run_call]
    have kept := Site.Kept.answerCall (P := P) (.getSession (P.hashToken value) clock) s (.refl _)
    cases hsession : (answerCall P (.getSession (P.hashToken value) clock) s).1 with
    | error e => rfl
    | ok session =>
      obtain ⟨hstored, hclock⟩ := ServeState.getSession_eq_ok hsession
      generalize (answerCall P (.getSession (P.hashToken value) clock) s).2 = t at kept ⊢
      rw [run_bind, run_call]
      cases hadmin : (answerCall P (.getAdminByID session.adminID) t).1 with
      | error e => rfl
      | ok admin =>
        have hfind := found_eq_ok (ServeState.attempt_eq_ok hadmin)
        rw [kept.eq] at hfind
        refine absurd ⟨value, session, rfl, hvalue, hstored, hclock, admin, ?_, ?_⟩ h
        · exact List.mem_of_find?_eq_some hfind
        · simpa using List.find?_some hfind

/-- A private site lets nobody in without a session. -/
lemma run_publicAccess (hprivate : s.site.settings.isPrivate = true)
    (h : ¬s.site.HasSession P cookie clock) :
    ((publicAccess P cookie clock).run (answerCall P) s).1.toOption = none := by
  rw [publicAccess, run_bind, run_call]
  cases hsettings : (answerCall P .siteSettings s).1 with
  | error e => rfl
  | ok settings =>
    have heq : s.site.settings = settings := Except.ok.inj (ServeState.attempt_eq_ok hsettings)
    have hnext : (answerCall P .siteSettings s).2 = s.next s.site := s.attempt_site _
    have hadmin := run_currentAdmin (P := P) (s := s.next s.site) h
    dsimp only
    rw [run_bind, hnext, hadmin, ← heq, hprivate]
    rfl

/-- The outcome of the second read of the settings. -/
def secondRead (P : Platform) (cookie : Option String) (clock : Time) (s : ServeState) :
    Option StoreError :=
  ((komariAccess P cookie clock).run (answerCall P) s).2.outcomes 0

/-- What a private site answers without a session to a method that is not open to everybody: when
the second read of the settings works the request is refused, otherwise it is served. -/
lemma run_dispatchRPC (hprivate : s.site.settings.isPrivate = true)
    (h : ¬s.site.HasSession P cookie clock) {request : RPCRequest}
    (hjsonrpc : request.jsonrpc = "2.0") (hmethod : request.method ≠ "")
    (hlogin : request.method ∉ loginMethods) :
    ((dispatchRPC P cookie clock request).run (answerCall P) s).1 =
      if secondRead P cookie clock s = none then
        .error request.id 403 "Private site enabled, please login first"
      else
        let t := ((komariAccess P cookie clock).run (answerCall P) s).2
        RPCReturn.response request.id
          ((callRPC P clock request.method request.params false).run (answerCall P)
            (t.next t.site)).1 := by
  have haccess := run_publicAccess hprivate h
  have kept := Site.Kept.run (P := P) (komariAccess P cookie clock) (.refl s.site)
  unfold secondRead
  rw [dispatchRPC, if_neg (by simp [hjsonrpc, hmethod]), run_bind]
  change ((komariAccess P cookie clock).run (answerCall P) s).1.toOption = none at haccess
  generalize (komariAccess P cookie clock).run (answerCall P) s = ran at haccess kept ⊢
  obtain ⟨access, t⟩ := ran
  dsimp only at haccess kept ⊢
  have hsettings : t.site.settings.isPrivate = true := by
    rw [kept.eq]
    exact hprivate
  rw [run_bind, run_call, haccess]
  cases hread : t.outcomes 0 with
  | none =>
    have hanswer : answerCall P .siteSettings t = (.ok t.site.settings, t.next t.site) := by
      rw [answerCall, ServeState.attempt_of_none hread]
    rw [if_pos rfl, hanswer]
    simp [Except.toOption, hsettings, hlogin]
  | some e =>
    have hanswer : answerCall P .siteSettings t = (.error e, t.next t.site) := by
      rw [answerCall, ServeState.attempt_of_some hread]
    rw [hanswer, if_neg (by rintro ⟨⟩)]
    change ((do
      let returned ← callRPC P clock request.method request.params false
      pure (RPCReturn.response request.id returned) : Serve RPCResponse).run (answerCall P)
        (t.next t.site)).1 = _
    rw [run_bind]
    rfl

end Gate

/-! ## What a call returns -/

section Returns

variable {P : Platform} {clock : Time} {s : ServeState}

@[simp] lemma isData_response (id : Param) (returned : RPCReturn) :
    (RPCReturn.response id returned).isData = RPCReturn.isData returned := by
  match returned with
  | .ok _ => rfl
  | .error .methodNotFound => rfl
  | .error (.message _) => rfl

/-- A node that everybody may see is shown. -/
lemma shows_of_ensureVisibleNode {nodeID : String}
    (h : ((ensureVisibleNode nodeID false).run (answerCall P) s).1 = .ok ()) :
    s.site.Shows nodeID := by
  by_cases hid : nodeID = ""
  · rw [ensureVisibleNode, if_pos hid] at h
    cases h
  rw [ensureVisibleNode, if_neg hid, run_bind, run_call] at h
  cases hnode : (answerCall P (.getNode nodeID) s).1 with
  | error e =>
    rw [hnode] at h
    cases h
  | ok node =>
    refine ⟨hid, node, found_eq_ok (ServeState.attempt_eq_ok hnode), ?_⟩
    rw [hnode] at h
    by_contra hhidden
    simp [Bool.eq_true_of_not_eq_false hhidden] at h

/-- The states of the last minute are those of a node that is shown. -/
lemma exists_shows_of_rpcRecent {params : Params} {result : List KomariStatus → RPCResult}
    (h : RPCReturn.isData ((rpcRecent P clock params false result).run (answerCall P) s).1 = true) :
    ∃ id, s.site.Shows id := by
  rw [rpcRecent, run_bind] at h
  cases hchecked : ((ensureVisibleNode (stringParam P params "uuid") false).run (answerCall P) s).1
    with
  | error e =>
    rw [hchecked] at h
    cases h
  | ok checked => exact ⟨_, shows_of_ensureVisibleNode hchecked⟩

/-- The states of some hours are those of a node that is shown. -/
lemma exists_shows_of_rpcLoadRecords {params : Params} {hours : Float} {maxPoints : ℤ}
    (h : RPCReturn.isData
      ((rpcLoadRecords P clock params false hours maxPoints).run (answerCall P) s).1 = true) :
    ∃ id, s.site.Shows id := by
  rw [rpcLoadRecords, run_bind, komariLoadRecords, run_bind] at h
  cases hchecked : ((ensureVisibleNode (stringParam P params "uuid") false).run (answerCall P) s).1
    with
  | error e =>
    rw [hchecked] at h
    cases h
  | ok checked => exact ⟨_, shows_of_ensureVisibleNode hchecked⟩

/-- The settings are no data. -/
lemma isData_rpcPublicSettings :
    RPCReturn.isData (rpcPublicSettings.run (answerCall P) s).1 = false := by
  rw [rpcPublicSettings, run_bind, run_call]
  cases (answerCall P .siteSettings s).1 with
  | error e => rfl
  | ok settings =>
    rw [run_bind]
    rfl

/-- A call returns only what the site offers. -/
lemma offers_of_isData {name : String} {raw : Param}
    (h : RPCReturn.isData ((callRPC P clock name raw false).run (answerCall P) s).1 = true) :
    s.site.Offers name := by
  unfold callRPC at h
  cases hname : RPCMethod.ofName name with
  | none =>
    rw [hname] at h
    cases h
  | some method =>
    rw [hname] at h
    dsimp only at h
    refine ⟨method, hname, ?_, fun hneeds => ?_⟩
    · cases method with
      | getPublicInfo | publicGetPublicSettings =>
        exact absurd h (by rw [callMethod, isData_rpcPublicSettings]; decide)
      | ping | version | methods | getVersion | getMe | publicGetVersion | publicGetMe
      | publicListMetricDefinitions => cases h
      | _ => rfl
    · cases method with
      | getNodeRecentStatus => exact exists_shows_of_rpcRecent h
      | publicGetClientRecentRecords => exact exists_shows_of_rpcRecent h
      | publicGetRecordsByUUID => exact exists_shows_of_rpcLoadRecords h
      | _ => cases hneeds

end Returns

/-! ## What a site offers -/

section Offers

variable {P : Platform} {clock : Time} {d : Site} {nodeID : String}

/-- The state from which on every call of the store works. -/
def working (d : Site) : ServeState := ⟨d, fun _ => none⟩

/-- Every call of the store works. -/
@[simp] lemma attempt_working {α : Type} (answer : Site → Except StoreError α) :
    (working d).attempt answer = (answer d, working d) := rfl

/-- A node that everybody may see passes the check. -/
lemma run_ensureVisibleNode (h : d.Shows nodeID) :
    (ensureVisibleNode nodeID false).run (answerCall P) (working d) = (.ok (), working d) := by
  obtain ⟨hid, node, hnode, hhidden⟩ := h
  rw [ensureVisibleNode, if_neg hid, run_bind, run_call, answerCall, attempt_working, hnode]
  simp [found, hhidden]

/-- The parameters that name a node. -/
def uuidParams (nodeID : String) : Param := .object [("uuid", .text nodeID)]

lemma stringParam_uuid (nodeID : String) :
    stringParam P [("uuid", .text nodeID)] "uuid" = nodeID := rfl

/-- The nodes are returned. -/
lemma isData_rpcNodes (information : Bool) :
    RPCReturn.isData ((rpcNodes P [] false information).run (answerCall P) (working d)).1 =
      true := by
  rw [rpcNodes, run_bind, komariNodes, run_bind, run_call, answerCall, attempt_working]
  dsimp only
  rw [run_bind]
  cases information <;> rfl

/-- The latest states are returned. -/
lemma isData_rpcStatuses :
    RPCReturn.isData ((rpcStatuses P clock [] false).run (answerCall P) (working d)).1 = true := by
  rw [rpcStatuses, run_bind, komariLatest, run_bind, run_call, answerCall, attempt_working]
  dsimp only
  rw [run_bind]
  rfl

/-- The states of the last minute are returned. -/
lemma isData_rpcRecent (h : d.Shows nodeID) {result : List KomariStatus → RPCResult}
    (hresult : ∀ records, (result records).isData = true) :
    RPCReturn.isData ((rpcRecent P clock [("uuid", .text nodeID)] false result).run (answerCall P)
      (working d)).1 = true := by
  rw [rpcRecent, run_bind, stringParam_uuid, run_ensureVisibleNode h]
  exact hresult _

/-- The states of some hours are returned. -/
lemma isData_rpcLoadRecords (h : d.Shows nodeID) (hours : Float) (maxPoints : ℤ) :
    RPCReturn.isData ((rpcLoadRecords P clock [("uuid", .text nodeID)] false hours maxPoints).run
      (answerCall P) (working d)).1 = true := by
  rw [rpcLoadRecords, run_bind, komariLoadRecords, run_bind, stringParam_uuid,
    run_ensureVisibleNode h]
  rfl

/-- The results of probes are returned. -/
lemma isData_rpcProbeRecords {params : Params} (h : stringParam P params "uuid" = "") :
    RPCReturn.isData ((rpcProbeRecords P clock params false).run (answerCall P) (working d)).1 =
      true := by
  rw [rpcProbeRecords, run_bind, h]
  rfl

/-- The tasks are returned. -/
lemma isData_rpcPingTasks :
    RPCReturn.isData ((rpcPingTasks false).run (answerCall P) (working d)).1 = true := by
  rfl

/-- Four hours and five hundred points are the numbers that they are. -/
structure Platform.ConvertsDefaults (P : Platform) : Prop where
  fourHours : P.toInt64 (4 * 3600000000000) = 14400000000000
  points : P.toInt64 500 = 500

/-- The parameters of a query for a metric that names no node. -/
def queryParams : Params := [("metric_key", .text "cpu"), ("entity_ids", .array [.text ""])]

/-- A query without a window asks for the last four hours. -/
lemma rpcWindow_queryParams (hP : P.ConvertsDefaults) :
    rpcWindow P queryParams clock = .ok (clock - 14400000000000, clock) := by
  have hhours : (if (4 : Float) ≤ 0 then 4 else 4 : Float) = 4 := ite_self _
  have hend : rpcTimeParam P queryParams ["end", "end_time"] = none := rfl
  have hstart : rpcTimeParam P queryParams ["start", "start_time"] = none := rfl
  have hnumber : numberParam P queryParams "hours" 4 = 4 := rfl
  have hbefore : hoursBefore P clock 4 = clock - 14400000000000 := by
    rw [hoursBefore, hP.fourHours]
  unfold rpcWindow
  simp only [hend, hstart, hnumber, hhours, Option.getD_none, hbefore]
  rw [if_pos]
  exact sub_lt_self clock (by decide)

/-- The series are returned. -/
lemma isData_rpcQueryMetrics (hP : P.ConvertsDefaults) :
    RPCReturn.isData ((callMethod P clock .publicQueryMetrics queryParams false).run (answerCall P)
      (working d)).1 = true := by
  have hquery : seriesQuery P queryParams clock ["cpu"] =
      .ok ⟨["cpu"], clock - 14400000000000, clock, 500, false⟩ := by
    have hnumber : numberParam P queryParams "max_points" 500 = 500 := rfl
    rw [seriesQuery, rpcWindow_queryParams hP]
    simp only [hnumber, hP.points]
    rfl
  have hmetrics : namedMetrics P queryParams = ["cpu"] := rfl
  have hnodes : namedNodes P queryParams (stringParam P queryParams "entity_id") = [""] := rfl
  have hknown : unknownMetric ["cpu"] = none := by decide
  rw [callMethod, run_bind, rpcQueryMetrics]
  simp only [hmetrics, hknown, hnodes]
  rw [if_neg (List.cons_ne_nil _ _), run_bind]
  simp only [queriedNodes]
  rw [if_pos (List.cons_ne_nil _ _)]
  simp only [run_pure, hquery]
  rw [run_bind]
  rfl

/-- The statistics are returned. -/
lemma isData_rpcPingStats (hP : P.ConvertsDefaults) :
    RPCReturn.isData ((callMethod P clock .publicGetPingMetricStats queryParams false).run
      (answerCall P) (working d)).1 = true := by
  have hnodes : pingStatsNodes P queryParams = [""] := rfl
  rw [callMethod, run_bind, rpcPingStats, rpcWindow_queryParams hP]
  dsimp only
  rw [run_bind, hnodes]
  rfl

/-- What a site offers is returned by some call. -/
lemma exists_isData_of_offers (hP : P.ConvertsDefaults) {name : String} (h : d.Offers name) :
    ∃ raw, RPCReturn.isData ((callRPC P clock name raw false).run (answerCall P) (working d)).1 =
      true := by
  obtain ⟨method, hname, hreturns, hneeds⟩ := h
  have hcall (raw : Param) : callRPC P clock name raw false =
      callMethod P clock method (rpcParams method raw) false := by
    rw [callRPC, hname]
  simp only [hcall]
  cases method with
  | getNodes => exact ⟨.null, isData_rpcNodes false⟩
  | publicGetNodesInformation => exact ⟨.null, isData_rpcNodes true⟩
  | getNodesLatestStatus | publicGetNodesLatestStatus => exact ⟨.null, isData_rpcStatuses⟩
  | getNodeRecentStatus | publicGetClientRecentRecords =>
    obtain ⟨id, hid⟩ := hneeds rfl
    exact ⟨uuidParams id, isData_rpcRecent hid fun _ => rfl⟩
  | publicGetRecordsByUUID =>
    obtain ⟨id, hid⟩ := hneeds rfl
    exact ⟨uuidParams id, isData_rpcLoadRecords hid 4 4000⟩
  | getRecords => exact ⟨.object [("type", .text "ping")], isData_rpcProbeRecords rfl⟩
  | publicGetPingRecords => exact ⟨.null, isData_rpcProbeRecords rfl⟩
  | publicGetPublicPingTasks => exact ⟨.null, isData_rpcPingTasks⟩
  | publicQueryMetrics => exact ⟨.object queryParams, isData_rpcQueryMetrics hP⟩
  | publicGetPingMetricStats => exact ⟨.object queryParams, isData_rpcPingStats hP⟩
  | _ => cases hreturns

end Offers

/-! ## Requests -/

section Requests

variable {P : Platform} {cookie : Option String} {clock : Time} {d : Site} {s : ServeState}

/-- What a site offers is not open to everybody when it is private. -/
lemma notMem_loginMethods {name : String} (h : d.Offers name) : name ∉ loginMethods := by
  obtain ⟨method, hname, hreturns, -⟩ := h
  intro hlogin
  have hnone : ∀ login ∈ loginMethods, ∀ m, RPCMethod.ofName login = some m →
      m.returnsData = false := by
    decide
  rw [hnone name hlogin method hname] at hreturns
  cases hreturns

/-- What a site offers does not depend on its sessions. -/
lemma Site.Kept.offers {d' : Site} (h : d.Kept d') {name : String} (hoffers : d'.Offers name) :
    d.Offers name := by
  rw [h.eq] at hoffers
  exact hoffers

/-- An answer with data without a session is what a call returns that is not authenticated. -/
lemma exists_isData_callRPC (hprivate : s.site.settings.isPrivate = true)
    (h : ¬s.site.HasSession P cookie clock) {request : RPCRequest}
    (hdata : ((dispatchRPC P cookie clock request).run (answerCall P) s).1.isData = true) :
    ∃ t, s.site.Kept t.site ∧ RPCReturn.isData
      ((callRPC P clock request.method request.params false).run (answerCall P) t).1 = true := by
  have haccess := run_publicAccess hprivate h
  have kept := Site.Kept.run (P := P) (komariAccess P cookie clock) (.refl s.site)
  change ((komariAccess P cookie clock).run (answerCall P) s).1.toOption = none at haccess
  rw [dispatchRPC] at hdata
  split at hdata
  · cases hdata
  · rw [run_bind, run_bind, run_call, haccess] at hdata
    have kept' := Site.Kept.answerCall (P := P) .siteSettings _ kept
    generalize answerCall P .siteSettings _ = answered at hdata kept'
    dsimp only at hdata
    split at hdata
    · cases hdata
    · rw [run_bind, run_pure, isData_response] at hdata
      exact ⟨_, kept', hdata⟩

/-- An answer with data without a session: the site offers the method, and the second read of the
settings has failed. -/
lemma offers_of_isData_dispatchRPC (hprivate : s.site.settings.isPrivate = true)
    (h : ¬s.site.HasSession P cookie clock) {request : RPCRequest}
    (hdata : ((dispatchRPC P cookie clock request).run (answerCall P) s).1.isData = true) :
    s.site.Offers request.method ∧ secondRead P cookie clock s ≠ none := by
  obtain ⟨t, kept, hreturned⟩ := exists_isData_callRPC hprivate h hdata
  have hoffers := kept.offers (offers_of_isData hreturned)
  refine ⟨hoffers, fun hread => ?_⟩
  by_cases hinvalid : request.jsonrpc ≠ "2.0" ∨ request.method = ""
  · rw [dispatchRPC, if_pos hinvalid] at hdata
    cases hdata
  · rw [not_or, not_ne_iff] at hinvalid
    rw [run_dispatchRPC hprivate h hinvalid.1 hinvalid.2 (notMem_loginMethods hoffers),
      if_pos hread] at hdata
    cases hdata

/-- The outcomes with which the second read of the settings ends as it is told, after the first one
has failed. -/
def firstReadFails (read : Option StoreError) : ℕ → Option StoreError
  | 0 => some (.failure "")
  | 1 => read
  | _ => none

/-- Without the second read a call is served that nobody has authenticated. -/
lemma run_dispatchRPC_firstReadFails (hprivate : d.settings.isPrivate = true)
    (h : ¬d.HasSession P cookie clock) {name : String} (hoffers : d.Offers name) (raw : Param)
    (e : StoreError) :
    secondRead P cookie clock ⟨d, firstReadFails (some e)⟩ = some e ∧
      ((dispatchRPC P cookie clock { method := name, params := raw }).run (answerCall P)
        ⟨d, firstReadFails (some e)⟩).1.isData =
        RPCReturn.isData ((callRPC P clock name raw false).run (answerCall P) (working d)).1 := by
  have hread : secondRead P cookie clock ⟨d, firstReadFails (some e)⟩ = some e := rfl
  have hname : name ≠ "" := by
    rintro rfl
    obtain ⟨method, hnone, -⟩ := hoffers
    cases hnone
  refine ⟨hread, ?_⟩
  rw [run_dispatchRPC (s := ⟨d, firstReadFails (some e)⟩) hprivate h rfl hname
    (notMem_loginMethods hoffers), hread, if_neg nofun, isData_response]
  rfl

/-- Along some requests the second read works wherever the site offers the method. -/
def SecondReadsWork (P : Platform) (cookie : Option String) :
    List (Time × RPCRequest) → ServeState → Prop
  | [], _ => True
  | (clock, request) :: requests, s =>
    (s.site.Offers request.method → secondRead P cookie clock s = none) ∧
      SecondReadsWork P cookie requests
        ((dispatchRPC P cookie clock request).run (answerCall P) s).2

/-- Requests along which the second reads work get no data. -/
lemma isData_dispatchAll {requests : List (Time × RPCRequest)}
    (hprivate : s.site.settings.isPrivate = true)
    (h : ∀ request ∈ requests, ¬s.site.HasSession P cookie request.1)
    (hreads : SecondReadsWork P cookie requests s) :
    ∀ response ∈ ((dispatchAll P cookie requests).run (answerCall P) s).1,
      response.isData = false := by
  induction requests generalizing s with
  | nil => exact fun _ hresponse => absurd hresponse List.not_mem_nil
  | cons request requests ih =>
    obtain ⟨hread, hreads⟩ := hreads
    have kept := Site.Kept.run (P := P) (dispatchRPC P cookie request.1 request.2) (.refl s.site)
    intro response hresponse
    change response ∈ ((dispatchRPC P cookie request.1 request.2 >>= fun answer =>
      dispatchAll P cookie requests >>= fun answers => pure (answer :: answers)).run
        (answerCall P) s).1 at hresponse
    rw [run_bind, run_bind, run_pure] at hresponse
    rcases List.mem_cons.mp hresponse with rfl | hresponse
    · refine Bool.eq_false_of_not_eq_true fun hdata => ?_
      obtain ⟨hoffers, hfailed⟩ :=
        offers_of_isData_dispatchRPC hprivate (h _ List.mem_cons_self) hdata
      exact hfailed (hread hoffers)
    · refine ih (by rw [kept.eq]; exact hprivate) (fun other hother hsession => ?_) hreads response
        hresponse
      exact h other (List.mem_cons_of_mem _ hother) (kept.hasSession hsession)

/-- The requests that a client sends. -/
def RPCBody.requests : RPCBody → List (Time × RPCRequest)
  | .malformed | .invalid => []
  | .single clock request => [(clock, request)]
  | .batch requests => requests
  | .webSocket messages => messages.filterMap id

/-- What a client sends gets no data when the second reads work. -/
lemma isData_handleRPC2 {body : RPCBody} (hprivate : s.site.settings.isPrivate = true)
    (h : ∀ request ∈ body.requests, ¬s.site.HasSession P cookie request.1)
    (hreads : SecondReadsWork P cookie body.requests s) :
    ∀ response ∈ ((handleRPC2 P cookie body).run (answerCall P) s).1, response.isData = false := by
  cases body with
  | malformed | invalid =>
    intro response hresponse
    rw [List.mem_singleton.mp hresponse]
    rfl
  | single clock request => exact isData_dispatchAll hprivate h hreads
  | batch requests =>
    cases requests with
    | nil =>
      intro response hresponse
      rw [List.mem_singleton.mp hresponse]
      rfl
    | cons request requests => exact isData_dispatchAll hprivate h hreads
  | webSocket messages => exact isData_dispatchAll hprivate h hreads

end Requests

/-- A private site and requests without a session.  For each outcome of the second read of the
settings: no request of a method gets data, whatever becomes of the other calls of the store, if and
only if the second read works or the site offers nothing for the method.  And nothing that a client
sends, one by one, in a batch or over a WebSocket, gets data when the second reads work. -/
theorem privateSite_failsClosed (P : Platform) (hP : P.ConvertsDefaults) {d : Site}
    (hprivate : d.settings.isPrivate = true) (cookie : Option String) :
    (∀ clock, ¬d.HasSession P cookie clock → ∀ (method : String) (read : Option StoreError),
      (∀ (request : RPCRequest) (outcomes : ℕ → Option StoreError), request.method = method →
        secondRead P cookie clock ⟨d, outcomes⟩ = read →
        ((dispatchRPC P cookie clock request).run (answerCall P) ⟨d, outcomes⟩).1.isData = false) ↔
      read = none ∨ ¬d.Offers method) ∧
    ∀ (body : RPCBody) (outcomes : ℕ → Option StoreError),
      (∀ request ∈ body.requests, ¬d.HasSession P cookie request.1) →
      SecondReadsWork P cookie body.requests ⟨d, outcomes⟩ →
      ∀ response ∈ ((handleRPC2 P cookie body).run (answerCall P) ⟨d, outcomes⟩).1,
        response.isData = false := by
  refine ⟨fun clock hsession method read => ⟨fun hclosed => ?_, ?_⟩, ?_⟩
  · by_contra hopen
    rw [not_or, not_not] at hopen
    obtain ⟨hread, hoffers⟩ := hopen
    obtain ⟨e, rfl⟩ := Option.ne_none_iff_exists'.mp hread
    obtain ⟨raw, hdata⟩ :=
      (exists_isData_of_offers hP hoffers : ∃ raw, RPCReturn.isData
        ((callRPC P clock method raw false).run (answerCall P) (working d)).1 = true)
    obtain ⟨hsecond, hserved⟩ :=
      run_dispatchRPC_firstReadFails hprivate hsession hoffers raw e
    have hnone := hclosed { method := method, params := raw } _ rfl hsecond
    rw [hserved, hdata] at hnone
    cases hnone
  · rintro hcondition request outcomes rfl hread
    refine Bool.eq_false_of_not_eq_true fun hdata => ?_
    obtain ⟨hoffers, hfailed⟩ := offers_of_isData_dispatchRPC hprivate hsession hdata
    rcases hcondition with hnone | hnot
    · exact hfailed (hread.trans hnone)
    · exact hnot hoffers
  · exact fun body outcomes h hreads => isData_handleRPC2 hprivate h hreads

/-! ## A read that fails -/

/-- Functions that are enough for the examples. -/
def examplePlatform : Platform where
  hashToken := id
  textLE := fun a b => a ≤ b
  toInt64 := fun x => if x < 0 then -((-x).toUInt64.toNat : ℤ) else x.toUInt64.toNat
  sprint := fun _ => ""
  parseFloat := fun _ => (0, false)
  parseInt := fun _ => (0, false)
  parseTime := fun _ => none
  komariRegion := fun region _ => region
  version := "dev"
  commit := "none"
  offlineAfter := 90 * second

/-- The one node of the example. -/
def exampleNodes : NodeTable :=
  (KeyedTable.empty : NodeTable).upsert { id := "n1", role := .monitor }

lemma id_pos_of_mem_empty :
    ∀ task ∈ (KeyedTable.empty : KeyedTable ProbeTask.id), 0 < task.id := by simp

/-- No tasks. -/
def exampleTasks : CarrierTaskTable where
  id_pos := id_pos_of_mem_empty

/-- A private site with one node. -/
def examplePrivateSite : Site where
  settings := { isPrivate := true }
  nodes := exampleNodes
  tasks := exampleTasks
  metrics := MetricStore.empty

/-- The second call of the store fails. -/
def secondCallFails : ℕ → Option StoreError
  | 1 => some (.failure "database is locked")
  | _ => none

/-- A request for the nodes. -/
def nodesBody : RPCBody := .single 0 { method := "common:getNodes" }

theorem privateSite_failsClosed_oneNode :
    (examplePlatform.ConvertsDefaults ∧ examplePrivateSite.settings.isPrivate = true) ∧
      ∀ response ∈ ((handleRPC2 examplePlatform none nodesBody).run (answerCall examplePlatform)
        (working examplePrivateSite)).1, response.isData = false := by
  have hP : examplePlatform.ConvertsDefaults := ⟨by decide +kernel, by decide +kernel⟩
  have hsession (clock : Time) : ¬examplePrivateSite.HasSession examplePlatform none clock := by
    rintro ⟨value, session, hcookie, -⟩
    cases hcookie
  refine ⟨⟨hP, rfl⟩, ?_⟩
  exact (privateSite_failsClosed examplePlatform hP (d := examplePrivateSite) rfl none).2
    nodesBody (fun _ => none) (fun request _ => hsession request.1) ⟨fun _ => rfl, trivial⟩

/-- When the second read of the settings fails, a private site lists its nodes to everybody. -/
theorem privateSite_listsNodes :
    examplePrivateSite.settings.isPrivate = true ∧
      ¬examplePrivateSite.HasSession examplePlatform none 0 ∧ "common:getNodes" ∉ loginMethods ∧
      ((dispatchRPC examplePlatform none 0 { method := "common:getNodes" }).run
        (answerCall examplePlatform) ⟨examplePrivateSite, secondCallFails⟩).1.isData = true := by
  refine ⟨rfl, ?_, by decide, rfl⟩
  rintro ⟨value, session, hcookie, -⟩
  cases hcookie

end Hostpin
