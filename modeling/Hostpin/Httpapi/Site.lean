import Hostpin.Foundation.TwoRuns
import Hostpin.Httpapi.Credentials
import Hostpin.Store.History
import Hostpin.Store.Probes
import Hostpin.Traffic.Correction

/-!
# Requests on the site

A request that reads the site is a procedure of calls of the store, of the hub and of the traffic
tracker (`SiteCall`).  `answerCall` says what the calls answer: whether a call of the store succeeds
is told by a stream of outcomes, one for each call.

A request reads the clock once; the reading is an argument.
-/

namespace Hostpin

open Clock Procedure

/-! ## Surroundings -/

/-- A value of the parameters of a request. -/
inductive Param where
  | null
  | bool (value : Bool)
  | number (value : Float)
  | text (value : String)
  | array (items : List Param)
  | object (members : List (String × Param))

/-- Functions of packages, and values of the program, that a request uses. -/
structure Platform where
  /-- The text under which the token of a session is stored. -/
  hashToken : String → String
  /-- How the database compares texts. -/
  textLE : String → String → Bool
  /-- A binary64 number as a 64-bit integer. -/
  toInt64 : Float → ℤ
  /-- A value as text, when it is not a text itself. -/
  sprint : Param → String
  /-- The number that a text says, and whether it says one. -/
  parseFloat : String → Float × Bool
  /-- The integer that a text says, and whether it says one. -/
  parseInt : String → ℤ × Bool
  /-- The instant that a text in RFC 3339 says. -/
  parseTime : String → Option Time
  /-- The code of a region and a country. -/
  komariRegion : String → String → String
  version : String
  commit : String
  offlineAfter : ℤ

/-! ## The state -/

/-- What a call of the store may answer instead of data. -/
inductive StoreError where
  | notFound
  | unauthorized
  | failure (text : String)
deriving DecidableEq

/-- The text of an error. -/
def StoreError.text : StoreError → String
  | .notFound => "not found"
  | .unauthorized => "unauthorized"
  | .failure text => text

/-- The settings as they are stored. -/
structure StoredSettings extends SiteSettings where
  isPrivate : Bool := false
  theme : String := ""

/-- A session of an administrator. -/
structure Session where
  adminID : String
  expiresAt : Time

/-- What the store, the hub and the tracker hold.  Sessions are known by the hashes of their tokens,
themes and samples by their names and nodes. -/
structure Site where
  settings : StoredSettings := {}
  sessions : String → Option Session := fun _ => none
  admins : List Admin := []
  themes : String → Option (List (String × Param)) := fun _ => none
  nodes : NodeTable := KeyedTable.empty
  tasks : CarrierTaskTable := {}
  metrics : MetricStore := {}
  latest : String → Option MetricSample := fun _ => none
  traffic : TrafficTracker := {}

/-- The site without a session. -/
def Site.deleteSession (d : Site) (tokenHash : String) : Site :=
  { d with sessions := fun hash => if hash = tokenHash then none else d.sessions hash }

/-! ## Calls -/

/-- The calls that a request makes. -/
inductive SiteCall where
  | siteSettings
  | getSession (tokenHash : String) (clock : Time)
  | getAdminByID (id : String)
  | getTheme (short : String)
  | listNodes (includeHidden : Bool)
  | getNode (id : String)
  | listProbeTasks (nodeID : String)
  | probeHistory (query : ProbeQuery)
  | recentMetrics (nodeID : String) (since : Time)
  | history (query : HistoryQuery) (clock : Time)
  | latest (nodeID : String)
  | correct (nodeID : String) (sample : MetricSample) (clock : Time)

/-- What a call answers with. -/
@[reducible] def SiteCall.Answer : SiteCall → Type
  | .siteSettings => Except StoreError StoredSettings
  | .getSession _ _ => Except StoreError Session
  | .getAdminByID _ => Except StoreError Admin
  | .getTheme _ => Except StoreError (List (String × Param))
  | .listNodes _ => Except StoreError (List NodeRow)
  | .getNode _ => Except StoreError NodeRow
  | .listProbeTasks _ => Except StoreError (List ProbeTask)
  | .probeHistory _ => Except StoreError (List ProbeResult)
  | .recentMetrics _ _ => Except StoreError (List MetricSample)
  | .history _ _ => Except StoreError (List MetricSample)
  | .latest _ => Option MetricSample
  | .correct _ _ _ => MetricSample

/-- A procedure of calls. -/
abbrev Serve (α : Type) := Procedure SiteCall SiteCall.Answer α

/-- The site while it serves, with the outcomes of the calls of the store to come. -/
structure ServeState where
  site : Site
  outcomes : ℕ → Option StoreError

/-- The state after a call of the store. -/
def ServeState.next (s : ServeState) (site : Site) : ServeState where
  site := site
  outcomes := fun n => s.outcomes (n + 1)

/-- A call of the store that succeeds or not. -/
def ServeState.attempt {α : Type} (s : ServeState) (answer : Site → Except StoreError α) :
    Except StoreError α × ServeState :=
  match s.outcomes 0 with
  | some e => (.error e, s.next s.site)
  | none => (answer s.site, s.next s.site)

/-- What the store finds, or that there is nothing to find. -/
def found {α : Type} : Option α → Except StoreError α
  | some a => .ok a
  | none => .error .notFound

/-- The session of a token.  A session that has expired is deleted. -/
def ServeState.getSession (s : ServeState) (tokenHash : String) (clock : Time) :
    Except StoreError Session × ServeState :=
  match s.outcomes 0 with
  | some e => (.error e, s.next s.site)
  | none =>
    match s.site.sessions tokenHash with
    | none => (.error .notFound, s.next s.site)
    | some session =>
      if session.expiresAt < clock then
        (.error .notFound, s.next (s.site.deleteSession tokenHash))
      else (.ok session, s.next s.site)

/-- What the calls answer. -/
def answerCall (P : Platform) : Handler SiteCall SiteCall.Answer ServeState
  | .siteSettings, s => s.attempt fun d => .ok d.settings
  | .getSession tokenHash clock, s => s.getSession tokenHash clock
  | .getAdminByID id, s => s.attempt fun d => found (d.admins.find? (·.id = id))
  | .getTheme short, s => s.attempt fun d => found (d.themes short)
  | .listNodes includeHidden, s =>
    s.attempt fun d => .ok (d.nodes.listNodes P.textLE includeHidden)
  | .getNode id, s => s.attempt fun d => found (d.nodes.getNode id)
  | .listProbeTasks nodeID, s => s.attempt fun d => found (d.tasks.listTasks d.nodes nodeID)
  | .probeHistory query, s => s.attempt fun d => .ok (d.metrics.probeHistory query)
  | .recentMetrics nodeID since, s => s.attempt fun d => .ok (d.metrics.recentMetrics nodeID since)
  | .history query clock, s => s.attempt fun d => .ok (d.metrics.historySamples query clock)
  | .latest nodeID, s => (s.site.latest nodeID, s)
  | .correct nodeID sample clock, s => (s.site.traffic.correct nodeID sample clock, s)

/-- Make a call. -/
def call (op : SiteCall) : Serve op.Answer := perform op

section Answers

variable {P : Platform} {s : ServeState}

/-- The run of a call. -/
@[simp] lemma run_call (P : Platform) (op : SiteCall) (s : ServeState) :
    (call op).run (answerCall P) s = answerCall P op s := rfl

/-- A call of the store that fails. -/
lemma ServeState.attempt_of_some {α : Type} {answer : Site → Except StoreError α} {e : StoreError}
    (h : s.outcomes 0 = some e) : s.attempt answer = (.error e, s.next s.site) := by
  rw [ServeState.attempt, h]

/-- A call of the store that works. -/
lemma ServeState.attempt_of_none {α : Type} {answer : Site → Except StoreError α}
    (h : s.outcomes 0 = none) : s.attempt answer = (answer s.site, s.next s.site) := by
  rw [ServeState.attempt, h]

/-- A call of the store that succeeds answers what the site says. -/
lemma ServeState.attempt_eq_ok {α : Type} {answer : Site → Except StoreError α} {a : α}
    (h : (s.attempt answer).1 = .ok a) : answer s.site = .ok a := by
  unfold ServeState.attempt at h
  split at h
  · cases h
  · exact h

/-- A call of the store leaves the site as it is. -/
@[simp] lemma ServeState.attempt_site {α : Type} (s : ServeState)
    (answer : Site → Except StoreError α) : (s.attempt answer).2 = s.next s.site := by
  unfold ServeState.attempt
  split <;> rfl

/-- What is found is there. -/
lemma found_eq_ok {α : Type} {o : Option α} {a : α} (h : found o = .ok a) : o = some a := by
  cases o with
  | none => cases h
  | some b => cases h; rfl

/-- A session that is found has not expired. -/
lemma ServeState.getSession_eq_ok {tokenHash : String} {clock : Time} {session : Session}
    (h : (s.getSession tokenHash clock).1 = .ok session) :
    s.site.sessions tokenHash = some session ∧ clock ≤ session.expiresAt := by
  unfold ServeState.getSession at h
  split at h
  · cases h
  · split at h
    · cases h
    next hsession =>
      split at h
      · cases h
      next hexpires =>
        cases h
        exact ⟨hsession, not_lt.mp hexpires⟩

end Answers

/-! ## Access -/

section Access

variable (P : Platform)

/-- The administrator of a session.  The token of the session comes in a cookie. -/
def currentAdmin (cookie : Option String) (clock : Time) : Serve (Except StoreError Admin) :=
  match cookie with
  | none => return .error .unauthorized
  | some value =>
    if value = "" then return .error .unauthorized
    else do
      match ← call (.getSession (P.hashToken value) clock) with
      | .error _ => return .error .unauthorized
      | .ok session =>
        match ← call (.getAdminByID session.adminID) with
        | .error _ => return .error .unauthorized
        | .ok admin => return .ok admin

/-- Whether a request is one of the administrator; a private site answers no other. -/
def publicAccess (cookie : Option String) (clock : Time) : Serve (Except StoreError Bool) := do
  match ← call .siteSettings with
  | .error e => return .error e
  | .ok settings =>
    let admin ← currentAdmin P cookie clock
    let authenticated := admin.toOption.isSome
    if settings.isPrivate && !authenticated then return .error .unauthorized
    else return .ok authenticated

end Access

end Hostpin
