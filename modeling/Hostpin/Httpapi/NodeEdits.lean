import Hostpin.Foundation.Runs
import Hostpin.Foundation.Text
import Hostpin.Store.Nodes

/-!
# Edits of a node

Three callers write a node back to the store from a copy that they have read before: the
administrator who edits it, the administrator who switches its latency measurements, and the agent
whose address has changed, with the copy that its stream has read up to fifteen seconds earlier.
Each writes all columns (`NodeRow.written`), so that it also writes the columns that it does not
mean to change.

`NodeEdits` runs any number of them on one node, next to what the last completed request of the
administrator has set (`latest`).  An edit is lost when a stale copy is written (`edit_lost`); each
step keeps the node at the values that were set last exactly when the columns that it only carries
over are still the ones that it has read (`latest_step`, `edits_kept`).
-/

namespace Hostpin

open Clock Text Runs

/-! ## The columns of the administrator -/

/-- A location that the administrator has set. -/
structure ManualLocation where
  region : String
  countryCode : String
  latitude : Option Float
  longitude : Option Float
deriving DecidableEq

/-- The columns that the administrator manages, as the database has them.  There is a location only
if it was set manually. -/
@[ext]
structure AdminColumns where
  name : String
  group : String
  tags : List String
  publicRemark : String
  privateRemark : String
  hidden : Bool
  weight : ℤ
  price : Float
  currency : String
  billingCycleDays : ℤ
  expiresAt : Option ℤ
  autoRenewal : Bool
  trafficLimit : ℤ
  trafficLimitType : String
  trafficResetDay : ℤ
  latencyEnabled : Bool
  location : Option ManualLocation
deriving DecidableEq

/-- The columns of a node that the administrator manages. -/
def NodeRow.adminColumns (node : NodeRow) : AdminColumns where
  name := node.name
  group := node.group
  tags := node.tags
  publicRemark := node.publicRemark
  privateRemark := node.privateRemark
  hidden := node.hidden
  weight := node.weight
  price := node.price
  currency := node.currency
  billingCycleDays := node.billingCycleDays
  expiresAt := node.expiresAt.map unixMilli
  autoRenewal := node.autoRenewal
  trafficLimit := node.trafficLimit
  trafficLimitType := node.trafficLimitType
  trafficResetDay := node.trafficResetDay
  latencyEnabled := node.latencyEnabled
  location :=
    if node.locationManual then
      some ⟨node.region, node.countryCode.toUpper, node.latitude, node.longitude⟩
    else none

/-- A node that is monitored.  The callers turn every other node away. -/
abbrev MonitorNode := { node : NodeRow // node.role = .monitor }

/-! ## Requests of the administrator -/

/-- Whether two coordinates are the same. -/
def sameCoordinate : Option Float → Option Float → Bool
  | some left, some right => left == right
  | none, none => true
  | _, _ => false

/-- Tags without blanks and repetitions, in order. -/
def normalizeTags (tags : List String) : List String :=
  (((tags.map trimSpace).filter (· ≠ "")).insertionSort (· ≤ ·)).destutter (· ≠ ·)

/-- An edit of a node with its texts in normal form. -/
def normalizedUpdate (update : NodeRow) : NodeRow :=
  { update with
    name := trimSpace update.name
    group := trimSpace update.group
    region := trimSpace update.region
    countryCode := (trimSpace update.countryCode).toUpper
    currency := (trimSpace update.currency).toUpper
    trafficLimitType := (trimSpace update.trafficLimitType).toLower
    tags := normalizeTags update.tags }

/-- Whether an edit changes the location of the node. -/
def locationChanged (update node : NodeRow) : Bool :=
  update.region ≠ node.region || update.countryCode ≠ node.countryCode ||
    !sameCoordinate update.latitude node.latitude || !sameCoordinate update.longitude node.longitude

/-- The node that an edit is about to write: the columns of the agent and the database stay as they
were read. -/
def editedNode (update : NodeRow) (node : MonitorNode) : MonitorNode :=
  let update := normalizedUpdate update
  ⟨{ update with
      id := node.1.id
      locationManual :=
        if locationChanged update node.1 then
          update.region ≠ "" || update.countryCode ≠ "" || update.latitude.isSome ||
            update.longitude.isSome
        else node.1.locationManual
      role := node.1.role
      latencyEnabled := node.1.latencyEnabled
      hostname := node.1.hostname
      agentVersion := node.1.agentVersion
      os := node.1.os
      arch := node.1.arch
      cpuName := node.1.cpuName
      cpuCores := node.1.cpuCores
      virtualization := node.1.virtualization
      kernelVersion := node.1.kernelVersion
      ipv4 := node.1.ipv4
      ipv6 := node.1.ipv6
      sourceIP := node.1.sourceIP
      createdAt := node.1.createdAt
      lastSeenAt := node.1.lastSeenAt }, node.2⟩

/-- Whether a text consists of two upper case letters. -/
def isCountryCode (code : String) : Bool :=
  match code.toList with
  | [a, b] => 'A' ≤ a && a ≤ 'Z' && 'A' ≤ b && b ≤ 'Z'
  | _ => false

/-- Whether coordinates are missing together, or in range. -/
def coordinatesValid : Option Float → Option Float → Bool
  | none, none => true
  | some latitude, some longitude =>
    !(latitude < -90 || 90 < latitude || longitude < -180 || 180 < longitude)
  | _, _ => false

/-- What is wrong with an edit. -/
def validateNodeUpdate (node : NodeRow) : Option String :=
  if node.name = "" ∨ 128 < node.name.utf8ByteSize then
    some "node name is required and must not exceed 128 characters"
  else if 128 < node.group.utf8ByteSize ∨ 128 < node.region.utf8ByteSize ∨
      4096 < node.publicRemark.utf8ByteSize ∨ 4096 < node.privateRemark.utf8ByteSize then
    some "group, region, or remarks exceed their size limit"
  else if node.countryCode ≠ "" ∧ isCountryCode node.countryCode = false then
    some "country code must contain two ASCII letters"
  else if coordinatesValid node.latitude node.longitude = false then
    some "latitude and longitude must be provided together and be in range"
  else if 64 < node.tags.length then some "a node may have at most 64 tags"
  else if node.tags.any fun tag => 64 < tag.utf8ByteSize then
    some "tags must not exceed 64 characters"
  else if node.price.isNaN || node.price.isInf || node.price < 0 || 1000000000 < node.price then
    some "price must be a finite non-negative value"
  else if node.currency = "" ∨ 8 < node.currency.utf8ByteSize ∨ node.billingCycleDays < 1 ∨
      3650 < node.billingCycleDays then
    some "currency and a billing cycle from 1 to 3650 days are required"
  else if node.trafficLimit < 0 ∨ node.trafficLimitType ∉ ["sum", "max", "up", "down"] ∨
      node.trafficResetDay < 1 ∨ 31 < node.trafficResetDay then
    some "traffic policy must use sum, max, up, or down with a reset day from 1 to 31"
  else if node.weight < -1000000 ∨ 1000000 < node.weight then some "node weight is out of range"
  else none

/-- A request of the administrator: an edit of the node, or of its latency measurements. -/
inductive NodeEdit where
  | update (update : NodeRow)
  | latency (enabled : Bool)

/-- Whether a request is accepted. -/
def NodeEdit.accepted (node : MonitorNode) : NodeEdit → Bool
  | .update edit => (validateNodeUpdate (editedNode edit node).1).isNone
  | .latency _ => true

/-! ## Samples of the agent -/

/-- Where an address is. -/
structure Location where
  countryCode : String
  region : String
  city : String
  latitude : Float
  longitude : Float

/-- What a sample finds: whether it is a checkpoint, who sends it, and what the lookup of the
address gives. -/
structure SampleCalls where
  checkpoint : Bool := false
  identity : AgentIdentity := {}
  sourceIP : String := ""
  geoIPEnabled : Bool := false
  location : Option Location := none

/-- The node that a change of the address is about to write. -/
def refreshAutomaticLocation (node : MonitorNode) (calls : SampleCalls) : Option MonitorNode :=
  if node.1.locationManual || !calls.geoIPEnabled then none
  else
    calls.location.map fun location =>
      ⟨{ node.1 with
          countryCode := location.countryCode
          region := firstNonEmpty [node.1.region, location.region, location.city]
          latitude := some location.latitude
          longitude := some location.longitude }, node.2⟩

/-- The node that a sample is about to write. -/
def acceptSample (node : MonitorNode) (calls : SampleCalls) : Option MonitorNode :=
  if calls.checkpoint ∧ (calls.identity.version ≠ "" ∨ calls.identity.hostname ≠ "") ∧
      calls.sourceIP ≠ "" ∧ calls.sourceIP ≠ node.1.sourceIP then
    refreshAutomaticLocation node calls
  else none

/-! ## The system -/

/-- A request of the administrator that was accepted, with the node that it has read. -/
structure PendingEdit where
  edit : NodeEdit
  node : MonitorNode

/-- A stream of the agent: the node that it has read, when it did so, and the node that it is about
to write. -/
structure NodeStream where
  node : NodeRow
  refreshedAt : Time
  relocation : Option MonitorNode := none

/-- The row of a node, who is working on it, and the values that the completed requests of the
administrator have set last. -/
structure NodeEdits where
  row : NodeRow
  edits : List PendingEdit := []
  streams : List NodeStream := []
  latest : AdminColumns

/-- What can happen.  A call of the store that does not work says so. -/
inductive NodeEvent where
  | read (edit : NodeEdit)
  | finish (i : ℕ) (clock : Time) (works : Bool)
  | openStream (now : Time)
  | closeStream (i : ℕ)
  | sample (i : ℕ) (now : Time) (reloads : Bool) (calls : SampleCalls)
  | relocate (i : ℕ) (clock : Time) (works : Bool)
  | seen (identity : AgentIdentity) (now : Time) (sourceIP : String)

/-- A location is set by an edit that changes it, or that has the manual one again. -/
def setsLocation (update : NodeRow) (node : MonitorNode) : Bool :=
  locationChanged (normalizedUpdate update) node.1 || (editedNode update node).1.locationManual

namespace PendingEdit

/-- The row after a request has completed. -/
def rowAfter (e : PendingEdit) (clock : Time) (row : NodeRow) : NodeRow :=
  match e.edit with
  | .update update => row.written (editedNode update e.node).1 clock
  | .latency enabled =>
    if e.node.1.latencyEnabled ≠ enabled then
      row.written { e.node.1 with latencyEnabled := enabled } clock
    else row

/-- The values that a completed request has set. -/
def latestAfter (e : PendingEdit) (latest : AdminColumns) : AdminColumns :=
  match e.edit with
  | .update update =>
    { (editedNode update e.node).1.adminColumns with
      latencyEnabled := latest.latencyEnabled
      location :=
        if setsLocation update e.node then (editedNode update e.node).1.adminColumns.location
        else latest.location }
  | .latency enabled => { latest with latencyEnabled := enabled }

/-- The columns that a request only carries over are still the ones that it has read. -/
def Carries (e : PendingEdit) (row : NodeRow) : Prop :=
  match e.edit with
  | .update update =>
    row.latencyEnabled = e.node.1.latencyEnabled ∧
      (setsLocation update e.node = false → row.locationManual = e.node.1.locationManual)
  | .latency enabled =>
    if e.node.1.latencyEnabled ≠ enabled then
      { e.node.1.adminColumns with latencyEnabled := row.latencyEnabled } = row.adminColumns
    else row.latencyEnabled = e.node.1.latencyEnabled

end PendingEdit

namespace NodeEdits

/-- A sample arrives on a stream, which reads the node again when that is due. -/
def sample (s : NodeEdits) (stream : NodeStream) (now : Time) (reloads : Bool)
    (calls : SampleCalls) : NodeStream :=
  let due := 15 * second ≤ now - stream.refreshedAt
  let node := if due ∧ reloads then scanNode s.row else stream.node
  { node
    refreshedAt := if due then now else stream.refreshedAt
    relocation :=
      if monitor : node.role = .monitor then acceptSample ⟨node, monitor⟩ calls else none }

/-- The system after an event. -/
def step (s : NodeEdits) : NodeEvent → NodeEdits
  | .read edit =>
    if monitor : (scanNode s.row).role = .monitor then
      if edit.accepted ⟨scanNode s.row, monitor⟩ then
        { s with edits := s.edits ++ [⟨edit, scanNode s.row, monitor⟩] }
      else s
    else s
  | .finish i clock works =>
    match s.edits[i]? with
    | none => s
    | some e =>
      if works then
        { s with
          row := e.rowAfter clock s.row
          edits := s.edits.eraseIdx i
          latest := e.latestAfter s.latest }
      else { s with edits := s.edits.eraseIdx i }
  | .openStream now => { s with streams := s.streams ++ [⟨scanNode s.row, now, none⟩] }
  | .closeStream i => { s with streams := s.streams.eraseIdx i }
  | .sample i now reloads calls =>
    match s.streams[i]? with
    | none => s
    | some stream =>
      if stream.relocation.isNone then
        { s with streams := s.streams.set i (s.sample stream now reloads calls) }
      else s
  | .relocate i clock works =>
    match s.streams[i]? with
    | none => s
    | some stream =>
      match stream.relocation with
      | none => s
      | some node =>
        { s with
          row := if works then s.row.written node.1 clock else s.row
          streams := s.streams.set i { stream with relocation := none } }
  | .seen identity now sourceIP => { s with row := s.row.seenBy identity now sourceIP }

/-- What a step writes without meaning to change it is what the row has. -/
def Carries (s : NodeEdits) : NodeEvent → Prop
  | .finish i _ works => ∀ e ∈ s.edits[i]?, works = true → e.Carries s.row
  | .relocate i _ works =>
    ∀ node ∈ s.streams[i]?.bind NodeStream.relocation, works = true →
      node.1.adminColumns = s.row.adminColumns
  | _ => True

instance (e : PendingEdit) (row : NodeRow) : Decidable (e.Carries row) :=
  match e with
  | ⟨.update _, _⟩ => inferInstanceAs (Decidable (_ ∧ _))
  | ⟨.latency _, _⟩ => inferInstanceAs (Decidable (ite _ _ _))

instance (s : NodeEdits) (event : NodeEvent) : Decidable (s.Carries event) :=
  match event with
  | .finish i _ works =>
    inferInstanceAs (Decidable (∀ e ∈ s.edits[i]?, works = true → e.Carries s.row))
  | .relocate i _ works =>
    inferInstanceAs (Decidable (∀ node ∈ s.streams[i]?.bind NodeStream.relocation, works = true →
      node.1.adminColumns = s.row.adminColumns))
  | .read _ | .openStream _ | .closeStream _ | .sample .. | .seen .. => instDecidableTrue

/-! ## What a write does to the columns -/

lemma toUpper_toUpper (text : String) : text.toUpper.toUpper = text.toUpper := by
  refine String.toList_injective ?_
  simp [String.toUpper, String.toList_map]

/-- A write gives a row the columns of the node that is written. -/
lemma adminColumns_written (row : NodeRow) (node : MonitorNode) (clock : Time) :
    (row.written node.1 clock).adminColumns = node.1.adminColumns := by
  have expiry :
      (node.1.expiresAt.map storedTime).map unixMilli = node.1.expiresAt.map unixMilli := by
    rw [Option.map_map]
    congr 1
    funext t
    simp [storedTime]
  have latency : node.1.canMeasureLatency = node.1.latencyEnabled := by
    simp [Node.canMeasureLatency, node.2, normalizeNodeRole]
  simp [NodeRow.adminColumns, NodeRow.written, expiry, latency, toUpper_toUpper]

lemma adminColumns_seenBy (row : NodeRow) (identity : AgentIdentity) (now : Time)
    (sourceIP : String) : (row.seenBy identity now sourceIP).adminColumns = row.adminColumns := rfl

lemma location_eq_none {node : NodeRow} :
    node.adminColumns.location = none ↔ node.locationManual = false := by
  simp [NodeRow.adminColumns]

/-- An edit that does not set the location has read an automatic one, which it keeps. -/
lemma locationManual_of_not_setsLocation {update : NodeRow} {node : MonitorNode}
    (h : setsLocation update node = false) :
    (editedNode update node).1.locationManual = false ∧ node.1.locationManual = false := by
  obtain ⟨unchanged, automatic⟩ := Bool.or_eq_false_iff.mp h
  refine ⟨automatic, ?_⟩
  simpa [editedNode, unchanged] using automatic

/-- A completed request leaves the values that were set last exactly when the columns that it
carries over are the ones that it has read. -/
lemma rowAfter_iff (e : PendingEdit) (clock : Time) (row : NodeRow) :
    (e.rowAfter clock row).adminColumns = e.latestAfter row.adminColumns ↔ e.Carries row := by
  obtain ⟨edit, node⟩ := e
  cases edit with
  | update update =>
    simp only [PendingEdit.rowAfter, PendingEdit.latestAfter, PendingEdit.Carries,
      adminColumns_written]
    have latency : (editedNode update node).1.adminColumns.latencyEnabled = node.1.latencyEnabled :=
      rfl
    rw [AdminColumns.ext_iff]
    simp only [latency, true_and]
    refine and_congr eq_comm ?_
    cases sets : setsLocation update node with
    | true => simp
    | false =>
      obtain ⟨automatic, read⟩ := locationManual_of_not_setsLocation sets
      simp only [location_eq_none.mpr automatic, read, Bool.false_eq_true, if_false, forall_const]
      rw [eq_comm, location_eq_none]
  | latency enabled =>
    simp only [PendingEdit.rowAfter, PendingEdit.latestAfter, PendingEdit.Carries]
    split
    next changes =>
      have written := adminColumns_written row
        ⟨{ node.1 with latencyEnabled := enabled }, node.2⟩ clock
      have own : row.adminColumns.latencyEnabled = row.latencyEnabled := rfl
      rw [written, show ({ node.1 with latencyEnabled := enabled } : NodeRow).adminColumns =
        { node.1.adminColumns with latencyEnabled := enabled } from rfl]
      simp [AdminColumns.ext_iff, own]
    next same =>
      rw [not_not.mp same]
      simp [AdminColumns.ext_iff, NodeRow.adminColumns]

/-! ## Steps and runs -/

variable {s : NodeEdits}

/-- When the row has the values that were set last, it has them after a step exactly when the
columns that the step only carries over are the ones that were read. -/
theorem latest_step (h : s.row.adminColumns = s.latest) (event : NodeEvent) :
    (s.step event).row.adminColumns = (s.step event).latest ↔ s.Carries event := by
  cases event with
  | read edit =>
    simp only [step, Carries, iff_true]
    split
    · split <;> exact h
    · exact h
  | finish i clock works =>
    simp only [step, Carries]
    cases found : s.edits[i]? with
    | none => simpa using h
    | some e =>
      cases works with
      | false => simpa using h
      | true => simpa [← h] using rowAfter_iff e clock s.row
  | openStream now => simpa [step, Carries] using h
  | closeStream i => simpa [step, Carries] using h
  | sample i now reloads calls =>
    simp only [step, Carries, iff_true]
    split
    · exact h
    · split <;> exact h
  | relocate i clock works =>
    simp only [step, Carries]
    cases found : s.streams[i]? with
    | none => simpa using h
    | some stream =>
      simp only [Option.bind_some]
      cases stream.relocation with
      | none => simpa using h
      | some node =>
        cases works with
        | false => simpa using h
        | true => simp [← h, adminColumns_written, -Subtype.forall]
  | seen identity now sourceIP => simpa [step, Carries, adminColumns_seenBy] using h

/-- In every run along which each write finds the columns that it only carries over as it has read
them, every column that the administrator manages has the value that the last completed request has
set. -/
theorem edits_kept (start : NodeEdits) (initial : start.row.adminColumns = start.latest)
    (events : List NodeEvent) (carries : Along step Carries start events) :
    (run step start events).row.adminColumns = (run step start events).latest :=
  run_keeps_along (I := fun s : NodeEdits => s.row.adminColumns = s.latest)
    (fun _ event h carries => (latest_step h event).mpr carries) initial carries

/-- A node that nobody works on. -/
def idle (row : NodeRow) : NodeEdits := { row, latest := row.adminColumns }

/-- A monitored node. -/
def someNode : NodeRow :=
  { id := "node", name := "old", currency := "$", billingCycleDays := 30,
    trafficLimitType := "sum", trafficResetDay := 1 }

/-- The node gets a name while a stream has it with the old one, and then the address changes. -/
def renamedMeanwhile : List NodeEvent :=
  [.openStream 0, .read (.update { someNode with name := "new" }), .finish 0 (5 * second) true,
    .sample 0 (10 * second) true
      { checkpoint := true, identity := { version := "1" }, sourceIP := "192.0.2.7",
        geoIPEnabled := true, location := some ⟨"DE", "", "Berlin", 52.5, 13.4⟩ },
    .relocate 0 (10 * second) true]

/-- The copy of a stream can undo an edit of the administrator. -/
theorem edit_lost :
    ¬ ∀ (row : NodeRow) (events : List NodeEvent),
      (run step (idle row) events).row.adminColumns = (run step (idle row) events).latest := by
  intro h
  have name := congrArg AdminColumns.name (h someNode renamedMeanwhile)
  revert name
  decide +kernel

/-- The node gets a name, and then the address changes, after the stream has read the node again. -/
def renamedBefore : List NodeEvent :=
  [.openStream 0, .read (.update { someNode with name := "new" }), .finish 0 (5 * second) true,
    .sample 0 (20 * second) true
      { checkpoint := true, identity := { version := "1" }, sourceIP := "192.0.2.7",
        geoIPEnabled := true, location := some ⟨"DE", "", "Berlin", 52.5, 13.4⟩ },
    .relocate 0 (20 * second) true]

theorem edits_kept_renamedBefore :
    (run step (idle someNode) renamedBefore).row.adminColumns =
      (run step (idle someNode) renamedBefore).latest :=
  edits_kept (idle someNode) rfl renamedBefore (by decide +kernel)

end NodeEdits

end Hostpin
