import Hostpin.Core.Hub
import Hostpin.Httpapi.Site

/-!
# The public endpoints

The endpoints below `/api/v1/public` for nodes, histories, probes and live samples.  Without a
session they leave out the nodes that are hidden, the tasks that no visible node runs, and what a
probe returned.
-/

namespace Hostpin

open Clock Procedure

/-! ## Answers -/

/-- A node with its latest sample. -/
structure NodeSnapshot where
  node : PublicNode
  metric : Option MetricSample
deriving DecidableEq

/-- A task with its results. -/
structure PublicProbeSnapshot where
  task : ProbeTask
  results : List ProbeResult
deriving DecidableEq

/-- The answer of a public endpoint. -/
inductive PublicResponse where
  | error (e : ApiError)
  | nodes (data : List NodeSnapshot)
  | node (data : NodeSnapshot)
  | history (data : List MetricSample)
  | probes (data : List ProbeTask)
  | probeHistory (data : List PublicProbeSnapshot)
  | live (sentAt : Time) (samples : List (String × MetricSample)) (offlineAfterMS : ℤ)
      (updates : List LiveMessage)
deriving DecidableEq

/-- The answer of a private site. -/
def privateSite : ApiError := ⟨401, "private_site", "this site is private"⟩

/-- The answer when there is no such node. -/
def nodeNotFound : ApiError := ⟨404, "node_not_found", "node was not found"⟩

/-- The answer when a call of the store fails. -/
def storeFailed (message : String) : ApiError := ⟨500, "store_error", message⟩

/-- A number of hours before an instant. -/
def hoursBefore (P : Platform) (t : Time) (hours : Float) : Time :=
  t - P.toInt64 (hours * 3600000000000)

/-- A sample is recent enough for its node to be online. -/
def isOnline (P : Platform) (clock : Time) (sample : MetricSample) : Bool :=
  sub clock sample.receivedAt ≤ P.offlineAfter

section Handlers

variable (P : Platform) (cookie : Option String) (clock : Time)

/-! ## Nodes -/

/-- A node with its latest sample. -/
def nodeSnapshot (node : NodeRow) (sample : Option MetricSample) : NodeSnapshot where
  node := { node.toPublic with online := sample.any (isOnline P clock) }
  metric := sample

/-- The list of nodes. -/
def handlePublicNodes : Serve PublicResponse := do
  match ← publicAccess P cookie clock with
  | .error .unauthorized => return .error privateSite
  | .error _ => return .error (storeFailed "could not read site settings")
  | .ok authenticated =>
    match ← call (.listNodes authenticated) with
    | .error _ => return .error (storeFailed "could not list nodes")
    | .ok nodes =>
      let snapshots ← each (fun node => do
        return nodeSnapshot P clock node (← call (.latest node.id)))
        (nodes.filter fun node => !(node.hidden && !authenticated))
      return .nodes snapshots

/-- A monitor that a request may see.  When the store fails the node is the zero node, which is no
monitor. -/
def publicMonitor (authenticated : Bool) (id : String) : Serve (Option NodeRow) := do
  match ← call (.getNode id) with
  | .error _ => return none
  | .ok node =>
    if node.role ≠ .monitor ∨ node.hidden && !authenticated then return none
    else return some node

/-- One node. -/
def handlePublicNode (id : String) : Serve PublicResponse := do
  match ← publicAccess P cookie clock with
  | .error _ => return .error privateSite
  | .ok authenticated =>
    match ← publicMonitor authenticated id with
    | none => return .error nodeNotFound
    | some node => return .node (nodeSnapshot P clock node (← call (.latest node.id)))

/-! ## Histories -/

/-- The history of a node.  Hours and points come as texts. -/
def handlePublicHistory (nodeID hoursText pointsText : String) : Serve PublicResponse := do
  match ← publicAccess P cookie clock with
  | .error _ => return .error privateSite
  | .ok authenticated =>
    if nodeID = "" then return .error ⟨400, "node_required", "node_id is required"⟩
    else
      match ← publicMonitor authenticated nodeID with
      | none => return .error nodeNotFound
      | some node =>
        let hours := (P.parseFloat hoursText).1
        let hours := if hours ≤ 0 then 1 else hours
        let hours := if 24 * 365 < hours then 24 * 365 else hours
        let points := (P.parseInt pointsText).1
        let maxPoints := if points ≤ 0 ∨ 2000 < points then 500 else points
        let query : HistoryQuery := ⟨nodeID, hoursBefore P clock hours, clock, maxPoints⟩
        match ← call (.history query clock) with
        | .error _ => return .error (storeFailed "could not query history")
        | .ok samples =>
          let corrected ← each (fun sample => call (.correct node.id sample clock)) samples
          return .history corrected

/-! ## Probes -/

/-- The nodes that a request may see. -/
def visibleNodeSet (authenticated : Bool) : Serve (Except StoreError (List String)) := do
  match ← call (.listNodes authenticated) with
  | .error e => return .error e
  | .ok nodes =>
    return .ok ((nodes.filter fun node => authenticated || !node.hidden).map (·.id))

/-- A task with the nodes that are allowed; a task for no such node is left out. -/
def ProbeTask.restricted (allowed : List String) (task : ProbeTask) : Option ProbeTask :=
  if task.nodeIDs = [] then if allowed = [] then none else some task
  else
    let visibleIDs := task.nodeIDs.filter (· ∈ allowed)
    if visibleIDs = [] then none else some { task with nodeIDs := visibleIDs }

/-- The tasks that a request may see. -/
def filterVisibleProbeTasks (tasks : List ProbeTask) (authenticated : Bool) :
    Serve (Except StoreError (List ProbeTask)) := do
  if authenticated then return .ok tasks
  else
    match ← visibleNodeSet false with
    | .error e => return .error e
    | .ok allowed => return .ok (tasks.filterMap (·.restricted allowed))

/-- The tasks with a purpose. -/
def probeTasksByPurpose (tasks : List ProbeTask) (purpose : ProbePurpose) : List ProbeTask :=
  tasks.filter (·.purpose = purpose)

/-- The last task of each carrier. -/
def carrierProbeTasks (tasks : List ProbeTask) : List ProbeTask :=
  [ProbePurpose.carrierTelecom, .carrierUnicom, .carrierMobile].filterMap fun purpose =>
    (probeTasksByPurpose tasks purpose).getLast?

/-- Thin out results.  No position is out of range. -/
def downsampleProbeResults (input : List ProbeResult) (maxPoints : ℤ) : List ProbeResult :=
  (downsampleBy floatIndex ProbeResult.receivedAt input maxPoints).getD []

/-- A task without what it asks for and where. -/
def ProbeTask.redacted (task : ProbeTask) : ProbeTask :=
  { task with target := "", expectedValue := "", nodeIDs := [] }

/-- A result without what the probe returned. -/
def ProbeResult.redacted (result : ProbeResult) : ProbeResult :=
  { result with
    value := ""
    error := if result.error = "" then "" else "probe failed" }

/-- The tasks of a purpose that a request names, and whether it names the carriers. -/
def tasksOfPurpose (purpose : String) (tasks : List ProbeTask) : Option (List ProbeTask) :=
  if purpose = "" ∨ purpose = "custom" then some (probeTasksByPurpose tasks .custom)
  else if purpose = "carrier" then some (carrierProbeTasks tasks)
  else none

/-- The results of a task of a node. -/
def publicProbeSnapshot (nodeID : String) (hours : Float) (carrier : Bool) (maxPoints : ℤ)
    (task : ProbeTask) : Serve (Except StoreError PublicProbeSnapshot) := do
  let query : ProbeQuery :=
    ⟨nodeID, task.id, hoursBefore P clock hours, clock, if carrier then 20000 else 240⟩
  match ← call (.probeHistory query) with
  | .error e => return .error e
  | .ok history =>
    let history := history.map ProbeResult.redacted
    return .ok ⟨task, if carrier then downsampleProbeResults history maxPoints else history⟩

/-- The probes of a node with their results. -/
def publicProbeSnapshots (nodeID : String) (tasks : List ProbeTask) (carrier : Bool)
    (hoursText pointsText : String) : Serve PublicResponse := do
  let hours := (P.parseFloat hoursText).1
  let hours := if hours ≤ 0 then 24 else hours
  let hours := if 24 * 90 < hours then 24 * 90 else hours
  let points := (P.parseInt pointsText).1
  let maxPoints := if points ≤ 0 ∨ 2000 < points then 600 else points
  match ← eachOK (publicProbeSnapshot P clock nodeID hours carrier maxPoints) tasks with
  | .error _ => return .error (storeFailed "could not query probe history")
  | .ok snapshots => return .probeHistory snapshots

/-- The probes of a node with their results, or all probes when no node is named. -/
def handlePublicProbes (nodeID purpose hoursText pointsText : String) : Serve PublicResponse := do
  match ← publicAccess P cookie clock with
  | .error _ => return .error privateSite
  | .ok authenticated =>
    let node ← (if nodeID = "" then pure none else publicMonitor authenticated nodeID)
    if nodeID ≠ "" ∧ node.isNone then return .error nodeNotFound
    else
      match ← call (.listProbeTasks nodeID) with
      | .error _ => return .error (storeFailed "could not list probes")
      | .ok tasks =>
        match tasksOfPurpose purpose tasks with
        | none =>
          return .error ⟨400, "invalid_probe_purpose", "purpose must be custom or carrier"⟩
        | some tasks =>
          if nodeID ≠ "" then
            publicProbeSnapshots P clock nodeID (tasks.map ProbeTask.redacted)
              (purpose = "carrier") hoursText pointsText
          else
            match ← filterVisibleProbeTasks tasks authenticated with
            | .error _ => return .error (storeFailed "could not filter probes")
            | .ok tasks => return .probes (tasks.map ProbeTask.redacted)

/-! ## Live samples -/

/-- What happens while a live connection is open: the hub publishes a sample, the connection sends
the oldest message that waits, or it checks again what it may show. -/
inductive FeedEvent where
  | publish (sentAt : Time) (sample : MetricSample)
  | deliver
  | revalidate (clock : Time)
deriving DecidableEq

/-- A message joins the queue; when the queue is full the oldest one leaves it. -/
def offerMessage (queue : List LiveMessage) (message : LiveMessage) : List LiveMessage :=
  if queue.length < feedCapacity then queue ++ [message] else queue.drop 1 ++ [message]

/-- The nodes that a live connection shows. -/
def publicLiveNodeIDs (authenticated : Bool) : Serve (Except StoreError (List String)) :=
  visibleNodeSet authenticated

/-- The messages that a live connection sends. -/
def liveUpdates (authenticated : Bool) (allowed : List String) :
    List FeedEvent → List LiveMessage → Serve (List LiveMessage)
  | [], _ => return []
  | .publish sentAt sample :: events, queue =>
    let message : LiveMessage := ⟨sentAt, sample.nodeID, sample⟩
    liveUpdates authenticated allowed events
      (if sample.nodeID ∈ allowed then offerMessage queue message else queue)
  | .deliver :: events, [] => liveUpdates authenticated allowed events []
  | .deliver :: events, message :: queue => do
    return message :: (← liveUpdates authenticated allowed events queue)
  | .revalidate now :: events, queue => do
    match ← publicAccess P cookie now with
    | .error _ => return []
    | .ok current =>
      if current ≠ authenticated then return []
      else
        match ← publicLiveNodeIDs current with
        | .error _ => return []
        | .ok currentAllowed =>
          if currentAllowed ≠ allowed then return []
          else liveUpdates authenticated allowed events queue

/-- The latest samples of some nodes. -/
def hubSnapshot (allowed : List String) : Serve (List (String × MetricSample)) := do
  let samples ← each (fun id => do
    return (← call (.latest id)).map fun sample => (id, sample)) allowed
  return samples.filterMap id

/-- A live connection: the latest samples, and what the hub publishes from then on. -/
def handlePublicLive (events : List FeedEvent) : Serve PublicResponse := do
  match ← publicAccess P cookie clock with
  | .error _ => return .error privateSite
  | .ok authenticated =>
    match ← publicLiveNodeIDs authenticated with
    | .error _ => return .error (storeFailed "could not list nodes")
    | .ok allowed =>
      let samples ← hubSnapshot allowed
      let updates ← liveUpdates P cookie authenticated allowed events []
      return .live clock samples (P.offlineAfter / 1000000) updates

end Handlers

end Hostpin
