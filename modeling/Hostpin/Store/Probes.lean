import Hostpin.Foundation.Sorting
import Hostpin.Store.Nodes

/-!
# Probe tasks and probe results

The tasks as the store lists them, and the selection of their results.  There is one task at most
for each carrier.
-/

namespace Hostpin

open Clock

/-! ## Tasks -/

/-- The purposes of the carrier probes. -/
def ProbePurpose.isCarrier : ProbePurpose → Bool
  | .carrierTelecom | .carrierUnicom | .carrierMobile => true
  | _ => false

/-- The table of tasks, with the constraint that the schema puts on carrier probes. -/
structure CarrierTaskTable extends ProbeTaskTable where
  carrier_unique : ∀ t ∈ table, ∀ u ∈ table, t.purpose.isCarrier = true → t.purpose = u.purpose →
    t = u := by simp

/-- The tasks that are enabled, in the order of their numbers. -/
def ProbeTaskTable.listEnabled (tasks : ProbeTaskTable) : List ProbeTask :=
  (tasks.table.selectOrdered ProbeTask.enabled ProbeTask.id).map scanProbeTask

/-- The enabled tasks of a node, or of all nodes when no node is named.  There are none of a node
that is not known. -/
def ProbeTaskTable.listTasks (tasks : ProbeTaskTable) (nodes : NodeTable) (nodeID : String) :
    Option (List ProbeTask) :=
  if nodeID = "" then some tasks.listEnabled
  else (nodes.getNode nodeID).map fun node => listProbeTasks tasks node.toNode

/-! ## Results -/

/-- A result as it is read. -/
def scanProbeResult (r : ProbeResultRow) : ProbeResult where
  nodeID := r.nodeID
  taskID := r.taskID
  collectedAt := ofUnixMilli r.collectedAt
  receivedAt := ofUnixMilli r.ts
  success := r.success
  latencyMS := r.latencyMS
  lossPercent := r.lossPercent
  statusCode := r.statusCode
  value := r.value
  error := r.error

/-- A query for the results of a node and a task, or of all nodes or tasks. -/
structure ProbeQuery where
  nodeID : String
  taskID : ℤ
  start : Time
  endAt : Time
  limit : ℤ

/-- A result is one of the node and the task inside the window. -/
def ProbeQuery.selects (query : ProbeQuery) (r : ProbeResultRow) : Bool :=
  unixMilli query.start ≤ r.ts ∧ r.ts ≤ unixMilli query.endAt ∧
    (query.nodeID = "" ∨ r.nodeID = query.nodeID) ∧ (query.taskID ≤ 0 ∨ r.taskID = query.taskID)

/-- The number of rows that a query reads. -/
def ProbeQuery.rowLimit (query : ProbeQuery) : ℕ :=
  if query.limit ≤ 0 ∨ 20000 < query.limit then 4000 else query.limit.toNat

/-- The results inside the window, the newest first. -/
def MetricStore.probeWindow (s : MetricStore) (query : ProbeQuery) : List ProbeResultRow :=
  s.probeResults.selectOrdered query.selects fun r => -r.ts

/-- The newest results inside the window, up to the limit, the oldest of them first. -/
def MetricStore.probeHistory (s : MetricStore) (query : ProbeQuery) : List ProbeResult :=
  (((s.probeWindow query).take query.rowLimit).map scanProbeResult).reverse

end Hostpin
