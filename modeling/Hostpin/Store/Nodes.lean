import Hostpin.Agent.Wire
import Hostpin.Agent.Stream
import Hostpin.Store.Metrics

/-!
# Nodes in the store

A node as the store keeps it, with the columns that only the administrator and the agent see, and
the statements that read and update it.  Times are kept in milliseconds (`storedTime`).
-/

namespace Hostpin

open Clock

/-- A node with all its columns. -/
structure NodeRow extends Node where
  hostname : String := ""
  locationManual : Bool := false
  privateRemark : String := ""
  agentVersion : String := ""
  ipv4 : String := ""
  ipv6 : String := ""
  sourceIP : String := ""
deriving DecidableEq, Inhabited

/-- The primary key of a node. -/
def NodeRow.key (n : NodeRow) : String := n.id

/-- The table of nodes. -/
abbrev NodeTable := KeyedTable NodeRow.key

/-- A node as it is read. -/
def scanNode (row : NodeRow) : NodeRow := { row with role := normalizeNodeRole row.role }

/-- The node with an id. -/
def NodeTable.getNode (t : NodeTable) (id : String) : Option NodeRow := (t.lookup id).map scanNode

/-- The order in which nodes are listed: by weight, the greatest first, then by group and name.  How
the database compares texts is an argument. -/
def NodeRow.before (textLE : String → String → Bool) (a b : NodeRow) : Bool :=
  if a.weight = b.weight then
    if a.group = b.group then textLE a.name b.name else textLE a.group b.group
  else b.weight < a.weight

/-- The nodes with a role, hidden ones only on demand. -/
def NodeTable.listNodesByRole (t : NodeTable) (textLE : String → String → Bool) (role : NodeRole)
    (includeHidden : Bool) : List NodeRow :=
  ((t.rows.filter fun n => n.role = role ∧ (includeHidden ∨ ¬n.hidden)).insertionSort
    fun a b => a.before textLE b).map scanNode

/-- The monitors. -/
def NodeTable.listNodes (t : NodeTable) (textLE : String → String → Bool) (includeHidden : Bool) :
    List NodeRow :=
  t.listNodesByRole textLE .monitor includeHidden

/-- The nodes that can measure latency. -/
def NodeTable.listLatencyNodes (t : NodeTable) (textLE : String → String → Bool)
    (includeHidden : Bool) : List NodeRow :=
  ((t.rows.filter fun n => (n.role = .probe ∨ n.latencyEnabled) ∧
    (includeHidden ∨ ¬n.hidden)).insertionSort fun a b => a.before textLE b).map scanNode

/-- The columns of a row that an update writes, with the values of a node.  The role, what the agent
tells about its host and the traffic correction are left alone. -/
def NodeRow.written (row node : NodeRow) (clock : Time) : NodeRow :=
  { row with
    name := node.name
    group := node.group
    region := node.region
    countryCode := node.countryCode.toUpper
    latitude := node.latitude
    longitude := node.longitude
    locationManual := node.locationManual
    tags := node.tags
    publicRemark := node.publicRemark
    privateRemark := node.privateRemark
    hidden := node.hidden
    weight := node.weight
    price := node.price
    currency := node.currency
    billingCycleDays := node.billingCycleDays
    expiresAt := node.expiresAt.map storedTime
    autoRenewal := node.autoRenewal
    trafficLimit := node.trafficLimit
    trafficLimitType := node.trafficLimitType
    trafficResetDay := node.trafficResetDay
    latencyEnabled := node.canMeasureLatency
    updatedAt := storedTime clock }

/-- An update changes one row. -/
def NodeRow.updatedBy (node : NodeRow) (clock : Time) (row : NodeRow) : NodeRow :=
  if row.id = node.id then row.written node clock else row

lemma NodeRow.key_updatedBy (node : NodeRow) (clock : Time) (row : NodeRow) :
    (node.updatedBy clock row).key = row.key := by
  unfold NodeRow.updatedBy
  split <;> rfl

/-- Write a node over the row with its id; without such a row there is nothing to update. -/
def NodeTable.updateNode (t : NodeTable) (node : NodeRow) (clock : Time) : Option NodeTable :=
  (t.lookup node.id).map fun _ => t.updateAll (node.updatedBy clock) (node.key_updatedBy clock)

/-- A row after an agent was seen: what the agent tells about its host, and the times. -/
def NodeRow.seenBy (row : NodeRow) (identity : AgentIdentity) (seenAt : Time) (sourceIP : String) :
    NodeRow :=
  { row with
    hostname := identity.hostname
    agentVersion := identity.version
    os := identity.os
    arch := identity.arch
    cpuName := identity.cpuName
    cpuCores := identity.cpuCores
    virtualization := identity.virtualization
    kernelVersion := identity.kernelVersion
    ipv4 := identity.ipv4
    ipv6 := identity.ipv6
    sourceIP
    lastSeenAt := some (storedTime seenAt)
    updatedAt := storedTime seenAt }

end Hostpin
