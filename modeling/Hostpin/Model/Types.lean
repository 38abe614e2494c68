import Hostpin.Foundation.Clock

/-!
# The data model

The records that the agent, the server and the store exchange, as `internal/model` declares
them.  Every field has the zero value of its type as default, so that a partial structure
instance is a composite literal with the remaining fields left out.

String-typed enumerations are inductive types.  Where the source accepts any string and treats an
unknown one in a branch of its own, the type has a constructor `other` that carries the string.
Slices are lists; only `AgentAck.tasks` tells the absent slice from the empty one, and it is an
`Option`.
-/

namespace Hostpin

/-! ## Nodes -/

/-- The role a node enrolled with. -/
inductive NodeRole where
  | monitor
  | probe
  | other (name : String) (unknown : name ∉ ["monitor", "probe"] := by decide)
deriving DecidableEq, Inhabited

/-- Every role that is not `probe` counts as `monitor`. -/
def normalizeNodeRole : NodeRole → NodeRole
  | .probe => .probe
  | _ => .monitor

/-- A node, with the fields that the modelled functions read. -/
structure Node where
  id : String := ""
  role : NodeRole := .monitor
  latencyEnabled : Bool := false
  name : String := ""
  group : String := ""
  region : String := ""
  countryCode : String := ""
  latitude : Option Float := none
  longitude : Option Float := none
  tags : List String := []
  publicRemark : String := ""
  hidden : Bool := false
  weight : ℤ := 0
  price : Float := 0
  currency : String := ""
  billingCycleDays : ℤ := 0
  expiresAt : Option Time := none
  autoRenewal : Bool := false
  trafficLimit : ℤ := 0
  trafficLimitType : String := ""
  trafficResetDay : ℤ := 0
  trafficRXCorrection : Int64 := 0
  trafficTXCorrection : Int64 := 0
  trafficCorrectionPeriodStart : Option Time := none
  os : String := ""
  arch : String := ""
  cpuName : String := ""
  cpuCores : ℤ := 0
  virtualization : String := ""
  kernelVersion : String := ""
  createdAt : Time := 0
  updatedAt : Time := 0
  lastSeenAt : Option Time := none
  online : Bool := false
deriving DecidableEq, Inhabited

/-- The part of a node that alert events and public responses carry. -/
structure PublicNode where
  id : String := ""
  role : NodeRole := .monitor
  latencyEnabled : Bool := false
  name : String := ""
  group : String := ""
  region : String := ""
  countryCode : String := ""
  latitude : Option Float := none
  longitude : Option Float := none
  tags : List String := []
  publicRemark : String := ""
  hidden : Bool := false
  weight : ℤ := 0
  price : Float := 0
  currency : String := ""
  billingCycleDays : ℤ := 0
  expiresAt : Option Time := none
  autoRenewal : Bool := false
  trafficLimit : ℤ := 0
  trafficLimitType : String := ""
  trafficResetDay : ℤ := 0
  os : String := ""
  arch : String := ""
  cpuName : String := ""
  cpuCores : ℤ := 0
  virtualization : String := ""
  kernelVersion : String := ""
  createdAt : Time := 0
  updatedAt : Time := 0
  lastSeenAt : Option Time := none
  online : Bool := false
deriving DecidableEq, Inhabited

/-- Whether the node may receive latency tasks: probe nodes always, monitors by choice. -/
def Node.canMeasureLatency (n : Node) : Bool :=
  normalizeNodeRole n.role == .probe || n.latencyEnabled

/-- The public view of a node. -/
def Node.toPublic (n : Node) : PublicNode where
  id := n.id
  role := normalizeNodeRole n.role
  latencyEnabled := n.canMeasureLatency
  name := n.name
  group := n.group
  region := n.region
  countryCode := n.countryCode
  latitude := n.latitude
  longitude := n.longitude
  tags := n.tags
  publicRemark := n.publicRemark
  hidden := n.hidden
  weight := n.weight
  price := n.price
  currency := n.currency
  billingCycleDays := n.billingCycleDays
  expiresAt := n.expiresAt
  autoRenewal := n.autoRenewal
  trafficLimit := n.trafficLimit
  trafficLimitType := n.trafficLimitType
  trafficResetDay := n.trafficResetDay
  os := n.os
  arch := n.arch
  cpuName := n.cpuName
  cpuCores := n.cpuCores
  virtualization := n.virtualization
  kernelVersion := n.kernelVersion
  createdAt := n.createdAt
  updatedAt := n.updatedAt
  lastSeenAt := n.lastSeenAt
  online := n.online

/-! ## Metric samples -/

/-- The state of one mounted file system. -/
structure DiskMetric where
  mountpoint : String := ""
  filesystem : String := ""
  total : UInt64 := 0
  used : UInt64 := 0
  readBPS : Float := 0
  writeBPS : Float := 0
  readIOPS : Float := 0
  writeIOPS : Float := 0
  awaitMS : Float := 0
  utilization : Float := 0
deriving DecidableEq, Inhabited

/-- The state of one network interface. -/
structure NetworkMetric where
  interface : String := ""
  rxBPS : Float := 0
  txBPS : Float := 0
  rxBytes : UInt64 := 0
  txBytes : UInt64 := 0
deriving DecidableEq, Inhabited

/-- The state of one GPU. -/
structure GPUMetric where
  index : ℤ := 0
  name : String := ""
  utilization : Float := 0
  memoryTotal : UInt64 := 0
  memoryUsed : UInt64 := 0
  temperature : Float := 0
deriving DecidableEq, Inhabited

/-- One report of a node's host metrics. -/
structure MetricSample where
  nodeID : String := ""
  sequence : UInt64 := 0
  collectedAt : Time := 0
  receivedAt : Time := 0
  bootID : String := ""
  clockOffsetMS : ℤ := 0
  cpu : Float := 0
  load1 : Float := 0
  load5 : Float := 0
  load15 : Float := 0
  memoryTotal : UInt64 := 0
  memoryUsed : UInt64 := 0
  swapTotal : UInt64 := 0
  swapUsed : UInt64 := 0
  diskTotal : UInt64 := 0
  diskUsed : UInt64 := 0
  netRxBPS : Float := 0
  netTxBPS : Float := 0
  netRxBytes : UInt64 := 0
  netTxBytes : UInt64 := 0
  monthlyRxBytes : UInt64 := 0
  monthlyTxBytes : UInt64 := 0
  tcpConnections : ℤ := 0
  udpConnections : ℤ := 0
  processes : ℤ := 0
  temperature : Float := 0
  uptimeSeconds : UInt64 := 0
  disks : List DiskMetric := []
  networks : List NetworkMetric := []
  gpus : List GPUMetric := []
  message : String := ""
deriving DecidableEq, Inhabited

/-! ## Probes -/

/-- The kind of measurement a probe task performs. -/
inductive ProbeType where
  | icmp
  | tcp
  | http
  | dns
  | other (name : String) (unknown : name ∉ ["icmp", "tcp", "http", "dns"] := by decide)
deriving DecidableEq, Inhabited

/-- What a probe task is for. -/
inductive ProbePurpose where
  | custom
  | latency
  | carrierTelecom
  | carrierUnicom
  | carrierMobile
  | other (name : String) (unknown : name ∉ ["custom", "latency", "carrier.telecom",
      "carrier.unicom", "carrier.mobile"] := by decide)
deriving DecidableEq, Inhabited

/-- No purpose, the empty string. -/
def ProbePurpose.unset : ProbePurpose := .other ""

/-- A measurement the administrator has set up. -/
structure ProbeTask where
  id : ℤ := 0
  name : String := ""
  type : ProbeType := .other ""
  target : String := ""
  intervalSeconds : ℤ := 0
  timeoutSeconds : ℤ := 0
  expectedStatus : ℤ := 0
  expectedValue : String := ""
  nodeIDs : List String := []
  purpose : ProbePurpose := .unset
  runOn : NodeRole := .other ""
  targetNodeID : String := ""
  isPublic : Bool := false
  samples : ℤ := 0
  enabled : Bool := false
  createdAt : Time := 0
  updatedAt : Time := 0
deriving DecidableEq, Inhabited

/-- The outcome of one run of a probe task. -/
structure ProbeResult where
  nodeID : String := ""
  taskID : ℤ := 0
  collectedAt : Time := 0
  receivedAt : Time := 0
  success : Bool := false
  latencyMS : Float := 0
  lossPercent : Float := 0
  statusCode : ℤ := 0
  value : String := ""
  error : String := ""
deriving DecidableEq, Inhabited

/-! ## Alerts -/

/-- What an alert rule looks at. -/
inductive Metric where
  | online
  | cpu
  | memory
  | swap
  | load1
  | load5
  | load15
  | disk
  | temperature
  | gpu
  | trafficSum
  | trafficUp
  | trafficDown
  | probeSuccess
  | probeLatency
  | probeLoss
  | other (name : String)
deriving DecidableEq, Inhabited

/-- The name of a metric in a stored rule. -/
def Metric.text : Metric → String
  | .online => "online"
  | .cpu => "cpu"
  | .memory => "memory"
  | .swap => "swap"
  | .load1 => "load1"
  | .load5 => "load5"
  | .load15 => "load15"
  | .disk => "disk"
  | .temperature => "temperature"
  | .gpu => "gpu"
  | .trafficSum => "traffic_sum"
  | .trafficUp => "traffic_up"
  | .trafficDown => "traffic_down"
  | .probeSuccess => "probe_success"
  | .probeLatency => "probe_latency"
  | .probeLoss => "probe_loss"
  | .other name => name

/-- The comparison of an alert rule. -/
inductive Operator where
  | gt
  | ge
  | lt
  | le
  | eq
  | other (text : String)
deriving DecidableEq, Inhabited

/-- The nodes an alert rule applies to. -/
structure AlertScope where
  groups : List String := []
  nodeIDs : List String := []
  excluded : List String := []
deriving DecidableEq, Inhabited

/-- An alert rule. -/
structure AlertRule where
  id : ℤ := 0
  name : String := ""
  metric : Metric := .other ""
  operator : Operator := .other ""
  threshold : Float := 0
  recoveryThreshold : Float := 0
  durationSeconds : ℤ := 0
  cooldownSeconds : ℤ := 0
  severity : String := ""
  scope : AlertScope := {}
  enabled : Bool := false
deriving DecidableEq, Inhabited

/-- Whether an alert event raises or ends an alert. -/
inductive AlertStatus where
  | firing
  | resolved
deriving DecidableEq, Inhabited

/-- An alert event. -/
structure AlertEvent where
  id : String
  type : String
  status : AlertStatus
  severity : String
  occurredAt : Time
  node : PublicNode
  metric : String
  value : Float
  threshold : Float
  link : String
  message : String
deriving DecidableEq

/-- A notification channel, with the fields that decide who receives an event. -/
structure NotificationChannel where
  id : ℤ
  enabled : Bool
deriving DecidableEq, Inhabited

/-- A notification that is to be sent for an event on a channel; times in milliseconds. -/
structure NotificationDelivery where
  eventID : String
  channelID : ℤ
  status : String
  attempts : ℕ
  nextAttemptAt : ℤ
  lastError : String
deriving DecidableEq, Inhabited

/-! ## Settings and requests -/

/-- The site settings that the modelled functions read. -/
structure SiteSettings where
  name : String := ""
  description : String := ""
  enrollmentPINWeak : Bool := false
  recordEnabled : Bool := false
  rawRetentionHours : ℤ := 0
  fiveMinuteRetentionHours : ℤ := 0
  hourlyRetentionHours : ℤ := 0
  geoIPEnabled : Bool := false
  geoIPProvider : String := ""
  customHead : String := ""
  customBody : String := ""
  themeMarketSources : List String := []
deriving DecidableEq, Inhabited

/-- The error answer of a request: the status, the code and the message. -/
structure ApiError where
  status : ℕ
  code : String
  message : String
deriving DecidableEq

end Hostpin
