import Hostpin.Alerting.Rule
import Hostpin.Httpapi.Public

/-!
# The Komari endpoints

The endpoints that themes written for Komari use.  An answer is the value that is printed as JSON;
where the source collects values in a map whose order is left open, the entries stand in the order
in which they were added.
-/

namespace Hostpin

open Clock Procedure

/-! ## Numbers -/

/-- The smaller of two numbers; not a number as soon as one of them is not. -/
def floatMin (x y : Float) : Float :=
  if x.isNaN || y.isNaN then 0 / 0 else if y < x then y else x

/-- The greatest finite binary64 number. -/
def maxFloat64 : Float := 1.7976931348623157e308

/-! ## Nodes -/

/-- What only the administrator sees of a node. -/
structure KomariNodeSecrets where
  ipv4 : String
  ipv6 : String
  version : String
  remark : String
deriving DecidableEq

/-- A node. -/
structure KomariNode where
  uuid : String
  name : String
  cpuName : String
  virtualization : String
  arch : String
  cpuCores : ℤ
  cpuPhysicalCores : ℤ := 0
  os : String
  kernelVersion : String
  gpuName : String
  region : String
  regionName : String
  countryCode : String
  latitude : Option Float
  longitude : Option Float
  weight : ℤ
  price : Float
  billingCycle : ℤ
  autoRenewal : Bool
  currency : String
  expiredAt : Option Time
  group : String
  tags : String
  publicRemark : String
  hidden : Bool
  trafficLimit : ℤ
  trafficLimitType : String
  createdAt : Time
  updatedAt : Time
  memTotal : UInt64
  swapTotal : UInt64
  diskTotal : UInt64
  secrets : Option KomariNodeSecrets := none
deriving DecidableEq

/-- The state of a node. -/
structure KomariStatus where
  client : String
  time : Time
  cpu : Float
  gpu : Float
  ram : UInt64
  ramTotal : UInt64
  swap : UInt64
  swapTotal : UInt64
  load : Float
  load5 : Float
  load15 : Float
  temp : Float
  disk : UInt64
  diskTotal : UInt64
  netIn : ℤ
  netOut : ℤ
  netTotalUp : UInt64
  netTotalDown : UInt64
  process : ℤ
  connections : ℤ
  connectionsUDP : ℤ
  online : Bool
  uptime : UInt64
  message : String
deriving DecidableEq

/-- The state of a node, or that it has never reported. -/
inductive KomariLatest where
  | offline (client : String)
  | status (state : KomariStatus)
deriving DecidableEq

/-- Whether a node is online. -/
def KomariLatest.online : KomariLatest → Bool
  | .offline _ => false
  | .status state => state.online

/-- The state of a node in the nested form. -/
structure KomariNestedStatus where
  cpuUsage : Float
  ramTotal : UInt64
  ramUsed : UInt64
  swapTotal : UInt64
  swapUsed : UInt64
  load1 : Float
  load5 : Float
  load15 : Float
  diskTotal : UInt64
  diskUsed : UInt64
  networkUp : Float
  networkDown : Float
  networkTotalUp : UInt64
  networkTotalDown : UInt64
  tcp : ℤ
  udp : ℤ
  uptime : UInt64
  process : ℤ
  message : String
  updatedAt : Time
deriving DecidableEq

section Nodes

variable (P : Platform)

/-- The name of the first GPU of a node. -/
def gpuName (nodeID : String) : Serve String := do
  match ← call (.latest nodeID) with
  | none => return "None"
  | some sample => return (sample.gpus.head?.map (·.name)).getD "None"

/-- A node as it is shown. -/
def komariNode (authenticated : Bool) (node : NodeRow) (gpu : String)
    (sample : Option MetricSample) : KomariNode where
  uuid := node.id
  name := node.name
  cpuName := node.cpuName
  virtualization := node.virtualization
  arch := node.arch
  cpuCores := node.cpuCores
  os := node.os
  kernelVersion := node.kernelVersion
  gpuName := gpu
  region := P.komariRegion node.region node.countryCode
  regionName := node.region
  countryCode := node.countryCode
  latitude := node.latitude
  longitude := node.longitude
  weight := node.weight
  price := node.price
  billingCycle := node.billingCycleDays
  autoRenewal := node.autoRenewal
  currency := node.currency
  expiredAt := node.expiresAt
  group := node.group
  tags := ";".intercalate node.tags
  publicRemark := node.publicRemark
  hidden := node.hidden
  trafficLimit := node.trafficLimit
  trafficLimitType := node.trafficLimitType
  createdAt := node.createdAt
  updatedAt := node.updatedAt
  memTotal := (sample.map (·.memoryTotal)).getD 0
  swapTotal := (sample.map (·.swapTotal)).getD 0
  diskTotal := (sample.map (·.diskTotal)).getD 0
  secrets :=
    if authenticated then some ⟨node.ipv4, node.ipv6, node.agentVersion, node.privateRemark⟩
    else none

/-- The nodes as they are shown. -/
def komariNodes (authenticated : Bool) : Serve (Except StoreError (List KomariNode)) := do
  match ← call (.listNodes authenticated) with
  | .error e => return .error e
  | .ok nodes =>
    let entries ← each (fun node => do
      let gpu ← gpuName node.id
      return komariNode P authenticated node gpu (← call (.latest node.id)))
      (nodes.filter fun node => !(node.hidden && !authenticated))
    return .ok entries

/-- The average load of some GPUs. -/
def gpuAverage (gpus : List GPUMetric) : Float :=
  let total := gpus.foldl (fun sum gpu => sum + gpu.utilization) 0
  if gpus = [] then total else total / gpus.length.toFloat

/-- A sample as the state of its node. -/
def komariStatus (sample : MetricSample) (online : Bool) : KomariStatus where
  client := sample.nodeID
  time := sample.receivedAt
  cpu := sample.cpu
  gpu := gpuAverage sample.gpus
  ram := sample.memoryUsed
  ramTotal := sample.memoryTotal
  swap := sample.swapUsed
  swapTotal := sample.swapTotal
  load := sample.load1
  load5 := sample.load5
  load15 := sample.load15
  temp := sample.temperature
  disk := sample.diskUsed
  diskTotal := sample.diskTotal
  netIn := P.toInt64 sample.netRxBPS
  netOut := P.toInt64 sample.netTxBPS
  netTotalUp := sample.netTxBytes
  netTotalDown := sample.netRxBytes
  process := sample.processes
  connections := sample.tcpConnections
  connectionsUDP := sample.udpConnections
  online
  uptime := sample.uptimeSeconds
  message := sample.message

/-- A sample as the nested state of its node. -/
def komariNestedStatus (sample : MetricSample) : KomariNestedStatus where
  cpuUsage := sample.cpu
  ramTotal := sample.memoryTotal
  ramUsed := sample.memoryUsed
  swapTotal := sample.swapTotal
  swapUsed := sample.swapUsed
  load1 := sample.load1
  load5 := sample.load5
  load15 := sample.load15
  diskTotal := sample.diskTotal
  diskUsed := sample.diskUsed
  networkUp := sample.netTxBPS
  networkDown := sample.netRxBPS
  networkTotalUp := sample.netTxBytes
  networkTotalDown := sample.netRxBytes
  tcp := sample.tcpConnections
  udp := sample.udpConnections
  uptime := sample.uptimeSeconds
  process := sample.processes
  message := sample.message
  updatedAt := sample.receivedAt

/-- The latest state of a node. -/
def latestStatus (clock : Time) (nodeID : String) : Serve (String × KomariLatest) := do
  match ← call (.latest nodeID) with
  | none => return (nodeID, .offline nodeID)
  | some sample => return (nodeID, .status (komariStatus P sample (isOnline P clock sample)))

/-- The latest states of the nodes. -/
def komariLatest (clock : Time) (authenticated : Bool) :
    Serve (Except StoreError (List (String × KomariLatest))) := do
  match ← call (.listNodes authenticated) with
  | .error e => return .error e
  | .ok nodes =>
    return .ok (← each (fun node => latestStatus P clock node.id)
      (nodes.filter fun node => !(node.hidden && !authenticated)))

end Nodes

/-! ## Histories -/

/-- What is wrong with the parameters of a request. -/
abbrev Complaint := String

/-- That a request may see a node. -/
def ensureVisibleNode (nodeID : String) (authenticated : Bool) :
    Serve (Except Complaint Unit) := do
  if nodeID = "" then return .error "uuid is required"
  else
    match ← call (.getNode nodeID) with
    | .error _ => return .error "node not found"
    | .ok node =>
      if node.hidden && !authenticated then return .error "node not found"
      else return .ok ()

/-- The states of a node over some hours. -/
structure LoadRecords where
  records : List KomariStatus
  hasGPUData : Bool
deriving DecidableEq

/-- Whether a sample names a GPU. -/
def hasGPU (samples : List MetricSample) : Bool := samples.any fun sample => sample.gpus ≠ []

/-- The states of a node over some hours. -/
def komariLoadRecords (P : Platform) (clock : Time) (authenticated : Bool) (nodeID : String)
    (hours : Float) (maxPoints : ℤ) : Serve (Except Complaint LoadRecords) := do
  match ← ensureVisibleNode nodeID authenticated with
  | .error e => return .error e
  | .ok () =>
    match ← call (.history ⟨nodeID, hoursBefore P clock hours, clock, maxPoints⟩ clock) with
    | .error e => return .error e.text
    | .ok samples => return .ok ⟨samples.map (komariStatus P · true), hasGPU samples⟩

/-! ## Probes -/

/-- The tasks that themes show. -/
def isKomariPingTask (task : ProbeTask) : Bool :=
  task.purpose = .custom || task.purpose.isCarrier

/-- A task as it is shown. -/
structure KomariTask where
  id : ℤ
  name : String
  clients : List String
  defaultOn : Bool
  type : ProbeType
  interval : ℤ
  samples : ℤ
deriving DecidableEq

/-- The tasks as they are shown. -/
def komariTaskList (tasks : List ProbeTask) : List KomariTask :=
  (tasks.filter isKomariPingTask).map fun task =>
    { id := task.id, name := task.name, clients := task.nodeIDs, defaultOn := task.nodeIDs = [],
      type := task.type, interval := task.intervalSeconds, samples := max 1 task.samples }

/-- The results that a request may see. -/
def filterVisibleProbeRecords (records : List ProbeResult) (authenticated : Bool) :
    Serve (Except StoreError (List ProbeResult)) := do
  match ← call (.listProbeTasks "") with
  | .error e => return .error e
  | .ok tasks =>
    let komariTasks := (tasks.filter isKomariPingTask).map (·.id)
    if authenticated then return .ok (records.filter (·.taskID ∈ komariTasks))
    else
      match ← visibleNodeSet false with
      | .error e => return .error e
      | .ok allowed =>
        return .ok (records.filter fun record =>
          record.taskID ∈ komariTasks && record.nodeID ∈ allowed)

/-- The loss of a result in percent; a probe that failed has lost everything. -/
def effectiveProbeLoss (record : ProbeResult) : Float :=
  let loss := floatMin 100 (floatMax 0 record.lossPercent)
  if (!record.success || record.latencyMS < 0) && loss == 0 then 100 else loss

/-- How many samples of a result have arrived and how many were lost. -/
def probeSampleBreakdown (P : Platform) (record : ProbeResult) (task : ProbeTask) : ℤ × ℤ :=
  let samples := max 1 task.samples
  if !record.success || record.latencyMS < 0 then (0, samples)
  else
    let share := effectiveProbeLoss record / 100 * Float.ofInt samples
    let lost := min samples (max 0 (P.toInt64 share.round))
    (samples - lost, lost)

/-- One sample of a result. -/
structure KomariProbePoint where
  taskID : ℤ
  time : Time
  value : Float
  client : String
deriving DecidableEq

/-- The losses and latencies of a node. -/
structure ProbeBasicInfo where
  client : String
  loss : Float
  min : Float
  max : Float
deriving DecidableEq

/-- The results of probes. -/
structure KomariProbeRecords where
  records : List KomariProbePoint
  tasks : List KomariTask
  basicInfo : List ProbeBasicInfo
deriving DecidableEq

lemma empty_notMem_probeTypes : "" ∉ ["icmp", "tcp", "http", "dns"] := by decide

lemma empty_notMem_nodeRoles : "" ∉ ["monitor", "probe"] := by decide

/-- The zero task. -/
def zeroTask : ProbeTask :=
  { type := .other "" empty_notMem_probeTypes, runOn := .other "" empty_notMem_nodeRoles }

/-- A task of a list by its number, or the zero task. -/
def taskByID (tasks : List ProbeTask) (id : ℤ) : ProbeTask :=
  (tasks.find? (·.id = id)).getD zeroTask

section Probes

variable (P : Platform)

/-- The samples of a result, a nanosecond apart. -/
def komariProbePoints (tasks : List ProbeTask) (result : ProbeResult) : List KomariProbePoint :=
  let (successful, lost) := probeSampleBreakdown P result (taskByID tasks result.taskID)
  (List.range (successful + lost).toNat).map fun index =>
    { taskID := result.taskID, time := result.receivedAt + index, client := result.nodeID
      value := if successful ≤ index then -1 else result.latencyMS }

/-- The losses and latencies of a node while its results are added up. -/
structure ProbeSummary where
  total : ℤ := 0
  lost : ℤ := 0
  min : Float := maxFloat64
  max : Float := 0

/-- Add a result to a summary. -/
def ProbeSummary.add (tasks : List ProbeTask) (item : ProbeSummary) (record : ProbeResult) :
    ProbeSummary :=
  let (successful, lost) := probeSampleBreakdown P record (taskByID tasks record.taskID)
  { total := item.total + (successful + lost)
    lost := item.lost + lost
    min := if 0 < successful then floatMin item.min record.latencyMS else item.min
    max := if 0 < successful then floatMax item.max record.latencyMS else item.max }

/-- The losses and latencies of the nodes. -/
def probeBasicInfo (records : List ProbeResult) (tasks : List ProbeTask) : List ProbeBasicInfo :=
  (records.map (·.nodeID)).eraseDups.map fun nodeID =>
    let item := (records.filter (·.nodeID = nodeID)).foldl (ProbeSummary.add P tasks) {}
    { client := nodeID
      loss := Float.ofInt item.lost / Float.ofInt item.total * 100
      min := if item.min == maxFloat64 then -1 else item.min
      max := item.max }

/-- Results with the tasks they belong to.  When a call of the store fails there are no tasks. -/
def komariProbeRecords (records : List ProbeResult) (authenticated : Bool) :
    Serve KomariProbeRecords := do
  let listed := (← call (.listProbeTasks "")).toOption.getD []
  let tasks := (← filterVisibleProbeTasks listed authenticated).toOption.getD []
  let shown := tasks.filter isKomariPingTask
  return { records := records.flatMap (komariProbePoints P shown)
           tasks := komariTaskList tasks
           basicInfo := probeBasicInfo P records shown }

end Probes

/-! ## Handlers -/

/-- The settings that everybody may see. -/
structure KomariPublicSettings where
  corsOriginCheckEnabled : Bool := true
  customBody : String
  customHead : String
  description : String
  disablePasswordLogin : Bool := false
  oauthEnable : Bool := false
  oauthProvider : String := ""
  pingRecordPreserveTime : ℤ
  privateSite : Bool
  recordEnabled : Bool
  recordPreserveTime : ℤ
  sitename : String
  theme : String
  themeSettings : List (String × Param)

/-- The settings of a theme. -/
def themePublicSettings (short : String) : Serve (List (String × Param)) := do
  if short = "" ∨ short = "default" then return []
  else return (← call (.getTheme short)).toOption.getD []

/-- The settings that everybody may see. -/
def komariPublicSettings (settings : StoredSettings) : Serve KomariPublicSettings := do
  return { customBody := settings.customBody
           customHead := settings.customHead
           description := settings.description
           pingRecordPreserveTime := settings.fiveMinuteRetentionHours
           privateSite := settings.isPrivate
           recordEnabled := settings.recordEnabled
           recordPreserveTime := settings.rawRetentionHours
           sitename := settings.name
           theme := settings.theme
           themeSettings := ← themePublicSettings settings.theme }

/-- A message to a live client: which nodes are online, and the states of the nodes. -/
structure ClientsMessage where
  online : List String
  data : List (String × KomariNestedStatus)
deriving DecidableEq

/-- The answer of a Komari endpoint. -/
inductive KomariResponse where
  | error (status : ℕ) (message : String)
  | publicSettings (data : KomariPublicSettings)
  | version (version hash : String)
  | guest
  | me (username uuid : String) (twoFactor : Bool)
  | nodes (data : List KomariNode)
  | recent (data : List KomariNestedStatus)
  | load (data : LoadRecords)
  | ping (data : KomariProbeRecords)
  | tasks (data : List KomariTask)
  | clients (messages : List ClientsMessage)

section Handlers

variable (P : Platform) (cookie : Option String) (clock : Time)

/-- Whether a request is one of the administrator; a private site answers no other. -/
def komariAccess : Serve (Except StoreError Bool) := publicAccess P cookie clock

/-- The settings. -/
def handleKomariPublic : Serve KomariResponse := do
  match ← call .siteSettings with
  | .error _ => return .error 500 "store error"
  | .ok settings => return .publicSettings (← komariPublicSettings settings)

/-- The version. -/
def handleKomariVersion : Serve KomariResponse := return .version P.version P.commit

/-- Who the request is from. -/
def handleKomariMe : Serve KomariResponse := do
  match ← currentAdmin P cookie clock with
  | .error _ => return .guest
  | .ok admin => return .me admin.username admin.id (admin.totpSecretEnc ≠ "")

/-- The nodes. -/
def handleKomariNodes : Serve KomariResponse := do
  match ← komariAccess P cookie clock with
  | .error _ => return .error 401 "private site"
  | .ok authenticated =>
    match ← komariNodes P authenticated with
    | .error _ => return .error 500 "store error"
    | .ok nodes => return .nodes nodes

/-- The samples of a node in the last minute. -/
def handleKomariRecent (uuid : String) : Serve KomariResponse := do
  match ← komariAccess P cookie clock with
  | .error _ => return .error 404 "node not found"
  | .ok authenticated =>
    match ← ensureVisibleNode uuid authenticated with
    | .error _ => return .error 404 "node not found"
    | .ok () =>
      match ← call (.recentMetrics uuid (clock - minute)) with
      | .error _ => return .error 500 "store error"
      | .ok samples => return .recent (samples.map komariNestedStatus)

/-- A number of hours that a text says. -/
def parseHours (raw : String) : Float :=
  let (value, ok) := P.parseFloat raw
  if !ok || value ≤ 0 then 4 else floatMin value (24 * 365)

/-- The states of a node over some hours. -/
def handleKomariLoadHistory (uuid hours : String) : Serve KomariResponse := do
  match ← komariAccess P cookie clock with
  | .error _ => return .error 401 "private site"
  | .ok authenticated =>
    match ← komariLoadRecords P clock authenticated uuid (parseHours P hours) 4000 with
    | .error e => return .error 400 e
    | .ok records => return .load records

/-- The results of the probes of a node, or of all nodes when no node is named. -/
def handleKomariPingHistory (uuid taskID hours : String) : Serve KomariResponse := do
  match ← komariAccess P cookie clock with
  | .error _ => return .error 401 "private site"
  | .ok authenticated =>
    match ← (if uuid = "" then pure (.ok ()) else ensureVisibleNode uuid authenticated) with
    | .error _ => return .error 404 "node not found"
    | .ok () =>
      let query : ProbeQuery := ⟨uuid, (P.parseInt taskID).1,
        hoursBefore P clock (parseHours P hours), clock, 4000⟩
      match ← call (.probeHistory query) with
      | .error _ => return .error 500 "store error"
      | .ok records =>
        match ← filterVisibleProbeRecords records authenticated with
        | .error _ => return .error 500 "store error"
        | .ok records => return .ping (← komariProbeRecords P records authenticated)

/-- The tasks that a request may see. -/
def visibleTasks (authenticated : Bool) : Serve (Except StoreError (List ProbeTask)) := do
  match ← call (.listProbeTasks "") with
  | .error e => return .error e
  | .ok tasks => filterVisibleProbeTasks tasks authenticated

/-- The tasks. -/
def handleKomariPingTasks : Serve KomariResponse := do
  match ← komariAccess P cookie clock with
  | .error _ => return .error 401 "private site"
  | .ok authenticated =>
    match ← visibleTasks authenticated with
    | .error _ => return .error 500 "store error"
    | .ok tasks => return .tasks (komariTaskList tasks)

/-- The nested state of a node, when it has reported. -/
def nestedStatus (nodeID : String) : Serve (Option (String × KomariNestedStatus)) := do
  return (← call (.latest nodeID)).map fun sample => (nodeID, komariNestedStatus sample)

/-- The messages to a live client, one at each tick, until a call of the store fails. -/
def clientsMessages (authenticated : Bool) : List Time → Serve (List ClientsMessage)
  | [] => return []
  | now :: ticks => do
    match ← komariLatest P now authenticated with
    | .error _ => return []
    | .ok statuses =>
      let online := (statuses.filter (·.2.online)).map (·.1)
      let nested ← each nestedStatus (statuses.map (·.1))
      return ⟨online, nested.filterMap id⟩ :: (← clientsMessages authenticated ticks)

/-- A live client. -/
def handleKomariClients (ticks : List Time) : Serve KomariResponse := do
  match ← komariAccess P cookie clock with
  | .error _ => return .error 401 "private site"
  | .ok authenticated => return .clients (← clientsMessages P authenticated ticks)

end Handlers

end Hostpin
