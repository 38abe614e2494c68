import Hostpin.Httpapi.Komari

/-!
# Metric queries

The queries for series of metrics and for statistics of probes, with their parameters.
-/

namespace Hostpin

open Clock Procedure Text

/-! ## Parameters -/

/-- The named parameters of a request; no name occurs twice. -/
abbrev Params := List (String × Param)

section Params

variable (P : Platform) (params : Params)

/-- A value as text. -/
def printParam : Param → String
  | .text value => value
  | value => P.sprint value

/-- The value of a parameter that is given and not null. -/
def Params.value? (key : String) : Option Param :=
  match params.lookup key with
  | none | some .null => none
  | some value => some value

/-- A parameter as text. -/
def stringParam (key : String) : String :=
  ((params.value? key).map (printParam P)).getD ""

/-- A parameter as a number. -/
def numberParam (key : String) (fallback : Float) : Float :=
  match params.value? key with
  | some (.number value) => value
  | some (.text value) => if (P.parseFloat value).2 then (P.parseFloat value).1 else fallback
  | _ => fallback

/-- A parameter as a list of texts. -/
def stringSliceParam (key : String) : List String :=
  match params.lookup key with
  | some (.array items) => items.map (printParam P)
  | some (.text value) => [value]
  | _ => []

/-- A parameter as an instant, under the first of some names that says one. -/
def rpcTimeParam (keys : List String) : Option Time :=
  keys.findSome? fun key =>
    let raw := trimSpace (stringParam P params key)
    if raw = "" then none else P.parseTime raw

/-- The window of a query, or that it is empty. -/
def rpcWindow (clock : Time) : Except Complaint (Time × Time) :=
  let endAt := (rpcTimeParam P params ["end", "end_time"]).getD clock
  let hours := numberParam P params "hours" 4
  let hours := if hours ≤ 0 then 4 else hours
  let start := (rpcTimeParam P params ["start", "start_time"]).getD (hoursBefore P endAt hours)
  if start < endAt then .ok (start, endAt) else .error "end must be after start"

/-- The nodes that a query names. -/
def namedNodes (single : String) : List String :=
  let entities := stringSliceParam P params "entity_ids"
  if entities ≠ [] then entities else if single ≠ "" then [single] else []

end Params

/-- The nodes of a query: the ones that it names, or else all that it may see. -/
def queriedNodes (named : List String) (authenticated : Bool) :
    Serve (Except StoreError (List String)) :=
  if named ≠ [] then return .ok named else visibleNodeSet authenticated

/-! ## Metrics -/

/-- What a metric is. -/
structure KomariMetricDefinition where
  name : String
  description : String
  type : String
  unit : String
deriving DecidableEq

/-- The metrics. -/
def komariMetricDefinitions : List KomariMetricDefinition :=
  [⟨"cpu.usage", "CPU usage percentage", "gauge", "%"⟩,
   ⟨"gpu.usage", "GPU usage percentage", "gauge", "%"⟩,
   ⟨"gpu.device.usage", "Per-device GPU utilization", "gauge", "%"⟩,
   ⟨"gpu.memory.used", "GPU memory used", "gauge", "bytes"⟩,
   ⟨"gpu.memory.total", "GPU memory total", "gauge", "bytes"⟩,
   ⟨"gpu.temperature", "GPU temperature", "gauge", "°C"⟩,
   ⟨"memory.used", "RAM used", "gauge", "bytes"⟩,
   ⟨"swap.used", "Swap used", "gauge", "bytes"⟩,
   ⟨"load.average", "System load average", "gauge", ""⟩,
   ⟨"disk.used", "Disk used", "gauge", "bytes"⟩,
   ⟨"net.in.rate", "Network in rate", "gauge", "bytes/s"⟩,
   ⟨"net.out.rate", "Network out rate", "gauge", "bytes/s"⟩,
   ⟨"net.total.up", "Network total upload", "counter", "bytes"⟩,
   ⟨"net.total.down", "Network total download", "counter", "bytes"⟩,
   ⟨"traffic.up", "Traffic upload delta", "gauge", "bytes"⟩,
   ⟨"traffic.down", "Traffic download delta", "gauge", "bytes"⟩,
   ⟨"process.count", "Process count", "gauge", "count"⟩,
   ⟨"connections.tcp", "TCP connections", "gauge", "count"⟩,
   ⟨"connections.udp", "UDP connections", "gauge", "count"⟩,
   ⟨"ping.latency_ms", "Probe latency", "gauge", "ms"⟩,
   ⟨"ping.loss", "Probe packet loss indicator", "gauge", "ratio"⟩]

/-- The short names of metrics. -/
def komariMetricAliases : List (String × String) :=
  [("cpu", "cpu.usage"), ("ram", "memory.used"), ("swap", "swap.used"), ("load", "load.average"),
   ("disk", "disk.used"), ("net_in", "net.in.rate"), ("net_out", "net.out.rate"),
   ("process", "process.count"), ("connections", "connections.tcp"),
   ("temperature", "host.temperature"), ("temp", "host.temperature"),
   ("memory.total", "memory.total"), ("swap.total", "swap.total"), ("disk.total", "disk.total")]

/-- The metric of a name. -/
def komariMetricDefinitionFor (metric : String) : Option KomariMetricDefinition :=
  let canonical := (komariMetricAliases.lookup metric).getD metric
  if canonical = "host.temperature" then some ⟨metric, "Host temperature", "gauge", "°C"⟩
  else if canonical ∈ ["memory.total", "swap.total", "disk.total"] then
    some ⟨metric, canonical, "gauge", "bytes"⟩
  else
    (komariMetricDefinitions.find? (·.name = canonical)).map fun definition =>
      { definition with name := metric }

/-- A point of a series. -/
structure MetricPoint where
  time : Time
  value : Option Float
  count : ℕ := 1
deriving DecidableEq

/-- A series. -/
structure MetricSeries where
  metricKey : String
  entityID : String
  type : String
  unit : String
  retentionDays : ℕ := 7
  tags : List (String × String) := []
  downsampled : Bool := false
  maxPoints : ℤ
  points : List MetricPoint
deriving DecidableEq

/-- A series of a metric of a node. -/
def komariMetricSeries (metric nodeID : String) (definition : KomariMetricDefinition)
    (tags : List (String × String)) (points : List MetricPoint) (maxPoints : ℤ) : MetricSeries where
  metricKey := metric
  entityID := nodeID
  type := definition.type
  unit := definition.unit
  tags
  maxPoints
  points

/-- What a counter has grown by since the sample before; a counter that went back has started
again. -/
def counterDeltaAt (samples : List MetricSample) (index : ℕ) (counter : MetricSample → UInt64) :
    UInt64 :=
  if index = 0 then 0
  else
    let current := counter (samples.getD index {})
    let previous := counter (samples.getD (index - 1) {})
    if previous ≤ current then current - previous else current

/-- The value of a metric in a sample. -/
def komariMetricValue (samples : List MetricSample) (index : ℕ) (metric : String) : Option Float :=
  let sample := samples.getD index {}
  match metric with
  | "cpu" | "cpu.usage" => some sample.cpu
  | "gpu.usage" => some (gpuAverage sample.gpus)
  | "ram" | "memory.used" => some sample.memoryUsed.toFloat
  | "memory.total" => some sample.memoryTotal.toFloat
  | "swap" | "swap.used" => some sample.swapUsed.toFloat
  | "swap.total" => some sample.swapTotal.toFloat
  | "load" | "load.average" => some sample.load1
  | "temperature" | "temp" => some sample.temperature
  | "disk" | "disk.used" => some sample.diskUsed.toFloat
  | "disk.total" => some sample.diskTotal.toFloat
  | "net_in" | "net.in.rate" => some sample.netRxBPS
  | "net_out" | "net.out.rate" => some sample.netTxBPS
  | "net.total.up" => some sample.netTxBytes.toFloat
  | "net.total.down" => some sample.netRxBytes.toFloat
  | "traffic.up" => some (counterDeltaAt samples index (·.netTxBytes)).toFloat
  | "traffic.down" => some (counterDeltaAt samples index (·.netRxBytes)).toFloat
  | "process" | "process.count" => some (Float.ofInt sample.processes)
  | "connections" | "connections.tcp" => some (Float.ofInt sample.tcpConnections)
  | "connections.udp" => some (Float.ofInt sample.udpConnections)
  | _ => none

/-- The series of a metric of a node. -/
def sampleSeries (nodeID metric : String) (definition : KomariMetricDefinition)
    (samples : List MetricSample) (maxPoints : ℤ) : MetricSeries :=
  let points := samples.zipIdx.filterMap fun (sample, index) =>
    (komariMetricValue samples index metric).map fun value =>
      { time := sample.receivedAt, value := some value : MetricPoint }
  komariMetricSeries metric nodeID definition [] points maxPoints

/-- The metrics of single GPUs. -/
def isKomariGPUDeviceMetric (metric : String) : Bool :=
  metric ∈ ["gpu.device.usage", "gpu.memory.used", "gpu.memory.total", "gpu.temperature"]

/-- The value of a metric of a GPU. -/
def gpuDeviceValue (metric : String) (gpu : GPUMetric) : Float :=
  match metric with
  | "gpu.device.usage" => gpu.utilization
  | "gpu.memory.used" => gpu.memoryUsed.toFloat
  | "gpu.memory.total" => gpu.memoryTotal.toFloat
  | "gpu.temperature" => gpu.temperature
  | _ => 0

/-- The GPUs of the samples with their numbers and times; a GPU without a number is counted by its
position. -/
def gpuReadings (samples : List MetricSample) : List (ℤ × Time × GPUMetric) :=
  samples.flatMap fun sample =>
    sample.gpus.zipIdx.map fun (gpu, position) =>
      (if gpu.index < 0 then (position : ℤ) else gpu.index, sample.receivedAt, gpu)

/-- The series of a metric of the GPUs of a node, or an empty one when there is no GPU. -/
def komariGPUDeviceSeries (nodeID metric : String) (definition : KomariMetricDefinition)
    (samples : List MetricSample) (maxPoints : ℤ) : List MetricSeries :=
  let readings := gpuReadings samples
  let order := (readings.map (·.1)).eraseDups.insertionSort (· ≤ ·)
  let result := order.map fun index =>
    let device := readings.filter (·.1 = index)
    let name := (device.head?.map fun (_, _, gpu) => gpu.name).getD ""
    let points := device.map fun (_, at', gpu) =>
      { time := at', value := some (gpuDeviceValue metric gpu) : MetricPoint }
    komariMetricSeries metric nodeID definition
      [("device_index", toString index), ("device_name", name)] points maxPoints
  if result = [] then [komariMetricSeries metric nodeID definition [] [] maxPoints] else result

/-! ## Series of probes -/

section Queries

variable (P : Platform) (params : Params)

/-- The task that the tags of a query name. -/
def requestedTask : String :=
  match params.lookup "tags" with
  | some (.object tags) => trimSpace (stringParam P tags "task_id")
  | _ => ""

/-- The value of a result as a point of a series. -/
def probePoint (metric : String) (fillEmpty : Bool) (record : ProbeResult) : MetricPoint :=
  let value :=
    if metric = "ping.loss" then effectiveProbeLoss record / 100
    else if !record.success then -1 else record.latencyMS
  { time := record.receivedAt
    value := if fillEmpty && metric = "ping.latency_ms" && value < 0 then none else some value }

/-- The series of the tasks of a node, from results. -/
def probeSeries (nodeID metric : String) (definition : KomariMetricDefinition) (fillEmpty : Bool)
    (maxPoints : ℤ) (tasks : List ProbeTask) (records : List ProbeResult) : List MetricSeries :=
  let result := tasks.map fun task =>
    komariMetricSeries metric nodeID definition [("task_id", toString task.id)]
      ((records.filter (·.taskID = task.id)).map (probePoint metric fillEmpty)) maxPoints
  if result = [] then [komariMetricSeries metric nodeID definition [] [] maxPoints] else result

/-- The tasks that a query for series asks for. -/
def requestedTasks (tasks : List ProbeTask) : List ProbeTask :=
  tasks.filter fun task => requestedTask P params = "" ∨ requestedTask P params = toString task.id

/-- The query for the results of the tasks of a node. -/
def probeSeriesQuery (nodeID : String) (start endAt : Time) (maxPoints : ℤ)
    (tasks : List ProbeTask) : ProbeQuery :=
  ⟨nodeID, 0, start, endAt, min 20000 (maxPoints * max 1 tasks.length)⟩

/-- The series of the probes of a node. -/
def rpcProbeMetricSeries (nodeID metric : String) (definition : KomariMetricDefinition)
    (start endAt : Time) (maxPoints : ℤ) (fillEmpty : Bool) :
    Serve (Except StoreError (List MetricSeries)) := do
  match ← call (.listProbeTasks nodeID) with
  | .error e => return .error e
  | .ok listed =>
    let tasks := requestedTasks P params listed
    match ← call (.probeHistory (probeSeriesQuery nodeID start endAt maxPoints tasks)) with
    | .error e => return .error e
    | .ok records =>
      return .ok (probeSeries nodeID metric definition fillEmpty maxPoints tasks records)

/-! ## Queries for series -/

/-- The metrics that a query names. -/
def namedMetrics : List String :=
  let keys := stringSliceParam P params "metric_keys"
  let keys := if keys ≠ [] then keys else stringSliceParam P params "metrics"
  if keys ≠ [] then keys
  else if stringParam P params "metric_key" ≠ "" then [stringParam P params "metric_key"] else []

/-- What a query for series asks for. -/
structure SeriesQuery where
  metrics : List String
  start : Time
  endAt : Time
  maxPoints : ℤ
  fillEmpty : Bool

/-- The series that a query asks for. -/
structure MetricAnswer where
  start : Time
  endAt : Time
  series : List MetricSeries
deriving DecidableEq

/-- The metrics of a query that are not known. -/
def unknownMetric (metrics : List String) : Option String :=
  metrics.find? fun metric => (komariMetricDefinitionFor metric).isNone

/-- A query for the series of some metrics. -/
def seriesQuery (clock : Time) (metrics : List String) : Except Complaint SeriesQuery := do
  let (start, endAt) ← rpcWindow P params clock
  let maxPoints := P.toInt64 (numberParam P params "max_points" 500)
  if maxPoints ≤ 0 then .error "max_points must be a positive integer"
  else
    let fillEmpty := match params.lookup "fill_empty" with
      | some (.bool value) => value
      | _ => false
    .ok ⟨metrics, start, endAt, min maxPoints 4000, fillEmpty⟩

/-- The samples of a node that a request may see. -/
def visibleSamples (clock : Time) (authenticated : Bool) (query : SeriesQuery) (nodeID : String) :
    Serve (Except StoreError (Option (String × List MetricSample))) := do
  match ← ensureVisibleNode nodeID authenticated with
  | .error _ => return .ok none
  | .ok () =>
    match ← call (.history ⟨nodeID, query.start, query.endAt, query.maxPoints⟩ clock) with
    | .error e => return .error e
    | .ok samples => return .ok (some (nodeID, samples))

/-- The metrics of probes. -/
def isProbeMetric (metric : String) : Bool := metric = "ping.latency_ms" ∨ metric = "ping.loss"

/-- The series of a metric of a node. -/
def nodeSeries (query : SeriesQuery) (metric : String) (nodeSamples : String × List MetricSample) :
    Serve (Except StoreError (List MetricSeries)) :=
  let definition := (komariMetricDefinitionFor metric).getD ⟨"", "", "", ""⟩
  if isProbeMetric metric then
    rpcProbeMetricSeries P params nodeSamples.1 metric definition query.start query.endAt
      query.maxPoints query.fillEmpty
  else if isKomariGPUDeviceMetric metric then
    return .ok (komariGPUDeviceSeries nodeSamples.1 metric definition nodeSamples.2
      query.maxPoints)
  else return .ok [sampleSeries nodeSamples.1 metric definition nodeSamples.2 query.maxPoints]

/-- The series of the metrics of the nodes. -/
def allSeries (query : SeriesQuery) (samples : List (String × List MetricSample)) :
    Serve (Except StoreError (List MetricSeries)) := do
  let pairs := query.metrics.flatMap fun metric => samples.map fun node => (metric, node)
  match ← eachOK (fun pair => nodeSeries P params query pair.1 pair.2) pairs with
  | .error e => return .error e
  | .ok series => return .ok series.flatten

/-- The series that a query asks for. -/
def rpcQueryMetrics (clock : Time) (authenticated : Bool) : Serve (Except Complaint MetricAnswer) :=
  let metrics := namedMetrics P params
  if metrics = [] then return .error "metric key is required"
  else
    match unknownMetric metrics with
    | some metric => return .error ("unknown metric key: " ++ metric)
    | none => do
      match ← queriedNodes (namedNodes P params (stringParam P params "entity_id"))
          authenticated with
      | .error e => return .error e.text
      | .ok nodeIDs =>
        match seriesQuery P params clock metrics with
        | .error e => return .error e
        | .ok query =>
          match ← eachOK (visibleSamples clock authenticated query) nodeIDs.eraseDups with
          | .error e => return .error e.text
          | .ok samples =>
            match ← allSeries P params query (samples.filterMap id) with
            | .error e => return .error e.text
            | .ok series => return .ok ⟨query.start, query.endAt, series⟩

/-! ## Statistics of probes -/

/-- The tasks to which a query is limited; without any it is not limited. -/
def rpcTaskIDFilter : List ℤ :=
  let raw : Param → String
    | .number value => toString (P.toInt64 value)
    | value => trimSpace (printParam P value)
  let add : Param → Option ℤ
    | .null => none
    | value =>
      let (id, ok) := P.parseInt (raw value)
      if ok ∧ 0 < id then some id else none
  let single := (params.lookup "task_id").toList
  let many := match params.lookup "task_ids" with
    | some (.array values) => values
    | _ => []
  (single ++ many).filterMap add

/-- The order of numbers in a sorted list, where what is no number comes first. -/
def floatBefore (a b : Float) : Bool := a.isNaN || a ≤ b

/-- A value of a sorted list below which a fraction of the values lies. -/
def percentile (sorted : List Float) (fraction : Float) : Float :=
  if sorted = [] then 0
  else if sorted.length = 1 ∨ fraction ≤ 0 then sorted.headD 0
  else if 1 ≤ fraction then sorted.getLastD 0
  else
    let position := (sorted.length - 1).toFloat * fraction
    let lower := (P.toInt64 position.floor).toNat
    let upper := (P.toInt64 position.ceil).toNat
    if lower = upper then sorted.getD lower 0
    else
      sorted.getD lower 0 +
        (sorted.getD upper 0 - sorted.getD lower 0) * (position - Float.ofInt lower)

/-- The statistics of latencies. -/
structure LatencySummary where
  min : Float
  max : Float
  avg : Float
  latest : Float
  p50 : Float
  p99 : Float
  stddev : Float
  ratio : Float
deriving DecidableEq

/-- What a task is called. -/
structure PingStatTask where
  name : String
  type : ProbeType
  interval : ℤ
deriving DecidableEq

/-- The statistics of a task of a node. -/
structure PingStat where
  entityID : String
  taskID : ℤ
  total : ℕ
  valid : ℕ
  loss : Float
  task : Option PingStatTask
  latency : Option LatencySummary
deriving DecidableEq

/-- The statistics of some latencies. -/
def latencySummary (values : List Float) : LatencySummary :=
  let sorted := values.insertionSort fun a b => floatBefore a b
  let count := values.length.toFloat
  let average := values.foldl (· + ·) 0 / count
  let p50 := percentile P sorted 0.50
  let p99 := percentile P sorted 0.99
  let variance := values.foldl (fun sum value => sum + (value - average) * (value - average)) 0
  { min := sorted.headD 0, max := sorted.getLastD 0, avg := average, latest := values.getLastD 0
    p50, p99, stddev := (variance / count).sqrt
    ratio :=
      if 0 < p50 ∧ p50 ≤ p99 then (p99 - p50) / floatMax (floatMin p50 50) 10 else 0 }

/-- The statistics of a task of a node. -/
def komariPingStat (nodeID : String) (taskID : ℤ) (task : ProbeTask) (records : List ProbeResult) :
    PingStat :=
  let values := (records.filter fun record => record.success && !(record.latencyMS < 0)).map
    (·.latencyMS)
  let lossTotal := records.foldl (fun sum record => sum + effectiveProbeLoss record) 0
  { entityID := nodeID, taskID, total := records.length, valid := values.length
    loss := if records = [] then 0 else lossTotal / records.length.toFloat
    task := if task.id ≠ 0 then some ⟨task.name, task.type, task.intervalSeconds⟩ else none
    latency := if values = [] then none else some (latencySummary P values) }

/-- The order of statistics. -/
def statBefore (a b : String × ℤ) : Bool :=
  if a.1 = b.1 then toString a.2 ≤ toString b.2 else a.1 ≤ b.1

/-- The statistics of the tasks of the nodes. -/
def pingStats (tasks : List ProbeTask) (records : List (String × ProbeResult)) : List PingStat :=
  let groups := (records.map fun (nodeID, record) => (nodeID, record.taskID)).eraseDups
  (groups.insertionSort fun a b => statBefore a b).map fun (nodeID, taskID) =>
    komariPingStat P nodeID taskID (taskByID tasks taskID)
      ((records.filter fun (id, record) => id = nodeID ∧ record.taskID = taskID).map (·.2))

/-- The statistics that a query asks for. -/
structure PingStatsAnswer where
  start : Time
  endAt : Time
  intervalSeconds : Float
  stats : List PingStat
deriving DecidableEq

/-- A duration in seconds. -/
def seconds (d : Duration) : Float :=
  Float.ofInt (d.tdiv 1000000000) + Float.ofInt (d.tmod 1000000000) / 1000000000

/-- The seconds between the points of a window. -/
def pointInterval (start endAt : Time) : Float :=
  let points := P.toInt64 (numberParam P params "max_points" 500)
  let points := if points ≤ 0 then 500 else points
  let interval := (seconds (sub endAt start) / Float.ofInt points).ceil
  if interval < 1 then 1 else interval

/-- The query for the results of a node. -/
def pingStatsQuery (nodeID : String) (start endAt : Time) : ProbeQuery :=
  ⟨nodeID, 0, start, endAt, 20000⟩

/-- The results of a node that a request may see. -/
def visibleResults (authenticated : Bool) (start endAt : Time) (nodeID : String) :
    Serve (Except StoreError (List (String × ProbeResult))) := do
  match ← ensureVisibleNode nodeID authenticated with
  | .error _ => return .ok []
  | .ok () =>
    match ← call (.probeHistory (pingStatsQuery nodeID start endAt)) with
    | .error e => return .error e
    | .ok records =>
      let taskFilter := rpcTaskIDFilter P params
      return .ok ((records.filter fun record =>
        taskFilter = [] ∨ record.taskID ∈ taskFilter).map fun record => (nodeID, record))

/-- The nodes that a query for statistics names. -/
def pingStatsNodes : List String :=
  namedNodes P params
    (firstNonEmpty [stringParam P params "entity_id", stringParam P params "uuid"])

/-- The statistics that a query asks for. -/
def rpcPingStats (clock : Time) (authenticated : Bool) :
    Serve (Except Complaint PingStatsAnswer) :=
  match rpcWindow P params clock with
  | .error e => return .error e
  | .ok (start, endAt) => do
    match ← queriedNodes (pingStatsNodes P params) authenticated with
    | .error e => return .error e.text
    | .ok nodeIDs =>
      match ← call (.listProbeTasks "") with
      | .error e => return .error e.text
      | .ok tasks =>
        match ← eachOK (visibleResults P params authenticated start endAt) nodeIDs.eraseDups with
        | .error e => return .error e.text
        | .ok records =>
          return .ok ⟨start, endAt, pointInterval P params start endAt,
            pingStats P tasks records.flatten⟩

end Queries

end Hostpin
