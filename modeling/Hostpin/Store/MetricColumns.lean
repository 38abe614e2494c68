import Hostpin.Foundation.Json
import Hostpin.Store.Metrics

/-!
# The columns of a metric row

A sample is written and read by position: the names of the columns, the arguments of the statement
and the variables that a row is read into are three lists of the same twenty-nine things.
`MetricRow` names the columns instead; this file is about the lists.

* `metricArguments` are the arguments, `driverValue` is what the driver makes of one, and
  `scanValues` reads a row variable by variable.
* `mapM_driverValue` and `scanValues_value` say that the lists are the ones of `MetricRow`.
* `roundTrips_iff` says which samples are read back as they were written.

The driver takes an unsigned argument only below `2 ^ 63`.  Every counter is cut off there, except
the sequence number.
-/

namespace Hostpin

open Json

/-! ## Columns -/

/-- A column of the table of samples. -/
inductive MetricColumn where
  | nodeID
  | ts
  | sequence
  | collectedAt
  | bootID
  | clockOffsetMS
  | cpu
  | load1
  | load5
  | load15
  | memoryTotal
  | memoryUsed
  | swapTotal
  | swapUsed
  | diskTotal
  | diskUsed
  | netRxBPS
  | netTxBPS
  | netRxBytes
  | netTxBytes
  | monthlyRxBytes
  | monthlyTxBytes
  | tcpConnections
  | udpConnections
  | processes
  | temperature
  | uptimeSeconds
  | detailsJSON
  | message
deriving DecidableEq

/-- The name of a column. -/
def MetricColumn.name : MetricColumn → String
  | .nodeID => "node_id"
  | .ts => "ts"
  | .sequence => "sequence"
  | .collectedAt => "collected_at"
  | .bootID => "boot_id"
  | .clockOffsetMS => "clock_offset_ms"
  | .cpu => "cpu"
  | .load1 => "load1"
  | .load5 => "load5"
  | .load15 => "load15"
  | .memoryTotal => "memory_total"
  | .memoryUsed => "memory_used"
  | .swapTotal => "swap_total"
  | .swapUsed => "swap_used"
  | .diskTotal => "disk_total"
  | .diskUsed => "disk_used"
  | .netRxBPS => "net_rx_bps"
  | .netTxBPS => "net_tx_bps"
  | .netRxBytes => "net_rx_bytes"
  | .netTxBytes => "net_tx_bytes"
  | .monthlyRxBytes => "monthly_rx_bytes"
  | .monthlyTxBytes => "monthly_tx_bytes"
  | .tcpConnections => "tcp_connections"
  | .udpConnections => "udp_connections"
  | .processes => "processes"
  | .temperature => "temperature"
  | .uptimeSeconds => "uptime_seconds"
  | .detailsJSON => "details_json"
  | .message => "message"

/-- The columns that are written and read, in order. -/
def metricColumns : List MetricColumn :=
  [.nodeID, .ts, .sequence, .collectedAt, .bootID, .clockOffsetMS, .cpu, .load1, .load5, .load15,
   .memoryTotal, .memoryUsed, .swapTotal, .swapUsed, .diskTotal, .diskUsed, .netRxBPS, .netTxBPS,
   .netRxBytes, .netTxBytes, .monthlyRxBytes, .monthlyTxBytes, .tcpConnections, .udpConnections,
   .processes, .temperature, .uptimeSeconds, .detailsJSON, .message]

/-- The columns that a row takes over when there is a row of the same node and instant. -/
def conflictColumns : List MetricColumn :=
  [.sequence, .collectedAt, .bootID, .clockOffsetMS, .cpu, .load1, .load5, .load15, .memoryTotal,
   .memoryUsed, .swapTotal, .swapUsed, .diskTotal, .diskUsed, .netRxBPS, .netTxBPS, .netRxBytes,
   .netTxBytes, .monthlyRxBytes, .monthlyTxBytes, .tcpConnections, .udpConnections, .processes,
   .temperature, .uptimeSeconds, .detailsJSON, .message]

example : ", ".intercalate (metricColumns.map MetricColumn.name) = "node_id, ts, sequence, " ++
    "collected_at, boot_id, clock_offset_ms, cpu, load1, load5, load15, memory_total, " ++
    "memory_used, swap_total, swap_used, disk_total, disk_used, net_rx_bps, net_tx_bps, " ++
    "net_rx_bytes, net_tx_bytes, monthly_rx_bytes, monthly_tx_bytes, tcp_connections, " ++
    "udp_connections, processes, temperature, uptime_seconds, details_json, message" := by
  decide +kernel

/-- No column is left out. -/
lemma mem_metricColumns (c : MetricColumn) : c ∈ metricColumns := by
  cases c <;> decide

/-- Only the two columns of the key are not taken over. -/
lemma mem_conflictColumns (c : MetricColumn) :
    c ∈ conflictColumns ↔ c ≠ .nodeID ∧ c ≠ .ts := by
  cases c <;> decide

/-! ## Details -/

/-- A number that is left out when it is zero; negative zero counts as zero. -/
def realOmitempty (x : Float) : Option Json := Codec.real.omitWhen (· == 0) x

/-- A number that was left out when it was zero, as it is read. -/
def rereadReal (x : Float) : Float := if x == 0 then 0 else x

/-- The members of a file system. -/
def diskMembers (d : DiskMetric) : List (String × Option Json) :=
  [("mountpoint", Codec.text.always d.mountpoint),
   ("filesystem", Codec.text.omitempty "" d.filesystem), ("total", Codec.counter.always d.total),
   ("used", Codec.counter.always d.used), ("read_bps", realOmitempty d.readBPS),
   ("write_bps", realOmitempty d.writeBPS), ("read_iops", realOmitempty d.readIOPS),
   ("write_iops", realOmitempty d.writeIOPS), ("await_ms", realOmitempty d.awaitMS),
   ("utilization", realOmitempty d.utilization)]

/-- Read a file system. -/
def decodeDisk (json : Json) : Option DiskMetric := do
  let mountpoint ← json.read .text "" "mountpoint"
  let filesystem ← json.read .text "" "filesystem"
  let total ← json.read .counter 0 "total"
  let used ← json.read .counter 0 "used"
  let readBPS ← json.read .real 0 "read_bps"
  let writeBPS ← json.read .real 0 "write_bps"
  let readIOPS ← json.read .real 0 "read_iops"
  let writeIOPS ← json.read .real 0 "write_iops"
  let awaitMS ← json.read .real 0 "await_ms"
  let utilization ← json.read .real 0 "utilization"
  return { mountpoint, filesystem, total, used, readBPS, writeBPS, readIOPS, writeIOPS, awaitMS,
           utilization }

/-- A file system as it is read back. -/
def DiskMetric.reread (d : DiskMetric) : DiskMetric :=
  { d with
    readBPS := rereadReal d.readBPS
    writeBPS := rereadReal d.writeBPS
    readIOPS := rereadReal d.readIOPS
    writeIOPS := rereadReal d.writeIOPS
    awaitMS := rereadReal d.awaitMS
    utilization := rereadReal d.utilization }

lemma decodeDisk_diskMembers (d : DiskMetric) :
    decodeDisk (ofMembers (diskMembers d)) = some d.reread := by
  have hnodup : ((diskMembers d).map Prod.fst).Nodup := by simp [diskMembers]
  simp only [decodeDisk, read_ofMembers hnodup]
  simp [diskMembers, List.lookup, realOmitempty, DiskMetric.reread, rereadReal]

/-- The members of a network interface. -/
def networkMembers (n : NetworkMetric) : List (String × Option Json) :=
  [("interface", Codec.text.always n.interface), ("rx_bps", Codec.real.always n.rxBPS),
   ("tx_bps", Codec.real.always n.txBPS), ("rx_bytes", Codec.counter.always n.rxBytes),
   ("tx_bytes", Codec.counter.always n.txBytes)]

/-- Read a network interface. -/
def decodeNetwork (json : Json) : Option NetworkMetric := do
  let interface ← json.read .text "" "interface"
  let rxBPS ← json.read .real 0 "rx_bps"
  let txBPS ← json.read .real 0 "tx_bps"
  let rxBytes ← json.read .counter 0 "rx_bytes"
  let txBytes ← json.read .counter 0 "tx_bytes"
  return { interface, rxBPS, txBPS, rxBytes, txBytes }

lemma decodeNetwork_networkMembers (n : NetworkMetric) :
    decodeNetwork (ofMembers (networkMembers n)) = some n := by
  have hnodup : ((networkMembers n).map Prod.fst).Nodup := by simp [networkMembers]
  simp only [decodeNetwork, read_ofMembers hnodup]
  simp [networkMembers, List.lookup]

/-- The members of a GPU. -/
def gpuMembers (g : GPUMetric) : List (String × Option Json) :=
  [("index", Codec.int.always g.index), ("name", Codec.text.always g.name),
   ("utilization", Codec.real.always g.utilization),
   ("memory_total", Codec.counter.omitempty 0 g.memoryTotal),
   ("memory_used", Codec.counter.omitempty 0 g.memoryUsed),
   ("temperature", realOmitempty g.temperature)]

/-- Read a GPU. -/
def decodeGPU (json : Json) : Option GPUMetric := do
  let index ← json.read .int 0 "index"
  let name ← json.read .text "" "name"
  let utilization ← json.read .real 0 "utilization"
  let memoryTotal ← json.read .counter 0 "memory_total"
  let memoryUsed ← json.read .counter 0 "memory_used"
  let temperature ← json.read .real 0 "temperature"
  return { index, name, utilization, memoryTotal, memoryUsed, temperature }

/-- A GPU as it is read back. -/
def GPUMetric.reread (g : GPUMetric) : GPUMetric :=
  { g with temperature := rereadReal g.temperature }

lemma decodeGPU_gpuMembers (g : GPUMetric) :
    decodeGPU (ofMembers (gpuMembers g)) = some g.reread := by
  have hnodup : ((gpuMembers g).map Prod.fst).Nodup := by simp [gpuMembers]
  simp only [decodeGPU, read_ofMembers hnodup]
  simp [gpuMembers, List.lookup, realOmitempty, GPUMetric.reread, rereadReal]

/-- The numbers of a sample that are stored as JSON. -/
def MetricDetails.numbers (d : MetricDetails) : List Float :=
  d.disks.flatMap (fun disk => [disk.readBPS, disk.writeBPS, disk.readIOPS, disk.writeIOPS,
    disk.awaitMS, disk.utilization]) ++
  d.networks.flatMap (fun network => [network.rxBPS, network.txBPS]) ++
  d.gpus.flatMap fun gpu => [gpu.utilization, gpu.temperature]

/-- JSON has only finite numbers. -/
def MetricDetails.finite (d : MetricDetails) : Bool := d.numbers.all Float.isFinite

/-- The members of the details. -/
def detailsMembers (d : MetricDetails) : List (String × Option Json) :=
  [("disks", writeArray (fun disk => ofMembers (diskMembers disk)) d.disks),
   ("networks", writeArray (fun network => ofMembers (networkMembers network)) d.networks),
   ("gpus", writeArray (fun gpu => ofMembers (gpuMembers gpu)) d.gpus)]

/-- Read the details. -/
def decodeDetails (json : Json) : Option MetricDetails := do
  let disks ← readArray decodeDisk (json.member? "disks")
  let networks ← readArray decodeNetwork (json.member? "networks")
  let gpus ← readArray decodeGPU (json.member? "gpus")
  return { disks, networks, gpus }

/-- The details as they are read back. -/
def MetricDetails.reread (d : MetricDetails) : MetricDetails where
  disks := d.disks.map DiskMetric.reread
  networks := d.networks
  gpus := d.gpus.map GPUMetric.reread

lemma decodeDetails_detailsMembers (d : MetricDetails) :
    decodeDetails (ofMembers (detailsMembers d)) = some d.reread := by
  have hnodup : ((detailsMembers d).map Prod.fst).Nodup := by simp [detailsMembers]
  simp only [decodeDetails, member?_ofMembers hnodup]
  simp [detailsMembers, List.lookup, readArray_writeArray decodeDisk_diskMembers,
    readArray_writeArray decodeNetwork_networkMembers, readArray_writeArray decodeGPU_gpuMembers,
    MetricDetails.reread]

/-! ## Writing a row -/

/-- An argument of a statement.  A text that holds a JSON value is kept as the value. -/
inductive DriverArg where
  | text (value : String)
  | document (value : Json)
  | int64 (value : ℤ)
  | uint64 (value : UInt64)
  | float64 (value : Float)

/-- A value in a column. -/
inductive SQLValue where
  | text (value : String)
  | document (value : Json)
  | integer (value : ℤ)
  | real (value : Float)

/-- The value that the driver stores for an argument.  It refuses an unsigned integer whose highest
bit is set. -/
def driverValue : DriverArg → Option SQLValue
  | .text value => some (.text value)
  | .document value => some (.document value)
  | .int64 value => some (.integer value)
  | .uint64 value => if value < 9223372036854775808 then some (.integer value.toNat) else none
  | .float64 value => some (.real value)

/-- The text of the details; it is empty when they cannot be written. -/
def encodeDetails (d : MetricDetails) : DriverArg :=
  if d.finite then .document (ofMembers (detailsMembers d)) else .text ""

/-- The details of a sample. -/
def MetricSample.details (sample : MetricSample) : MetricDetails :=
  ⟨sample.disks, sample.networks, sample.gpus⟩

/-- The arguments of the statement that stores a sample, in order. -/
def metricArguments (sample : MetricSample) : List DriverArg :=
  [.text sample.nodeID, .int64 (Clock.unixMilli sample.receivedAt), .uint64 sample.sequence,
   .int64 (Clock.unixMilli sample.collectedAt), .text sample.bootID, .int64 sample.clockOffsetMS,
   .float64 sample.cpu, .float64 sample.load1, .float64 sample.load5, .float64 sample.load15,
   .int64 (metricCounter sample.memoryTotal), .int64 (metricCounter sample.memoryUsed),
   .int64 (metricCounter sample.swapTotal), .int64 (metricCounter sample.swapUsed),
   .int64 (metricCounter sample.diskTotal), .int64 (metricCounter sample.diskUsed),
   .float64 sample.netRxBPS, .float64 sample.netTxBPS, .int64 (metricCounter sample.netRxBytes),
   .int64 (metricCounter sample.netTxBytes), .int64 (metricCounter sample.monthlyRxBytes),
   .int64 (metricCounter sample.monthlyTxBytes), .int64 sample.tcpConnections,
   .int64 sample.udpConnections, .int64 sample.processes, .float64 sample.temperature,
   .int64 (metricCounter sample.uptimeSeconds), encodeDetails sample.details, .text sample.message]

/-- A row, by column. -/
abbrev SQLRow := MetricColumn → Option SQLValue

/-- The row that the arguments of a statement make, when the driver takes them all and there is one
for each column. -/
def insertedRow (args : List DriverArg) : Option SQLRow := do
  let values ← args.mapM driverValue
  if values.length = metricColumns.length then
    some fun c => (metricColumns.zip values).lookup c
  else none

/-- The row that is stored: a row of the same node and instant takes the values over. -/
def storedRow (old : Option SQLRow) (new : SQLRow) : SQLRow :=
  match old with
  | none => new
  | some old => fun c => if c ∈ conflictColumns then new c else old c

/-- Two rows of the same node and instant. -/
def SQLRow.SameKey (row row' : SQLRow) : Prop :=
  row .nodeID = row' .nodeID ∧ row .ts = row' .ts

/-- A row that takes the values of another one of the same node and instant over is this one. -/
lemma storedRow_eq {old : Option SQLRow} {new : SQLRow}
    (hkey : ∀ row, old = some row → row.SameKey new) : storedRow old new = new := by
  cases old with
  | none => rfl
  | some row =>
    obtain ⟨hnode, hts⟩ := hkey row rfl
    funext c
    by_cases hc : c ∈ conflictColumns
    · exact if_pos hc
    · have hvalue : storedRow (some row) new c = row c := if_neg hc
      rw [hvalue]
      rw [mem_conflictColumns, not_and_or, not_not, not_not] at hc
      obtain rfl | rfl := hc
      · exact hnode
      · exact hts

/-! ## Reading a row -/

/-- A reader of the columns of a row, one after the other. -/
abbrev Scan := StateT (List (Option SQLValue)) Option

/-- Read a text. -/
def scanText : Scan String
  | some (.text value) :: rest => some (value, rest)
  | _ => none

/-- Read an integer. -/
def scanInt : Scan ℤ
  | some (.integer value) :: rest => some (value, rest)
  | _ => none

/-- Read a number. -/
def scanReal : Scan Float
  | some (.real value) :: rest => some (value, rest)
  | _ => none

/-- Read a text as JSON; another text is not JSON. -/
def scanDocument : Scan (Option Json)
  | some (.document value) :: rest => some (some value, rest)
  | some (.text _) :: rest => some (none, rest)
  | _ => none

/-- The details of a text; they are empty when it cannot be read. -/
def unmarshalDetails (raw : Option Json) : MetricDetails := (raw.bind decodeDetails).getD {}

/-- Read the columns into the variables of a sample. -/
def scanValues : Scan MetricSample := do
  let nodeID ← scanText
  let ts ← scanInt
  let sequence ← scanInt
  let collectedAt ← scanInt
  let bootID ← scanText
  let clockOffsetMS ← scanInt
  let cpu ← scanReal
  let load1 ← scanReal
  let load5 ← scanReal
  let load15 ← scanReal
  let memoryTotal ← scanInt
  let memoryUsed ← scanInt
  let swapTotal ← scanInt
  let swapUsed ← scanInt
  let diskTotal ← scanInt
  let diskUsed ← scanInt
  let netRxBPS ← scanReal
  let netTxBPS ← scanReal
  let netRxBytes ← scanInt
  let netTxBytes ← scanInt
  let monthlyRxBytes ← scanInt
  let monthlyTxBytes ← scanInt
  let tcpConnections ← scanInt
  let udpConnections ← scanInt
  let processes ← scanInt
  let temperature ← scanReal
  let uptimeSeconds ← scanInt
  let detailsRaw ← scanDocument
  let message ← scanText
  let details := unmarshalDetails detailsRaw
  return {
    nodeID
    sequence := scanCounter sequence
    collectedAt := Clock.ofUnixMilli collectedAt
    receivedAt := Clock.ofUnixMilli ts
    bootID, clockOffsetMS, cpu, load1, load5, load15
    memoryTotal := scanCounter memoryTotal
    memoryUsed := scanCounter memoryUsed
    swapTotal := scanCounter swapTotal
    swapUsed := scanCounter swapUsed
    diskTotal := scanCounter diskTotal
    diskUsed := scanCounter diskUsed
    netRxBPS, netTxBPS
    netRxBytes := scanCounter netRxBytes
    netTxBytes := scanCounter netTxBytes
    monthlyRxBytes := scanCounter monthlyRxBytes
    monthlyTxBytes := scanCounter monthlyTxBytes
    tcpConnections, udpConnections, processes, temperature
    uptimeSeconds := scanCounter uptimeSeconds
    disks := details.disks
    networks := details.networks
    gpus := details.gpus
    message }

/-- The sample of a row: every column is read into its variable. -/
def scanRow (row : SQLRow) : Option MetricSample :=
  match scanValues (metricColumns.map row) with
  | some (sample, []) => some sample
  | _ => none

/-! ## The lists and the record -/

/-- The text of the details in a column. -/
def detailsValue (d : MetricDetails) : SQLValue :=
  if d.finite then .document (ofMembers (detailsMembers d)) else .text ""

/-- The value of a column. -/
def MetricRow.value (r : MetricRow) : MetricColumn → SQLValue
  | .nodeID => .text r.nodeID
  | .ts => .integer r.ts
  | .sequence => .integer r.sequence
  | .collectedAt => .integer r.collectedAt
  | .bootID => .text r.bootID
  | .clockOffsetMS => .integer r.clockOffsetMS
  | .cpu => .real r.cpu
  | .load1 => .real r.load1
  | .load5 => .real r.load5
  | .load15 => .real r.load15
  | .memoryTotal => .integer r.memoryTotal
  | .memoryUsed => .integer r.memoryUsed
  | .swapTotal => .integer r.swapTotal
  | .swapUsed => .integer r.swapUsed
  | .diskTotal => .integer r.diskTotal
  | .diskUsed => .integer r.diskUsed
  | .netRxBPS => .real r.netRxBPS
  | .netTxBPS => .real r.netTxBPS
  | .netRxBytes => .integer r.netRxBytes
  | .netTxBytes => .integer r.netTxBytes
  | .monthlyRxBytes => .integer r.monthlyRxBytes
  | .monthlyTxBytes => .integer r.monthlyTxBytes
  | .tcpConnections => .integer r.tcpConnections
  | .udpConnections => .integer r.udpConnections
  | .processes => .integer r.processes
  | .temperature => .real r.temperature
  | .uptimeSeconds => .integer r.uptimeSeconds
  | .detailsJSON => detailsValue r.details
  | .message => .text r.message

/-- The argument of a sample for a column. -/
def MetricSample.argument (sample : MetricSample) : MetricColumn → DriverArg
  | .nodeID => .text sample.nodeID
  | .ts => .int64 (Clock.unixMilli sample.receivedAt)
  | .sequence => .uint64 sample.sequence
  | .collectedAt => .int64 (Clock.unixMilli sample.collectedAt)
  | .bootID => .text sample.bootID
  | .clockOffsetMS => .int64 sample.clockOffsetMS
  | .cpu => .float64 sample.cpu
  | .load1 => .float64 sample.load1
  | .load5 => .float64 sample.load5
  | .load15 => .float64 sample.load15
  | .memoryTotal => .int64 (metricCounter sample.memoryTotal)
  | .memoryUsed => .int64 (metricCounter sample.memoryUsed)
  | .swapTotal => .int64 (metricCounter sample.swapTotal)
  | .swapUsed => .int64 (metricCounter sample.swapUsed)
  | .diskTotal => .int64 (metricCounter sample.diskTotal)
  | .diskUsed => .int64 (metricCounter sample.diskUsed)
  | .netRxBPS => .float64 sample.netRxBPS
  | .netTxBPS => .float64 sample.netTxBPS
  | .netRxBytes => .int64 (metricCounter sample.netRxBytes)
  | .netTxBytes => .int64 (metricCounter sample.netTxBytes)
  | .monthlyRxBytes => .int64 (metricCounter sample.monthlyRxBytes)
  | .monthlyTxBytes => .int64 (metricCounter sample.monthlyTxBytes)
  | .tcpConnections => .int64 sample.tcpConnections
  | .udpConnections => .int64 sample.udpConnections
  | .processes => .int64 sample.processes
  | .temperature => .float64 sample.temperature
  | .uptimeSeconds => .int64 (metricCounter sample.uptimeSeconds)
  | .detailsJSON => encodeDetails sample.details
  | .message => .text sample.message

/-- Every argument stands at the place of its column. -/
lemma metricArguments_eq (sample : MetricSample) :
    metricArguments sample = metricColumns.map sample.argument := rfl

lemma driverValue_encodeDetails (d : MetricDetails) :
    driverValue (encodeDetails d) = some (detailsValue d) := by
  unfold encodeDetails detailsValue
  split <;> rfl

/-- The driver takes every argument but a great sequence number, and stores the value of the row. -/
lemma driverValue_argument {sample : MetricSample} (h : sample.sequence < 9223372036854775808)
    (c : MetricColumn) : driverValue (sample.argument c) = some ((metricArgs sample).value c) := by
  cases c with
  | sequence => exact if_pos h
  | detailsJSON => exact driverValue_encodeDetails sample.details
  | _ => rfl

/-- The driver stores the values of the row, column by column. -/
lemma mapM_driverValue {sample : MetricSample} (h : sample.sequence < 9223372036854775808) :
    (metricArguments sample).mapM driverValue =
      some (metricColumns.map (metricArgs sample).value) := by
  rw [metricArguments_eq]
  exact mapM_map (driverValue_argument h) metricColumns

lemma lookup_zip_map {α β : Type} [DecidableEq α] {l : List α} (f : α → β) {a : α} (h : a ∈ l) :
    (l.zip (l.map f)).lookup a = some (f a) := by
  induction l with
  | nil => simp at h
  | cons b l ih =>
    rw [List.map_cons, List.zip_cons_cons, List.lookup_cons]
    by_cases hab : a = b
    · subst hab
      simp
    · rw [beq_false_of_ne hab]
      exact ih ((List.mem_cons.mp h).resolve_left hab)

/-- The row that is inserted is the one that names the columns. -/
lemma insertedRow_metricArguments {sample : MetricSample}
    (h : sample.sequence < 9223372036854775808) :
    insertedRow (metricArguments sample) = some fun c => some ((metricArgs sample).value c) := by
  have hrow : (fun c => (metricColumns.zip (metricColumns.map (metricArgs sample).value)).lookup c) =
      fun c => some ((metricArgs sample).value c) := by
    funext c
    exact lookup_zip_map _ (mem_metricColumns c)
  have hlength : (metricColumns.map (metricArgs sample).value).length = metricColumns.length :=
    List.length_map _
  unfold insertedRow
  rw [mapM_driverValue h, Option.bind_eq_bind, Option.bind_some, if_pos hlength, hrow]

/-- A row as it is read back: details that could not be written are empty. -/
def MetricRow.reread (r : MetricRow) : MetricRow :=
  { r with details := if r.details.finite then r.details.reread else {} }

/-- Every column is read into the variable of its field. -/
lemma scanRow_value (r : MetricRow) :
    scanRow (fun c => some (r.value c)) = some (scanMetric r.reread) := by
  cases hfinite : r.details.finite with
  | false =>
    have hdetails : r.value .detailsJSON = .text "" := by
      simp [MetricRow.value, detailsValue, hfinite]
    have hreread : r.reread = { r with details := {} } := by
      simp [MetricRow.reread, hfinite]
    rw [scanRow, metricColumns]
    simp only [List.map_cons, List.map_nil, hdetails, hreread]
    rfl
  | true =>
    have hdetails : r.value .detailsJSON = .document (ofMembers (detailsMembers r.details)) := by
      simp [MetricRow.value, detailsValue, hfinite]
    have hreread : r.reread = { r with details := r.details.reread } := by
      simp [MetricRow.reread, hfinite]
    have hunmarshal : unmarshalDetails (some (ofMembers (detailsMembers r.details))) =
        r.details.reread := by
      rw [unmarshalDetails, Option.bind_some, decodeDetails_detailsMembers, Option.getD_some]
    rw [scanRow, metricColumns]
    simp only [List.map_cons, List.map_nil, hdetails, hreread, ← hunmarshal]
    rfl

/-! ## The round trip -/

/-- A counter that is cut off at the greatest signed integer. -/
def clampCounter (value : UInt64) : UInt64 :=
  if value ≤ maxSignedMetricCounter then value else maxSignedMetricCounter

lemma scanCounter_metricCounter (value : UInt64) :
    scanCounter (metricCounter value) = clampCounter value := by
  rw [← UInt64.toNat_inj, toNat_scanCounter_metricCounter, clampCounter]
  by_cases hle : value ≤ maxSignedMetricCounter
  · have hle' : value.toNat ≤ 2 ^ 63 - 1 := UInt64.le_iff_toNat_le.mp hle
    rw [if_pos hle, min_eq_left hle']
  · have hgt : 2 ^ 63 - 1 < value.toNat :=
      Nat.lt_of_not_le fun hle' => hle (UInt64.le_iff_toNat_le.mpr hle')
    rw [if_neg hle, min_eq_right hgt.le]
    rfl

/-- A sequence number that the driver takes is stored as a counter is. -/
lemma metricCounter_sequence {value : UInt64} (h : value < 9223372036854775808) :
    (value.toNat : ℤ) = metricCounter value := by
  have hlt : value.toNat < 9223372036854775808 := UInt64.lt_iff_toNat_lt.mp h
  have hle : ¬value > maxSignedMetricCounter := by
    intro hgt
    have hgt' : 9223372036854775807 < value.toNat := UInt64.lt_iff_toNat_lt.mp hgt
    omega
  rw [metricCounter, if_neg hle]

/-- A sample as it should be read back: the counters are cut off, the times are whole milliseconds,
and numbers of the details that are zero are read as zero. -/
def MetricSample.asStored (sample : MetricSample) : MetricSample :=
  { sample with
    sequence := clampCounter sample.sequence
    collectedAt := storedTime sample.collectedAt
    receivedAt := storedTime sample.receivedAt
    memoryTotal := clampCounter sample.memoryTotal
    memoryUsed := clampCounter sample.memoryUsed
    swapTotal := clampCounter sample.swapTotal
    swapUsed := clampCounter sample.swapUsed
    diskTotal := clampCounter sample.diskTotal
    diskUsed := clampCounter sample.diskUsed
    netRxBytes := clampCounter sample.netRxBytes
    netTxBytes := clampCounter sample.netTxBytes
    monthlyRxBytes := clampCounter sample.monthlyRxBytes
    monthlyTxBytes := clampCounter sample.monthlyTxBytes
    uptimeSeconds := clampCounter sample.uptimeSeconds
    disks := sample.disks.map DiskMetric.reread
    gpus := sample.gpus.map GPUMetric.reread }

lemma scanMetric_reread {sample : MetricSample} (h : sample.sequence < 9223372036854775808)
    (hfinite : sample.details.finite = true) :
    scanMetric (metricArgs sample).reread = sample.asStored := by
  have hrow : (metricArgs sample).details.finite = true := hfinite
  have hreread : (metricArgs sample).reread =
      { metricArgs sample with details := sample.details.reread } := by
    simp only [MetricRow.reread, hrow, if_true]
    rfl
  rw [hreread]
  unfold scanMetric metricArgs MetricSample.asStored
  simp only [metricCounter_sequence h, scanCounter_metricCounter]
  rfl

/-- A sample goes through the table: the driver takes the arguments, each of them stands at the place
of its column, and the stored row, over whatever row of the same node and instant, is read as the
sample. -/
structure MetricSample.RoundTrips (sample : MetricSample) : Prop where
  accepted : ∀ arg ∈ metricArguments sample, (driverValue arg).isSome = true
  aligned : metricArguments sample = metricColumns.map sample.argument
  read : ∃ new, insertedRow (metricArguments sample) = some new ∧
    ∀ old, (∀ row, old = some row → SQLRow.SameKey row new) →
      scanRow (storedRow old new) = some sample.asStored

/-- A sample goes through the table exactly when the highest bit of its sequence number is not set
and the numbers of its details are finite. -/
theorem MetricSample.roundTrips_iff (sample : MetricSample) :
    sample.RoundTrips ↔
      sample.sequence < 9223372036854775808 ∧ sample.details.finite = true := by
  constructor
  · intro h
    have hsequence : sample.sequence < 9223372036854775808 := by
      have haccepted := h.accepted (.uint64 sample.sequence) (by simp [metricArguments])
      by_contra hgreat
      rw [driverValue, if_neg hgreat] at haccepted
      exact Bool.false_ne_true haccepted
    refine ⟨hsequence, ?_⟩
    by_contra hinfinite
    rw [Bool.not_eq_true] at hinfinite
    obtain ⟨new, hnew, hread⟩ := h.read
    rw [insertedRow_metricArguments hsequence, Option.some.injEq] at hnew
    have hscan := hread none (by simp)
    rw [← hnew, storedRow, scanRow_value, Option.some.injEq] at hscan
    have hreread : (metricArgs sample).reread = { metricArgs sample with details := {} } := by
      have hrow : (metricArgs sample).details.finite = false := hinfinite
      simp [MetricRow.reread, hrow]
    rw [hreread] at hscan
    -- details that were lost are read as empty, so there were none
    have hdisks : [] = sample.disks.map DiskMetric.reread := congrArg MetricSample.disks hscan
    have hnetworks : [] = sample.networks := congrArg MetricSample.networks hscan
    have hgpus : [] = sample.gpus.map GPUMetric.reread := congrArg MetricSample.gpus hscan
    have hempty : sample.details = {} := by
      rw [MetricSample.details, List.map_eq_nil_iff.mp hdisks.symm, ← hnetworks,
        List.map_eq_nil_iff.mp hgpus.symm]
    rw [hempty] at hinfinite
    exact absurd hinfinite (by decide)
  · rintro ⟨hsequence, hfinite⟩
    refine ⟨?_, metricArguments_eq sample, _, insertedRow_metricArguments hsequence, ?_⟩
    · intro arg harg
      rw [metricArguments_eq] at harg
      obtain ⟨c, -, rfl⟩ := List.mem_map.mp harg
      rw [driverValue_argument hsequence]
      rfl
    · intro old hkey
      rw [storedRow_eq hkey, scanRow_value, scanMetric_reread hsequence hfinite]

/-- A sample with the least sequence number that the driver refuses. -/
def greatSequence : MetricSample :=
  { nodeID := "n1", sequence := 9223372036854775808, receivedAt := Clock.unixEpoch,
    collectedAt := Clock.unixEpoch }

/-- The sample is not stored. -/
theorem greatSequence_refused :
    insertedRow (metricArguments greatSequence) = none ∧ ¬greatSequence.RoundTrips := by
  constructor
  · rfl
  · intro h
    have haccepted := h.accepted (.uint64 9223372036854775808) (by simp [metricArguments,
      greatSequence])
    revert haccepted
    decide

end Hostpin
