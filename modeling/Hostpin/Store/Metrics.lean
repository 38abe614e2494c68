import Hostpin.Foundation.Rollup
import Hostpin.Foundation.Text
import Hostpin.Model.Types

/-!
# The metric tables

The store keeps every sample in `metrics_raw` and condensed rows in `metrics_5m` and `metrics_1h`.
A row is known by its node and its instant in milliseconds.  This file models the three tables and
the operations that write them.

* `MetricStore.saveMetric` stores a sample.
* `MetricStore.rollup` condenses the raw rows of the last two days and the five-minute rows of the
  last two weeks.
* `MetricStore.applyRetention` removes rows that are older than the settings allow.

How a database averages numbers, casts an average to an integer and orders texts is a parameter, the
`Dialect`; an aggregate is computed over the rows of a bucket in the order of their instants.
Whether the statements of an operation succeed is an argument of the operation.
-/

namespace Hostpin

open Clock

/-! ## Rows -/

/-- The parts of a sample that are stored as one text. -/
structure MetricDetails where
  disks : List DiskMetric := []
  networks : List NetworkMetric := []
  gpus : List GPUMetric := []
deriving DecidableEq

/-- A row of a metric table. -/
structure MetricRow where
  nodeID : String
  ts : ℤ
  sequence : ℤ := 0
  collectedAt : ℤ := 0
  bootID : String := ""
  clockOffsetMS : ℤ := 0
  cpu : Float := 0
  load1 : Float := 0
  load5 : Float := 0
  load15 : Float := 0
  memoryTotal : ℤ := 0
  memoryUsed : ℤ := 0
  swapTotal : ℤ := 0
  swapUsed : ℤ := 0
  diskTotal : ℤ := 0
  diskUsed : ℤ := 0
  netRxBPS : Float := 0
  netTxBPS : Float := 0
  netRxBytes : ℤ := 0
  netTxBytes : ℤ := 0
  monthlyRxBytes : ℤ := 0
  monthlyTxBytes : ℤ := 0
  tcpConnections : ℤ := 0
  udpConnections : ℤ := 0
  processes : ℤ := 0
  temperature : Float := 0
  uptimeSeconds : ℤ := 0
  details : MetricDetails := {}
  message : String := ""
deriving DecidableEq

/-- The primary key of a metric row. -/
def MetricRow.key (r : MetricRow) : String × ℤ := (r.nodeID, r.ts)

/-- A row of the table of probe results, with the columns of its primary key. -/
structure ProbeRowKey where
  nodeID : String
  taskID : ℤ
  ts : ℤ
deriving DecidableEq

/-- A row of the table of probe results. -/
structure ProbeResultRow where
  nodeID : String
  taskID : ℤ
  ts : ℤ
  collectedAt : ℤ
  success : Bool
  latencyMS : Float
  lossPercent : Float
  statusCode : ℤ
  value : String
  error : String
deriving DecidableEq

/-- The primary key of a probe result. -/
def ProbeResultRow.key (r : ProbeResultRow) : ProbeRowKey := ⟨r.nodeID, r.taskID, r.ts⟩

/-- An instant as the store keeps it. -/
def storedTime (t : Time) : Time := ofUnixMilli (unixMilli t)

/-- The greatest counter that a column holds. -/
def maxSignedMetricCounter : UInt64 := 9223372036854775807

/-- A counter as a column holds it. -/
def metricCounter (value : UInt64) : ℤ :=
  if value > maxSignedMetricCounter then maxSignedMetricCounter.toNat else value.toNat

/-- The row of a sample. -/
def metricArgs (sample : MetricSample) : MetricRow where
  nodeID := sample.nodeID
  ts := unixMilli sample.receivedAt
  sequence := sample.sequence.toNat
  collectedAt := unixMilli sample.collectedAt
  bootID := sample.bootID
  clockOffsetMS := sample.clockOffsetMS
  cpu := sample.cpu
  load1 := sample.load1
  load5 := sample.load5
  load15 := sample.load15
  memoryTotal := metricCounter sample.memoryTotal
  memoryUsed := metricCounter sample.memoryUsed
  swapTotal := metricCounter sample.swapTotal
  swapUsed := metricCounter sample.swapUsed
  diskTotal := metricCounter sample.diskTotal
  diskUsed := metricCounter sample.diskUsed
  netRxBPS := sample.netRxBPS
  netTxBPS := sample.netTxBPS
  netRxBytes := metricCounter sample.netRxBytes
  netTxBytes := metricCounter sample.netTxBytes
  monthlyRxBytes := metricCounter sample.monthlyRxBytes
  monthlyTxBytes := metricCounter sample.monthlyTxBytes
  tcpConnections := sample.tcpConnections
  udpConnections := sample.udpConnections
  processes := sample.processes
  temperature := sample.temperature
  uptimeSeconds := metricCounter sample.uptimeSeconds
  details := ⟨sample.disks, sample.networks, sample.gpus⟩
  message := sample.message

/-- The column of a counter as a counter; a negative column reads as zero. -/
def scanCounter (column : ℤ) : UInt64 := UInt64.ofNat (max column 0).toNat

/-- A counter after it was written to a column and read back. -/
lemma toNat_scanCounter_metricCounter (value : UInt64) :
    (scanCounter (metricCounter value)).toNat = min value.toNat (2 ^ 63 - 1) := by
  have hlt : value.toNat < 2 ^ 64 := value.toNat_lt
  unfold scanCounter metricCounter
  by_cases h : value > maxSignedMetricCounter
  · have hgt : 2 ^ 63 - 1 < value.toNat := UInt64.lt_iff_toNat_lt.mp h
    rw [if_pos h, min_eq_right hgt.le]
    rfl
  · have hle : value.toNat ≤ 2 ^ 63 - 1 :=
      Nat.le_of_not_lt fun hlt => h (UInt64.lt_iff_toNat_lt.mpr hlt)
    rw [if_neg h, min_eq_left hle]
    simp only [Int.natCast_nonneg, max_eq_left, Int.toNat_natCast, UInt64.toNat_ofNat']
    exact Nat.mod_eq_of_lt hlt

/-- The sample of a row. -/
def scanMetric (r : MetricRow) : MetricSample where
  nodeID := r.nodeID
  sequence := scanCounter r.sequence
  collectedAt := ofUnixMilli r.collectedAt
  receivedAt := ofUnixMilli r.ts
  bootID := r.bootID
  clockOffsetMS := r.clockOffsetMS
  cpu := r.cpu
  load1 := r.load1
  load5 := r.load5
  load15 := r.load15
  memoryTotal := scanCounter r.memoryTotal
  memoryUsed := scanCounter r.memoryUsed
  swapTotal := scanCounter r.swapTotal
  swapUsed := scanCounter r.swapUsed
  diskTotal := scanCounter r.diskTotal
  diskUsed := scanCounter r.diskUsed
  netRxBPS := r.netRxBPS
  netTxBPS := r.netTxBPS
  netRxBytes := scanCounter r.netRxBytes
  netTxBytes := scanCounter r.netTxBytes
  monthlyRxBytes := scanCounter r.monthlyRxBytes
  monthlyTxBytes := scanCounter r.monthlyTxBytes
  tcpConnections := r.tcpConnections
  udpConnections := r.udpConnections
  processes := r.processes
  temperature := r.temperature
  uptimeSeconds := scanCounter r.uptimeSeconds
  disks := r.details.disks
  networks := r.details.networks
  gpus := r.details.gpus
  message := r.message

/-! ## Aggregation -/

/-- What depends on the database: the average of a column of numbers, the average of a column of
integers cast to an integer, and the greatest of a column of texts. -/
structure Dialect where
  avg : List Float → Float
  castAvg : List ℤ → ℤ
  maxText : List String → String

/-- The averages of a database that divides in binary64 and cuts off after the point. -/
def plainDialect : Dialect where
  avg := fun column => column.foldl (· + ·) 0 / column.length.toFloat
  castAvg := fun column => column.sum.tdiv column.length
  maxText := fun column => column.foldl (fun a b => if a < b then b else a) ""

/-- The greatest integer of a column. -/
def maxInt (column : List ℤ) : ℤ := column.max?.getD 0

/-- The row that condenses the rows of a node and a bucket. -/
def aggregateRows (D : Dialect) (cell : String × ℤ) (rows : List MetricRow) : MetricRow where
  nodeID := cell.1
  ts := cell.2
  sequence := maxInt (rows.map (·.sequence))
  collectedAt := maxInt (rows.map (·.collectedAt))
  bootID := D.maxText (rows.map (·.bootID))
  clockOffsetMS := D.castAvg (rows.map (·.clockOffsetMS))
  cpu := D.avg (rows.map (·.cpu))
  load1 := D.avg (rows.map (·.load1))
  load5 := D.avg (rows.map (·.load5))
  load15 := D.avg (rows.map (·.load15))
  memoryTotal := maxInt (rows.map (·.memoryTotal))
  memoryUsed := D.castAvg (rows.map (·.memoryUsed))
  swapTotal := maxInt (rows.map (·.swapTotal))
  swapUsed := D.castAvg (rows.map (·.swapUsed))
  diskTotal := maxInt (rows.map (·.diskTotal))
  diskUsed := D.castAvg (rows.map (·.diskUsed))
  netRxBPS := D.avg (rows.map (·.netRxBPS))
  netTxBPS := D.avg (rows.map (·.netTxBPS))
  netRxBytes := maxInt (rows.map (·.netRxBytes))
  netTxBytes := maxInt (rows.map (·.netTxBytes))
  monthlyRxBytes := maxInt (rows.map (·.monthlyRxBytes))
  monthlyTxBytes := maxInt (rows.map (·.monthlyTxBytes))
  tcpConnections := D.castAvg (rows.map (·.tcpConnections))
  udpConnections := D.castAvg (rows.map (·.udpConnections))
  processes := D.castAvg (rows.map (·.processes))
  temperature := D.avg (rows.map (·.temperature))
  uptimeSeconds := maxInt (rows.map (·.uptimeSeconds))
  details := {}
  message := ""

/-- The start of the bucket of an instant; the division of the database rounds towards zero. -/
def bucketStart (bucketMS ts : ℤ) : ℤ := ts.tdiv bucketMS * bucketMS

/-- Condensing rows into buckets of a width in milliseconds. -/
def bucketScheme (D : Dialect) (bucketMS : ℤ) : Rollup.Scheme MetricRow.key where
  bucket := bucketStart bucketMS
  aggregate := aggregateRows D
  key_aggregate := fun _ _ => rfl

/-- The row that a conflict with a stored row leaves: the details and the message of the stored
row are kept. -/
def onConflict (target : KeyedTable MetricRow.key) (r : MetricRow) : MetricRow :=
  match target.lookup r.key with
  | none => r
  | some old => { r with details := old.details, message := old.message }

/-- Condense the rows of a table from an instant on into another table. -/
def rollupTable (D : Dialect) (source target : KeyedTable MetricRow.key) (bucketMS since : ℤ) :
    KeyedTable MetricRow.key :=
  target.upsertAll (((bucketScheme D bucketMS).passRows source since).map (onConflict target))

/-! ## The store -/

/-- A condensed row has neither details nor a message. -/
def MetricRow.Plain (r : MetricRow) : Prop := r.details = {} ∧ r.message = ""

/-- The metric tables and the probe results.  The two condensed tables hold only plain rows. -/
structure MetricStore where
  raw : KeyedTable MetricRow.key := KeyedTable.empty
  five : KeyedTable MetricRow.key := KeyedTable.empty
  hour : KeyedTable MetricRow.key := KeyedTable.empty
  probeResults : KeyedTable ProbeResultRow.key := KeyedTable.empty
  five_plain : ∀ r ∈ five, r.Plain := by simp
  hour_plain : ∀ r ∈ hour, r.Plain := by simp

/-- The store before anything is written. -/
def MetricStore.empty : MetricStore := {}

/-- A row that replaces a plain row stays as it is aggregated. -/
lemma onConflict_eq_self {target : KeyedTable MetricRow.key} (h : ∀ r ∈ target, r.Plain)
    {r : MetricRow} (hr : r.Plain) : onConflict target r = r := by
  unfold onConflict
  cases hlookup : target.lookup r.key with
  | none => rfl
  | some old =>
    obtain ⟨hdetails, hmessage⟩ := h old (KeyedTable.lookup_eq_some_iff.mp hlookup).1
    cases r
    simp only [MetricRow.Plain] at hr
    simp [hdetails, hmessage, hr]

/-- Condensing into a table of plain rows is a pass. -/
lemma rollupTable_eq_pass (D : Dialect) (source : KeyedTable MetricRow.key)
    {target : KeyedTable MetricRow.key} (h : ∀ r ∈ target, r.Plain) (bucketMS since : ℤ) :
    rollupTable D source target bucketMS since =
      (bucketScheme D bucketMS).pass source target since := by
  have hrows : ((bucketScheme D bucketMS).passRows source since).map (onConflict target) =
      (bucketScheme D bucketMS).passRows source since := by
    refine (List.map_congr_left fun r hr => ?_).trans (List.map_id _)
    obtain ⟨cell, -, rfl⟩ := List.mem_map.mp hr
    exact onConflict_eq_self h ⟨rfl, rfl⟩
  unfold rollupTable Rollup.Scheme.pass
  rw [hrows]

/-- Condensing keeps the rows of the condensed table plain. -/
lemma plain_rollupTable (D : Dialect) (source : KeyedTable MetricRow.key)
    {target : KeyedTable MetricRow.key} (h : ∀ r ∈ target, r.Plain) (bucketMS since : ℤ) :
    ∀ r ∈ rollupTable D source target bucketMS since, r.Plain := by
  rw [rollupTable_eq_pass D source h]
  intro r hr
  rcases KeyedTable.mem_or_mem_of_mem_upsertAll hr with hr | hr
  · obtain ⟨cell, -, rfl⟩ := List.mem_map.mp hr
    exact ⟨rfl, rfl⟩
  · exact h r hr

/-- Remove the rows of a table before an instant. -/
def deleteBefore (t : KeyedTable MetricRow.key) (cutoff : ℤ) : KeyedTable MetricRow.key :=
  t.deleteWhere fun r => r.key.2 < cutoff

/-! ## Operations -/

/-- The row that a sample is stored in.  A sample without a time of receipt is received now, and
one without a time of collection was collected when it was received. -/
def MetricSample.row (sample : MetricSample) (clock : Time) : MetricRow :=
  let receivedAt := if isZero sample.receivedAt then clock else sample.receivedAt
  let collectedAt := if isZero sample.collectedAt then receivedAt else sample.collectedAt
  metricArgs { sample with receivedAt, collectedAt }

/-- Store a sample.  The driver refuses a sequence number above the signed range. -/
def MetricStore.saveMetric (s : MetricStore) (sample : MetricSample) (clock : Time)
    (storeOK : Bool) : MetricStore :=
  if storeOK && sample.sequence ≤ maxSignedMetricCounter then
    { s with raw := s.raw.upsert (sample.row clock) }
  else s

/-- The row that a probe result is stored in.  A result without a time of receipt is received now,
and one without a time of collection was collected when it was received. -/
def ProbeResult.row (result : ProbeResult) (clock : Time) : ProbeResultRow :=
  let receivedAt := if isZero result.receivedAt then clock else result.receivedAt
  let collectedAt := if isZero result.collectedAt then receivedAt else result.collectedAt
  { nodeID := result.nodeID
    taskID := result.taskID
    ts := unixMilli receivedAt
    collectedAt := unixMilli collectedAt
    success := result.success
    latencyMS := result.latencyMS
    lossPercent := result.lossPercent
    statusCode := result.statusCode
    value := result.value
    error := result.error }

/-- Store a probe result; it replaces the result of the same node, task and millisecond. -/
def MetricStore.saveProbeResult (s : MetricStore) (result : ProbeResult) (clock : Time) :
    MetricStore :=
  { s with probeResults := s.probeResults.upsert (result.row clock) }

/-- Whether the statements of a rollup succeed. -/
structure RollupCalls where
  ensureMetricPartitions : Bool := true
  fiveMinutes : Bool := true
  hourly : Bool := true

/-- The width of the buckets of `metrics_5m`, in milliseconds. -/
def fiveMinuteMS : ℤ := 300000

/-- The width of the buckets of `metrics_1h`, in milliseconds. -/
def hourMS : ℤ := 3600000

/-- Condense the raw rows since an instant. -/
def MetricStore.rollupFive (D : Dialect) (s : MetricStore) (since : ℤ) : MetricStore :=
  { s with
    five := rollupTable D s.raw s.five fiveMinuteMS since
    five_plain := plain_rollupTable D s.raw s.five_plain fiveMinuteMS since }

/-- Condense the five-minute rows since an instant. -/
def MetricStore.rollupHour (D : Dialect) (s : MetricStore) (since : ℤ) : MetricStore :=
  { s with
    hour := rollupTable D s.five s.hour hourMS since
    hour_plain := plain_rollupTable D s.five s.hour_plain hourMS since }

/-- The start of the pass over the raw rows. -/
def rawSince (now : Time) : ℤ := unixMilli (now - 48 * hour)

/-- The start of the pass over the five-minute rows. -/
def fiveSince (now : Time) : ℤ := unixMilli (now - 14 * 24 * hour)

/-- Condense the rows of the last days. -/
def MetricStore.rollup (D : Dialect) (s : MetricStore) (now : Time) (calls : RollupCalls) :
    MetricStore :=
  if !calls.ensureMetricPartitions then s
  else if !calls.fiveMinutes then s
  else
    let s := s.rollupFive D (rawSince now)
    if !calls.hourly then s else s.rollupHour D (fiveSince now)

/-- Whether the statements of a clean-up succeed. -/
structure RetentionCalls where
  hourly : Bool := true
  fiveMinutes : Bool := true
  raw : Bool := true
  probeResults : Bool := true

/-- The instant before which rows are removed; the product of the hours wraps around. -/
def retentionCutoff (now : Time) (hours : ℤ) : ℤ := unixMilli (now + scale (-hours) hour)

/-- Remove the hourly rows before an instant. -/
def MetricStore.dropHour (s : MetricStore) (cutoff : ℤ) : MetricStore :=
  { s with
    hour := deleteBefore s.hour cutoff
    hour_plain := fun r hr => s.hour_plain r (KeyedTable.mem_deleteWhere.mp hr).1 }

/-- Remove the five-minute rows before an instant. -/
def MetricStore.dropFive (s : MetricStore) (cutoff : ℤ) : MetricStore :=
  { s with
    five := deleteBefore s.five cutoff
    five_plain := fun r hr => s.five_plain r (KeyedTable.mem_deleteWhere.mp hr).1 }

/-- Remove the raw rows before an instant. -/
def MetricStore.dropRaw (s : MetricStore) (cutoff : ℤ) : MetricStore :=
  { s with raw := deleteBefore s.raw cutoff }

/-- Remove the rows that are older than the settings allow, table by table in the order of the
names of the tables. -/
def MetricStore.applyRetention (s : MetricStore) (settings : SiteSettings) (now : Time)
    (calls : RetentionCalls) : MetricStore :=
  if !calls.hourly then s
  else
    let s := s.dropHour (retentionCutoff now settings.hourlyRetentionHours)
    if !calls.fiveMinutes then s
    else
      let s := s.dropFive (retentionCutoff now settings.fiveMinuteRetentionHours)
      if !calls.raw then s
      else
        let s := s.dropRaw (retentionCutoff now settings.rawRetentionHours)
        if !calls.probeResults then s
        else
          let cutoff := retentionCutoff now settings.fiveMinuteRetentionHours
          { s with probeResults := s.probeResults.deleteWhere fun r => r.ts < cutoff }

/-! ## Settings -/

/-- A parsed address: the scheme, the host and whether it names a user. -/
structure ParsedURL where
  scheme : String
  host : String
  hasUser : Bool

/-- An address that a setting may hold. -/
def acceptableURL (parse : String → Option ParsedURL) (source : String) : Bool :=
  match parse source with
  | none => false
  | some url => url.host != "" && !url.hasUser && (url.scheme == "https" || url.scheme == "http")

/-- Whether a text contains another one. -/
def containsText (text part : String) : Bool := part.toList <:+: text.toList

/-- The checks that settings have to pass before they are saved. -/
def checkSettings (parse : String → Option ParsedURL) (settings : SiteSettings) :
    Except ApiError SiteSettings :=
  let settings := { settings with name := Text.trimSpace settings.name }
  if settings.name == "" || settings.rawRetentionHours < 24 ||
      settings.fiveMinuteRetentionHours < settings.rawRetentionHours ||
      settings.hourlyRetentionHours < settings.fiveMinuteRetentionHours then
    .error ⟨400, "invalid_settings", "site name and ordered retention periods are required"⟩
  else if 128 < settings.name.utf8ByteSize || 2048 < settings.description.utf8ByteSize ||
      262144 < settings.customHead.utf8ByteSize || 262144 < settings.customBody.utf8ByteSize ||
      20 < settings.themeMarketSources.length then
    .error ⟨400, "invalid_settings", "one or more site settings exceed their size limit"⟩
  else if settings.themeMarketSources.any fun source => !acceptableURL parse source then
    .error ⟨400, "invalid_market_source", "theme market sources must use HTTP or HTTPS"⟩
  else if settings.geoIPEnabled && (!acceptableURL parse settings.geoIPProvider ||
      !containsText settings.geoIPProvider "\x7bip\x7d") then
    .error ⟨400, "invalid_geoip_provider",
      "GeoIP provider must be an absolute HTTP(S) URL containing \x7bip\x7d"⟩
  else .ok settings

/-! ## Runs -/

/-- One operation on the metric tables. -/
inductive StoreStep where
  | saveMetric (sample : MetricSample) (clock : Time) (storeOK : Bool)
  | rollup (now : Time) (calls : RollupCalls)
  | applyRetention (settings : SiteSettings) (now : Time) (calls : RetentionCalls)

/-- Perform an operation. -/
def MetricStore.perform (D : Dialect) (s : MetricStore) : StoreStep → MetricStore
  | .saveMetric sample clock storeOK => s.saveMetric sample clock storeOK
  | .rollup now calls => s.rollup D now calls
  | .applyRetention settings now calls => s.applyRetention settings now calls

/-- Perform a list of operations. -/
def MetricStore.run (D : Dialect) (s : MetricStore) (steps : List StoreStep) : MetricStore :=
  steps.foldl (MetricStore.perform D) s

end Hostpin
