import Hostpin.Store.History

/-!
# Does the selected table cover the window?

The length of a window selects the table that a history reads: raw rows up to seven days, rows of
five minutes up to ninety.  These are the retention periods of a new site, but the settings may keep
raw rows for a single day, and then a window of three days reads a table that has lost most of it.

`MetricStore.Backed` is the invariant of the three tables: a condensed row goes back to rows of the
finer tables that are still there or were removed by a cutoff.  It follows that a table covers every
window that starts after its cutoffs.
-/

namespace Hostpin

open Clock

/-! ## Buckets -/

/-- The width of the buckets of a table; the buckets of raw rows are single instants. -/
def MetricTable.bucketMS : MetricTable → ℤ
  | .raw => 1
  | .fiveMinutes => fiveMinuteMS
  | .hourly => hourMS

/-- Buckets are ordered like their instants. -/
lemma bucketStart_mono {bucketMS : ℤ} (hpos : 0 < bucketMS) {ts ts' : ℤ} (h : ts ≤ ts') :
    bucketStart bucketMS ts ≤ bucketStart bucketMS ts' :=
  mul_le_mul_of_nonneg_right (Int.tdiv_le_tdiv hpos h) hpos.le

/-- The bucket of the opposite instant. -/
lemma bucketStart_neg (bucketMS ts : ℤ) :
    bucketStart bucketMS (-ts) = -bucketStart bucketMS ts := by
  unfold bucketStart
  rw [Int.neg_tdiv, neg_mul]

/-- The bucket of an instant after the epoch. -/
lemma bucketStart_of_nonneg {bucketMS ts : ℤ} (h : 0 ≤ ts) :
    bucketStart bucketMS ts = ts / bucketMS * bucketMS := by
  unfold bucketStart
  rw [Int.tdiv_eq_ediv_of_nonneg h]

/-- An hour consists of whole buckets of five minutes. -/
lemma bucketStart_hour_bucketStart (ts : ℤ) :
    bucketStart hourMS (bucketStart fiveMinuteMS ts) = bucketStart hourMS ts := by
  have hnonneg : ∀ t : ℤ, 0 ≤ t →
      bucketStart hourMS (bucketStart fiveMinuteMS t) = bucketStart hourMS t := by
    intro t ht
    have hfive : 0 ≤ t / fiveMinuteMS * fiveMinuteMS := by
      unfold fiveMinuteMS
      omega
    rw [bucketStart_of_nonneg ht, bucketStart_of_nonneg hfive, bucketStart_of_nonneg ht]
    unfold hourMS fiveMinuteMS
    omega
  rcases le_total 0 ts with hts | hts
  · exact hnonneg ts hts
  · have hneg := hnonneg (-ts) (Int.neg_nonneg_of_nonpos hts)
    rw [bucketStart_neg, bucketStart_neg, bucketStart_neg] at hneg
    exact neg_inj.mp hneg

/-! ## Backed tables -/

/-- The rows of the condensed tables are backed by the finer tables. -/
structure MetricStore.Backed (D : Dialect) (s : MetricStore) (rawCutoffs fiveCutoffs : List ℤ) :
    Prop where
  five_raw : (bucketScheme D fiveMinuteMS).Backed s.raw rawCutoffs s.five
  hour_five : (bucketScheme D hourMS).Backed s.five fiveCutoffs s.hour
  hour_raw : (bucketScheme D hourMS).Backed s.raw rawCutoffs s.hour

namespace MetricStore.Backed

variable {D : Dialect} {s : MetricStore} {rawCutoffs fiveCutoffs : List ℤ}

/-- The tables of a new store. -/
lemma empty : MetricStore.empty.Backed D [] [] :=
  ⟨Rollup.Scheme.Backed.empty_target, Rollup.Scheme.Backed.empty_target,
    Rollup.Scheme.Backed.empty_target⟩

/-- Storing a sample keeps the tables backed. -/
lemma saveMetric (h : s.Backed D rawCutoffs fiveCutoffs) (sample : MetricSample) (clock : Time)
    (storeOK : Bool) : (s.saveMetric sample clock storeOK).Backed D rawCutoffs fiveCutoffs := by
  unfold MetricStore.saveMetric
  split_ifs
  · exact ⟨h.five_raw.upsert_source _, h.hour_five, h.hour_raw.upsert_source _⟩
  · exact h

/-- Condensing raw rows keeps the tables backed. -/
lemma rollupFive (h : s.Backed D rawCutoffs fiveCutoffs) (since : ℤ) :
    (s.rollupFive D since).Backed D rawCutoffs fiveCutoffs := by
  have hpass : (s.rollupFive D since).five =
      (bucketScheme D fiveMinuteMS).pass s.raw s.five since :=
    rollupTable_eq_pass D s.raw s.five_plain fiveMinuteMS since
  refine ⟨?_, ?_, h.hour_raw⟩
  · rw [hpass]
    exact h.five_raw.pass since
  · rw [hpass]
    exact h.hour_five.upsertAll_source _

/-- Condensing five-minute rows keeps the tables backed. -/
lemma rollupHour (h : s.Backed D rawCutoffs fiveCutoffs) (since : ℤ) :
    (s.rollupHour D since).Backed D rawCutoffs fiveCutoffs := by
  have hpass : (s.rollupHour D since).hour = (bucketScheme D hourMS).pass s.five s.hour since :=
    rollupTable_eq_pass D s.five s.hour_plain hourMS since
  refine ⟨h.five_raw, ?_, ?_⟩
  · rw [hpass]
    exact h.hour_five.pass since
  · rw [hpass]
    exact h.five_raw.pass_of_backed bucketStart_hour_bucketStart h.hour_raw since

/-- A rollup keeps the tables backed. -/
lemma rollup (h : s.Backed D rawCutoffs fiveCutoffs) (now : Time) (calls : RollupCalls) :
    (s.rollup D now calls).Backed D rawCutoffs fiveCutoffs := by
  unfold MetricStore.rollup
  split_ifs
  · exact h
  · exact h
  · exact h.rollupFive _
  · exact (h.rollupFive _).rollupHour _

/-- Removing hourly rows keeps the tables backed. -/
lemma dropHour (h : s.Backed D rawCutoffs fiveCutoffs) (cutoff : ℤ) :
    (s.dropHour cutoff).Backed D rawCutoffs fiveCutoffs :=
  ⟨h.five_raw, h.hour_five.delete_target _, h.hour_raw.delete_target _⟩

/-- Removing five-minute rows keeps the tables backed. -/
lemma dropFive (h : s.Backed D rawCutoffs fiveCutoffs) (cutoff : ℤ) :
    (s.dropFive cutoff).Backed D rawCutoffs (fiveCutoffs ++ [cutoff]) :=
  ⟨h.five_raw.delete_target _, h.hour_five.delete_source _, h.hour_raw⟩

/-- Removing raw rows keeps the tables backed. -/
lemma dropRaw (h : s.Backed D rawCutoffs fiveCutoffs) (cutoff : ℤ) :
    (s.dropRaw cutoff).Backed D (rawCutoffs ++ [cutoff]) fiveCutoffs :=
  ⟨h.five_raw.delete_source _, h.hour_five, h.hour_raw.delete_source _⟩

end MetricStore.Backed

/-! ## Runs -/

/-- The cutoffs that an operation applies to a table. -/
def StoreStep.cutoffs : StoreStep → MetricTable → List ℤ
  | .applyRetention settings now calls, .hourly =>
    if calls.hourly then [retentionCutoff now settings.hourlyRetentionHours] else []
  | .applyRetention settings now calls, .fiveMinutes =>
    if calls.hourly && calls.fiveMinutes then
      [retentionCutoff now settings.fiveMinuteRetentionHours] else []
  | .applyRetention settings now calls, .raw =>
    if calls.hourly && calls.fiveMinutes && calls.raw then
      [retentionCutoff now settings.rawRetentionHours] else []
  | _, _ => []

/-- The cutoffs that a list of operations applies to a table. -/
def cutoffsOf (steps : List StoreStep) (table : MetricTable) : List ℤ :=
  steps.flatMap fun step => step.cutoffs table

/-- An operation keeps the tables backed. -/
lemma MetricStore.Backed.perform {D : Dialect} {s : MetricStore} {rawCutoffs fiveCutoffs : List ℤ}
    (h : s.Backed D rawCutoffs fiveCutoffs) (step : StoreStep) :
    (s.perform D step).Backed D (rawCutoffs ++ step.cutoffs .raw)
      (fiveCutoffs ++ step.cutoffs .fiveMinutes) := by
  cases step with
  | saveMetric sample clock storeOK =>
    have hsave := h.saveMetric sample clock storeOK
    rw [← List.append_nil rawCutoffs, ← List.append_nil fiveCutoffs] at hsave
    exact hsave
  | rollup now calls =>
    have hrollup := h.rollup now calls
    rw [← List.append_nil rawCutoffs, ← List.append_nil fiveCutoffs] at hrollup
    exact hrollup
  | applyRetention settings now calls =>
    have hhour := h.dropHour (retentionCutoff now settings.hourlyRetentionHours)
    have hfive := hhour.dropFive (retentionCutoff now settings.fiveMinuteRetentionHours)
    have hraw := hfive.dropRaw (retentionCutoff now settings.rawRetentionHours)
    obtain ⟨hourly, fiveMinutes, raw, probeResults⟩ := calls
    cases hourly with
    | false =>
      rw [← List.append_nil rawCutoffs, ← List.append_nil fiveCutoffs] at h
      exact h
    | true =>
      cases fiveMinutes with
      | false =>
        rw [← List.append_nil rawCutoffs, ← List.append_nil fiveCutoffs] at hhour
        exact hhour
      | true =>
        cases raw with
        | false =>
          rw [← List.append_nil rawCutoffs] at hfive
          exact hfive
        | true =>
          cases probeResults with
          | false => exact hraw
          | true => exact ⟨hraw.five_raw, hraw.hour_five, hraw.hour_raw⟩

/-- A list of operations keeps the tables backed. -/
lemma MetricStore.Backed.run {D : Dialect} (steps : List StoreStep) {s : MetricStore}
    {rawCutoffs fiveCutoffs : List ℤ} (h : s.Backed D rawCutoffs fiveCutoffs) :
    (s.run D steps).Backed D (rawCutoffs ++ cutoffsOf steps .raw)
      (fiveCutoffs ++ cutoffsOf steps .fiveMinutes) := by
  induction steps generalizing s rawCutoffs fiveCutoffs with
  | nil =>
    rw [← List.append_nil rawCutoffs, ← List.append_nil fiveCutoffs] at h
    exact h
  | cons step steps ih =>
    have hrest := ih (h.perform step)
    rw [List.append_assoc, List.append_assoc] at hrest
    exact hrest

/-- After a list of operations on a new store every coarser table is backed by every finer one. -/
lemma backed_table (D : Dialect) (steps : List StoreStep) {fine coarse : MetricTable}
    (h : fine.bucketMS < coarse.bucketMS) :
    (bucketScheme D coarse.bucketMS).Backed ((MetricStore.empty.run D steps).table fine)
      (cutoffsOf steps fine) ((MetricStore.empty.run D steps).table coarse) := by
  have hbacked := MetricStore.Backed.run steps (MetricStore.Backed.empty (D := D))
  rw [List.nil_append, List.nil_append] at hbacked
  cases fine <;> cases coarse <;> first
    | exact absurd h (by decide)
    | exact hbacked.five_raw
    | exact hbacked.hour_raw
    | exact hbacked.hour_five

/-! ## Coverage -/

/-- The table that a query reads covers its window after a list of operations on a new store: a row
of the node in the window, in whichever table, lies before no cutoff of the selected table, and when
its table is coarser than the selected one, the selected table has a row of the node in its
bucket. -/
def HistoryQuery.Covered (D : Dialect) (query : HistoryQuery) (steps : List StoreStep) : Prop :=
  ∀ table, ∀ r ∈ (MetricStore.empty.run D steps).table table, query.selects r = true →
    (∀ cutoff ∈ cutoffsOf steps query.table, cutoff ≤ r.ts) ∧
    (query.table.bucketMS < table.bucketMS →
      ∃ v ∈ (MetricStore.empty.run D steps).table query.table,
        v.nodeID = r.nodeID ∧ bucketStart table.bucketMS v.ts = r.ts)

/-- A cutoff lies before the window of a query: the buckets of all instants before the cutoff start
before the window. -/
def HistoryQuery.startsAfter (query : HistoryQuery) (cutoff : ℤ) : Prop :=
  ∀ table : MetricTable, bucketStart table.bucketMS (cutoff - 1) < unixMilli query.start

/-- A cutoff before the window does not reach the bucket of a row in the window. -/
lemma HistoryQuery.startsAfter.bucketStart_ne {query : HistoryQuery} {cutoff : ℤ}
    (h : query.startsAfter cutoff) (table : MetricTable) {r : MetricRow}
    (hr : query.selects r = true) {instant : ℤ} (hlt : instant < cutoff) :
    bucketStart table.bucketMS instant ≠ r.ts := by
  have hpos : 0 < table.bucketMS := by cases table <;> decide
  have hle : bucketStart table.bucketMS instant ≤ bucketStart table.bucketMS (cutoff - 1) :=
    bucketStart_mono hpos (by omega)
  have hstart := h table
  simp only [HistoryQuery.selects, decide_eq_true_eq] at hr
  omega

/-- The table that a query reads covers its window whenever all cutoffs of the table lie before the
window. -/
theorem HistoryQuery.covered_of_startsAfter (D : Dialect) (steps : List StoreStep)
    (query : HistoryQuery) (clock : Time)
    (hstart : ∀ cutoff ∈ cutoffsOf steps (query.withDefaults clock).table,
      (query.withDefaults clock).startsAfter cutoff) :
    (query.withDefaults clock).Covered D steps := by
  intro table r hr hsel
  constructor
  · intro cutoff hcutoff
    have hraw : r.ts < cutoff → bucketStart MetricTable.raw.bucketMS r.ts ≠ r.ts :=
      (hstart cutoff hcutoff).bucketStart_ne .raw hsel
    by_contra hlt
    refine hraw (not_le.mp hlt) ?_
    rw [MetricTable.bucketMS, bucketStart, Int.tdiv_one, mul_one]
  · intro hcoarse
    have hcut : ∀ cutoff ∈ cutoffsOf steps (query.withDefaults clock).table, ∀ instant,
        instant < cutoff → bucketStart table.bucketMS instant ≠ r.ts := by
      intro cutoff hcutoff instant hlt
      exact (hstart cutoff hcutoff).bucketStart_ne table hsel hlt
    obtain ⟨v, hv, hcell⟩ := (backed_table D steps hcoarse).exists_mem hr hcut
    exact ⟨v, hv, congrArg Prod.fst hcell, congrArg Prod.snd hcell⟩

/-- An instant a number of days after the Unix epoch. -/
def dayTime (days : ℤ) : Time := unixEpoch + days * 24 * hour

/-- Settings that keep raw rows for a number of hours. -/
def rawFor (hours : ℤ) : SiteSettings :=
  { name := "site", rawRetentionHours := hours, fiveMinuteRetentionHours := 2160,
    hourlyRetentionHours := 8760 }

/-- A sample is stored and condensed on the tenth day, and two days later the tables are cleaned
up. -/
def cleanedUp (rawHours : ℤ) : List StoreStep :=
  [.saveMetric { nodeID := "n1", receivedAt := dayTime 10 } 0 true, .rollup (dayTime 10) {},
   .applyRetention (rawFor rawHours) (dayTime 12) {}]

/-- A query for the three days up to the clean-up. -/
def threeDays : HistoryQuery := { nodeID := "n1", start := dayTime 9, endAt := dayTime 12 }

theorem covered_of_startsAfter_threeDays :
    (threeDays.withDefaults 0).Covered plainDialect (cleanedUp 168) := by
  refine HistoryQuery.covered_of_startsAfter plainDialect (cleanedUp 168) threeDays 0 ?_
  intro cutoff hcutoff table
  have hcut : cutoffsOf (cleanedUp 168) (threeDays.withDefaults 0).table = [5 * 24 * hourMS] := rfl
  rw [hcut, List.mem_singleton] at hcutoff
  rw [hcutoff]
  cases table <;> decide

/-- When raw rows are kept for a day, which the settings may say, a query for three days reads the
raw rows and misses the row of the first day that the five-minute table still has. -/
theorem short_retention_leaves_gap :
    checkSettings (fun _ => none) (rawFor 24) = .ok (rawFor 24) ∧
      ¬ (threeDays.withDefaults 0).Covered plainDialect (cleanedUp 24) := by
  refine ⟨by decide +kernel, fun h => ?_⟩
  have hfive : (MetricStore.empty.run plainDialect (cleanedUp 24)).five.rows =
      [aggregateRows plainDialect ("n1", 10 * 24 * hourMS)
        [{ nodeID := "n1", ts := 10 * 24 * hourMS, collectedAt := 10 * 24 * hourMS }]] := rfl
  have hraw : (MetricStore.empty.run plainDialect (cleanedUp 24)).raw.rows = [] := by decide +kernel
  have hmem := List.mem_singleton_self (aggregateRows plainDialect ("n1", 10 * 24 * hourMS)
    [{ nodeID := "n1", ts := 10 * 24 * hourMS, collectedAt := 10 * 24 * hourMS }])
  rw [← hfive] at hmem
  obtain ⟨-, hcovered⟩ := h .fiveMinutes _ hmem (by decide +kernel)
  obtain ⟨v, hv, -⟩ := hcovered (by decide +kernel)
  have hv' : v ∈ (MetricStore.empty.run plainDialect (cleanedUp 24)).raw.rows := hv
  rw [hraw] at hv'
  exact absurd hv' List.not_mem_nil

end Hostpin
