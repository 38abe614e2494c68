import Hostpin.Store.Metrics

/-!
# Are condensed rows stable?

Every rollup aggregates the raw rows of the last two days and the five-minute rows of the last two
weeks again and overwrites the condensed rows of their buckets.  The start of a pass is not aligned
to the buckets, and the source tables lose rows to retention, so a pass may see only a part of the
rows of a bucket that was condensed from all of them before.

For each of the two condensed tables a run of the store is a run of a feed (`Tier.feed`,
`Tier.trace`).  `Tier.Stable` says that a row that was condensed from all source rows of its bucket
stays so until the retention of its own table removes it.  Runs whose passes are complete are
stable; a rollup that starts inside a bucket is not.
-/

namespace Hostpin

open Clock Rollup

/-- The two condensed tables. -/
inductive Tier where
  | fiveMinutes
  | hourly
deriving DecidableEq

/-- The width of the buckets of a condensed table. -/
def Tier.bucketMS : Tier → ℤ
  | .fiveMinutes => fiveMinuteMS
  | .hourly => hourMS

/-- The table that a condensed table is made from. -/
def Tier.source : Tier → MetricStore → KeyedTable MetricRow.key
  | .fiveMinutes => MetricStore.raw
  | .hourly => MetricStore.five

/-- The condensed table. -/
def Tier.target : Tier → MetricStore → KeyedTable MetricRow.key
  | .fiveMinutes => MetricStore.five
  | .hourly => MetricStore.hour

/-! ## A run of the store as the run of a feed -/

/-- What an operation of the store does to the two tables of a tier. -/
def Tier.events (D : Dialect) (s : MetricStore) : Tier → StoreStep → List (Event MetricRow)
  | .fiveMinutes, .saveMetric sample clock storeOK =>
    if storeOK && sample.sequence ≤ maxSignedMetricCounter then [.write (sample.row clock)] else []
  | .fiveMinutes, .rollup now calls =>
    if calls.ensureMetricPartitions && calls.fiveMinutes then [.pass (rawSince now)] else []
  | .fiveMinutes, .applyRetention settings now calls =>
    if calls.hourly && calls.fiveMinutes then
      .dropTarget (retentionCutoff now settings.fiveMinuteRetentionHours) ::
        if calls.raw then [.dropSource (retentionCutoff now settings.rawRetentionHours)] else []
    else []
  | .hourly, .saveMetric .. => []
  | .hourly, .rollup now calls =>
    if calls.ensureMetricPartitions && calls.fiveMinutes then
      ((bucketScheme D fiveMinuteMS).passRows s.raw (rawSince now)).map .write ++
        if calls.hourly then [.pass (fiveSince now)] else []
    else []
  | .hourly, .applyRetention settings now calls =>
    if calls.hourly then
      .dropTarget (retentionCutoff now settings.hourlyRetentionHours) ::
        if calls.fiveMinutes then
          [.dropSource (retentionCutoff now settings.fiveMinuteRetentionHours)] else []
    else []

/-- What a list of operations does to the two tables of a tier. -/
def Tier.trace (D : Dialect) (tier : Tier) (s : MetricStore) : List StoreStep →
    List (Event MetricRow)
  | [] => []
  | step :: steps => tier.events D s step ++ tier.trace D (s.perform D step) steps

/-- The feed of a tier at the start of a run. -/
def Tier.feed (D : Dialect) (tier : Tier) (s : MetricStore) :
    Feed (bucketScheme D tier.bucketMS) where
  source := tier.source s
  target := tier.target s
  ever := tier.source s
  cutoffs := []
  source_ever := fun _ h => h

/-- A feed shows the two tables of a tier. -/
def Tier.Shows {D : Dialect} (tier : Tier) (f : Feed (bucketScheme D tier.bucketMS))
    (s : MetricStore) : Prop :=
  f.source = tier.source s ∧ f.target = tier.target s

section Shows

variable {D : Dialect} {s : MetricStore}

/-- The events of an operation have its effect on the tables of the five-minute tier. -/
lemma Tier.Shows.perform_fiveMinutes {f : Feed (bucketScheme D fiveMinuteMS)}
    (h : Tier.fiveMinutes.Shows f s) (step : StoreStep) :
    Tier.fiveMinutes.Shows (f.run (Tier.fiveMinutes.events D s step)) (s.perform D step) := by
  obtain ⟨hsource, htarget⟩ := h
  cases step with
  | saveMetric sample clock storeOK =>
    simp only [Tier.events, MetricStore.perform, MetricStore.saveMetric]
    split_ifs
    · have hwrite : f.source.upsert (sample.row clock) = s.raw.upsert (sample.row clock) := by
        rw [hsource]
        rfl
      exact ⟨hwrite, htarget⟩
    · exact ⟨hsource, htarget⟩
  | rollup now calls =>
    have hpass : (bucketScheme D fiveMinuteMS).pass f.source f.target (rawSince now) =
        rollupTable D s.raw s.five fiveMinuteMS (rawSince now) := by
      rw [rollupTable_eq_pass D s.raw s.five_plain, hsource, htarget]
      rfl
    obtain ⟨partitions, fiveMinutes, hourly⟩ := calls
    cases partitions with
    | false => exact ⟨hsource, htarget⟩
    | true =>
      cases fiveMinutes with
      | false => exact ⟨hsource, htarget⟩
      | true => cases hourly <;> exact ⟨hsource, hpass⟩
  | applyRetention settings now calls =>
    have hdrop : ∀ cutoff, deleteBefore f.target cutoff = deleteBefore s.five cutoff := by
      intro cutoff
      rw [htarget]
      rfl
    have hdropSource : ∀ cutoff, deleteBefore f.source cutoff = deleteBefore s.raw cutoff := by
      intro cutoff
      rw [hsource]
      rfl
    obtain ⟨hourly, fiveMinutes, raw, probeResults⟩ := calls
    cases hourly with
    | false => exact ⟨hsource, htarget⟩
    | true =>
      cases fiveMinutes with
      | false => exact ⟨hsource, htarget⟩
      | true =>
        cases raw with
        | false => exact ⟨hsource, hdrop _⟩
        | true => cases probeResults <;> exact ⟨hdropSource _, hdrop _⟩

/-- The events of an operation have its effect on the tables of the hourly tier. -/
lemma Tier.Shows.perform_hourly {f : Feed (bucketScheme D hourMS)}
    (h : Tier.hourly.Shows f s) (step : StoreStep) :
    Tier.hourly.Shows (f.run (Tier.hourly.events D s step)) (s.perform D step) := by
  obtain ⟨hsource, htarget⟩ := h
  cases step with
  | saveMetric sample clock storeOK =>
    simp only [Tier.events, MetricStore.perform, MetricStore.saveMetric]
    split_ifs <;> exact ⟨hsource, htarget⟩
  | rollup now calls =>
    set rows := (bucketScheme D fiveMinuteMS).passRows s.raw (rawSince now) with hrows
    have hfive : f.source.upsertAll rows =
        rollupTable D s.raw s.five fiveMinuteMS (rawSince now) := by
      rw [rollupTable_eq_pass D s.raw s.five_plain, hsource]
      rfl
    obtain ⟨hwrites, hkeep⟩ := f.run_writes rows
    rw [hfive] at hwrites
    rw [htarget] at hkeep
    obtain ⟨partitions, fiveMinutes, hourly⟩ := calls
    cases partitions with
    | false => exact ⟨hsource, htarget⟩
    | true =>
      cases fiveMinutes with
      | false => exact ⟨hsource, htarget⟩
      | true =>
        cases hourly with
        | false =>
          have hevents : Tier.hourly.events D s (.rollup now ⟨true, true, false⟩) =
              rows.map .write := List.append_nil _
          rw [hevents]
          exact ⟨hwrites, hkeep⟩
        | true =>
          have hevents : Tier.hourly.events D s (.rollup now ⟨true, true, true⟩) =
              rows.map .write ++ [.pass (fiveSince now)] := rfl
          rw [hevents, Feed.run_append]
          refine ⟨hwrites, ?_⟩
          have hpass : (bucketScheme D hourMS).pass (f.run (rows.map .write)).source
              (f.run (rows.map .write)).target (fiveSince now) =
              (bucketScheme D hourMS).pass (rollupTable D s.raw s.five fiveMinuteMS (rawSince now))
                s.hour (fiveSince now) := by
            rw [hwrites, hkeep]
            rfl
          have hstore : Tier.hourly.target (s.perform D (.rollup now ⟨true, true, true⟩)) =
              rollupTable D (rollupTable D s.raw s.five fiveMinuteMS (rawSince now)) s.hour hourMS
                (fiveSince now) := rfl
          rw [hstore, rollupTable_eq_pass D _ s.hour_plain]
          exact hpass
  | applyRetention settings now calls =>
    have hdrop : ∀ cutoff, deleteBefore f.target cutoff = deleteBefore s.hour cutoff := by
      intro cutoff
      rw [htarget]
      rfl
    have hdropSource : ∀ cutoff, deleteBefore f.source cutoff = deleteBefore s.five cutoff := by
      intro cutoff
      rw [hsource]
      rfl
    obtain ⟨hourly, fiveMinutes, raw, probeResults⟩ := calls
    cases hourly with
    | false => exact ⟨hsource, htarget⟩
    | true =>
      cases fiveMinutes with
      | false => exact ⟨hsource, hdrop _⟩
      | true => cases raw <;> cases probeResults <;> exact ⟨hdropSource _, hdrop _⟩

/-- The events of an operation have its effect on the tables. -/
lemma Tier.Shows.perform {tier : Tier} {f : Feed (bucketScheme D tier.bucketMS)}
    (h : tier.Shows f s) (step : StoreStep) :
    tier.Shows (f.run (tier.events D s step)) (s.perform D step) := by
  cases tier with
  | fiveMinutes => exact h.perform_fiveMinutes step
  | hourly => exact h.perform_hourly step

/-- The trace of a run has the effect of the run on the tables. -/
lemma Tier.Shows.run {tier : Tier} {f : Feed (bucketScheme D tier.bucketMS)}
    (h : tier.Shows f s) (steps : List StoreStep) :
    tier.Shows (f.run (tier.trace D s steps)) (s.run D steps) := by
  induction steps generalizing f s with
  | nil => exact h
  | cons step steps ih =>
    rw [Tier.trace, Feed.run_append]
    exact ih (h.perform step)

end Shows

/-! ## Stability -/

/-- Condensed rows are stable in a run: when a pass has aggregated all source rows of a cell, and no
other row is ever written to the cell, the row of the cell is the aggregate of all these rows,
unless and until the retention of the condensed table removes it. -/
def Tier.Stable (D : Dialect) (tier : Tier) (s : MetricStore) (steps : List StoreStep) : Prop :=
  ∀ before since after cell, tier.trace D s steps = before ++ .pass since :: after →
    cell ∈ (bucketScheme D tier.bucketMS).cellsSince ((tier.feed D s).run before).source since →
    (bucketScheme D tier.bucketMS).rowsSince ((tier.feed D s).run before).source since cell =
      (bucketScheme D tier.bucketMS).cellRows ((tier.feed D s).run before).ever cell →
    (((tier.feed D s).run before).step (.pass since)).Settled cell after →
    (tier.target (s.run D steps)).lookup cell =
      if after.any (Event.drops cell.2) then none
      else some (aggregateRows D cell ((bucketScheme D tier.bucketMS).cellRows
        ((tier.feed D s).run (tier.trace D s steps)).ever cell))

/-- Condensed rows are stable in every run whose passes are complete: every bucket that a pass reads
still has all source rows that were ever written to it, none of them before the start of the pass,
and does not start before a cutoff that its own table has seen. -/
theorem MetricStore.condensed_rows_stable (D : Dialect) (s : MetricStore) (steps : List StoreStep)
    (tier : Tier) (hcomplete : (tier.feed D s).CompletePasses (tier.trace D s steps)) :
    tier.Stable D s steps := by
  intro before since after cell htrace hcell _ hsettled
  have hshows : tier.Shows ((tier.feed D s).run (tier.trace D s steps)) (s.run D steps) :=
    Tier.Shows.run ⟨rfl, rfl⟩ steps
  rw [← hshows.2, htrace, Feed.run_append]
  rw [htrace] at hcomplete
  have hrows : (bucketScheme D tier.bucketMS).cellRows
      ((((tier.feed D s).run before).run (.pass since :: after))).ever cell =
      (bucketScheme D tier.bucketMS).cellRows ((tier.feed D s).run before).ever cell :=
    hsettled.cellRows_run
  rw [hrows]
  exact Feed.lookup_run hcell hcomplete.of_append hsettled

/-- A sample at a number of minutes after ten days. -/
def memorySample (minutes : ℤ) (memoryTotal : UInt64) : StoreStep :=
  .saveMetric { nodeID := "n1", receivedAt := unixEpoch + 240 * hour + minutes * minute,
                memoryTotal } 0 true

/-- A rollup at a number of minutes after ten days. -/
def rollupAt (minutes : ℤ) : StoreStep := .rollup (unixEpoch + 240 * hour + minutes * minute) {}

/-- Two samples of one bucket are condensed twice, with a clean-up in between. -/
def quietRollups : List StoreStep :=
  [memorySample 1 100, memorySample 4 50, rollupAt 5,
   .applyRetention { name := "site", rawRetentionHours := 24, fiveMinuteRetentionHours := 168,
                     hourlyRetentionHours := 8760 } (unixEpoch + 241 * hour) {}, rollupAt 90]

theorem condensed_rows_stable_quietRollups :
    Tier.fiveMinutes.Stable plainDialect {} quietRollups ∧
      Tier.hourly.Stable plainDialect {} quietRollups :=
  ⟨MetricStore.condensed_rows_stable plainDialect {} quietRollups .fiveMinutes (by decide +kernel),
    MetricStore.condensed_rows_stable plainDialect {} quietRollups .hourly (by decide +kernel)⟩

/-! ## A pass that starts inside a bucket -/

/-- Two samples of one bucket are condensed, and two days later a rollup starts between them. -/
def splitBucket : List StoreStep :=
  [memorySample 1 100, memorySample 4 50, rollupAt 5, rollupAt (2 + 48 * 60)]

/-- The cell of the two samples. -/
def splitCell : String × ℤ := ("n1", 240 * hourMS)

/-- The rows of the two samples. -/
def splitRows : List (Event MetricRow) :=
  [.write { nodeID := "n1", ts := 240 * hourMS + 60000, collectedAt := 240 * hourMS + 60000,
            memoryTotal := 100 },
   .write { nodeID := "n1", ts := 240 * hourMS + 240000, collectedAt := 240 * hourMS + 240000,
            memoryTotal := 50 }]

/-- The rollup that starts inside the bucket condenses the second sample alone and overwrites the
row that was made from both after the bucket had closed. -/
theorem split_bucket_not_stable : splitCell.2 + fiveMinuteMS ≤ 240 * hourMS + 5 * 60000 ∧
    ¬ Tier.fiveMinutes.Stable plainDialect {} splitBucket := by
  refine ⟨by decide, fun h => ?_⟩
  have htrace : Tier.fiveMinutes.trace plainDialect {} splitBucket =
      splitRows ++ .pass (192 * hourMS + 5 * 60000) :: [.pass (240 * hourMS + 2 * 60000)] := rfl
  have hrow := h splitRows _ _ splitCell htrace (by decide +kernel) (by decide +kernel)
    ⟨rfl, trivial⟩
  have hmemory := congrArg (Option.map MetricRow.memoryTotal) hrow
  revert hmemory
  decide +kernel

end Hostpin
