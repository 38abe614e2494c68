import Hostpin.Foundation.KeyedTable

/-!
# Tables of aggregates

A table of rows with a group and an instant is condensed into a second table with one row for each
group and bucket of instants.  A pass aggregates the rows of the first table from an instant on and
overwrites the rows of their buckets in the second; both tables lose old rows independently.

A `Feed` is the pair of tables together with two things that no table shows: all rows that were ever
written, and the cutoffs that were applied to the second table.  `Feed.lookup_run` says that the row
of a bucket stays the aggregate of all rows ever written to the bucket as long as every pass is
complete (`Feed.Complete`): a bucket that it reads has lost no row, lies on one side of the start of
the pass, and its own row has not been removed.
-/

namespace Rollup

variable {K V : Type} [DecidableEq K] {key : V → K × ℤ}

/-- How rows are condensed: the bucket of an instant and the aggregate of the rows of a cell, which
is a group and a bucket. -/
structure Scheme (key : V → K × ℤ) where
  bucket : ℤ → ℤ
  aggregate : K × ℤ → List V → V
  key_aggregate : ∀ cell rows, key (aggregate cell rows) = cell

variable (S : Scheme key)

/-- The cell of a row. -/
def Scheme.cell (v : V) : K × ℤ := ((key v).1, S.bucket (key v).2)

/-- The rows of a cell from an instant on, in the order of their instants. -/
def Scheme.rowsSince (t : KeyedTable key) (since : ℤ) (cell : K × ℤ) : List V :=
  t.selectOrdered (fun v => S.cell v = cell ∧ since ≤ (key v).2) fun v => (key v).2

/-- The rows of a cell, in the order of their instants. -/
def Scheme.cellRows (t : KeyedTable key) (cell : K × ℤ) : List V :=
  t.selectOrdered (fun v => S.cell v = cell) fun v => (key v).2

/-- The cells with a row from an instant on. -/
def Scheme.cellsSince (t : KeyedTable key) (since : ℤ) : List (K × ℤ) :=
  ((t.rows.filter fun v => since ≤ (key v).2).map S.cell).dedup

/-- The rows that a pass writes. -/
def Scheme.passRows (source : KeyedTable key) (since : ℤ) : List V :=
  (S.cellsSince source since).map fun cell => S.aggregate cell (S.rowsSince source since cell)

/-- A pass: aggregate the rows from an instant on and overwrite the rows of their cells. -/
def Scheme.pass (source target : KeyedTable key) (since : ℤ) : KeyedTable key :=
  target.upsertAll (S.passRows source since)

variable {S}

/-- A cell is read by a pass when it has a row from its start on. -/
lemma Scheme.mem_cellsSince {t : KeyedTable key} {since : ℤ} {cell : K × ℤ} :
    cell ∈ S.cellsSince t since ↔ ∃ v ∈ t, since ≤ (key v).2 ∧ S.cell v = cell := by
  simp [Scheme.cellsSince, KeyedTable.mem_def, and_assoc]

omit [DecidableEq K] in
/-- Rows of one cell are told apart by their instants. -/
lemma Scheme.key_eq_of_cell_eq {u v : V} (hcell : S.cell u = S.cell v)
    (htime : (key u).2 = (key v).2) : key u = key v := by
  have hgroup : (S.cell u).1 = (S.cell v).1 := congrArg Prod.fst hcell
  exact Prod.ext hgroup htime

/-- The rows of a pass have the keys of the cells that it reads. -/
lemma Scheme.map_key_passRows (source : KeyedTable key) (since : ℤ) :
    (S.passRows source since).map key = S.cellsSince source since := by
  rw [Scheme.passRows, List.map_map]
  refine (List.map_congr_left fun cell _ => ?_).trans (List.map_id _)
  exact S.key_aggregate cell _

/-- The row of a cell after a pass. -/
lemma Scheme.lookup_pass (source target : KeyedTable key) (since : ℤ) (cell : K × ℤ) :
    (S.pass source target since).lookup cell =
      if cell ∈ S.cellsSince source since then
        some (S.aggregate cell (S.rowsSince source since cell))
      else target.lookup cell := by
  have hkeys := S.map_key_passRows source since
  split_ifs with hcell
  · rw [KeyedTable.lookup_eq_some_iff]
    have hnodup : ((S.passRows source since).map key).Nodup := by
      rw [hkeys]
      exact List.nodup_dedup _
    refine ⟨(KeyedTable.mem_upsertAll hnodup).mpr (Or.inl ?_), S.key_aggregate cell _⟩
    exact List.mem_map_of_mem hcell
  · refine KeyedTable.lookup_congr fun r hr => ?_
    refine KeyedTable.mem_upsertAll_of_notMem ?_
    rwa [hkeys, hr]

/-- The rows of a cell in two tables with the same rows of the cell. -/
lemma Scheme.rowsSince_eq_cellRows {t u : KeyedTable key} {since : ℤ} {cell : K × ℤ}
    (h : ∀ v, S.cell v = cell → (v ∈ t ∧ since ≤ (key v).2 ↔ v ∈ u)) :
    S.rowsSince t since cell = S.cellRows u cell := by
  refine KeyedTable.selectOrdered_congr ?_ ?_ ?_
  · intro r s hr hs htime
    simp only [decide_eq_true_eq] at hr hs
    exact S.key_eq_of_cell_eq (hr.1.trans hs.1.symm) htime
  · intro r s hr hs htime
    simp only [decide_eq_true_eq] at hr hs
    exact S.key_eq_of_cell_eq (hr.trans hs.symm) htime
  · intro v
    simp only [decide_eq_true_eq]
    constructor
    · rintro ⟨hv, hcell, hsince⟩
      exact ⟨(h v hcell).mp ⟨hv, hsince⟩, hcell⟩
    · rintro ⟨hv, hcell⟩
      obtain ⟨ht, hsince⟩ := (h v hcell).mpr hv
      exact ⟨ht, hcell, hsince⟩

/-! ## Backed rows -/

/-- A row that a pass leaves was there before or condenses a row of the source. -/
lemma Scheme.mem_or_exists_of_mem_pass {source target : KeyedTable key} {since : ℤ} {r : V}
    (hr : r ∈ S.pass source target since) : r ∈ target ∨ ∃ v ∈ source, S.cell v = key r := by
  rcases KeyedTable.mem_or_mem_of_mem_upsertAll hr with hr | hr
  · obtain ⟨cell, hcell, rfl⟩ := List.mem_map.mp hr
    obtain ⟨v, hv, -, hvcell⟩ := Scheme.mem_cellsSince.mp hcell
    exact Or.inr ⟨v, hv, by rw [hvcell, S.key_aggregate]⟩
  · exact Or.inl hr

/-- The rows of the second table are backed by the first: each condenses a row whose key the first
table still has, or which lies before a cutoff of the first table. -/
def Scheme.Backed (S : Scheme key) (source : KeyedTable key) (cutoffs : List ℤ)
    (target : KeyedTable key) : Prop :=
  ∀ r ∈ target, ∃ instant, S.bucket instant = (key r).2 ∧
    ((∃ v ∈ source, key v = ((key r).1, instant)) ∨ ∃ c ∈ cutoffs, instant < c)

namespace Scheme.Backed

variable {source middle target : KeyedTable key} {cutoffs : List ℤ}

omit [DecidableEq K] in
/-- An empty table has nothing to back. -/
lemma empty_target : S.Backed source cutoffs KeyedTable.empty := by
  intro r hr
  exact absurd hr (KeyedTable.notMem_empty r)

/-- Inserting rows into the first table keeps the rows of the second backed. -/
lemma upsert_source (h : S.Backed source cutoffs target) (v : V) :
    S.Backed (source.upsert v) cutoffs target := by
  intro r hr
  obtain ⟨instant, hbucket, ⟨u, hu, hkey⟩ | hcut⟩ := h r hr
  · refine ⟨instant, hbucket, Or.inl ?_⟩
    by_cases hsame : key u = key v
    · exact ⟨v, KeyedTable.mem_upsert.mpr (Or.inl rfl), hsame.symm.trans hkey⟩
    · exact ⟨u, KeyedTable.mem_upsert.mpr (Or.inr ⟨hu, hsame⟩), hkey⟩
  · exact ⟨instant, hbucket, Or.inr hcut⟩

/-- Inserting a list of rows into the first table keeps the rows of the second backed. -/
lemma upsertAll_source (h : S.Backed source cutoffs target) (vs : List V) :
    S.Backed (source.upsertAll vs) cutoffs target := by
  induction vs generalizing source with
  | nil => exact h
  | cons v vs ih => exact ih (h.upsert_source v)

omit [DecidableEq K] in
/-- A cutoff of the first table is remembered. -/
lemma delete_source (h : S.Backed source cutoffs target) (cutoff : ℤ) :
    S.Backed (source.deleteWhere fun v => (key v).2 < cutoff) (cutoffs ++ [cutoff]) target := by
  intro r hr
  obtain ⟨instant, hbucket, ⟨u, hu, hkey⟩ | ⟨c, hc, hlt⟩⟩ := h r hr
  · by_cases hlt : instant < cutoff
    · exact ⟨instant, hbucket, Or.inr ⟨cutoff, by simp, hlt⟩⟩
    · have hkeep : decide ((key u).2 < cutoff) = false := by
        rw [hkey]
        exact decide_eq_false hlt
      exact ⟨instant, hbucket, Or.inl ⟨u, KeyedTable.mem_deleteWhere.mpr ⟨hu, hkeep⟩, hkey⟩⟩
  · exact ⟨instant, hbucket, Or.inr ⟨c, List.mem_append_left _ hc, hlt⟩⟩

omit [DecidableEq K] in
/-- Removing rows of the second table keeps the others backed. -/
lemma delete_target (h : S.Backed source cutoffs target) (p : V → Bool) :
    S.Backed source cutoffs (target.deleteWhere p) :=
  fun r hr => h r (KeyedTable.mem_deleteWhere.mp hr).1

/-- A pass over the first table writes backed rows. -/
lemma pass (h : S.Backed source cutoffs target) (since : ℤ) :
    S.Backed source cutoffs (S.pass source target since) := by
  intro r hr
  rcases mem_or_exists_of_mem_pass hr with hr | ⟨v, hv, hcell⟩
  · exact h r hr
  · have hgroup : (S.cell v).1 = (key r).1 := congrArg Prod.fst hcell
    exact ⟨(key v).2, congrArg Prod.snd hcell, Or.inl ⟨v, hv, Prod.ext hgroup rfl⟩⟩

/-- A pass over a table of backed rows writes backed rows, when its buckets are made of whole
buckets of that table. -/
lemma pass_of_backed {T : Scheme key} (hmiddle : T.Backed source cutoffs middle)
    (hnest : ∀ instant, S.bucket (T.bucket instant) = S.bucket instant)
    (h : S.Backed source cutoffs target) (since : ℤ) :
    S.Backed source cutoffs (S.pass middle target since) := by
  intro r hr
  rcases mem_or_exists_of_mem_pass hr with hr | ⟨v, hv, hcell⟩
  · exact h r hr
  · have hgroup : (S.cell v).1 = (key r).1 := congrArg Prod.fst hcell
    obtain ⟨instant, hbucket, hback⟩ := hmiddle v hv
    rw [show (key v).1 = (key r).1 from hgroup] at hback
    refine ⟨instant, ?_, hback⟩
    rw [← hnest, hbucket]
    exact congrArg Prod.snd hcell

omit [DecidableEq K] in
/-- A row of the second table whose bucket no cutoff reaches has a row in the first. -/
lemma exists_mem (h : S.Backed source cutoffs target) {r : V} (hr : r ∈ target)
    (hcut : ∀ c ∈ cutoffs, ∀ instant < c, S.bucket instant ≠ (key r).2) :
    ∃ v ∈ source, S.cell v = key r := by
  obtain ⟨instant, hbucket, ⟨v, hv, hkey⟩ | ⟨c, hc, hlt⟩⟩ := h r hr
  · refine ⟨v, hv, ?_⟩
    rw [Scheme.cell, hkey, hbucket]
  · exact absurd hbucket (hcut c hc instant hlt)

end Scheme.Backed

/-! ## Feeds -/

/-- The two tables, all rows that were ever written to the first, and the cutoffs that were applied
to the second. -/
structure Feed (S : Scheme key) where
  source : KeyedTable key
  target : KeyedTable key
  ever : KeyedTable key
  cutoffs : List ℤ
  source_ever : ∀ v ∈ source, v ∈ ever

/-- What happens to the tables. -/
inductive Event (V : Type) where
  | write (v : V)
  | pass (since : ℤ)
  | dropSource (cutoff : ℤ)
  | dropTarget (cutoff : ℤ)

/-- The feed after an event. -/
def Feed.step (f : Feed S) : Event V → Feed S
  | .write v =>
    { f with
      source := f.source.upsert v
      ever := f.ever.upsert v
      source_ever := by
        intro u hu
        rcases KeyedTable.mem_upsert.mp hu with rfl | ⟨hu, hne⟩
        · exact KeyedTable.mem_upsert.mpr (Or.inl rfl)
        · exact KeyedTable.mem_upsert.mpr (Or.inr ⟨f.source_ever u hu, hne⟩) }
  | .pass since => { f with target := S.pass f.source f.target since }
  | .dropSource cutoff =>
    { f with
      source := f.source.deleteWhere fun v => (key v).2 < cutoff
      source_ever := fun u hu => f.source_ever u (KeyedTable.mem_deleteWhere.mp hu).1 }
  | .dropTarget cutoff =>
    { f with
      target := f.target.deleteWhere fun v => (key v).2 < cutoff
      cutoffs := f.cutoffs ++ [cutoff] }

/-- The feed after a list of events. -/
def Feed.run (f : Feed S) (events : List (Event V)) : Feed S := events.foldl Feed.step f

/-- A list of events one after the other. -/
lemma Feed.run_append (f : Feed S) (es es' : List (Event V)) :
    f.run (es ++ es') = (f.run es).run es' :=
  List.foldl_append

/-- A pass from an instant on is complete: every cell that it reads still has all rows that were
ever written to it, none of them before the start of the pass, and the row of the cell was not
removed by a cutoff. -/
def Feed.Complete (f : Feed S) (since : ℤ) : Prop :=
  ∀ v ∈ f.source, since ≤ (key v).2 →
    (∀ u ∈ f.ever, S.cell u = S.cell v → u ∈ f.source ∧ since ≤ (key u).2) ∧
      ∀ cutoff ∈ f.cutoffs, cutoff ≤ (S.cell v).2

/-- An event is a complete pass or no pass. -/
def Feed.Allows (f : Feed S) : Event V → Prop
  | .pass since => f.Complete since
  | _ => True

/-- Every pass of a list of events is complete. -/
def Feed.CompletePasses (f : Feed S) : List (Event V) → Prop
  | [] => True
  | event :: events => f.Allows event ∧ (f.step event).CompletePasses events

instance [DecidableEq V] (f : Feed S) (since : ℤ) : Decidable (f.Complete since) :=
  inferInstanceAs (Decidable (∀ v ∈ f.source.rows, since ≤ (key v).2 →
    (∀ u ∈ f.ever.rows, S.cell u = S.cell v → u ∈ f.source.rows ∧ since ≤ (key u).2) ∧
      ∀ cutoff ∈ f.cutoffs, cutoff ≤ (S.cell v).2))

instance [DecidableEq V] (f : Feed S) : (event : Event V) → Decidable (f.Allows event)
  | .pass since => inferInstanceAs (Decidable (f.Complete since))
  | .write _ => .isTrue trivial
  | .dropSource _ => .isTrue trivial
  | .dropTarget _ => .isTrue trivial

instance decidableCompletePasses [DecidableEq V] (f : Feed S) :
    (events : List (Event V)) → Decidable (f.CompletePasses events)
  | [] => .isTrue trivial
  | event :: events =>
    have := decidableCompletePasses (f.step event) events
    inferInstanceAs (Decidable (_ ∧ _))

/-- The rows ever written to a cell stay the same during a list of events. -/
def Feed.Settled (f : Feed S) (cell : K × ℤ) : List (Event V) → Prop
  | [] => True
  | event :: events =>
    S.cellRows (f.step event).ever cell = S.cellRows f.ever cell ∧
      (f.step event).Settled cell events

/-- The rows ever written to a cell that is settled during a list of events. -/
lemma Feed.Settled.cellRows_run {cell : K × ℤ} {events : List (Event V)} {f : Feed S}
    (h : f.Settled cell events) : S.cellRows (f.run events).ever cell = S.cellRows f.ever cell := by
  induction events generalizing f with
  | nil => rfl
  | cons event events ih => exact (ih h.2).trans h.1

/-- An event removes the row of a bucket. -/
def Event.drops (bucket : ℤ) : Event V → Bool
  | .dropTarget cutoff => bucket < cutoff
  | _ => false

/-- A complete pass that reads a cell writes the aggregate of all rows ever written to it. -/
lemma Feed.lookup_pass_of_complete {f : Feed S} {since : ℤ} (hcomplete : f.Complete since)
    {cell : K × ℤ} (hcell : cell ∈ S.cellsSince f.source since) :
    (f.step (.pass since)).target.lookup cell =
      some (S.aggregate cell (S.cellRows f.ever cell)) := by
  obtain ⟨v, hv, hsince, rfl⟩ := Scheme.mem_cellsSince.mp hcell
  have hrows : S.rowsSince f.source since (S.cell v) = S.cellRows f.ever (S.cell v) := by
    refine Scheme.rowsSince_eq_cellRows fun u hu => ?_
    constructor
    · exact fun h => f.source_ever u h.1
    · exact fun h => (hcomplete v hv hsince).1 u h hu
  rw [Feed.step, Scheme.lookup_pass, if_pos hcell, hrows]

/-- A complete pass reads no cell whose row was removed by a cutoff. -/
lemma Feed.any_cutoffs_of_complete {f : Feed S} {since : ℤ} (hcomplete : f.Complete since)
    {cell : K × ℤ} (hcell : cell ∈ S.cellsSince f.source since) :
    (f.cutoffs.any fun c => cell.2 < c) = false := by
  obtain ⟨v, hv, hsince, rfl⟩ := Scheme.mem_cellsSince.mp hcell
  rw [List.any_eq_false]
  intro c hc
  simpa using (hcomplete v hv hsince).2 c hc

/-- The row of a cell stays the aggregate of the rows ever written to it, or is removed by a
cutoff. -/
lemma Feed.lookup_run_of_lookup {cell : K × ℤ} (events : List (Event V)) (f : Feed S)
    (hpasses : f.CompletePasses events) (hsettled : f.Settled cell events)
    (hrow : f.target.lookup cell = if f.cutoffs.any (fun c => cell.2 < c) then none
      else some (S.aggregate cell (S.cellRows f.ever cell))) :
    (f.run events).target.lookup cell =
      if (f.run events).cutoffs.any (fun c => cell.2 < c) then none
      else some (S.aggregate cell (S.cellRows f.ever cell)) := by
  induction events generalizing f with
  | nil => exact hrow
  | cons event events ih =>
    obtain ⟨hpass, hpasses⟩ := hpasses
    obtain ⟨hever, hsettled⟩ := hsettled
    rw [← hever]
    refine ih (f.step event) hpasses hsettled ?_
    rw [hever]
    cases event with
    | write v => exact hrow
    | dropSource cutoff => exact hrow
    | pass since =>
      by_cases hcell : cell ∈ S.cellsSince f.source since
      · have hcomplete : f.Complete since := hpass
        have hcuts := f.any_cutoffs_of_complete hcomplete hcell
        rw [Feed.lookup_pass_of_complete hcomplete hcell]
        have hsame : (f.step (.pass since)).cutoffs = f.cutoffs := rfl
        rw [hsame, hcuts, if_neg Bool.false_ne_true]
      · rw [Feed.step, Scheme.lookup_pass, if_neg hcell]
        exact hrow
    | dropTarget cutoff =>
      have hcuts : (f.step (.dropTarget cutoff)).cutoffs.any (fun c => cell.2 < c) =
          (f.cutoffs.any (fun c => cell.2 < c) || decide (cell.2 < cutoff)) := by
        simp [Feed.step]
      rw [hcuts]
      by_cases hcut : cell.2 < cutoff
      · rw [decide_eq_true hcut, Bool.or_true, if_pos rfl, KeyedTable.lookup_eq_none_iff]
        intro r hr hkey
        obtain ⟨-, hkeep⟩ := KeyedTable.mem_deleteWhere.mp hr
        rw [hkey] at hkeep
        simp [hcut] at hkeep
      · have hsame : (f.step (.dropTarget cutoff)).target.lookup cell = f.target.lookup cell := by
          refine KeyedTable.lookup_congr fun r hr => ?_
          have hkeep : decide ((key r).2 < cutoff) = false := by
            rw [hr]
            exact decide_eq_false hcut
          rw [Feed.step, KeyedTable.mem_deleteWhere]
          exact ⟨And.left, fun h => ⟨h, hkeep⟩⟩
        rw [hsame, decide_eq_false hcut, Bool.or_false]
        exact hrow

/-- The later passes of a list of events are complete. -/
lemma Feed.CompletePasses.of_append {f : Feed S} {es es' : List (Event V)}
    (h : f.CompletePasses (es ++ es')) : (f.run es).CompletePasses es' := by
  induction es generalizing f with
  | nil => exact h
  | cons event es ih => exact ih h.2

/-- Writing a list of rows. -/
lemma Feed.run_writes (f : Feed S) (vs : List V) :
    (f.run (vs.map .write)).source = f.source.upsertAll vs ∧
      (f.run (vs.map .write)).target = f.target := by
  induction vs generalizing f with
  | nil => exact ⟨rfl, rfl⟩
  | cons v vs ih => exact ih (f.step (.write v))

/-- The cutoffs that were applied during a list of events. -/
lemma Feed.any_cutoffs_run (bucket : ℤ) (events : List (Event V)) (f : Feed S) :
    (f.run events).cutoffs.any (fun c => bucket < c) =
      (f.cutoffs.any (fun c => bucket < c) || events.any (Event.drops bucket)) := by
  induction events generalizing f with
  | nil => simp [Feed.run]
  | cons event events ih =>
    have hrun : f.run (event :: events) = (f.step event).run events := rfl
    rw [hrun, ih, List.any_cons]
    cases event with
    | write v => simp [Feed.step, Event.drops]
    | pass since => simp [Feed.step, Event.drops]
    | dropSource cutoff => simp [Feed.step, Event.drops]
    | dropTarget cutoff => simp [Feed.step, Event.drops, Bool.or_assoc]

/-- Once a complete pass has read a cell to which nothing new is written, the row of the cell is
the aggregate of all rows ever written to the cell until a cutoff removes it, provided that all
later passes are complete. -/
theorem Feed.lookup_run {f : Feed S} {since : ℤ} {cell : K × ℤ} {events : List (Event V)}
    (hcell : cell ∈ S.cellsSince f.source since)
    (hpasses : f.CompletePasses (.pass since :: events))
    (hsettled : (f.step (.pass since)).Settled cell events) :
    (f.run (.pass since :: events)).target.lookup cell =
      if events.any (Event.drops cell.2) then none
      else some (S.aggregate cell (S.cellRows f.ever cell)) := by
  obtain ⟨hpass, hlater⟩ := hpasses
  have hcomplete : f.Complete since := hpass
  have hcuts := f.any_cutoffs_of_complete hcomplete hcell
  have hever : (f.step (.pass since)).ever = f.ever := rfl
  have hcutoffs : (f.step (.pass since)).cutoffs = f.cutoffs := rfl
  have hstart : (f.step (.pass since)).target.lookup cell =
      if (f.step (.pass since)).cutoffs.any (fun c => cell.2 < c) then none
      else some (S.aggregate cell (S.cellRows (f.step (.pass since)).ever cell)) := by
    rw [f.lookup_pass_of_complete hcomplete hcell, hcutoffs, hcuts, hever,
      if_neg Bool.false_ne_true]
  have hrow := (f.step (.pass since)).lookup_run_of_lookup events hlater hsettled hstart
  rw [Feed.any_cutoffs_run, hcutoffs, hcuts, Bool.false_or, hever] at hrow
  exact hrow

end Rollup
