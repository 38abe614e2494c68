import Hostpin.Foundation.Binary64
import Hostpin.Store.Metrics

/-!
# The history of a node

A history query reads the rows of a node in a window of time from the tier that the length of the
window selects, at most `historyLimit` of them with the oldest first, and thins them out to a number
of points.

The loop of `downsample` computes its positions in floating point; `downsample_ends` says that no
position is out of range and that the ends of the rows survive.  The limit is applied before: the
newest row is among the points exactly when the window has no more rows than the limit.
-/

namespace Hostpin

open Clock

/-! ## Thinning out -/

section Downsample

variable {α : Type}

/-- One round of the loop: take the sample at the position of the round unless the last round took
it.  A position outside of the input is a panic. -/
def downsampleStep (index : ℕ → ℕ) (input : List α) (state : List α × ℤ) (i : ℕ) :
    Option (List α × ℤ) :=
  if (index i : ℤ) = state.2 then some state
  else (input[index i]?).map fun sample => (state.1 ++ [sample], (index i : ℤ))

/-- The position of a round when `span` steps of the input are spread over `gaps` rounds. -/
def floatIndex (span gaps i : ℕ) : ℕ :=
  ((UInt64.ofNat i).toFloat *
    ((UInt64.ofNat span).toFloat / (UInt64.ofNat gaps).toFloat)).toUInt64.toNat

/-- Thin out a list to a number of points.  The positions of the loop are a parameter, a function of
the last position of the input, the last round and the round. -/
def downsampleBy (index : ℕ → ℕ → ℕ → ℕ) (receivedAt : α → Time) (input : List α)
    (maxPoints : ℤ) : Option (List α) :=
  if maxPoints ≤ 0 ∨ (input.length : ℤ) ≤ maxPoints then some input
  else if maxPoints = 1 then input.getLast?.map fun sample => [sample]
  else do
    let (output, _) ← (List.range maxPoints.toNat).foldlM
      (downsampleStep (index (input.length - 1) (maxPoints.toNat - 1)) input) ([], -1)
    let lastOutput ← output.getLast?
    let lastInput ← input.getLast?
    if receivedAt lastOutput ≠ receivedAt lastInput then some (output.dropLast ++ [lastInput])
    else some output

/-- Rounds whose positions are in range do not panic; they keep the samples taken before and add
samples of the input. -/
lemma exists_foldlM_downsampleStep {index : ℕ → ℕ} {input : List α} (rounds : List ℕ)
    (hindex : ∀ i ∈ rounds, index i < input.length) (state : List α × ℤ)
    (hmem : ∀ x ∈ state.1, x ∈ input) :
    ∃ state', rounds.foldlM (downsampleStep index input) state = some state' ∧
      state.1 <+: state'.1 ∧ ∀ x ∈ state'.1, x ∈ input := by
  induction rounds generalizing state with
  | nil => exact ⟨state, rfl, List.prefix_rfl, hmem⟩
  | cons i rounds ih =>
    have hrest : ∀ j ∈ rounds, index j < input.length :=
      fun j hj => hindex j (List.mem_cons_of_mem _ hj)
    have hi : index i < input.length := hindex i List.mem_cons_self
    by_cases hsame : (index i : ℤ) = state.2
    · obtain ⟨state', hrun, hpre, hmem'⟩ := ih hrest state hmem
      refine ⟨state', ?_, hpre, hmem'⟩
      rw [List.foldlM_cons, downsampleStep, if_pos hsame]
      exact hrun
    · have hnext : ∀ x ∈ state.1 ++ [input[index i]], x ∈ input := by
        intro x hx
        rcases List.mem_append.mp hx with hx | hx
        · exact hmem x hx
        · rw [List.mem_singleton.mp hx]
          exact List.getElem_mem hi
      obtain ⟨state', hrun, hpre, hmem'⟩ := ih hrest (state.1 ++ [input[index i]], index i) hnext
      refine ⟨state', ?_, (List.prefix_append _ _).trans hpre, hmem'⟩
      rw [List.foldlM_cons, downsampleStep, if_neg hsame, List.getElem?_eq_getElem hi]
      exact hrun

/-- The whole loop takes the first sample of the input first. -/
lemma exists_foldlM_range {index : ℕ → ℕ} {x : α} {input : List α} {n : ℕ} (hn : 0 < n)
    (hzero : index 0 = 0) (hindex : ∀ i < n, index i < (x :: input).length) :
    ∃ output last, (List.range n).foldlM (downsampleStep index (x :: input)) ([], -1) =
      some (x :: output, last) ∧ ∀ y ∈ x :: output, y ∈ x :: input := by
  obtain ⟨m, rfl⟩ : ∃ m, n = m + 1 := ⟨n - 1, by omega⟩
  have hrest : ∀ i ∈ (List.range m).map Nat.succ, index i < (x :: input).length := by
    intro i hi
    obtain ⟨j, hj, rfl⟩ := List.mem_map.mp hi
    exact hindex (j + 1) (by simpa using hj)
  have hstart : ∀ y ∈ ([x], (0 : ℤ)).1, y ∈ x :: input := by simp
  obtain ⟨state, hrun, ⟨output, houtput⟩, hmem⟩ :=
    exists_foldlM_downsampleStep _ hrest ([x], 0) hstart
  have hstate : state = (x :: output, state.2) := Prod.ext houtput.symm rfl
  refine ⟨output, state.2, ?_, ?_⟩
  · rw [← hstate, List.range_succ_eq_map, List.foldlM_cons, downsampleStep, hzero]
    exact hrun
  · intro y hy
    refine hmem y ?_
    rw [← houtput]
    exact hy

/-- Thinning out keeps the newest sample and, unless it returns a single point, the oldest. -/
lemma downsampleBy_ends {index : ℕ → ℕ → ℕ → ℕ} {receivedAt : α → Time} {input : List α}
    {maxPoints : ℤ} (hinput : input ≠ [])
    (hinj : ∀ x ∈ input, ∀ y ∈ input, receivedAt x = receivedAt y → x = y)
    (hzero : ∀ gaps, 0 < gaps → gaps < input.length - 1 → index (input.length - 1) gaps 0 = 0)
    (hindex : ∀ gaps i, 0 < gaps → i ≤ gaps → gaps < input.length - 1 →
      index (input.length - 1) gaps i ≤ input.length - 1) :
    ∃ output, downsampleBy index receivedAt input maxPoints = some output ∧
      output.getLast? = input.getLast? ∧ (1 < output.length → output.head? = input.head?) := by
  obtain ⟨x, rest, rfl⟩ := List.exists_cons_of_ne_nil hinput
  unfold downsampleBy
  split_ifs with hall hone
  · exact ⟨x :: rest, rfl, rfl, fun _ => rfl⟩
  · refine ⟨[(x :: rest).getLast hinput], ?_, ?_, ?_⟩
    · rw [List.getLast?_eq_some_getLast hinput]
      rfl
    · rw [List.getLast?_eq_some_getLast hinput]
      rfl
    · simp
  · rw [not_or, not_le, not_le] at hall
    obtain ⟨hpos, hlong⟩ := hall
    set n := maxPoints.toNat with hn
    have hn2 : 2 ≤ n := by omega
    have hnlen : n < (x :: rest).length := by omega
    have hrange : ∀ i < n, index ((x :: rest).length - 1) (n - 1) i < (x :: rest).length := by
      intro i hi
      have hle := hindex (n - 1) i (by omega) (by omega) (by omega)
      omega
    obtain ⟨output, last, hrun, hmem⟩ := exists_foldlM_range (by omega)
      (hzero (n - 1) (by omega) (by omega)) hrange
    have hlast := List.getLast?_eq_some_getLast (List.cons_ne_nil x output)
    have hlastInput := List.getLast?_eq_some_getLast hinput
    simp only [hrun, hlast, hlastInput, Option.bind_eq_bind, Option.bind_some]
    split_ifs with hdiff
    · refine ⟨_, rfl, by simp, ?_⟩
      intro hlength
      cases output with
      | nil => simp at hlength
      | cons y output => rfl
    · rw [not_not] at hdiff
      have heq := hinj _ (hmem _ (List.getLast_mem _)) _ (List.getLast_mem hinput) hdiff
      exact ⟨x :: output, rfl, by rw [hlast, heq], fun _ => rfl⟩

end Downsample

/-- Thin out samples to a number of points. -/
def downsample (input : List MetricSample) (maxPoints : ℤ) : Option (List MetricSample) :=
  downsampleBy floatIndex MetricSample.receivedAt input maxPoints

/-- Thinning out with binary64 positions keeps the newest and the oldest, when the times are
distinct. -/
lemma downsampleBy_floatIndex_ends {α : Type} {receivedAt : α → Time} {input : List α}
    (maxPoints : ℤ) (hinput : input ≠ []) (hlength : input.length < 2 ^ 50)
    (hinj : ∀ x ∈ input, ∀ y ∈ input, receivedAt x = receivedAt y → x = y) :
    ∃ output, downsampleBy floatIndex receivedAt input maxPoints = some output ∧
      output.getLast? = input.getLast? ∧ (1 < output.length → output.head? = input.head?) := by
  refine downsampleBy_ends hinput hinj ?_ ?_
  · intro gaps hpos hgaps
    unfold floatIndex
    rw [Binary64.zero_mul_div (by omega) (by omega) hpos (by omega)]
    rfl
  · intro gaps i hpos hi hgaps
    exact Binary64.toNat_mul_div_le (by omega) (by omega) hpos (by omega) hi

/-- Thinning out samples with distinct times keeps the newest and the oldest. -/
lemma downsample_ends {input : List MetricSample} (maxPoints : ℤ) (hinput : input ≠ [])
    (hlength : input.length < 2 ^ 50)
    (hinj : ∀ x ∈ input, ∀ y ∈ input, x.receivedAt = y.receivedAt → x = y) :
    ∃ output, downsample input maxPoints = some output ∧
      output.getLast? = input.getLast? ∧ (1 < output.length → output.head? = input.head?) :=
  downsampleBy_floatIndex_ends maxPoints hinput hlength hinj

/-! ## The query -/

/-- A query for the history of a node. -/
structure HistoryQuery where
  nodeID : String
  start : Time := 0
  endAt : Time := 0
  maxPoints : ℤ := 0

/-- The three metric tables. -/
inductive MetricTable where
  | raw
  | fiveMinutes
  | hourly
deriving DecidableEq

/-- The rows of a metric table. -/
def MetricStore.table (s : MetricStore) : MetricTable → KeyedTable MetricRow.key
  | .raw => s.raw
  | .fiveMinutes => s.five
  | .hourly => s.hour

/-- The query with its defaults: it ends now, and a start that is missing or not before the end is
one hour before the end. -/
def HistoryQuery.withDefaults (query : HistoryQuery) (clock : Time) : HistoryQuery :=
  let endAt := if isZero query.endAt then clock else query.endAt
  let start := if isZero query.start || !(query.start < endAt) then endAt - hour else query.start
  { query with start, endAt }

/-- The table that the length of the window selects. -/
def HistoryQuery.table (query : HistoryQuery) : MetricTable :=
  let window := sub query.endAt query.start
  if window > 90 * 24 * hour then .hourly
  else if window > 7 * 24 * hour then .fiveMinutes
  else .raw

/-- A row is one of the node inside the window. -/
def HistoryQuery.selects (query : HistoryQuery) (r : MetricRow) : Bool :=
  r.nodeID = query.nodeID ∧ unixMilli query.start ≤ r.ts ∧ r.ts ≤ unixMilli query.endAt

/-- The rows of the node inside the window, the oldest first. -/
def MetricStore.windowRows (s : MetricStore) (query : HistoryQuery) : List MetricRow :=
  (s.table query.table).selectOrdered query.selects MetricRow.ts

/-- The number of rows that a query reads. -/
def historyLimit : ℕ := 20000

/-- What a query may end in instead of samples. -/
inductive HistoryError where
  | store
  | panic
deriving DecidableEq

/-- The history of a node at a clock reading.  Whether the database answers is an argument. -/
def MetricStore.history (s : MetricStore) (query : HistoryQuery) (clock : Time) (readOK : Bool) :
    Except HistoryError (List MetricSample) :=
  let query := query.withDefaults clock
  if !readOK then .error .store
  else
    let rows := ((s.windowRows query).take historyLimit).map scanMetric
    let maxPoints := if query.maxPoints ≤ 0 then 500 else query.maxPoints
    match downsample rows maxPoints with
    | none => .error .panic
    | some samples => .ok samples

/-! ## The ends of the window -/

section Ends

variable {s : MetricStore} {query : HistoryQuery}

/-- The rows of a window are strictly ordered. -/
lemma MetricStore.pairwise_windowRows (s : MetricStore) (query : HistoryQuery) :
    (s.windowRows query).Pairwise fun r r' => r.ts < r'.ts := by
  refine KeyedTable.pairwise_lt_selectOrdered fun r r' hr hr' hts => ?_
  simp only [HistoryQuery.selects, decide_eq_true_eq] at hr hr'
  exact Prod.ext (hr.1.trans hr'.1.symm) hts

/-- Rows of a window with the same time of receipt are the same row. -/
lemma scanMetric_inj_of_mem_windowRows {r r' : MetricRow} (hr : r ∈ s.windowRows query)
    (hr' : r' ∈ s.windowRows query) (h : (scanMetric r).receivedAt = (scanMetric r').receivedAt) :
    r = r' := by
  have hts : r.ts = r'.ts := ofUnixMilli_injective h
  obtain ⟨hmem, hsel⟩ := KeyedTable.mem_selectOrdered.mp hr
  obtain ⟨hmem', hsel'⟩ := KeyedTable.mem_selectOrdered.mp hr'
  simp only [HistoryQuery.selects, decide_eq_true_eq] at hsel hsel'
  exact KeyedTable.eq_of_key_eq hmem hmem' (Prod.ext (hsel.1.trans hsel'.1.symm) hts)

/-- A history that reads a row succeeds; it ends with the last row that it reads and, unless it is
a single point, starts with the first. -/
lemma MetricStore.history_ends (s : MetricStore) (query : HistoryQuery) (clock : Time)
    (hrow : s.windowRows (query.withDefaults clock) ≠ []) :
    ∃ samples, s.history query clock true = .ok samples ∧
      samples.getLast? = ((s.windowRows (query.withDefaults clock)).take historyLimit).getLast?.map
        scanMetric ∧
      (1 < samples.length →
        samples.head? = (s.windowRows (query.withDefaults clock)).head?.map scanMetric) := by
  set rows := s.windowRows (query.withDefaults clock) with hrows
  obtain ⟨r, rest, hcons⟩ := List.exists_cons_of_ne_nil hrow
  have hne : (rows.take historyLimit).map scanMetric ≠ [] := by
    rw [hcons]
    simp [historyLimit]
  have hlength : ((rows.take historyLimit).map scanMetric).length < 2 ^ 50 := by
    rw [List.length_map]
    have hle := List.length_take_le historyLimit rows
    unfold historyLimit at hle ⊢
    omega
  have hinj : ∀ x ∈ (rows.take historyLimit).map scanMetric,
      ∀ y ∈ (rows.take historyLimit).map scanMetric, x.receivedAt = y.receivedAt → x = y := by
    intro x hx y hy hxy
    obtain ⟨u, hu, rfl⟩ := List.mem_map.mp hx
    obtain ⟨v, hv, rfl⟩ := List.mem_map.mp hy
    rw [scanMetric_inj_of_mem_windowRows (List.mem_of_mem_take hu) (List.mem_of_mem_take hv) hxy]
  obtain ⟨samples, hdown, hlast, hhead⟩ := downsample_ends
    (if (query.withDefaults clock).maxPoints ≤ 0 then 500 else (query.withDefaults clock).maxPoints)
    hne hlength hinj
  refine ⟨samples, ?_, ?_, ?_⟩
  · simp only [MetricStore.history, ← hrows, hdown]
    rfl
  · rw [hlast, List.getLast?_map]
  · intro hmany
    rw [hhead hmany, hcons]
    rfl

/-- Every history that the database answers succeeds. -/
lemma MetricStore.exists_history (s : MetricStore) (query : HistoryQuery) (clock : Time) :
    ∃ samples, s.history query clock true = .ok samples := by
  by_cases hrow : s.windowRows (query.withDefaults clock) = []
  · have hdown : ∀ maxPoints : ℤ, 0 < maxPoints → downsample [] maxPoints = some [] := by
      intro maxPoints hpos
      exact if_pos (.inr hpos.le)
    refine ⟨[], ?_⟩
    simp only [MetricStore.history, hrow, List.take_nil, List.map_nil]
    rw [hdown _ (by split <;> omega)]
    rfl
  · obtain ⟨samples, hsamples, -⟩ := s.history_ends query clock hrow
    exact ⟨samples, hsamples⟩

end Ends

/-- The samples of the history of a node. -/
def MetricStore.historySamples (s : MetricStore) (query : HistoryQuery) (clock : Time) :
    List MetricSample :=
  (s.history query clock true).toOption.getD []

/-- A history that the database answers consists of its samples. -/
lemma MetricStore.history_eq (s : MetricStore) (query : HistoryQuery) (clock : Time) :
    s.history query clock true = .ok (s.historySamples query clock) := by
  obtain ⟨samples, hsamples⟩ := s.exists_history query clock
  unfold MetricStore.historySamples
  rw [hsamples]
  rfl

/-- The raw samples of a node since an instant. -/
def MetricStore.recentMetrics (s : MetricStore) (nodeID : String) (since : Time) :
    List MetricSample :=
  (s.raw.selectOrdered (fun r => r.nodeID = nodeID ∧ unixMilli since ≤ r.ts) MetricRow.ts).map
    scanMetric

/-- The history of a node shows the ends of the window: the last sample is the newest row of the
node in the window and, when there is more than one sample, the first is the oldest row. -/
def MetricStore.ShowsEnds (s : MetricStore) (query : HistoryQuery) (clock : Time) : Prop :=
  ∃ samples newest oldest, s.history query clock true = .ok samples ∧
    newest ∈ s.windowRows (query.withDefaults clock) ∧
    oldest ∈ s.windowRows (query.withDefaults clock) ∧
    (∀ r ∈ s.windowRows (query.withDefaults clock), oldest.ts ≤ r.ts ∧ r.ts ≤ newest.ts) ∧
    samples.getLast? = some (scanMetric newest) ∧
    (1 < samples.length → samples.head? = some (scanMetric oldest))

/-- The rows of a window lie between its ends. -/
lemma MetricStore.ts_mem_windowRows {s : MetricStore} {query : HistoryQuery}
    (hne : s.windowRows query ≠ []) : ∀ r ∈ s.windowRows query,
      ((s.windowRows query).head hne).ts ≤ r.ts ∧ r.ts ≤ ((s.windowRows query).getLast hne).ts := by
  intro r hr
  have hle : (s.windowRows query).Pairwise fun r r' => r.ts ≤ r'.ts :=
    (s.pairwise_windowRows query).imp le_of_lt
  exact ⟨hle.rel_head_of_rel_head_head hr le_rfl, hle.rel_getLast_of_rel_getLast_getLast hr le_rfl⟩

/-- When a window has no more rows than the limit, the history shows its ends. -/
lemma MetricStore.showsEnds_of_length_le {s : MetricStore} {query : HistoryQuery} {clock : Time}
    (hrow : s.windowRows (query.withDefaults clock) ≠ [])
    (hlength : (s.windowRows (query.withDefaults clock)).length ≤ historyLimit) :
    s.ShowsEnds query clock := by
  obtain ⟨samples, hok, hlast, hhead⟩ := s.history_ends query clock hrow
  rw [List.take_of_length_le hlength, List.getLast?_eq_some_getLast hrow] at hlast
  rw [List.head?_eq_some_head hrow] at hhead
  exact ⟨samples, _, _, hok, List.getLast_mem hrow, List.head_mem hrow, ts_mem_windowRows hrow,
    hlast, hhead⟩

/-- When a window has more rows than the limit, the history does not show its newest row. -/
lemma MetricStore.not_showsEnds_of_lt_length {s : MetricStore} {query : HistoryQuery} {clock : Time}
    (hlength : historyLimit < (s.windowRows (query.withDefaults clock)).length) :
    ¬ s.ShowsEnds query clock := by
  rintro ⟨samples, newest, oldest, hok, hnewest, -, hbetween, hlast, -⟩
  set rows := s.windowRows (query.withDefaults clock) with hrows
  have hrow : rows ≠ [] := List.ne_nil_of_length_pos (Nat.zero_lt_of_lt hlength)
  obtain ⟨samples', hok', hlast', -⟩ := s.history_ends query clock hrow
  rw [hok] at hok'
  cases hok'
  -- the last row that is read is taken for the newest one
  have htake : rows.take historyLimit ≠ [] := by
    refine List.ne_nil_of_length_pos ?_
    rw [List.length_take_of_le hlength.le]
    decide
  rw [hlast, List.getLast?_eq_some_getLast htake, Option.map_some, Option.some.injEq] at hlast'
  have hread : (rows.take historyLimit).getLast htake ∈ rows.take historyLimit :=
    List.getLast_mem htake
  have hsame := scanMetric_inj_of_mem_windowRows hnewest (List.mem_of_mem_take hread)
    (congrArg MetricSample.receivedAt hlast')
  -- but a later row is left
  have hdrop : 0 < (rows.drop historyLimit).length := by
    rw [List.length_drop]
    omega
  obtain ⟨later, hlater⟩ := List.exists_mem_of_length_pos hdrop
  have hordered : (rows.take historyLimit ++ rows.drop historyLimit).Pairwise
      fun r r' => r.ts < r'.ts := by
    rw [List.take_append_drop]
    exact s.pairwise_windowRows _
  have hlt := (List.pairwise_append.mp hordered).2.2 _ hread _ hlater
  rw [← hsame] at hlt
  exact absurd (hbetween later (List.mem_of_mem_drop hlater)).2 (not_le.mpr hlt)

/-- A history with a row in its window shows the ends of the window exactly when the selected table
has no more rows of the node in the window than a query reads. -/
theorem MetricStore.showsEnds_iff (s : MetricStore) (query : HistoryQuery) (clock : Time)
    (hrow : s.windowRows (query.withDefaults clock) ≠ []) :
    s.ShowsEnds query clock ↔
      (s.windowRows (query.withDefaults clock)).length ≤ historyLimit := by
  constructor
  · intro hends
    by_contra hlength
    exact not_showsEnds_of_lt_length (not_le.mp hlength) hends
  · exact showsEnds_of_length_le hrow

/-- The samples of a node, one each second after the Unix epoch. -/
def secondRows (n : ℕ) : List MetricRow :=
  (List.range n).map fun i : ℕ => { nodeID := "n1", ts := 1000 * (i : ℤ) }

/-- A table with one sample each second. -/
def secondTable (n : ℕ) : KeyedTable MetricRow.key where
  rows := secondRows n
  keys_nodup := by
    rw [secondRows, List.map_map]
    refine (List.nodup_range).map fun i j h => ?_
    simpa [MetricRow.key] using h

/-- A query for a number of seconds after the Unix epoch. -/
def secondsQuery (n : ℕ) : HistoryQuery :=
  { nodeID := "n1", start := unixEpoch, endAt := unixEpoch + n * second, maxPoints := 500 }

theorem showsEnds_iff_threeSeconds :
    ({ raw := secondTable 3 } : MetricStore).ShowsEnds (secondsQuery 3) 0 :=
  (MetricStore.showsEnds_iff { raw := secondTable 3 } (secondsQuery 3) 0
    (by decide +kernel)).mpr (by decide +kernel)

/-- Six hours of samples each second have more rows than a query reads, so the history ends before
the window does. -/
theorem six_hours_of_seconds_hide_newest :
    ¬ ({ raw := secondTable 21600 } : MetricStore).ShowsEnds (secondsQuery 21600) 0 := by
  refine MetricStore.not_showsEnds_of_lt_length ?_
  have hquery : (secondsQuery 21600).withDefaults 0 = secondsQuery 21600 := by rfl
  have htable : (secondsQuery 21600).table = .raw := by decide +kernel
  have hend : unixMilli (secondsQuery 21600).endAt = 21600000 := by decide +kernel
  have hall : ∀ r ∈ secondRows 21600, (secondsQuery 21600).selects r = true := by
    intro r hr
    obtain ⟨i, hi, rfl⟩ := List.mem_map.mp hr
    rw [List.mem_range] at hi
    simp only [HistoryQuery.selects, hend, decide_eq_true_eq]
    exact ⟨rfl, by simp [secondsQuery, unixMilli], by omega⟩
  rw [hquery, MetricStore.windowRows, htable, KeyedTable.selectOrdered, List.length_insertionSort,
    MetricStore.table, secondTable, List.filter_eq_self.mpr hall, secondRows, List.length_map,
    List.length_range]
  decide

end Hostpin
