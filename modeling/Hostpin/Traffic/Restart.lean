import Hostpin.Store.Metrics
import Hostpin.Traffic.Total

/-!
# Restarts of the traffic tracker

A restarted server fills its tracker with the last sample that the store holds of each node.  The
store keeps instants in milliseconds and cuts counters off at the greatest signed 64-bit number.

* `TrafficTracker.restart_continues`: a server that restarts inside a billing period continues the
  accounting of the server before it.
* `TrafficTracker.restart_after_edit`: when the reset day was edited before the restart, the two
  servers agree exactly under a condition on the periods of the samples around the restart.
-/

namespace Hostpin

open Clock Calendar

/-! ## What the store keeps -/

/-- The store keeps the day of an instant. -/
lemma dayOf_storedTime (t : Time) : dayOf (storedTime t) = dayOf t := by
  simp only [dayOf, storedTime, ofUnixMilli, unixMilli, unixEpoch, millisecond, hour]
  omega

/-- The stored instant in nanoseconds. -/
lemma storedTime_eq (t : Time) :
    storedTime t = 62135596800000000000 + (t - 62135596800000000000) / 1000000 * 1000000 := by
  simp only [storedTime, ofUnixMilli, unixMilli, unixEpoch, millisecond]

/-- The store keeps the order of an instant and the start of a day. -/
lemma storedTime_lt_midnight (t : Time) (d : ℤ) : storedTime t < midnight d ↔ t < midnight d := by
  have hmidnight : midnight d = d * 86400000000000 := rfl
  rw [storedTime_eq, hmidnight]
  show (_ : ℤ) < (_ : ℤ) ↔ (_ : ℤ) < (_ : ℤ)
  omega

/-- An instant after the first millisecond is not the zero instant. -/
lemma isZero_storedTime {t : Time} (h : millisecond ≤ t) :
    isZero (storedTime t) = false ∧ isZero t = false := by
  have ht : (1000000 : ℤ) ≤ t := h
  simp only [isZero, beq_eq_false_iff_ne]
  rw [storedTime_eq]
  show (_ : ℤ) ≠ (_ : ℤ) ∧ (_ : ℤ) ≠ (_ : ℤ)
  omega

/-- The store keeps the billing period of an instant. -/
lemma trafficPeriodStart_storedTime {t : Time} (h : millisecond ≤ t) (resetDay : ℤ)
    (clock clock' : Time) :
    trafficPeriodStart (storedTime t) resetDay clock = trafficPeriodStart t resetDay clock' := by
  obtain ⟨hstored, hzero⟩ := isZero_storedTime h
  unfold trafficPeriodStart
  simp only [hstored, hzero, Bool.false_eq_true, if_false, dayOf_storedTime, storedTime_lt_midnight]

/-- The state of a node and the raw answer to its last sample have the same boot id, counters and
totals. -/
structure LastSample (state : TrafficState) (sample : MetricSample) : Prop where
  bootID : state.bootID = sample.bootID
  last : ∀ d : Direction, d.last state = d.counter sample
  monthly : ∀ d : Direction, d.monthly state = d.total sample

/-- The answer to a sample is the sample with other totals. -/
lemma TrafficTracker.exists_apply_eq (t : TrafficTracker) (node : Node) (sample : MetricSample)
    (now clock : Time) : ∃ rx tx, (t.apply node sample now clock).2 =
      { sample with monthlyRxBytes := rx, monthlyTxBytes := tx } := by
  unfold TrafficTracker.apply
  cases t.states node.id with
  | none => exact ⟨_, _, rfl⟩
  | some state => simp only; split_ifs <;> exact ⟨_, _, rfl⟩

/-- The answer to a sample keeps the instant of the sample. -/
lemma TrafficTracker.receivedAt_apply (t : TrafficTracker) (node : Node) (sample : MetricSample)
    (now clock : Time) : (t.apply node sample now clock).2.receivedAt = sample.receivedAt := by
  obtain ⟨rx, tx, hanswer⟩ := t.exists_apply_eq node sample now clock
  rw [hanswer]

/-- The answer to a sample belongs to the state after it. -/
lemma TrafficTracker.lastSample_apply (t : TrafficTracker) (node : Node) (sample : MetricSample)
    (now clock : Time) :
    LastSample
      (nextState (t.states node.id) sample (trafficPeriodStart now (t.resetDay node) clock))
      (t.apply node sample now clock).2 := by
  obtain ⟨hboot, hlast, -⟩ := nextState_baseline (t.states node.id) sample
    (trafficPeriodStart now (t.resetDay node) clock)
  obtain ⟨rx, tx, hanswer⟩ := t.exists_apply_eq node sample now clock
  refine ⟨?_, fun d => ?_, fun d => (t.total_apply node sample now clock d).symm⟩
  · rw [hboot, hanswer]
  · rw [hlast, hanswer]
    cases d <;> rfl

/-! ## Steady samples -/

section Steady

variable {state : TrafficState} {sample next : MetricSample}

/-- Two states with the same fields in every direction are equal. -/
lemma TrafficState.ext_directions {s s' : TrafficState} (hboot : s.bootID = s'.bootID)
    (hlast : ∀ d : Direction, d.last s = d.last s')
    (hmonthly : ∀ d : Direction, d.monthly s = d.monthly s')
    (hperiod : s.periodStart = s'.periodStart) : s = s' := by
  have h₁ := hlast .rx
  have h₂ := hlast .tx
  have h₃ := hmonthly .rx
  have h₄ := hmonthly .tx
  cases s
  cases s'
  simp only [Direction.last, Direction.monthly] at *
  subst hboot hperiod h₁ h₂ h₃ h₄
  rfl

/-- Two states after a sample are equal when their totals are. -/
lemma nextState_eq_of_monthly {state state' : Option TrafficState} {sample : MetricSample}
    {period : Time} (h : ∀ d : Direction, (d.monthly (nextState state sample period)).toNat =
      (d.monthly (nextState state' sample period)).toNat) :
    nextState state sample period = nextState state' sample period := by
  obtain ⟨hboot, hlast, hperiod⟩ := nextState_baseline state sample period
  obtain ⟨hboot', hlast', hperiod'⟩ := nextState_baseline state' sample period
  exact TrafficState.ext_directions (hboot.trans hboot'.symm)
    (fun d => (hlast d).trans (hlast' d).symm) (fun d => UInt64.toNat_inj.mp (h d))
    (hperiod.trans hperiod'.symm)

/-- A sample that continues a state: the same boot id, and counters that did not decrease. -/
def Continues (state : TrafficState) (sample : MetricSample) : Prop :=
  state.bootID = sample.bootID ∧ ∀ d : Direction, d.last state ≤ d.counter sample

/-- The total after a sample that continues a state in its period. -/
lemma monthly_nextState_of_continues (h : Continues state sample) (d : Direction) :
    (d.monthly (nextState (some state) sample state.periodStart)).toNat =
      saturate ((d.monthly state).toNat + ((d.counter sample).toNat - (d.last state).toNat)) := by
  have hmonthly : d.monthly (nextState (some state) sample state.periodStart) =
      if state.bootID == sample.bootID && d.last state ≤ d.counter sample then
        saturatingAdd (d.monthly state) (d.counter sample - d.last state)
      else d.monthly state := by
    unfold nextState
    simp only [bne_self_eq_false, Bool.false_eq_true, if_false]
    cases d <;> rfl
  rw [hmonthly, if_pos (by simpa using ⟨h.1, h.2 d⟩), toNat_saturatingAdd,
    UInt64.toNat_sub_of_le _ _ (h.2 d)]

/-- A sample between a state and a sample that continues it can be left out. -/
lemma nextState_nextState (hsample : Continues state sample) (hboot : sample.bootID = next.bootID)
    (hnext : ∀ d : Direction, d.counter sample ≤ d.counter next) :
    nextState (some (nextState (some state) sample state.periodStart)) next state.periodStart =
      nextState (some state) next state.periodStart := by
  refine nextState_eq_of_monthly fun d => ?_
  obtain ⟨hboot', hlast, hperiod⟩ :=
    nextState_baseline (some state) sample state.periodStart
  have hcontinues : Continues (nextState (some state) sample state.periodStart) next :=
    ⟨hboot'.trans hboot, fun d => by rw [hlast]; exact hnext d⟩
  have hskip : Continues state next :=
    ⟨hsample.1.trans hboot, fun d => UInt64.le_trans (hsample.2 d) (hnext d)⟩
  have hmonthly := monthly_nextState_of_continues hcontinues d
  rw [hperiod, hlast] at hmonthly
  have h₁ : (d.last state).toNat ≤ (d.counter sample).toNat := hsample.2 d
  have h₂ : (d.counter sample).toNat ≤ (d.counter next).toNat := hnext d
  have hsum : (d.monthly state).toNat + ((d.counter sample).toNat - (d.last state).toNat) +
      ((d.counter next).toNat - (d.counter sample).toNat) =
      (d.monthly state).toNat + ((d.counter next).toNat - (d.last state).toNat) := by omega
  rw [hmonthly, monthly_nextState_of_continues hsample, monthly_nextState_of_continues hskip,
    saturate_saturate_add, hsum]

/-- The sample that a state was left by changes nothing. -/
lemma nextState_self (hboot : state.bootID = sample.bootID)
    (hlast : ∀ d : Direction, d.last state = d.counter sample) :
    nextState (some state) sample state.periodStart = state := by
  obtain ⟨hboot', hlast', hperiod'⟩ := nextState_baseline (some state) sample state.periodStart
  have hcontinues : Continues state sample :=
    ⟨hboot, fun d => by rw [hlast]; exact UInt64.le_refl _⟩
  refine TrafficState.ext_directions (hboot'.trans hboot.symm)
    (fun d => (hlast' d).trans (hlast d).symm) (fun d => UInt64.toNat_inj.mp ?_) hperiod'
  have hlt : (d.monthly state).toNat < 2 ^ 64 := UInt64.toNat_lt _
  rw [monthly_nextState_of_continues hcontinues, hlast, Nat.sub_self, add_zero, saturate]
  omega

end Steady

/-! ## The reports of one node -/

/-- The state of a node after a list of its reports, under a fixed reset day. -/
def stateAfter (resetDay : ℤ) (state : Option TrafficState) (rs : List TrafficReport) :
    Option TrafficState :=
  rs.foldl (fun s r => some (nextState s r.sample (r.period resetDay))) state

section Runs

variable {t : TrafficTracker} {id : String} {resetDay : ℤ}

/-- The tracker uses one reset day for a node throughout a list of reports: the one of the policy of
the node or, while the node has none, the one that its reports carry. -/
def UsesResetDay (t : TrafficTracker) (id : String) (resetDay : ℤ) (rs : List TrafficReport) :
    Prop :=
  (∀ p ∈ t.policies id, p.resetDay = resetDay) ∧
    (t.policies id = none → ResetDayFixed id resetDay rs)

/-- A policy of the node decides the reset day. -/
lemma usesResetDay_of_policy {p : TrafficPolicy} (hp : t.policies id = some p)
    (hday : p.resetDay = resetDay) (rs : List TrafficReport) : UsesResetDay t id resetDay rs := by
  unfold UsesResetDay
  rw [hp]
  exact ⟨fun q hq => by rw [← Option.some.inj hq]; exact hday, fun hnone => by cases hnone⟩

/-- A part of the reports uses the same reset day. -/
lemma UsesResetDay.of_subset {rs rs' : List TrafficReport} (h : UsesResetDay t id resetDay rs)
    (hsub : rs' ⊆ rs) : UsesResetDay t id resetDay rs' :=
  ⟨h.1, fun hnone x hx => h.2 hnone x (hsub hx)⟩

/-- The reset day of a report of the node. -/
lemma UsesResetDay.resetDay_eq {rs : List TrafficReport} (h : UsesResetDay t id resetDay rs)
    {r : TrafficReport} (hr : r ∈ rs) (hid : r.node.id = id) : t.resetDay r.node = resetDay := by
  unfold TrafficTracker.resetDay
  rw [hid]
  cases hp : t.policies id with
  | none => exact h.2 hp r hr hid
  | some p => exact h.1 p hp

/-- A report keeps the reset day. -/
lemma UsesResetDay.apply {rs : List TrafficReport} {r : TrafficReport}
    (h : UsesResetDay t id resetDay (r :: rs)) :
    UsesResetDay (t.apply r.node r.sample r.now r.clock).1 id resetDay rs := by
  unfold UsesResetDay
  rw [TrafficTracker.policies_apply]
  by_cases hid : id = r.node.id
  · rw [if_pos hid]
    refine ⟨fun p hp => ?_, fun hnone => by cases hnone⟩
    rw [← Option.some.inj hp]
    exact h.resetDay_eq List.mem_cons_self hid.symm
  · rw [if_neg hid]
    exact h.of_subset (List.subset_cons_self r rs)

/-- A run changes the state of a node by the reports of the node. -/
lemma TrafficTracker.states_run {rs rs' : List TrafficReport}
    (h : UsesResetDay t id resetDay (rs ++ rs')) :
    (t.run rs).states id = stateAfter resetDay (t.states id) (reportsOf id rs) ∧
      UsesResetDay (t.run rs) id resetDay rs' := by
  induction rs generalizing t with
  | nil => exact ⟨rfl, h⟩
  | cons r rs ih =>
    obtain ⟨hstate, huses⟩ := ih h.apply
    refine ⟨hstate.trans ?_, huses⟩
    rw [TrafficTracker.states_apply]
    by_cases hid : id = r.node.id
    · have hreports : reportsOf id (r :: rs) = r :: reportsOf id rs :=
        List.filter_cons_of_pos (by simpa using hid.symm)
      rw [if_pos hid, hreports, h.resetDay_eq (by simp) hid.symm, hid]
      rfl
    · have hreports : reportsOf id (r :: rs) = reportsOf id rs :=
        List.filter_cons_of_neg (by simpa using Ne.symm hid)
      rw [if_neg hid, hreports]

/-- The answer to a report of a node, by the reports of the node. -/
lemma TrafficTracker.answer_eq_monthly {rs : List TrafficReport} {r : TrafficReport}
    (h : UsesResetDay t id resetDay (rs ++ [r])) (hid : r.node.id = id) (d : Direction) :
    t.answer d rs r = (d.monthly (nextState (stateAfter resetDay (t.states id) (reportsOf id rs))
      r.sample (r.period resetDay))).toNat := by
  obtain ⟨hstate, huses⟩ := TrafficTracker.states_run h
  rw [TrafficTracker.answer, TrafficTracker.total_apply,
    huses.resetDay_eq (List.mem_singleton_self r) hid, hid, hstate]
  rfl

/-- The state after a list of reports and more reports. -/
lemma stateAfter_append (state : Option TrafficState) (l m : List TrafficReport) :
    stateAfter resetDay state (l ++ m) = stateAfter resetDay (stateAfter resetDay state l) m :=
  List.foldl_append

/-- The state after a list of reports and one more. -/
lemma stateAfter_concat (state : Option TrafficState) (l : List TrafficReport) (r : TrafficReport) :
    stateAfter resetDay state (l ++ [r]) =
      some (nextState (stateAfter resetDay state l) r.sample (r.period resetDay)) :=
  stateAfter_append state l [r]

/-- Steady reports of one period lead to the same state as the last of them alone. -/
lemma stateAfter_of_steady {state : TrafficState} {mid : List TrafficReport} {b : TrafficReport}
    (hperiod : ∀ x ∈ mid ++ [b], x.period resetDay = state.periodStart)
    (hcontinues : ∀ x ∈ mid ++ [b], Continues state x.sample)
    (hsteady : ∀ d, Steady d ((mid ++ [b]).map TrafficReport.sample)) :
    stateAfter resetDay (some state) (mid ++ [b]) = stateAfter resetDay (some state) [b] := by
  induction mid generalizing state with
  | nil => rfl
  | cons x mid ih =>
    have hx : x.period resetDay = state.periodStart := hperiod x (by simp)
    have hrel : ∀ y ∈ mid ++ [b], ∀ d : Direction,
        x.sample.bootID = y.sample.bootID ∧ d.counter x.sample ≤ d.counter y.sample := by
      intro y hy d
      exact List.rel_of_pairwise_cons (hsteady d) (List.mem_map_of_mem hy)
    obtain ⟨hboot, hlast, hstart⟩ := nextState_baseline (some state) x.sample state.periodStart
    have hstep : stateAfter resetDay (some state) (x :: mid ++ [b]) =
        stateAfter resetDay (some (nextState (some state) x.sample state.periodStart))
          (mid ++ [b]) := by
      rw [← hx]
      rfl
    have hb : b.period resetDay = state.periodStart := hperiod b (by simp)
    rw [hstep, ih]
    · simp only [stateAfter, List.foldl_cons, List.foldl_nil, hb]
      rw [nextState_nextState (hcontinues x (by simp)) (hrel b (by simp) .rx).1
        fun d => (hrel b (by simp) d).2]
    · intro y hy
      rw [hstart]
      exact hperiod y (List.mem_cons_of_mem _ hy)
    · intro y hy
      exact ⟨hboot.trans (hrel y hy .rx).1, fun d => by rw [hlast]; exact (hrel y hy d).2⟩
    · exact fun d => List.Pairwise.of_cons (hsteady d)

end Runs

/-! ## The restarted server -/

/-- The tracker of a server that starts, when the last persisted samples of the nodes are given. -/
def restartTracker (persisted : String → Option MetricSample) (nodes : String → Node)
    (clock : Time) : TrafficTracker :=
  ({} : TrafficTracker).load
    (fun nodeID => (persisted nodeID).map fun sample => scanMetric (metricArgs sample)) nodes clock

section Load

variable {persisted : String → Option MetricSample} {nodes : String → Node} {clock : Time}
  {id : String} {p : MetricSample}

/-- The policy of a node after a restart is the one that its row asks for. -/
lemma policies_restartTracker (h : persisted id = some p) :
    (restartTracker persisted nodes clock).policies id = some (policyFromNode (nodes id)) := by
  simp [restartTracker, TrafficTracker.load, h]

/-- The state of a node after a restart: the last persisted sample as the columns hold it, in the
billing period that the present reset day gives. -/
lemma states_restartTracker (nodes : String → Node) (clock clock' : Time)
    (h : persisted id = some p) (hreceived : millisecond ≤ p.receivedAt) :
    ∃ state, (restartTracker persisted nodes clock).states id = some state ∧
      state.bootID = p.bootID ∧
      (∀ d : Direction, (d.last state).toNat = min (d.counter p).toNat (2 ^ 63 - 1)) ∧
      (∀ d : Direction, (d.monthly state).toNat = min (d.total p).toNat (2 ^ 63 - 1)) ∧
      state.periodStart =
        trafficPeriodStart p.receivedAt (nodes id).trafficResetDay clock' := by
  have hperiod := trafficPeriodStart_storedTime hreceived (nodes id).trafficResetDay clock clock'
  have hcolumn := toNat_scanCounter_metricCounter
  simp only [restartTracker, TrafficTracker.load, h, Option.map_some]
  refine ⟨_, rfl, rfl, fun d => ?_, fun d => ?_, hperiod⟩
  · cases d with
    | rx => exact hcolumn p.netRxBytes
    | tx => exact hcolumn p.netTxBytes
  · cases d with
    | rx => exact hcolumn p.monthlyRxBytes
    | tx => exact hcolumn p.monthlyTxBytes

/-- The state of a node after a restart, when the columns hold its counters and totals and the
reset day was not edited. -/
lemma states_restartTracker_of_fits {state : TrafficState} (h : persisted id = some p)
    (hlast : LastSample state p) (hreceived : millisecond ≤ p.receivedAt)
    (hcounter : ∀ d : Direction, (d.counter p).toNat ≤ 2 ^ 63 - 1)
    (htotal : ∀ d : Direction, (d.total p).toNat ≤ 2 ^ 63 - 1) {clock' : Time}
    (hperiod : state.periodStart =
      trafficPeriodStart p.receivedAt (nodes id).trafficResetDay clock') :
    (restartTracker persisted nodes clock).states id = some state := by
  obtain ⟨state', hstate', hboot', hlast', hmonthly', hperiod'⟩ :=
    states_restartTracker nodes clock clock' h hreceived
  rw [hstate']
  refine congrArg some (TrafficState.ext_directions (hboot'.trans hlast.bootID.symm) (fun d => ?_)
    (fun d => ?_) (hperiod'.trans hperiod.symm))
  · rw [← UInt64.toNat_inj, hlast', hlast.last, min_eq_left (hcounter d)]
  · rw [← UInt64.toNat_inj, hmonthly', hlast.monthly, min_eq_left (htotal d)]

end Load

/-- The reports from one position to before another. -/
def window (rs : List TrafficReport) (first last : ℕ) : List TrafficReport :=
  (rs.take last).drop first

section Window

variable {rs : List TrafficReport} {first last : ℕ} {r : TrafficReport}

/-- A window with one more report at its end. -/
lemma window_succ (hle : first ≤ last) (hr : rs[last]? = some r) :
    window rs first (last + 1) = window rs first last ++ [r] := by
  have hlt : last < rs.length := (List.getElem?_eq_some_iff.mp hr).1
  unfold window
  rw [List.take_add_one, hr, Option.toList_some, List.drop_append_of_le_length]
  rw [List.length_take]
  omega

/-- A window that is not empty begins with its first report. -/
lemma window_eq_cons (hlt : first < last) (hr : rs[first]? = some r) :
    window rs first last = r :: window rs (first + 1) last := by
  unfold window
  rw [List.drop_eq_getElem?_toList_append, List.getElem?_take_of_lt hlt, hr]
  rfl

/-- The reports before a position, cut at an earlier one. -/
lemma take_append_window (hle : first ≤ last) :
    rs.take first ++ window rs first last = rs.take last := by
  have hsplit := List.take_append_drop first (rs.take last)
  rwa [List.take_take, min_eq_left hle] at hsplit

end Window

/-- Skipping the reports of a node before report `m` of a steady window changes nothing from report
`m` on, when the state after the first report of the window is known. -/
lemma stateAfter_rejoin {id : String} {resetDay : ℤ} {rs : List TrafficReport} {k m : ℕ}
    {a b : TrafficReport} (before : Option TrafficState) (hkm : k ≤ m) (ha : rs[k]? = some a)
    (hb : rs[m]? = some b) (haid : a.node.id = id) (hbid : b.node.id = id)
    (hperiod : ∀ x ∈ reportsOf id (window rs k (m + 1)), x.period resetDay = a.period resetDay)
    (hsteady : ∀ d, Steady d ((reportsOf id (window rs k (m + 1))).map TrafficReport.sample)) :
    stateAfter resetDay before (reportsOf id (window rs k m) ++ [b]) =
      stateAfter resetDay (some (nextState before a.sample (a.period resetDay))) [b] := by
  obtain ⟨hboot, hlast, hstart⟩ := nextState_baseline before a.sample (a.period resetDay)
  rcases Nat.eq_or_lt_of_le hkm with rfl | hlt
  · -- the restarted server sees report `k` again
    obtain rfl : a = b := Option.some.inj (ha.symm.trans hb)
    have hself := nextState_self hboot hlast
    rw [hstart] at hself
    have hnil : window rs k k = [] := by simp [window]
    simp [hnil, reportsOf, stateAfter, hself]
  · have hreports : reportsOf id (window rs k m) = a :: reportsOf id (window rs (k + 1) m) := by
      rw [window_eq_cons hlt ha]
      exact List.filter_cons_of_pos (by simpa using haid)
    have hall : reportsOf id (window rs k (m + 1)) =
        a :: (reportsOf id (window rs (k + 1) m) ++ [b]) := by
      rw [window_succ hkm hb, reportsOf_append_cons _ _ hbid, hreports]
      rfl
    rw [hall] at hperiod hsteady
    have hrel : ∀ x ∈ reportsOf id (window rs (k + 1) m) ++ [b], ∀ d : Direction,
        a.sample.bootID = x.sample.bootID ∧ d.counter a.sample ≤ d.counter x.sample :=
      fun x hx d => List.rel_of_pairwise_cons (hsteady d) (List.mem_map_of_mem hx)
    rw [hreports, ← stateAfter_of_steady]
    · rfl
    · intro x hx
      rw [hstart]
      exact hperiod x (List.mem_cons_of_mem _ hx)
    · exact fun x hx =>
        ⟨hboot.trans (hrel x hx .rx).1, fun d => by rw [hlast]; exact (hrel x hx d).2⟩
    · exact fun d => List.Pairwise.of_cons (hsteady d)

/-- A server that restarts continues the accounting.  Take a node with a fixed reset day, a list of
reports of any nodes, and the report `k` of the node, whose raw answer was persisted and fits the
columns of the store.  When the reports of the node from `k` to `m` have one billing period, one
boot id and counters that do not decrease, a tracker that is loaded from the row of answer `k` and
fed from report `m` on answers every report of the node like the tracker that saw all reports. -/
theorem TrafficTracker.restart_continues (t : TrafficTracker) (id : String) (resetDay : ℤ)
    (rs : List TrafficReport) (hpolicy : ∀ p ∈ t.policies id, p.resetDay = resetDay)
    (hday : ResetDayFixed id resetDay rs) (k m : ℕ) (a b : TrafficReport) (hkm : k ≤ m)
    (ha : rs[k]? = some a) (hb : rs[m]? = some b) (haid : a.node.id = id) (hbid : b.node.id = id)
    (hreceived : a.sample.receivedAt = a.now) (hnow : millisecond ≤ a.now)
    (hcounter : ∀ d : Direction, (d.counter a.sample).toNat ≤ 2 ^ 63 - 1)
    (htotal : ∀ d, t.answer d (rs.take k) a ≤ 2 ^ 63 - 1)
    (hperiod : ∀ x ∈ reportsOf id (window rs k (m + 1)), x.period resetDay = a.period resetDay)
    (hsteady : ∀ d, Steady d ((reportsOf id (window rs k (m + 1))).map TrafficReport.sample))
    (persisted : String → Option MetricSample)
    (hpersisted : persisted id =
      some ((t.run (rs.take k)).apply a.node a.sample a.now a.clock).2)
    (nodes : String → Node) (hnode : (nodes id).trafficResetDay = resetDay) (clock : Time) :
    ∀ n r, m ≤ n → rs[n]? = some r → r.node.id = id → ∀ d,
      (restartTracker persisted nodes clock).answer d (window rs m n) r =
        t.answer d (rs.take n) r := by
  intro n r hmn hr hrid d
  have huses : UsesResetDay t id resetDay rs := ⟨hpolicy, fun _ => hday⟩
  -- the state that report `k` leaves is the state that the restart makes of its answer
  have hsplit : rs.take k ++ [a] = rs.take (k + 1) := by
    rw [List.take_add_one, ha, Option.toList_some]
  obtain ⟨hstate, huses'⟩ := TrafficTracker.states_run
    (hsplit ▸ huses.of_subset (List.take_subset (k + 1) rs))
  have hlast := (t.run (rs.take k)).lastSample_apply a.node a.sample a.now a.clock
  have hat := ((t.run (rs.take k)).receivedAt_apply a.node a.sample a.now a.clock).trans hreceived
  rw [huses'.resetDay_eq (List.mem_singleton_self a) haid, haid, hstate] at hlast
  obtain ⟨-, hcounters, hstart⟩ := nextState_baseline
    (stateAfter resetDay (t.states id) (reportsOf id (rs.take k))) a.sample (a.period resetDay)
  have hloaded : (restartTracker persisted nodes clock).states id = _ :=
    states_restartTracker_of_fits hpersisted hlast (hat.symm ▸ hnow)
      (fun d => by rw [← hlast.last]; exact hcounters d ▸ hcounter d) htotal
      (by rw [hat, hnode]; exact hstart)
  -- both trackers are in the same state after report `m`
  have hjoin := stateAfter_rejoin (stateAfter resetDay (t.states id) (reportsOf id (rs.take k)))
    hkm ha hb haid hbid hperiod hsteady
  have hreports : reportsOf id (rs.take n) = reportsOf id (rs.take k) ++
      (reportsOf id (window rs k m) ++ reportsOf id (window rs m n)) := by
    rw [← take_append_window hmn, ← take_append_window hkm]
    simp [reportsOf]
  have hrest : reportsOf id (window rs m n) ++ [r] =
      [b] ++ reportsOf id (window rs (m + 1) (n + 1)) := by
    have hwindow : reportsOf id (window rs m n ++ [r]) =
        reportsOf id (b :: window rs (m + 1) (n + 1)) := by
      rw [← window_succ hmn hr, window_eq_cons (Nat.lt_succ_of_le hmn) hb]
    simpa [reportsOf, hrid, hbid] using hwindow
  have hnext : some (nextState (stateAfter resetDay
      ((restartTracker persisted nodes clock).states id) (reportsOf id (window rs m n))) r.sample
        (r.period resetDay)) =
      some (nextState (stateAfter resetDay (t.states id) (reportsOf id (rs.take n))) r.sample
        (r.period resetDay)) := by
    rw [← stateAfter_concat, ← stateAfter_concat, hloaded, hreports, List.append_assoc,
      List.append_assoc, hrest, stateAfter_append _ (reportsOf id (rs.take k)),
      ← List.append_assoc, stateAfter_append _ (_ ++ [b]), hjoin, ← stateAfter_append]
    rfl
  have hend : rs.take n ++ [r] = rs.take (n + 1) := by
    rw [List.take_add_one, hr, Option.toList_some]
  have hpolicy' : UsesResetDay (restartTracker persisted nodes clock) id resetDay
      (window rs m n ++ [r]) :=
    usesResetDay_of_policy (policies_restartTracker hpersisted) hnode _
  rw [TrafficTracker.answer_eq_monthly hpolicy' hrid, TrafficTracker.answer_eq_monthly
    (hend ▸ huses.of_subset (List.take_subset (n + 1) rs)) hrid, Option.some.inj hnext]

/-- A report of the node on August 10, 2026 at a number of seconds after midnight. -/
def augustReport (counter : UInt64) (seconds resetDay : ℤ) : TrafficReport :=
  ⟨{ id := "n1", trafficResetDay := resetDay },
    { bootID := "a", netRxBytes := counter,
      receivedAt := midnight (ofDate 2026 8 10) + seconds * second },
    midnight (ofDate 2026 8 10) + seconds * second, 0⟩

/-- Four reports of a node, of which the second is persisted. -/
def augustReports : List TrafficReport :=
  [augustReport 1000 0 1, augustReport 1400 60 1, augustReport 1500 120 1, augustReport 1700 180 1]

/-- The raw answer to the second report. -/
def augustSample : MetricSample :=
  { bootID := "a", netRxBytes := 1400, monthlyRxBytes := 400,
    receivedAt := midnight (ofDate 2026 8 10) + 60 * second }

/-- A server that restarts after the second report and misses the third answers the fourth like the
server before it. -/
theorem restart_continues_augustReports :
    (restartTracker (fun _ => some augustSample) (fun _ => { id := "n1", trafficResetDay := 1 })
      0).answer .rx (window augustReports 3 3) (augustReport 1700 180 1) = 700 := by
  rw [TrafficTracker.restart_continues {} "n1" 1 augustReports nofun (by decide +kernel) 1 3 _ _
    (by decide) rfl rfl rfl rfl rfl (by decide +kernel) (fun d => by cases d <;> decide +kernel)
    (fun d => by cases d <;> decide +kernel) (by decide +kernel)
    (fun d => by unfold Steady; cases d <;> decide +kernel) _ (by decide +kernel) _ rfl 0 3 _
    (le_refl 3) rfl rfl]
  decide +kernel

/-! ## Edits of the reset day -/

/-- The cut-off of the columns does not show in the next total: the total and the last counter fit,
or the next total is the same without them. -/
def ColumnsSuffice (total last counter : ℕ) : Prop :=
  total ≤ 2 ^ 63 - 1 ∧ last ≤ 2 ^ 63 - 1 ∨
    2 ^ 63 - 1 < total ∧ last ≤ 2 ^ 63 - 1 ∧ 2 ^ 63 ≤ counter - last ∨
    2 ^ 63 - 1 < last ∧ last ≤ total ∧ (total = last ∨ counter = 2 ^ 64 - 1)

/-- The next total computed from the columns. -/
lemma saturate_columns {total last counter : ℕ} (htotal : total < 2 ^ 64) (hlast : last ≤ counter)
    (hcounter : counter < 2 ^ 64) :
    saturate (min total (2 ^ 63 - 1) + (counter - min last (2 ^ 63 - 1))) =
      saturate (total + (counter - last)) ↔ ColumnsSuffice total last counter := by
  unfold saturate ColumnsSuffice
  omega

/-- The two servers agree on the next sample of a node, whose reset day is the new one.  The running
server keeps the start of the period of its state; the restarted one computes it from the last
sample.  When both or neither start the period of the next sample they agree, up to what the columns
cut off; otherwise one server starts at zero, and the other one has to answer zero too. -/
def RestartAgrees (state : TrafficState) (last : MetricSample) (resetDay : ℤ) (r : TrafficReport) :
    Prop :=
  (state.periodStart = r.period resetDay ∧
      trafficPeriodStart last.receivedAt resetDay r.clock = r.period resetDay ∧
      ∀ d : Direction, ColumnsSuffice (d.monthly state).toNat (d.last state).toNat
        (d.counter r.sample).toNat) ∨
    (state.periodStart ≠ r.period resetDay ∧
      trafficPeriodStart last.receivedAt resetDay r.clock ≠ r.period resetDay) ∨
    (state.periodStart = r.period resetDay ∧
      trafficPeriodStart last.receivedAt resetDay r.clock ≠ r.period resetDay ∧
      ∀ d : Direction, d.monthly state = 0 ∧ d.counter r.sample = d.last state) ∨
    (state.periodStart ≠ r.period resetDay ∧
      trafficPeriodStart last.receivedAt resetDay r.clock = r.period resetDay ∧
      ∀ d : Direction, d.monthly state = 0 ∧ d.counter r.sample = d.last state ∧
        (d.last state).toNat ≤ 2 ^ 63 - 1)

section Edit

variable {state state' : TrafficState} {p : MetricSample} {resetDay : ℤ} {r : TrafficReport}

/-- The total after a sample that continues a state, by the period of the state. -/
lemma monthly_nextState (h : Continues state r.sample) (period : Time) (d : Direction) :
    (d.monthly (nextState (some state) r.sample period)).toNat =
      if state.periodStart = period then
        saturate ((d.monthly state).toNat + ((d.counter r.sample).toNat - (d.last state).toNat))
      else 0 := by
  by_cases hperiod : state.periodStart = period
  · subst hperiod
    rw [if_pos rfl, monthly_nextState_of_continues h]
  · rw [if_neg hperiod]
    exact monthly_nextState_of_ne (by simpa using hperiod) _ d

/-- A total that is cut off is zero only when it is zero. -/
lemma saturate_eq_zero_iff {n : ℕ} : saturate n = 0 ↔ n = 0 := by
  unfold saturate
  omega

/-- The two servers answer the next sample alike exactly when they agree on it. -/
lemma monthly_eq_iff_restartAgrees (hcontinues : Continues state r.sample)
    (hlast : LastSample state p) (hboot' : state'.bootID = p.bootID)
    (hlast' : ∀ d : Direction, (d.last state').toNat = min (d.counter p).toNat (2 ^ 63 - 1))
    (hmonthly' : ∀ d : Direction, (d.monthly state').toNat = min (d.total p).toNat (2 ^ 63 - 1))
    (hperiod' : state'.periodStart = trafficPeriodStart p.receivedAt resetDay r.clock) :
    (∀ d : Direction, (d.monthly (nextState (some state') r.sample (r.period resetDay))).toNat =
      (d.monthly (nextState (some state) r.sample (r.period resetDay))).toNat) ↔
      RestartAgrees state p resetDay r := by
  have hle : ∀ d : Direction, (d.last state).toNat ≤ (d.counter r.sample).toNat :=
    fun d => hcontinues.2 d
  have hcontinues' : Continues state' r.sample := by
    refine ⟨(hboot'.trans hlast.bootID.symm).trans hcontinues.1, fun d => ?_⟩
    rw [UInt64.le_iff_toNat_le, hlast', ← hlast.last]
    exact (min_le_left _ _).trans (hle d)
  have hzero : ∀ d : Direction, d.monthly state = 0 ↔ (d.monthly state).toNat = 0 :=
    fun d => (UInt64.toNat_inj (b := 0)).symm
  have hsame : ∀ d : Direction, d.counter r.sample = d.last state ↔
      (d.counter r.sample).toNat = (d.last state).toNat := fun d => UInt64.toNat_inj.symm
  simp only [monthly_nextState hcontinues, monthly_nextState hcontinues', hlast', hmonthly',
    hperiod', ← hlast.last, ← hlast.monthly, RestartAgrees, hzero, hsame]
  by_cases hkept : state.periodStart = r.period resetDay <;>
    by_cases hrecomputed :
      trafficPeriodStart p.receivedAt resetDay r.clock = r.period resetDay <;>
    simp only [hkept, hrecomputed, if_true, if_false, true_and, false_and, ne_eq, not_true,
      not_false_iff, false_or, or_false, or_true, implies_true]
  · exact forall_congr' fun d => saturate_columns (UInt64.toNat_lt _) (hle d) (UInt64.toNat_lt _)
  · refine forall_congr' fun d => ?_
    rw [eq_comm, saturate_eq_zero_iff]
    have := hle d
    omega
  · refine forall_congr' fun d => ?_
    rw [saturate_eq_zero_iff]
    have := hle d
    omega

end Edit

/-- The first report of a node in a list of reports. -/
lemma exists_split_of_head {id : String} {rs : List TrafficReport} {r : TrafficReport}
    (h : r ∈ (reportsOf id rs).head?) :
    r.node.id = id ∧ ∃ pre post, rs = pre ++ r :: post ∧ reportsOf id pre = [] := by
  rw [Option.mem_def, reportsOf, List.head?_filter, List.find?_eq_some_iff_append] at h
  obtain ⟨hid, pre, post, rfl, hpre⟩ := h
  refine ⟨by simpa using hid, pre, post, rfl, ?_⟩
  simpa [reportsOf] using hpre

/-- Restarts after an edit of the reset day.  Take a tracker with a state of a node, the raw sample
that the state comes from, which is persisted, an edit of the node, and later reports of any nodes,
where the node has one boot id and counters that do not decrease.  A server that restarts right
after the edit answers the later reports of the node like the server that goes on exactly when they
agree on the first of them. -/
theorem TrafficTracker.restart_after_edit (t : TrafficTracker) (id : String)
    (state : TrafficState) (last : MetricSample) (node : Node) (rs : List TrafficReport)
    (persisted : String → Option MetricSample) (nodes : String → Node) (clock : Time)
    (hstate : t.states id = some state) (hlast : LastSample state last)
    (hreceived : millisecond ≤ last.receivedAt) (hpersisted : persisted id = some last)
    (hid : node.id = id) (hnode : nodes id = node)
    (hsteady : ∀ d, Steady d (last :: (reportsOf id rs).map TrafficReport.sample)) :
    (∀ pre r post, rs = pre ++ r :: post → r.node.id = id → ∀ d,
      (restartTracker persisted nodes clock).answer d pre r =
        (t.configureNode node).answer d pre r) ↔
      ∀ r ∈ (reportsOf id rs).head?, RestartAgrees state last node.trafficResetDay r := by
  have hpolicy : (t.configureNode node).policies id = some (policyFromNode node) := by
    simp [TrafficTracker.configureNode, hid]
  have huses : ∀ rs, UsesResetDay (t.configureNode node) id node.trafficResetDay rs :=
    usesResetDay_of_policy hpolicy rfl
  have huses' : ∀ rs, UsesResetDay (restartTracker persisted nodes clock) id
      node.trafficResetDay rs :=
    usesResetDay_of_policy (policies_restartTracker hpersisted) (by rw [hnode]; rfl)
  have hagrees : ∀ r ∈ (reportsOf id rs).head?,
      ((∀ d : Direction, (d.monthly (nextState ((restartTracker persisted nodes clock).states id)
          r.sample (r.period node.trafficResetDay))).toNat =
        (d.monthly (nextState (some state) r.sample (r.period node.trafficResetDay))).toNat) ↔
        RestartAgrees state last node.trafficResetDay r) := by
    intro r hr
    obtain ⟨state', hstate', hboot', hlast', hmonthly', hperiod'⟩ :=
      states_restartTracker nodes clock r.clock hpersisted hreceived
    have hrel : ∀ d : Direction,
        last.bootID = r.sample.bootID ∧ d.counter last ≤ d.counter r.sample := fun d =>
      List.rel_of_pairwise_cons (hsteady d) (List.mem_map_of_mem (List.mem_of_mem_head? hr))
    rw [hnode] at hperiod'
    rw [hstate']
    exact monthly_eq_iff_restartAgrees ⟨hlast.bootID.trans (hrel .rx).1,
      fun d => by rw [hlast.last]; exact (hrel d).2⟩ hlast hboot' hlast' hmonthly' hperiod'
  constructor
  · intro hsame r hr
    obtain ⟨hrid, pre, post, hsplit, hpre⟩ := exists_split_of_head hr
    refine (hagrees r hr).mp fun d => ?_
    have hd := hsame pre r post hsplit hrid d
    rw [TrafficTracker.answer_eq_monthly (huses _) hrid,
      TrafficTracker.answer_eq_monthly (huses' _) hrid, hpre] at hd
    rwa [← hstate]
  · rintro hall pre r post rfl hrid d
    have hreports := reportsOf_append_cons pre post hrid
    rw [TrafficTracker.answer_eq_monthly (huses _) hrid,
      TrafficTracker.answer_eq_monthly (huses' _) hrid]
    have hkeep : (t.configureNode node).states id = some state := hstate
    rw [hkeep]
    cases hpre : reportsOf id pre with
    | nil =>
      have hr : r ∈ (reportsOf id (pre ++ r :: post)).head? := by rw [hreports, hpre]; rfl
      exact (hagrees r hr).mpr (hall r hr) d
    | cons x rest =>
      -- the first report has brought both servers to the same state
      have hx : x ∈ (reportsOf id (pre ++ r :: post)).head? := by rw [hreports, hpre]; rfl
      have hjoin := nextState_eq_of_monthly ((hagrees x hx).mpr (hall x hx))
      simp only [stateAfter, List.foldl_cons, hjoin]

/-- Between two reports on August 10 the reset day is moved from the first to the fifth.  The
server that goes on starts the total of the next report at zero; the server that restarts continues
the total. -/
theorem restart_after_edit_differs :
    let t := ({} : TrafficTracker).run [augustReport 1000 0 1, augustReport 1400 60 1]
    let node : Node := { id := "n1", trafficResetDay := 5 }
    (t.configureNode node).answer .rx [] (augustReport 1500 120 5) = 0 ∧
      (restartTracker (fun _ => some augustSample) (fun _ => node) 0).answer .rx []
        (augustReport 1500 120 5) = 500 := by
  decide +kernel

/-- When the reset day is moved from the first to the fifteenth on August 10, both servers start the
total of the next report at zero. -/
theorem restart_after_edit_fifteenth :
    (restartTracker (fun _ => some augustSample)
      (fun _ => { id := "n1", trafficResetDay := 15 }) 0).answer .rx []
        (augustReport 1500 1000000 15) =
    ((({} : TrafficTracker).run [augustReport 1000 0 1, augustReport 1400 60 1]).configureNode
      { id := "n1", trafficResetDay := 15 }).answer .rx [] (augustReport 1500 1000000 15) := by
  refine (TrafficTracker.restart_after_edit _ "n1"
    { bootID := "a", lastRX := 1400, lastTX := 0, monthlyRX := 400, monthlyTX := 0,
      periodStart := midnight (ofDate 2026 8 1) } augustSample _
    [augustReport 1500 1000000 15] _ _ 0 (by decide +kernel)
    ⟨rfl, fun d => by cases d <;> rfl, fun d => by cases d <;> rfl⟩ (by decide +kernel) rfl rfl rfl
    (fun d => by unfold Steady; cases d <;> decide +kernel)).mpr ?_ [] _ [] rfl rfl .rx
  intro r hr
  obtain rfl : augustReport 1500 1000000 15 = r := Option.some.inj hr
  exact Or.inr (Or.inl ⟨by decide +kernel, by decide +kernel⟩)

end Hostpin
