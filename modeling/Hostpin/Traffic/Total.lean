import Hostpin.Traffic.Tracker

/-!
# The law of the traffic total

The tracker answers every sample of a node with the traffic of the node in its billing period so
far.  This file proves what this number is, for every sequence of samples of any nodes: the sum of
the counter differences of consecutive samples of the node in the period, where a pair counts only
when the boot id is the same and the counter did not decrease, cut off at the greatest 64-bit
number.  Both directions follow the same law and do not influence each other.

The invariant `TracksTotal` says this of the state that the tracker keeps; one sample preserves it
(`TracksTotal.apply`), and so does a run (`TracksTotal.run`).
-/

namespace Hostpin

open Clock

/-! ## Directions -/

/-- The two directions of traffic. -/
inductive Direction where
  | rx
  | tx

/-- The counter of a sample in a direction. -/
def Direction.counter : Direction → MetricSample → UInt64
  | .rx => MetricSample.netRxBytes
  | .tx => MetricSample.netTxBytes

/-- The total of a sample in a direction. -/
def Direction.total : Direction → MetricSample → UInt64
  | .rx => MetricSample.monthlyRxBytes
  | .tx => MetricSample.monthlyTxBytes

/-- The last counter of a state in a direction. -/
def Direction.last : Direction → TrafficState → UInt64
  | .rx => TrafficState.lastRX
  | .tx => TrafficState.lastTX

/-- The total of a state in a direction. -/
def Direction.monthly : Direction → TrafficState → UInt64
  | .rx => TrafficState.monthlyRX
  | .tx => TrafficState.monthlyTX

/-- The traffic between two consecutive samples: the difference of their counters, when the host
was not restarted and the counter did not decrease. -/
def difference (d : Direction) (a b : MetricSample) : ℕ :=
  if a.bootID = b.bootID ∧ d.counter a ≤ d.counter b then
    (d.counter b).toNat - (d.counter a).toNat else 0

/-- The traffic in a list of samples: the sum over the pairs of consecutive samples. -/
def traffic (d : Direction) : List MetricSample → ℕ
  | [] => 0
  | [_] => 0
  | a :: b :: rest => difference d a b + traffic d (b :: rest)

/-- A number cut off at the greatest 64-bit number. -/
def saturate (n : ℕ) : ℕ := min n (2 ^ 64 - 1)

/-! ## Sums -/

/-- Two lists of samples that meet in a sample. -/
lemma traffic_append (d : Direction) (l m : List MetricSample) (a : MetricSample) :
    traffic d (l ++ a :: m) = traffic d (l ++ [a]) + traffic d (a :: m) := by
  induction l with
  | nil => simp [traffic]
  | cons x l ih =>
    cases l with
    | nil => simp [traffic]
    | cons y l =>
      have hstep : ∀ m, traffic d (x :: y :: m) = difference d x y + traffic d (y :: m) :=
        fun m => rfl
      simp only [List.cons_append] at ih ⊢
      rw [hstep, hstep, ih, add_assoc]

/-- The traffic with one more sample. -/
lemma traffic_concat (d : Direction) (l : List MetricSample) (a b : MetricSample) :
    traffic d (l ++ [a] ++ [b]) = traffic d (l ++ [a]) + difference d a b := by
  rw [List.append_assoc, List.singleton_append, traffic_append]
  simp [traffic]

/-- The samples have one boot id and the counter does not decrease. -/
def Steady (d : Direction) (l : List MetricSample) : Prop :=
  l.Pairwise fun a b => a.bootID = b.bootID ∧ d.counter a ≤ d.counter b

/-- The traffic of a steady list is the difference of its last and its first counter. -/
lemma traffic_of_steady (d : Direction) (m : List MetricSample) (a b : MetricSample)
    (h : Steady d (a :: m ++ [b])) :
    traffic d (a :: m ++ [b]) = (d.counter b).toNat - (d.counter a).toNat := by
  induction m generalizing a with
  | nil =>
    have hab := List.rel_of_pairwise_cons h (List.mem_singleton_self b)
    simp [traffic, difference, hab]
  | cons c m ih =>
    have hac : a.bootID = c.bootID ∧ d.counter a ≤ d.counter c :=
      List.rel_of_pairwise_cons h (by simp)
    have htail : Steady d (c :: m ++ [b]) := List.Pairwise.of_cons h
    have hcb : c.bootID = b.bootID ∧ d.counter c ≤ d.counter b :=
      List.rel_of_pairwise_cons htail (by simp)
    have hstep : traffic d (a :: (c :: m) ++ [b]) =
        difference d a c + traffic d (c :: m ++ [b]) := rfl
    have h₁ : (d.counter a).toNat ≤ (d.counter c).toNat := hac.2
    have h₂ : (d.counter c).toNat ≤ (d.counter b).toNat := hcb.2
    rw [hstep, ih c htail, difference, if_pos hac]
    omega

/-- The saturating sum of two counters. -/
lemma toNat_saturatingAdd (a b : UInt64) :
    (saturatingAdd a b).toNat = saturate (a.toNat + b.toNat) := by
  have ha : a.toNat < 2 ^ 64 := a.toNat_lt
  have hb : b.toNat < 2 ^ 64 := b.toNat_lt
  have hmax : (18446744073709551615 - a : UInt64).toNat = 2 ^ 64 - 1 - a.toNat :=
    UInt64.toNat_sub_of_le _ _ (UInt64.le_iff_toNat_le.mpr (Nat.le_pred_of_lt ha))
  unfold saturatingAdd saturate
  by_cases h : b > 18446744073709551615 - a
  · have hlt : 2 ^ 64 - 1 - a.toNat < b.toNat := by
      rw [← hmax]
      exact UInt64.lt_iff_toNat_lt.mp h
    simp only [if_pos h]
    rw [min_eq_right (by omega)]
    rfl
  · have hle : b.toNat ≤ 2 ^ 64 - 1 - a.toNat := by
      rw [← hmax]
      exact Nat.le_of_not_lt fun hlt => h (UInt64.lt_iff_toNat_lt.mpr hlt)
    simp only [if_neg h]
    rw [UInt64.toNat_add, Nat.mod_eq_of_lt (by omega), min_eq_left (by omega)]

/-- Cutting off early does not change a sum that is cut off. -/
lemma saturate_saturate_add (m n : ℕ) : saturate (saturate m + n) = saturate (m + n) := by
  unfold saturate
  omega

/-- Cutting off is monotone. -/
lemma saturate_mono {m n : ℕ} (h : m ≤ n) : saturate m ≤ saturate n := by
  unfold saturate
  omega

/-! ## One sample -/

/-- The state of a node after a sample in a period. -/
def nextState (state : Option TrafficState) (sample : MetricSample) (period : Time) :
    TrafficState :=
  let baseline : TrafficState :=
    { bootID := sample.bootID, lastRX := sample.netRxBytes, lastTX := sample.netTxBytes,
      periodStart := period }
  match state with
  | none => baseline
  | some state =>
    if state.periodStart != period then baseline
    else
      { baseline with
        monthlyRX := if state.bootID == sample.bootID && state.lastRX ≤ sample.netRxBytes then
          saturatingAdd state.monthlyRX (sample.netRxBytes - state.lastRX) else state.monthlyRX
        monthlyTX := if state.bootID == sample.bootID && state.lastTX ≤ sample.netTxBytes then
          saturatingAdd state.monthlyTX (sample.netTxBytes - state.lastTX) else state.monthlyTX }

/-- The reset day that the tracker uses for a node. -/
def TrafficTracker.resetDay (t : TrafficTracker) (node : Node) : ℤ :=
  ((t.policies node.id).getD (policyFromNode node)).resetDay

section Apply

variable (t : TrafficTracker) (node : Node) (sample : MetricSample) (now clock : Time)

/-- A sample advances the state of its node and leaves the other nodes alone. -/
lemma TrafficTracker.states_apply (id : String) :
    (t.apply node sample now clock).1.states id =
      if id = node.id then
        some (nextState (t.states node.id) sample (trafficPeriodStart now (t.resetDay node) clock))
      else t.states id := by
  unfold TrafficTracker.apply nextState TrafficTracker.resetDay
  by_cases hid : id = node.id
  · subst hid
    cases t.states node.id with
    | none => simp
    | some state => simp only; split_ifs <;> simp
  · cases t.states node.id with
    | none => simp [hid]
    | some state => simp only; split_ifs <;> simp [hid]

/-- A sample fixes the policy of its node and leaves the other nodes alone. -/
lemma TrafficTracker.policies_apply (id : String) :
    (t.apply node sample now clock).1.policies id =
      if id = node.id then some ((t.policies node.id).getD (policyFromNode node))
      else t.policies id := by
  have hpolicies : (t.apply node sample now clock).1.policies =
      Function.update t.policies node.id
        (some ((t.policies node.id).getD (policyFromNode node))) := by
    unfold TrafficTracker.apply
    cases t.states node.id with
    | none => rfl
    | some state => simp only; split_ifs <;> rfl
  rw [hpolicies, Function.update_apply]

/-- The answer to a sample carries the totals of the state after it. -/
lemma TrafficTracker.total_apply (d : Direction) :
    d.total (t.apply node sample now clock).2 =
      d.monthly (nextState (t.states node.id) sample
        (trafficPeriodStart now (t.resetDay node) clock)) := by
  unfold TrafficTracker.apply nextState TrafficTracker.resetDay
  cases t.states node.id with
  | none => cases d <;> rfl
  | some state => cases d <;> simp only [Direction.total, Direction.monthly] <;> split_ifs <;> rfl

end Apply

/-- The state after a sample has the boot id, the counters and the period of the sample. -/
lemma nextState_baseline (state : Option TrafficState) (sample : MetricSample) (period : Time) :
    (nextState state sample period).bootID = sample.bootID ∧
      (∀ d : Direction, d.last (nextState state sample period) = d.counter sample) ∧
      (nextState state sample period).periodStart = period := by
  unfold nextState
  cases state with
  | none => exact ⟨rfl, fun d => by cases d <;> rfl, rfl⟩
  | some state =>
    simp only
    split_ifs <;> exact ⟨rfl, fun d => by cases d <;> rfl, rfl⟩

/-- The first sample of a period has no traffic. -/
lemma monthly_nextState_of_ne {state : Option TrafficState} {period : Time}
    (h : ∀ s ∈ state, s.periodStart ≠ period) (sample : MetricSample) (d : Direction) :
    (d.monthly (nextState state sample period)).toNat = 0 := by
  unfold nextState
  cases state with
  | none => cases d <;> rfl
  | some state =>
    have hne : (state.periodStart != period) = true := by simpa using h state rfl
    simp only [hne, if_true]
    cases d <;> rfl

/-- A later sample of a period adds its difference to the total. -/
lemma monthly_nextState_of_eq {state : TrafficState} {prev : MetricSample}
    (hboot : state.bootID = prev.bootID) (hlast : ∀ d : Direction, d.last state = d.counter prev)
    (sample : MetricSample) (d : Direction) :
    (d.monthly (nextState (some state) sample state.periodStart)).toNat =
      saturate ((d.monthly state).toNat + difference d prev sample) := by
  have hcap : saturate (d.monthly state).toNat = (d.monthly state).toNat := by
    have hlt : (d.monthly state).toNat < 2 ^ 64 := UInt64.toNat_lt _
    unfold saturate
    omega
  have hmonthly : d.monthly (nextState (some state) sample state.periodStart) =
      if state.bootID == sample.bootID && d.last state ≤ d.counter sample then
        saturatingAdd (d.monthly state) (d.counter sample - d.last state)
      else d.monthly state := by
    unfold nextState
    simp only [bne_self_eq_false, Bool.false_eq_true, if_false]
    cases d <;> rfl
  rw [hmonthly, hboot, hlast, difference]
  by_cases h : prev.bootID = sample.bootID ∧ d.counter prev ≤ d.counter sample
  · rw [if_pos h, if_pos (by simpa using h), toNat_saturatingAdd,
      UInt64.toNat_sub_of_le _ _ h.2]
  · rw [if_neg h, if_neg (by simpa using h), add_zero, hcap]

/-! ## Runs -/

/-- One call of `TrafficTracker.apply`. -/
structure TrafficReport where
  node : Node
  sample : MetricSample
  now : Time
  clock : Time

/-- The start of the billing period of a report. -/
def TrafficReport.period (resetDay : ℤ) (r : TrafficReport) : Time :=
  trafficPeriodStart r.now resetDay r.clock

/-- Take a list of reports in. -/
def TrafficTracker.run (t : TrafficTracker) (rs : List TrafficReport) : TrafficTracker :=
  rs.foldl (fun t r => (t.apply r.node r.sample r.now r.clock).1) t

/-- The total in the answer to a report that is made after a list of reports. -/
def TrafficTracker.answer (t : TrafficTracker) (d : Direction) (rs : List TrafficReport)
    (r : TrafficReport) : ℕ :=
  (d.total ((t.run rs).apply r.node r.sample r.now r.clock).2).toNat

/-- The reports of one node. -/
def reportsOf (id : String) (rs : List TrafficReport) : List TrafficReport :=
  rs.filter fun r => r.node.id = id

/-- Every report of a node carries the same reset day. -/
def ResetDayFixed (id : String) (resetDay : ℤ) (rs : List TrafficReport) : Prop :=
  ∀ r ∈ rs, r.node.id = id → r.node.trafficResetDay = resetDay

instance (id : String) (resetDay : ℤ) (rs : List TrafficReport) :
    Decidable (ResetDayFixed id resetDay rs) :=
  inferInstanceAs (Decidable (∀ r ∈ rs, _))

/-- The samples since the start of the billing period of a report: the reports right before it that
have its period, and the report. -/
def periodSamples (resetDay : ℤ) (history : List TrafficReport) (r : TrafficReport) :
    List MetricSample :=
  (history.rtakeWhile fun x => x.period resetDay = r.period resetDay).map TrafficReport.sample ++
    [r.sample]

/-- The samples since the start of the period, when the report before has another period. -/
lemma periodSamples_of_ne {resetDay : ℤ} {history : List TrafficReport} {r : TrafficReport}
    (h : ∀ x ∈ history.getLast?, x.period resetDay ≠ r.period resetDay) :
    periodSamples resetDay history r = [r.sample] := by
  unfold periodSamples
  rcases List.eq_nil_or_concat' history with rfl | ⟨l, x, rfl⟩
  · rfl
  · rw [List.rtakeWhile_concat_neg _ _ _ (by simpa using h x (by simp))]
    rfl

/-- The samples since the start of the period, when the report before has the same period. -/
lemma periodSamples_concat {resetDay : ℤ} {history : List TrafficReport} {x r : TrafficReport}
    (h : x.period resetDay = r.period resetDay) :
    periodSamples resetDay (history ++ [x]) r = periodSamples resetDay history x ++ [r.sample] := by
  unfold periodSamples
  rw [List.rtakeWhile_concat_pos _ _ _ (by simpa using h), List.map_append, h]
  rfl

/-- The traffic with one more report of the same period. -/
lemma traffic_periodSamples_concat {resetDay : ℤ} (d : Direction) {history : List TrafficReport}
    {x r : TrafficReport} (h : x.period resetDay = r.period resetDay) :
    traffic d (periodSamples resetDay (history ++ [x]) r) =
      traffic d (periodSamples resetDay history x) + difference d x.sample r.sample := by
  rw [periodSamples_concat h]
  unfold periodSamples
  exact traffic_concat d _ _ _

/-! ## The invariant -/

/-- What the tracker knows about a node with a fixed reset day after the reports `history` of the
node: before the first report nothing, and then the last sample and the traffic of its period. -/
structure TracksTotal (id : String) (resetDay : ℤ) (history : List TrafficReport)
    (t : TrafficTracker) : Prop where
  /-- The policy of the node, if it is fixed, has the reset day. -/
  policy : ∀ p ∈ t.policies id, p.resetDay = resetDay
  /-- There is no state before the first report. -/
  fresh : history = [] → t.states id = none
  /-- The state belongs to the last report. -/
  state : ∀ h r, history = h ++ [r] → ∃ s, t.states id = some s ∧
    s.bootID = r.sample.bootID ∧ (∀ d : Direction, d.last s = d.counter r.sample) ∧
    s.periodStart = r.period resetDay ∧
    ∀ d : Direction, (d.monthly s).toNat = saturate (traffic d (periodSamples resetDay h r))

section Invariant

variable {id : String} {resetDay : ℤ} {history : List TrafficReport} {t : TrafficTracker}
  {r : TrafficReport}

/-- The tracker uses the fixed reset day. -/
lemma TracksTotal.resetDay_eq (h : TracksTotal id resetDay history t) (hid : r.node.id = id)
    (hday : r.node.trafficResetDay = resetDay) : t.resetDay r.node = resetDay := by
  unfold TrafficTracker.resetDay
  cases hp : t.policies r.node.id with
  | none => exact hday
  | some p => exact h.policy p (hid ▸ hp)

/-- The total after a report of the node is the traffic of the period up to the report. -/
lemma TracksTotal.monthly_next (h : TracksTotal id resetDay history t) (d : Direction) :
    (d.monthly (nextState (t.states id) r.sample (r.period resetDay))).toNat =
      saturate (traffic d (periodSamples resetDay history r)) := by
  by_cases hsame : ∀ x ∈ history.getLast?, x.period resetDay ≠ r.period resetDay
  · -- the first report of a period
    have hne : ∀ s ∈ t.states id, s.periodStart ≠ r.period resetDay := by
      intro s hs
      rcases List.eq_nil_or_concat' history with rfl | ⟨l, x, rfl⟩
      · rw [h.fresh rfl] at hs
        cases hs
      · obtain ⟨s', hs', -, -, hperiod, -⟩ := h.state l x rfl
        obtain rfl : s' = s := Option.some.inj (hs'.symm.trans hs)
        rw [hperiod]
        exact hsame x (by simp)
    rw [monthly_nextState_of_ne hne, periodSamples_of_ne hsame]
    rfl
  · push Not at hsame
    obtain ⟨x, hx, hperiod⟩ := hsame
    obtain ⟨l, rfl⟩ := List.getLast?_eq_some_iff.mp hx
    obtain ⟨s, hs, hboot, hlast, hstart, hmonthly⟩ := h.state l x rfl
    rw [hs, ← hperiod, ← hstart, monthly_nextState_of_eq hboot hlast, hmonthly,
      saturate_saturate_add, traffic_periodSamples_concat d hperiod]

/-- A report of the node keeps the invariant. -/
lemma TracksTotal.apply (h : TracksTotal id resetDay history t) (hid : r.node.id = id)
    (hday : r.node.trafficResetDay = resetDay) :
    TracksTotal id resetDay (history ++ [r]) (t.apply r.node r.sample r.now r.clock).1 := by
  have huse := h.resetDay_eq hid hday
  refine ⟨fun p hp => ?_, fun hnil => by simp at hnil, fun l x heq => ?_⟩
  · rw [TrafficTracker.policies_apply, if_pos hid.symm, Option.mem_some_iff] at hp
    rw [← hp]
    exact huse
  · obtain ⟨rfl, hx⟩ := List.append_inj' heq rfl
    obtain rfl : r = x := List.head_eq_of_cons_eq hx
    rw [TrafficTracker.states_apply, if_pos hid.symm, huse, hid]
    obtain ⟨hboot, hlast, hperiod⟩ := nextState_baseline (t.states id) r.sample (r.period resetDay)
    exact ⟨_, rfl, hboot, hlast, hperiod, fun d => h.monthly_next d⟩

/-- A report of another node keeps the invariant. -/
lemma TracksTotal.apply_of_ne (h : TracksTotal id resetDay history t) (hid : r.node.id ≠ id) :
    TracksTotal id resetDay history (t.apply r.node r.sample r.now r.clock).1 := by
  have hstate : (t.apply r.node r.sample r.now r.clock).1.states id = t.states id := by
    rw [TrafficTracker.states_apply, if_neg hid.symm]
  have hpolicy : (t.apply r.node r.sample r.now r.clock).1.policies id = t.policies id := by
    rw [TrafficTracker.policies_apply, if_neg hid.symm]
  exact ⟨by rw [hpolicy]; exact h.policy, by rw [hstate]; exact h.fresh,
    by rw [hstate]; exact h.state⟩

/-- A run keeps the invariant. -/
lemma TracksTotal.run (h : TracksTotal id resetDay history t) (rs : List TrafficReport)
    (hday : ResetDayFixed id resetDay rs) :
    TracksTotal id resetDay (history ++ reportsOf id rs) (t.run rs) := by
  induction rs generalizing history t with
  | nil => simpa [reportsOf, TrafficTracker.run] using h
  | cons r rs ih =>
    have htail : ResetDayFixed id resetDay rs :=
      fun x hx => hday x (List.mem_cons_of_mem _ hx)
    by_cases hid : r.node.id = id
    · have hreports : reportsOf id (r :: rs) = r :: reportsOf id rs :=
        List.filter_cons_of_pos (by simpa using hid)
      have happly := ih (h.apply hid (hday r List.mem_cons_self hid)) htail
      rw [List.append_assoc] at happly
      rw [hreports]
      exact happly
    · have hreports : reportsOf id (r :: rs) = reportsOf id rs :=
        List.filter_cons_of_neg (by simpa using hid)
      rw [hreports]
      exact ih (h.apply_of_ne hid) htail

end Invariant

/-! ## Reports of one period -/

section Period

variable {resetDay : ℤ} {h m m' : List TrafficReport} {a b : TrafficReport} (d : Direction)

/-- The traffic up to a report is the traffic up to an earlier report of the same period and the
traffic since. -/
lemma traffic_periodSamples_append
    (hperiod : ∀ x ∈ m ++ [b], x.period resetDay = a.period resetDay) :
    traffic d (periodSamples resetDay (h ++ a :: m) b) =
      traffic d (periodSamples resetDay h a) +
        traffic d ((a :: m ++ [b]).map TrafficReport.sample) := by
  induction m using List.reverseRecOn generalizing b with
  | nil =>
    rw [traffic_periodSamples_concat d (hperiod b (by simp)).symm]
    simp [traffic]
  | append_singleton m x ih =>
    have hx : x.period resetDay = a.period resetDay := hperiod x (by simp)
    have hb : b.period resetDay = a.period resetDay := hperiod b (by simp)
    have hih := ih (b := x) fun y hy => hperiod y (List.mem_append_left _ hy)
    have hsplit := traffic_concat d ((a :: m).map TrafficReport.sample) x.sample b.sample
    rw [← List.cons_append, ← List.append_assoc, traffic_periodSamples_concat d (hx.trans hb.symm),
      hih]
    simp only [List.map_append, List.map_cons, List.map_nil, List.cons_append] at hsplit ⊢
    rw [hsplit, add_assoc]

/-- Leaving out samples inside a steady run of one period does not change the traffic up to the end
of the run. -/
lemma traffic_periodSamples_of_sublist
    (hperiod : ∀ x ∈ m ++ [b], x.period resetDay = a.period resetDay)
    (hsteady : Steady d ((a :: m ++ [b]).map TrafficReport.sample)) (hsub : List.Sublist m' m) :
    traffic d (periodSamples resetDay (h ++ a :: m') b) =
      traffic d (periodSamples resetDay (h ++ a :: m) b) := by
  have hsub' : List.Sublist (m' ++ [b]) (m ++ [b]) := hsub.append_right [b]
  have hsteady' : Steady d ((a :: m' ++ [b]).map TrafficReport.sample) :=
    List.Pairwise.sublist ((hsub'.cons_cons a).map _) hsteady
  have hm := traffic_of_steady d (m.map TrafficReport.sample) a.sample b.sample
    (by simpa using hsteady)
  have hm' := traffic_of_steady d (m'.map TrafficReport.sample) a.sample b.sample
    (by simpa using hsteady')
  rw [traffic_periodSamples_append d hperiod,
    traffic_periodSamples_append d fun x hx => hperiod x (hsub'.subset hx)]
  simp only [List.map_append, List.map_cons, List.map_nil]
  rw [hm, hm']

/-- Two histories with the same traffic up to a report have the same traffic after the same later
reports. -/
lemma traffic_periodSamples_congr {l l' : List TrafficReport} {b : TrafficReport}
    (heq : traffic d (periodSamples resetDay l' b) = traffic d (periodSamples resetDay l b))
    (later : List TrafficReport) (r : TrafficReport) :
    traffic d (periodSamples resetDay (l' ++ b :: later) r) =
      traffic d (periodSamples resetDay (l ++ b :: later) r) := by
  have hgrow : ∀ {l l' : List TrafficReport} {x r : TrafficReport},
      traffic d (periodSamples resetDay l' x) = traffic d (periodSamples resetDay l x) →
        traffic d (periodSamples resetDay (l' ++ [x]) r) =
          traffic d (periodSamples resetDay (l ++ [x]) r) := by
    intro l l' x r heq
    by_cases hx : x.period resetDay = r.period resetDay
    · rw [traffic_periodSamples_concat d hx, traffic_periodSamples_concat d hx, heq]
    · rw [periodSamples_of_ne (by simpa using hx), periodSamples_of_ne (by simpa using hx)]
  induction later using List.reverseRecOn generalizing r with
  | nil => exact hgrow heq
  | append_singleton later x ih =>
    rw [← List.cons_append, ← List.append_assoc, ← List.append_assoc]
    exact hgrow (ih x)

end Period

/-! ## The law -/

section Law

variable {t : TrafficTracker} {id : String} {resetDay : ℤ}

/-- The reports of a node in a list with a report of the node. -/
lemma reportsOf_append_cons (pre post : List TrafficReport) {r : TrafficReport}
    (hid : r.node.id = id) :
    reportsOf id (pre ++ r :: post) = reportsOf id pre ++ r :: reportsOf id post := by
  simp [reportsOf, hid]

/-- The answer to a report of a node is the traffic of the node in the billing period so far. -/
lemma TrafficTracker.answer_eq (hstate : t.states id = none)
    (hpolicy : ∀ p ∈ t.policies id, p.resetDay = resetDay) {pre : List TrafficReport}
    (hpre : ResetDayFixed id resetDay pre) {r : TrafficReport}
    (hid : r.node.id = id) (hday : r.node.trafficResetDay = resetDay) (d : Direction) :
    t.answer d pre r = saturate (traffic d (periodSamples resetDay (reportsOf id pre) r)) := by
  have hinit : TracksTotal id resetDay [] t := ⟨hpolicy, fun _ => hstate, by simp⟩
  have hrun := hinit.run pre hpre
  rw [List.nil_append] at hrun
  rw [TrafficTracker.answer, TrafficTracker.total_apply, hrun.resetDay_eq hid hday, hid]
  exact hrun.monthly_next d

end Law

/-- The law of the traffic total.  For a node with a fixed reset day, every sequence of reports of
any nodes and each direction:

* the total in the answer to a report of the node is the saturating sum of the counter differences
  of consecutive samples of the node since the start of the billing period, where only pairs with
  one boot id and a counter that did not decrease count;
* the total does not decrease inside a period;
* the total is zero at the first report of a period;
* leaving out reports of the node inside a run of one period with one boot id and a counter that
  does not decrease changes no later total. -/
theorem TrafficTracker.traffic_total_law (t : TrafficTracker) (id : String) (resetDay : ℤ)
    (rs : List TrafficReport) (d : Direction) (hstate : t.states id = none)
    (hpolicy : ∀ p ∈ t.policies id, p.resetDay = resetDay)
    (hday : ResetDayFixed id resetDay rs) :
    (∀ pre r post, rs = pre ++ r :: post → r.node.id = id →
      t.answer d pre r = saturate (traffic d (periodSamples resetDay (reportsOf id pre) r))) ∧
    (∀ pre a mid b post, rs = pre ++ a :: mid ++ b :: post → a.node.id = id → b.node.id = id →
      (∀ x ∈ reportsOf id mid ++ [b], x.period resetDay = a.period resetDay) →
      t.answer d pre a ≤ t.answer d (pre ++ a :: mid) b) ∧
    (∀ pre r post, rs = pre ++ r :: post → r.node.id = id →
      (∀ x ∈ (reportsOf id pre).getLast?, x.period resetDay ≠ r.period resetDay) →
      t.answer d pre r = 0) ∧
    ∀ pre a mid mid' b post, rs = pre ++ a :: mid ++ b :: post → a.node.id = id → b.node.id = id →
      (∀ x ∈ reportsOf id mid ++ [b], x.period resetDay = a.period resetDay) →
      Steady d ((a :: reportsOf id mid ++ [b]).map TrafficReport.sample) →
      List.Sublist (reportsOf id mid') (reportsOf id mid) →
      t.answer d (pre ++ a :: mid') b = t.answer d (pre ++ a :: mid) b ∧
        ∀ post₁ r post₂, post = post₁ ++ r :: post₂ → r.node.id = id →
          t.answer d (pre ++ a :: mid' ++ b :: post₁) r =
            t.answer d (pre ++ a :: mid ++ b :: post₁) r := by
  have hanswer := fun pre (hpre : ResetDayFixed id resetDay pre) (r : TrafficReport) hid hr =>
    TrafficTracker.answer_eq (r := r) hstate hpolicy hpre hid hr d
  refine ⟨?_, ?_, ?_, ?_⟩
  · rintro pre r post rfl hid
    exact hanswer pre (fun x hx => hday x (by simp [hx])) r hid (hday r (by simp) hid)
  · rintro pre a mid b post rfl ha hb hperiod
    rw [hanswer pre (fun x hx => hday x (by simp [hx])) a ha (hday a (by simp) ha),
      hanswer (pre ++ a :: mid) (fun x hx => hday x (List.mem_append_left _ hx)) b hb
        (hday b (by simp) hb), reportsOf_append_cons _ _ ha,
      traffic_periodSamples_append d hperiod]
    exact saturate_mono (Nat.le_add_right _ _)
  · rintro pre r post rfl hid hfirst
    rw [hanswer pre (fun x hx => hday x (by simp [hx])) r hid (hday r (by simp) hid),
      periodSamples_of_ne hfirst]
    rfl
  · rintro pre a mid mid' b post rfl ha hb hperiod hsteady hsub
    have hbday := hday b (by simp) hb
    have hmid : ResetDayFixed id resetDay (pre ++ a :: mid) :=
      fun x hx => hday x (List.mem_append_left _ hx)
    have hmid' : ResetDayFixed id resetDay (pre ++ a :: mid') := by
      intro x hx hxid
      rcases List.mem_append.mp hx with hx | hx
      · exact hday x (by simp [hx]) hxid
      rcases List.mem_cons.mp hx with rfl | hx
      · exact hday x (by simp) hxid
      have hsubset : x ∈ reportsOf id mid :=
        hsub.subset (List.mem_filter.mpr ⟨hx, by simpa using hxid⟩)
      exact hmid x (by simp [(List.mem_filter.mp hsubset).1]) hxid
    have hsame := traffic_periodSamples_of_sublist (h := reportsOf id pre) d hperiod hsteady hsub
    refine ⟨?_, ?_⟩
    · rw [hanswer _ hmid' b hb hbday, hanswer _ hmid b hb hbday, reportsOf_append_cons _ _ ha,
        reportsOf_append_cons _ _ ha, hsame]
    · rintro post₁ r post₂ rfl hid
      have hrday := hday r (by simp) hid
      have hlater : ∀ {l : List TrafficReport}, ResetDayFixed id resetDay l →
          ResetDayFixed id resetDay (l ++ b :: post₁) := by
        intro l hl x hx hxid
        rcases List.mem_append.mp hx with hx | hx
        · exact hl x hx hxid
        · exact hday x (by simp at hx ⊢; tauto) hxid
      rw [hanswer _ (hlater hmid') r hid hrday, hanswer _ (hlater hmid) r hid hrday,
        reportsOf_append_cons _ _ hb, reportsOf_append_cons _ _ hb, reportsOf_append_cons _ _ ha,
        reportsOf_append_cons _ _ ha, traffic_periodSamples_congr d hsame]

/-- Reports of a node that restarts and of another node in between. -/
def restartReports : List TrafficReport :=
  [("n1", "a", 1000, 0), ("n2", "x", 7, 10), ("n1", "a", 1400, 60), ("n1", "b", 10, 120),
    ("n1", "b", 60, 180)].map fun p =>
      ⟨{ id := p.1, trafficResetDay := 1 }, { bootID := p.2.1, netRxBytes := p.2.2.1 },
        unixEpoch + p.2.2.2 * second, 0⟩

/-- The last report of the node that restarts counts the traffic before and after the restart. -/
theorem traffic_total_law_restartReports :
    traffic .rx (periodSamples 1 (reportsOf "n1" (restartReports.take 4))
        ⟨{ id := "n1", trafficResetDay := 1 }, { bootID := "b", netRxBytes := 60 },
          unixEpoch + 180 * second, 0⟩) = 450 ∧
      ({} : TrafficTracker).answer .rx (restartReports.take 4)
        ⟨{ id := "n1", trafficResetDay := 1 }, { bootID := "b", netRxBytes := 60 },
          unixEpoch + 180 * second, 0⟩ = 450 := by
  have htraffic : traffic .rx (periodSamples 1 (reportsOf "n1" (restartReports.take 4))
      ⟨{ id := "n1", trafficResetDay := 1 }, { bootID := "b", netRxBytes := 60 },
        unixEpoch + 180 * second, 0⟩) = 450 := by decide +kernel
  have hlaw := TrafficTracker.traffic_total_law {} "n1" 1 restartReports .rx rfl nofun
    (by decide +kernel)
  refine ⟨htraffic, ?_⟩
  rw [hlaw.1 _ _ [] rfl rfl, htraffic]
  rfl

end Hostpin
