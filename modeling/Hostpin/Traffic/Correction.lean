import Hostpin.Traffic.Total

/-!
# Traffic corrections

An administrator can correct the traffic totals of a node.  The tracker keeps raw totals; a
correction is a pair of signed adjustments that belongs to one billing period, and it is added when
a sample is shown (`TrafficTracker.correct`) and taken away to recover the raw totals
(`TrafficTracker.uncorrect`).

The totals are unsigned 64-bit numbers, so both operations clamp.  `uncorrect_correct` says that the
raw totals come back when the adjustment that applies does not clamp them.
-/

namespace Hostpin

open Clock

/-! ## Signed adjustments -/

/-- The distance of a negative adjustment from zero. -/
def magnitude (adjustment : Int64) : UInt64 := (-(adjustment + 1)).toUInt64 + 1

/-- A total with an adjustment added, clamped to the range of totals. -/
def addSigned (value : UInt64) (adjustment : Int64) : UInt64 :=
  if 0 ≤ adjustment then saturatingAdd value adjustment.toUInt64
  else if magnitude adjustment ≥ value then 0 else value - magnitude adjustment

/-- A total with an adjustment taken away, clamped to the range of totals. -/
def subtractSigned (value : UInt64) (adjustment : Int64) : UInt64 :=
  if 0 ≤ adjustment then
    if adjustment.toUInt64 ≥ value then 0 else value - adjustment.toUInt64
  else saturatingAdd value (magnitude adjustment)

/-- The adjustment that turns a raw total into a target. -/
def trafficAdjustment (target raw : UInt64) : Int64 :=
  if target ≥ raw then (target - raw).toInt64 else -(raw - target).toInt64

/-- The adjustment does not clamp the total. -/
def Unclamped (value : UInt64) (adjustment : Int64) : Prop :=
  0 ≤ (value.toNat : ℤ) + adjustment.toInt ∧ (value.toNat : ℤ) + adjustment.toInt < 2 ^ 64

instance (value : UInt64) (adjustment : Int64) : Decidable (Unclamped value adjustment) :=
  inferInstanceAs (Decidable (_ ∧ _))

/-- An adjustment as an unsigned number. -/
lemma toInt_cases (adjustment : Int64) :
    (0 ≤ adjustment ∧ (adjustment.toUInt64.toNat : ℤ) = adjustment.toInt) ∨
      (¬0 ≤ adjustment ∧ (adjustment.toUInt64.toNat : ℤ) = adjustment.toInt + 2 ^ 64 ∧
        -2 ^ 63 ≤ adjustment.toInt ∧ adjustment.toInt < 0) := by
  have hcond : adjustment.toInt = if 2 * adjustment.toUInt64.toNat < 2 ^ 64 then
      (adjustment.toUInt64.toNat : ℤ) else (adjustment.toUInt64.toNat : ℤ) - (2 ^ 64 : ℕ) :=
    BitVec.toInt_eq_toNat_cond adjustment.toBitVec
  have hlt : adjustment.toUInt64.toNat < 2 ^ 64 := UInt64.toNat_lt _
  have hle : 0 ≤ adjustment ↔ 0 ≤ adjustment.toInt := by simp [Int64.le_iff_toInt_le]
  rw [hle]
  split_ifs at hcond with hhalf
  · exact Or.inl ⟨by omega, hcond.symm⟩
  · exact Or.inr ⟨by omega, by omega, by omega, by omega⟩

/-- The magnitude of a negative adjustment. -/
lemma toNat_magnitude {adjustment : Int64} (h : ¬0 ≤ adjustment) :
    ((magnitude adjustment).toNat : ℤ) = -adjustment.toInt := by
  have hneg : magnitude adjustment = -adjustment.toUInt64 := by
    simp only [magnitude, Int64.toUInt64_neg, Int64.toUInt64_add]
    rw [neg_add, add_assoc]
    exact add_eq_left.mpr (neg_add_cancel _)
  rcases toInt_cases adjustment with ⟨hnonneg, -⟩ | ⟨-, hto, hlo, hhi⟩
  · exact absurd hnonneg h
  · rw [hneg, UInt64.toNat_neg]
    have hlt : adjustment.toUInt64.toNat < 2 ^ 64 := UInt64.toNat_lt _
    simp only [UInt64.size]
    omega

/-- Adding an adjustment clamps the exact sum. -/
lemma toNat_addSigned (value : UInt64) (adjustment : Int64) :
    ((addSigned value adjustment).toNat : ℤ) =
      max 0 (min (2 ^ 64 - 1) (value.toNat + adjustment.toInt)) := by
  have hvalue : value.toNat < 2 ^ 64 := value.toNat_lt
  unfold addSigned
  rcases toInt_cases adjustment with ⟨hnonneg, hto⟩ | ⟨hneg, -, hlo, hhi⟩
  · rw [if_pos hnonneg, toNat_saturatingAdd, saturate]
    omega
  · have hmagnitude := toNat_magnitude hneg
    rw [if_neg hneg]
    by_cases hle : magnitude adjustment ≥ value
    · have hle' : value.toNat ≤ (magnitude adjustment).toNat := hle
      rw [if_pos hle]
      simp only [UInt64.toNat_zero]
      omega
    · have hlt : (magnitude adjustment).toNat < value.toNat := by
        simpa [UInt64.le_iff_toNat_le] using hle
      rw [if_neg hle, UInt64.toNat_sub_of_le _ _ (UInt64.le_iff_toNat_le.mpr hlt.le)]
      omega

/-- Taking an adjustment away clamps the exact difference. -/
lemma toNat_subtractSigned (value : UInt64) (adjustment : Int64) :
    ((subtractSigned value adjustment).toNat : ℤ) =
      max 0 (min (2 ^ 64 - 1) (value.toNat - adjustment.toInt)) := by
  have hvalue : value.toNat < 2 ^ 64 := value.toNat_lt
  unfold subtractSigned
  rcases toInt_cases adjustment with ⟨hnonneg, hto⟩ | ⟨hneg, -, hlo, hhi⟩
  · rw [if_pos hnonneg]
    by_cases hle : adjustment.toUInt64 ≥ value
    · have hle' : value.toNat ≤ adjustment.toUInt64.toNat := hle
      rw [if_pos hle]
      simp only [UInt64.toNat_zero]
      omega
    · have hlt : adjustment.toUInt64.toNat < value.toNat := by
        simpa [UInt64.le_iff_toNat_le] using hle
      rw [if_neg hle, UInt64.toNat_sub_of_le _ _ (UInt64.le_iff_toNat_le.mpr hlt.le)]
      omega
  · have hmagnitude := toNat_magnitude hneg
    rw [if_neg hneg, toNat_saturatingAdd, saturate]
    omega

/-- An adjustment that does not clamp is taken back exactly. -/
lemma subtractSigned_addSigned {value : UInt64} {adjustment : Int64}
    (h : Unclamped value adjustment) :
    subtractSigned (addSigned value adjustment) adjustment = value := by
  have hadd := toNat_addSigned value adjustment
  have hsub := toNat_subtractSigned (addSigned value adjustment) adjustment
  have hvalue : value.toNat < 2 ^ 64 := value.toNat_lt
  obtain ⟨hlo, hhi⟩ := h
  rw [← UInt64.toNat_inj]
  omega

/-- A total that fits into a signed 64-bit integer reads the same as one. -/
lemma toInt_toInt64 {value : UInt64} (h : value.toNat < 2 ^ 63) :
    value.toInt64.toInt = value.toNat := by
  have hcond : value.toInt64.toInt = if 2 * value.toNat < 2 ^ 64 then (value.toNat : ℤ)
      else (value.toNat : ℤ) - (2 ^ 64 : ℕ) :=
    BitVec.toInt_eq_toNat_cond value.toBitVec
  rw [hcond, if_pos (by omega)]

/-- The adjustment that turns a raw total into a target is their difference, when both fit into
signed 64-bit integers. -/
lemma toInt_trafficAdjustment {target raw : UInt64} (htarget : target.toNat < 2 ^ 63)
    (hraw : raw.toNat < 2 ^ 63) :
    (trafficAdjustment target raw).toInt = (target.toNat : ℤ) - raw.toNat := by
  unfold trafficAdjustment
  by_cases hle : target ≥ raw
  · have hnat : raw.toNat ≤ target.toNat := hle
    have hsub : (target - raw).toNat = target.toNat - raw.toNat :=
      UInt64.toNat_sub_of_le _ _ hle
    rw [if_pos hle, toInt_toInt64 (by omega)]
    omega
  · have hnat : target.toNat < raw.toNat := by simpa [UInt64.le_iff_toNat_le] using hle
    have hsub : (raw - target).toNat = raw.toNat - target.toNat :=
      UInt64.toNat_sub_of_le _ _ (UInt64.le_iff_toNat_le.mpr hnat.le)
    have hdiff : (raw - target).toInt64.toInt = (raw.toNat : ℤ) - target.toNat := by
      rw [toInt_toInt64 (by omega)]
      omega
    rw [if_neg hle, Int64.toInt_neg, hdiff]
    -- a negated difference below 2^63 does not wrap around
    have hlo : -2 ^ 63 ≤ -((raw.toNat : ℤ) - target.toNat) := by omega
    have hhi : -((raw.toNat : ℤ) - target.toNat) < 2 ^ 63 := by omega
    rw [Int.bmod_def]
    split <;> omega

/-- Corrections are exact.  For a target and a raw total that fit into signed 64-bit integers the
adjustment is their difference; it turns the raw total into the target and back, and it does so for
every later total that it does not push over the range.  Adding and taking away an adjustment clamp
the exact sum and difference for every total and every adjustment. -/
theorem correction_exact :
    (∀ target raw : UInt64, target.toNat ≤ 2 ^ 63 - 1 → raw.toNat ≤ 2 ^ 63 - 1 →
      (trafficAdjustment target raw).toInt = (target.toNat : ℤ) - raw.toNat ∧
      addSigned raw (trafficAdjustment target raw) = target ∧
      subtractSigned target (trafficAdjustment target raw) = raw ∧
      ∀ later : UInt64, raw ≤ later →
        (later.toNat : ℤ) + (trafficAdjustment target raw).toInt ≤ 2 ^ 64 - 1 →
        (addSigned later (trafficAdjustment target raw)).toNat =
            target.toNat + (later.toNat - raw.toNat) ∧
          subtractSigned (addSigned later (trafficAdjustment target raw))
            (trafficAdjustment target raw) = later) ∧
      ∀ (value : UInt64) (adjustment : Int64),
        ((addSigned value adjustment).toNat : ℤ) =
            max 0 (min (2 ^ 64 - 1) (value.toNat + adjustment.toInt)) ∧
          ((subtractSigned value adjustment).toNat : ℤ) =
            max 0 (min (2 ^ 64 - 1) (value.toNat - adjustment.toInt)) := by
  refine ⟨fun target raw htarget hraw => ?_, fun value adjustment =>
    ⟨toNat_addSigned value adjustment, toNat_subtractSigned value adjustment⟩⟩
  have hadjustment := toInt_trafficAdjustment (by omega : target.toNat < 2 ^ 63)
    (by omega : raw.toNat < 2 ^ 63)
  have hadd := toNat_addSigned raw (trafficAdjustment target raw)
  have hsub := toNat_subtractSigned target (trafficAdjustment target raw)
  refine ⟨hadjustment, ?_, ?_, fun later hlater hfits => ?_⟩
  · rw [← UInt64.toNat_inj]
    omega
  · rw [← UInt64.toNat_inj]
    omega
  · have hle : raw.toNat ≤ later.toNat := hlater
    have haddLater := toNat_addSigned later (trafficAdjustment target raw)
    refine ⟨by omega, subtractSigned_addSigned ⟨by omega, by omega⟩⟩

/-- A counter of 5000 that should have been 2000, and the same counter 300 later. -/
theorem correction_exact_lower :
    addSigned 5000 (trafficAdjustment 2000 5000) = 2000 ∧
      (addSigned 5300 (trafficAdjustment 2000 5000)).toNat = 2000 + (5300 - 5000) := by
  have exact := correction_exact.1 2000 5000 (by decide) (by decide)
  exact ⟨exact.2.1, (exact.2.2.2 5300 (by decide) (by decide)).1⟩

/-! ## Corrections of a sample -/

/-- The instant that a sample belongs to. -/
def metricTime (sample : MetricSample) : Time :=
  if !isZero sample.receivedAt then sample.receivedAt else sample.collectedAt

/-- Whether the correction of a policy belongs to the billing period of an instant. -/
def correctionApplies (policy : TrafficPolicy) (instant clock : Time) : Bool :=
  match policy.periodStart with
  | none => false
  | some periodStart => periodStart == trafficPeriodStart instant policy.resetDay clock

/-- The policy of a node, if it has one whose correction applies to a sample. -/
def TrafficTracker.activePolicy (t : TrafficTracker) (nodeID : String) (sample : MetricSample)
    (clock : Time) : Option TrafficPolicy :=
  (t.policies nodeID).filter fun policy => correctionApplies policy (metricTime sample) clock

/-- The sample of a node as it is shown. -/
def TrafficTracker.correct (t : TrafficTracker) (nodeID : String) (sample : MetricSample)
    (clock : Time) : MetricSample :=
  match t.activePolicy nodeID sample clock with
  | none => sample
  | some policy =>
    { sample with
      monthlyRxBytes := addSigned sample.monthlyRxBytes policy.rxCorrection
      monthlyTxBytes := addSigned sample.monthlyTxBytes policy.txCorrection }

/-- The raw sample of a node, recovered from the sample that is shown. -/
def TrafficTracker.uncorrect (t : TrafficTracker) (nodeID : String) (sample : MetricSample)
    (clock : Time) : MetricSample :=
  match t.activePolicy nodeID sample clock with
  | none => sample
  | some policy =>
    { sample with
      monthlyRxBytes := subtractSigned sample.monthlyRxBytes policy.rxCorrection
      monthlyTxBytes := subtractSigned sample.monthlyTxBytes policy.txCorrection }

/-- The correction in force does not clamp the totals of a sample. -/
def TrafficTracker.Invertible (t : TrafficTracker) (nodeID : String) (sample : MetricSample)
    (clock : Time) : Prop :=
  ∀ policy ∈ t.activePolicy nodeID sample clock,
    Unclamped sample.monthlyRxBytes policy.rxCorrection ∧
      Unclamped sample.monthlyTxBytes policy.txCorrection

section Correct

variable (t : TrafficTracker) (nodeID : String) (sample : MetricSample) (clock : Time)

/-- A corrected sample is the sample with other totals. -/
lemma TrafficTracker.exists_correct_eq : ∃ rx tx, t.correct nodeID sample clock =
    { sample with monthlyRxBytes := rx, monthlyTxBytes := tx } := by
  unfold TrafficTracker.correct
  cases t.activePolicy nodeID sample clock with
  | none => exact ⟨sample.monthlyRxBytes, sample.monthlyTxBytes, rfl⟩
  | some policy => exact ⟨_, _, rfl⟩

/-- A correction keeps the node and the instant of a sample. -/
lemma TrafficTracker.correct_keeps : (t.correct nodeID sample clock).nodeID = sample.nodeID ∧
    (t.correct nodeID sample clock).receivedAt = sample.receivedAt ∧
    metricTime (t.correct nodeID sample clock) = metricTime sample := by
  obtain ⟨rx, tx, h⟩ := t.exists_correct_eq nodeID sample clock
  rw [h]
  exact ⟨rfl, rfl, rfl⟩

variable {t nodeID sample clock}

/-- The present does not matter for a sample with an instant. -/
lemma TrafficTracker.activePolicy_clock (h : isZero (metricTime sample) = false) (clock' : Time) :
    t.activePolicy nodeID sample clock = t.activePolicy nodeID sample clock' := by
  have hperiod : ∀ resetDay, trafficPeriodStart (metricTime sample) resetDay clock =
      trafficPeriodStart (metricTime sample) resetDay clock' := by
    intro resetDay
    simp only [trafficPeriodStart, h, Bool.false_eq_true, if_false]
  unfold TrafficTracker.activePolicy correctionApplies
  simp only [hperiod]

/-- The present does not matter for what is shown of a sample with an instant. -/
lemma TrafficTracker.correct_clock (h : isZero (metricTime sample) = false) (clock' : Time) :
    t.correct nodeID sample clock = t.correct nodeID sample clock' := by
  unfold TrafficTracker.correct
  rw [TrafficTracker.activePolicy_clock h clock']

/-- The present does not matter for whether a sample with an instant is clamped. -/
lemma TrafficTracker.Invertible.of_clock (hinvertible : t.Invertible nodeID sample clock)
    (h : isZero (metricTime sample) = false) (clock' : Time) :
    t.Invertible nodeID sample clock' := by
  unfold TrafficTracker.Invertible at hinvertible ⊢
  rwa [TrafficTracker.activePolicy_clock h clock]

/-- The policy that applies to a sample depends on its instant only. -/
lemma TrafficTracker.activePolicy_congr {sample' : MetricSample}
    (h : metricTime sample' = metricTime sample) :
    t.activePolicy nodeID sample' clock = t.activePolicy nodeID sample clock := by
  unfold TrafficTracker.activePolicy
  rw [h]

/-- A correction that does not clamp is taken back exactly. -/
lemma TrafficTracker.uncorrect_correct (h : t.Invertible nodeID sample clock) :
    t.uncorrect nodeID (t.correct nodeID sample clock) clock = sample := by
  have hactive : t.activePolicy nodeID (t.correct nodeID sample clock) clock =
      t.activePolicy nodeID sample clock :=
    TrafficTracker.activePolicy_congr (t.correct_keeps nodeID sample clock).2.2
  unfold TrafficTracker.uncorrect
  rw [hactive]
  unfold TrafficTracker.correct
  cases hpolicy : t.activePolicy nodeID sample clock with
  | none => rfl
  | some policy =>
    obtain ⟨hrx, htx⟩ := h policy hpolicy
    simp only [subtractSigned_addSigned hrx, subtractSigned_addSigned htx]

end Correct

end Hostpin
