import Hostpin.Alerting.Engine
import Hostpin.Foundation.Rounding

/-!
# The days that are left

A reminder is due when the number of days until the expiry of a node, rounded up, is one of a few
numbers.  The engine computes this number with binary64 numbers, in three steps that round:
`durationHours` adds the whole hours and the fraction of the last one, and the sum is divided by
twenty-four.  A duration is cut into hours of 3600 billion nanoseconds, so a nanosecond too much
moves the result by more than the three roundings do.

`daysLeft_eq_iff` says that the result is exact near the expiry: the engine counts `n` days left
during the twenty-four hours that start `n` days before the expiry.
-/

namespace Hostpin

open Clock Binary64

/-! ## Rounding up -/

/-- Rounding up a number. -/
lemma ceilToInt_le_iff {x : Float} {v : ℚ} {b : ℤ} (hx : Denotes x v b) (n : ℤ) :
    ceilToInt x ≤ n ↔ v ≤ n := by
  unfold ceilToInt
  obtain ⟨rfl, s, hunpack⟩ | ⟨s, m, e, hp, hm, -, hunpack, rfl⟩ := hx
  · rw [hunpack]
    exact Int.cast_nonneg_iff.symm
  · rw [hunpack]
    have hvalue : signed s (value m e) =
        ((s.apply (m * 2 ^ e.toNat : ℕ) : ℤ) : ℚ) / ((2 ^ (-e).toNat : ℤ) : ℚ) := by
      rw [cast_apply, value_eq_div]
      cases s with
      | negative =>
        simp only [signed]
        push_cast
        ring
      | positive =>
        simp only [signed]
        push_cast
        ring
    show (s.apply (m * 2 ^ e.toNat : ℕ) + 2 ^ (-e).toNat - 1) / 2 ^ (-e).toNat ≤ n ↔ _
    have hden : (0 : ℤ) < 2 ^ (-e).toNat := by positivity
    have hden' : (0 : ℚ) < ((2 ^ (-e).toNat : ℤ) : ℚ) := by exact_mod_cast hden
    rw [hvalue, div_le_iff₀ hden', ← Int.cast_mul, Int.cast_le]
    generalize (2 : ℤ) ^ (-e).toNat = den at hden
    generalize s.apply (m * 2 ^ e.toNat : ℕ) = num
    rw [← Int.lt_add_one_iff, Int.ediv_lt_iff_lt_mul hden, add_mul, one_mul]
    constructor
    · intro h
      linarith [Int.le_sub_one_of_lt h]
    · intro h
      linarith

/-! ## Three roundings -/

/-- The nanoseconds of an hour have a mantissa of 53 bits. -/
lemma denotes_hour : Denotes (60 * 60 * 1e9 : Float) 3600000000000 52 := by
  refine Or.inr ⟨.positive, 7372800000000000, -11, by norm_num, ⟨by norm_num, by norm_num⟩,
    by norm_num, rfl, ?_⟩
  rw [signed, value]
  norm_num

/-- Twenty-four has a mantissa of 53 bits. -/
lemma denotes_twentyFour : Denotes (24 : Float) 24 52 := by
  refine Or.inr ⟨.positive, 6755399441055744, -48, by norm_num, ⟨by norm_num, by norm_num⟩,
    by norm_num, rfl, ?_⟩
  rw [signed, value]
  norm_num

/-- A duration is cut into whole hours and a rest of less than an hour. -/
lemma tdiv_hour_add_tmod (d : ℤ) : d = d.tdiv 3600000000000 * 3600000000000 + d.tmod 3600000000000 ∧
    d.tmod 3600000000000 < 3600000000000 ∧ -3600000000000 < d.tmod 3600000000000 :=
  ⟨(Int.tdiv_mul_add_tmod d _).symm, Int.tmod_lt_of_pos d (by norm_num),
    Int.lt_tmod_of_pos d (by norm_num)⟩

/-- The number of days of a duration is computed with three roundings. -/
lemma exists_days {d : ℤ} (hlow : minInt64 ≤ d) (hhigh : d ≤ maxInt64) :
    ∃ w u v : ℚ, Rounds ((d.tmod hour : ℤ) / 3600000000000) w ∧ Rounds ((d.tdiv hour : ℤ) + w) u ∧
      Rounds (u / 24) v ∧ ∀ n : ℤ, ceilToInt (durationHours d / 24) ≤ n ↔ v ≤ n := by
  have hhour : @Eq ℤ hour 3600000000000 := rfl
  unfold minInt64 at hlow
  unfold maxInt64 at hhigh
  obtain ⟨hsplit, hr, hr'⟩ := tdiv_hour_add_tmod d
  have hquot : |d.tdiv hour| < 2 ^ 53 := by
    rw [hhour, abs_lt]
    omega
  have hrem : |d.tmod hour| < 2 ^ 53 := by
    rw [hhour, abs_lt]
    omega
  obtain ⟨w, hw, hw'⟩ := (denotes_ofInt hrem).div denotes_hour (by norm_num) (by norm_num)
  obtain ⟨u, hu, hu'⟩ := ((denotes_ofInt hquot).mono (by norm_num)).add hw (by norm_num)
  obtain ⟨v, hv, hv'⟩ :=
    hu.div (denotes_twentyFour.mono (by norm_num)) (by norm_num) (by norm_num)
  exact ⟨w, u, v, hw', hu', hv', ceilToInt_le_iff hv⟩

section

variable {d h r n : ℤ} {w u v : ℚ}

/-- At most `n` days are computed as at most `n` days. -/
lemma days_le (hn : -1 ≤ n) (hn' : n ≤ 30) (hd : d = h * 3600000000000 + r)
    (hr : r < 3600000000000) (hr' : -3600000000000 < r) (hw : Rounds (r / 3600000000000) w)
    (hu : Rounds (h + w) u) (hv : Rounds (u / 24) v) (hle : d ≤ n * 86400000000000) : v ≤ n := by
  have hsum : h + w ≤ ((24 * n : ℤ) : ℚ) := by
    rcases lt_or_ge h (24 * n) with hearly | hlast
    · have hone : w ≤ ((1 : ℤ) : ℚ) := by
        refine (hw _ (representable_int (by norm_num))).2 ?_
        rw [div_le_iff₀ (by norm_num)]
        have : (r : ℚ) ≤ 3600000000000 := by exact_mod_cast hr.le
        push_cast
        linarith
      have hh : h + (1 : ℤ) ≤ 24 * n := hearly
      have hh' : (h : ℚ) + ((1 : ℤ) : ℚ) ≤ ((24 * n : ℤ) : ℚ) := by exact_mod_cast hh
      linarith
    · -- the last hour has not begun
      have hhour : h = 24 * n := by omega
      have hzero : w ≤ ((0 : ℤ) : ℚ) := by
        refine (hw _ (representable_int (by norm_num))).2 ?_
        rw [div_le_iff₀ (by norm_num)]
        have : (r : ℚ) ≤ 0 := by
          have : r ≤ 0 := by omega
          exact_mod_cast this
        push_cast
        linarith
      rw [Int.cast_zero] at hzero
      rw [← hhour]
      linarith
  have hu' : u ≤ ((24 * n : ℤ) : ℚ) :=
    (hu _ (representable_int (abs_lt.mpr (by omega)))).2 hsum
  refine (hv _ (representable_int (abs_lt.mpr (by omega)))).2 ?_
  rw [div_le_iff₀ (by norm_num)]
  push_cast at hu'
  linarith

/-- More than `n` days are computed as more than `n` days. -/
lemma lt_days (hn : -1 ≤ n) (hn' : n ≤ 30) (hd : d = h * 3600000000000 + r)
    (hr : r < 3600000000000) (hr' : -3600000000000 < r) (hw : Rounds (r / 3600000000000) w)
    (hu : Rounds (h + w) u) (hv : Rounds (u / 24) v) (hlt : n * 86400000000000 < d) : n < v := by
  have hsum : ((24 * n * 2 ^ 42 + 1 : ℤ) : ℚ) / 2 ^ 42 ≤ h + w := by
    have hsplit : ((24 * n * 2 ^ 42 + 1 : ℤ) : ℚ) / 2 ^ 42 = 24 * n + 1 / 2 ^ 42 := by
      push_cast
      ring
    rw [hsplit]
    rcases le_or_gt h (24 * n) with hfirst | hlate
    · -- a nanosecond of the first hour has passed
      have hhour : h = 24 * n := by omega
      have hone : ((1 : ℤ) : ℚ) / 2 ^ 42 ≤ w := by
        refine (hw _ (representable_div 42 (by norm_num))).1 ?_
        rw [div_le_div_iff₀ (by norm_num) (by norm_num)]
        have : (1 : ℚ) ≤ r := by
          have : 1 ≤ r := by omega
          exact_mod_cast this
        norm_num
        linarith
      have hhour' : (h : ℚ) = 24 * n := by exact_mod_cast hhour
      rw [hhour']
      push_cast at hone
      linarith
    · have hw' : ((1 - 2 ^ 42 : ℤ) : ℚ) / 2 ^ 42 ≤ w := by
        refine (hw _ (representable_div 42 (by norm_num))).1 ?_
        rw [div_le_div_iff₀ (by norm_num) (by norm_num)]
        have : (-3600000000000 : ℚ) + 1 ≤ r := by
          have : -3600000000000 + 1 ≤ r := by omega
          exact_mod_cast this
        norm_num
        linarith
      have hh : (24 * n + 1 : ℚ) ≤ h := by
        have : 24 * n + 1 ≤ h := by omega
        exact_mod_cast this
      push_cast at hw'
      linarith
  have hu' := (hu _ (representable_div 42 (abs_lt.mpr (by omega)))).1 hsum
  have hdays : ((n * 2 ^ 47 + 1 : ℤ) : ℚ) / 2 ^ 47 ≤ v := by
    refine (hv _ (representable_div 47 (abs_lt.mpr (by omega)))).1 ?_
    rw [le_div_iff₀ (by norm_num)]
    refine le_trans ?_ hu'
    push_cast
    linarith
  push_cast at hdays
  linarith

end

/-- The number of days is exact for durations around a month. -/
theorem ceilToInt_durationHours_le_iff {d n : ℤ} (hlow : minInt64 ≤ d) (hhigh : d ≤ maxInt64)
    (hn : -1 ≤ n) (hn' : n ≤ 30) :
    ceilToInt (durationHours d / 24) ≤ n ↔ d ≤ n * (24 * hour) := by
  have hhour : @Eq ℤ hour 3600000000000 := rfl
  have hday : @Eq ℤ (n * (24 * hour)) (n * 86400000000000) := rfl
  obtain ⟨hsplit, hr, hr'⟩ := tdiv_hour_add_tmod d
  obtain ⟨w, u, v, hw, hu, hv, hceil⟩ := exists_days hlow hhigh
  rw [hhour] at hw hu
  rw [hceil, hday]
  constructor
  · intro hle
    by_contra hlt
    have := lt_days hn hn' hsplit hr hr' hw hu hv (not_le.mp hlt)
    exact absurd hle (not_le.mpr this)
  · exact days_le hn hn' hsplit hr hr' hw hu hv

/-! ## Windows -/

/-- The number of days until an expiry, rounded up. -/
def daysLeft (expiresAt now : Time) : ℤ := ceilToInt (durationHours (sub expiresAt now) / 24)

/-- The twenty-four hours that start a number of days before an expiry. -/
def InWindow (expiresAt : Time) (days : ℤ) (now : Time) : Prop :=
  expiresAt - days * (24 * hour) ≤ now ∧ now < expiresAt - (days - 1) * (24 * hour)

instance (expiresAt : Time) (days : ℤ) (now : Time) : Decidable (InWindow expiresAt days now) :=
  inferInstanceAs (Decidable (_ ∧ _))

lemma daysLeft_le_iff {expiresAt now : Time} {n : ℤ} (hn : -1 ≤ n) (hn' : n ≤ 30) :
    daysLeft expiresAt now ≤ n ↔ expiresAt - now ≤ n * (24 * hour) := by
  have hrange : minInt64 ≤ sub expiresAt now ∧ sub expiresAt now ≤ maxInt64 :=
    ⟨le_max_left _ _, max_le (by decide) (min_le_left _ _)⟩
  have hbound : minInt64 < n * (24 * hour) + 1 ∧ n * (24 * hour) + 1 ≤ maxInt64 := by
    have hday : @Eq ℤ (n * (24 * hour)) (n * 86400000000000) := rfl
    rw [hday, minInt64, maxInt64]
    constructor <;> omega
  rw [daysLeft, ceilToInt_durationHours_le_iff hrange.1 hrange.2 hn hn', ← Int.lt_add_one_iff,
    sub_lt_iff hbound.1 hbound.2, Int.lt_add_one_iff]

/-- The engine counts a number of days left exactly in the window of this number. -/
theorem daysLeft_eq_iff {expiresAt now : Time} {days : ℤ} (hdays : 0 ≤ days) (hdays' : days ≤ 30) :
    daysLeft expiresAt now = days ↔ InWindow expiresAt days now := by
  have hle : daysLeft expiresAt now ≤ days ↔ expiresAt - now ≤ days * (24 * hour) :=
    daysLeft_le_iff (by omega) hdays'
  have hlt : daysLeft expiresAt now ≤ days - 1 ↔ expiresAt - now ≤ (days - 1) * (24 * hour) :=
    daysLeft_le_iff (by omega) (by omega)
  unfold InWindow
  constructor
  · intro heq
    have hupper := hle.mp heq.le
    have hlower := mt hlt.mpr (by omega)
    constructor
    · linarith
    · linarith [not_le.mp hlower]
  · rintro ⟨hupper, hlower⟩
    have hle' := hle.mpr (by linarith)
    have hlt' := mt hlt.mp (not_le.mpr (by linarith))
    omega

end Hostpin
