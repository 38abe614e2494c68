import Hostpin.Foundation.Months
import Hostpin.Traffic.Tracker

/-!
# The billing periods

A reset day divides time into billing periods.  In every month one boundary falls on the reset day,
or on the last day of a month that is too short for it (`resetBoundary`).  `trafficPeriodStart` is
the latest boundary up to an instant (`trafficPeriodStart_spec`), read from the calendar as
`latest_resetBoundary` says.

The start of a period begins its own period, except for the zero instant: a reset day of 1 makes
January 1 of year 1 the start of a period, but as an argument the zero instant stands for the
present (`trafficPeriodStart_zeroInstant`).
-/

namespace Hostpin

open Clock Calendar

/-! ## Days and instants -/

lemma midnight_le_iff {d : ℤ} {t : Time} : midnight d ≤ t ↔ d ≤ dayOf t := by
  have hday : (0 : ℤ) < 24 * hour := by decide
  exact (Int.le_ediv_iff_mul_le hday).symm

lemma lt_midnight_iff {d : ℤ} {t : Time} : t < midnight d ↔ dayOf t < d := by
  rw [← not_le, midnight_le_iff, not_le]

@[simp] lemma dayOf_midnight (d : ℤ) : dayOf (midnight d) = d := by
  have hday : (24 * hour : ℤ) ≠ 0 := by decide
  exact Int.mul_ediv_cancel d hday

lemma midnight_lt_midnight_iff {d e : ℤ} : midnight d < midnight e ↔ d < e := by
  rw [lt_midnight_iff, dayOf_midnight]

/-! ## The boundary of a month -/

/-- The last day of a month, read off the day before the next one, is the length of the month. -/
lemma daysInMonth_eq (year month : ℤ) :
    daysInMonth year month = monthLength (monthNumber year month) := by
  set n := monthNumber year month with hn
  have hnext : monthNumber year (month + 1) = n + 1 := by
    rw [hn]
    unfold monthNumber
    ring
  have hlast : ofDate year (month + 1) 0 = monthStart (n + 1) - 1 := by
    rw [ofDate_eq, hnext]
    ring
  have hmonth : monthOf (monthStart (n + 1) - 1) = n := by
    have hstep : monthStart n < monthStart (n + 1) := monthStart_strictMono (by omega)
    exact monthOf_eq_iff.mpr (by omega)
  rw [daysInMonth, hlast, day_eq, hmonth, monthLength]
  ring

/-- The days of the months of a year. -/
theorem daysInMonth_table (year : ℤ) {k : ℕ} (hk : k < 12) :
    daysInMonth year (k + 1) = (monthLengths year).getD k 0 := by
  have hnumber : monthNumber year (k + 1) = 12 * year + k := by
    unfold monthNumber
    ring
  rw [daysInMonth_eq, hnumber, monthLength_eq year hk]

/-- The reset day that a configured one stands for. -/
def effectiveResetDay (resetDay : ℤ) : ℤ := if 1 ≤ resetDay ∧ resetDay ≤ 31 then resetDay else 1

lemma effectiveResetDay_pos (resetDay : ℤ) : 1 ≤ effectiveResetDay resetDay := by
  unfold effectiveResetDay
  split <;> omega

/-- The day of the boundary of a month. -/
def resetBoundary (resetDay n : ℤ) : ℤ := monthStart n + min resetDay (monthLength n) - 1

section

variable {resetDay : ℤ} (hreset : 1 ≤ resetDay)

include hreset

/-- The boundary of a month lies in the month. -/
lemma monthOf_resetBoundary (n : ℤ) : monthOf (resetBoundary resetDay n) = n := by
  have hlength := (monthLength_bounds n).1
  have hnext : monthStart (n + 1) = monthStart n + monthLength n := by
    unfold monthLength
    ring
  refine monthOf_eq_iff.mpr ?_
  unfold resetBoundary
  omega

lemma resetBoundary_strictMono : StrictMono (resetBoundary resetDay) := by
  refine strictMono_int_of_lt_succ fun n => ?_
  have hlow := (monthOf_spec (resetBoundary resetDay n)).2
  have hhigh := (monthOf_spec (resetBoundary resetDay (n + 1))).1
  rw [monthOf_resetBoundary hreset] at hlow hhigh
  exact lt_of_lt_of_le hlow hhigh

end

/-- The boundary of a month of a year, as a date. -/
lemma ofDate_resetBoundary (resetDay year month : ℤ) :
    ofDate year month (min resetDay (daysInMonth year month)) =
      resetBoundary resetDay (monthNumber year month) := by
  rw [ofDate_eq, daysInMonth_eq, resetBoundary]
  ring

/-! ## Boundaries read from the calendar -/

/-- An instant is a reset boundary when it is the midnight of the reset day of its month, or of the
last day of a month that is shorter. -/
def IsResetBoundary (resetDay : ℤ) (b : Time) : Prop :=
  b = midnight (dayOf b) ∧
    day (dayOf b) = min resetDay (daysInMonth (year (dayOf b)) (month (dayOf b)))

lemma isResetBoundary_iff {resetDay : ℤ} (hreset : 1 ≤ resetDay) (b : Time) :
    IsResetBoundary resetDay b ↔ ∃ n, b = midnight (resetBoundary resetDay n) := by
  constructor
  · rintro ⟨hmidnight, hday⟩
    refine ⟨monthOf (dayOf b), ?_⟩
    have hdate := ofDate_year_month_day (dayOf b)
    rw [hday, ofDate_resetBoundary, ← monthOf] at hdate
    rw [hdate, ← hmidnight]
  · rintro ⟨n, rfl⟩
    rw [IsResetBoundary, dayOf_midnight, daysInMonth_eq, ← monthOf, day_eq,
      monthOf_resetBoundary hreset]
    refine ⟨rfl, ?_⟩
    unfold resetBoundary
    ring

/-- Two boundaries without another one between them are one calendar month apart. -/
lemma consecutive_resetBoundary {resetDay : ℤ} (hreset : 1 ≤ resetDay) {b b' : Time}
    (hb : IsResetBoundary resetDay b) (hb' : IsResetBoundary resetDay b') (hlt : b < b')
    (hnone : ∀ c, IsResetBoundary resetDay c → b < c → b' ≤ c) :
    (year (dayOf b'), month (dayOf b')) =
      if month (dayOf b) = 12 then (year (dayOf b) + 1, 1)
      else (year (dayOf b), month (dayOf b) + 1) := by
  obtain ⟨n, rfl⟩ := (isResetBoundary_iff hreset b).mp hb
  obtain ⟨n', rfl⟩ := (isResetBoundary_iff hreset b').mp hb'
  have hmono := resetBoundary_strictMono hreset
  have hafter : n < n' := hmono.lt_iff_lt.mp (midnight_lt_midnight_iff.mp hlt)
  have hnext := hnone (midnight (resetBoundary resetDay (n + 1)))
    ((isResetBoundary_iff hreset _).mpr ⟨n + 1, rfl⟩)
    (midnight_lt_midnight_iff.mpr (hmono (by omega)))
  rw [midnight_le_iff, dayOf_midnight, hmono.le_iff_le] at hnext
  obtain rfl : n' = n + 1 := by omega
  obtain ⟨hyear, hmonth⟩ := year_month_of_monthOf (resetBoundary resetDay n)
  obtain ⟨hyear', hmonth'⟩ := year_month_of_monthOf (resetBoundary resetDay (n + 1))
  rw [monthOf_resetBoundary hreset] at hyear hmonth hyear' hmonth'
  simp only [dayOf_midnight, hyear, hmonth, hyear', hmonth']
  split
  · rw [Prod.mk.injEq]
    omega
  · rw [Prod.mk.injEq]
    omega

/-! ## The start of a period -/

/-- The start of the period of an instant is the boundary of a month, and the instant lies before
the boundary of the next one. -/
theorem trafficPeriodStart_spec {t : Time} (ht : t ≠ 0) (resetDay : ℤ) (clock : Time) :
    ∃ n, trafficPeriodStart t resetDay clock =
        midnight (resetBoundary (effectiveResetDay resetDay) n) ∧
      midnight (resetBoundary (effectiveResetDay resetDay) n) ≤ t ∧
      t < midnight (resetBoundary (effectiveResetDay resetDay) (n + 1)) := by
  have hreset := effectiveResetDay_pos resetDay
  have hzero : isZero t = false := by simpa [isZero] using ht
  have hinvalid : (if resetDay < 1 || 31 < resetDay then 1 else resetDay) =
      effectiveResetDay resetDay := by
    unfold effectiveResetDay
    by_cases hvalid : 1 ≤ resetDay ∧ resetDay ≤ 31
    · rw [if_neg (by simp; omega), if_pos hvalid]
    · rw [if_pos (by simp; omega), if_neg hvalid]
  have hprevious : monthNumber (year (dayOf t)) (month (dayOf t)) - 1 =
      if month (dayOf t) - 1 < 1 then monthNumber (year (dayOf t) - 1) 12
      else monthNumber (year (dayOf t)) (month (dayOf t) - 1) := by
    obtain ⟨k, hk, hmonth, -, -⟩ := month_spec (dayOf t)
    unfold monthNumber
    split <;> omega
  have hmonthOf : monthNumber (year (dayOf t)) (month (dayOf t)) = monthOf (dayOf t) := rfl
  unfold trafficPeriodStart
  simp only [hzero, Bool.false_eq_true, if_false, hinvalid, ofDate_resetBoundary, hmonthOf]
  rw [hmonthOf] at hprevious
  by_cases hbefore : t < midnight (resetBoundary (effectiveResetDay resetDay) (monthOf (dayOf t)))
  · -- the boundary of the month is still to come, so the period began in the month before
    refine ⟨monthOf (dayOf t) - 1, ?_, ?_, by rwa [sub_add_cancel]⟩
    · rw [if_pos hbefore, hprevious]
      by_cases hjanuary : month (dayOf t) - 1 < 1
      · simp only [if_pos hjanuary]
      · simp only [if_neg hjanuary]
    · have hlast := (monthOf_spec
        (resetBoundary (effectiveResetDay resetDay) (monthOf (dayOf t) - 1))).2
      have hfirst := (monthOf_spec (dayOf t)).1
      rw [monthOf_resetBoundary hreset, sub_add_cancel] at hlast
      exact midnight_le_iff.mpr (by omega)
  · refine ⟨monthOf (dayOf t), by rw [if_neg hbefore], not_lt.mp hbefore, ?_⟩
    have hlast := (monthOf_spec (dayOf t)).2
    have hfirst := (monthOf_spec
      (resetBoundary (effectiveResetDay resetDay) (monthOf (dayOf t) + 1))).1
    rw [monthOf_resetBoundary hreset] at hfirst
    exact lt_midnight_iff.mpr (by omega)

/-- The start of the period of an instant is the latest reset boundary up to the instant: it is a
boundary, and no other one lies between it and the instant.  Later instants have later starts, a
start that is not the zero instant begins its own period, and consecutive boundaries are one
calendar month apart. -/
theorem latest_resetBoundary (t : Time) (ht : t ≠ 0) (resetDay : ℤ) (clock : Time) :
    IsResetBoundary (effectiveResetDay resetDay) (trafficPeriodStart t resetDay clock) ∧
      trafficPeriodStart t resetDay clock ≤ t ∧
      (∀ b, IsResetBoundary (effectiveResetDay resetDay) b →
        ¬(trafficPeriodStart t resetDay clock < b ∧ b ≤ t)) ∧
      (∀ (u : Time) (clock' : Time), u ≠ 0 → t ≤ u →
        trafficPeriodStart t resetDay clock ≤ trafficPeriodStart u resetDay clock') ∧
      (∀ clock' : Time, trafficPeriodStart t resetDay clock ≠ 0 →
        trafficPeriodStart (trafficPeriodStart t resetDay clock) resetDay clock' =
          trafficPeriodStart t resetDay clock) ∧
      ∀ b b', IsResetBoundary (effectiveResetDay resetDay) b →
        IsResetBoundary (effectiveResetDay resetDay) b' → b < b' →
        (∀ c, IsResetBoundary (effectiveResetDay resetDay) c → b < c → b' ≤ c) →
        (year (dayOf b'), month (dayOf b')) =
          if month (dayOf b) = 12 then (year (dayOf b) + 1, 1)
          else (year (dayOf b), month (dayOf b) + 1) := by
  have hreset := effectiveResetDay_pos resetDay
  have hmono := resetBoundary_strictMono hreset
  obtain ⟨n, hstart, hle, hlt⟩ := trafficPeriodStart_spec ht resetDay clock
  rw [hstart]
  refine ⟨(isResetBoundary_iff hreset _).mpr ⟨n, rfl⟩, hle, ?_, ?_, ?_, ?_⟩
  · rintro b hb ⟨hafter, hupto⟩
    obtain ⟨k, rfl⟩ := (isResetBoundary_iff hreset b).mp hb
    have hlow : n < k := hmono.lt_iff_lt.mp (midnight_lt_midnight_iff.mp hafter)
    have hhigh : k < n + 1 :=
      hmono.lt_iff_lt.mp (midnight_lt_midnight_iff.mp (lt_of_le_of_lt hupto hlt))
    omega
  · intro u clock' hu htu
    obtain ⟨k, hstart', -, hlt'⟩ := trafficPeriodStart_spec hu resetDay clock'
    rw [hstart']
    have hbound : n < k + 1 := hmono.lt_iff_lt.mp (midnight_lt_midnight_iff.mp
      (lt_of_le_of_lt (hle.trans htu) hlt'))
    rw [midnight_le_iff, dayOf_midnight]
    exact hmono.monotone (by omega)
  · intro clock' hnonzero
    obtain ⟨k, hstart', hle', hlt'⟩ := trafficPeriodStart_spec hnonzero resetDay clock'
    rw [midnight_le_iff, dayOf_midnight, hmono.le_iff_le] at hle'
    rw [midnight_lt_midnight_iff, hmono.lt_iff_lt] at hlt'
    obtain rfl : k = n := by omega
    exact hstart'
  · intro b b' hb hb' hbefore hnone
    exact consecutive_resetBoundary hreset hb hb' hbefore hnone

theorem latest_resetBoundary_unixEpoch :
    trafficPeriodStart unixEpoch 31 0 ≤ unixEpoch :=
  (latest_resetBoundary unixEpoch (by decide) 31 0).2.1

/-- On the second day of year 1 the period began at the zero instant, which as an argument stands
for the present. -/
theorem trafficPeriodStart_zeroInstant :
    (24 * hour : Time) ≠ 0 ∧ trafficPeriodStart (24 * hour) 1 unixEpoch = 0 ∧
      trafficPeriodStart (trafficPeriodStart (24 * hour) 1 unixEpoch) 1 unixEpoch ≠
        trafficPeriodStart (24 * hour) 1 unixEpoch := by
  decide

end Hostpin
