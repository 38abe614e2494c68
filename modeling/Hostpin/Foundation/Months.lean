import Hostpin.Foundation.Calendar

/-!
# Months

The months are numbered one after the other, over all years.  `monthStart` is the first day of a
month and `monthOf` the month of a day.  Every day lies in exactly one month (`monthOf_eq_iff`), so
the year, the month and the day of the month that the calendar reads from a day are those that give
the day (`ofDate_year_month_day`).

* `daysBeforeYear_succ` and `monthLength_eq` are the rule for leap years and the lengths of the
  months.
* `year_eq_iff` and `monthOf_eq_iff` say which year and which month a day lies in.
-/

namespace Calendar

/-! ## Years -/

/-- The days before a year that is given by its cycles of 400, 100, 4 years and one year. -/
lemma daysBeforeYear_cycles {n400 n100 n4 n1 : ℤ} (h100 : 0 ≤ n100 ∧ n100 ≤ 3)
    (h4 : 0 ≤ n4 ∧ n4 ≤ 24) (h1 : 0 ≤ n1 ∧ n1 ≤ 3) :
    daysBeforeYear (400 * n400 + 100 * n100 + 4 * n4 + n1 + 1) =
      146097 * n400 + 36524 * n100 + 1461 * n4 + 365 * n1 := by
  have hfour : (400 * n400 + 100 * n100 + 4 * n4 + n1 + 1 - 1) / 4 =
      100 * n400 + 25 * n100 + n4 := by omega
  have hhundred : (400 * n400 + 100 * n100 + 4 * n4 + n1 + 1 - 1) / 100 =
      4 * n400 + n100 := by omega
  have hfourHundred : (400 * n400 + 100 * n100 + 4 * n4 + n1 + 1 - 1) / 400 = n400 := by omega
  rw [daysBeforeYear, hfour, hhundred, hfourHundred]
  ring

/-- The cycles of the year of a day.  Only the last year of four can have 366 days, and the last
one of a century only when the century is the last one of four. -/
lemma exists_cycles (d : ℤ) : ∃ n400 n100 n4 n1 : ℤ, (0 ≤ n100 ∧ n100 ≤ 3) ∧ (0 ≤ n4 ∧ n4 ≤ 24) ∧
    (0 ≤ n1 ∧ n1 ≤ 3) ∧ year d = 400 * n400 + 100 * n100 + 4 * n4 + n1 + 1 ∧
    146097 * n400 + 36524 * n100 + 1461 * n4 + 365 * n1 ≤ d ∧
    (d < 146097 * n400 + 36524 * n100 + 1461 * n4 + 365 * n1 + 365 ∨
      n1 = 3 ∧ (n4 = 24 → n100 = 3) ∧
        d < 146097 * n400 + 36524 * n100 + 1461 * n4 + 365 * n1 + 366) := by
  unfold year
  dsimp only
  refine ⟨d / 146097, min 3 (d % 146097 / 36524),
    (d % 146097 - 36524 * min 3 (d % 146097 / 36524)) / 1461,
    min 3 ((d % 146097 - 36524 * min 3 (d % 146097 / 36524)) % 1461 / 365), ?_, ?_, ?_, rfl, ?_, ?_⟩
  all_goals omega

/-- A year has 365 days, or 366 when it is a leap year. -/
lemma daysBeforeYear_succ (y : ℤ) :
    daysBeforeYear (y + 1) = daysBeforeYear y + if isLeap y then 366 else 365 := by
  unfold daysBeforeYear isLeap
  by_cases h4 : y % 4 = 0 <;> by_cases h100 : y % 100 = 0 <;> by_cases h400 : y % 400 = 0 <;>
    simp [h4, h100, h400] <;> omega

lemma daysBeforeYear_strictMono : StrictMono daysBeforeYear := by
  refine strictMono_int_of_lt_succ fun y => ?_
  rw [daysBeforeYear_succ]
  split_ifs <;> omega

/-- The fourth year of a cycle is a leap year, unless it ends a century that is not the last one of
four. -/
lemma isLeap_cycles {n400 n100 n4 : ℤ} (h4 : 0 ≤ n4 ∧ n4 ≤ 24)
    (hcentury : n4 = 24 → n100 = 3) :
    isLeap (400 * n400 + 100 * n100 + 4 * n4 + 3 + 1) = true := by
  have hfour : (400 * n400 + 100 * n100 + 4 * n4 + 3 + 1) % 4 = 0 := by omega
  unfold isLeap
  by_cases hlast : n4 = 24
  · have hfourHundred : (400 * n400 + 100 * n100 + 4 * n4 + 3 + 1) % 400 = 0 := by
      have := hcentury hlast
      omega
    simp [hfour, hfourHundred]
  · have hhundred : (400 * n400 + 100 * n100 + 4 * n4 + 3 + 1) % 100 ≠ 0 := by omega
    simp [hfour, hhundred]

/-- A day lies in its year. -/
lemma year_spec (d : ℤ) : daysBeforeYear (year d) ≤ d ∧ d < daysBeforeYear (year d + 1) := by
  obtain ⟨n400, n100, n4, n1, h100, h4, h1, hyear, hlow, hhigh⟩ := exists_cycles d
  rw [daysBeforeYear_succ, hyear, daysBeforeYear_cycles h100 h4 h1]
  refine ⟨hlow, ?_⟩
  rcases hhigh with hhigh | ⟨rfl, hcentury, hhigh⟩
  · have hlength : (365 : ℤ) ≤
        if isLeap (400 * n400 + 100 * n100 + 4 * n4 + n1 + 1) then 366 else 365 := by
      split <;> norm_num
    exact lt_of_lt_of_le hhigh (by gcongr)
  · rw [if_pos (isLeap_cycles h4 hcentury)]
    exact hhigh

/-- The year of a day is the one in which it lies. -/
lemma year_eq_iff {d y : ℤ} : year d = y ↔ daysBeforeYear y ≤ d ∧ d < daysBeforeYear (y + 1) := by
  constructor
  · rintro rfl
    exact year_spec d
  · rintro ⟨hlow, hhigh⟩
    obtain ⟨hlow', hhigh'⟩ := year_spec d
    have h : y < year d + 1 := daysBeforeYear_strictMono.lt_iff_lt.mp (lt_of_le_of_lt hlow hhigh')
    have h' : year d < y + 1 := daysBeforeYear_strictMono.lt_iff_lt.mp (lt_of_le_of_lt hlow' hhigh)
    omega

/-! ## Months of a year -/

/-- In an increasing list the elements up to a bound are the first ones. -/
lemma lt_countP_iff {l : List ℤ} (hl : l.Pairwise (· < ·)) (x : ℤ) {i : ℕ} (hi : i < l.length) :
    i < l.countP (fun a => a ≤ x) ↔ l[i] ≤ x := by
  induction l generalizing i with
  | nil => simp at hi
  | cons a l ih =>
    obtain ⟨hfirst, hrest⟩ := List.pairwise_cons.mp hl
    by_cases ha : a ≤ x
    · rw [List.countP_cons_of_pos (by simpa using ha)]
      cases i with
      | zero => simp [ha]
      | succ i => simpa using ih hrest (by simpa using hi)
    · have hnone : l.countP (fun a => decide (a ≤ x)) = 0 := by
        refine List.countP_eq_zero.mpr fun b hb => ?_
        have := hfirst b hb
        simpa using by omega
      rw [List.countP_cons_of_neg (by simpa using ha), hnone]
      cases i with
      | zero => simpa using ha
      | succ i =>
        have hi' : i < l.length := by simpa using hi
        have hlater := hfirst l[i] (List.getElem_mem hi')
        simpa using by omega

lemma length_daysBeforeMonths (y : ℤ) : (daysBeforeMonths y).length = 12 := by
  unfold daysBeforeMonths
  split <;> rfl

lemma pairwise_daysBeforeMonths (y : ℤ) : (daysBeforeMonths y).Pairwise (· < ·) := by
  unfold daysBeforeMonths
  split <;> decide

lemma daysBeforeMonth_eq (y : ℤ) {k : ℕ} (hk : k < (daysBeforeMonths y).length) :
    daysBeforeMonth y k = (daysBeforeMonths y)[k] := by
  rw [daysBeforeMonth, List.getD_eq_getElem _ _ hk]

@[simp] lemma daysBeforeMonth_zero (y : ℤ) : daysBeforeMonth y 0 = 0 := by
  unfold daysBeforeMonth daysBeforeMonths
  split <;> rfl

/-- The month of a day is one of twelve, and the last one that starts up to the day. -/
lemma month_spec (d : ℤ) : ∃ k : ℕ, k < 12 ∧ month d = k + 1 ∧
    daysBeforeMonth (year d) k ≤ yearDay d ∧
      (k + 1 < 12 → yearDay d < daysBeforeMonth (year d) (k + 1)) := by
  have hlength := length_daysBeforeMonths (year d)
  have hsorted := pairwise_daysBeforeMonths (year d)
  have hyear : 0 ≤ yearDay d := by have := (year_spec d).1; unfold yearDay; omega
  have hle : (daysBeforeMonths (year d)).countP (fun before => before ≤ yearDay d) ≤ 12 := by
    rw [← hlength]
    exact List.countP_le_length
  have hpos : 0 < (daysBeforeMonths (year d)).countP (fun before => before ≤ yearDay d) := by
    rw [lt_countP_iff hsorted _ (by omega), ← daysBeforeMonth_eq, daysBeforeMonth_zero]
    exact hyear
  unfold month
  generalize hcount : (daysBeforeMonths (year d)).countP (fun before => before ≤ yearDay d) = count
    at hle hpos
  refine ⟨count - 1, by omega, by omega, ?_, fun hk => ?_⟩
  · rw [daysBeforeMonth_eq _ (by omega), ← lt_countP_iff hsorted, hcount]
    omega
  · rw [daysBeforeMonth_eq _ (by omega), ← not_le, ← lt_countP_iff hsorted, hcount]
    omega

/-! ## Months of all years -/

/-- The number of a month of a year. -/
def monthNumber (year month : ℤ) : ℤ := 12 * year + (month - 1)

/-- The first day of a month. -/
def monthStart (n : ℤ) : ℤ := daysBeforeYear (n / 12) + daysBeforeMonth (n / 12) (n % 12).toNat

/-- The number of days of a month. -/
def monthLength (n : ℤ) : ℤ := monthStart (n + 1) - monthStart n

/-- The month of a day. -/
def monthOf (d : ℤ) : ℤ := monthNumber (year d) (month d)

/-- A date in terms of the first day of its month. -/
lemma ofDate_eq (year month day : ℤ) :
    ofDate year month day = monthStart (monthNumber year month) + (day - 1) := by
  have hdiv : monthNumber year month / 12 = year + (month - 1) / 12 := by
    unfold monthNumber
    omega
  have hmod : monthNumber year month % 12 = (month - 1) % 12 := by
    unfold monthNumber
    omega
  rw [ofDate, monthStart, hdiv, hmod]

/-- The first day of a month of a year. -/
lemma monthStart_eq (y : ℤ) {k : ℕ} (hk : k < 12) :
    monthStart (12 * y + k) = daysBeforeYear y + daysBeforeMonth y k := by
  have hdiv : (12 * y + k) / 12 = y := by omega
  have hmod : ((12 * y + k) % 12).toNat = k := by omega
  rw [monthStart, hdiv, hmod]

/-- The first day of a year. -/
lemma monthStart_year (y : ℤ) : monthStart (12 * y) = daysBeforeYear y := by
  have h := monthStart_eq y (k := 0) (by norm_num)
  rwa [Nat.cast_zero, add_zero, daysBeforeMonth_zero, add_zero] at h

/-- The lengths of the months of a year. -/
def monthLengths (y : ℤ) : List ℤ :=
  [31, if isLeap y then 29 else 28, 31, 30, 31, 30, 31, 31, 30, 31, 30, 31]

/-- The length of a month of a year. -/
lemma monthLength_eq (y : ℤ) {k : ℕ} (hk : k < 12) :
    monthLength (12 * y + k) = (monthLengths y).getD k 0 := by
  unfold monthLength
  rw [monthStart_eq y hk]
  by_cases hlast : k = 11
  · subst hlast
    have hnext : 12 * y + ((11 : ℕ) : ℤ) + 1 = 12 * (y + 1) := by push_cast; ring
    rw [hnext, monthStart_year, daysBeforeYear_succ]
    unfold daysBeforeMonth daysBeforeMonths monthLengths
    split <;> simp
  · have hnext : 12 * y + (k : ℤ) + 1 = 12 * y + ((k + 1 : ℕ) : ℤ) := by push_cast; ring
    rw [hnext, monthStart_eq y (by omega)]
    unfold daysBeforeMonth daysBeforeMonths monthLengths
    interval_cases k <;> split <;> simp_all

/-- A month has between 28 and 31 days. -/
lemma monthLength_bounds (n : ℤ) : 28 ≤ monthLength n ∧ monthLength n ≤ 31 := by
  obtain ⟨k, hk, hn⟩ : ∃ k : ℕ, k < 12 ∧ n = 12 * (n / 12) + k :=
    ⟨(n % 12).toNat, by omega, by omega⟩
  rw [hn, monthLength_eq _ hk, monthLengths]
  interval_cases k <;> simp <;> split <;> omega

lemma monthStart_strictMono : StrictMono monthStart := by
  refine strictMono_int_of_lt_succ fun n => ?_
  have h := (monthLength_bounds n).1
  unfold monthLength at h
  omega

/-- A day lies in its month. -/
lemma monthOf_spec (d : ℤ) : monthStart (monthOf d) ≤ d ∧ d < monthStart (monthOf d + 1) := by
  obtain ⟨k, hk, hmonth, hlow, hhigh⟩ := month_spec d
  have hnumber : monthOf d = 12 * year d + k := by rw [monthOf, monthNumber, hmonth]; ring
  rw [hnumber, monthStart_eq _ hk]
  unfold yearDay at hlow hhigh
  refine ⟨by omega, ?_⟩
  by_cases hlast : k = 11
  · subst hlast
    have hnext : 12 * year d + ((11 : ℕ) : ℤ) + 1 = 12 * (year d + 1) := by push_cast; ring
    rw [hnext, monthStart_year]
    exact (year_spec d).2
  · have hnext : 12 * year d + (k : ℤ) + 1 = 12 * year d + ((k + 1 : ℕ) : ℤ) := by push_cast; ring
    rw [hnext, monthStart_eq _ (by omega)]
    have := hhigh (by omega)
    omega

/-- The month of a day is the one in which it lies. -/
lemma monthOf_eq_iff {d n : ℤ} : monthOf d = n ↔ monthStart n ≤ d ∧ d < monthStart (n + 1) := by
  constructor
  · rintro rfl
    exact monthOf_spec d
  · rintro ⟨hlow, hhigh⟩
    obtain ⟨hlow', hhigh'⟩ := monthOf_spec d
    have h : n < monthOf d + 1 := monthStart_strictMono.lt_iff_lt.mp (lt_of_le_of_lt hlow hhigh')
    have h' : monthOf d < n + 1 := monthStart_strictMono.lt_iff_lt.mp (lt_of_le_of_lt hlow' hhigh)
    omega

/-- The day of the month counts from the first day of the month. -/
lemma day_eq (d : ℤ) : day d = d - monthStart (monthOf d) + 1 := by
  obtain ⟨k, hk, hmonth, -, -⟩ := month_spec d
  have hnumber : monthOf d = 12 * year d + k := by rw [monthOf, monthNumber, hmonth]; ring
  have hindex : (month d - 1).toNat = k := by omega
  rw [hnumber, monthStart_eq _ hk, day, hindex, yearDay]
  ring

/-- The year, the month and the day of the month that are read from a day give the day. -/
theorem ofDate_year_month_day (d : ℤ) : ofDate (year d) (month d) (day d) = d := by
  rw [ofDate_eq, day_eq, ← monthOf]
  ring

/-- The number of a month determines its year and the month in the year. -/
lemma year_month_of_monthOf (d : ℤ) : year d = monthOf d / 12 ∧ month d = monthOf d % 12 + 1 := by
  obtain ⟨k, hk, hmonth, -, -⟩ := month_spec d
  have hnumber : monthOf d = 12 * year d + k := by rw [monthOf, monthNumber, hmonth]; ring
  omega

end Calendar
