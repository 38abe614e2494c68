import Hostpin.Foundation.Clock

/-!
# The proleptic Gregorian calendar

Days are counted from January 1 of year 1, which is day zero.  `ofDate` gives the number of the day
with a year, a month and a day of the month; like the usual time libraries it accepts months and
days outside their ranges and carries them over.  `year`, `month` and `day` read a date back from
the number of a day.
-/

namespace Calendar

open Clock

/-- Whether a year is a leap year. -/
def isLeap (year : ℤ) : Bool := year % 4 == 0 && (year % 100 != 0 || year % 400 == 0)

/-- The number of days between day zero and the first day of a year. -/
def daysBeforeYear (year : ℤ) : ℤ :=
  365 * (year - 1) + (year - 1) / 4 - (year - 1) / 100 + (year - 1) / 400

/-- The number of days of a year before its months, with January first. -/
def daysBeforeMonths (year : ℤ) : List ℤ :=
  if isLeap year then [0, 31, 60, 91, 121, 152, 182, 213, 244, 274, 305, 335]
  else [0, 31, 59, 90, 120, 151, 181, 212, 243, 273, 304, 334]

/-- The number of days of a year before a month, counted from zero. -/
def daysBeforeMonth (year : ℤ) (month : ℕ) : ℤ := (daysBeforeMonths year).getD month 0

/-- The number of a day; months and days outside their ranges are carried over. -/
def ofDate (year month day : ℤ) : ℤ :=
  let carried := year + (month - 1) / 12
  daysBeforeYear carried + daysBeforeMonth carried ((month - 1) % 12).toNat + (day - 1)

/-- The year of a day, counted in cycles of 400, 100, 4 years and one year. -/
def year (d : ℤ) : ℤ :=
  let n400 := d / 146097
  let r400 := d % 146097
  let n100 := min 3 (r400 / 36524)
  let r100 := r400 - 36524 * n100
  let n4 := r100 / 1461
  let r4 := r100 % 1461
  let n1 := min 3 (r4 / 365)
  400 * n400 + 100 * n100 + 4 * n4 + n1 + 1

/-- The day of the year, counted from zero. -/
def yearDay (d : ℤ) : ℤ := d - daysBeforeYear (year d)

/-- The month of a day, counted from one. -/
def month (d : ℤ) : ℤ :=
  ((daysBeforeMonths (year d)).countP fun before => before ≤ yearDay d : ℕ)

/-- The day of the month, counted from one. -/
def day (d : ℤ) : ℤ := yearDay d - daysBeforeMonth (year d) (month d - 1).toNat + 1

/-- The day of an instant. -/
def dayOf (t : Time) : ℤ := t / (24 * hour)

/-- The first instant of a day. -/
def midnight (d : ℤ) : Time := d * (24 * hour)

example : (year (ofDate 2028 2 29), month (ofDate 2028 2 29), day (ofDate 2028 2 29)) =
    (2028, 2, 29) := by decide

example : ofDate 1970 1 1 * (24 * hour) = unixEpoch := by decide

end Calendar
