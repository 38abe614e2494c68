import Mathlib

/-!
# Instants, durations and 64-bit wrap-around

An instant is an integer number of nanoseconds counted from the zero instant (January 1 of
year 1, 00:00:00 UTC), and a duration is a signed 64-bit number of nanoseconds.  Two operations
differ from the integer ones: the difference of two instants saturates at the bounds of a
64-bit integer, and a product of a count and a unit wraps around.

The lemmas below say when the difference, the product and the conversion to milliseconds may be
read as the integer operations.
-/

/-- An instant, in nanoseconds since the zero instant. -/
abbrev Time := ℤ

/-- A duration, in nanoseconds. -/
abbrev Duration := ℤ

namespace Clock

/-- The least signed 64-bit integer. -/
def minInt64 : ℤ := -9223372036854775808

/-- The greatest signed 64-bit integer. -/
def maxInt64 : ℤ := 9223372036854775807

/-- Two's complement reduction of an integer to 64 bits. -/
def wrap64 (n : ℤ) : ℤ := n.bmod 18446744073709551616

/-- One millisecond. -/
def millisecond : Duration := 1000000

/-- One second. -/
def second : Duration := 1000000000

/-- One minute. -/
def minute : Duration := 60000000000

/-- One hour. -/
def hour : Duration := 3600000000000

/-- The zero instant is the default value of an instant. -/
def isZero (t : Time) : Bool := t == 0

/-- The difference of two instants, saturated at the bounds of a duration. -/
def sub (t u : Time) : Duration := max minInt64 (min maxInt64 (t - u))

/-- A count of units as a duration: the product wraps around at 64 bits. -/
def scale (count : ℤ) (unit : Duration) : Duration := wrap64 (count * unit)

/-- The instant 1970-01-01T00:00:00Z. -/
def unixEpoch : Time := 62135596800000000000

/-- Milliseconds since the Unix epoch, rounded down. -/
def unixMilli (t : Time) : ℤ := (t - unixEpoch) / millisecond

/-- The instant a number of milliseconds after the Unix epoch. -/
def ofUnixMilli (ms : ℤ) : Time := unixEpoch + ms * millisecond

/-- An instant is zero exactly when it is the zero instant. -/
@[simp] lemma isZero_iff {t : Time} : isZero t = true ↔ t = 0 := by
  simp [isZero]

/-! ## Saturating differences -/

/-- A saturated difference is below a bound inside the 64-bit range exactly when the exact
difference is. -/
lemma sub_lt_iff {t u : Time} {d : Duration} (hlo : minInt64 < d) (hhi : d ≤ maxInt64) :
    sub t u < d ↔ t - u < d := by
  rw [sub, max_lt_iff, min_lt_iff]
  constructor
  · rintro ⟨-, h | h⟩
    · exact absurd h (not_lt.mpr hhi)
    · exact h
  · exact fun h => ⟨hlo, Or.inr h⟩

/-- A saturated difference reaches a bound inside the 64-bit range exactly when the exact
difference does. -/
lemma le_sub_iff {t u : Time} {d : Duration} (hlo : minInt64 < d) (hhi : d ≤ maxInt64) :
    d ≤ sub t u ↔ d ≤ t - u := by
  rw [← not_lt, sub_lt_iff hlo hhi, not_lt]

/-- The difference to an earlier instant reaches a duration exactly when the exact difference
does. -/
lemma le_sub_iff_of_le {t u : Time} {d : Duration} (hhi : d ≤ maxInt64) (hle : u ≤ t) :
    d ≤ sub t u ↔ d ≤ t - u := by
  have hpositive : minInt64 ≤ t - u := le_trans (by decide) (Int.sub_nonneg_of_le hle)
  rw [sub, max_eq_right (le_min (by decide) hpositive), le_min_iff]
  exact and_iff_right hhi

/-- The difference to an earlier instant is exact when it is a duration. -/
lemma sub_eq_of_le {t u : Time} (hle : u ≤ t) (hhi : t - u ≤ maxInt64) : sub t u = t - u := by
  have hpositive : minInt64 ≤ t - u := le_trans (by decide) (Int.sub_nonneg_of_le hle)
  rw [sub, min_eq_right hhi, max_eq_right hpositive]

/-! ## Wrapping products -/

/-- Reduction to 64 bits leaves a 64-bit integer unchanged. -/
lemma wrap64_eq_self {n : ℤ} (hlo : minInt64 ≤ n) (hhi : n ≤ maxInt64) : wrap64 n = n := by
  unfold minInt64 at hlo
  unfold maxInt64 at hhi
  unfold wrap64
  rw [Int.bmod_def]
  split <;> omega

/-- A count of seconds up to 292 years is a duration. -/
lemma seconds_mem_range {n : ℤ} (hlo : 0 ≤ n) (hhi : n ≤ 9223372036) :
    minInt64 < n * second ∧ n * second ≤ maxInt64 := by
  constructor <;> simp only [minInt64, maxInt64, second] <;> omega

/-- A count of seconds up to 292 years scales without wrap-around. -/
lemma scale_second {n : ℤ} (hlo : 0 ≤ n) (hhi : n ≤ 9223372036) :
    scale n second = n * second :=
  wrap64_eq_self (seconds_mem_range hlo hhi).1.le (seconds_mem_range hlo hhi).2

/-! ## Milliseconds -/

/-- Converting milliseconds to an instant and back loses nothing. -/
@[simp] lemma unixMilli_ofUnixMilli (ms : ℤ) : unixMilli (ofUnixMilli ms) = ms := by
  simp [unixMilli, ofUnixMilli, millisecond]

/-- Distinct milliseconds are distinct instants. -/
lemma ofUnixMilli_injective : Function.Injective ofUnixMilli :=
  Function.LeftInverse.injective unixMilli_ofUnixMilli

end Clock
