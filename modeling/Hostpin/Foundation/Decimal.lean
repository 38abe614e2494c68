import Hostpin.Foundation.Bytes

/-!
# Decimal numerals

Numbers as byte strings of decimal digits.  `numeral` writes a number without leading zeros, and
`atoi` reads a number that fits in a signed 64-bit word, with an optional sign.
-/

namespace Decimal

/-- Whether a byte is a decimal digit. -/
def isDigit (byte : UInt8) : Bool := 48 ≤ byte && byte ≤ 57

/-- The number that digits spell, most significant digit first. -/
def digitsValue (digits : Bytes) : ℕ :=
  digits.foldl (fun value digit => value * 10 + (digit.toNat - 48)) 0

/-- The digits of a number, without leading zeros. -/
def numeral (n : ℕ) : Bytes :=
  if n = 0 then [48] else (Nat.digits 10 n).reverse.map fun digit => UInt8.ofNat (48 + digit)

/-- The number that digits without a sign spell, if it is at most `limit`. -/
def parseDigits (limit : ℕ) (digits : Bytes) : Option ℕ :=
  if digits = [] ∨ digits.all isDigit = false then none
  else if limit < digitsValue digits then none
  else some (digitsValue digits)

/-- A signed 64-bit number in decimal digits, with an optional sign. -/
def atoi : Bytes → Option ℤ
  | [] => none
  | first :: rest =>
    if first = 45 then (parseDigits (2 ^ 63) rest).map fun n => -(n : ℤ)
    else if first = 43 then (parseDigits (2 ^ 63 - 1) rest).map fun n => (n : ℤ)
    else (parseDigits (2 ^ 63 - 1) (first :: rest)).map fun n => (n : ℤ)

/-- The byte of a digit. -/
lemma toNat_digit {d : ℕ} (h : d < 10) : (UInt8.ofNat (48 + d)).toNat = 48 + d := by
  rw [UInt8.toNat_ofNat']
  exact Nat.mod_eq_of_lt (by omega)

lemma isDigit_iff {byte : UInt8} : isDigit byte = true ↔ 48 ≤ byte.toNat ∧ byte.toNat ≤ 57 := by
  simp only [isDigit, Bool.and_eq_true, decide_eq_true_eq, UInt8.le_iff_toNat_le]
  rfl

/-- The digits of a numeral. -/
lemma isDigit_of_mem_numeral {n : ℕ} {byte : UInt8} (h : byte ∈ numeral n) :
    isDigit byte = true := by
  rw [isDigit_iff]
  unfold numeral at h
  split_ifs at h
  · rw [List.mem_singleton.mp h]
    decide
  · obtain ⟨d, hd, rfl⟩ := List.mem_map.mp h
    have hlt : d < 10 := Nat.digits_lt_base (by norm_num) (List.mem_reverse.mp hd)
    rw [toNat_digit hlt]
    omega

lemma numeral_ne_nil (n : ℕ) : numeral n ≠ [] := by
  unfold numeral
  split_ifs with h
  · exact List.cons_ne_nil _ _
  · simp only [ne_eq, List.map_eq_nil_iff, List.reverse_eq_nil_iff]
    exact Nat.digits_ne_nil_iff_ne_zero.mpr h

/-- The value of the digits of a number. -/
lemma digitsValue_numeral (n : ℕ) : digitsValue (numeral n) = n := by
  have hdigits : ∀ digits : List ℕ, (∀ d ∈ digits, d < 10) →
      digitsValue (digits.reverse.map fun digit => UInt8.ofNat (48 + digit)) =
        Nat.ofDigits 10 digits := by
    intro digits hlt
    induction digits with
    | nil => rfl
    | cons d digits ih =>
      have hd : (UInt8.ofNat (48 + d)).toNat - 48 = d := by
        rw [toNat_digit (hlt d List.mem_cons_self)]
        omega
      have hrest := ih fun e he => hlt e (List.mem_cons_of_mem _ he)
      unfold digitsValue at hrest ⊢
      rw [List.reverse_cons, List.map_append, List.foldl_append, hrest, Nat.ofDigits_cons]
      simp only [List.map_cons, List.map_nil, List.foldl_cons, List.foldl_nil, hd]
      ring
  unfold numeral
  split_ifs with h
  · rw [h]
    rfl
  · rw [hdigits _ fun d hd => Nat.digits_lt_base (by norm_num) hd, Nat.ofDigits_digits]

lemma numeral_injective : Function.Injective numeral :=
  Function.LeftInverse.injective digitsValue_numeral

/-- The digits of a number that fits are read back. -/
lemma parseDigits_numeral {limit n : ℕ} (h : n ≤ limit) :
    parseDigits limit (numeral n) = some n := by
  have hall : (numeral n).all isDigit = true :=
    List.all_eq_true.mpr fun _ => isDigit_of_mem_numeral
  rw [parseDigits, if_neg (by simp [numeral_ne_nil, hall]), digitsValue_numeral,
    if_neg (not_lt.mpr h)]

/-- A numeral that fits is read back. -/
lemma atoi_numeral {n : ℕ} (h : n < 2 ^ 63) : atoi (numeral n) = some (n : ℤ) := by
  have hdigits : ∀ byte ∈ numeral n, isDigit byte = true := fun _ => isDigit_of_mem_numeral
  have hvalue := digitsValue_numeral n
  cases hnumeral : numeral n with
  | nil => exact absurd hnumeral (numeral_ne_nil n)
  | cons first rest =>
    rw [hnumeral] at hdigits hvalue
    have hfirst := isDigit_iff.mp (hdigits first List.mem_cons_self)
    have hminus : first ≠ 45 := by
      rintro rfl
      exact absurd hfirst.1 (by decide)
    have hplus : first ≠ 43 := by
      rintro rfl
      exact absurd hfirst.1 (by decide)
    have hall : (first :: rest).all isDigit = true := List.all_eq_true.mpr hdigits
    have hle : ¬ 2 ^ 63 - 1 < digitsValue (first :: rest) := by
      rw [hvalue]
      omega
    rw [atoi, if_neg hminus, if_neg hplus, parseDigits, if_neg (by simp [hall]), if_neg hle, hvalue]
    rfl

end Decimal
