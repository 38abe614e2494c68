import Mathlib

/-!
# Formatting and trimming

The decimal text of a binary64 number with two digits after the point, rounded from the exact
binary value to the nearest hundredth with ties to even, and the white-space test of Unicode.
-/

namespace Text

/-- The quotient of two natural numbers rounded to the nearest integer, ties to even. -/
def roundHalfEven (num den : ℕ) : ℕ :=
  let q := num / den
  let r := num % den
  if 2 * r < den then q else if den < 2 * r then q + 1 else q + q % 2

/-- The number `m * 2 ^ e` in hundredths, rounded to the nearest one. -/
def hundredths (m : ℕ) : ℤ → ℕ
  | .ofNat k => m * 2 ^ k * 100
  | .negSucc k => roundHalfEven (m * 100) (2 ^ (k + 1))

/-- A number of hundredths as decimal text. -/
def decimal (n : ℕ) : String :=
  toString (n / 100) ++ "." ++ toString (n / 10 % 10) ++ toString (n % 10)

/-- The sign of a number as text. -/
def signText : Float.Model.UnpackedFloat.Sign → String
  | .positive => ""
  | .negative => "-"

/-- A binary64 number with two digits after the point. -/
def fixed2 (x : Float) : String :=
  match x.toModel.unpack with
  | .notANumber => "NaN"
  | .infinity .positive => "+Inf"
  | .infinity .negative => "-Inf"
  | .zero s => signText s ++ "0.00"
  | .finite s m e _ => signText s ++ decimal (hundredths m e)

example : fixed2 92.5 = "92.50" := by decide +kernel

/-- The characters with the Unicode property of being white space. -/
def isSpace (c : Char) : Bool :=
  let n := c.toNat
  (9 ≤ n && n ≤ 13) || n == 0x20 || n == 0x85 || n == 0xA0 || n == 0x1680 ||
    (0x2000 ≤ n && n ≤ 0x200A) || n == 0x2028 || n == 0x2029 || n == 0x202F || n == 0x205F ||
    n == 0x3000

/-- A text without its leading and trailing white space. -/
def trimSpace (s : String) : String :=
  String.ofList (((s.toList.dropWhile isSpace).reverse.dropWhile isSpace).reverse)

/-- The first of some texts that is not blank, without the white space around it. -/
def firstNonEmpty (values : List String) : String :=
  ((values.map trimSpace).find? (· ≠ "")).getD ""

end Text
