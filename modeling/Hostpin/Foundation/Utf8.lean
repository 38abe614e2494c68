import Hostpin.Foundation.Bytes

/-!
# Bytes that are not UTF-8

A text is a string of bytes, which need not be UTF-8.  An encoder that has to write UTF-8 keeps the
characters and writes the replacement character for each byte that is not part of one
(`Utf8.replaceInvalid`).  What it writes is UTF-8, so that doing it again changes nothing
(`Utf8.replaceInvalid_replaceInvalid`).
-/

namespace Utf8

/-- The bounds of most bytes of a character after its first one. -/
def tail : UInt8 × UInt8 := (0x80, 0xBF)

/-- The bounds of the other bytes of a character with this first byte, if there is one. -/
def bounds (first : UInt8) : Option (List (UInt8 × UInt8)) :=
  if first < 0x80 then some []
  else if 0xC2 ≤ first && first ≤ 0xDF then some [tail]
  else if first == 0xE0 then some [(0xA0, 0xBF), tail]
  else if first == 0xED then some [(0x80, 0x9F), tail]
  else if 0xE1 ≤ first && first ≤ 0xEF then some [tail, tail]
  else if first == 0xF0 then some [(0x90, 0xBF), tail, tail]
  else if first == 0xF4 then some [(0x80, 0x8F), tail, tail]
  else if 0xF1 ≤ first && first ≤ 0xF3 then some [tail, tail, tail]
  else none

/-- Whether a byte string starts with bytes within the bounds. -/
def continues : List (UInt8 × UInt8) → Bytes → Bool
  | [], _ => true
  | _ :: _, [] => false
  | (low, high) :: ranges, byte :: rest => low ≤ byte && byte ≤ high && continues ranges rest

/-- Whether a byte string is UTF-8 after the given number of bytes that belong to a character
before. -/
def validAfter : ℕ → Bytes → Bool
  | _, [] => true
  | kept + 1, _ :: rest => validAfter kept rest
  | 0, byte :: rest =>
    match bounds byte with
    | none => false
    | some ranges => continues ranges rest && validAfter ranges.length rest

/-- Whether a byte string is UTF-8. -/
def valid (bytes : Bytes) : Bool := validAfter 0 bytes

/-- The replacement character. -/
def replacement : Bytes := [0xEF, 0xBF, 0xBD]

/-- Replace the bytes that are not part of a character, after the given number of bytes that belong
to a character before. -/
def replaceAfter : ℕ → Bytes → Bytes
  | _, [] => []
  | kept + 1, byte :: rest => byte :: replaceAfter kept rest
  | 0, byte :: rest =>
    match bounds byte with
    | none => replacement ++ replaceAfter 0 rest
    | some ranges =>
      if continues ranges rest then byte :: replaceAfter ranges.length rest
      else replacement ++ replaceAfter 0 rest

/-- A byte string with the bytes replaced that are not part of a character. -/
def replaceInvalid (bytes : Bytes) : Bytes := replaceAfter 0 bytes

example : replaceInvalid [0x61, 0xC3, 0xA4, 0xFF] = [0x61, 0xC3, 0xA4, 0xEF, 0xBF, 0xBD] := by
  decide

/-- The bytes of a character are kept. -/
lemma continues_replaceAfter {ranges : List (UInt8 × UInt8)} {bytes : Bytes}
    (h : continues ranges bytes = true) :
    continues ranges (replaceAfter ranges.length bytes) = true := by
  induction ranges generalizing bytes with
  | nil => rfl
  | cons range ranges ih =>
    cases bytes with
    | nil => simp [continues] at h
    | cons byte rest =>
      simp only [continues, Bool.and_eq_true] at h
      simp only [List.length_cons, replaceAfter, continues, Bool.and_eq_true]
      exact ⟨h.1, ih h.2⟩

/-- A character in front is kept. -/
lemma replaceAfter_character {byte : UInt8} {ranges : List (UInt8 × UInt8)} {rest : Bytes}
    (hbounds : bounds byte = some ranges) (h : continues ranges rest = true) :
    replaceAfter 0 (byte :: rest) = byte :: replaceAfter ranges.length rest := by
  rw [replaceAfter, hbounds]
  simp only [h, if_true]

/-- The replacement character is a character. -/
lemma replaceAfter_replacement (rest : Bytes) :
    replaceAfter 0 (replacement ++ rest) = replacement ++ replaceAfter 0 rest := by
  have hbounds : bounds 0xEF = some [tail, tail] := by decide
  have hcontinues : continues [tail, tail] (0xBF :: 0xBD :: rest) = true := by
    simp [continues, tail]
  rw [show replacement ++ rest = 0xEF :: 0xBF :: 0xBD :: rest from rfl,
    replaceAfter_character hbounds hcontinues]
  rfl

/-- Replacing twice is replacing once, also inside a character. -/
lemma replaceAfter_replaceAfter (kept : ℕ) (bytes : Bytes) :
    replaceAfter kept (replaceAfter kept bytes) = replaceAfter kept bytes := by
  induction bytes generalizing kept with
  | nil => cases kept <;> rfl
  | cons byte rest ih =>
    cases kept with
    | succ kept => rw [replaceAfter, replaceAfter, ih]
    | zero =>
      rw [replaceAfter]
      cases hbounds : bounds byte with
      | none => simp only [replaceAfter_replacement, ih]
      | some ranges =>
        by_cases h : continues ranges rest = true
        · simp only [h, if_true]
          rw [replaceAfter_character hbounds (continues_replaceAfter h), ih]
        · simp only [h, if_false, replaceAfter_replacement, ih, Bool.false_eq_true]

/-- Replacing twice is replacing once. -/
lemma replaceInvalid_replaceInvalid (bytes : Bytes) :
    replaceInvalid (replaceInvalid bytes) = replaceInvalid bytes :=
  replaceAfter_replaceAfter 0 bytes

end Utf8
