import Hostpin.Backup.Restore
import Hostpin.Foundation.SemVer

/-!
# Versions and updates

The agent installs a release whose version is newer than its own.  `parseVersion` reads a version
from any text, also from many that are no semantic versions, and `newerVersion` compares two texts.

`newerVersion_laws` says that accepted updates never go in a circle, whatever the texts are, and
that valid semantic versions are compared as they should be.
-/

namespace Hostpin

namespace Updater

open Backup (ascii trimSpace)
open Decimal

/-! ## Parsing -/

/-- The numbers of a version and the identifiers of its prerelease. -/
structure SemanticVersion where
  core : Fin 3 → ℤ := fun _ => 0
  prerelease : List Bytes := []

/-- A text without a byte in front. -/
def trimPrefix (first : UInt8) : Bytes → Bytes
  | [] => []
  | byte :: rest => if byte = first then rest else byte :: rest

/-- What stands before a separator, and what stands after it if it is there. -/
def cut (separator : UInt8) (text : Bytes) : Bytes × Option Bytes :=
  (text.takeWhile (· != separator), (text.dropWhile (· != separator)).tail?)

/-- A number of a version. -/
def parseNumber (part : Bytes) : Option ℤ :=
  if part = [] then none
  else
    match atoi part with
    | none => none
    | some number => if number < 0 then none else some number

/-- Read a version. -/
def parseVersion (value : Bytes) : Option SemanticVersion :=
  let value := trimPrefix 118 (trimSpace value)
  if value = [] then none
  else
    let value := (cut 43 value).1
    let (coreText, prereleaseText) := cut 45 value
    let coreParts := coreText.splitOn 46
    if coreParts.length = 0 ∨ 3 < coreParts.length then none
    else
      match coreParts.mapM parseNumber with
      | none => none
      | some numbers =>
        let core := fun index : Fin 3 => numbers.getD index 0
        match prereleaseText with
        | none => some { core }
        | some prereleaseText =>
          if prereleaseText = [] then none
          else
            let prerelease := prereleaseText.splitOn 46
            if prerelease.contains [] then none else some { core, prerelease }

/-- The value of an identifier that is a number. -/
def numericIdentifier (value : Bytes) : Option ℤ :=
  if value = [] ∨ value.all isDigit = false then none else atoi value

/-! ## Comparing -/

/-- What the first numbers that differ say. -/
def newerCore (left right : Fin 3 → ℤ) : Option Bool :=
  ((List.finRange 3).find? fun index => left index != right index).map fun index =>
    right index < left index

/-- Whether an identifier is newer than a different one. -/
def newerIdentifier (leftPart rightPart : Bytes) : Bool :=
  match numericIdentifier leftPart, numericIdentifier rightPart with
  | some leftNumber, some rightNumber => rightNumber < leftNumber
  | some _, none => false
  | none, some _ => true
  | none, none => rightPart < leftPart

/-- Whether the identifiers of a prerelease are newer. -/
def newerPrerelease : List Bytes → List Bytes → Bool
  | leftPart :: left, rightPart :: right =>
    if leftPart = rightPart then newerPrerelease left right
    else newerIdentifier leftPart rightPart
  | left, right => right.length < left.length

/-- Whether a version is newer than another one. -/
def SemanticVersion.newer (left right : SemanticVersion) : Bool :=
  match newerCore left.core right.core with
  | some newer => newer
  | none =>
    if left.prerelease = [] ∨ right.prerelease = [] then
      left.prerelease = [] && right.prerelease != []
    else newerPrerelease left.prerelease right.prerelease

/-- Whether a candidate is newer than the current version. -/
def newerVersion (candidate current : Bytes) : Bool :=
  if current = [] ∨ current = ascii "dev" then false
  else
    match parseVersion candidate, parseVersion current with
    | some left, some right => left.newer right
    | _, _ => false

example : newerVersion (ascii "v1.4.0") (ascii "1.4.0-rc.10") = true := by decide +kernel

example : newerVersion (ascii "1.4.0-rc.9") (ascii "1.4.0-rc.10") = false := by decide +kernel

/-! ## The order of the identifiers -/

/-- An identifier comes before another one when that one is newer. -/
def Lower (a b : Bytes) : Prop := newerIdentifier b a = true

lemma not_lower_self (a : Bytes) : ¬ Lower a a := by
  unfold Lower newerIdentifier
  cases numericIdentifier a <;> simp

/-- Numbers are ordered by their values, other texts by their bytes, and numbers come first. -/
lemma Lower.trans {a b c : Bytes} (hab : Lower a b) (hbc : Lower b c) : Lower a c := by
  unfold Lower newerIdentifier at *
  cases ha : numericIdentifier a with
  | none =>
    cases hb : numericIdentifier b with
    | some _ => simp [ha, hb] at hab
    | none =>
      cases hc : numericIdentifier c with
      | some _ => simp [hb, hc] at hbc
      | none =>
        simp only [ha, hb, hc, decide_eq_true_eq] at hab hbc ⊢
        exact List.lt_trans hab hbc
  | some m =>
    cases hc : numericIdentifier c with
    | none => rfl
    | some n =>
      cases hb : numericIdentifier b with
      | none => simp [hb, hc] at hbc
      | some k =>
        simp only [ha, hb, hc, decide_eq_true_eq] at hab hbc ⊢
        exact lt_trans hab hbc

/-! ## The order of the versions -/

/-- The numbers and the identifiers of a version. -/
def SemanticVersion.key (v : SemanticVersion) : List ℤ × List Bytes :=
  (List.ofFn v.core, v.prerelease)

/-- The first numbers that differ decide. -/
lemma newerCore_spec (left right : Fin 3 → ℤ) :
    (newerCore left right = none ∧ left = right) ∨
      ∃ newer, newerCore left right = some newer ∧ left ≠ right ∧
        (newer = true ↔ List.Lex (· < ·) (List.ofFn right) (List.ofFn left)) := by
  have hrange : List.finRange 3 = [0, 1, 2] := rfl
  have hlists : ∀ f : Fin 3 → ℤ, List.ofFn f = [f 0, f 1, f 2] := fun f => rfl
  unfold newerCore
  rw [hrange, hlists, hlists]
  by_cases h0 : left 0 = right 0
  · by_cases h1 : left 1 = right 1
    · by_cases h2 : left 2 = right 2
      · refine .inl ⟨by simp [h0, h1, h2], funext fun index => ?_⟩
        fin_cases index <;> assumption
      · refine .inr ⟨right 2 < left 2, by simp [h0, h1, h2], fun h => h2 (h ▸ rfl), ?_⟩
        simp [List.cons_lex_cons_iff, h0, h1]
    · refine .inr ⟨right 1 < left 1, by simp [h0, h1], fun h => h1 (h ▸ rfl), ?_⟩
      simp [List.cons_lex_cons_iff, h0, Ne.symm h1]
  · refine .inr ⟨right 0 < left 0, by simp [h0], fun h => h0 (h ▸ rfl), ?_⟩
    simp [List.cons_lex_cons_iff, Ne.symm h0]

/-- The identifiers are compared like the letters of words. -/
lemma newerPrerelease_iff (left right : List Bytes) :
    newerPrerelease left right = true ↔ List.Lex Lower right left := by
  induction left generalizing right with
  | nil => cases right <;> simp [newerPrerelease]
  | cons leftPart left ih =>
    cases right with
    | nil => simp [newerPrerelease]
    | cons rightPart right =>
      rw [newerPrerelease, List.cons_lex_cons_iff]
      by_cases hsame : leftPart = rightPart
      · rw [if_pos hsame, ih, hsame]
        simp [not_lower_self]
      · rw [if_neg hsame]
        simp [Lower, Ne.symm hsame]

/-- A version is newer when it comes later in the order. -/
lemma SemanticVersion.newer_iff (left right : SemanticVersion) :
    left.newer right = true ↔ SemVer.Precedes Lower right.key left.key := by
  unfold SemanticVersion.newer SemVer.Precedes SemanticVersion.key
  rcases newerCore_spec left.core right.core with ⟨hcore, hsame⟩ | ⟨newer, hcore, hne, hnewer⟩
  · have hnone : ¬ List.Lex (· < ·) (List.ofFn right.core) (List.ofFn right.core) :=
      SemVer.not_lex_self (fun _ => lt_irrefl _) _
    rw [hcore, hsame]
    simp only [hnone, false_or, true_and]
    cases hleft : left.prerelease with
    | nil => cases hright : right.prerelease <;> simp [SemVer.PrereleasePrecedes]
    | cons leftPart restLeft =>
      cases hright : right.prerelease with
      | nil => simp [SemVer.PrereleasePrecedes]
      | cons rightPart restRight =>
        rw [if_neg (by simp), newerPrerelease_iff]
        rfl
  · have hlists : List.ofFn right.core ≠ List.ofFn left.core := fun h =>
      hne (List.ofFn_injective h).symm
    simp only [hcore, hlists, hnewer, false_and, or_false]

/-- An update is accepted when both texts are read and the candidate is newer. -/
lemma newerVersion_iff (candidate current : Bytes) :
    newerVersion candidate current = true ↔ ∃ left right, parseVersion candidate = some left ∧
      parseVersion current = some right ∧ SemVer.Precedes Lower right.key left.key := by
  unfold newerVersion
  split_ifs with hcurrent
  · have hnone : parseVersion current = none := by
      rcases hcurrent with rfl | rfl <;> decide +kernel
    simp [hnone]
  · cases parseVersion candidate with
    | none => simp
    | some left =>
      cases parseVersion current with
      | none => simp
      | some right => simp [SemanticVersion.newer_iff]

/-- What is newer than a newer version is newer. -/
lemma newerVersion_trans {a b c : Bytes} (hab : newerVersion a b = true)
    (hbc : newerVersion b c = true) : newerVersion a c = true := by
  obtain ⟨va, vb, ha, hb, hab⟩ := (newerVersion_iff a b).mp hab
  obtain ⟨vb', vc, hb', hc, hbc⟩ := (newerVersion_iff b c).mp hbc
  cases hb.symm.trans hb'
  have hlower : ∀ a b c, Lower a b → Lower b c → Lower a c := fun _ _ _ => Lower.trans
  exact (newerVersion_iff a c).mpr ⟨va, vc, ha, hc, hbc.trans hlower hab⟩

/-! ## Valid versions -/

/-- The numbers of a version fit in a signed 64-bit word. -/
structure Fits (v : SemVer.Version) : Prop where
  core : v.major < 2 ^ 63 ∧ v.minor < 2 ^ 63 ∧ v.patch < 2 ^ 63
  prerelease : ∀ n, SemVer.Identifier.numeric n ∈ v.prerelease → n < 2 ^ 63

/-- A text without the separator is not cut. -/
lemma cut_eq_self {separator : UInt8} {text : Bytes} (h : separator ∉ text) :
    cut separator text = (text, none) := by
  have hall : ∀ byte ∈ text, (byte != separator) = true := by
    intro byte hbyte
    rw [bne_iff_ne]
    rintro rfl
    exact h hbyte
  rw [cut, List.takeWhile_eq_self_iff.mpr hall, List.dropWhile_eq_nil_iff.mpr hall]
  rfl

/-- A text is cut at the first separator. -/
lemma cut_append {separator : UInt8} {before : Bytes} (h : separator ∉ before) (after : Bytes) :
    cut separator (before ++ separator :: after) = (before, some after) := by
  have hall : ∀ byte ∈ before, (byte != separator) = true := by
    intro byte hbyte
    rw [bne_iff_ne]
    rintro rfl
    exact h hbyte
  rw [cut, List.takeWhile_append_of_pos hall, List.dropWhile_append_of_pos hall]
  simp

lemma parseNumber_numeral {n : ℕ} (h : n < 2 ^ 63) : parseNumber (numeral n) = some (n : ℤ) := by
  rw [parseNumber, if_neg (numeral_ne_nil n), atoi_numeral h]
  simp

lemma numericIdentifier_numeric {n : ℕ} (h : n < 2 ^ 63) :
    numericIdentifier (numeral n) = some (n : ℤ) := by
  have hall : (numeral n).all isDigit = true :=
    List.all_eq_true.mpr fun _ => isDigit_of_mem_numeral
  rw [numericIdentifier, if_neg (by simp [numeral_ne_nil, hall]), atoi_numeral h]

/-- Identifiers are compared as they should be. -/
lemma lower_text {a b : SemVer.Identifier} (ha : ∀ n, a = .numeric n → n < 2 ^ 63)
    (hb : ∀ n, b = .numeric n → n < 2 ^ 63) : Lower a.text b.text ↔ a.Lower b := by
  have hother : ∀ text : Bytes, text.all isDigit = false → numericIdentifier text = none :=
    fun text h => if_pos (.inr h)
  unfold Lower newerIdentifier
  cases a with
  | numeric m =>
    simp only [SemVer.Identifier.text, numericIdentifier_numeric (ha m rfl)]
    cases b with
    | numeric n => simp [SemVer.Identifier.Lower, numericIdentifier_numeric (hb n rfl)]
    | alphanumeric text _ other => simp [SemVer.Identifier.Lower, hother text other]
  | alphanumeric text _ other =>
    simp only [SemVer.Identifier.text, hother text other]
    cases b with
    | numeric n => simp [SemVer.Identifier.Lower, numericIdentifier_numeric (hb n rfl)]
    | alphanumeric text' _ other' =>
      simp only [hother text' other', SemVer.Identifier.Lower]
      exact decide_eq_true_iff

/-- Trimming leaves a text of a version, without the letter in front. -/
lemma trimPrefix_spells {v : SemVer.Version} {s : Bytes} (h : v.Spells s) :
    trimPrefix 118 (trimSpace s) = v.text := by
  have hprintable : ∀ byte ∈ s, 32 < byte ∧ byte < 128 := by
    have hbyte : ∀ byte : UInt8, SemVer.isIdentifierByte byte = true → 32 < byte ∧ byte < 128 := by
      intro byte hbyte
      simp only [SemVer.isIdentifierByte, isDigit, Bool.or_eq_true, Bool.and_eq_true,
        decide_eq_true_eq, beq_iff_eq] at hbyte
      grind
    have htext : ∀ byte ∈ v.text, 32 < byte ∧ byte < 128 := by
      intro byte hmem
      rcases SemVer.Version.mem_text hmem with rfl | rfl | h
      · decide
      · decide
      · exact hbyte byte h
    rcases h with rfl | rfl
    · exact htext
    · exact List.forall_mem_cons.mpr ⟨by decide, htext⟩
  rw [Backup.trimSpace_eq_self (fun byte hbyte => hprintable byte (List.mem_of_head? hbyte))
    fun byte hbyte => hprintable byte (List.mem_of_getLast? hbyte)]
  rcases h with rfl | rfl
  · obtain ⟨first, rest, htext, hdigit⟩ := v.exists_digit_text
    have hne : first ≠ 118 := by
      rintro rfl
      exact absurd hdigit (by decide)
    rw [htext, trimPrefix, if_neg hne]
  · rfl

/-- A text of a version is read as the version. -/
lemma parseVersion_spells {v : SemVer.Version} (hfits : Fits v) {s : Bytes} (h : v.Spells s) :
    parseVersion s = some
      { core := fun index => v.core.getD index 0
        prerelease := v.prerelease.map SemVer.Identifier.text } := by
  have hne : v.text ≠ [] := by
    obtain ⟨first, rest, htext, -⟩ := v.exists_digit_text
    rw [htext]
    exact List.cons_ne_nil _ _
  have hcore : ∀ separator : UInt8, separator ≠ 46 → isDigit separator = false →
      separator ∉ v.coreText := by
    intro separator hdot hdigit hmem
    rcases SemVer.Version.mem_coreText hmem with h | h
    · exact hdot h
    · rw [hdigit] at h
      cases h
  have hplus : 43 ∉ v.coreText ++ (if v.prerelease = [] then [] else 45 :: v.prereleaseText) := by
    intro hmem
    rcases List.mem_append.mp hmem with h | h
    · exact hcore 43 (by decide) (by decide) h
    · split_ifs at h
      · simp at h
      · rcases List.mem_cons.mp h with h | h
        · cases h
        · rcases SemVer.Version.mem_prereleaseText h with h | h <;> cases h
  have hbuild : (cut 43 v.text).1 =
      v.coreText ++ (if v.prerelease = [] then [] else 45 :: v.prereleaseText) := by
    unfold SemVer.Version.text
    split_ifs with hprerelease hempty hempty
    all_goals simp only [hprerelease, if_true, if_false, List.append_nil] at hplus ⊢
    · rw [cut_eq_self hplus]
    · rw [cut_append hplus]
    · rw [cut_eq_self hplus]
    · rw [cut_append hplus]
  have hhyphen : 45 ∉ v.coreText := hcore 45 (by decide) (by decide)
  have hparts : v.coreText.splitOn 46 = [numeral v.major, numeral v.minor, numeral v.patch] := by
    refine List.splitOn_intercalate 46 (fun part hpart hdot => ?_) (List.cons_ne_nil _ _)
    simp only [List.mem_cons, List.not_mem_nil, or_false] at hpart
    rcases hpart with rfl | rfl | rfl <;> exact absurd (isDigit_of_mem_numeral hdot) (by decide)
  have hnumbers : [numeral v.major, numeral v.minor, numeral v.patch].mapM parseNumber =
      some v.core := by
    obtain ⟨hmajor, hminor, hpatch⟩ := hfits.core
    simp [parseNumber_numeral hmajor, parseNumber_numeral hminor, parseNumber_numeral hpatch,
      SemVer.Version.core]
  unfold parseVersion
  rw [trimPrefix_spells h]
  simp only [if_neg hne, hbuild]
  by_cases hprerelease : v.prerelease = []
  · simp only [hprerelease, if_true, List.append_nil, cut_eq_self hhyphen, hparts, hnumbers]
    rfl
  · have htexts : v.prereleaseText.splitOn 46 = v.prerelease.map SemVer.Identifier.text := by
      refine List.splitOn_intercalate 46 (fun part hpart hdot => ?_) (by simpa using hprerelease)
      obtain ⟨identifier, -, rfl⟩ := List.mem_map.mp hpart
      exact absurd (SemVer.Identifier.isIdentifierByte_of_mem hdot) (by decide)
    have hnil : (v.prerelease.map SemVer.Identifier.text).contains [] = false := by
      simp [SemVer.Identifier.text_ne_nil]
    have hsome : v.prereleaseText ≠ [] := by
      intro hempty
      rw [hempty] at htexts
      rw [← htexts] at hnil
      cases hnil
    simp only [if_neg hprerelease, cut_append hhyphen, hparts, hnumbers, if_neg hsome, htexts, hnil]
    rfl

/-- Updates are ordered.  No text is newer than itself, acceptance is asymmetric and transitive, so
a chain of accepted updates only goes up; a text that cannot be read is neither newer nor older than
another one, and nothing is newer than an unknown or a development version.  Valid semantic versions
whose numbers fit in 64 bits, with or without a `v` in front, are compared by their precedence. -/
theorem newerVersion_laws :
    (∀ a, newerVersion a a = false) ∧
    (∀ a b, newerVersion a b = true → newerVersion b a = false) ∧
    (∀ a b c, newerVersion a b = true → newerVersion b c = true → newerVersion a c = true) ∧
    (∀ a b, Relation.TransGen (fun current candidate => newerVersion candidate current = true) a b →
      newerVersion b a = true ∧ newerVersion a b = false) ∧
    (∀ candidate current, parseVersion candidate = none ∨ parseVersion current = none ∨
      current = [] ∨ current = ascii "dev" → newerVersion candidate current = false) ∧
    (∀ v w : SemVer.Version, Fits v → Fits w → ∀ a b, v.Spells a → w.Spells b →
      (newerVersion a b = true ↔ w.Precedes v)) := by
  have htrans : ∀ a b c, newerVersion a b = true → newerVersion b c = true →
      newerVersion a c = true := fun _ _ _ => newerVersion_trans
  have hirrefl : ∀ a, newerVersion a a = false := by
    intro a
    rw [Bool.eq_false_iff]
    intro h
    obtain ⟨v, v', ha, ha', hv⟩ := (newerVersion_iff a a).mp h
    cases ha.symm.trans ha'
    exact SemVer.not_precedes_self not_lower_self _ hv
  have hasymm : ∀ a b, newerVersion a b = true → newerVersion b a = false := by
    intro a b hab
    rw [Bool.eq_false_iff]
    intro hba
    exact absurd (htrans a b a hab hba) (by simp [hirrefl])
  refine ⟨hirrefl, hasymm, htrans, fun a b hchain => ?_, fun candidate current h => ?_, ?_⟩
  · have hnewer : newerVersion b a = true := by
      induction hchain with
      | single h => exact h
      | tail _ h ih => exact htrans _ _ _ h ih
    exact ⟨hnewer, hasymm b a hnewer⟩
  · rw [Bool.eq_false_iff]
    intro hnewer
    obtain ⟨left, right, hleft, hright, -⟩ := (newerVersion_iff candidate current).mp hnewer
    have hcurrent : parseVersion [] = none ∧ parseVersion (ascii "dev") = none := by
      decide +kernel
    rcases h with h | h | rfl | rfl
    · cases hleft.symm.trans h
    · cases hright.symm.trans h
    · cases hright.symm.trans hcurrent.1
    · cases hright.symm.trans hcurrent.2
  · intro v w hv hw a b ha hb
    have hprerelease : SemVer.PrereleasePrecedes Lower
        (w.prerelease.map SemVer.Identifier.text) (v.prerelease.map SemVer.Identifier.text) ↔
        SemVer.PrereleasePrecedes SemVer.Identifier.Lower w.prerelease v.prerelease := by
      refine SemVer.prereleasePrecedes_map SemVer.Identifier.text_injective fun i hi j hj => ?_
      exact lower_text (fun n h => hw.prerelease n (h ▸ hi)) fun n h => hv.prerelease n (h ▸ hj)
    have hprecedes : SemVer.Precedes Lower (w.core, w.prerelease.map SemVer.Identifier.text)
        (v.core, v.prerelease.map SemVer.Identifier.text) ↔ w.Precedes v := by
      unfold SemVer.Version.Precedes SemVer.Precedes
      rw [hprerelease]
    rw [newerVersion_iff, parseVersion_spells hv ha, parseVersion_spells hw hb]
    constructor
    · rintro ⟨_, _, hleft, hright, h⟩
      cases hleft
      cases hright
      exact hprecedes.mp h
    · exact fun h => ⟨_, _, rfl, rfl, hprecedes.mpr h⟩

end Updater

end Hostpin
