import Hostpin.Foundation.Decimal

/-!
# Semantic versions

A version has three numbers, identifiers of a prerelease and identifiers of a build.  Versions are
ordered by their numbers first; a prerelease comes before the release with the same numbers, and two
prereleases are ordered like words whose letters are the identifiers.  The build does not matter.

* `Precedes` is this order for any order of the identifiers; it is strict when that one is
  (`Precedes.trans`, `not_precedes_self`).
* `Version` is a valid version, `Version.Spells` its texts, and `Version.Precedes` the order of
  valid versions.
-/

namespace SemVer

open Decimal

/-! ## The order -/

section Order

variable {α β : Type} {lower : α → α → Prop}

/-- Prereleases in order: a release comes last. -/
def PrereleasePrecedes (lower : α → α → Prop) : List α → List α → Prop
  | [], _ => False
  | _ :: _, [] => True
  | p :: ps, q :: qs => List.Lex lower (p :: ps) (q :: qs)

/-- Versions in order, given by their numbers and their prereleases. -/
def Precedes (lower : α → α → Prop) (v w : List ℤ × List α) : Prop :=
  List.Lex (· < ·) v.1 w.1 ∨ v.1 = w.1 ∧ PrereleasePrecedes lower v.2 w.2

lemma lex_trans (trans : ∀ a b c, lower a b → lower b c → lower a c) {u v w : List α}
    (huv : List.Lex lower u v) (hvw : List.Lex lower v w) : List.Lex lower u w := by
  induction huv generalizing w with
  | nil =>
    cases hvw with
    | cons _ => exact .nil
    | rel _ => exact .nil
  | cons _ ih =>
    cases hvw with
    | cons hrest => exact .cons (ih hrest)
    | rel hlower => exact .rel hlower
  | rel hlower =>
    cases hvw with
    | cons _ => exact .rel hlower
    | rel hlower' => exact .rel (trans _ _ _ hlower hlower')

lemma not_lex_self (irrefl : ∀ a, ¬ lower a a) (v : List α) : ¬ List.Lex lower v v := by
  induction v with
  | nil => exact fun h => nomatch h
  | cons a v ih =>
    intro h
    cases h with
    | cons hrest => exact ih hrest
    | rel hlower => exact irrefl a hlower

lemma PrereleasePrecedes.trans (trans : ∀ a b c, lower a b → lower b c → lower a c)
    {u v w : List α} (huv : PrereleasePrecedes lower u v) (hvw : PrereleasePrecedes lower v w) :
    PrereleasePrecedes lower u w := by
  cases u with
  | nil => exact huv.elim
  | cons a u =>
    cases v with
    | nil => exact hvw.elim
    | cons b v =>
      cases w with
      | nil => exact True.intro
      | cons c w => exact lex_trans trans huv hvw

/-- The order is transitive. -/
lemma Precedes.trans (trans : ∀ a b c, lower a b → lower b c → lower a c)
    {u v w : List ℤ × List α} (huv : Precedes lower u v) (hvw : Precedes lower v w) :
    Precedes lower u w := by
  have hnumbers : ∀ a b c : ℤ, a < b → b < c → a < c := fun _ _ _ => lt_trans
  rcases huv with huv | ⟨huv, huv'⟩
  · rcases hvw with hvw | ⟨hvw, -⟩
    · exact .inl (lex_trans hnumbers huv hvw)
    · exact .inl (hvw ▸ huv)
  · rcases hvw with hvw | ⟨hvw, hvw'⟩
    · exact .inl (huv ▸ hvw)
    · exact .inr ⟨huv.trans hvw, huv'.trans trans hvw'⟩

/-- No version comes before itself. -/
lemma not_precedes_self (irrefl : ∀ a, ¬ lower a a) (v : List ℤ × List α) :
    ¬ Precedes lower v v := by
  rintro (h | ⟨-, h⟩)
  · exact not_lex_self (fun _ => lt_irrefl _) v.1 h
  · cases hv : v.2 with
    | nil =>
      rw [hv] at h
      exact h
    | cons a rest =>
      rw [hv] at h
      exact not_lex_self irrefl _ h

/-- Other names for the identifiers do not change the order. -/
lemma prereleasePrecedes_map {other : β → β → Prop} {f : α → β} (inj : Function.Injective f)
    {v w : List α} (same : ∀ a ∈ v, ∀ b ∈ w, other (f a) (f b) ↔ lower a b) :
    PrereleasePrecedes other (v.map f) (w.map f) ↔ PrereleasePrecedes lower v w := by
  have hlex : ∀ v w : List α, (∀ a ∈ v, ∀ b ∈ w, other (f a) (f b) ↔ lower a b) →
      (List.Lex other (v.map f) (w.map f) ↔ List.Lex lower v w) := by
    intro v
    induction v with
    | nil => intro w _; cases w <;> simp
    | cons a v ih =>
      intro w same
      cases w with
      | nil => simp
      | cons b w =>
        have hhead := same a List.mem_cons_self b List.mem_cons_self
        have htail := ih w fun c hc d hd =>
          same c (List.mem_cons_of_mem _ hc) d (List.mem_cons_of_mem _ hd)
        rw [List.map_cons, List.map_cons, List.cons_lex_cons_iff, List.cons_lex_cons_iff, hhead,
          htail, inj.eq_iff]
  cases v with
  | nil => exact Iff.rfl
  | cons a v =>
    cases w with
    | nil => exact Iff.rfl
    | cons b w => exact hlex (a :: v) (b :: w) same

end Order

/-! ## Valid versions -/

/-- Letters, digits and the hyphen. -/
def isIdentifierByte (byte : UInt8) : Bool :=
  isDigit byte || (65 ≤ byte && byte ≤ 90) || (97 ≤ byte && byte ≤ 122) || byte == 45

/-- An identifier of a prerelease: a number, or a text that is not only digits. -/
inductive Identifier where
  | numeric (n : ℕ)
  | alphanumeric (text : Bytes) (allowed : text.all isIdentifierByte = true)
      (other : text.all isDigit = false)
deriving DecidableEq

/-- The text of an identifier. -/
def Identifier.text : Identifier → Bytes
  | .numeric n => numeral n
  | .alphanumeric text _ _ => text

/-- Identifiers in order: numbers by their value, texts by their bytes, and numbers first. -/
def Identifier.Lower : Identifier → Identifier → Prop
  | .numeric m, .numeric n => m < n
  | .numeric _, .alphanumeric _ _ _ => True
  | .alphanumeric _ _ _, .numeric _ => False
  | .alphanumeric text _ _, .alphanumeric text' _ _ => text < text'

/-- The bytes of an identifier. -/
lemma Identifier.isIdentifierByte_of_mem {identifier : Identifier} {byte : UInt8}
    (h : byte ∈ identifier.text) : isIdentifierByte byte = true := by
  cases identifier with
  | numeric n =>
    unfold isIdentifierByte
    simp [isDigit_of_mem_numeral h]
  | alphanumeric text allowed other => exact List.all_eq_true.mp allowed byte h

lemma Identifier.text_ne_nil (identifier : Identifier) : identifier.text ≠ [] := by
  cases identifier with
  | numeric n => exact numeral_ne_nil n
  | alphanumeric text allowed other =>
    rintro rfl
    cases other

/-- A text spells one identifier. -/
lemma Identifier.text_injective : Function.Injective Identifier.text := by
  have hdigits : ∀ n, (numeral n).all isDigit = true := fun n =>
    List.all_eq_true.mpr fun _ => isDigit_of_mem_numeral
  intro a b h
  cases a with
  | numeric m =>
    cases b with
    | numeric n => exact congrArg Identifier.numeric (numeral_injective h)
    | alphanumeric text allowed other =>
      rw [← show numeral m = text from h, hdigits] at other
      cases other
  | alphanumeric text allowed other =>
    cases b with
    | numeric n =>
      rw [show text = numeral n from h, hdigits] at other
      cases other
    | alphanumeric text' allowed' other' =>
      cases show text = text' from h
      rfl

/-- A valid version. -/
structure Version where
  major : ℕ
  minor : ℕ
  patch : ℕ
  prerelease : List Identifier
  build : List Bytes
  build_valid : ∀ identifier ∈ build, identifier ≠ [] ∧ identifier.all isIdentifierByte = true

namespace Version

/-- The numbers of a version. -/
def core (v : Version) : List ℤ := [(v.major : ℤ), v.minor, v.patch]

/-- One version comes before another one. -/
def Precedes (v w : Version) : Prop :=
  SemVer.Precedes Identifier.Lower (v.core, v.prerelease) (w.core, w.prerelease)

/-- The numbers in the text of a version. -/
def coreText (v : Version) : Bytes :=
  List.intercalate [46] [numeral v.major, numeral v.minor, numeral v.patch]

/-- The identifiers in the text of a prerelease. -/
def prereleaseText (v : Version) : Bytes :=
  List.intercalate [46] (v.prerelease.map Identifier.text)

/-- The text of a version. -/
def text (v : Version) : Bytes :=
  v.coreText ++ (if v.prerelease = [] then [] else 45 :: v.prereleaseText) ++
    (if v.build = [] then [] else 43 :: List.intercalate [46] v.build)

/-- A text of a version: an additional `v` may stand in front. -/
def Spells (v : Version) (s : Bytes) : Prop := s = v.text ∨ s = 118 :: v.text

/-- The bytes of texts with dots between them. -/
lemma mem_intercalate {parts : List Bytes} {byte : UInt8} (h : byte ∈ List.intercalate [46] parts) :
    byte = 46 ∨ ∃ part ∈ parts, byte ∈ part := by
  induction parts with
  | nil => simp at h
  | cons part parts ih =>
    cases parts with
    | nil => simp_all
    | cons next parts =>
      rw [List.intercalate_cons_cons, List.mem_append, List.mem_append, List.mem_singleton] at h
      rcases h with (h | h) | h
      · exact .inr ⟨part, List.mem_cons_self, h⟩
      · exact .inl h
      · exact (ih h).imp_right fun ⟨other, hother, hbyte⟩ =>
          ⟨other, List.mem_cons_of_mem _ hother, hbyte⟩

/-- The bytes of the numbers. -/
lemma mem_coreText {v : Version} {byte : UInt8} (h : byte ∈ v.coreText) :
    byte = 46 ∨ isDigit byte = true := by
  refine (mem_intercalate h).imp_right fun ⟨part, hpart, hbyte⟩ => ?_
  simp only [List.mem_cons, List.not_mem_nil, or_false] at hpart
  rcases hpart with rfl | rfl | rfl <;> exact isDigit_of_mem_numeral hbyte

/-- The bytes of the identifiers. -/
lemma mem_prereleaseText {v : Version} {byte : UInt8} (h : byte ∈ v.prereleaseText) :
    byte = 46 ∨ isIdentifierByte byte = true := by
  refine (mem_intercalate h).imp_right fun ⟨part, hpart, hbyte⟩ => ?_
  obtain ⟨identifier, -, rfl⟩ := List.mem_map.mp hpart
  exact Identifier.isIdentifierByte_of_mem hbyte

/-- The bytes of a version. -/
lemma mem_text {v : Version} {byte : UInt8} (h : byte ∈ v.text) :
    byte = 43 ∨ byte = 46 ∨ isIdentifierByte byte = true := by
  unfold text at h
  rw [List.mem_append, List.mem_append] at h
  rcases h with (h | h) | h
  · rcases mem_coreText h with h | h
    · exact .inr (.inl h)
    · exact .inr (.inr (by simp [isIdentifierByte, h]))
  · split_ifs at h
    · simp at h
    · rcases List.mem_cons.mp h with rfl | h
      · exact .inr (.inr rfl)
      · exact .inr (mem_prereleaseText h)
  · split_ifs at h
    · simp at h
    · rcases List.mem_cons.mp h with rfl | h
      · exact .inl rfl
      · refine .inr ((mem_intercalate h).imp_right fun ⟨part, hpart, hbyte⟩ => ?_)
        exact List.all_eq_true.mp (v.build_valid part hpart).2 byte hbyte

/-- A version starts with a digit. -/
lemma exists_digit_text (v : Version) :
    ∃ first rest, v.text = first :: rest ∧ isDigit first = true := by
  obtain ⟨tail, htail⟩ : ∃ tail, v.text = numeral v.major ++ tail := by
    simp only [text, coreText, List.intercalate_cons_cons, List.append_assoc]
    exact ⟨_, rfl⟩
  cases hmajor : numeral v.major with
  | nil => exact absurd hmajor (numeral_ne_nil _)
  | cons first rest =>
    have hmem : first ∈ numeral v.major := hmajor ▸ List.mem_cons_self
    rw [hmajor, List.cons_append] at htail
    exact ⟨first, _, htail, isDigit_of_mem_numeral hmem⟩

end Version

end SemVer
