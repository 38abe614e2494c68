import Hostpin.Foundation.Bytes

/-!
# Base64

Three bytes are four digits of six bits, and a rest of one or two bytes is two or three digits, with
or without padding behind them.  An `Encoding` says which characters stand for the digits and which
one pads.

* `encode` writes bytes and `decode` reads them back (`decode_encode`).
* The reader is a lenient one: it ignores some characters, and it drops the bits of the last digit
  that belong to no byte.
* A text without padding consists of digits (`mem_encode`), and its length tells the number of
  bytes (`length_encode`).
-/

namespace Base64

/-- The characters of an encoding. -/
structure Encoding (C : Type) where
  symbol : Fin 64 → C
  value : C → Option (Fin 64)
  value_symbol : ∀ d, value (symbol d) = some d
  pad : Option C
  value_pad : ∀ c ∈ pad, value c = none
  ignored : C → Bool
  value_ignored : ∀ c, ignored c = true → value c = none
  pad_ignored : ∀ c ∈ pad, ignored c = false

/-! ## Digits -/

/-- The number of 24 bits that three bytes are. -/
def word (a b c : UInt8) : ℕ := a.toNat * 65536 + b.toNat * 256 + c.toNat

/-- The number of 24 bits that four digits are. -/
def join (d₀ d₁ d₂ d₃ : Fin 64) : ℕ := d₀ * 262144 + d₁ * 4096 + d₂ * 64 + d₃

/-- One of the three bytes of a number of 24 bits, the most significant one first. -/
def byte (n : ℕ) : Fin 3 → UInt8
  | 0 => UInt8.ofNat (n / 65536)
  | 1 => UInt8.ofNat (n / 256)
  | 2 => UInt8.ofNat n

/-- One of the four digits of a number of 24 bits, the most significant one first. -/
def digit (n : ℕ) : Fin 4 → Fin 64
  | 0 => Fin.ofNat 64 (n / 262144)
  | 1 => Fin.ofNat 64 (n / 4096)
  | 2 => Fin.ofNat 64 (n / 64)
  | 3 => Fin.ofNat 64 n

section Digits

variable (a b c : UInt8)

/-- The digits of a word make the word. -/
lemma join_digit :
    join (digit (word a b c) 0) (digit (word a b c) 1) (digit (word a b c) 2)
      (digit (word a b c) 3) = word a b c := by
  have ha := a.toNat_lt
  have hb := b.toNat_lt
  have hc := c.toNat_lt
  simp only [join, digit, word, Fin.val_ofNat]
  omega

lemma byte_zero : byte (word a b c) 0 = a := by
  have ha := a.toNat_lt
  have hb := b.toNat_lt
  have hc := c.toNat_lt
  refine UInt8.toNat_inj.mp ?_
  simp only [byte, word, UInt8.toNat_ofNat']
  omega

lemma byte_one : byte (word a b c) 1 = b := by
  have hb := b.toNat_lt
  have hc := c.toNat_lt
  refine UInt8.toNat_inj.mp ?_
  simp only [byte, word, UInt8.toNat_ofNat']
  omega

lemma byte_two : byte (word a b c) 2 = c := by
  have hc := c.toNat_lt
  refine UInt8.toNat_inj.mp ?_
  simp only [byte, word, UInt8.toNat_ofNat']
  omega

/-- Two digits hold the first byte. -/
lemma byte_join_two :
    byte (join (digit (word a b c) 0) (digit (word a b c) 1) 0 0) 0 = a := by
  have ha := a.toNat_lt
  have hb := b.toNat_lt
  have hc := c.toNat_lt
  refine UInt8.toNat_inj.mp ?_
  simp only [byte, join, digit, word, Fin.val_ofNat, Fin.val_zero, UInt8.toNat_ofNat']
  omega

/-- Three digits hold the first two bytes. -/
lemma byte_join_three :
    byte (join (digit (word a b c) 0) (digit (word a b c) 1) (digit (word a b c) 2) 0) 0 = a ∧
      byte (join (digit (word a b c) 0) (digit (word a b c) 1) (digit (word a b c) 2) 0) 1 = b := by
  have ha := a.toNat_lt
  have hb := b.toNat_lt
  have hc := c.toNat_lt
  constructor <;> refine UInt8.toNat_inj.mp ?_ <;>
    simp only [byte, join, digit, word, Fin.val_ofNat, Fin.val_zero, UInt8.toNat_ofNat'] <;> omega

end Digits

/-! ## Texts -/

variable {C : Type} (enc : Encoding C)

/-- The padding behind some digits. -/
def Encoding.padding (count : ℕ) : List C := (enc.pad.map (List.replicate count)).getD []

/-- The text of some bytes. -/
def encode : Bytes → List C
  | a :: b :: c :: rest =>
    let n := word a b c
    enc.symbol (digit n 0) :: enc.symbol (digit n 1) :: enc.symbol (digit n 2) ::
      enc.symbol (digit n 3) :: encode rest
  | [a, b] =>
    let n := word a b 0
    enc.symbol (digit n 0) :: enc.symbol (digit n 1) :: enc.symbol (digit n 2) :: enc.padding 1
  | [a] =>
    let n := word a 0 0
    enc.symbol (digit n 0) :: enc.symbol (digit n 1) :: enc.padding 2
  | [] => []

/-- The bytes of a text in which nothing is ignored. -/
def decodeDigits [DecidableEq C] : List C → Option Bytes
  | [] => some []
  | c₀ :: c₁ :: c₂ :: c₃ :: rest => do
    let d₀ ← enc.value c₀
    let d₁ ← enc.value c₁
    match enc.value c₂, enc.value c₃ with
    | some d₂, some d₃ =>
      let n := join d₀ d₁ d₂ d₃
      return byte n 0 :: byte n 1 :: byte n 2 :: (← decodeDigits rest)
    | some d₂, none =>
      let n := join d₀ d₁ d₂ 0
      if enc.pad = some c₃ ∧ rest = [] then some [byte n 0, byte n 1] else none
    | none, _ =>
      if enc.pad = some c₂ ∧ c₃ = c₂ ∧ rest = [] then some [byte (join d₀ d₁ 0 0) 0] else none
  | [c₀, c₁, c₂] => do
    let n := join (← enc.value c₀) (← enc.value c₁) (← enc.value c₂) 0
    if enc.pad = none then some [byte n 0, byte n 1] else none
  | [c₀, c₁] => do
    let n := join (← enc.value c₀) (← enc.value c₁) 0 0
    if enc.pad = none then some [byte n 0] else none
  | [_] => none

/-- The bytes of a text. -/
def decode [DecidableEq C] (text : List C) : Option Bytes :=
  decodeDigits enc (text.filter fun c => !enc.ignored c)

/-- The digits of bytes are read back. -/
lemma decodeDigits_encode [DecidableEq C] (bytes : Bytes) :
    decodeDigits enc (encode enc bytes) = some bytes := by
  fun_induction encode enc bytes with
  | case1 a b c rest n ih =>
    simp only [decodeDigits, enc.value_symbol, Option.bind_eq_bind, Option.bind_some, ih]
    rw [join_digit, byte_zero, byte_one, byte_two]
    rfl
  | case2 a b n =>
    obtain ⟨hzero, hone⟩ := byte_join_three a b 0
    cases hpad : enc.pad with
    | none =>
      simp [Encoding.padding, hpad, decodeDigits, enc.value_symbol, n, hzero, hone]
    | some p =>
      have hp := enc.value_pad p hpad
      simp [Encoding.padding, hpad, decodeDigits, enc.value_symbol, hp, n, hzero, hone]
  | case3 a n =>
    have hzero := byte_join_two a 0 0
    cases hpad : enc.pad with
    | none => simp [Encoding.padding, hpad, decodeDigits, enc.value_symbol, n, hzero]
    | some p =>
      have hp := enc.value_pad p hpad
      simp [Encoding.padding, hpad, decodeDigits, enc.value_symbol, hp, n, hzero, List.replicate]
  | case4 => rfl

/-- The characters of a text are digits, or pad it. -/
lemma mem_encode_cases {bytes : Bytes} {c : C} (h : c ∈ encode enc bytes) :
    (∃ d, enc.symbol d = c) ∨ c ∈ enc.pad := by
  have hpadding {count : ℕ} (hc : c ∈ enc.padding count) : c ∈ enc.pad := by
    unfold Encoding.padding at hc
    cases hpad : enc.pad with
    | none => simp [hpad] at hc
    | some p =>
      rw [hpad, Option.map_some, Option.getD_some] at hc
      exact congrArg some (List.eq_of_mem_replicate hc).symm
  fun_induction encode enc bytes with
  | case1 a b c' rest n ih =>
    simp only [List.mem_cons] at h
    rcases h with rfl | rfl | rfl | rfl | h
    · exact Or.inl ⟨_, rfl⟩
    · exact Or.inl ⟨_, rfl⟩
    · exact Or.inl ⟨_, rfl⟩
    · exact Or.inl ⟨_, rfl⟩
    · exact ih h
  | case2 a b n =>
    simp only [List.mem_cons] at h
    rcases h with rfl | rfl | rfl | h
    · exact Or.inl ⟨_, rfl⟩
    · exact Or.inl ⟨_, rfl⟩
    · exact Or.inl ⟨_, rfl⟩
    · exact Or.inr (hpadding h)
  | case3 a n =>
    simp only [List.mem_cons] at h
    rcases h with rfl | rfl | h
    · exact Or.inl ⟨_, rfl⟩
    · exact Or.inl ⟨_, rfl⟩
    · exact Or.inr (hpadding h)
  | case4 => cases h

/-- Nothing of a text is ignored. -/
lemma filter_encode (bytes : Bytes) :
    ((encode enc bytes).filter fun c => !enc.ignored c) = encode enc bytes := by
  refine List.filter_eq_self.mpr fun c hc => ?_
  rw [Bool.not_eq_true', ← Bool.not_eq_true]
  intro hignored
  rcases mem_encode_cases enc hc with ⟨d, rfl⟩ | hpad
  · cases (enc.value_symbol d).symm.trans (enc.value_ignored _ hignored)
  · cases (enc.pad_ignored c hpad).symm.trans hignored

/-- What was written is read back. -/
theorem decode_encode [DecidableEq C] (bytes : Bytes) : decode enc (encode enc bytes) = some bytes := by
  rw [decode, filter_encode, decodeDigits_encode]

/-- Different bytes have different texts. -/
lemma encode_injective : Function.Injective (encode enc) := by
  classical
  intro bytes bytes' h
  refine Option.some_injective _ ?_
  rw [← decode_encode enc bytes, h, decode_encode]

variable {enc}

/-- A text without padding consists of digits. -/
lemma mem_encode (hpad : enc.pad = none) {bytes : Bytes} {c : C} (h : c ∈ encode enc bytes) :
    ∃ d, enc.symbol d = c := by
  refine (mem_encode_cases enc h).resolve_right fun hc => ?_
  rw [hpad] at hc
  cases hc

/-- The length of a text without padding. -/
lemma length_encode (hpad : enc.pad = none) (bytes : Bytes) :
    (encode enc bytes).length = (bytes.length * 4 + 2) / 3 := by
  fun_induction encode enc bytes with
  | case1 a b c rest n ih =>
    simp only [List.length_cons, ih]
    omega
  | case2 a b n => simp [Encoding.padding, hpad]
  | case3 a n => simp [Encoding.padding, hpad]
  | case4 => rfl

/-! ## Alphabets -/

/-- The encoding with 64 characters. -/
def ofAlphabet [DecidableEq C] (alphabet : List C) (length : alphabet.length = 64)
    (nodup : alphabet.Nodup) (pad : Option C) (ignored : List C)
    (pad_notMem : ∀ c ∈ pad, c ∉ alphabet ∧ c ∉ ignored)
    (ignored_notMem : ∀ c ∈ ignored, c ∉ alphabet) : Encoding C where
  symbol d := alphabet.get (d.cast length.symm)
  value c :=
    if h : alphabet.idxOf c < alphabet.length then some ((⟨alphabet.idxOf c, h⟩ : Fin _).cast length)
    else none
  value_symbol d := by
    have hindex : alphabet.idxOf (alphabet.get (d.cast length.symm)) = d.val :=
      nodup.idxOf_getElem d.val (d.cast length.symm).isLt
    have hlt : alphabet.idxOf (alphabet.get (d.cast length.symm)) < alphabet.length := by
      rw [hindex, length]
      exact d.isLt
    rw [dif_pos hlt]
    exact congrArg some (Fin.ext hindex)
  pad := pad
  value_pad c hc := dif_neg (List.idxOf_lt_length_iff.not.mpr (pad_notMem c hc).1)
  ignored c := decide (c ∈ ignored)
  value_ignored c hc :=
    dif_neg (List.idxOf_lt_length_iff.not.mpr (ignored_notMem c (of_decide_eq_true hc)))
  pad_ignored c hc := decide_eq_false (pad_notMem c hc).2

/-- The digits for URLs. -/
def urlAlphabet : List Char :=
  "ABCDEFGHIJKLMNOPQRSTUVWXYZabcdefghijklmnopqrstuvwxyz0123456789-_".toList

/-- The standard digits. -/
def stdAlphabet : List Char :=
  "ABCDEFGHIJKLMNOPQRSTUVWXYZabcdefghijklmnopqrstuvwxyz0123456789+/".toList

/-- The ends of lines. -/
def lineEnds : List Char := ['\r', '\n']

/-- The alphabets as bytes. -/
def asBytes (chars : List Char) : Bytes := chars.map fun c => UInt8.ofNat c.toNat

lemma urlAlphabet_length : urlAlphabet.length = 64 := by decide +kernel

lemma urlAlphabet_nodup : urlAlphabet.Nodup := by decide +kernel

lemma stdAlphabet_nodup : (asBytes stdAlphabet).Nodup := by decide +kernel

lemma urlAlphabet_lineEnds : ∀ c ∈ lineEnds, c ∉ urlAlphabet := by
  intro c hc
  rcases List.mem_pair.mp hc with rfl | rfl
  · decide +kernel
  · decide +kernel

def rawURLEncoding : Encoding Char :=
  ofAlphabet urlAlphabet urlAlphabet_length urlAlphabet_nodup none lineEnds nofun
    urlAlphabet_lineEnds

lemma stdAlphabet_length : (asBytes stdAlphabet).length = 64 := by decide +kernel

lemma stdAlphabet_lineEnds : ∀ c ∈ asBytes lineEnds, c ∉ asBytes stdAlphabet := by decide +kernel

def rawStdEncoding : Encoding UInt8 :=
  ofAlphabet (asBytes stdAlphabet) stdAlphabet_length stdAlphabet_nodup none (asBytes lineEnds)
    nofun stdAlphabet_lineEnds

def stdEncoding : Encoding UInt8 :=
  ofAlphabet (asBytes stdAlphabet) stdAlphabet_length stdAlphabet_nodup (some 61) (asBytes lineEnds)
    (fun c hc => by cases hc; decide +kernel) stdAlphabet_lineEnds

/-- The digits of an alphabet are its characters. -/
lemma symbol_mem [DecidableEq C] {alphabet : List C} {length : alphabet.length = 64}
    {nodup : alphabet.Nodup} {pad : Option C} {ignored : List C}
    {pad_notMem : ∀ c ∈ pad, c ∉ alphabet ∧ c ∉ ignored}
    {ignored_notMem : ∀ c ∈ ignored, c ∉ alphabet} (d : Fin 64) :
    (ofAlphabet alphabet length nodup pad ignored pad_notMem ignored_notMem).symbol d ∈ alphabet :=
  List.get_mem _ _

example : encode stdEncoding (asBytes "any".toList) = asBytes "YW55".toList := by decide +kernel

example : decode stdEncoding (asBytes "YW4\n=".toList) = some (asBytes "an".toList) := by
  decide +kernel

end Base64
