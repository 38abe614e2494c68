import Mathlib

/-!
# Bounds for rounded arithmetic

Products and quotients of binary64 numbers are rounded.  For positive numbers in the normal range
this file bounds the rounded result from above: it exceeds the exact one by at most a factor of
`1 + 2⁻⁵²`.  The bound is enough to see that a product such as `i * (a / b)` with `i ≤ b`, computed
in binary64 and cut off after the point, does not exceed `a`.

* `Represents x m e` says that `x` is the normal number `m * 2 ^ e` with a mantissa of 53 bits.
* `represents_ofNat`, `Represents.div` and `Represents.mul` follow the operations.
* `toNat_toUInt64_le` bounds the number before the point.
-/

namespace Binary64

open Float.Model Float.Model.UnpackedFloat

/-- The number with a mantissa and an exponent. -/
def value (m : ℕ) (e : ℤ) : ℚ := m * 2 ^ e

/-- A mantissa has exactly 53 bits. -/
def Normal (m : ℕ) : Prop := 2 ^ 52 ≤ m ∧ m < 2 ^ 53

/-- A binary64 number is positive and normal, with the given mantissa and exponent. -/
def Represents (x : Float) (m : ℕ) (e : ℤ) : Prop :=
  Normal m ∧ ∃ h, x.toModel.unpack = .finite .positive m e h

/-! ## Mantissas -/

/-- A mantissa with 53 bits has logarithm 52. -/
lemma Normal.log2_eq {m : ℕ} (h : Normal m) : m.log2 = 52 := by
  have hpos : m ≠ 0 := by
    have := h.1
    omega
  exact (Nat.log2_eq_iff hpos).mpr h

/-- Shifting an extended mantissa divides its mantissa by a power of two. -/
lemma mantissa_shiftRight (em : ExtendedMantissa) (n : ℕ) :
    (em >>> n).mantissa = em.mantissa / 2 ^ n := by
  have hshift : ∀ k : ℕ, (k.repeat ExtendedMantissa.shiftRightOne em).mantissa =
      em.mantissa / 2 ^ k := by
    intro k
    induction k with
    | zero => simp [Nat.repeat]
    | succ k ih =>
      have hone : ((k + 1).repeat ExtendedMantissa.shiftRightOne em).mantissa =
          (k.repeat ExtendedMantissa.shiftRightOne em).mantissa / 2 := rfl
      rw [hone, ih, Nat.div_div_eq_div_mul, pow_succ]
  exact hshift n

/-- Rounding keeps a mantissa or adds one to it. -/
lemma roundedMantissa_mem (em : ExtendedMantissa) :
    em.mantissa ≤ em.roundedMantissa ∧ em.roundedMantissa ≤ em.mantissa + 1 := by
  obtain ⟨m, r, s⟩ := em
  cases r <;> cases s <;>
    simp only [ExtendedMantissa.roundedMantissa, ExtendedMantissa.accuracy,
      Accuracy.roundToNearestEven] <;> omega

/-- The extended mantissa of a mantissa has this mantissa. -/
lemma mantissa_ofMantissaAndAccuracy (m : ℕ) (a : Accuracy) :
    (ExtendedMantissa.ofMantissaAndAccuracy m a).mantissa = m := by
  cases a with
  | exact => rfl
  | inexact o => cases o <;> rfl

/-- The target exponent of a number that is not too small. -/
lemma targetExponent_eq {m : ℕ} {e : ℤ} (he : -1022 ≤ m.log2 + e) :
    Format.binary64.targetExponent (totalExponent m e) = m.log2 + e - 52 := by
  unfold Format.targetExponent totalExponent Format.mantissaBits Format.minExponent
  simp only [Format.mantissaBits]
  omega

/-- Shifting a mantissa to its target exponent. -/
lemma shiftToTargetExponent_eq {m : ℕ} {e : ℤ} (a : Accuracy) (hm : 52 ≤ m.log2)
    (he : -1022 ≤ m.log2 + e) :
    (shiftToTargetExponent Format.binary64 m e a).1.mantissa = m / 2 ^ (m.log2 - 52) ∧
      (shiftToTargetExponent Format.binary64 m e a).2 = e + (m.log2 - 52 : ℕ) := by
  have hn : (m.log2 + e - 52 - e).toNat = m.log2 - 52 := by omega
  unfold shiftToTargetExponent shiftToExponent
  simp only [targetExponent_eq he, hn, mantissa_shiftRight, mantissa_ofMantissaAndAccuracy]
  exact ⟨trivial, trivial⟩

/-! ## Rounding -/

/-- The factor by which a rounded number may exceed the exact one. -/
def slack : ℚ := 1 + 1 / 2 ^ 52

/-- The leading 53 bits of a number. -/
lemma normal_div {m n : ℕ} (hm : m.log2 = n + 52) : Normal (m / 2 ^ n) := by
  have hpos : m ≠ 0 := by
    rintro rfl
    simp at hm
  obtain ⟨hlow, hhigh⟩ := (Nat.log2_eq_iff hpos).mp hm
  constructor
  · rw [Nat.le_div_iff_mul_le (Nat.two_pow_pos n), ← pow_add, Nat.add_comm]
    exact hlow
  · refine Nat.div_lt_of_lt_mul ?_
    rw [← pow_add]
    exact hhigh

/-- A number that exceeds the leading 53 bits of `m` by at most one exceeds `m` by at most the
slack, when the bits are shifted back. -/
lemma mul_two_pow_le {m n r : ℕ} (hm : m.log2 = n + 52) (hr : r ≤ m / 2 ^ n + 1) :
    (r : ℚ) * 2 ^ n ≤ m * slack := by
  have hpos : m ≠ 0 := by
    rintro rfl
    simp at hm
  have hlow : (2 : ℚ) ^ n * 2 ^ 52 ≤ m := by
    rw [← pow_add]
    exact_mod_cast ((Nat.log2_eq_iff hpos).mp hm).1
  have hdiv : ((m / 2 ^ n : ℕ) : ℚ) * 2 ^ n ≤ m := by
    exact_mod_cast Nat.div_mul_le_self m (2 ^ n)
  have hr' : (r : ℚ) ≤ ((m / 2 ^ n : ℕ) : ℚ) + 1 := by exact_mod_cast hr
  have hpow : (0 : ℚ) ≤ 2 ^ n := by positivity
  have hmul : (r : ℚ) * 2 ^ n ≤ (((m / 2 ^ n : ℕ) : ℚ) + 1) * 2 ^ n :=
    mul_le_mul_of_nonneg_right hr' hpow
  unfold slack
  linarith

/-- The second shift of a rounding removes the bit that a carry makes. -/
lemma finish_round {r : ℕ} {e : ℤ} (s : Sign) (hlow : 2 ^ 52 ≤ r) (hhigh : r ≤ 2 ^ 53)
    (he : -1074 ≤ e) :
    ∃ M E h, Normal M ∧ e ≤ E ∧ E ≤ e + 1 ∧ value M E = value r e ∧
      (if h : (shiftToTargetExponent Format.binary64 r e .exact).1.mantissa = 0 then
          UnpackedFloat.zero s
        else .finite s (shiftToTargetExponent Format.binary64 r e .exact).1.mantissa
          (shiftToTargetExponent Format.binary64 r e .exact).2 (Nat.pos_of_ne_zero h)) =
        .finite s M E h := by
  have hpos : r ≠ 0 := Nat.ne_zero_of_lt (lt_of_lt_of_le (Nat.two_pow_pos 52) hlow)
  have hlog : 52 ≤ r.log2 := (Nat.le_log2 hpos).mpr hlow
  obtain ⟨hmant, hexp⟩ := shiftToTargetExponent_eq (m := r) (e := e) .exact hlog (by omega)
  rcases hhigh.lt_or_eq with hlt | heq
  · -- no carry
    have hnormal : Normal r := ⟨hlow, hlt⟩
    rw [hnormal.log2_eq] at hmant hexp
    simp only [Nat.sub_self, pow_zero, Nat.div_one, Nat.cast_zero, add_zero] at hmant hexp
    refine ⟨r, e, Nat.pos_of_ne_zero hpos, hnormal, le_rfl, by omega, rfl, ?_⟩
    rw [dif_neg (by rwa [hmant])]
    simp only [hmant, hexp]
  · -- the carry makes one more bit
    have hrlog : r.log2 = 53 := by rw [heq, Nat.log2_two_pow]
    rw [hrlog] at hmant hexp
    have hhalf : r / 2 ^ (53 - 52) = 2 ^ 52 := by
      rw [heq]
      norm_num
    rw [hhalf] at hmant
    have hcast : ((53 - 52 : ℕ) : ℤ) = 1 := by norm_num
    rw [hcast] at hexp
    refine ⟨2 ^ 52, e + 1, Nat.two_pow_pos 52, ⟨le_rfl, by norm_num⟩, by omega, le_rfl, ?_, ?_⟩
    · rw [value, value, heq, zpow_add_one₀ two_ne_zero]
      push_cast
      ring
    · rw [dif_neg (by rw [hmant]; norm_num)]
      simp only [hmant, hexp]

/-- Rounding a number with at least 53 bits gives a normal number that exceeds it by at most the
slack. -/
lemma roundWithAccuracy_spec {m : ℕ} {e : ℤ} (s : Sign) (a : Accuracy) (hm : 52 ≤ m.log2)
    (he : -1022 ≤ m.log2 + e) :
    ∃ M E h, roundWithAccuracy Format.binary64 s m e a = .finite s M E h ∧ Normal M ∧
      e + m.log2 - 52 ≤ E ∧ E ≤ e + m.log2 - 51 ∧ value M E ≤ value m e * slack := by
  obtain ⟨hem, hexp⟩ := shiftToTargetExponent_eq (e := e) a hm he
  obtain ⟨n, hn⟩ : ∃ n, m.log2 = n + 52 := ⟨m.log2 - 52, by omega⟩
  have hsub : m.log2 - 52 = n := by omega
  rw [hsub] at hem hexp
  have hq : Normal (m / 2 ^ n) := normal_div hn
  obtain ⟨hr₁, hr₂⟩ := roundedMantissa_mem (shiftToTargetExponent Format.binary64 m e a).1
  rw [hem] at hr₁ hr₂
  obtain ⟨M, E, h, hM, hE₁, hE₂, hval, hfinish⟩ := finish_round (e := e + n) s (hq.1.trans hr₁)
    (hr₂.trans hq.2) (by omega)
  refine ⟨M, E, h, ?_, hM, by omega, by omega, ?_⟩
  · rw [← hfinish, ← hexp]
    rfl
  · have hstep := mul_two_pow_le hn hr₂
    have hsplit : ∀ r : ℕ, value r (e + n) = (r : ℚ) * 2 ^ n * 2 ^ e := by
      intro r
      rw [value, zpow_add₀ two_ne_zero, zpow_natCast]
      ring
    rw [hval, hsplit, value]
    calc _ ≤ m * slack * 2 ^ e := mul_le_mul_of_nonneg_right hstep (zpow_nonneg zero_le_two e)
      _ = m * 2 ^ e * slack := by ring

/-! ## Packing -/

/-- The sign bit of packed components. -/
lemma unpackSign_pack (s : Sign) (x : BitVec 11) (m : BitVec 52) :
    Sign.ofBitVec (unpackSign (packComponents Format.binary64 s x m)) = s := by
  have hbit : unpackSign (packComponents Format.binary64 s x m) = s.toBitVec := by
    refine BitVec.eq_of_getLsbD_eq fun i hi => ?_
    have hzero : i = 0 := Nat.lt_one_iff.mp hi
    rw [hzero]
    simp only [unpackSign, packComponents, BitVec.getLsbD_cast, BitVec.getLsbD_extractLsb]
    rw [BitVec.getLsbD_append, BitVec.getLsbD_append]
    simp
  rw [hbit]
  cases s <;> rfl

/-- The leading bit that the packed format leaves out. -/
lemma implicit_bit {m : ℕ} (hm : Normal m) : (1#1 ++ BitVec.ofNat 52 m).toNat = m := by
  obtain ⟨hlow, hhigh⟩ := hm
  have hrest : (BitVec.ofNat 52 m).toNat = m - 2 ^ 52 := by
    rw [BitVec.toNat_ofNat]
    omega
  rw [BitVec.toNat_append, hrest, ← Nat.shiftLeft_add_eq_or_of_lt (by omega)]
  simp only [BitVec.toNat_ofNat, Nat.shiftLeft_eq]
  omega

/-- A normal number in range survives packing. -/
lemma unpack_pack {s : Sign} {m : ℕ} {e : ℤ} (hm : Normal m) (hlow : -1000 ≤ e) (hhigh : e ≤ 900)
    (h : 0 < m) :
    (Float.Model.pack (.finite s m e h)).unpack = .finite s m e h := by
  -- the biased exponent is neither of the two reserved ones
  obtain ⟨b, hb⟩ : ∃ b : ℕ, (b : ℤ) = e + 1075 := ⟨(e + 1075).toNat, by omega⟩
  have hbits : (BitVec.ofNat 11 b).toNat = b := by
    rw [BitVec.toNat_ofNat]
    omega
  have hzero : BitVec.ofNat 11 b ≠ 0#11 := by
    intro hcontra
    have hnat := congrArg BitVec.toNat hcontra
    rw [hbits] at hnat
    simp at hnat
    omega
  have hones : BitVec.ofNat 11 b ≠ -1#11 := by
    intro hcontra
    have hnat := congrArg BitVec.toNat hcontra
    rw [hbits] at hnat
    simp at hnat
    omega
  have hbias : (e + Format.binary64.exponentBias +
      Format.binary64.mantissaBitsWithoutImplicit).toNat = b := by
    have hvalue : (Format.binary64.exponentBias : ℤ) = 1023 := rfl
    rw [hvalue]
    simp only
    omega
  have hpack : UnpackedFloat.pack Format.binary64 (.finite s m e h) =
      packComponents Format.binary64 s (BitVec.ofNat 11 b) (BitVec.ofNat 52 m) := by
    unfold UnpackedFloat.pack
    simp only [hbias, hm.log2_eq]
    rw [if_neg (by omega), if_pos (by decide)]
  have hexp : ((BitVec.ofNat 11 b).toNat : ℤ) -
      (Format.binary64.exponentBias + Format.binary64.mantissaBitsWithoutImplicit) = e := by
    have hvalue : (Format.binary64.exponentBias : ℤ) = 1023 := rfl
    rw [hbits, hvalue]
    simp only
    omega
  have hunpack : (Float.Model.pack (.finite s m e h)).unpack =
      UnpackedFloat.unpack Format.binary64
        (UnpackedFloat.pack Format.binary64 (.finite s m e h)) := rfl
  rw [hunpack, hpack, UnpackedFloat.unpack]
  simp only [unpackMantissa_packComponents, unpackExponent_packComponents, unpackSign_pack]
  rw [if_neg hones, if_neg hzero]
  simp only [implicit_bit hm, hexp]

/-- A number that rounds to a normal number in range is represented by it. -/
lemma represents_pack {f : UnpackedFloat} {m : ℕ} {e : ℤ} {h : 0 < m}
    (hf : f = .finite .positive m e h) (hm : Normal m) (hlow : -1000 ≤ e) (hhigh : e ≤ 900) :
    Represents (.ofModel (Float.Model.pack f)) m e :=
  ⟨hm, h, by rw [hf]; exact unpack_pack hm hlow hhigh h⟩

/-! ## Operations -/

/-- Shifting a positive number to the left moves its logarithm. -/
lemma log2_mul_two_pow {n : ℕ} (hn : n ≠ 0) (k : ℕ) : (n * 2 ^ k).log2 = n.log2 + k := by
  induction k with
  | zero => simp
  | succ k ih =>
    have hne : n * 2 ^ k ≠ 0 := Nat.mul_ne_zero hn (Nat.two_pow_pos k).ne'
    have hstep : n * 2 ^ (k + 1) = 2 * (n * 2 ^ k) := by ring
    rw [hstep, Nat.log2_two_mul hne, ih, add_assoc]

/-- Rounding leaves a normal number alone. -/
lemma roundWithAccuracy_exact {m : ℕ} {e : ℤ} (s : Sign) (hm : Normal m) (he : -1074 ≤ e)
    (h : 0 < m) : roundWithAccuracy Format.binary64 s m e .exact = .finite s m e h := by
  have hshift : shiftToTargetExponent Format.binary64 m e .exact = (⟨m, false, false⟩, e) := by
    have hlog := hm.log2_eq
    have htarget : Format.binary64.targetExponent (totalExponent m e) = e := by
      rw [targetExponent_eq (by omega), hlog]
      omega
    unfold shiftToTargetExponent shiftToExponent
    simp only [htarget, sub_self, Int.toNat_zero, Nat.cast_zero, add_zero]
    rfl
  unfold roundWithAccuracy
  simp only [hshift]
  have hrounded : (⟨m, false, false⟩ : ExtendedMantissa).roundedMantissa = m := rfl
  simp only [hrounded, hshift]
  rw [dif_neg h.ne']

/-- A positive integer below `2 ^ 53` is represented exactly. -/
lemma represents_ofNat {n : ℕ} (hpos : 0 < n) (hlt : n < 2 ^ 53) :
    ∃ m e, Represents (UInt64.ofNat n).toFloat m e ∧ value m e = n ∧ -52 ≤ e ∧ e ≤ 0 := by
  have hlog : n.log2 ≤ 52 := Nat.lt_succ_iff.mp ((Nat.log2_lt hpos.ne').mpr hlt)
  obtain ⟨k, hk⟩ : ∃ k, n.log2 + k = 52 := ⟨52 - n.log2, by omega⟩
  have hmlog : (n * 2 ^ k).log2 = 52 := by rw [log2_mul_two_pow hpos.ne', hk]
  have hmpos : 0 < n * 2 ^ k := Nat.mul_pos hpos (Nat.two_pow_pos k)
  have hnormal : Normal (n * 2 ^ k) := (Nat.log2_eq_iff hmpos.ne').mp hmlog
  have htarget : Format.binary64.targetExponent (totalExponent n 0) = -k := by
    rw [targetExponent_eq (by omega)]
    omega
  have hround : UnpackedFloat.round Format.binary64 .positive n 0 =
      .finite .positive (n * 2 ^ k) (-k) hmpos := by
    have hdec : decreaseExponent n 0 (-k) = (n * 2 ^ k, -(k : ℤ)) := by
      unfold decreaseExponent
      simp [Nat.shiftLeft_eq]
    unfold UnpackedFloat.round
    simp only [htarget, hdec]
    exact roundWithAccuracy_exact .positive hnormal (by omega) hmpos
  have hof : UnpackedFloat.ofUInt64 Format.binary64 (UInt64.ofNat n) =
      .finite .positive (n * 2 ^ k) (-k) hmpos := by
    have hnat : (UInt64.ofNat n).toNat = n := by
      rw [UInt64.toNat_ofNat']
      omega
    unfold UnpackedFloat.ofUInt64 UnpackedFloat.ofNat UnpackedFloat.ofInt
      UnpackedFloat.normalize
    rw [hnat, Int.compare_eq_gt.mpr (by omega)]
    exact hround
  refine ⟨n * 2 ^ k, -k, represents_pack hof hnormal (by omega) (by omega), ?_, by omega, by omega⟩
  rw [value, zpow_neg, zpow_natCast]
  push_cast
  field_simp

/-- The value of a normal number is positive. -/
lemma value_pos {m : ℕ} (e : ℤ) (hm : Normal m) : 0 < value m e := by
  have hpos : 0 < m := lt_of_lt_of_le (Nat.two_pow_pos 52) hm.1
  unfold value
  positivity

/-- The quotient of two normal numbers is computed with 53 extra bits. -/
lemma divCore_eq {m₁ m₂ : ℕ} {e₁ e₂ : ℤ} (hm₁ : Normal m₁) (hm₂ : Normal m₂)
    (he : -1000 ≤ e₁ - e₂) :
    divCore Format.binary64 m₁ e₁ m₂ e₂ = (m₁ * 2 ^ 53 / m₂, e₁ - e₂ - 53,
        accuracyOfFraction (m₁ * 2 ^ 53 % m₂) m₂) ∧
      52 ≤ (m₁ * 2 ^ 53 / m₂).log2 ∧ (m₁ * 2 ^ 53 / m₂).log2 < 54 := by
  have hlog₁ := hm₁.log2_eq
  have hlog₂ := hm₂.log2_eq
  have hp₂ : 0 < m₂ := lt_of_lt_of_le (Nat.two_pow_pos 52) hm₂.1
  have htarget : min (e₁ - e₂) (Format.binary64.targetExponent
      (totalExponent m₁ e₁ - totalExponent m₂ e₂)) = e₁ - e₂ - 53 := by
    have hdiff : totalExponent m₁ e₁ - totalExponent m₂ e₂ = e₁ - e₂ := by
      unfold totalExponent
      omega
    rw [hdiff]
    unfold Format.targetExponent Format.minExponent
    simp only [Format.mantissaBits]
    omega
  have hshift : (e₁ - e₂ - (e₁ - e₂ - 53)).toNat = 53 := by omega
  have hqlow : 2 ^ 52 ≤ m₁ * 2 ^ 53 / m₂ := by
    rw [Nat.le_div_iff_mul_le hp₂]
    calc 2 ^ 52 * m₂ ≤ 2 ^ 52 * 2 ^ 53 := Nat.mul_le_mul_left _ hm₂.2.le
      _ ≤ m₁ * 2 ^ 53 := Nat.mul_le_mul_right _ hm₁.1
  have hqhigh : m₁ * 2 ^ 53 / m₂ < 2 ^ 54 := by
    rw [Nat.div_lt_iff_lt_mul hp₂]
    calc m₁ * 2 ^ 53 < 2 ^ 53 * 2 ^ 53 := Nat.mul_lt_mul_of_pos_right hm₁.2 (Nat.two_pow_pos 53)
      _ = 2 ^ 54 * 2 ^ 52 := by norm_num
      _ ≤ 2 ^ 54 * m₂ := Nat.mul_le_mul_left _ hm₂.1
  have hqpos : m₁ * 2 ^ 53 / m₂ ≠ 0 :=
    Nat.ne_zero_of_lt (lt_of_lt_of_le (Nat.two_pow_pos 52) hqlow)
  refine ⟨?_, (Nat.le_log2 hqpos).mpr hqlow, (Nat.log2_lt hqpos).mpr hqhigh⟩
  unfold divCore
  simp only [htarget, hshift, Nat.shiftLeft_eq]

/-- The rounded quotient of two normal numbers exceeds their quotient by at most the slack. -/
lemma Represents.div {x y : Float} {m₁ m₂ : ℕ} {e₁ e₂ : ℤ} (hx : Represents x m₁ e₁)
    (hy : Represents y m₂ e₂) (h₁ : |e₁| ≤ 200) (h₂ : |e₂| ≤ 200) :
    ∃ M E, Represents (x / y) M E ∧ |E| ≤ 500 ∧
      value M E ≤ value m₁ e₁ / value m₂ e₂ * slack := by
  obtain ⟨hm₁, hp₁, hux⟩ := hx
  obtain ⟨hm₂, hp₂, huy⟩ := hy
  rw [abs_le] at h₁ h₂
  obtain ⟨hcore, hqlog, hqlog'⟩ := divCore_eq hm₁ hm₂ (show -1000 ≤ e₁ - e₂ by omega)
  set q := m₁ * 2 ^ 53 / m₂ with hq
  obtain ⟨M, E, h, hround, hM, hE₁, hE₂, hval⟩ := roundWithAccuracy_spec (e := e₁ - e₂ - 53)
    .positive (accuracyOfFraction (m₁ * 2 ^ 53 % m₂) m₂) hqlog (by omega)
  have hdiv : UnpackedFloat.div Format.binary64 x.toModel.unpack y.toModel.unpack =
      .finite .positive M E h := by
    rw [hux, huy, ← hround]
    unfold UnpackedFloat.div
    simp only [hcore]
    rfl
  refine ⟨M, E, represents_pack hdiv hM (by omega) (by omega), ?_, hval.trans ?_⟩
  · rw [abs_le]
    omega
  · refine mul_le_mul_of_nonneg_right ?_ (by unfold slack; positivity)
    rw [le_div_iff₀ (value_pos e₂ hm₂)]
    have hmul : (q : ℚ) * m₂ ≤ m₁ * 2 ^ 53 := by exact_mod_cast Nat.div_mul_le_self _ _
    have hpow : (2 : ℚ) ^ (e₁ - e₂ - 53) * 2 ^ e₂ * 2 ^ 53 = 2 ^ e₁ := by
      rw [← zpow_natCast (2 : ℚ) 53, ← zpow_add₀ two_ne_zero, ← zpow_add₀ two_ne_zero]
      congr 1
      push_cast
      ring
    have hnonneg : (0 : ℚ) ≤ 2 ^ (e₁ - e₂ - 53) * 2 ^ e₂ := by positivity
    unfold value
    calc (q : ℚ) * 2 ^ (e₁ - e₂ - 53) * (m₂ * 2 ^ e₂)
        = (q * m₂) * (2 ^ (e₁ - e₂ - 53) * 2 ^ e₂) := by ring
      _ ≤ (m₁ * 2 ^ 53) * (2 ^ (e₁ - e₂ - 53) * 2 ^ e₂) :=
          mul_le_mul_of_nonneg_right hmul hnonneg
      _ = m₁ * (2 ^ (e₁ - e₂ - 53) * 2 ^ e₂ * 2 ^ 53) := by ring
      _ = m₁ * 2 ^ e₁ := by rw [hpow]

/-- The product of two mantissas has 105 or 106 bits. -/
lemma log2_mul {m₁ m₂ : ℕ} (hm₁ : Normal m₁) (hm₂ : Normal m₂) :
    104 ≤ (m₁ * m₂).log2 ∧ (m₁ * m₂).log2 < 106 := by
  have hlow : 2 ^ 104 ≤ m₁ * m₂ :=
    calc 2 ^ 104 = 2 ^ 52 * 2 ^ 52 := by norm_num
      _ ≤ m₁ * m₂ := Nat.mul_le_mul hm₁.1 hm₂.1
  have hhigh : m₁ * m₂ < 2 ^ 106 :=
    calc m₁ * m₂ < 2 ^ 53 * 2 ^ 53 := Nat.mul_lt_mul'' hm₁.2 hm₂.2
      _ = 2 ^ 106 := by norm_num
  have hpos : m₁ * m₂ ≠ 0 := Nat.ne_zero_of_lt (lt_of_lt_of_le (Nat.two_pow_pos 104) hlow)
  exact ⟨(Nat.le_log2 hpos).mpr hlow, (Nat.log2_lt hpos).mpr hhigh⟩

/-- The rounded product of two normal numbers exceeds their product by at most the slack. -/
lemma Represents.mul {x y : Float} {m₁ m₂ : ℕ} {e₁ e₂ : ℤ} (hx : Represents x m₁ e₁)
    (hy : Represents y m₂ e₂) (h₁ : |e₁| ≤ 200) (h₂ : |e₂| ≤ 500) :
    ∃ M E, Represents (x * y) M E ∧ value M E ≤ value m₁ e₁ * value m₂ e₂ * slack := by
  obtain ⟨hm₁, hp₁, hux⟩ := hx
  obtain ⟨hm₂, hp₂, huy⟩ := hy
  rw [abs_le] at h₁ h₂
  obtain ⟨hlog, hlog'⟩ := log2_mul hm₁ hm₂
  obtain ⟨M, E, h, hround, hM, hE₁, hE₂, hval⟩ := roundWithAccuracy_spec (e := e₁ + e₂)
    .positive .exact (le_trans (by norm_num) hlog) (by omega)
  have hmul : UnpackedFloat.mul Format.binary64 x.toModel.unpack y.toModel.unpack =
      .finite .positive M E h := by
    rw [hux, huy, ← hround]
    rfl
  refine ⟨M, E, represents_pack hmul hM (by omega) (by omega), hval.trans (le_of_eq ?_)⟩
  unfold value
  rw [zpow_add₀ two_ne_zero]
  push_cast
  ring

/-! ## Cutting off after the point -/

/-- A normal number below `k + 1` has at most `k` before the point. -/
lemma Represents.toNat_toUInt64_le {x : Float} {m : ℕ} {e : ℤ} (hx : Represents x m e) {k : ℕ}
    (hk : k < 2 ^ 51) (hlt : value m e < k + 1) : x.toUInt64.toNat ≤ k := by
  obtain ⟨hm, hp, hux⟩ := hx
  have he : e ≤ 0 := by
    by_contra hpos
    have hone : (1 : ℚ) ≤ 2 ^ e := one_le_zpow₀ one_le_two (by omega)
    have hm' : (2 : ℚ) ^ 52 ≤ m := by exact_mod_cast hm.1
    have hk' : (k : ℚ) + 1 ≤ 2 ^ 51 := by exact_mod_cast hk
    have hmul : (m : ℚ) ≤ m * 2 ^ e := le_mul_of_one_le_right (by positivity) hone
    unfold value at hlt
    linarith
  obtain ⟨n, rfl⟩ : ∃ n : ℕ, e = -n := ⟨(-e).toNat, by omega⟩
  have hint : x.toModel.unpack.toInt 0 (UInt64.size - 1) = (m / 2 ^ n : ℕ) := by
    have hdec : decreaseExponent m (-n) 0 = (m, -(n : ℤ)) := by
      unfold decreaseExponent
      simp
    rw [hux]
    unfold UnpackedFloat.toInt UnpackedFloat.roundToInt
    simp only [hdec, shiftToExponent, mantissa_shiftRight, mantissa_ofMantissaAndAccuracy]
    have hshift : (0 - -(n : ℤ)).toNat = n := by omega
    rw [hshift]
    rfl
  have hle : m / 2 ^ n ≤ k := by
    refine Nat.lt_succ_iff.mp ((Nat.div_lt_iff_lt_mul (Nat.two_pow_pos n)).mpr ?_)
    rw [value, zpow_neg, zpow_natCast, ← div_eq_mul_inv, div_lt_iff₀ (by positivity)] at hlt
    exact_mod_cast hlt
  have hconv : x.toUInt64 = UInt64.ofNatClamp (m / 2 ^ n) := by
    have hdef : x.toUInt64 =
        UInt64.ofNatClamp (x.toModel.unpack.toInt 0 (UInt64.size - 1)).toNat := rfl
    rw [hdef, hint]
    rfl
  have hsmall : m / 2 ^ n < UInt64.size := lt_of_le_of_lt hle (hk.trans (by decide))
  rw [hconv, UInt64.ofNatClamp_eq_ofNat _ hsmall, UInt64.toNat_ofNat_of_lt' hsmall]
  exact hle

/-- Zero times a normal number is zero. -/
lemma Represents.zero_mul {x : Float} {m : ℕ} {e : ℤ} (hx : Represents x m e) :
    ((UInt64.ofNat 0).toFloat * x).toUInt64 = 0 := by
  obtain ⟨-, hp, hux⟩ := hx
  have hzero : (UInt64.ofNat 0).toFloat.toModel.unpack = .zero .positive := rfl
  have hmul : (UInt64.ofNat 0).toFloat * x = .ofModel (Float.Model.pack (.zero .positive)) := by
    have hdef : ∀ y z : Float, y * z = .ofModel (Float.Model.pack
        (UnpackedFloat.mul Format.binary64 y.toModel.unpack z.toModel.unpack)) := fun y z => rfl
    rw [hdef, hzero, hux]
    rfl
  rw [hmul]
  decide

/-- The rounded quotient of two positive numbers below `2 ^ 50`. -/
lemma represents_div {a b : ℕ} (ha : 0 < a) (ha' : a < 2 ^ 50) (hb : 0 < b) (hb' : b < 2 ^ 50) :
    ∃ m e, Represents ((UInt64.ofNat a).toFloat / (UInt64.ofNat b).toFloat) m e ∧ |e| ≤ 500 ∧
      value m e ≤ a / b * slack := by
  obtain ⟨ma, ea, hra, hva, ha₁, ha₂⟩ := represents_ofNat ha (ha'.trans (by norm_num))
  obtain ⟨mb, eb, hrb, hvb, hb₁, hb₂⟩ := represents_ofNat hb (hb'.trans (by norm_num))
  obtain ⟨mq, eq, hrq, heq, hvq⟩ := hra.div hrb (abs_le.mpr (by omega)) (abs_le.mpr (by omega))
  rw [hva, hvb] at hvq
  exact ⟨mq, eq, hrq, heq, hvq⟩

/-- Scaling zero by a rounded quotient. -/
theorem zero_mul_div {a b : ℕ} (ha : 0 < a) (ha' : a < 2 ^ 50) (hb : 0 < b) (hb' : b < 2 ^ 50) :
    ((UInt64.ofNat 0).toFloat * ((UInt64.ofNat a).toFloat / (UInt64.ofNat b).toFloat)).toUInt64 =
      0 := by
  obtain ⟨m, e, hq, -, -⟩ := represents_div ha ha' hb hb'
  exact hq.zero_mul

/-- Scaling by a rounded quotient: for `i ≤ b` the number before the point of `i * (a / b)`,
computed in binary64, is at most `a`. -/
theorem toNat_mul_div_le {a b i : ℕ} (ha : 0 < a) (ha' : a < 2 ^ 50) (hb : 0 < b) (hb' : b < 2 ^ 50)
    (hi : i ≤ b) :
    ((UInt64.ofNat i).toFloat *
      ((UInt64.ofNat a).toFloat / (UInt64.ofNat b).toFloat)).toUInt64.toNat ≤
        a := by
  obtain ⟨mq, eq, hrq, heq, hvq⟩ := represents_div ha ha' hb hb'
  rcases Nat.eq_zero_or_pos i with rfl | hi'
  · rw [hrq.zero_mul]
    exact Nat.zero_le a
  · obtain ⟨mi, ei, hri, hvi, hi₁, hi₂⟩ := represents_ofNat hi'
      (lt_of_le_of_lt hi (hb'.trans (by norm_num)))
    obtain ⟨mp, ep, hrp, hvp⟩ := hri.mul hrq (abs_le.mpr (by omega)) heq
    rw [hvi] at hvp
    refine hrp.toNat_toUInt64_le (ha'.trans (by norm_num)) (lt_of_le_of_lt hvp ?_)
    have hib : (i : ℚ) ≤ b := by exact_mod_cast hi
    have hbpos : (0 : ℚ) < b := by exact_mod_cast hb
    have haq : (a : ℚ) ≤ 2 ^ 50 := by exact_mod_cast ha'.le
    have hapos : (0 : ℚ) < a := by exact_mod_cast ha
    have hslack : slack * slack ≤ 1 + 1 / 2 ^ 51 + 1 / 2 ^ 100 := by
      unfold slack
      norm_num
    have hpos : 0 < slack := by
      unfold slack
      positivity
    calc (i : ℚ) * value mq eq * slack ≤ i * (a / b * slack) * slack := by
          gcongr
      _ = i / b * a * (slack * slack) := by
          field_simp
      _ ≤ 1 * a * (slack * slack) := by
          gcongr
          exact (div_le_one hbpos).mpr hib
      _ < a + 1 := by
          have hmul : (a : ℚ) * (slack * slack) ≤ a * (1 + 1 / 2 ^ 51 + 1 / 2 ^ 100) :=
            mul_le_mul_of_nonneg_left hslack hapos.le
          rw [one_mul]
          linarith

end Binary64
