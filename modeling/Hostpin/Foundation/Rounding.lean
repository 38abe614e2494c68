import Hostpin.Foundation.Binary64

/-!
# Rounding is monotone

The operations on binary64 numbers round the exact result to a number with a mantissa of 53 bits.
Rounding does not cross such a number: when the exact result lies on one side of it, the rounded
result does not lie on the other (`Rounds`).  So an upper or a lower bound that has 53 bits carries
over from the exact result to the computed one, and a result that has 53 bits is computed exactly
(`Rounds.eq`).

* `Denotes x v b` says that `x` is zero or a normal number with the value `v`, and that its exponent
  is at most `b`.
* `Representable` says of a rational number that a mantissa of 53 bits suffices for it.
* `denotes_ofInt`, `Denotes.add` and `Denotes.div` follow the operations.
-/

namespace Binary64

open Float.Model Float.Model.UnpackedFloat

/-! ## Numbers with 53 bits -/

/-- A number for which a mantissa of 53 bits suffices. -/
def Representable (g : ℚ) : Prop := ∃ k j : ℤ, |k| < 2 ^ 53 ∧ g = k * 2 ^ j

/-- No number with 53 bits lies between an exact result and the rounded one. -/
def Rounds (q v : ℚ) : Prop :=
  ∀ g, Representable g → (g ≤ q → g ≤ v) ∧ (q ≤ g → v ≤ g)

lemma Representable.neg {g : ℚ} (h : Representable g) : Representable (-g) := by
  obtain ⟨k, j, hk, rfl⟩ := h
  refine ⟨-k, j, by rwa [abs_neg], ?_⟩
  push_cast
  ring

/-- Small integers, divided by a power of two. -/
lemma representable_div {k : ℤ} (n : ℕ) (hk : |k| < 2 ^ 53) : Representable (k / 2 ^ n) := by
  refine ⟨k, -n, hk, ?_⟩
  rw [zpow_neg, zpow_natCast, div_eq_mul_inv]

lemma representable_int {k : ℤ} (hk : |k| < 2 ^ 53) : Representable k := by
  have h := representable_div 0 hk
  rwa [pow_zero, div_one] at h

lemma Rounds.refl (q : ℚ) : Rounds q q := fun _ _ => ⟨id, id⟩

lemma Rounds.neg {q v : ℚ} (h : Rounds q v) : Rounds (-q) (-v) := by
  intro g hg
  obtain ⟨hlow, hhigh⟩ := h (-g) hg.neg
  constructor
  · intro hle
    have := hhigh (by linarith)
    linarith
  · intro hle
    have := hlow (by linarith)
    linarith

/-- A result with 53 bits is computed exactly. -/
lemma Rounds.eq {q v : ℚ} (h : Rounds q v) (hq : Representable q) : v = q :=
  le_antisymm ((h q hq).2 le_rfl) ((h q hq).1 le_rfl)

/-- Between two neighbours of 53 bits there is no other number with 53 bits. -/
lemma not_between {M : ℕ} {E : ℤ} (hM : Normal M) {g : ℚ} (hg : Representable g)
    (hlow : value M E < g) : value (M + 1) E ≤ g := by
  obtain ⟨k, j, hk, rfl⟩ := hg
  have hu : (0 : ℚ) < 2 ^ E := zpow_pos two_pos E
  rcases le_or_gt E j with hle | hlt
  · -- `g` is a multiple of the unit
    obtain ⟨n, rfl⟩ : ∃ n : ℕ, j = n + E := ⟨(j - E).toNat, by omega⟩
    have hsplit : (k : ℚ) * 2 ^ ((n : ℤ) + E) = ((k * 2 ^ n : ℤ) : ℚ) * 2 ^ E := by
      rw [zpow_add₀ two_ne_zero, zpow_natCast]
      push_cast
      ring
    unfold value at hlow ⊢
    rw [hsplit] at hlow ⊢
    have hint : (M : ℤ) < k * 2 ^ n := by
      have hcast : ((M : ℤ) : ℚ) < ((k * 2 ^ n : ℤ) : ℚ) := by
        exact_mod_cast lt_of_mul_lt_mul_right hlow hu.le
      exact_mod_cast hcast
    have hint' : ((M + 1 : ℕ) : ℤ) ≤ k * 2 ^ n := by
      push_cast
      omega
    refine mul_le_mul_of_nonneg_right ?_ hu.le
    exact_mod_cast hint'
  · -- `g` has fewer bits before the unit than a normal mantissa
    have hj : (2 : ℚ) ^ j ≤ 2 ^ (E - 1) := zpow_le_zpow_right₀ one_le_two (by omega)
    have hhalf : (2 : ℚ) ^ (E - 1) = 2 ^ E / 2 := by
      rw [zpow_sub₀ two_ne_zero, zpow_one]
    have hk' : (k : ℚ) < 2 ^ 53 := by exact_mod_cast (abs_lt.mp hk).2
    have hM' : (2 : ℚ) ^ 52 ≤ M := by exact_mod_cast hM.1
    have hpos : (0 : ℚ) < 2 ^ j := zpow_pos two_pos j
    have hbound : (k : ℚ) * 2 ^ j < value M E :=
      calc (k : ℚ) * 2 ^ j < 2 ^ 53 * 2 ^ j := mul_lt_mul_of_pos_right hk' hpos
        _ ≤ 2 ^ 53 * (2 ^ E / 2) := by rw [← hhalf]; gcongr
        _ = 2 ^ 52 * 2 ^ E := by ring
        _ ≤ value M E := mul_le_mul_of_nonneg_right hM' hu.le
    exact absurd hlow (not_lt.mpr hbound.le)

/-- A result between two neighbours that is rounded to one of them, and left alone when it is the
lower one. -/
lemma rounds_of_neighbour {M r : ℕ} {E : ℤ} (hM : Normal M) {q : ℚ} (hlow : value M E ≤ q)
    (hhigh : q < value (M + 1) E) (hr : r = M ∨ r = M + 1 ∧ q ≠ value M E) :
    Rounds q (value r E) := by
  have hstep : value M E ≤ value (M + 1) E := by
    unfold value
    have hu : (0 : ℚ) < 2 ^ E := zpow_pos two_pos E
    refine mul_le_mul_of_nonneg_right ?_ hu.le
    push_cast
    linarith
  intro g hg
  constructor
  · intro hle
    have hgM : g ≤ value M E := by
      by_contra hlt
      have hnext := not_between hM hg (not_le.mp hlt)
      exact absurd (lt_of_le_of_lt hle hhigh) (not_lt.mpr hnext)
    obtain rfl | ⟨rfl, -⟩ := hr
    · exact hgM
    · exact hgM.trans hstep
  · intro hle
    obtain rfl | ⟨rfl, hne⟩ := hr
    · exact hlow.trans hle
    · have hlt : value M E < q := lt_of_le_of_ne hlow hne.symm
      exact not_between hM hg (lt_of_lt_of_le hlt hle)

/-! ## Rounding a mantissa -/

/-- Shifting out bits that are zero loses nothing. -/
lemma shiftRight_exact (m n : ℕ) :
    (ExtendedMantissa.ofMantissaAndAccuracy (m * 2 ^ n) .exact) >>> n = ⟨m, false, false⟩ := by
  have hshift : ∀ k ≤ n, k.repeat ExtendedMantissa.shiftRightOne ⟨m * 2 ^ n, false, false⟩ =
      ⟨m * 2 ^ (n - k), false, false⟩ := by
    intro k hk
    induction k with
    | zero => rfl
    | succ k ih =>
      have hone : (k + 1).repeat ExtendedMantissa.shiftRightOne ⟨m * 2 ^ n, false, false⟩ =
          ExtendedMantissa.shiftRightOne
            (k.repeat ExtendedMantissa.shiftRightOne ⟨m * 2 ^ n, false, false⟩) := rfl
      have hpow : m * 2 ^ (n - k) = 2 * (m * 2 ^ (n - (k + 1))) := by
        have hexp : n - k = (n - (k + 1)) + 1 := by omega
        rw [hexp, pow_succ]
        ring
      rw [hone, ih (by omega), hpow]
      simp [ExtendedMantissa.shiftRightOne]
  have hall := hshift n le_rfl
  rwa [Nat.sub_self, pow_zero, mul_one] at hall

/-- The result of a rounding is one of the two neighbours of the leading 53 bits, and the lower one
when there are no more bits. -/
lemma roundWithAccuracy_neighbour {m : ℕ} {e : ℤ} (s : Sign) (a : Accuracy) {n : ℕ}
    (hm : m.log2 = n + 52) (he : -1022 ≤ m.log2 + e) :
    ∃ r M E h, roundWithAccuracy Format.binary64 s m e a = .finite s M E h ∧ Normal M ∧
      e + n ≤ E ∧ E ≤ e + n + 1 ∧ value M E = value r (e + n) ∧
      (r = m / 2 ^ n ∨ r = m / 2 ^ n + 1 ∧ ¬(a = .exact ∧ 2 ^ n ∣ m)) := by
  have hsub : m.log2 - 52 = n := by omega
  obtain ⟨hem, hexp⟩ := shiftToTargetExponent_eq (e := e) a (by omega) he
  rw [hsub] at hem hexp
  have hq : Normal (m / 2 ^ n) := normal_div hm
  obtain ⟨hr₁, hr₂⟩ := roundedMantissa_mem (shiftToTargetExponent Format.binary64 m e a).1
  rw [hem] at hr₁ hr₂
  obtain ⟨M, E, h, hM, hE₁, hE₂, hval, hfinish⟩ := finish_round (e := e + n) s (hq.1.trans hr₁)
    (hr₂.trans hq.2) (by omega)
  refine ⟨(shiftToTargetExponent Format.binary64 m e a).1.roundedMantissa, M, E, h, ?_, hM, hE₁,
    hE₂, hval, ?_⟩
  · rw [← hfinish, ← hexp]
    rfl
  · by_cases hexact : a = .exact ∧ 2 ^ n ∣ m
    · left
      obtain ⟨rfl, k, hk⟩ := hexact
      have hn : (m.log2 + e - 52 - e).toNat = n := by omega
      have hshift : (shiftToTargetExponent Format.binary64 m e .exact).1 = ⟨k, false, false⟩ := by
        unfold shiftToTargetExponent shiftToExponent
        simp only [targetExponent_eq he, hn]
        rw [hk, mul_comm]
        exact shiftRight_exact k n
      rw [hshift, hk, Nat.mul_div_cancel_left k (Nat.two_pow_pos n)]
      rfl
    · rcases hr₁.eq_or_lt with heq | hlt
      · exact Or.inl heq.symm
      · exact Or.inr ⟨by omega, hexact⟩

/-- The leading bits of a number and the unit after them enclose it. -/
lemma value_div_le (m n : ℕ) (e : ℤ) :
    value (m / 2 ^ n) (e + n) ≤ value m e ∧ value (m + 1) e ≤ value (m / 2 ^ n + 1) (e + n) ∧
      (value (m / 2 ^ n) (e + n) = value m e → 2 ^ n ∣ m) := by
  have hu : (0 : ℚ) < 2 ^ e := zpow_pos two_pos e
  have hsplit : ∀ r : ℕ, value r (e + n) = ((r * 2 ^ n : ℕ) : ℚ) * 2 ^ e := by
    intro r
    rw [value, zpow_add₀ two_ne_zero, zpow_natCast]
    push_cast
    ring
  have hlow : m / 2 ^ n * 2 ^ n ≤ m := Nat.div_mul_le_self m (2 ^ n)
  have hhigh : m + 1 ≤ (m / 2 ^ n + 1) * 2 ^ n := by
    have hlt := Nat.lt_div_mul_add (Nat.two_pow_pos n) (a := m)
    rw [Nat.add_mul, one_mul]
    exact hlt
  refine ⟨?_, ?_, fun heq => ?_⟩
  · rw [hsplit, value]
    exact mul_le_mul_of_nonneg_right (by exact_mod_cast hlow) hu.le
  · rw [hsplit, value]
    exact mul_le_mul_of_nonneg_right (by exact_mod_cast hhigh) hu.le
  · rw [hsplit, value] at heq
    have hnat : ((m / 2 ^ n * 2 ^ n : ℕ) : ℚ) = m := mul_right_cancel₀ hu.ne' heq
    have hnat' : m / 2 ^ n * 2 ^ n = m := by exact_mod_cast hnat
    exact ⟨m / 2 ^ n, by rw [mul_comm]; exact hnat'.symm⟩

/-- Rounding an exact result that is given by its leading bits, at least 53, and by whether there
are more. -/
lemma rounds_roundWithAccuracy {m : ℕ} {e : ℤ} (s : Sign) (a : Accuracy) (hm : 52 ≤ m.log2)
    (he : -1022 ≤ m.log2 + e) {q : ℚ} (hlow : value m e ≤ q) (hhigh : q < value (m + 1) e)
    (hexact : q = value m e → a = .exact) :
    ∃ M E h, roundWithAccuracy Format.binary64 s m e a = .finite s M E h ∧ Normal M ∧
      e + m.log2 - 52 ≤ E ∧ E ≤ e + m.log2 - 51 ∧ Rounds q (value M E) := by
  obtain ⟨n, hn⟩ : ∃ n, m.log2 = n + 52 := ⟨m.log2 - 52, by omega⟩
  obtain ⟨r, M, E, h, hround, hM, hE₁, hE₂, hval, hr⟩ := roundWithAccuracy_neighbour s a hn he
  obtain ⟨hdiv, hnext, hdvd⟩ := value_div_le m n e
  refine ⟨M, E, h, hround, hM, by omega, by omega, ?_⟩
  rw [hval]
  refine rounds_of_neighbour (normal_div hn) (hdiv.trans hlow) (hhigh.trans_le hnext) ?_
  obtain heq | ⟨heq, hinexact⟩ := hr
  · exact Or.inl heq
  · refine Or.inr ⟨heq, fun hq => hinexact ?_⟩
    have hall : value (m / 2 ^ n) (e + n) = value m e :=
      le_antisymm hdiv (hlow.trans_eq hq)
    exact ⟨hexact (hq.trans hall), hdvd hall⟩

/-- Rounding a number. -/
lemma rounds_round {m : ℕ} {e : ℤ} (s : Sign) (hm : m ≠ 0) (he : -1022 ≤ m.log2 + e) :
    ∃ M E h, UnpackedFloat.round Format.binary64 s m e = .finite s M E h ∧ Normal M ∧
      e + m.log2 - 52 ≤ E ∧ E ≤ e + m.log2 - 51 ∧ Rounds (value m e) (value M E) := by
  set k := 52 - m.log2 with hk
  have hlog : (m * 2 ^ k).log2 = m.log2 + k := log2_mul_two_pow hm k
  have hdec : decreaseExponent m e (Format.binary64.targetExponent (totalExponent m e)) =
      (m * 2 ^ k, e - k) := by
    have hshift : (e - (m.log2 + e - 52)).toNat = k := by omega
    unfold decreaseExponent
    simp only [targetExponent_eq he, hshift, Nat.shiftLeft_eq]
  have hvalue : value (m * 2 ^ k) (e - k) = value m e := by
    rw [value, value, zpow_sub₀ two_ne_zero, zpow_natCast]
    push_cast
    field_simp
  have hhigh : value m e < value (m * 2 ^ k + 1) (e - k) := by
    rw [← hvalue]
    unfold value
    have hu : (0 : ℚ) < 2 ^ (e - (k : ℤ)) := zpow_pos two_pos _
    refine mul_lt_mul_of_pos_right ?_ hu
    push_cast
    linarith
  obtain ⟨M, E, h, hround, hM, hE₁, hE₂, hrounds⟩ := rounds_roundWithAccuracy (e := e - k) s .exact
    (by omega) (by omega) hvalue.le hhigh (fun _ => rfl)
  refine ⟨M, E, h, ?_, hM, by omega, by omega, hrounds⟩
  unfold UnpackedFloat.round
  simp only [hdec]
  exact hround

/-! ## Numbers and their values -/

/-- A number with a sign. -/
def signed (s : Sign) (q : ℚ) : ℚ :=
  match s with
  | .negative => -q
  | .positive => q

/-- A binary64 number is zero or normal, with the given value and a bound for its exponent. -/
def Denotes (x : Float) (v : ℚ) (b : ℤ) : Prop :=
  (v = 0 ∧ ∃ s, x.toModel.unpack = .zero s) ∨
    ∃ s m e h, Normal m ∧ |e| ≤ b ∧ x.toModel.unpack = .finite s m e h ∧ v = signed s (value m e)

lemma rounds_signed (s : Sign) {q v : ℚ} (h : Rounds q v) : Rounds (signed s q) (signed s v) := by
  cases s with
  | negative => exact h.neg
  | positive => exact h

/-- A rounded result that is not zero, packed. -/
lemma denotes_pack {f : UnpackedFloat} {s : Sign} {m : ℕ} {e b : ℤ} {h : 0 < m}
    (hf : f = .finite s m e h) (hm : Normal m) (he : |e| ≤ b) (hb : b ≤ 900) :
    Denotes (.ofModel (Float.Model.pack f)) (signed s (value m e)) b := by
  have hrange := abs_le.mp he
  refine Or.inr ⟨s, m, e, h, hm, he, ?_, rfl⟩
  rw [hf]
  exact unpack_pack hm (by omega) (by omega) h

/-- A rounded result that is zero, packed. -/
lemma denotes_pack_zero {f : UnpackedFloat} {s : Sign} (hf : f = .zero s) (b : ℤ) :
    Denotes (.ofModel (Float.Model.pack f)) 0 b := by
  refine Or.inl ⟨rfl, s, ?_⟩
  rw [hf]
  cases s <;> rfl

lemma Represents.denotes {x : Float} {m : ℕ} {e b : ℤ} (h : Represents x m e) (he : |e| ≤ b) :
    Denotes x (value m e) b := by
  obtain ⟨hm, hp, hx⟩ := h
  exact Or.inr ⟨.positive, m, e, hp, hm, he, hx, rfl⟩

/-- The negative of a number. -/
lemma Denotes.neg {x : Float} {v : ℚ} {b : ℤ} (h : Denotes x v b) (hb : b ≤ 900) :
    Denotes (Float.neg x) (-v) b := by
  have hdef : Float.neg x = .ofModel (Float.Model.pack x.toModel.unpack.neg) := rfl
  rw [hdef]
  obtain ⟨rfl, s, hx⟩ | ⟨s, m, e, hp, hm, he, hx, rfl⟩ := h
  · rw [hx, neg_zero]
    exact denotes_pack_zero rfl b
  · have hneg : -signed s (value m e) = signed (-s) (value m e) := by
      cases s
      · exact neg_neg _
      · rfl
    rw [hx, hneg]
    exact denotes_pack rfl hm he hb

/-- Rounding a mantissa with a sign. -/
lemma denotes_normalize {n : ℤ} {e b : ℤ} (hlow : -b ≤ e) (hhigh : n.natAbs.log2 + e ≤ b + 54)
    (hb : b ≤ 800) :
    ∃ v, Denotes (.ofModel (Float.Model.pack (UnpackedFloat.normalize Format.binary64 n e .positive))) v (b + 52) ∧
      Rounds (n * 2 ^ e) v := by
  have hcase : ∀ (s : Sign) (m : ℕ), m ≠ 0 → m = n.natAbs →
      UnpackedFloat.normalize Format.binary64 n e .positive = UnpackedFloat.round Format.binary64 s m e →
      (n : ℚ) * 2 ^ e = signed s (value m e) →
      ∃ v, Denotes (.ofModel (Float.Model.pack (UnpackedFloat.normalize Format.binary64 n e .positive))) v
        (b + 52) ∧ Rounds (n * 2 ^ e) v := by
    intro s m hm habs hnormalize hvalue
    rw [← habs] at hhigh
    obtain ⟨M, E, h, hround, hM, hE₁, hE₂, hrounds⟩ := rounds_round (e := e) s hm (by omega)
    refine ⟨signed s (value M E), ?_, ?_⟩
    · exact denotes_pack (hnormalize.trans hround) hM (abs_le.mpr (by omega)) (by omega)
    · rw [hvalue]
      exact rounds_signed s hrounds
  rcases lt_trichotomy n 0 with hneg | rfl | hpos
  · refine hcase .negative (-n).toNat (by omega) (by omega) ?_ ?_
    · unfold UnpackedFloat.normalize
      rw [Int.compare_eq_lt.mpr hneg]
    · have hcast : (((-n).toNat : ℤ) : ℚ) = -n := by
        rw [Int.toNat_of_nonneg (by omega)]
        push_cast
        ring
      rw [Int.cast_natCast] at hcast
      rw [signed, value, hcast]
      ring
  · refine ⟨0, denotes_pack_zero (s := .positive) rfl _, ?_⟩
    rw [Int.cast_zero, zero_mul]
    exact Rounds.refl 0
  · refine hcase .positive n.toNat (by omega) (by omega) ?_ ?_
    · unfold UnpackedFloat.normalize
      rw [Int.compare_eq_gt.mpr hpos]
    · have hcast : ((n.toNat : ℤ) : ℚ) = n := by rw [Int.toNat_of_nonneg hpos.le]
      rw [Int.cast_natCast] at hcast
      rw [signed, value, hcast]

/-! ## Operations -/

/-- A mantissa that is shifted to a smaller exponent. -/
lemma decreaseExponent_fst (m : ℕ) {e e' : ℤ} (he : e' ≤ e) :
    ((decreaseExponent m e e').1 : ℚ) * 2 ^ e' = value m e := by
  obtain ⟨k, rfl⟩ : ∃ k : ℕ, e = e' + k := ⟨(e - e').toNat, by omega⟩
  have hshift : (e' + (k : ℤ) - e').toNat = k := by omega
  unfold decreaseExponent value
  simp only [hshift, Nat.shiftLeft_eq]
  rw [zpow_add₀ two_ne_zero, zpow_natCast]
  push_cast
  ring

lemma decreaseExponent_lt {m : ℕ} (hm : Normal m) {e d b : ℤ} (hhigh : e ≤ b) (hd : d ≤ b) :
    (decreaseExponent m e d).1 < 2 ^ (53 + (b - d).toNat) := by
  unfold decreaseExponent
  simp only [Nat.shiftLeft_eq, pow_add]
  have hpow : 2 ^ (e - d).toNat ≤ 2 ^ (b - d).toNat :=
    Nat.pow_le_pow_right two_pos (by omega)
  calc m * 2 ^ (e - d).toNat < 2 ^ 53 * 2 ^ (e - d).toNat :=
        Nat.mul_lt_mul_of_pos_right hm.2 (Nat.two_pow_pos _)
    _ ≤ 2 ^ 53 * 2 ^ (b - d).toNat := Nat.mul_le_mul_left _ hpow

lemma cast_apply (s : Sign) (m : ℕ) : ((s.apply m : ℤ) : ℚ) = signed s m := by
  cases s <;> simp [Sign.apply, signed]

lemma signed_mul (s : Sign) (q r : ℚ) : signed s q * r = signed s (q * r) := by
  cases s <;> simp [signed]

lemma signed_div (s t : Sign) (q r : ℚ) : signed s q / signed t r = signed (s / t) (q / r) := by
  cases s <;> cases t
  · exact neg_div_neg_eq q r
  · exact neg_div r q
  · exact div_neg q
  · rfl

lemma natAbs_apply (s : Sign) (m : ℕ) : (s.apply m).natAbs = m := by
  cases s <;> simp [Sign.apply]

/-- The sum of two numbers is rounded. -/
theorem Denotes.add {x y : Float} {v w : ℚ} {b : ℤ} (hx : Denotes x v b) (hy : Denotes y w b)
    (hb : b ≤ 800) : ∃ u, Denotes (x + y) u (b + 52) ∧ Rounds (v + w) u := by
  have hdef : x + y = .ofModel (Float.Model.pack
      (UnpackedFloat.add Format.binary64 x.toModel.unpack y.toModel.unpack)) := rfl
  rw [hdef]
  obtain ⟨rfl, s₁, hx⟩ | ⟨s₁, m₁, e₁, hp₁, hm₁, he₁, hx, rfl⟩ := hx
  · obtain ⟨rfl, s₂, hy⟩ | ⟨s₂, m₂, e₂, hp₂, hm₂, he₂, hy, rfl⟩ := hy
    · refine ⟨0, ?_, by rw [add_zero]; exact Rounds.refl 0⟩
      obtain ⟨s, hs⟩ : ∃ s, UnpackedFloat.add Format.binary64 x.toModel.unpack y.toModel.unpack =
          .zero s := by
        rw [hx, hy]
        cases s₁ <;> cases s₂ <;> exact ⟨_, rfl⟩
      exact denotes_pack_zero hs _
    · refine ⟨_, ?_, by rw [zero_add]; exact Rounds.refl _⟩
      have hsum : UnpackedFloat.add Format.binary64 x.toModel.unpack y.toModel.unpack =
          .finite s₂ m₂ e₂ hp₂ := by rw [hx, hy]; rfl
      exact denotes_pack hsum hm₂ (he₂.trans (by omega)) (by omega)
  · obtain ⟨rfl, s₂, hy⟩ | ⟨s₂, m₂, e₂, hp₂, hm₂, he₂, hy, rfl⟩ := hy
    · refine ⟨_, ?_, by rw [add_zero]; exact Rounds.refl _⟩
      have hsum : UnpackedFloat.add Format.binary64 x.toModel.unpack y.toModel.unpack =
          .finite s₁ m₁ e₁ hp₁ := by rw [hx, hy]; rfl
      exact denotes_pack hsum hm₁ (he₁.trans (by omega)) (by omega)
    · have hrange₁ := abs_le.mp he₁
      have hrange₂ := abs_le.mp he₂
      set e := min e₁ e₂ with he
      set n₁ := (decreaseExponent m₁ e₁ e).1 with hn₁
      set n₂ := (decreaseExponent m₂ e₂ e).1 with hn₂
      have hsum : UnpackedFloat.add Format.binary64 x.toModel.unpack y.toModel.unpack =
          UnpackedFloat.normalize Format.binary64 (s₁.apply n₁ + s₂.apply n₂) e .positive := by
        rw [hx, hy]
        rfl
      have hvalue : ((s₁.apply n₁ + s₂.apply n₂ : ℤ) : ℚ) * 2 ^ e =
          signed s₁ (value m₁ e₁) + signed s₂ (value m₂ e₂) := by
        rw [Int.cast_add, add_mul, cast_apply, cast_apply, signed_mul, signed_mul, hn₁, hn₂,
          decreaseExponent_fst m₁ (min_le_left e₁ e₂), decreaseExponent_fst m₂ (min_le_right e₁ e₂)]
      have hlog : ((s₁.apply n₁ + s₂.apply n₂).natAbs.log2 : ℤ) + e ≤ b + 54 := by
        have hlt₁ := decreaseExponent_lt hm₁ (b := b) (d := e) hrange₁.2 (by omega)
        have hlt₂ := decreaseExponent_lt hm₂ (b := b) (d := e) hrange₂.2 (by omega)
        have habs : (s₁.apply n₁ + s₂.apply n₂).natAbs < 2 ^ (54 + (b - e).toNat) := by
          have htriangle := Int.natAbs_add_le (s₁.apply n₁) (s₂.apply n₂)
          rw [natAbs_apply, natAbs_apply] at htriangle
          have hdouble : 2 ^ (54 + (b - e).toNat) = 2 * 2 ^ (53 + (b - e).toNat) := by
            rw [← pow_succ']
            congr 1
            omega
          omega
        have hle : (s₁.apply n₁ + s₂.apply n₂).natAbs.log2 < 54 + (b - e).toNat := by
          rcases eq_or_ne (s₁.apply n₁ + s₂.apply n₂).natAbs 0 with hzero | hne
          · rw [hzero, Nat.log2_zero]
            omega
          · exact (Nat.log2_lt hne).mpr habs
        omega
      obtain ⟨u, hu, hrounds⟩ := denotes_normalize (by omega) hlog hb
      rw [hvalue] at hrounds
      rw [hsum]
      exact ⟨u, hu, hrounds⟩

/-- The quotient of two numbers is rounded. -/
theorem Denotes.div {x y : Float} {v w : ℚ} {b : ℤ} (hx : Denotes x v b) (hy : Denotes y w b)
    (hw : w ≠ 0) (hb : b ≤ 300) :
    ∃ u, Denotes (x / y) u (2 * b + 60) ∧ Rounds (v / w) u := by
  have hdef : x / y = .ofModel (Float.Model.pack
      (UnpackedFloat.div Format.binary64 x.toModel.unpack y.toModel.unpack)) := rfl
  rw [hdef]
  obtain ⟨rfl, -⟩ | ⟨s₂, m₂, e₂, hp₂, hm₂, he₂, hy, rfl⟩ := hy
  · exact absurd rfl hw
  obtain ⟨rfl, s₁, hx⟩ | ⟨s₁, m₁, e₁, hp₁, hm₁, he₁, hx, rfl⟩ := hx
  · refine ⟨0, ?_, by rw [zero_div]; exact Rounds.refl 0⟩
    have hquot : UnpackedFloat.div Format.binary64 x.toModel.unpack y.toModel.unpack =
        .zero (s₁ / s₂) := by rw [hx, hy]; rfl
    exact denotes_pack_zero hquot _
  · have hrange₁ := abs_le.mp he₁
    have hrange₂ := abs_le.mp he₂
    obtain ⟨hcore, hqlog, hqlog'⟩ := divCore_eq hm₁ hm₂ (show -1000 ≤ e₁ - e₂ by omega)
    set q := m₁ * 2 ^ 53 / m₂ with hq
    set r := m₁ * 2 ^ 53 % m₂ with hr
    have hu : (0 : ℚ) < 2 ^ (e₁ - e₂ - 53) := zpow_pos two_pos _
    have hm₂' : (0 : ℚ) < m₂ := by exact_mod_cast hp₂
    -- the exact quotient, as the computed one and a fraction of its unit
    have hquot : value m₁ e₁ / value m₂ e₂ = ((q : ℚ) + r / m₂) * 2 ^ (e₁ - e₂ - 53) := by
      have hnat : ((m₂ * q + r : ℕ) : ℚ) = ((m₁ * 2 ^ 53 : ℕ) : ℚ) := by
        rw [hq, hr, Nat.div_add_mod]
      push_cast at hnat
      have hsum : (q : ℚ) + r / m₂ = m₁ * 2 ^ 53 / m₂ := by
        rw [eq_div_iff hm₂'.ne', add_mul, div_mul_cancel₀ _ hm₂'.ne']
        linarith
      rw [hsum, value, value, zpow_sub₀ two_ne_zero, zpow_sub₀ two_ne_zero]
      norm_num
      field_simp
    have hfraction : (0 : ℚ) ≤ r / m₂ ∧ (r : ℚ) / m₂ < 1 := by
      have hlt : (r : ℚ) < m₂ := by exact_mod_cast Nat.mod_lt _ hp₂
      exact ⟨by positivity, (div_lt_one hm₂').mpr hlt⟩
    obtain ⟨M, E, h, hround, hM, hE₁, hE₂, hrounds⟩ := rounds_roundWithAccuracy
      (e := e₁ - e₂ - 53) (q := value m₁ e₁ / value m₂ e₂) (s₁ / s₂) (accuracyOfFraction r m₂)
      hqlog (by omega) (by
        rw [hquot, value]
        exact mul_le_mul_of_nonneg_right (by linarith) hu.le) (by
        rw [hquot, value]
        push_cast
        exact mul_lt_mul_of_pos_right (by linarith) hu) (by
        intro heq
        rw [hquot, value] at heq
        have hzero : (r : ℚ) / m₂ = 0 := by
          have := mul_right_cancel₀ hu.ne' heq
          linarith
        have hr' : r = 0 := by
          have := (div_eq_zero_iff.mp hzero).resolve_right hm₂'.ne'
          exact_mod_cast this
        rw [accuracyOfFraction, if_pos hr'])
    have hdiv : UnpackedFloat.div Format.binary64 x.toModel.unpack y.toModel.unpack =
        .finite (s₁ / s₂) M E h := by
      rw [hx, hy, ← hround]
      unfold UnpackedFloat.div
      simp only [hcore]
    refine ⟨signed (s₁ / s₂) (value M E), ?_, ?_⟩
    · exact denotes_pack hdiv hM (abs_le.mpr (by omega)) (by omega)
    · rw [signed_div]
      exact rounds_signed (s₁ / s₂) hrounds

/-- The product of two positive normal numbers is rounded. -/
lemma Represents.rounds_mul {x y : Float} {m₁ m₂ : ℕ} {e₁ e₂ : ℤ} (hx : Represents x m₁ e₁)
    (hy : Represents y m₂ e₂) (h₁ : |e₁| ≤ 70) (h₂ : |e₂| ≤ 70) :
    ∃ M E, Represents (x * y) M E ∧ |E| ≤ 200 ∧
      Rounds (value m₁ e₁ * value m₂ e₂) (value M E) := by
  obtain ⟨hm₁, hp₁, hux⟩ := hx
  obtain ⟨hm₂, hp₂, huy⟩ := hy
  rw [abs_le] at h₁ h₂
  obtain ⟨hlog, hlog'⟩ := log2_mul hm₁ hm₂
  have hvalue : value (m₁ * m₂) (e₁ + e₂) = value m₁ e₁ * value m₂ e₂ := by
    unfold value
    rw [zpow_add₀ two_ne_zero]
    push_cast
    ring
  have hhigh : value m₁ e₁ * value m₂ e₂ < value (m₁ * m₂ + 1) (e₁ + e₂) := by
    rw [← hvalue]
    unfold value
    have hu : (0 : ℚ) < 2 ^ (e₁ + e₂) := zpow_pos two_pos _
    refine mul_lt_mul_of_pos_right ?_ hu
    push_cast
    linarith
  obtain ⟨M, E, h, hround, hM, hE₁, hE₂, hrounds⟩ := rounds_roundWithAccuracy (e := e₁ + e₂)
    .positive .exact (le_trans (by norm_num) hlog) (by omega) hvalue.le hhigh (fun _ => rfl)
  have hmul : UnpackedFloat.mul Format.binary64 x.toModel.unpack y.toModel.unpack =
      .finite .positive M E h := by
    rw [hux, huy, ← hround]
    rfl
  exact ⟨M, E, represents_pack hmul hM (by omega) (by omega), abs_le.mpr (by omega), hrounds⟩

/-- A small positive integer is represented exactly. -/
lemma denotes_ofNat {n : ℕ} (hpos : 0 < n) (hn : n < 2 ^ 53) : Denotes (Float.ofNat n) n 200 := by
  obtain ⟨m, e, hm, hvalue, he₁, he₂⟩ := represents_ofNat hpos hn
  have hone : Represents (Float.ofBits 0x3FF0000000000000) (2 ^ 52) (-52) :=
    ⟨⟨le_rfl, by norm_num⟩, Nat.two_pow_pos 52, rfl⟩
  have hdef : Float.ofNat n = (UInt64.ofNat n).toFloat * Float.ofBits 0x3FF0000000000000 := by
    unfold Float.ofNat
    show Float.ofScientific n false 0 = _
    unfold Float.ofScientific
    rw [dif_pos ⟨hn, by norm_num⟩]
    rfl
  obtain ⟨M, E, hrep, hE, hrounds⟩ := hm.rounds_mul hone (abs_le.mpr (by omega)) (by norm_num)
  have hexact : value m e * value (2 ^ 52) (-52) = n := by
    rw [hvalue, value]
    norm_num
  rw [hexact] at hrounds
  have hint : Representable (n : ℚ) := by
    have habs : |(n : ℤ)| < 2 ^ 53 := by
      rw [abs_of_nonneg (Int.natCast_nonneg n)]
      exact_mod_cast hn
    have h := representable_int habs
    rwa [Int.cast_natCast] at h
  rw [hdef, ← hrounds.eq hint]
  exact hrep.denotes hE

/-- An integer of at most 53 bits has a small exponent. -/
lemma Denotes.of_int {x : Float} {n b : ℤ} (h : Denotes x n b) (hn : |n| < 2 ^ 53) :
    Denotes x n 52 := by
  obtain hzero | ⟨s, m, e, hp, hm, -, hx, hv⟩ := h
  · exact Or.inl hzero
  · refine Or.inr ⟨s, m, e, hp, hm, ?_, hx, hv⟩
    have hpos := value_pos e hm
    have habs : ((|n| : ℤ) : ℚ) = value m e := by
      rw [Int.cast_abs, hv]
      cases s with
      | negative => exact (abs_neg _).trans (abs_of_pos hpos)
      | positive => exact abs_of_pos hpos
    have hzpow : (0 : ℚ) < 2 ^ e := zpow_pos two_pos e
    have hlow : (2 : ℚ) ^ (52 + e) ≤ value m e := by
      rw [zpow_add₀ two_ne_zero]
      exact mul_le_mul_of_nonneg_right (by exact_mod_cast hm.1) hzpow.le
    have hhigh : value m e < (2 : ℚ) ^ (53 + e) := by
      rw [zpow_add₀ two_ne_zero]
      exact mul_lt_mul_of_pos_right (by exact_mod_cast hm.2) hzpow
    have hone : (1 : ℚ) ≤ value m e := by
      rw [← habs]
      have hne : 0 < |n| := by
        have h : (0 : ℚ) < (|n| : ℤ) := habs ▸ hpos
        exact_mod_cast h
      exact_mod_cast hne
    have hlt : value m e < (2 : ℚ) ^ (53 : ℤ) := by
      rw [← habs]
      exact_mod_cast hn
    have hexp : 52 + e < 53 := (zpow_lt_zpow_iff_right₀ one_lt_two).mp (hlow.trans_lt hlt)
    have hexp' : 0 < 53 + e := by
      rw [← zpow_lt_zpow_iff_right₀ (one_lt_two (α := ℚ)), zpow_zero]
      exact hone.trans_lt hhigh
    rw [abs_le]
    omega

/-- A small integer is represented exactly. -/
theorem denotes_ofInt {n : ℤ} (hn : |n| < 2 ^ 53) : Denotes (Float.ofInt n) n 52 := by
  refine Denotes.of_int (b := 200) ?_ hn
  rcases lt_trichotomy n 0 with hneg | rfl | hpos
  · obtain ⟨k, rfl⟩ : ∃ k : ℕ, n = Int.negSucc k := Int.eq_negSucc_of_lt_zero hneg
    have hk : k + 1 < 2 ^ 53 := by
      rw [abs_of_neg hneg, Int.negSucc_eq] at hn
      omega
    have hdenotes := (denotes_ofNat (Nat.succ_pos k) hk).neg (by norm_num)
    have hcast : ((Int.negSucc k : ℤ) : ℚ) = -((k + 1 : ℕ) : ℚ) := by
      rw [Int.negSucc_eq]
      push_cast
      ring
    rw [hcast]
    exact hdenotes
  · exact Or.inl ⟨Int.cast_zero, .positive, rfl⟩
  · obtain ⟨k, rfl⟩ : ∃ k : ℕ, n = k := ⟨n.toNat, by omega⟩
    have hk : k < 2 ^ 53 := by
      rw [abs_of_pos hpos] at hn
      exact_mod_cast hn
    have hdenotes := denotes_ofNat (by exact_mod_cast hpos) hk
    rwa [← Int.cast_natCast] at hdenotes

/-! ## Integers next to a number -/

lemma Denotes.mono {x : Float} {v : ℚ} {b b' : ℤ} (h : Denotes x v b) (hb : b ≤ b') :
    Denotes x v b' := by
  obtain hzero | ⟨s, m, e, hp, hm, he, hx, hv⟩ := h
  · exact Or.inl hzero
  · exact Or.inr ⟨s, m, e, hp, hm, he.trans hb, hx, hv⟩

/-- The value of a number as a fraction. -/
lemma value_eq_div (m : ℕ) (e : ℤ) :
    value m e = (m * 2 ^ e.toNat : ℕ) / (2 ^ (-e).toNat : ℕ) := by
  unfold value
  rcases le_total 0 e with hpos | hneg
  · obtain ⟨n, rfl⟩ : ∃ n : ℕ, e = n := ⟨e.toNat, by omega⟩
    have hzero : (-(n : ℤ)).toNat = 0 := by omega
    rw [hzero, Int.toNat_natCast, zpow_natCast]
    push_cast
    ring
  · obtain ⟨n, rfl⟩ : ∃ n : ℕ, e = -n := ⟨(-e).toNat, by omega⟩
    have hzero : (-(n : ℤ)).toNat = 0 := by omega
    rw [hzero, neg_neg, Int.toNat_natCast, zpow_neg, zpow_natCast]
    push_cast
    ring

end Binary64
