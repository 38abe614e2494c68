import Hostpin.Foundation.Rounding
import Hostpin.Security.RateLimitHistory

/-!
# How long a refused address is told to wait

An address that is refused gets the rest of the pause, or else of its own lock, and the number of
seconds of it in a header.  The answer is too short in two cases.  A lock that ends after the pause
is not told, and a fraction of a second is cut off.

`retrySuffices_iff` says that these are the only cases: otherwise a client that waits and does not
fail in between is not refused again.
-/

namespace Hostpin

open Clock Runs SlidingWindow Binary64

/-! ## Seconds -/

/-- The number of seconds of a duration: the whole seconds plus the fraction of the last one. -/
def durationInSeconds (d : Duration) : Float :=
  Float.ofInt (d.tdiv second) + Float.ofInt (d.tmod second) / 1e9

/-- A number without its fraction; zero for a number that is not finite. -/
def truncToInt (x : Float) : ℤ :=
  match x.toModel.unpack with
  | .notANumber | .infinity _ | .zero _ => 0
  | .finite s m e _ => s.apply (m * 2 ^ e.toNat / 2 ^ (-e).toNat)

/-- The number of seconds in the header, at least one. -/
def retryAfterSeconds (duration : Duration) : ℤ :=
  let seconds := truncToInt (durationInSeconds duration)
  if seconds < 1 then 1 else seconds

/-- The text of the header. -/
def durationSeconds (duration : Duration) : String := toString (retryAfterSeconds duration)

/-- Cutting off the fraction of a number that is not negative. -/
lemma truncToInt_eq {x : Float} {v : ℚ} {b : ℤ} (hx : Denotes x v b) {k : ℕ} (hlow : (k : ℚ) ≤ v)
    (hhigh : v < k + 1) : truncToInt x = k := by
  have hk : (0 : ℚ) ≤ k := Nat.cast_nonneg k
  unfold truncToInt
  obtain ⟨rfl, s, hunpack⟩ | ⟨s, m, e, hp, hm, -, hunpack, rfl⟩ := hx
  · have hzero : (k : ℚ) = 0 := le_antisymm hlow hk
    have hzero' : k = 0 := by exact_mod_cast hzero
    rw [hunpack, hzero']
    rfl
  · rw [hunpack]
    cases s with
    | negative =>
      have hneg : signed .negative (value m e) < 0 := neg_lt_zero.mpr (value_pos e hm)
      exact absurd (hk.trans hlow) (not_le.mpr hneg)
    | positive =>
      have hvalue : signed .positive (value m e) = value m e := rfl
      rw [hvalue, value_eq_div] at hlow hhigh
      have hpos : (0 : ℚ) < (2 ^ (-e).toNat : ℕ) := by exact_mod_cast Nat.two_pow_pos _
      rw [le_div_iff₀ hpos] at hlow
      rw [div_lt_iff₀ hpos] at hhigh
      have hlow' : k * 2 ^ (-e).toNat ≤ m * 2 ^ e.toNat := by exact_mod_cast hlow
      have hhigh' : m * 2 ^ e.toNat < (k + 1) * 2 ^ (-e).toNat := by exact_mod_cast hhigh
      have hdiv : m * 2 ^ e.toNat / 2 ^ (-e).toNat = k :=
        Nat.div_eq_of_lt_le hlow' hhigh'
      show (Float.Model.UnpackedFloat.Sign.positive).apply
        ((m * 2 ^ e.toNat / 2 ^ (-e).toNat : ℕ) : ℤ) = k
      rw [hdiv]
      rfl

/-- A billion has a mantissa of 53 bits. -/
lemma denotes_billion : Denotes (1e9 : Float) 1000000000 200 := by
  refine Or.inr ⟨.positive, 8388608000000000, -23, by norm_num, ⟨by norm_num, by norm_num⟩,
    by norm_num, rfl, ?_⟩
  rw [signed, value]
  norm_num

/-- The fraction of a second is computed below one. -/
lemma exists_fraction {r : ℤ} (hr : 0 ≤ r) (hr' : r < second) :
    ∃ v, Denotes (Float.ofInt r / 1e9) v 460 ∧ 0 ≤ v ∧ v ≤ 1 - 1 / 2 ^ 42 := by
  have hsecond : @Eq ℤ second 1000000000 := rfl
  have habs : |r| < 2 ^ 53 := by
    rw [abs_of_nonneg hr]
    omega
  obtain ⟨v, hv, hrounds⟩ := ((denotes_ofInt habs).mono (by norm_num)).div denotes_billion
    (by norm_num) (by norm_num)
  have hr'' : (r : ℚ) ≤ 999999999 := by
    have : r ≤ 999999999 := by omega
    exact_mod_cast this
  have hnonneg : (0 : ℚ) ≤ r / 1000000000 := by
    have : (0 : ℚ) ≤ r := by exact_mod_cast hr
    positivity
  refine ⟨v, hv, ?_, ?_⟩
  · have hzero : Representable ((0 : ℤ) : ℚ) := representable_int (by norm_num)
    rw [Int.cast_zero] at hzero
    exact (hrounds 0 hzero).1 hnonneg
  · have hrep : Representable (1 - 1 / 2 ^ 42 : ℚ) := by
      have h := representable_div (k := 2 ^ 42 - 1) 42 (by norm_num)
      convert h using 1
      norm_num
    refine (hrounds _ hrep).2 ?_
    rw [div_le_iff₀ (by norm_num)]
    norm_num
    linarith

/-- The header tells the whole seconds of a duration of at most half an hour, at least one. -/
theorem retryAfterSeconds_eq {d : ℤ} (hd : 0 ≤ d) (hd' : d ≤ 30 * minute) :
    retryAfterSeconds d = max 1 (d / second) := by
  have hsecond : @Eq ℤ second 1000000000 := rfl
  have hminute : @Eq ℤ minute 60000000000 := rfl
  have hquot : d.tdiv second = d / second := Int.tdiv_eq_ediv_of_nonneg hd
  have hrem : d.tmod second = d % second := Int.tmod_eq_emod_of_nonneg hd
  have hrange : 0 ≤ d / second ∧ d / second ≤ 1800 := by
    rw [hsecond]
    omega
  have hfraction : 0 ≤ d % second ∧ d % second < second := by
    rw [hsecond]
    omega
  obtain ⟨k, hk⟩ : ∃ k : ℕ, d / second = k := ⟨(d / second).toNat, by omega⟩
  have hk' : k ≤ 1800 := by omega
  obtain ⟨v, hv, hlow, hhigh⟩ := exists_fraction hfraction.1 hfraction.2
  have habs : |(k : ℤ)| < 2 ^ 53 := by
    rw [abs_of_nonneg (Int.natCast_nonneg k)]
    omega
  obtain ⟨u, hu, hrounds⟩ := ((denotes_ofInt habs).mono (by norm_num)).add hv (by norm_num)
  rw [Int.cast_natCast] at hrounds
  have hulow : (k : ℚ) ≤ u := by
    have hrep := representable_int habs
    rw [Int.cast_natCast] at hrep
    exact (hrounds k hrep).1 (by linarith)
  have huhigh : u ≤ k + 1 - 1 / 2 ^ 42 := by
    have hrep : Representable (k + 1 - 1 / 2 ^ 42 : ℚ) := by
      have h := representable_div (k := (k + 1) * 2 ^ 42 - 1) 42 (by
        rw [abs_of_nonneg (by omega)]
        omega)
      convert h using 1
      push_cast
      ring
    exact (hrounds _ hrep).2 (by linarith)
  have htrunc : truncToInt (durationInSeconds d) = k := by
    unfold durationInSeconds
    rw [hquot, hrem, hk]
    refine truncToInt_eq hu hulow (lt_of_le_of_lt huhigh ?_)
    norm_num
  unfold retryAfterSeconds
  simp only [htrunc]
  rw [hk]
  split <;> omega

/-- The seconds of the header last as long as the duration when it is at most one second, or a whole
number of seconds. -/
lemma le_retryAfterSeconds_iff {d : ℤ} (hd : 0 ≤ d) (hd' : d ≤ 30 * minute) :
    d ≤ retryAfterSeconds d * second ↔ d ≤ second ∨ second ∣ d := by
  have hsecond : @Eq ℤ second 1000000000 := rfl
  rw [retryAfterSeconds_eq hd hd', hsecond]
  change @LE.le ℤ _ d (max 1 (d / 1000000000) * 1000000000) ↔
    @LE.le ℤ _ d 1000000000 ∨ @Dvd.dvd ℤ _ 1000000000 d
  constructor
  · intro hle
    rcases le_total (d / 1000000000) 1 with hone | hmany
    · rw [max_eq_left hone] at hle
      left
      omega
    · rw [max_eq_right hmany] at hle
      right
      omega
  · rintro (hshort | hwhole)
    · rw [max_eq_left (by omega)]
      omega
    · have hle : d / 1000000000 ≤ max 1 (d / 1000000000) := le_max_right _ _
      omega

/-! ## What the limiter does without failures -/

namespace EnrollmentLimiter

variable {l : EnrollmentLimiter} {ip : String} {now t : Time}

/-- The end of what refuses an address: the pause, or else its own lock. -/
def refusedUntil (l : EnrollmentLimiter) (ip : String) (now : Time) : Time :=
  if now < l.pausedUntil then l.pausedUntil else l.lockOf ip

/-- An address is refused during a pause and during its lock. -/
lemma allow_refused_iff (ht : 0 ≤ t) :
    (l.allow ip t).2.1 = false ↔ t < l.pausedUntil ∨ t < l.lockOf ip := by
  obtain ⟨hlock, -⟩ := lt_iff_of_max_eq (l.max_lockOf_cleanup ip ht)
  rw [allow_eq l ip ht]
  by_cases hpause : t < l.pausedUntil
  · simp [hpause]
  · by_cases hlocked : t < l.lockOf ip
    · simp [hpause, hlocked, hlock.mpr hlocked]
    · simp [hpause, hlocked, mt hlock.mp hlocked]

/-- A refused address is told the time until the end of what refuses it. -/
lemma allow_wait (ht : 0 ≤ t) (hrefused : t < l.refusedUntil ip t) :
    (l.allow ip t).2 = (false, sub (l.refusedUntil ip t) t) := by
  obtain ⟨hlock, heq⟩ := lt_iff_of_max_eq (l.max_lockOf_cleanup ip ht)
  unfold refusedUntil at hrefused ⊢
  rw [allow_eq l ip ht]
  by_cases hpause : t < l.pausedUntil
  · rw [if_pos hpause, if_pos hpause]
  · rw [if_neg hpause] at hrefused
    rw [if_neg hpause, if_neg hpause, if_pos (hlock.mpr hrefused), heq hrefused]

lemma lt_refusedUntil_iff : t < l.refusedUntil ip t ↔ t < l.pausedUntil ∨ t < l.lockOf ip := by
  unfold refusedUntil
  by_cases hpause : t < l.pausedUntil
  · simp [hpause]
  · simp [hpause]

end EnrollmentLimiter

/-- A call that counts no failure. -/
def LimiterCall.isQuiet : LimiterCall → Prop
  | .failure _ _ => False
  | _ => True

/-- A call that counts no failure leaves the pause alone, and keeps or clears the lock of an
address. -/
lemma LimiterRun.step_quiet (s : LimiterRun) {call : LimiterCall} (hquiet : call.isQuiet)
    (ip : String) : (s.step call).limiter.pausedUntil = s.limiter.pausedUntil ∧
      ((s.step call).limiter.lockOf ip = s.limiter.lockOf ip ∨
        (s.step call).limiter.lockOf ip = 0) := by
  have hcleanup : ∀ now, (s.limiter.cleanup now).pausedUntil = s.limiter.pausedUntil ∧
      ((s.limiter.cleanup now).lockOf ip = s.limiter.lockOf ip ∨
        (s.limiter.cleanup now).lockOf ip = 0) := by
    intro now
    refine ⟨rfl, ?_⟩
    unfold EnrollmentLimiter.lockOf EnrollmentLimiter.cleanup
    cases hip : s.limiter.byIP ip with
    | none => simp [hip]
    | some attempt =>
      simp only [hip, Option.bind_some]
      split
      · exact Or.inr rfl
      · exact Or.inl rfl
  cases call with
  | allow other now =>
    simp only [step, EnrollmentLimiter.allow_limiter]
    exact hcleanup now
  | failure other now => exact hquiet.elim
  | success other =>
    refine ⟨rfl, ?_⟩
    by_cases hip : other = ip
    · right
      simp [step, EnrollmentLimiter.lockOf, EnrollmentLimiter.success, hip]
    · left
      simp only [step, EnrollmentLimiter.lockOf, EnrollmentLimiter.success_byIP_other hip]
  | cleanup now => exact hcleanup now

/-- Calls that count no failure leave the pause alone, and keep or clear the lock of an address. -/
lemma LimiterRun.run_quiet (s : LimiterRun) {calls : List LimiterCall}
    (hquiet : ∀ call ∈ calls, call.isQuiet) (ip : String) :
    (run step s calls).limiter.pausedUntil = s.limiter.pausedUntil ∧
      ((run step s calls).limiter.lockOf ip = s.limiter.lockOf ip ∨
        (run step s calls).limiter.lockOf ip = 0) := by
  induction calls generalizing s with
  | nil => exact ⟨rfl, Or.inl rfl⟩
  | cons call calls ih =>
    obtain ⟨hpause, hlock⟩ := s.step_quiet (hquiet call List.mem_cons_self) ip
    obtain ⟨hpause', hlock'⟩ :=
      ih (s.step call) fun c hmem => hquiet c (List.mem_cons_of_mem call hmem)
    refine ⟨hpause'.trans hpause, ?_⟩
    rw [run_cons]
    obtain hsame | hcleared := hlock'
    · rw [hsame]
      exact hlock
    · exact Or.inr hcleared

/-! ## The wait -/

/-- The wait suffices: a refused address that comes back after it, and one that comes back after the
seconds of the header, are let through, when nothing failed in between. -/
def RetrySuffices (s : LimiterRun) (ip : String) (now : Time) : Prop :=
  ∀ d, (s.limiter.allow ip now).2 = (false, d) →
    ∀ t, (t = now + d ∨ t = now + retryAfterSeconds d * second) →
      ∀ later, (∀ call ∈ later, call.isQuiet) →
        Along LimiterRun.step LimiterRun.Timely (s.step (.allow ip now)) later →
        (run LimiterRun.step (s.step (.allow ip now)) later).clock ≤ t →
        ((run LimiterRun.step (s.step (.allow ip now)) later).limiter.allow ip t).2.1 = true

/-- A refusal that is told in full: when a pause is in force, the lock of the address does not
outlast it, and what refuses the address ends within a second or after a whole number of
seconds. -/
def ToldInFull (l : EnrollmentLimiter) (ip : String) (now : Time) : Prop :=
  (now < l.pausedUntil → l.lockOf ip ≤ l.pausedUntil) ∧
    (l.refusedUntil ip now - now ≤ second ∨ second ∣ l.refusedUntil ip now - now)

/-- A pause and a lock end at most half an hour after the last call. -/
lemma Mirrors.refusedUntil_le {history : List LimiterAnswer} {s : LimiterRun}
    (h : Mirrors history s) (ip : String) {now : Time} (htimely : s.clock ≤ now) :
    s.limiter.refusedUntil ip now ≤ now + 30 * minute := by
  have hnow : 0 ≤ now := h.nonneg.trans htimely
  have hpast : ∀ t ∈ failureTimes history, t ≤ now := fun t hmem => (h.past t hmem).trans htimely
  have hshort : now + 15 * minute ≤ now + 30 * minute := add_le_add le_rfl (by decide)
  unfold EnrollmentLimiter.refusedUntil
  split
  · rw [h.pausedUntil]
    have hstarts : ∀ t ∈ pauseStarts history, t ≤ now := fun t hmem =>
      hpast t ((pauseStarts_sublist history).subset hmem)
    exact (lastEnd_le hstarts (add_nonneg hnow (by decide))).trans hshort
  · have hlocks : ∀ t ∈ bursts 5 (10 * minute) (failuresSince ip history), t ≤ now :=
      fun t hmem => hpast t
        ((failuresSince_sublist ip history).subset ((bursts_sublist _).subset hmem))
    have hend : lockEnd ip history ≤ now + 30 * minute :=
      lastEnd_le hlocks (add_nonneg hnow (by decide))
    have hclock : s.clock ≤ now + 30 * minute :=
      htimely.trans (le_add_of_nonneg_right (by decide))
    calc s.limiter.lockOf ip ≤ max s.clock (s.limiter.lockOf ip) := le_max_right _ _
      _ = max s.clock (lockEnd ip history) := h.lock ip
      _ ≤ now + 30 * minute := max_le hclock hend

section

variable {s : LimiterRun} {ip : String} {now t : Time}

/-- An address is let through again when what refuses it has ended, and nothing failed in
between. -/
lemma allowed_later {later : List LimiterCall} (hquiet : ∀ call ∈ later, call.isQuiet)
    (ht : 0 ≤ t) (hpause : s.limiter.pausedUntil ≤ t) (hlock : s.limiter.lockOf ip ≤ t) :
    ((run LimiterRun.step (s.step (.allow ip now)) later).limiter.allow ip t).2.1 = true := by
  have hall : ∀ call ∈ LimiterCall.allow ip now :: later, call.isQuiet := by
    intro call hmem
    obtain rfl | hmem := List.mem_cons.mp hmem
    · trivial
    · exact hquiet call hmem
  obtain ⟨hpause', hlock'⟩ := s.run_quiet hall ip
  rw [run_cons] at hpause' hlock'
  rw [← Bool.not_eq_false, EnrollmentLimiter.allow_refused_iff ht, not_or, not_lt, not_lt, hpause']
  refine ⟨hpause, ?_⟩
  obtain hsame | hcleared := hlock'
  · rw [hsame]
    exact hlock
  · rw [hcleared]
    exact ht

/-- Right after a refusal an address is still refused as long as the pause or its lock goes on. -/
lemma refused_still (hnow : 0 ≤ now) (hle : now ≤ t)
    (hstill : t < s.limiter.pausedUntil ∨ t < s.limiter.lockOf ip) :
    ((s.step (.allow ip now)).limiter.allow ip t).2.1 = false := by
  have hlimiter : (s.step (.allow ip now)).limiter = s.limiter.cleanup now :=
    EnrollmentLimiter.allow_limiter
  rw [hlimiter, EnrollmentLimiter.allow_refused_iff (hnow.trans hle)]
  refine hstill.imp id fun hlock => ?_
  have hmax := congrArg (max t) (s.limiter.max_lockOf_cleanup ip hnow)
  rw [← max_assoc, ← max_assoc, max_eq_left hle] at hmax
  exact (lt_iff_of_max_eq hmax).1.mpr hlock

end

/-- In every state that calls at times in order reach, the wait suffices exactly when a refusal is
told in full. -/
theorem retrySuffices_iff (calls : List LimiterCall)
    (timely : Along LimiterRun.step LimiterRun.Timely {} calls) (ip : String) (now : Time)
    (hlate : (run LimiterRun.step {} calls).clock ≤ now) :
    RetrySuffices (run LimiterRun.step {} calls) ip now ↔
      (now < (run LimiterRun.step {} calls).limiter.refusedUntil ip now →
        ToldInFull (run LimiterRun.step {} calls).limiter ip now) := by
  have hmirrors := mirrors_run timely
  generalize run LimiterRun.step {} calls = s at hlate hmirrors
  have hnow : 0 ≤ now := hmirrors.nonneg.trans hlate
  have hbound := hmirrors.refusedUntil_le ip hlate
  by_cases hrefused : now < s.limiter.refusedUntil ip now
  · set release := s.limiter.refusedUntil ip now with hrelease
    have hd : 0 ≤ release - now := sub_nonneg.mpr hrefused.le
    have hd' : release - now ≤ 30 * minute := sub_le_iff_le_add'.mpr hbound
    have hwait : (s.limiter.allow ip now).2 = (false, release - now) := by
      rw [EnrollmentLimiter.allow_wait hnow hrefused, ← hrelease,
        sub_eq_of_le hrefused.le (hd'.trans (by decide))]
    have hseconds := le_retryAfterSeconds_iff hd hd'
    have hreleased : s.limiter.pausedUntil ≤ release := by
      by_cases hpause : now < s.limiter.pausedUntil
      · rw [hrelease, EnrollmentLimiter.refusedUntil, if_pos hpause]
      · exact (not_lt.mp hpause).trans hrefused.le
    have hends : ∀ t, t < release → t < s.limiter.pausedUntil ∨ t < s.limiter.lockOf ip := by
      intro t hearly
      rw [hrelease, EnrollmentLimiter.refusedUntil] at hearly
      split at hearly
      · exact Or.inl hearly
      · exact Or.inr hearly
    rw [imp_iff_right hrefused]
    constructor
    · intro hsuffices
      -- nothing happens in between
      have hback : ∀ t, t = now + (release - now) ∨
          t = now + retryAfterSeconds (release - now) * second → now ≤ t →
          ¬(t < s.limiter.pausedUntil ∨ t < s.limiter.lockOf ip) := by
        intro t ht hle hstill
        have hok := hsuffices (release - now) hwait t ht [] (by simp) trivial hle
        rw [run_nil, refused_still hnow hle hstill] at hok
        exact Bool.false_ne_true hok
      constructor
      · intro hpause
        have hend : release = s.limiter.pausedUntil := by
          rw [hrelease, EnrollmentLimiter.refusedUntil, if_pos hpause]
        have hnot := hback release (Or.inl (by ring)) hrefused.le
        rw [not_or, not_lt, not_lt, hend] at hnot
        exact hnot.2
      · rw [← hseconds]
        by_contra hshort
        have hpos : 0 ≤ retryAfterSeconds (release - now) * second := by
          rw [retryAfterSeconds_eq hd hd']
          exact mul_nonneg (zero_le_one.trans (le_max_left _ _)) (by decide)
        refine hback _ (Or.inr rfl) (le_add_of_nonneg_right hpos) ?_
        have hearly : now + retryAfterSeconds (release - now) * second < release := by
          linarith [not_le.mp hshort]
        exact hends _ hearly
    · rintro ⟨hpause, htold⟩ d hwaited t ht later hquiet _ _
      have hlock : s.limiter.lockOf ip ≤ release := by
        by_cases hin : now < s.limiter.pausedUntil
        · exact (hpause hin).trans hreleased
        · rw [hrelease, EnrollmentLimiter.refusedUntil, if_neg hin]
      rw [hwait, Prod.mk.injEq] at hwaited
      have hlong : release ≤ t := by
        obtain rfl | rfl := ht
        · linarith [hwaited.2]
        · rw [← hwaited.2]
          linarith [hseconds.mpr htold]
      exact allowed_later hquiet (hnow.trans (hrefused.le.trans hlong)) (hreleased.trans hlong)
        (hlock.trans hlong)
  · have hallowed : (s.limiter.allow ip now).2.1 ≠ false := by
      rw [Ne, EnrollmentLimiter.allow_refused_iff hnow, ← EnrollmentLimiter.lt_refusedUntil_iff]
      exact hrefused
    refine iff_of_true ?_ fun h => absurd h hrefused
    intro d hd
    rw [hd] at hallowed
    exact absurd rfl hallowed

theorem retrySuffices_iff_lockedCalls :
    RetrySuffices (run LimiterRun.step {} lockedCalls) "192.0.2.7" (20 * minute) ↔
      (20 * minute <
          (run LimiterRun.step {} lockedCalls).limiter.refusedUntil "192.0.2.7" (20 * minute) →
        ToldInFull (run LimiterRun.step {} lockedCalls).limiter "192.0.2.7" (20 * minute)) :=
  retrySuffices_iff lockedCalls (by decide) "192.0.2.7" (20 * minute) (by decide)

/-- A number of failures of one address at once. -/
def failuresAtOnce (n : ℕ) : List LimiterCall := List.replicate n (.failure "192.0.2.7" 0)

/-- A hundred failures pause every enrollment for a quarter of an hour and lock their address for
half an hour, of which the answer tells the first half.  Five failures lock their address for half
an hour; half a second later the header leaves out the other half second. -/
theorem retryAfter_tooShort :
    ¬RetrySuffices (run LimiterRun.step {} (failuresAtOnce 100)) "192.0.2.7" 0 ∧
      ¬RetrySuffices (run LimiterRun.step {} (failuresAtOnce 5)) "192.0.2.7" (500 * millisecond) := by
  constructor
  · intro h
    have hok := h (15 * minute) (by decide +kernel) (15 * minute) (Or.inl (by decide)) [] (by simp)
      trivial (by decide)
    revert hok
    decide +kernel
  · intro h
    have hseconds : retryAfterSeconds (30 * minute - 500 * millisecond) = 1799 := by
      rw [retryAfterSeconds_eq (by decide) (by decide)]
      decide
    have hok := h (30 * minute - 500 * millisecond) (by decide) _ (Or.inr rfl) [] (by simp) trivial
      (by rw [hseconds]; decide)
    rw [hseconds] at hok
    revert hok
    decide

end Hostpin
