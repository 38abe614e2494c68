import Hostpin.Foundation.Answers
import Hostpin.Foundation.SlidingWindow
import Hostpin.Security.RateLimit

/-!
# What the enrollment limiter remembers

The limiter forgets failures and addresses on every call.  Its answers are those of a limiter that
forgets nothing: `LimiterAnswer` lists the calls with their answers, and `windowAnswer` gives the
answer to the next call from the whole history.  The limiter mirrors the history
(`Mirrors`), so it gives the same answers (`Mirrors.answer_eq`).

* A failure starts a pause for all addresses when no pause is in force and it is at least the
  hundredth failure in ten minutes.
* A failure locks its address when it is at least the fifth one of the address in ten minutes since
  its last success.

`limiter_answers` says so of every run, and that a cleanup in between changes no answer.
-/

namespace Hostpin

open Clock Runs SlidingWindow

/-! ## Runs of the limiter -/

/-- A limiter in use, and the time of its last call. -/
structure LimiterRun where
  limiter : EnrollmentLimiter := {}
  clock : Time := 0

/-- A call of the limiter, or a cleanup of its own. -/
inductive LimiterCall where
  | allow (ip : String) (now : Time)
  | failure (ip : String) (now : Time)
  | success (ip : String)
  | cleanup (now : Time)

/-- A call with its answer. -/
inductive LimiterAnswer where
  | allowed (ip : String) (now : Time) (ok : Bool) (wait : Duration)
  | failed (ip : String) (now : Time) (paused : Bool)
  | succeeded (ip : String)
  | cleaned

namespace LimiterRun

/-- The limiter after a call. -/
def step (s : LimiterRun) : LimiterCall → LimiterRun
  | .allow ip now => ⟨(s.limiter.allow ip now).1, now⟩
  | .failure ip now => ⟨(s.limiter.failure ip now).1, now⟩
  | .success ip => { s with limiter := s.limiter.success ip }
  | .cleanup now => ⟨s.limiter.cleanup now, now⟩

/-- The answer to a call. -/
def answer (s : LimiterRun) : LimiterCall → LimiterAnswer
  | .allow ip now => .allowed ip now (s.limiter.allow ip now).2.1 (s.limiter.allow ip now).2.2
  | .failure ip now => .failed ip now (s.limiter.failure ip now).2
  | .success ip => .succeeded ip
  | .cleanup _ => .cleaned

/-- Times do not go back from one call to the next. -/
def Timely (s : LimiterRun) : LimiterCall → Prop
  | .allow _ now | .failure _ now | .cleanup now => s.clock ≤ now
  | .success _ => True

instance Timely.decidable (s : LimiterRun) : ∀ call, Decidable (s.Timely call)
  | .allow _ now | .failure _ now | .cleanup now => inferInstanceAs (Decidable (s.clock ≤ now))
  | .success _ => instDecidableTrue

end LimiterRun

/-- A call that is not a cleanup of its own. -/
def LimiterCall.isRequest : LimiterCall → Bool
  | .cleanup _ => false
  | _ => true

/-- The answer to a call that is not a cleanup of its own. -/
def LimiterAnswer.isReply : LimiterAnswer → Bool
  | .cleaned => false
  | _ => true

/-! ## The history -/

/-- The failures of an address after one more call. -/
def LimiterAnswer.next (ip : String) (failures : List Time) : LimiterAnswer → List Time
  | .failed other now _ => if other = ip then failures ++ [now] else failures
  | .succeeded other => if other = ip then [] else failures
  | .allowed .. | .cleaned => failures

/-- The failures of an address since its last success. -/
def failuresSince (ip : String) (history : List LimiterAnswer) : List Time :=
  history.foldl (LimiterAnswer.next ip) []

/-- The failures of all addresses. -/
def failureTimes (history : List LimiterAnswer) : List Time :=
  history.filterMap fun a =>
    match a with
    | .failed _ now _ => some now
    | _ => none

/-- The failures that have paused every enrollment. -/
def pauseStarts (history : List LimiterAnswer) : List Time :=
  history.filterMap fun a =>
    match a with
    | .failed _ now true => some now
    | _ => none

/-- A pause is in force. -/
def InPause (history : List LimiterAnswer) (now : Time) : Prop :=
  ∃ start ∈ pauseStarts history, start ≤ now ∧ now < start + 15 * minute

/-- An address is locked: since its last success it had a failure in the last half hour that was at
least its fifth one in ten minutes. -/
def IsLocked (ip : String) (history : List LimiterAnswer) (now : Time) : Prop :=
  ∃ earlier f later, failuresSince ip history = earlier ++ f :: later ∧ f ≤ now ∧
    now < f + 30 * minute ∧ 5 ≤ (earlier ++ [f]).countP (f - 10 * minute ≤ ·)

/-- The end of the last pause. -/
def pauseEnd (history : List LimiterAnswer) : Time := lastEnd (15 * minute) (pauseStarts history)

/-- The end of the last lock of an address. -/
def lockEnd (ip : String) (history : List LimiterAnswer) : Time :=
  lastEnd (30 * minute) (bursts 5 (10 * minute) (failuresSince ip history))

/-- The answer of a limiter that forgets nothing. -/
def windowAnswer (history : List LimiterAnswer) : LimiterCall → LimiterAnswer
  | .allow ip now =>
    if now < pauseEnd history then .allowed ip now false (sub (pauseEnd history) now)
    else if now < lockEnd ip history then .allowed ip now false (sub (lockEnd ip history) now)
    else .allowed ip now true 0
  | .failure ip now =>
    .failed ip now
      (decide (Fills 100 (10 * minute) (failureTimes history) now) &&
        !decide (now < pauseEnd history))
  | .success ip => .succeeded ip
  | .cleanup _ => .cleaned

section

variable {ip : String} {history : List LimiterAnswer}

lemma failuresSince_append_singleton (history : List LimiterAnswer) (a : LimiterAnswer) :
    failuresSince ip (history ++ [a]) = a.next ip (failuresSince ip history) := by
  unfold failuresSince
  rw [List.foldl_append]
  rfl

lemma failureTimes_append (history later : List LimiterAnswer) :
    failureTimes (history ++ later) = failureTimes history ++ failureTimes later :=
  List.filterMap_append

lemma pauseStarts_append (history later : List LimiterAnswer) :
    pauseStarts (history ++ later) = pauseStarts history ++ pauseStarts later :=
  List.filterMap_append

/-- The failures of an address are among those of all addresses. -/
lemma failuresSince_sublist (ip : String) (history : List LimiterAnswer) :
    (failuresSince ip history).Sublist (failureTimes history) := by
  induction history using List.reverseRecOn with
  | nil => exact List.Sublist.refl _
  | append_singleton history a ih =>
    rw [failuresSince_append_singleton, failureTimes_append]
    have hskip := ih.trans (List.sublist_append_left _ (failureTimes [a]))
    cases a with
    | allowed other now ok wait => exact hskip
    | failed other now paused =>
      simp only [LimiterAnswer.next]
      split
      · exact ih.append_right [now]
      · exact hskip
    | succeeded other =>
      simp only [LimiterAnswer.next]
      split
      · exact List.nil_sublist _
      · exact hskip
    | cleaned => exact hskip

/-- The failures that have started a pause are among all failures. -/
lemma pauseStarts_sublist (history : List LimiterAnswer) :
    (pauseStarts history).Sublist (failureTimes history) := by
  induction history using List.reverseRecOn with
  | nil => exact List.Sublist.refl _
  | append_singleton history a ih =>
    rw [pauseStarts_append, failureTimes_append]
    refine ih.append ?_
    cases a with
    | failed other now paused => cases paused <;> simp [pauseStarts, failureTimes]
    | _ => exact List.Sublist.refl _

/-- What goes on after the last event of a sorted list, when all events are past. -/
lemma inPause_iff (hsorted : (failureTimes history).Pairwise (· ≤ ·)) {now : Time} (hnow : 0 ≤ now)
    (hpast : ∀ t ∈ failureTimes history, t ≤ now) :
    InPause history now ↔ now < pauseEnd history := by
  have hsub := pauseStarts_sublist history
  rw [pauseEnd, lt_lastEnd_iff (hsorted.sublist hsub) hnow]
  constructor
  · rintro ⟨start, hmem, -, hlt⟩
    exact ⟨start, hmem, hlt⟩
  · rintro ⟨start, hmem, hlt⟩
    exact ⟨start, hmem, hpast start (hsub.subset hmem), hlt⟩

lemma isLocked_iff (hsorted : (failureTimes history).Pairwise (· ≤ ·)) {now : Time} (hnow : 0 ≤ now)
    (hpast : ∀ t ∈ failureTimes history, t ≤ now) :
    IsLocked ip history now ↔ now < lockEnd ip history := by
  have hsub := failuresSince_sublist ip history
  rw [lockEnd, lt_lastEnd_iff ((hsorted.sublist hsub).sublist (bursts_sublist _)) hnow]
  constructor
  · rintro ⟨earlier, f, later, hsplit, -, hlt, hfive⟩
    exact ⟨f, mem_bursts_iff.mpr ⟨earlier, later, hsplit, hfive⟩, hlt⟩
  · rintro ⟨f, hmem, hlt⟩
    obtain ⟨earlier, later, hsplit, hfive⟩ := mem_bursts_iff.mp hmem
    have hf : f ∈ failuresSince ip history := by rw [hsplit]; simp
    exact ⟨earlier, f, later, hsplit, hpast f (hsub.subset hf), hlt, hfive⟩

end

/-! ## The limiter mirrors the history -/

/-- The end of the lock of an address, or the zero time when nothing is known about it. -/
def EnrollmentLimiter.lockOf (l : EnrollmentLimiter) (ip : String) : Time :=
  ((l.byIP ip).getD {}).lockedUntil

/-- The limiter holds the failures of the last ten minutes, the end of the last pause, and the end
of the last lock of each address as far as it is still to come. -/
structure Mirrors (history : List LimiterAnswer) (s : LimiterRun) : Prop where
  nonneg : 0 ≤ s.clock
  past : ∀ t ∈ failureTimes history, t ≤ s.clock
  sorted : (failureTimes history).Pairwise (· ≤ ·)
  failures : ∀ ip,
    s.limiter.failuresOf ip = window (s.clock - 10 * minute) (failuresSince ip history)
  globalFailures : s.limiter.globalFailures = window (s.clock - 10 * minute) (failureTimes history)
  pausedUntil : s.limiter.pausedUntil = pauseEnd history
  lock : ∀ ip, max s.clock (s.limiter.lockOf ip) = max s.clock (lockEnd ip history)

lemma mirrors_start : Mirrors [] {} where
  nonneg := le_rfl
  past := by simp [failureTimes]
  sorted := List.Pairwise.nil
  failures _ := rfl
  globalFailures := rfl
  pausedUntil := rfl
  lock _ := rfl

/-- The lock of an address after a cleanup is the one before, as far as it is still to come. -/
lemma EnrollmentLimiter.max_lockOf_cleanup (l : EnrollmentLimiter) (ip : String) {now : Time}
    (hnow : 0 ≤ now) : max now ((l.cleanup now).lockOf ip) = max now (l.lockOf ip) := by
  unfold EnrollmentLimiter.lockOf EnrollmentLimiter.cleanup
  cases hip : l.byIP ip with
  | none => simp [hip]
  | some attempt =>
    simp only [hip, Option.bind_some, Option.getD_some]
    split
    next hgone =>
      rw [Option.getD_none, max_eq_left hgone.2.le]
      exact max_eq_left hnow
    next => rfl

/-- The answer of the limiter in terms of what it holds after a cleanup. -/
lemma EnrollmentLimiter.allow_eq (l : EnrollmentLimiter) (ip : String) {now : Time}
    (hnow : 0 ≤ now) : (l.allow ip now).2 =
      if now < l.pausedUntil then (false, sub l.pausedUntil now)
      else if now < (l.cleanup now).lockOf ip then (false, sub ((l.cleanup now).lockOf ip) now)
      else (true, 0) := by
  have hpaused : (l.cleanup now).pausedUntil = l.pausedUntil := rfl
  unfold EnrollmentLimiter.allow EnrollmentLimiter.lockOf
  simp only [hpaused]
  split
  · rfl
  · cases hip : (l.cleanup now).byIP ip with
    | none =>
      have hlate : ¬now < ({} : EnrollmentAttempt).lockedUntil := not_lt.mpr hnow
      rw [Option.getD_none, if_neg hlate]
    | some attempt =>
      rw [Option.getD_some]
      by_cases hlocked : now < attempt.lockedUntil
      · simp only [if_pos hlocked]
      · simp only [if_neg hlocked]

/-- What a failure changes, in terms of what the limiter holds after a cleanup. -/
lemma EnrollmentLimiter.failure_eq (l : EnrollmentLimiter) (ip : String) (now : Time) :
    (l.failure ip now).2 =
        (decide (100 ≤ ((l.cleanup now).globalFailures ++ [now]).length) &&
          !decide (now < l.pausedUntil)) ∧
      (l.failure ip now).1.globalFailures = (l.cleanup now).globalFailures ++ [now] ∧
      (l.failure ip now).1.pausedUntil =
        if (l.failure ip now).2 = true then now + 15 * minute else l.pausedUntil := by
  have hpaused : (l.cleanup now).pausedUntil = l.pausedUntil := rfl
  unfold EnrollmentLimiter.failure
  simp only [hpaused]
  by_cases hmany : 100 ≤ ((l.cleanup now).globalFailures ++ [now]).length
  · rw [if_pos hmany, decide_eq_true hmany]
    by_cases hforce : now < l.pausedUntil
    · rw [if_pos hforce, decide_eq_true hforce]
      exact ⟨rfl, rfl, rfl⟩
    · rw [if_neg hforce, decide_eq_false hforce]
      exact ⟨rfl, rfl, rfl⟩
  · rw [if_neg hmany, decide_eq_false hmany]
    exact ⟨rfl, rfl, rfl⟩

/-- The lock of an address after a failure. -/
lemma EnrollmentLimiter.lockOf_failure (l : EnrollmentLimiter) (ip other : String) (now : Time) :
    (l.failure other now).1.lockOf ip =
      if other = ip ∧ 5 ≤ ((l.cleanup now).failuresOf ip ++ [now]).length then now + 30 * minute
      else (l.cleanup now).lockOf ip := by
  unfold EnrollmentLimiter.lockOf
  by_cases hip : other = ip
  · rw [EnrollmentLimiter.failure_byIP, hip, Function.update_self, Option.getD_some]
    by_cases hfive : 5 ≤ ((l.cleanup now).failuresOf ip ++ [now]).length
    · simp only [hfive, and_self, if_true]
    · simp only [hfive, and_false, if_false]
  · rw [EnrollmentLimiter.failure_byIP_other hip, if_neg fun h => hip h.1]

namespace Mirrors

variable {history : List LimiterAnswer} {s : LimiterRun} {now : Time} {ip : String}

/-- A cleanup forgets nothing that counts. -/
lemma cleanup (h : Mirrors history s) (htimely : s.clock ≤ now) :
    Mirrors history ⟨s.limiter.cleanup now, now⟩ := by
  have hcutoff : s.clock - 10 * minute ≤ now - 10 * minute := by gcongr
  have hnow : 0 ≤ now := h.nonneg.trans htimely
  refine ⟨hnow, fun t hmem => (h.past t hmem).trans htimely, h.sorted, fun ip => ?_, ?_,
    h.pausedUntil, fun ip => ?_⟩
  · have hsorted := h.sorted.sublist (failuresSince_sublist ip history)
    rw [EnrollmentLimiter.cleanup_failuresOf, h.failures, retainAfter,
      dropWhile_eq_window (pairwise_window hsorted _), window_window hcutoff]
  · have hglobal : (s.limiter.cleanup now).globalFailures =
        retainAfter s.limiter.globalFailures (now - 10 * minute) := rfl
    rw [hglobal, h.globalFailures, retainAfter,
      dropWhile_eq_window (pairwise_window h.sorted _), window_window hcutoff]
  · have hlock := congrArg (max now) (h.lock ip)
    rw [← max_assoc, ← max_assoc, max_eq_left htimely] at hlock
    rw [EnrollmentLimiter.max_lockOf_cleanup _ _ hnow, hlock]

/-- A call that adds no failure, no pause and no success to the history. -/
lemma append_quiet (h : Mirrors history s) {a : LimiterAnswer} (htimes : failureTimes [a] = [])
    (hpauses : pauseStarts [a] = []) (hnext : ∀ ip l, a.next ip l = l) :
    Mirrors (history ++ [a]) s := by
  have hsince : ∀ ip, failuresSince ip (history ++ [a]) = failuresSince ip history := by
    intro ip
    rw [failuresSince_append_singleton, hnext]
  have htimes' : failureTimes (history ++ [a]) = failureTimes history := by
    rw [failureTimes_append, htimes, List.append_nil]
  have hpauses' : pauseStarts (history ++ [a]) = pauseStarts history := by
    rw [pauseStarts_append, hpauses, List.append_nil]
  refine ⟨h.nonneg, by rw [htimes']; exact h.past, by rw [htimes']; exact h.sorted, ?_, ?_, ?_, ?_⟩
  · intro ip
    rw [hsince, h.failures]
  · rw [htimes', h.globalFailures]
  · rw [pauseEnd, hpauses', h.pausedUntil, pauseEnd]
  · intro ip
    rw [lockEnd, hsince, h.lock, lockEnd]

/-- The lock that the limiter holds is the one of the history, when it is still to come. -/
lemma lockOf_eq (h : Mirrors history s) (ip : String) :
    (s.clock < s.limiter.lockOf ip ↔ s.clock < lockEnd ip history) ∧
      (s.clock < lockEnd ip history → s.limiter.lockOf ip = lockEnd ip history) :=
  lt_iff_of_max_eq (h.lock ip)

/-- Whether a failure fills the window of the history is read from the failures held. -/
lemma fills_iff {k : ℕ} {held l : List Time} (hheld : held = window (now - 10 * minute) l) :
    k ≤ (held ++ [now]).length ↔ Fills k (10 * minute) l now := by
  have hcutoff : now - 10 * minute ≤ now := sub_le_self now (by decide)
  rw [hheld, ← window_append_singleton hcutoff, length_window]
  rfl

/-- A limiter that mirrors the history answers like one that forgets nothing. -/
lemma answer_eq (h : Mirrors history s) {call : LimiterCall} (htimely : s.Timely call) :
    s.answer call = windowAnswer history call := by
  cases call with
  | allow ip now =>
    have hnow : 0 ≤ now := h.nonneg.trans htimely
    obtain ⟨hlt, heq⟩ := (h.cleanup htimely).lockOf_eq ip
    simp only [LimiterRun.answer, windowAnswer, EnrollmentLimiter.allow_eq _ _ hnow, h.pausedUntil,
      hlt]
    by_cases hpause : now < pauseEnd history
    · rw [if_pos hpause, if_pos hpause]
    · rw [if_neg hpause, if_neg hpause]
      by_cases hlock : now < lockEnd ip history
      · rw [if_pos hlock, if_pos hlock, heq hlock]
      · rw [if_neg hlock, if_neg hlock]
  | failure ip now =>
    have hfills := fills_iff (k := 100) (h.cleanup htimely).globalFailures
    simp only [LimiterRun.answer, windowAnswer, (EnrollmentLimiter.failure_eq _ _ _).1,
      h.pausedUntil, hfills]
  | success ip => rfl
  | cleanup now => rfl

/-- A failure is added to the history. -/
lemma failure (h : Mirrors history s) (htimely : s.clock ≤ now) (other : String) :
    Mirrors (history ++ [.failed other now (s.limiter.failure other now).2])
      ⟨(s.limiter.failure other now).1, now⟩ := by
  set paused := (s.limiter.failure other now).2 with hpaused
  have hclean := h.cleanup htimely
  have hcutoff : now - 10 * minute ≤ now := sub_le_self now (by decide)
  have htimes : failureTimes (history ++ [.failed other now paused]) =
      failureTimes history ++ [now] := failureTimes_append history _
  have hsince : ∀ ip, failuresSince ip (history ++ [.failed other now paused]) =
      if other = ip then failuresSince ip history ++ [now] else failuresSince ip history :=
    fun ip => failuresSince_append_singleton history _
  obtain ⟨-, hglobal, huntil⟩ := EnrollmentLimiter.failure_eq s.limiter other now
  refine ⟨hclean.nonneg, ?_, ?_, ?_, ?_, ?_, ?_⟩
  · rw [htimes]
    intro t hmem
    obtain hearlier | hlast := List.mem_append.mp hmem
    · exact hclean.past t hearlier
    · exact (List.mem_singleton.mp hlast).le
  · rw [htimes]
    refine List.pairwise_append.mpr ⟨h.sorted, List.pairwise_singleton _ _, fun t hmem u hu => ?_⟩
    rw [List.mem_singleton.mp hu]
    exact hclean.past t hmem
  · intro ip
    rw [hsince]
    by_cases hip : other = ip
    · rw [if_pos hip, window_append_singleton hcutoff, ← hclean.failures, hip,
        EnrollmentLimiter.failure_failuresOf_self, EnrollmentLimiter.cleanup_failuresOf]
    · rw [if_neg hip, ← hclean.failures, EnrollmentLimiter.failure_failuresOf_other hip,
        EnrollmentLimiter.cleanup_failuresOf]
  · rw [htimes, window_append_singleton hcutoff, ← hclean.globalFailures, hglobal]
  · rw [huntil, ← hpaused, pauseEnd, pauseStarts_append]
    cases paused with
    | true => exact (lastEnd_append_singleton _ _ _).symm
    | false => exact h.pausedUntil.trans (by rw [pauseEnd]; simp [pauseStarts])
  · intro ip
    simp only [EnrollmentLimiter.lockOf_failure, fills_iff (hclean.failures ip)]
    rw [lockEnd, hsince]
    by_cases hip : other = ip
    · rw [if_pos hip, bursts_append_singleton]
      by_cases hfills : Fills 5 (10 * minute) (failuresSince ip history) now
      · rw [if_pos ⟨hip, hfills⟩, if_pos hfills, lastEnd_append_singleton]
      · rw [if_neg fun h => hfills h.2, if_neg hfills]
        exact hclean.lock ip
    · rw [if_neg fun h => hip h.1, if_neg hip]
      exact hclean.lock ip

/-- A success of an address takes its failures out of the history. -/
lemma success (h : Mirrors history s) (other : String) :
    Mirrors (history ++ [.succeeded other]) { s with limiter := s.limiter.success other } := by
  have htimes : failureTimes (history ++ [.succeeded other]) = failureTimes history := by
    rw [failureTimes_append]
    exact List.append_nil _
  have hpauses : pauseStarts (history ++ [.succeeded other]) = pauseStarts history := by
    rw [pauseStarts_append]
    exact List.append_nil _
  have hsince : ∀ ip, failuresSince ip (history ++ [.succeeded other]) =
      if other = ip then [] else failuresSince ip history :=
    fun ip => failuresSince_append_singleton history _
  refine ⟨h.nonneg, by rw [htimes]; exact h.past, by rw [htimes]; exact h.sorted, ?_, ?_, ?_, ?_⟩
  · intro ip
    rw [hsince]
    by_cases hip : other = ip
    · rw [if_pos hip, hip, EnrollmentLimiter.success_failuresOf_self, window_nil]
    · rw [if_neg hip, ← h.failures, EnrollmentLimiter.failuresOf,
        EnrollmentLimiter.success_byIP_other hip, EnrollmentLimiter.failuresOf]
  · rw [htimes]
    exact h.globalFailures
  · rw [pauseEnd, hpauses]
    exact h.pausedUntil
  · intro ip
    rw [lockEnd, hsince]
    by_cases hip : other = ip
    · rw [if_pos hip, hip]
      simp [EnrollmentLimiter.lockOf, EnrollmentLimiter.success]
    · rw [if_neg hip, EnrollmentLimiter.lockOf, EnrollmentLimiter.success_byIP_other hip]
      exact h.lock ip

/-- A limiter that mirrors the history goes on to do so. -/
lemma step (h : Mirrors history s) {call : LimiterCall} (htimely : s.Timely call) :
    Mirrors (history ++ [s.answer call]) (s.step call) := by
  cases call with
  | allow ip now =>
    have hnext : Mirrors history ⟨(s.limiter.allow ip now).1, now⟩ := by
      rw [EnrollmentLimiter.allow_limiter]
      exact h.cleanup htimely
    exact hnext.append_quiet rfl rfl fun _ _ => rfl
  | failure ip now => exact h.failure htimely ip
  | success ip => exact h.success ip
  | cleanup now => exact (h.cleanup htimely).append_quiet rfl rfl fun _ _ => rfl

end Mirrors

/-! ## Runs -/

/-- After every run the limiter mirrors the history. -/
theorem mirrors_run {calls : List LimiterCall}
    (timely : Along LimiterRun.step LimiterRun.Timely {} calls) :
    Mirrors (answers LimiterRun.step LimiterRun.answer {} calls)
      (run LimiterRun.step {} calls) := by
  have hkeeps : ∀ history (s : LimiterRun) call, Mirrors history s → s.Timely call →
      Mirrors (history ++ [s.answer call]) (s.step call) :=
    fun history s call h htimely => h.step htimely
  have hrun := answers_invariant hkeeps mirrors_start timely
  rwa [List.nil_append] at hrun

/-- Every answer of a run is the one of a limiter that forgets nothing. -/
lemma answer_of_history {calls : List LimiterCall}
    (timely : Along LimiterRun.step LimiterRun.Timely {} calls) {before after : List LimiterAnswer}
    {a : LimiterAnswer}
    (h : answers LimiterRun.step LimiterRun.answer {} calls = before ++ a :: after) :
    ∃ s call, Mirrors before s ∧ s.Timely call ∧ s.answer call = a ∧
      a = windowAnswer before call := by
  obtain ⟨earlier, call, later, rfl, hbefore, ha, -⟩ := answers_split h
  obtain ⟨htimely, hlater⟩ := along_append.mp timely
  have hmirrors := mirrors_run htimely
  rw [← hbefore] at hmirrors
  refine ⟨_, call, hmirrors, hlater.1, ha.symm, ?_⟩
  rw [ha, hmirrors.answer_eq hlater.1]

/-- A call that is not a cleanup of its own is answered in the same way by two limiters that mirror
one history, and both go on to mirror one. -/
lemma Mirrors.together {history : List LimiterAnswer} {s s' : LimiterRun} (h : Mirrors history s)
    (h' : Mirrors history s') (hclock : s'.clock ≤ s.clock) {call : LimiterCall}
    (hrequest : call.isRequest = true) (htimely : s.Timely call) :
    s'.answer call = s.answer call ∧ (s.answer call).isReply = true ∧
      Mirrors (history ++ [s.answer call]) (s.step call) ∧
      Mirrors (history ++ [s.answer call]) (s'.step call) ∧
      (s'.step call).clock ≤ (s.step call).clock := by
  have htimely' : s'.Timely call := by
    cases call with
    | success ip => trivial
    | _ => exact hclock.trans htimely
  have hanswer : s'.answer call = s.answer call := by
    rw [h.answer_eq htimely, h'.answer_eq htimely']
  have hstep' := h'.step htimely'
  rw [hanswer] at hstep'
  refine ⟨hanswer, ?_, h.step htimely, hstep', ?_⟩
  · cases call with
    | cleanup now => simp [LimiterCall.isRequest] at hrequest
    | _ => rfl
  · cases call with
    | success ip => exact hclock
    | _ => exact le_rfl

/-- Cleanups in between change no answer. -/
lemma Mirrors.answers_filter {history : List LimiterAnswer} {s s' : LimiterRun}
    (h : Mirrors history s) (h' : Mirrors history s') (hclock : s'.clock ≤ s.clock)
    {calls : List LimiterCall} (timely : Along LimiterRun.step LimiterRun.Timely s calls) :
    (answers LimiterRun.step LimiterRun.answer s calls).filter LimiterAnswer.isReply =
      answers LimiterRun.step LimiterRun.answer s' (calls.filter LimiterCall.isRequest) := by
  induction calls generalizing history s s' with
  | nil => rfl
  | cons call calls ih =>
    obtain ⟨htimely, hlater⟩ := timely
    cases hrequest : call.isRequest with
    | true =>
      obtain ⟨hanswer, hreply, hnext, hnext', hclock'⟩ := h.together h' hclock hrequest htimely
      rw [answers_cons, List.filter_cons_of_pos hreply, List.filter_cons_of_pos hrequest,
        answers_cons, hanswer, ih hnext hnext' hclock' hlater]
    | false =>
      cases call with
      | cleanup now =>
        have hskip : (s.answer (.cleanup now)).isReply = false := rfl
        rw [answers_cons, List.filter_cons_of_neg (by rw [hskip]; exact Bool.false_ne_true),
          List.filter_cons_of_neg (by rw [hrequest]; exact Bool.false_ne_true)]
        exact ih (h.cleanup htimely) h' (hclock.trans htimely) hlater
      | _ => simp [LimiterCall.isRequest] at hrequest

/-- The limiter answers as if it forgot nothing.  A failure starts a pause exactly when no pause is
in force and at least a hundred failures lie in the last ten minutes.  A pause lasts a quarter of an
hour, in which every address is refused and no other pause starts.  Outside the pauses exactly the
locked addresses are refused.  Cleanups in between change no answer. -/
theorem limiter_answers (calls : List LimiterCall)
    (timely : Along LimiterRun.step LimiterRun.Timely {} calls) :
    (∀ before after ip now paused,
        answers LimiterRun.step LimiterRun.answer {} calls =
          before ++ .failed ip now paused :: after →
        (paused = true ↔ ¬InPause before now ∧
          100 ≤ (failureTimes before ++ [now]).countP (now - 10 * minute ≤ ·))) ∧
      (∀ before after ip now ok wait,
        answers LimiterRun.step LimiterRun.answer {} calls =
          before ++ .allowed ip now ok wait :: after →
        (InPause before now → ok = false) ∧
          (¬InPause before now → (ok = false ↔ IsLocked ip before now))) ∧
      (answers LimiterRun.step LimiterRun.answer {} calls).filter LimiterAnswer.isReply =
        answers LimiterRun.step LimiterRun.answer {} (calls.filter LimiterCall.isRequest) := by
  refine ⟨?_, ?_, mirrors_start.answers_filter mirrors_start le_rfl timely⟩
  · intro before after ip now paused h
    obtain ⟨s, call, hmirrors, htimely, hanswer, hwindow⟩ := answer_of_history timely h
    cases call with
    | failure ip' now' =>
      have hnow : 0 ≤ now' := hmirrors.nonneg.trans htimely
      have hpast : ∀ t ∈ failureTimes before, t ≤ now' := fun t hmem =>
        (hmirrors.past t hmem).trans htimely
      simp only [windowAnswer, LimiterAnswer.failed.injEq] at hwindow
      obtain ⟨-, rfl, hpaused⟩ := hwindow
      rw [hpaused, inPause_iff hmirrors.sorted hnow hpast]
      simp [Fills, and_comm]
    | _ => simp [LimiterRun.answer] at hanswer
  · intro before after ip now ok wait h
    obtain ⟨s, call, hmirrors, htimely, hanswer, hwindow⟩ := answer_of_history timely h
    cases call with
    | allow ip' now' =>
      have hnow : 0 ≤ now' := hmirrors.nonneg.trans htimely
      have hpast : ∀ t ∈ failureTimes before, t ≤ now' := fun t hmem =>
        (hmirrors.past t hmem).trans htimely
      simp only [LimiterRun.answer, LimiterAnswer.allowed.injEq] at hanswer
      obtain ⟨rfl, rfl, -, -⟩ := hanswer
      rw [inPause_iff hmirrors.sorted hnow hpast, isLocked_iff hmirrors.sorted hnow hpast]
      unfold windowAnswer at hwindow
      by_cases hpause : now' < pauseEnd before
      · simp only [if_pos hpause, LimiterAnswer.allowed.injEq] at hwindow
        exact ⟨fun _ => hwindow.2.2.1, fun hnot => absurd hpause hnot⟩
      · refine ⟨fun hin => absurd hin hpause, fun _ => ?_⟩
        by_cases hlock : now' < lockEnd ip' before
        · simp only [if_neg hpause, if_pos hlock, LimiterAnswer.allowed.injEq] at hwindow
          exact iff_of_true hwindow.2.2.1 hlock
        · simp only [if_neg hpause, if_neg hlock, LimiterAnswer.allowed.injEq] at hwindow
          exact iff_of_false (by rw [hwindow.2.2.1]; decide) hlock
    | _ => simp [LimiterRun.answer] at hanswer

/-- Five failures lock an address, which asks again after a cleanup. -/
def lockedCalls : List LimiterCall :=
  List.replicate 5 (.failure "192.0.2.7" 0) ++
    [.cleanup (12 * minute), .allow "192.0.2.7" (20 * minute)]

theorem limiter_answers_lockedCalls :
    (answers LimiterRun.step LimiterRun.answer {} lockedCalls).filter LimiterAnswer.isReply =
      answers LimiterRun.step LimiterRun.answer {} (lockedCalls.filter LimiterCall.isRequest) :=
  (limiter_answers lockedCalls (by decide)).2.2

end Hostpin
