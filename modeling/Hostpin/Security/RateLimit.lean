import Hostpin.Foundation.Clock
import Hostpin.Foundation.Runs

/-!
# The limiter for enrollment attempts

`EnrollmentLimiter` counts the failures of each address in the last ten minutes.  Five of them lock
the address for half an hour, and a hundred failures of all addresses pause every enrollment.

A request asks the limiter with `allow`, verifies its PIN, which takes long, and tells the limiter
the outcome with `failure` or `success`; between these steps other requests take theirs
(`EnrollmentRequests`).  As many requests as get through before the first failure is counted can
guess (`notBounded_overlapping`).  An address is held to five guesses in ten minutes as long as each
of its requests is let through only when failures and requests in progress are fewer than five
together (`EnrollmentRequests.guesses_bounded`).
-/

namespace Hostpin

open Clock Runs

/-! ## The limiter -/

/-- What the limiter knows about an address. -/
structure EnrollmentAttempt where
  failures : List Time := []
  lockedUntil : Time := 0

/-- The limiter: the attempts of each address, the failures of all addresses, and the end of a pause
for all. -/
structure EnrollmentLimiter where
  byIP : String → Option EnrollmentAttempt := fun _ => none
  globalFailures : List Time := []
  pausedUntil : Time := 0

/-- Drop the times at the start of a list that lie before a time. -/
def retainAfter (input : List Time) (cutoff : Time) : List Time := input.dropWhile (· < cutoff)

namespace EnrollmentLimiter

/-- Forget the failures from more than ten minutes ago, and the addresses without a failure and a
lock. -/
def cleanup (l : EnrollmentLimiter) (now : Time) : EnrollmentLimiter :=
  let window := now - 10 * minute
  { l with
    globalFailures := retainAfter l.globalFailures window
    byIP := fun ip => (l.byIP ip).bind fun attempt =>
      let failures := retainAfter attempt.failures window
      if failures = [] ∧ attempt.lockedUntil < now then none else some { attempt with failures } }

/-- Whether an address may try now, and how long it has to wait if not. -/
def allow (l : EnrollmentLimiter) (ip : String) (now : Time) :
    EnrollmentLimiter × Bool × Duration :=
  let l := l.cleanup now
  if now < l.pausedUntil then (l, false, sub l.pausedUntil now)
  else
    match l.byIP ip with
    | none => (l, true, 0)
    | some attempt =>
      if now < attempt.lockedUntil then (l, false, sub attempt.lockedUntil now) else (l, true, 0)

/-- Count a failure; the answer is whether it pauses every enrollment. -/
def failure (l : EnrollmentLimiter) (ip : String) (now : Time) : EnrollmentLimiter × Bool :=
  let l := l.cleanup now
  let attempt := (l.byIP ip).getD {}
  let failures := attempt.failures ++ [now]
  let lockedUntil := if 5 ≤ failures.length then now + 30 * minute else attempt.lockedUntil
  let l := { l with
    byIP := Function.update l.byIP ip (some { failures, lockedUntil })
    globalFailures := l.globalFailures ++ [now] }
  if 100 ≤ l.globalFailures.length then
    if now < l.pausedUntil then (l, false) else ({ l with pausedUntil := now + 15 * minute }, true)
  else (l, false)

/-- Forget an address. -/
def success (l : EnrollmentLimiter) (ip : String) : EnrollmentLimiter :=
  { l with byIP := Function.update l.byIP ip none }

/-- The failures that the limiter holds for an address. -/
def failuresOf (l : EnrollmentLimiter) (ip : String) : List Time :=
  ((l.byIP ip).map EnrollmentAttempt.failures).getD []

/-! ### What the operations do for one address -/

section Operations

variable {l : EnrollmentLimiter} {ip other : String} {now : Time}

lemma cleanup_failuresOf :
    (l.cleanup now).failuresOf ip = retainAfter (l.failuresOf ip) (now - 10 * minute) := by
  unfold failuresOf cleanup
  cases hip : l.byIP ip with
  | none => simp [hip, retainAfter]
  | some attempt =>
    simp only [hip, Option.bind_some, Option.map_some, Option.getD_some]
    split
    next h => simp [h.1]
    next => rfl

lemma allow_limiter : (l.allow ip now).1 = l.cleanup now := by
  unfold allow
  dsimp only
  split
  · rfl
  · split
    · rfl
    · split <;> rfl

/-- The map of the addresses after a failure. -/
lemma failure_byIP : ((l.failure ip now).1).byIP =
    Function.update (l.cleanup now).byIP ip (some
      { failures := (l.cleanup now).failuresOf ip ++ [now]
        lockedUntil := if 5 ≤ ((l.cleanup now).failuresOf ip ++ [now]).length then now + 30 * minute
          else (((l.cleanup now).byIP ip).getD {}).lockedUntil }) := by
  have hfail : (((l.cleanup now).byIP ip).getD {}).failures = (l.cleanup now).failuresOf ip := by
    unfold failuresOf
    cases (l.cleanup now).byIP ip <;> rfl
  unfold failure
  simp only [hfail]
  split
  · split <;> rfl
  · rfl

lemma failure_failuresOf_self :
    ((l.failure ip now).1).failuresOf ip =
      retainAfter (l.failuresOf ip) (now - 10 * minute) ++ [now] := by
  rw [← cleanup_failuresOf]
  simp [failuresOf, failure_byIP]

lemma failure_byIP_other (h : other ≠ ip) :
    ((l.failure other now).1).byIP ip = (l.cleanup now).byIP ip := by
  rw [failure_byIP, Function.update_of_ne h.symm]

lemma failure_failuresOf_other (h : other ≠ ip) :
    ((l.failure other now).1).failuresOf ip =
      retainAfter (l.failuresOf ip) (now - 10 * minute) := by
  rw [← cleanup_failuresOf, failuresOf, failure_byIP_other h, failuresOf]

@[simp] lemma success_failuresOf_self : (l.success ip).failuresOf ip = [] := by
  simp [success, failuresOf]

lemma success_byIP_other (h : other ≠ ip) : (l.success other).byIP ip = l.byIP ip := by
  simp [success, h.symm]

end Operations

/-! ### Locks -/

/-- An address is locked until a time. -/
def LockedUntil (l : EnrollmentLimiter) (ip : String) (release : Time) : Prop :=
  ∃ attempt, l.byIP ip = some attempt ∧ release ≤ attempt.lockedUntil

/-- An address with five failures is locked for half an hour after the last of them. -/
def LocksAtFive (l : EnrollmentLimiter) (ip : String) : Prop :=
  ∀ attempt, l.byIP ip = some attempt → 5 ≤ attempt.failures.length →
    ∃ last, attempt.failures.getLast? = some last ∧ attempt.lockedUntil = last + 30 * minute

section Locks

variable {l : EnrollmentLimiter} {ip other : String} {now release : Time}

/-- The attempts that are left after a cleanup. -/
lemma cleanup_eq_some {attempt : EnrollmentAttempt} (h : (l.cleanup now).byIP ip = some attempt) :
    ∃ before, l.byIP ip = some before ∧ attempt.lockedUntil = before.lockedUntil ∧
      attempt.failures = retainAfter before.failures (now - 10 * minute) := by
  obtain ⟨before, hbefore, h⟩ := Option.bind_eq_some_iff.mp h
  dsimp only at h
  split at h
  · cases h
  · cases h
    exact ⟨before, hbefore, rfl, rfl⟩

lemma LocksAtFive.cleanup (h : l.LocksAtFive ip) : (l.cleanup now).LocksAtFive ip := by
  intro attempt hattempt five
  obtain ⟨before, hbefore, hlocked, hfail⟩ := cleanup_eq_some hattempt
  obtain ⟨dropped, hdropped⟩ := List.dropWhile_suffix (· < now - 10 * minute) (l := before.failures)
  have suffix : before.failures = dropped ++ attempt.failures := by rw [← hdropped, hfail]; rfl
  obtain ⟨last, hlast, hlock⟩ := h before hbefore (by rw [suffix, List.length_append]; omega)
  refine ⟨last, ?_, hlocked.trans hlock⟩
  have nonempty : attempt.failures ≠ [] := by rintro h; simp [h] at five
  rw [← hlast, suffix, List.getLast?_append_of_ne_nil _ nonempty]

lemma LocksAtFive.failure (h : l.LocksAtFive ip) :
    ((l.failure other now).1).LocksAtFive ip := by
  intro attempt hattempt five
  by_cases hip : other = ip
  · subst hip
    rw [failure_byIP, Function.update_self] at hattempt
    cases hattempt
    exact ⟨now, List.getLast?_concat .., if_pos five⟩
  · rw [failure_byIP_other hip] at hattempt
    exact h.cleanup attempt hattempt five

lemma LocksAtFive.success (h : l.LocksAtFive ip) : (l.success other).LocksAtFive ip := by
  intro attempt hattempt five
  by_cases hip : other = ip
  · subst hip
    simp [EnrollmentLimiter.success] at hattempt
  · rw [success_byIP_other hip] at hattempt
    exact h attempt hattempt five

/-- Five failures lock the address. -/
lemma LocksAtFive.locked (h : l.LocksAtFive ip) (five : 5 ≤ (l.failuresOf ip).length) {last : Time}
    (hlast : (l.failuresOf ip).getLast? = some last) : l.LockedUntil ip (last + 30 * minute) := by
  cases hip : l.byIP ip with
  | none => simp [failuresOf, hip] at five
  | some attempt =>
    simp only [failuresOf, hip, Option.map_some, Option.getD_some] at five hlast
    obtain ⟨last', hlast', hlock⟩ := h attempt hip five
    rw [hlast, Option.some_inj] at hlast'
    exact ⟨attempt, hip, by rw [hlock, hlast']⟩

lemma LockedUntil.cleanup (h : l.LockedUntil ip release) (early : now < release) :
    (l.cleanup now).LockedUntil ip release := by
  obtain ⟨attempt, hattempt, hrelease⟩ := h
  refine ⟨{ attempt with failures := retainAfter attempt.failures (now - 10 * minute) }, ?_,
    hrelease⟩
  simp only [EnrollmentLimiter.cleanup, hattempt, Option.bind_some]
  rw [if_neg]
  rintro ⟨-, late⟩
  exact absurd (early.trans_le hrelease) (not_lt.mpr late.le)

/-- A locked address is refused. -/
lemma LockedUntil.refused (h : l.LockedUntil ip release) (early : now < release) :
    (l.allow ip now).2.1 = false := by
  obtain ⟨attempt, hattempt, hrelease⟩ := h.cleanup early
  unfold allow
  simp only [hattempt]
  split
  · rfl
  · rw [if_pos (early.trans_le hrelease)]

lemma LockedUntil.failure_other (h : l.LockedUntil ip release) (early : now < release)
    (hip : other ≠ ip) : ((l.failure other now).1).LockedUntil ip release := by
  obtain ⟨attempt, hattempt, hrelease⟩ := h.cleanup early
  exact ⟨attempt, by rw [failure_byIP_other hip, hattempt], hrelease⟩

lemma LockedUntil.success_other (h : l.LockedUntil ip release) (hip : other ≠ ip) :
    (l.success other).LockedUntil ip release := by
  obtain ⟨attempt, hattempt, hrelease⟩ := h
  exact ⟨attempt, by rw [success_byIP_other hip, hattempt], hrelease⟩

end Locks

end EnrollmentLimiter

/-! ## Requests -/

/-- Where a request stands that the limiter has let through: its PIN is being verified, was wrong,
or was right. -/
inductive PINPhase where
  | verifying
  | wrong
  | right
deriving DecidableEq

/-- A request that the limiter has let through.  It goes on with the time at which it asked. -/
structure EnrollmentAttemptRequest where
  ticket : ℕ
  ip : String
  now : Time
  phase : PINPhase := .verifying
deriving DecidableEq

/-- The limiter and the requests around it.  `clock` is the time of the last request, and `guesses`
lists the wrong PINs of each address since its last success. -/
structure EnrollmentRequests where
  limiter : EnrollmentLimiter := {}
  clock : Time := 0
  count : ℕ := 0
  pending : List EnrollmentAttemptRequest := []
  guesses : List (String × Time) := []

/-- A request asks the limiter, verifies its PIN, tells a failure or a success, or leaves without
either. -/
inductive EnrollmentStep where
  | allow (ip : String) (now : Time)
  | verify (ticket : ℕ) (correct : Bool)
  | failure (ticket : ℕ)
  | success (ticket : ℕ)
  | leave (ticket : ℕ)

namespace EnrollmentRequests

/-- A request asks the limiter. -/
def allow (s : EnrollmentRequests) (ip : String) (now : Time) : EnrollmentRequests :=
  let answer := s.limiter.allow ip now
  let asked := { s with limiter := answer.1, clock := now, count := s.count + 1 }
  if answer.2.1 then { asked with pending := ⟨s.count, ip, now, .verifying⟩ :: s.pending }
  else asked

/-- A request that has been let through takes a step of its own.  A wrong PIN leads to a failure,
and so does a right one when it cannot be claimed any more. -/
def advance (s : EnrollmentRequests) (r : EnrollmentAttemptRequest) :
    EnrollmentStep → EnrollmentRequests
  | .verify _ correct =>
    match r.phase, correct with
    | .verifying, false =>
      { s with pending := { r with phase := .wrong } :: s.pending
               guesses := s.guesses ++ [(r.ip, r.now)] }
    | .verifying, true => { s with pending := { r with phase := .right } :: s.pending }
    | _, _ => { s with pending := r :: s.pending }
  | .failure _ =>
    if r.phase = .verifying then { s with pending := r :: s.pending }
    else { s with limiter := (s.limiter.failure r.ip r.now).1 }
  | .success _ =>
    if r.phase = .right then
      { s with limiter := s.limiter.success r.ip
               guesses := s.guesses.filter fun guess => guess.1 ≠ r.ip }
    else { s with pending := r :: s.pending }
  | .leave _ => if r.phase = .wrong then { s with pending := r :: s.pending } else s
  | .allow _ _ => { s with pending := r :: s.pending }

/-- The request that takes a step. -/
def find (s : EnrollmentRequests) (ticket : ℕ) : Option EnrollmentAttemptRequest :=
  s.pending.find? fun r => r.ticket = ticket

/-- The requests without the one that takes a step. -/
def without (s : EnrollmentRequests) (ticket : ℕ) : EnrollmentRequests :=
  { s with pending := s.pending.eraseP fun r => r.ticket = ticket }

/-- A request in progress takes its next step. -/
def proceed (s : EnrollmentRequests) (ticket : ℕ) (event : EnrollmentStep) : EnrollmentRequests :=
  match s.find ticket with
  | none => s
  | some r => (s.without ticket).advance r event

/-- The requests after a step. -/
def step (s : EnrollmentRequests) : EnrollmentStep → EnrollmentRequests
  | .allow ip now => s.allow ip now
  | .verify ticket correct => s.proceed ticket (.verify ticket correct)
  | .failure ticket => s.proceed ticket (.failure ticket)
  | .success ticket => s.proceed ticket (.success ticket)
  | .leave ticket => s.proceed ticket (.leave ticket)

/-- The requests of an address in progress, each with its phase and its time. -/
def pendingOf (s : EnrollmentRequests) (ip : String) : List (PINPhase × Time) :=
  (s.pending.filter fun r => r.ip = ip).map fun r => (r.phase, r.now)

/-- The times of the wrong PINs of an address since its last success. -/
def guessesOf (s : EnrollmentRequests) (ip : String) : List Time :=
  (s.guesses.filter fun guess => guess.1 = ip).map Prod.snd

/-- Times do not go back from one request to the next. -/
def Timely (s : EnrollmentRequests) : EnrollmentStep → Prop
  | .allow _ now => s.clock ≤ now
  | _ => True

/-- A request of the address that is let through finds fewer than five failures and requests in
progress together. -/
def HasRoom (ip : String) (s : EnrollmentRequests) : EnrollmentStep → Prop
  | .allow ip' now =>
    ip' = ip → (s.limiter.allow ip now).2.1 = true →
      ((s.limiter.cleanup now).failuresOf ip).length + (s.pendingOf ip).length < 5
  | _ => True

instance Timely.decidable (s : EnrollmentRequests) : ∀ event, Decidable (s.Timely event)
  | .allow _ now => inferInstanceAs (Decidable (s.clock ≤ now))
  | .verify .. | .failure _ | .success _ | .leave _ => instDecidableTrue

instance HasRoom.decidable (ip : String) (s : EnrollmentRequests) :
    ∀ event, Decidable (HasRoom ip s event)
  | .allow ip' now => inferInstanceAs (Decidable (ip' = ip → (s.limiter.allow ip now).2.1 = true →
      ((s.limiter.cleanup now).failuresOf ip).length + (s.pendingOf ip).length < 5))
  | .verify .. | .failure _ | .success _ | .leave _ => instDecidableTrue

end EnrollmentRequests

/-! ## One address -/

/-- The ten minutes that start at a time. -/
def inWindow (start t : Time) : Bool := start ≤ t ∧ t < start + 10 * minute

/-- At most five of the times lie within any ten minutes. -/
def FivePerWindow (times : List Time) : Prop := ∀ start, times.countP (inWindow start) ≤ 5

lemma retainAfter_length_le (input : List Time) (cutoff : Time) :
    (retainAfter input cutoff).length ≤ input.length :=
  (List.dropWhile_sublist _).length_le

/-- Forgetting what lies before a window takes nothing out of it. -/
lemma retainAfter_countP {input : List Time} {cutoff start : Time} (h : cutoff ≤ start) :
    (retainAfter input cutoff).countP (inWindow start) = input.countP (inWindow start) := by
  unfold retainAfter
  induction input with
  | nil => rfl
  | cons t input ih =>
    rw [List.dropWhile_cons]
    split
    next early =>
      have outside : inWindow start t = false := by
        simp only [decide_eq_true_eq] at early
        simp only [inWindow, decide_eq_false_iff_not, not_and]
        exact fun late => absurd (early.trans_le h) (not_lt.mpr late)
      rw [ih, List.countP_cons_of_neg (by simp [outside])]
    next => rfl

/-- What matters about one address: its failures, its requests in progress, its guesses, and the
time. -/
structure AddressView where
  failures : List Time
  pending : List (PINPhase × Time)
  guesses : List Time
  clock : Time

namespace AddressView

/-- What can happen to an address while each request that is let through finds room. -/
inductive Moves : AddressView → AddressView → Prop
  | reorder {v pending} (perm : v.pending.Perm pending) : Moves v { v with pending }
  | tick {v now} (later : v.clock ≤ now) :
      Moves v { v with clock := now, failures := retainAfter v.failures (now - 10 * minute) }
  | enter {v now} (later : v.clock ≤ now)
      (room : (retainAfter v.failures (now - 10 * minute)).length + v.pending.length < 5) :
      Moves v { v with
        clock := now
        failures := retainAfter v.failures (now - 10 * minute)
        pending := (.verifying, now) :: v.pending }
  | forget {v now pending} (perm : v.pending.Perm pending) (past : now ≤ v.clock) :
      Moves v { v with pending, failures := retainAfter v.failures (now - 10 * minute) }
  | guess {v t rest} (pending : v.pending.Perm ((.verifying, t) :: rest)) :
      Moves v { v with pending := (.wrong, t) :: rest, guesses := v.guesses ++ [t] }
  | hit {v t rest} (pending : v.pending.Perm ((.verifying, t) :: rest)) :
      Moves v { v with pending := (.right, t) :: rest }
  | fail {v phase t rest} (pending : v.pending.Perm ((phase, t) :: rest))
      (verified : phase ≠ .verifying) :
      Moves v { v with
        pending := rest
        failures := retainAfter v.failures (t - 10 * minute) ++ [t] }
  | succeed {v phase t rest} (pending : v.pending.Perm ((phase, t) :: rest))
      (right : phase = .right) :
      Moves v { v with pending := rest, failures := [], guesses := [] }
  | leave {v phase t rest} (pending : v.pending.Perm ((phase, t) :: rest))
      (other : phase ≠ .wrong) :
      Moves v { v with pending := rest }

/-- How many requests in a phase asked within ten minutes. -/
def inPhase (pending : List (PINPhase × Time)) (phase : PINPhase) (start : Time) : ℕ :=
  pending.countP fun r => r.1 = phase ∧ inWindow start r.2

/-- The address is held to its five guesses.  A guess is one of the failures that the limiter holds
or is about to become one, at least while its ten minutes last (`recent`). -/
structure Bounded (v : AddressView) : Prop where
  budget : v.failures.length + v.pending.length ≤ 5
  times : ∀ r ∈ v.pending, r.2 ≤ v.clock
  window : ∀ start, v.guesses.countP (inWindow start) + inPhase v.pending .verifying start ≤ 5
  recent : ∀ start, v.clock < start + 10 * minute →
    v.guesses.countP (inWindow start) ≤
      v.failures.countP (inWindow start) + inPhase v.pending .wrong start

variable {v : AddressView} {rest : List (PINPhase × Time)} {t now : Time} {phase : PINPhase}

/-- One for a request in a phase that asked within ten minutes. -/
def counts (r : PINPhase × Time) (phase : PINPhase) (start : Time) : ℕ :=
  if r.1 = phase ∧ inWindow start r.2 then 1 else 0

@[simp] lemma inPhase_cons (r : PINPhase × Time) (phase : PINPhase) (start : Time) :
    inPhase (r :: rest) phase start = inPhase rest phase start + counts r phase start := by
  rw [inPhase, List.countP_cons, inPhase, counts]
  simp only [decide_eq_true_eq]

/-- A request is in one phase. -/
lemma inPhase_add_le (pending : List (PINPhase × Time)) (start : Time) :
    inPhase pending .wrong start + inPhase pending .verifying start ≤ pending.length := by
  induction pending with
  | nil => simp [inPhase]
  | cons r pending ih =>
    obtain ⟨phase, t⟩ := r
    simp only [inPhase_cons, counts, List.length_cons]
    by_cases inside : inWindow start t <;> cases phase <;> simp [inside] <;> omega

lemma Bounded.perm (h : v.Bounded) {pending : List (PINPhase × Time)}
    (perm : v.pending.Perm pending) : Bounded { v with pending } where
  budget := by
    show v.failures.length + pending.length ≤ 5
    rw [← perm.length_eq]
    exact h.budget
  times r mem := h.times r (perm.mem_iff.mpr mem)
  window start := by
    have := h.window start
    rwa [inPhase, perm.countP_eq] at this
  recent start late := by
    have := h.recent start late
    rwa [inPhase, perm.countP_eq] at this

/-- The limiter forgets failures that are ten minutes old. -/
lemma Bounded.forget (h : v.Bounded) (past : now ≤ v.clock) :
    Bounded { v with failures := retainAfter v.failures (now - 10 * minute) } where
  budget :=
    (Nat.add_le_add_right (retainAfter_length_le v.failures (now - 10 * minute)) _).trans h.budget
  times := h.times
  window := h.window
  recent start late := by
    show _ ≤ (retainAfter v.failures (now - 10 * minute)).countP (inWindow start) + _
    have : v.clock < start + 10 * minute := late
    rw [retainAfter_countP (by linarith)]
    exact h.recent start late

/-- Time goes on. -/
lemma Bounded.later (h : v.Bounded) (later : v.clock ≤ now) : Bounded { v with clock := now } :=
  ⟨h.budget, fun r mem => (h.times r mem).trans later, h.window,
    fun start late => h.recent start (later.trans_lt late)⟩

/-- A new request finds room. -/
lemma Bounded.enter (h : v.Bounded) (room : v.failures.length + v.pending.length < 5) :
    Bounded { v with pending := (.verifying, v.clock) :: v.pending } where
  budget := by
    show v.failures.length + (v.pending.length + 1) ≤ 5
    omega
  times r mem := by
    rcases List.mem_cons.mp mem with rfl | mem
    exacts [le_refl _, h.times r mem]
  window start := by
    simp only [inPhase_cons, counts, true_and]
    split
    next inside =>
      -- what was guessed in these ten minutes is a failure or about to become one
      have recent := h.recent start (by
        simp only [inWindow, decide_eq_true_eq] at inside
        exact inside.2)
      have failures := List.countP_le_length (p := inWindow start) (l := v.failures)
      have pending : inPhase v.pending .wrong start + inPhase v.pending .verifying start ≤
          v.pending.length := inPhase_add_le v.pending start
      omega
    next => exact h.window start
  recent start late := by
    simp only [inPhase_cons, counts]
    exact h.recent start late

/-- A request whose PIN was wrong does not guess again, and is on its way to a failure. -/
lemma Bounded.guess (h : Bounded { v with pending := (.verifying, t) :: rest }) :
    Bounded { v with pending := (.wrong, t) :: rest, guesses := v.guesses ++ [t] } := by
  obtain ⟨budget, times, window, recent⟩ := h
  refine ⟨budget, ?_, fun start => ?_, fun start late => ?_⟩
  · exact List.forall_mem_cons.mpr (List.forall_mem_cons.mp times)
  · have := window start
    simp only [inPhase_cons, counts, true_and] at this
    simp only [List.countP_append, List.countP_singleton, inPhase_cons, counts]
    simpa [add_assoc, add_comm, add_left_comm] using this
  · have := recent start late
    simp only [inPhase_cons, counts] at this
    simp only [List.countP_append, List.countP_singleton, inPhase_cons, counts, true_and]
    simp only [reduceCtorEq, false_and, if_false, add_zero] at this
    omega

/-- A request leaves that is not on its way to a failure. -/
lemma Bounded.leave (h : Bounded { v with pending := (phase, t) :: rest })
    (other : phase ≠ .wrong) :
    Bounded { v with pending := rest } := by
  obtain ⟨budget, times, window, recent⟩ := h
  refine ⟨?_, fun r mem => times r (List.mem_cons_of_mem _ mem), fun start => ?_,
    fun start late => ?_⟩
  · exact (Nat.le_succ _).trans budget
  · have := window start
    rw [inPhase_cons, ← add_assoc] at this
    exact (Nat.le_add_right _ _).trans this
  · have := recent start late
    rwa [inPhase_cons, counts, if_neg (by simp [other]), add_zero] at this

/-- A request whose PIN was right may not guess again. -/
lemma Bounded.hit (h : Bounded { v with pending := (.verifying, t) :: rest }) :
    Bounded { v with pending := (.right, t) :: rest } := by
  have left := h.leave (by simp)
  refine ⟨h.budget, ?_, fun start => ?_, fun start late => ?_⟩
  · exact List.forall_mem_cons.mpr (List.forall_mem_cons.mp h.times)
  · simpa [counts] using left.window start
  · simpa [counts] using left.recent start late

/-- A request becomes a failure that the limiter holds. -/
lemma Bounded.fail (h : Bounded { v with pending := (phase, t) :: rest })
    (verified : phase ≠ .verifying) :
    Bounded { v with
      pending := rest
      failures := retainAfter v.failures (t - 10 * minute) ++ [t] } := by
  obtain ⟨budget, times, window, recent⟩ := h
  have past : t ≤ v.clock := times _ List.mem_cons_self
  refine ⟨?_, fun r mem => times r (List.mem_cons_of_mem _ mem), fun start => ?_,
    fun start late => ?_⟩
  · have := retainAfter_length_le v.failures (t - 10 * minute)
    simp only [List.length_cons, List.length_nil, List.length_append] at budget ⊢
    omega
  · have := window start
    rwa [inPhase_cons, counts, if_neg (by simp [verified]), add_zero] at this
  · have := recent start late
    have late' : v.clock < start + 10 * minute := late
    simp only [inPhase_cons, counts] at this
    simp only [List.countP_append, List.countP_singleton]
    rw [retainAfter_countP (by linarith)]
    have : (if phase = .wrong ∧ inWindow start t = true then 1 else 0) ≤
        if inWindow start t = true then 1 else 0 := by
      split <;> split <;> simp_all
    omega

/-- A success forgets the failures and the guesses. -/
lemma Bounded.succeed (h : Bounded { v with pending := (phase, t) :: rest })
    (right : phase = .right) :
    Bounded { v with pending := rest, failures := [], guesses := [] } := by
  have left := h.leave (by simp [right])
  refine ⟨?_, left.times, fun start => ?_, fun start late => by simp⟩
  · have := left.budget
    simp only [List.length_nil] at this ⊢
    omega
  · have := left.window start
    simp only [List.countP_nil] at this ⊢
    omega

lemma Moves.bounded {v' : AddressView} (move : Moves v v') (h : v.Bounded) : v'.Bounded := by
  cases move with
  | reorder perm => exact h.perm perm
  | tick later => exact (h.later later).forget le_rfl
  | enter later room => exact ((h.later later).forget le_rfl).enter room
  | forget perm past => exact (h.perm perm).forget past
  | guess pending => exact (h.perm pending).guess
  | hit pending => exact (h.perm pending).hit
  | fail pending verified => exact (h.perm pending).fail verified
  | succeed pending right => exact (h.perm pending).succeed right
  | leave pending other => exact (h.perm pending).leave other

/-- An address with at most five guesses in any ten minutes. -/
lemma Bounded.fivePerWindow (h : v.Bounded) : FivePerWindow v.guesses := fun start =>
  (Nat.le_add_right _ _).trans (h.window start)

end AddressView

/-! ## What the steps do to one address -/

namespace EnrollmentRequests

variable {s : EnrollmentRequests} {ip : String} {r : EnrollmentAttemptRequest}

/-- An address as the limiter and the requests show it. -/
def viewOf (s : EnrollmentRequests) (ip : String) : AddressView where
  failures := s.limiter.failuresOf ip
  pending := s.pendingOf ip
  guesses := s.guessesOf ip
  clock := s.clock

open AddressView (Moves)

/-- A request has asked before now. -/
def Past (s : EnrollmentRequests) : Prop := ∀ r ∈ s.pending, r.now ≤ s.clock

lemma allow_moves {now : Time} {other : String} (timely : s.clock ≤ now)
    (room : HasRoom ip s (.allow other now)) :
    Moves (s.viewOf ip) ((s.allow other now).viewOf ip) := by
  have limiter : (s.limiter.allow other now).1.failuresOf ip =
      retainAfter (s.limiter.failuresOf ip) (now - 10 * minute) := by
    rw [EnrollmentLimiter.allow_limiter, EnrollmentLimiter.cleanup_failuresOf]
  by_cases entered : (s.limiter.allow other now).2.1 = true ∧ other = ip
  · obtain ⟨hallowed, rfl⟩ := entered
    have hroom := room rfl hallowed
    rw [EnrollmentLimiter.cleanup_failuresOf] at hroom
    have view : (s.allow other now).viewOf other =
        { s.viewOf other with
          clock := now
          failures := retainAfter (s.limiter.failuresOf other) (now - 10 * minute)
          pending := (.verifying, now) :: s.pendingOf other } := by
      simp [allow, hallowed, viewOf, limiter, pendingOf, guessesOf]
    rw [view]
    exact .enter timely hroom
  · have view : (s.allow other now).viewOf ip =
        { s.viewOf ip with
          clock := now
          failures := retainAfter (s.limiter.failuresOf ip) (now - 10 * minute) } := by
      unfold allow
      dsimp only
      split
      next hallowed =>
        have hother : other ≠ ip := fun same => entered ⟨hallowed, same⟩
        simp [viewOf, limiter, pendingOf, guessesOf, hother]
      next => simp [viewOf, limiter, pendingOf, guessesOf]
    rw [view]
    exact .tick timely

variable {pending : List EnrollmentAttemptRequest}

/-- The requests of an address, with the one that takes a step in front. -/
lemma pendingOf_perm (perm : pending.Perm (r :: s.pending)) (same : r.ip = ip) :
    (pendingOf { s with pending } ip).Perm ((r.phase, r.now) :: s.pendingOf ip) := by
  have := (perm.filter fun r => r.ip = ip).map fun r => (r.phase, r.now)
  simpa [pendingOf, same] using this

lemma pendingOf_perm_other (perm : pending.Perm (r :: s.pending)) (other : r.ip ≠ ip) :
    (pendingOf { s with pending } ip).Perm (s.pendingOf ip) := by
  have := (perm.filter fun r => r.ip = ip).map fun r => (r.phase, r.now)
  simpa [pendingOf, other] using this

/-- A request of the address takes its step. -/
lemma advance_moves (perm : pending.Perm (r :: s.pending)) (same : r.ip = ip)
    (event : EnrollmentStep) :
    Moves (viewOf { s with pending } ip) ((s.advance r event).viewOf ip) := by
  have hperm := pendingOf_perm perm same
  have stays : Moves (viewOf { s with pending } ip)
      (viewOf { s with pending := r :: s.pending } ip) := by
    have := Moves.reorder (v := viewOf { s with pending } ip) hperm
    simpa [viewOf, pendingOf, guessesOf, same] using this
  cases event with
  | allow => exact stays
  | verify ticket correct =>
    cases hphase : r.phase with
    | verifying =>
      rw [hphase] at hperm
      cases correct with
      | false =>
        have := Moves.guess (v := viewOf { s with pending } ip) hperm
        simpa [advance, hphase, viewOf, pendingOf, guessesOf, same] using this
      | true =>
        have := Moves.hit (v := viewOf { s with pending } ip) hperm
        simpa [advance, hphase, viewOf, pendingOf, guessesOf, same] using this
    | wrong => simpa [advance, hphase] using stays
    | right => simpa [advance, hphase] using stays
  | failure ticket =>
    by_cases hphase : r.phase = .verifying
    · simpa [advance, hphase] using stays
    · have := Moves.fail (v := viewOf { s with pending } ip) hperm hphase
      have failures : (s.limiter.failure r.ip r.now).1.failuresOf ip =
          retainAfter (s.limiter.failuresOf ip) (r.now - 10 * minute) ++ [r.now] := by
        rw [← same, EnrollmentLimiter.failure_failuresOf_self]
      simpa [advance, hphase, viewOf, pendingOf, guessesOf, failures] using this
  | success ticket =>
    by_cases hphase : r.phase = .right
    · have := Moves.succeed (v := viewOf { s with pending } ip) hperm hphase
      simpa [advance, hphase, viewOf, pendingOf, guessesOf, ← same, List.filter_filter] using this
    · simpa [advance, hphase] using stays
  | leave ticket =>
    by_cases hphase : r.phase = .wrong
    · simpa [advance, hphase] using stays
    · have := Moves.leave (v := viewOf { s with pending } ip) hperm hphase
      simpa [advance, hphase, viewOf, pendingOf, guessesOf] using this

/-- A step of a request leaves the limiter as it is, or tells it a failure or a success. -/
lemma advance_limiter (event : EnrollmentStep) :
    (s.advance r event).limiter = s.limiter ∨
      (s.advance r event).limiter = (s.limiter.failure r.ip r.now).1 ∨
      (s.advance r event).limiter = s.limiter.success r.ip := by
  cases event with
  | allow => exact .inl rfl
  | verify ticket correct =>
    cases hphase : r.phase <;> cases correct <;> exact .inl (by simp [advance, hphase])
  | failure ticket =>
    simp only [advance]
    split
    exacts [.inl rfl, .inr (.inl rfl)]
  | success ticket =>
    simp only [advance]
    split
    exacts [.inr (.inr rfl), .inl rfl]
  | leave ticket =>
    simp only [advance]
    split <;> exact .inl rfl

@[simp] lemma advance_clock (event : EnrollmentStep) : (s.advance r event).clock = s.clock := by
  cases event with
  | verify ticket correct => cases hphase : r.phase <;> cases correct <;> simp [advance, hphase]
  | allow => rfl
  | failure | success | leave => simp only [advance]; split <;> rfl

/-- A request that goes on keeps its time and its address. -/
lemma advance_pending {event : EnrollmentStep} {q : EnrollmentAttemptRequest}
    (mem : q ∈ (s.advance r event).pending) : q ∈ s.pending ∨ q.now = r.now ∧ q.ip = r.ip := by
  have stays (mem : q ∈ r :: s.pending) : q ∈ s.pending ∨ q.now = r.now ∧ q.ip = r.ip := by
    rcases List.mem_cons.mp mem with rfl | mem
    exacts [.inr ⟨rfl, rfl⟩, .inl mem]
  cases event with
  | allow => exact stays mem
  | verify ticket correct =>
    cases hphase : r.phase <;> cases correct <;> simp only [advance, hphase] at mem <;>
      first
      | exact stays mem
      | exact (List.mem_cons.mp mem).elim (fun h => .inr (by simp [h])) .inl
  | failure ticket | success ticket | leave ticket =>
    simp only [advance] at mem
    split at mem <;> first | exact stays mem | exact .inl mem

/-- The step of a request leaves the requests and guesses of other addresses alone. -/
lemma advance_other (other : r.ip ≠ ip) (event : EnrollmentStep) :
    (s.advance r event).pendingOf ip = s.pendingOf ip ∧
      (s.advance r event).guessesOf ip = s.guessesOf ip := by
  cases event with
  | allow => simp [advance, pendingOf, guessesOf, other]
  | verify ticket correct =>
    cases hphase : r.phase <;> cases correct <;>
      simp [advance, hphase, pendingOf, guessesOf, other]
  | failure ticket | leave ticket =>
    simp only [advance]
    split <;> simp [pendingOf, guessesOf, other]
  | success ticket =>
    simp only [advance]
    split
    · refine ⟨rfl, ?_⟩
      rw [guessesOf, List.filter_filter, guessesOf]
      congr 1
      apply List.filter_congr
      intro guess _
      by_cases h : guess.1 = ip
      · simp [h, other.symm]
      · simp [h]
    · simp [pendingOf, guessesOf, other]

/-- A request of another address takes its step. -/
lemma advance_moves_other (perm : pending.Perm (r :: s.pending)) (other : r.ip ≠ ip)
    (past : r.now ≤ s.clock) (event : EnrollmentStep) :
    Moves (viewOf { s with pending } ip) ((s.advance r event).viewOf ip) := by
  have hperm := pendingOf_perm_other perm other
  obtain ⟨hpending, hguesses⟩ := advance_other (s := s) other event
  have view : (s.advance r event).viewOf ip = { viewOf { s with pending } ip with
      pending := s.pendingOf ip
      failures := (s.advance r event).limiter.failuresOf ip } := by
    simp only [viewOf, hpending, hguesses, advance_clock]
    rfl
  rw [view]
  have stays := Moves.reorder (v := viewOf { s with pending } ip) hperm
  rcases advance_limiter (s := s) (r := r) event with same | failed | succeeded
  · rw [same]
    exact stays
  · rw [failed, EnrollmentLimiter.failure_failuresOf_other other]
    exact Moves.forget (v := viewOf { s with pending } ip) hperm past
  · rw [succeeded, EnrollmentLimiter.failuresOf, EnrollmentLimiter.success_byIP_other other]
    exact stays

/-! ## Runs -/

/-- What holds of the requests as long as every request of the address finds room. -/
structure Sound (ip : String) (s : EnrollmentRequests) : Prop where
  past : ∀ r ∈ s.pending, r.now ≤ s.clock
  bounded : (s.viewOf ip).Bounded
  locks : s.limiter.LocksAtFive ip

lemma advance_locks (h : s.limiter.LocksAtFive ip) (event : EnrollmentStep) :
    (s.advance r event).limiter.LocksAtFive ip := by
  rcases advance_limiter (s := s) (r := r) event with same | failed | succeeded
  · exact same ▸ h
  · exact failed ▸ h.failure
  · exact succeeded ▸ h.success

/-- A request in progress takes its step. -/
lemma Sound.proceed (h : s.Sound ip) (ticket : ℕ) (event : EnrollmentStep) :
    (s.proceed ticket event).Sound ip := by
  unfold EnrollmentRequests.proceed
  split
  · exact h
  next r found =>
    have perm : s.pending.Perm (r :: (s.without ticket).pending) :=
      (perm_eraseP_of_find? found).symm
    have past : r.now ≤ s.clock := h.past r (List.mem_of_find?_eq_some found)
    refine ⟨fun q mem => ?_, ?_, advance_locks (s := s.without ticket) h.locks event⟩
    · rw [advance_clock]
      rcases advance_pending mem with mem | ⟨same, -⟩
      · exact h.past q (List.mem_of_mem_eraseP mem)
      · exact same ▸ past
    · have move : Moves (s.viewOf ip) (((s.without ticket).advance r event).viewOf ip) := by
        by_cases same : r.ip = ip
        · exact advance_moves perm same event
        · exact advance_moves_other perm same past event
      exact move.bounded h.bounded

lemma Sound.allow (h : s.Sound ip) {other : String} {now : Time} (timely : s.clock ≤ now)
    (room : HasRoom ip s (.allow other now)) : (s.allow other now).Sound ip := by
  refine ⟨fun q mem => ?_, (allow_moves timely room).bounded h.bounded, ?_⟩
  · unfold EnrollmentRequests.allow at mem ⊢
    dsimp only at mem ⊢
    split at mem
    next hallowed =>
      rw [if_pos hallowed]
      rcases List.mem_cons.mp mem with rfl | mem
      exacts [le_rfl, (h.past q mem).trans timely]
    next hrefused =>
      rw [if_neg hrefused]
      exact (h.past q mem).trans timely
  · have limiter : (s.allow other now).limiter = s.limiter.cleanup now := by
      rw [← @EnrollmentLimiter.allow_limiter s.limiter other now]
      unfold EnrollmentRequests.allow
      dsimp only
      split <;> rfl
    rw [limiter]
    exact h.locks.cleanup

lemma Sound.step (h : s.Sound ip) {event : EnrollmentStep} (timely : s.Timely event)
    (room : HasRoom ip s event) : (s.step event).Sound ip := by
  cases event with
  | allow other now => exact h.allow timely room
  | verify ticket correct => exact h.proceed ticket _
  | failure ticket => exact h.proceed ticket _
  | success ticket => exact h.proceed ticket _
  | leave ticket => exact h.proceed ticket _

/-- A lock holds an address off: it has no request in progress, and is locked as long as it is
before the release. -/
structure HeldOff (ip : String) (release : Time) (guesses : List Time) (s : EnrollmentRequests) :
    Prop where
  past : ∀ r ∈ s.pending, r.now ≤ s.clock
  idle : ∀ r ∈ s.pending, r.ip ≠ ip
  locked : s.clock < release → s.limiter.LockedUntil ip release
  guesses : s.guessesOf ip = guesses

/-- A request asks before a time. -/
def Before (release : Time) : EnrollmentStep → Prop
  | .allow _ now => now < release
  | _ => True

variable {release : Time} {guesses : List Time}

lemma HeldOff.proceed (h : s.HeldOff ip release guesses) (ticket : ℕ) (event : EnrollmentStep) :
    (s.proceed ticket event).HeldOff ip release guesses := by
  unfold EnrollmentRequests.proceed
  split
  · exact h
  next r found =>
    have mem := List.mem_of_find?_eq_some found
    have other : r.ip ≠ ip := h.idle r mem
    have past : r.now ≤ s.clock := h.past r mem
    refine ⟨fun q mem => ?_, fun q mem => ?_, fun early => ?_, ?_⟩
    · rw [advance_clock]
      rcases advance_pending mem with mem | ⟨same, -⟩
      exacts [h.past q (List.mem_of_mem_eraseP mem), same ▸ past]
    · rcases advance_pending mem with mem | ⟨-, same⟩
      exacts [h.idle q (List.mem_of_mem_eraseP mem), same ▸ other]
    · rw [advance_clock] at early
      have locked : (s.without ticket).limiter.LockedUntil ip release := h.locked early
      rcases advance_limiter (s := s.without ticket) (r := r) event with same | failed | succeeded
      · exact same ▸ locked
      · exact failed ▸ locked.failure_other (past.trans_lt early) other
      · exact succeeded ▸ locked.success_other other
    · rw [(advance_other other event).2]
      exact h.guesses

lemma HeldOff.allow (h : s.HeldOff ip release guesses) {other : String} {now : Time}
    (timely : s.clock ≤ now) (early : now < release) :
    (s.allow other now).HeldOff ip release guesses := by
  have locked := h.locked (timely.trans_lt early)
  unfold EnrollmentRequests.allow
  dsimp only
  split
  next hallowed =>
    have hother : other ≠ ip := by
      rintro rfl
      simp [locked.refused early] at hallowed
    refine ⟨fun q mem => ?_, fun q mem => ?_, fun _ => ?_, h.guesses⟩
    · rcases List.mem_cons.mp mem with rfl | mem
      exacts [le_rfl, (h.past q mem).trans timely]
    · rcases List.mem_cons.mp mem with rfl | mem
      exacts [hother, h.idle q mem]
    · exact EnrollmentLimiter.allow_limiter ▸ locked.cleanup early
  next =>
    exact ⟨fun q mem => (h.past q mem).trans timely, h.idle,
      fun _ => EnrollmentLimiter.allow_limiter ▸ locked.cleanup early, h.guesses⟩

lemma HeldOff.step (h : s.HeldOff ip release guesses) {event : EnrollmentStep}
    (timely : s.Timely event) (early : Before release event) :
    (s.step event).HeldOff ip release guesses := by
  cases event with
  | allow other now => exact h.allow timely early
  | verify ticket correct => exact h.proceed ticket _
  | failure ticket => exact h.proceed ticket _
  | success ticket => exact h.proceed ticket _
  | leave ticket => exact h.proceed ticket _

/-- The requests of a run start when no request is in progress, and nobody has guessed. -/
def start (limiter : EnrollmentLimiter) (clock : Time) : EnrollmentRequests := { limiter, clock }

lemma Sound.start {limiter : EnrollmentLimiter} (clean : limiter.failuresOf ip = [])
    (clock : Time) : (start limiter clock).Sound ip where
  past r mem := absurd mem (List.not_mem_nil)
  bounded := by
    refine ⟨?_, fun r mem => absurd mem (List.not_mem_nil), fun start => ?_, fun start late => ?_⟩
    · simp [viewOf, EnrollmentRequests.start, pendingOf, clean]
    · simp [viewOf, EnrollmentRequests.start, pendingOf, guessesOf, AddressView.inPhase]
    · simp [viewOf, EnrollmentRequests.start, guessesOf]
  locks attempt hattempt five := by
    have hip : limiter.byIP ip = some attempt := hattempt
    have : attempt.failures = [] := by
      simpa [EnrollmentLimiter.failuresOf, hip] using clean
    simp [this] at five

/-- As long as every request of an address that is let through finds fewer than five failures and
requests in progress, at most five of its wrong PINs fall into any ten minutes without a success
between them.  When the limiter holds five failures of the address, it verifies no PIN of it for
half an hour from the last of them. -/
theorem guesses_bounded (limiter : EnrollmentLimiter) (ip : String) (clock : Time)
    (events : List EnrollmentStep) (clean : limiter.failuresOf ip = [])
    (timely : Along step Timely (start limiter clock) events)
    (room : Along step (HasRoom ip) (start limiter clock) events) :
    let s := run step (start limiter clock) events
    FivePerWindow (s.guessesOf ip) ∧
      ∀ last, 5 ≤ (s.limiter.failuresOf ip).length →
        (s.limiter.failuresOf ip).getLast? = some last →
        ∀ later, Along step Timely s later → (∀ event ∈ later, Before (last + 30 * minute) event) →
          (run step s later).guessesOf ip = s.guessesOf ip := by
  intro s
  have sound : s.Sound ip :=
    run_keeps_along (fun _ _ h c => h.step c.1 c.2) (Sound.start clean clock) (timely.and room)
  refine ⟨sound.bounded.fivePerWindow, fun last five hlast later htimely early => ?_⟩
  have idle : s.pendingOf ip = [] := by
    have := sound.bounded.budget
    exact List.eq_nil_of_length_eq_zero (by simp only [viewOf] at this; omega)
  have held : s.HeldOff ip (last + 30 * minute) (s.guessesOf ip) := by
    refine ⟨sound.past, fun r mem same => ?_, fun _ => sound.locks.locked five hlast, rfl⟩
    have : (r.phase, r.now) ∈ s.pendingOf ip :=
      List.mem_map.mpr ⟨r, List.mem_filter.mpr ⟨mem, by simp [same]⟩, rfl⟩
    simp [idle] at this
  exact (run_keeps_along (fun _ _ h c => h.step c.1 c.2) held
    (htimely.and (Along.of_forall early s))).guesses

/-- Six requests of one address that ask before the first of them is refused. -/
def overlapping : List EnrollmentStep :=
  (List.range 6).map (fun _ => .allow "192.0.2.7" 0) ++
    (List.range 6).flatMap fun ticket => [.verify ticket false, .failure ticket]

/-- An address can have more than five wrong PINs verified at once. -/
theorem notBounded_overlapping :
    ¬ ∀ (limiter : EnrollmentLimiter) (ip : String) (clock : Time) (events : List EnrollmentStep),
      limiter.failuresOf ip = [] → Along step Timely (start limiter clock) events →
        FivePerWindow ((run step (start limiter clock) events).guessesOf ip) := by
  intro h
  have five := h {} "192.0.2.7" 0 overlapping rfl (by decide) 0
  revert five
  decide

/-- Five requests of one address, each after the refusal of the one before. -/
def oneByOne : List EnrollmentStep :=
  (List.range 5).flatMap fun ticket =>
    [.allow "192.0.2.7" 0, .verify ticket false, .failure ticket]

theorem guesses_bounded_oneByOne :
    FivePerWindow ((run step (start {} 0) oneByOne).guessesOf "192.0.2.7") :=
  (guesses_bounded {} "192.0.2.7" 0 oneByOne rfl (by decide) (by decide)).1

end EnrollmentRequests

end Hostpin
