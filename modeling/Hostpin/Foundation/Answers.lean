import Hostpin.Foundation.Runs

/-!
# What a run answers

A machine may answer an event from the state in which it happens.  `answers` lists the answers of a
run, which is the history that an observer of the machine sees.  An answer in the history is given in
the state after the events before it (`answers_split`), so what an invariant says of the state and
the history so far holds at every answer (`answers_invariant`).  `answers_filter` compares the
answers of a run with the ones of the run without some of its events.
-/

namespace Runs

variable {σ ε α : Type} (step : σ → ε → σ) (answer : σ → ε → α)

/-- The answers to the events of a run. -/
def answers : σ → List ε → List α
  | _, [] => []
  | s, event :: events => answer s event :: answers (step s event) events

@[simp] lemma answers_nil (s : σ) : answers step answer s [] = [] := rfl

@[simp] lemma answers_cons (s : σ) (event : ε) (events : List ε) :
    answers step answer s (event :: events) =
      answer s event :: answers step answer (step s event) events := rfl

variable {step answer}

/-- An answer in the history was given to an event, after the events that gave the answers before
it. -/
theorem answers_split {s : σ} {events : List ε} {before after : List α} {a : α}
    (h : answers step answer s events = before ++ a :: after) :
    ∃ earlier event later, events = earlier ++ event :: later ∧
      before = answers step answer s earlier ∧ a = answer (run step s earlier) event ∧
      after = answers step answer (step (run step s earlier) event) later := by
  induction before generalizing s events with
  | nil =>
    cases events with
    | nil => simp at h
    | cons event events =>
      rw [answers_cons, List.nil_append, List.cons.injEq] at h
      exact ⟨[], event, events, rfl, rfl, h.1.symm, h.2.symm⟩
  | cons b before ih =>
    cases events with
    | nil => simp at h
    | cons event events =>
      rw [answers_cons, List.cons_append, List.cons.injEq] at h
      obtain ⟨earlier, e, later, rfl, hbefore, ha, hafter⟩ := ih h.2
      refine ⟨event :: earlier, e, later, rfl, ?_, ha, hafter⟩
      rw [answers_cons, ← hbefore, h.1]

/-- What every step keeps, of the state and of the history so far, holds after every run. -/
theorem answers_invariant {I : List α → σ → Prop} {C : σ → ε → Prop}
    (keeps : ∀ history s event, I history s → C s event →
      I (history ++ [answer s event]) (step s event))
    {history : List α} {s : σ} (h : I history s) {events : List ε} (along : Along step C s events) :
    I (history ++ answers step answer s events) (run step s events) := by
  induction events generalizing history s with
  | nil => simpa using h
  | cons event events ih =>
    have hnext := ih (keeps history s event h along.1) along.2
    rwa [List.append_assoc, List.singleton_append] at hnext

/-- When the events that are left out answer nothing, and the other ones answer alike in related
states, a run answers as the run without them. -/
theorem answers_filter {answer : σ → ε → List α} {R : σ → σ → Prop} {C : σ → ε → Prop}
    {keep : ε → Bool}
    (kept : ∀ s t event, R s t → keep event = true →
      R (step s event) (step t event) ∧ answer s event = answer t event)
    (left : ∀ s t event, R s t → keep event = false → C s event →
      R (step s event) t ∧ answer s event = []) {s t : σ} (h : R s t) {events : List ε}
    (along : Along step (fun s event => keep event = false → C s event) s events) :
    (answers step answer s events).flatten =
      (answers step answer t (events.filter keep)).flatten := by
  induction events generalizing s t with
  | nil => rfl
  | cons event events ih =>
    rw [answers_cons, List.flatten_cons]
    cases hkeep : keep event with
    | true =>
      obtain ⟨hrelated, hanswer⟩ := kept s t event h hkeep
      rw [List.filter_cons_of_pos hkeep, answers_cons, List.flatten_cons, hanswer,
        ih hrelated along.2]
    | false =>
      obtain ⟨hrelated, hanswer⟩ := left s t event h hkeep (along.1 hkeep)
      rw [List.filter_cons_of_neg (by simp [hkeep]), hanswer, List.nil_append,
        ih hrelated along.2]

end Runs
