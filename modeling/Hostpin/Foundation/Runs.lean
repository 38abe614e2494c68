import Mathlib

/-!
# Runs of a machine

A machine is a function `step` that gives the state after an event.  What several parties do at the
same time is a list of events, one for each step of a party, in any order; so what holds after every
list of events holds for every interleaving.

* `run step s events` is the state after a list of events.
* `Along step C s events` says that each event meets the condition `C` in the state in which it
  happens.
* `run_keeps` and `run_keeps_along` are the two invariant rules, and `always_iff_along` is the rule
  for a condition that is exact.
* `run_filter` compares a run with the run without some of its events.
* `perm_eraseP_of_find?` is for parties that are kept in a list: the one that takes a step can be
  put in front.
-/

namespace Runs

variable {σ ε : Type} (step : σ → ε → σ)

/-- The state after a list of events. -/
def run (s : σ) (events : List ε) : σ := events.foldl step s

@[simp] lemma run_nil (s : σ) : run step s [] = s := rfl

@[simp] lemma run_cons (s : σ) (event : ε) (events : List ε) :
    run step s (event :: events) = run step (step s event) events := rfl

lemma run_append (s : σ) (before after : List ε) :
    run step s (before ++ after) = run step (run step s before) after :=
  List.foldl_append

/-- Every event meets a condition in the state in which it happens. -/
def Along (C : σ → ε → Prop) : σ → List ε → Prop
  | _, [] => True
  | s, event :: events => C s event ∧ Along C (step s event) events

instance Along.decidable (C : σ → ε → Prop) [∀ s event, Decidable (C s event)] :
    ∀ s events, Decidable (Along step C s events)
  | _, [] => instDecidableTrue
  | s, event :: events =>
    @instDecidableAnd _ _ _ (Along.decidable C (step s event) events)

variable {step} {C D : σ → ε → Prop} {I : σ → Prop}

lemma Along.and {s : σ} {events : List ε} (hC : Along step C s events)
    (hD : Along step D s events) : Along step (fun s event => C s event ∧ D s event) s events := by
  induction events generalizing s with
  | nil => trivial
  | cons event events ih => exact ⟨⟨hC.1, hD.1⟩, ih hC.2 hD.2⟩

/-- A condition on the events alone. -/
lemma Along.of_forall {P : ε → Prop} {events : List ε} (h : ∀ event ∈ events, P event) (s : σ) :
    Along step (fun _ event => P event) s events := by
  induction events generalizing s with
  | nil => trivial
  | cons event events ih =>
    exact ⟨h event List.mem_cons_self, ih (fun e mem => h e (List.mem_cons_of_mem _ mem)) _⟩

/-- A condition that follows from an invariant and another condition. -/
lemma Along.of_invariant (keeps : ∀ s event, I s → C s event → I (step s event))
    (implies : ∀ s event, I s → C s event → D s event) {s : σ} (h : I s) {events : List ε}
    (along : Along step C s events) : Along step D s events := by
  induction events generalizing s with
  | nil => trivial
  | cons event events ih =>
    exact ⟨implies s event h along.1, ih (keeps s event h along.1) along.2⟩

lemma along_append {s : σ} {before after : List ε} :
    Along step C s (before ++ after) ↔
      Along step C s before ∧ Along step C (run step s before) after := by
  induction before generalizing s with
  | nil => simp [Along]
  | cons event before ih => simp only [List.cons_append, Along, ih, run_cons, and_assoc]

/-- A condition holds along a run when it holds wherever the run is split. -/
lemma along_iff_split {s : σ} {events : List ε} : Along step C s events ↔
    ∀ before event after, events = before ++ event :: after → C (run step s before) event := by
  constructor
  · rintro along before event after rfl
    exact (along_append.mp along).2.1
  · intro h
    induction events generalizing s with
    | nil => trivial
    | cons event events ih =>
      refine ⟨h [] event events rfl, ih fun before e after hsplit => ?_⟩
      exact h (event :: before) e after (by rw [hsplit, List.cons_append])

/-- What every step keeps is kept by a run. -/
theorem run_keeps (keeps : ∀ s event, I s → I (step s event)) {s : σ} (h : I s)
    (events : List ε) : I (run step s events) := by
  induction events generalizing s with
  | nil => exact h
  | cons event events ih => exact ih (keeps s event h)

/-- What every step keeps that meets the condition is kept by a run along which it is met. -/
theorem run_keeps_along (keeps : ∀ s event, I s → C s event → I (step s event)) {s : σ} (h : I s)
    {events : List ε} (along : Along step C s events) : I (run step s events) := by
  induction events generalizing s with
  | nil => exact h
  | cons event events ih => exact ih (keeps s event h along.1) along.2

/-- When two states stay related by the events that are kept, and by the other ones when only the
first state takes them, a run is related to the run without the other ones. -/
theorem run_filter {R : σ → σ → Prop} {keep : ε → Bool}
    (kept : ∀ s t event, R s t → keep event = true → R (step s event) (step t event))
    (left : ∀ s t event, R s t → keep event = false → C s event → R (step s event) t) {s t : σ}
    (h : R s t) {events : List ε}
    (along : Along step (fun s event => keep event = false → C s event) s events) :
    R (run step s events) (run step t (events.filter keep)) := by
  induction events generalizing s t with
  | nil => exact h
  | cons event events ih =>
    cases hkeep : keep event with
    | true =>
      rw [List.filter_cons_of_pos hkeep]
      exact ih (kept s t event h hkeep) along.2
    | false =>
      rw [List.filter_cons_of_neg (by simp [hkeep])]
      exact ih (left s t event h hkeep (along.1 hkeep)) along.2

variable (step) in
/-- A property of the states holds in every state of a run. -/
def Always (I : σ → Prop) (s : σ) (events : List ε) : Prop :=
  ∀ before, before <+: events → I (run step s before)

/-- When a step keeps a property exactly if it meets a condition, the property holds all along the
runs whose steps meet the condition. -/
theorem always_iff_along (iff : ∀ s event, I s → (I (step s event) ↔ C s event)) {s : σ} (h : I s)
    {events : List ε} : Always step I s events ↔ Along step C s events := by
  constructor
  · intro always
    induction events generalizing s with
    | nil => trivial
    | cons event events ih =>
      have next : I (step s event) := always [event] (List.prefix_append [event] events)
      refine ⟨(iff s event h).mp next, ih next fun before isPrefix => ?_⟩
      exact always (event :: before) (List.cons_prefix_cons.mpr ⟨rfl, isPrefix⟩)
  · rintro along before ⟨after, rfl⟩
    exact run_keeps_along (fun s event h c => (iff s event h).mpr c) h (along_append.mp along).1

/-- A property that does not come back once it is lost holds all along a run if it holds at its
end. -/
theorem always_of_run (lost : ∀ s event, I (step s event) → I s) {s : σ} {events : List ε}
    (last : I (run step s events)) : Always step I s events := by
  rintro before ⟨after, rfl⟩
  rw [run_append] at last
  induction after generalizing before with
  | nil => exact last
  | cons event after ih =>
    refine lost _ event ?_
    have earlier := ih (before ++ [event]) (by rwa [run_append])
    rwa [run_append] at earlier

/-- A list with the first element that meets a condition in front. -/
lemma perm_eraseP_of_find? {α : Type} {c : α → Bool} {l : List α} {a : α} (h : l.find? c = some a) :
    (a :: l.eraseP c).Perm l := by
  induction l with
  | nil => simp at h
  | cons b l ih =>
    by_cases hb : c b
    · simp_all
    · simp only [List.find?_cons, hb, List.eraseP_cons] at h ⊢
      exact (List.Perm.swap b a _).trans ((ih h).cons b)

end Runs
