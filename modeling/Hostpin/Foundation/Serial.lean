import Hostpin.Foundation.Runs

/-!
# Requests that read a row and write it later

A request reads a row and plans what to do with it: it answers, or it changes the row and answers
then. Between its read and its change other requests take their steps (`Serial.step`).  Served one
at a time, a request plans and acts at once (`Serial.serve`).

When each request still finds the row that it has read, up to what its plan depends on, the requests
are served as if one at a time, in the order in which they answer (`serially_answered`).  What
serving one request keeps is then kept by every such run (`serially_keeps`).
-/

namespace Serial

open Runs

variable {ρ κ ω : Type}

/-- What a request does with the row that it has read. -/
inductive Plan (ρ ω : Type) where
  | answer (a : ω)
  | write (change : ρ → ρ) (a : ω)

/-- The row after a plan and the answer. -/
def Plan.act (row : ρ) : Plan ρ ω → ρ × ω
  | .answer a => (row, a)
  | .write change a => (change row, a)

/-- The row, the requests that are going to write with the rows that they have read, and the
requests that have answered, in order. -/
structure State (ρ κ ω : Type) where
  row : ρ
  pending : List (κ × ρ) := []
  answered : List (κ × ω) := []

/-- A request reads the row, or one that is going to write does so. -/
inductive Event (κ : Type) where
  | read (request : κ)
  | write (i : ℕ)

variable (plan : κ → ρ → Plan ρ ω)

/-- The state after an event. -/
def step (s : State ρ κ ω) : Event κ → State ρ κ ω
  | .read request =>
    match plan request s.row with
    | .answer a => { s with answered := s.answered ++ [(request, a)] }
    | .write _ _ => { s with pending := s.pending ++ [(request, s.row)] }
  | .write i =>
    match s.pending[i]? with
    | none => s
    | some (request, snapshot) =>
      let (row, a) := (plan request snapshot).act s.row
      { row, pending := s.pending.eraseIdx i, answered := s.answered ++ [(request, a)] }

/-- A request is served at once. -/
def serve (s : ρ × List (κ × ω)) (request : κ) : ρ × List (κ × ω) :=
  let (row, a) := (plan request s.1).act s.1
  (row, s.2 ++ [(request, a)])

/-- Requests are served one after another. -/
def serially (row : ρ) (requests : List κ) : ρ × List (κ × ω) :=
  requests.foldl (serve plan) (row, [])

variable (same : ρ → ρ → Prop)

/-- A request that writes finds the row as it has read it. -/
def Unchanged (s : State ρ κ ω) : Event κ → Prop
  | .read _ => True
  | .write i => ∀ request snapshot, s.pending[i]? = some (request, snapshot) → same snapshot s.row

instance Unchanged.decidable [∀ r r', Decidable (same r r')] (s : State ρ κ ω) :
    ∀ event, Decidable (Unchanged same s event)
  | .read _ => instDecidableTrue
  | .write i =>
    match h : s.pending[i]? with
    | none => isTrue (by simp [Unchanged, h])
    | some (request, snapshot) =>
      decidable_of_iff (same snapshot s.row) (by simp [Unchanged, h])

variable {plan same}

@[simp] lemma serially_append (row : ρ) (requests : List κ) (request : κ) :
    serially plan row (requests ++ [request]) =
      serve plan (serially plan row requests) request := by
  simp [serially]

/-- What serving one request keeps holds after serving many. -/
theorem serially_keeps {I : ρ × List (κ × ω) → Prop}
    (keeps : ∀ s request, I s → I (serve plan s request)) {row : ρ} (h : I (row, []))
    (requests : List κ) : I (serially plan row requests) := by
  induction requests using List.reverseRecOn with
  | nil => exact h
  | append_singleton requests request ih =>
    rw [serially_append]
    exact keeps _ request ih

/-- The requests that have answered were served one at a time, and those that are going to write
have not been served yet. -/
lemma step_serial {start : ρ} {s : State ρ κ ω} {event : Event κ}
    (respects : ∀ request r r', same r r' → (plan request r).act r' = (plan request r').act r')
    (serial : serially plan start (s.answered.map Prod.fst) = (s.row, s.answered))
    (unchanged : Unchanged same s event) :
    serially plan start ((step plan s event).answered.map Prod.fst) =
      ((step plan s event).row, (step plan s event).answered) := by
  cases event with
  | read request =>
    simp only [step]
    split
    next a answers => simp [serial, serve, answers, Plan.act]
    next => exact serial
  | write i =>
    simp only [step]
    split
    · exact serial
    next request snapshot found =>
      simp [serial, serve, respects request snapshot s.row (unchanged request snapshot found)]

/-- When every request that writes finds the row as it has read it, the requests are served one at a
time, in the order in which they answer. -/
theorem serially_answered
    (respects : ∀ request r r', same r r' → (plan request r).act r' = (plan request r').act r')
    (start : ρ) {events : List (Event κ)}
    (unchanged : Along (step plan) (Unchanged same) { row := start } events) :
    let s := run (step plan) { row := start } events
    serially plan start (s.answered.map Prod.fst) = (s.row, s.answered) :=
  run_keeps_along
    (I := fun s : State ρ κ ω =>
      serially plan start (s.answered.map Prod.fst) = (s.row, s.answered))
    (fun _ _ serial unchanged => step_serial respects serial unchanged) rfl unchanged

end Serial
