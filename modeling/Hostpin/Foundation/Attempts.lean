import Hostpin.Foundation.Procedure
import Hostpin.Foundation.Runs

/-!
# Procedures that give up at the first failure

The operations of a `Faulty` system work or fail, whatever the state is.  A procedure of the type
`Attempt` ends at the first operation that fails, perhaps after it has asked for another operation
to clean up.  So what a run does is said by the list of the operations that it asks for when nothing
fails.

* `Faulty.attempt` performs a list of operations until one fails.
* `Performs` says that a procedure does just that, from a state; its rules follow the structure of
  the procedure.
* `attempt_eq_true` and `attempt_state` say when all operations are performed, and what then comes
  out.
-/

open Runs

/-- Operations that may fail: the answer and the state after one that works, and the state after one
that fails. -/
structure Faulty (Op : Type) (Ans : Op → Type) (ε σ : Type) where
  fails : Op → Option ε
  answer : (op : Op) → σ → Ans op
  after : σ → Op → σ
  failed : σ → Op → σ

/-- A procedure that may end with an error. -/
abbrev Attempt (Op : Type) (Ans : Op → Type) (ε δ : Type) : Type → Type :=
  ExceptT δ (Procedure Op fun op => Except ε (Ans op))

variable {Op : Type} {Ans : Op → Type} {ε δ σ : Type} {α β : Type}

namespace Attempt

/-- Ask for an operation. -/
def ask (op : Op) : Attempt Op Ans ε ε (Ans op) := ExceptT.mk (Procedure.perform op)

/-- Ask for an operation, and for another one if it fails. -/
def askOr (cleanUp op : Op) : Attempt Op Ans ε ε (Ans op) :=
  ExceptT.mk do
    match ← Procedure.perform op with
    | .ok answer => pure (.ok answer)
    | .error err =>
      let _ ← Procedure.perform cleanUp
      pure (.error err)

/-- Change the error. -/
def mapError (f : ε → δ) (p : Attempt Op Ans ε ε α) : Attempt Op Ans ε δ α :=
  ExceptT.mk do
    match ← p.run with
    | .ok a => pure (.ok a)
    | .error err => pure (.error (f err))

/-- Ask for operations one after the other. -/
def askAll (f : Op → ε → δ) : List Op → Attempt Op Ans ε δ Unit
  | [] => pure ()
  | op :: ops => do
    let _ ← mapError (f op) (ask op)
    askAll f ops

end Attempt

namespace Faulty

open Attempt

variable (sys : Faulty Op Ans ε σ)

/-- The operations of the system. -/
def handle : Handler Op (fun op => Except ε (Ans op)) σ := fun op s =>
  match sys.fails op with
  | none => (.ok (sys.answer op s), sys.after s op)
  | some err => (.error err, sys.failed s op)

/-- A run of a procedure. -/
def run (p : Attempt Op Ans ε δ α) (s : σ) : Except δ α × σ := Procedure.run sys.handle p s

/-- Perform operations until one fails.  `abandon` is the state in which it is given up. -/
def attempt (abandon : σ → Op → σ) : List Op → σ → Bool × σ
  | [], s => (true, s)
  | op :: ops, s =>
    match sys.fails op with
    | none => attempt abandon ops (sys.after s op)
    | some _ => (false, abandon s op)

/-! ## Lists of operations -/

variable {sys} {abandon : σ → Op → σ} {s : σ}

lemma attempt_append (before after : List Op) :
    sys.attempt abandon (before ++ after) s =
      if (sys.attempt abandon before s).1 then
        sys.attempt abandon after (Runs.run sys.after s before)
      else sys.attempt abandon before s := by
  induction before generalizing s with
  | nil => rfl
  | cons op before ih =>
    rw [List.cons_append, attempt, attempt]
    cases sys.fails op with
    | none => exact ih
    | some err => rfl

/-- When no operation fails, all are performed. -/
lemma attempt_of_works {ops : List Op} (works : ∀ op ∈ ops, sys.fails op = none) :
    sys.attempt abandon ops s = (true, Runs.run sys.after s ops) := by
  induction ops generalizing s with
  | nil => rfl
  | cons op ops ih =>
    rw [attempt, works op List.mem_cons_self, ih fun op mem => works op (List.mem_cons_of_mem _ mem)]
    rfl

/-- All operations are performed exactly if none fails. -/
lemma attempt_eq_true {ops : List Op} :
    (sys.attempt abandon ops s).1 = true ↔ ∀ op ∈ ops, sys.fails op = none := by
  induction ops generalizing s with
  | nil => simp [attempt]
  | cons op ops ih =>
    rw [attempt, List.forall_mem_cons]
    cases failure : sys.fails op with
    | none => simp [ih]
    | some err => simp

/-- The state after all operations. -/
lemma attempt_state {ops : List Op} (works : (sys.attempt abandon ops s).1 = true) :
    (sys.attempt abandon ops s).2 = Runs.run sys.after s ops := by
  rw [attempt_of_works (attempt_eq_true.mp works)]

/-! ## Procedures -/

@[simp] lemma run_pure (a : α) : sys.run (pure a : Attempt Op Ans ε δ α) s = (.ok a, s) := rfl

@[simp] lemma run_throw (err : δ) :
    sys.run (throw err : Attempt Op Ans ε δ α) s = (.error err, s) := rfl

lemma run_bind (p : Attempt Op Ans ε δ α) (f : α → Attempt Op Ans ε δ β) :
    sys.run (p >>= f) s =
      match sys.run p s with
      | (.ok a, t) => sys.run (f a) t
      | (.error err, t) => (.error err, t) := by
  have split := Procedure.run_bind sys.handle (show Procedure Op _ (Except δ α) from p)
    (ExceptT.bindCont f) s
  unfold run
  refine split.trans ?_
  rcases Procedure.run sys.handle p s with ⟨_ | _, _⟩ <;> rfl

lemma run_mapError (f : ε → δ) (p : Attempt Op Ans ε ε α) :
    sys.run (mapError f p) s =
      match sys.run p s with
      | (.ok a, t) => (.ok a, t)
      | (.error err, t) => (.error (f err), t) := by
  unfold run mapError
  refine (Procedure.run_bind sys.handle (show Procedure Op _ (Except ε α) from p) _ s).trans ?_
  rcases Procedure.run sys.handle p s with ⟨_ | _, _⟩ <;> rfl

/-- A procedure performs a list of operations until one fails.  When all work, its result satisfies
`Q`. -/
def Performs (sys : Faulty Op Ans ε σ) (abandon : σ → Op → σ) (p : Attempt Op Ans ε δ α)
    (ops : List Op) (Q : Except δ α → Prop) (s : σ) : Prop :=
  if (sys.attempt abandon ops s).1 then
    ∃ result, sys.run p s = (result, Runs.run sys.after s ops) ∧ Q result
  else ∃ err, sys.run p s = (.error err, (sys.attempt abandon ops s).2)

namespace Performs

variable {p : Attempt Op Ans ε δ α} {f : α → Attempt Op Ans ε δ β} {ops ops' : List Op}
  {Q : Except δ α → Prop} {R : Except δ β → Prop}

lemma pure {a : α} (h : Q (.ok a)) :
    Performs sys abandon (Pure.pure a : Attempt Op Ans ε δ α) [] Q s :=
  ⟨.ok a, rfl, h⟩

lemma throw {err : δ} (h : Q (.error err)) :
    Performs sys abandon (MonadExcept.throw err : Attempt Op Ans ε δ α) [] Q s :=
  ⟨.error err, rfl, h⟩

/-- One procedure after another one, which does not end with an error of its own. -/
lemma bind (first : Performs sys abandon p ops Q s)
    (second : ∀ result, Q result → ∃ a, result = .ok a ∧
      Performs sys abandon (f a) ops' R (Runs.run sys.after s ops)) :
    Performs sys abandon (p >>= f) (ops ++ ops') R s := by
  unfold Performs at first ⊢
  rw [attempt_append, run_bind]
  by_cases works : (sys.attempt abandon ops s).1 = true
  · rw [if_pos works] at first ⊢
    obtain ⟨result, run_p, hQ⟩ := first
    obtain ⟨a, rfl, performs⟩ := second result hQ
    rw [run_p, Runs.run_append]
    exact performs
  · rw [if_neg works] at first ⊢
    obtain ⟨err, run_p⟩ := first
    rw [if_neg works, run_p]
    exact ⟨err, rfl⟩

/-- One procedure after another one, whose result is known. -/
lemma bind_ok {a : α} (first : Performs sys abandon p ops (· = .ok a) s)
    (second : Performs sys abandon (f a) ops' R (Runs.run sys.after s ops)) :
    Performs sys abandon (p >>= f) (ops ++ ops') R s :=
  bind first fun _ known => ⟨a, known, second⟩

/-- One procedure after another one, which performs one operation. -/
lemma cons {op : Op} (first : Performs sys abandon p [op] Q s)
    (second : ∀ result, Q result → ∃ a, result = .ok a ∧
      Performs sys abandon (f a) ops R (sys.after s op)) :
    Performs sys abandon (p >>= f) (op :: ops) R s :=
  bind first second

/-- One procedure after another one, which performs one operation and whose result is known. -/
lemma cons_ok {op : Op} {a : α} (first : Performs sys abandon p [op] (· = .ok a) s)
    (second : Performs sys abandon (f a) ops R (sys.after s op)) :
    Performs sys abandon (p >>= f) (op :: ops) R s :=
  bind_ok first second

/-- Nothing comes after a procedure that ends with an error of its own. -/
lemma bind_error (first : Performs sys abandon p ops (fun result => ∃ err, result = .error err) s) :
    Performs sys abandon (p >>= f) ops (fun result => ∃ err, result = .error err) s := by
  unfold Performs at first ⊢
  rw [run_bind]
  split
  · next works =>
    rw [if_pos works] at first
    obtain ⟨_, run_p, err, rfl⟩ := first
    rw [run_p]
    exact ⟨.error err, rfl, err, rfl⟩
  · next fails =>
    rw [if_neg fails] at first
    obtain ⟨err, run_p⟩ := first
    rw [run_p]
    exact ⟨err, rfl⟩

/-- A weaker condition on the result. -/
lemma mono {Q' : Except δ α → Prop} (h : Performs sys abandon p ops Q s)
    (implies : ∀ result, Q result → Q' result) : Performs sys abandon p ops Q' s := by
  unfold Performs at h ⊢
  split
  · next works =>
    rw [if_pos works] at h
    obtain ⟨result, run_p, hQ⟩ := h
    exact ⟨result, run_p, implies result hQ⟩
  · next fails =>
    rwa [if_neg fails] at h

/-- One operation that needs no cleaning up. -/
lemma ask {op : Op} (abandoned : abandon s op = sys.failed s op) :
    Performs sys abandon (Attempt.ask op) [op] (· = .ok (sys.answer op s)) s := by
  unfold Performs
  rw [attempt]
  cases failure : sys.fails op with
  | none =>
    refine ⟨.ok (sys.answer op s), ?_, rfl⟩
    simp only [run, Attempt.ask, ExceptT.mk, Procedure.run_perform, handle, failure, Runs.run_cons,
      Runs.run_nil]
  | some err =>
    refine ⟨err, ?_⟩
    simp only [run, Attempt.ask, ExceptT.mk, Procedure.run_perform, handle, failure, abandoned]

/-- One operation, and one to clean up. -/
lemma askOr {cleanUp op : Op}
    (abandoned : (sys.handle cleanUp (sys.failed s op)).2 = abandon s op) :
    Performs sys abandon (Attempt.askOr cleanUp op) [op] (· = .ok (sys.answer op s)) s := by
  unfold Performs
  rw [attempt]
  have run_op : (sys.handle op s) = match sys.fails op with
    | none => (.ok (sys.answer op s), sys.after s op)
    | some err => (.error err, sys.failed s op) := rfl
  cases failure : sys.fails op with
  | none =>
    rw [failure] at run_op
    refine ⟨.ok (sys.answer op s), ?_, rfl⟩
    simp only [run, Attempt.askOr, ExceptT.mk, Procedure.run_bind, Procedure.run_perform, run_op,
      Procedure.run_pure, Runs.run_cons, Runs.run_nil]
  | some err =>
    rw [failure] at run_op
    refine ⟨err, ?_⟩
    simp only [run, Attempt.askOr, ExceptT.mk, Procedure.run_bind, Procedure.run_perform, run_op,
      Procedure.run_pure, abandoned]

/-- Another error. -/
lemma mapError {p : Attempt Op Ans ε ε α} {Q : Except ε α → Prop} {g : ε → δ}
    (h : Performs sys abandon p ops Q s) :
    Performs sys abandon (Attempt.mapError g p) ops
      (fun result => ∃ inner, Q inner ∧ result = inner.mapError g) s := by
  unfold Performs at h ⊢
  rw [run_mapError]
  split
  · next works =>
    rw [if_pos works] at h
    obtain ⟨result, run_p, hQ⟩ := h
    rw [run_p]
    cases result with
    | ok a => exact ⟨.ok a, rfl, .ok a, hQ, rfl⟩
    | error err => exact ⟨.error (g err), rfl, .error err, hQ, rfl⟩
  · next fails =>
    rw [if_neg fails] at h
    obtain ⟨err, run_p⟩ := h
    rw [run_p]
    exact ⟨g err, rfl⟩

/-- A list of operations that need no cleaning up. -/
lemma askAll {g : Op → ε → δ} (abandoned : ∀ op ∈ ops, ∀ s, abandon s op = sys.failed s op) :
    Performs sys abandon (Attempt.askAll g ops) ops (· = .ok ()) s := by
  induction ops generalizing s with
  | nil => exact pure rfl
  | cons op ops ih =>
    refine cons (mapError (ask (abandoned op List.mem_cons_self s))) ?_
    rintro result ⟨inner, rfl, rfl⟩
    exact ⟨_, rfl, ih fun op mem => abandoned op (List.mem_cons_of_mem _ mem)⟩

end Performs

end Faulty
