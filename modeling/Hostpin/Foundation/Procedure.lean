import Mathlib

/-!
# Procedures that can be cut off

A procedure asks for one operation after the other and goes on with the answers.  What an operation
does to the state and what it answers is said by a `Handler`, so one procedure can be run with
operations that fail as well as with operations that work.

* `run` is the whole run, and `cutOff` the state in which a run stops when the machine does after a
  number of operations.
* `Safely handle I Q p s` says that a run of `p` from `s` keeps `I` in every state on the way and
  ends in `Q`.  `Safely.bind`, `Safely.perform` and `Safely.mono` are its rules, `Safely.run` and
  `Safely.cutOff` what it gives.
* `Asks allowed p` says that `p` asks only for operations that are allowed; what these operations
  keep is kept by the run (`Asks.safely`).
-/

/-- A procedure that ends with a value, or asks for an operation and goes on with the answer. -/
inductive Procedure (Op : Type) (Ans : Op → Type) (α : Type) : Type where
  | done (a : α)
  | step (op : Op) (next : Ans op → Procedure Op Ans α)

/-- What operations answer, and the states they lead to. -/
abbrev Handler (Op : Type) (Ans : Op → Type) (σ : Type) := (op : Op) → σ → Ans op × σ

namespace Procedure

variable {Op : Type} {Ans : Op → Type} {α β σ : Type}

/-- One procedure after the other. -/
def bind : Procedure Op Ans α → (α → Procedure Op Ans β) → Procedure Op Ans β
  | .done a, f => f a
  | .step op next, f => .step op fun answer => (next answer).bind f

instance : Monad (Procedure Op Ans) where
  pure := .done
  bind := bind

/-- Ask for one operation. -/
def perform (op : Op) : Procedure Op Ans (Ans op) := .step op .done

/-- The value and the state at the end of a run. -/
def run (handle : Handler Op Ans σ) : Procedure Op Ans α → σ → α × σ
  | .done a, s => (a, s)
  | .step op next, s => run handle (next (handle op s).1) (handle op s).2

/-- The state after a number of operations, or at the end of the run if there are fewer. -/
def cutOff (handle : Handler Op Ans σ) : ℕ → Procedure Op Ans α → σ → σ
  | 0, _, s => s
  | _ + 1, .done _, s => s
  | n + 1, .step op next, s => cutOff handle n (next (handle op s).1) (handle op s).2

/-- Every state of a run satisfies `I`, and the end of the run satisfies `Q`. -/
def Safely (handle : Handler Op Ans σ) (I : σ → Prop) (Q : α → σ → Prop) :
    Procedure Op Ans α → σ → Prop
  | .done a, s => I s ∧ Q a s
  | .step op next, s => I s ∧ Safely handle I Q (next (handle op s).1) (handle op s).2

/-- A procedure asks only for operations that are allowed. -/
def Asks (allowed : Op → Prop) : Procedure Op Ans α → Prop
  | .done _ => True
  | .step op next => allowed op ∧ ∀ answer, Asks allowed (next answer)

/-! ## Runs -/

section Runs

variable (handle : Handler Op Ans σ)

@[simp] lemma run_pure (a : α) (s : σ) :
    run handle (pure a : Procedure Op Ans α) s = (a, s) := rfl

/-- Running one procedure after the other. -/
@[simp] lemma run_bind (p : Procedure Op Ans α) (f : α → Procedure Op Ans β) (s : σ) :
    run handle (p >>= f) s = run handle (f (run handle p s).1) (run handle p s).2 := by
  induction p generalizing s with
  | done a => rfl
  | step op next ih => exact ih _ _

@[simp] lemma run_perform (op : Op) (s : σ) :
    run handle (perform op : Procedure Op Ans (Ans op)) s = handle op s := rfl

/-- What every operation keeps is kept by a run. -/
lemma run_keeps {I : σ → Prop} (h : ∀ op s, I s → I (handle op s).2) (p : Procedure Op Ans α)
    {s : σ} (hs : I s) : I (p.run handle s).2 := by
  induction p generalizing s with
  | done a => exact hs
  | step op next ih => exact ih _ (h op s hs)

end Runs

/-! ## Safe runs -/

namespace Safely

variable {handle : Handler Op Ans σ} {I J : σ → Prop}

/-- The state at the start of a safe run. -/
lemma start {Q : α → σ → Prop} {p : Procedure Op Ans α} {s : σ} (h : Safely handle I Q p s) :
    I s := by
  cases p with
  | done a => exact h.1
  | step op next => exact h.1

/-- What holds at the end of a safe run. -/
lemma run {Q : α → σ → Prop} {p : Procedure Op Ans α} {s : σ} (h : Safely handle I Q p s) :
    Q (p.run handle s).1 (p.run handle s).2 := by
  induction p generalizing s with
  | done a => exact h.2
  | step op next ih => exact ih _ h.2

/-- What holds wherever a safe run is cut off. -/
lemma cutOff {Q : α → σ → Prop} {p : Procedure Op Ans α} {s : σ} (h : Safely handle I Q p s)
    (n : ℕ) : I (p.cutOff handle n s) := by
  induction n generalizing p s with
  | zero => exact h.start
  | succ n ih =>
    cases p with
    | done a => exact h.1
    | step op next => exact ih h.2

/-- A procedure that ends at once. -/
lemma pure {Q : α → σ → Prop} {a : α} {s : σ} (hI : I s) (hQ : Q a s) :
    Safely handle I Q (Pure.pure a : Procedure Op Ans α) s :=
  ⟨hI, hQ⟩

/-- One procedure after the other. -/
lemma bind {Q : β → σ → Prop} {p : Procedure Op Ans α} {f : α → Procedure Op Ans β} {s : σ}
    (h : Safely handle I (fun a t => Safely handle I Q (f a) t) p s) :
    Safely handle I Q (p >>= f) s := by
  induction p generalizing s with
  | done a => exact h.2
  | step op next ih => exact ⟨h.1, ih _ h.2⟩

/-- One operation, and what comes after it. -/
lemma perform {Q : β → σ → Prop} {op : Op} {f : Ans op → Procedure Op Ans β} {s : σ} (hI : I s)
    (h : Safely handle I Q (f (handle op s).1) (handle op s).2) :
    Safely handle I Q (Procedure.perform op >>= f) s :=
  ⟨hI, h⟩

/-- A weaker condition on the way and at the end. -/
lemma mono {Q R : α → σ → Prop} {p : Procedure Op Ans α} {s : σ} (h : Safely handle I Q p s)
    (hI : ∀ t, I t → J t) (hQ : ∀ a t, Q a t → R a t) : Safely handle J R p s := by
  induction p generalizing s with
  | done a => exact ⟨hI _ h.1, hQ _ _ h.2⟩
  | step op next ih => exact ⟨hI _ h.1, ih _ h.2⟩

end Safely

/-! ## Operations that are asked for -/

section Asks

variable {allowed : Op → Prop}

/-- A procedure that ends at once. -/
@[simp] lemma asks_pure (a : α) : Asks allowed (pure a : Procedure Op Ans α) := trivial

/-- One operation, and what comes after it. -/
lemma Asks.perform {op : Op} {f : Ans op → Procedure Op Ans α} (hop : allowed op)
    (hf : ∀ answer, Asks allowed (f answer)) : Asks allowed (Procedure.perform op >>= f) :=
  ⟨hop, hf⟩

/-- One procedure after the other. -/
lemma Asks.bind {p : Procedure Op Ans α} {f : α → Procedure Op Ans β} (hp : Asks allowed p)
    (hf : ∀ a, Asks allowed (f a)) : Asks allowed (p >>= f) := by
  induction p with
  | done a => exact hf a
  | step op next ih => exact ⟨hp.1, fun answer => ih answer (hp.2 answer)⟩

/-- What the allowed operations keep is kept by a run. -/
lemma Asks.safely {handle : Handler Op Ans σ} {I : σ → Prop} {p : Procedure Op Ans α}
    (hp : Asks allowed p) (hI : ∀ op s, allowed op → I s → I (handle op s).2) {s : σ} (hs : I s) :
    Safely handle I (fun _ t => I t) p s := by
  induction p generalizing s with
  | done a => exact ⟨hs, hs⟩
  | step op next ih => exact ⟨hs, ih _ (hp.2 _) (hI op s hp.1 hs)⟩

end Asks

end Procedure
