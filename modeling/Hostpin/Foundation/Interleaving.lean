import Hostpin.Foundation.Procedure
import Hostpin.Foundation.Runs

/-!
# Procedures that share a state

Several procedures run at the same time over one state.  Each operation of a procedure is one step,
the steps of the procedures come in any order, and in between the state may change from outside.
What an operation does depends also on its fate: whether it fails, which time it reads, which number
it is given.

* `Pool` is the shared state with the procedures that run over it, `Pool.step` what an event does.
* `Orderly handle I E Q p s` says that `p`, which has last seen the state `s`, can go on from every
  state that `s` has evolved into: its operations keep the invariant `I` and evolve the state by
  `E`, and when it ends, `Q` holds of its value then and later.  So all that a procedure may rely on
  is what `E` keeps.  `Orderly.pure`, `Orderly.bind` and `Orderly.perform` are the rules.
* `OrderlyIf` is the same for operations that meet only the fates that are permitted, which may
  depend on how far the procedure has come.  `OrderlyIf.later` says that nothing is lost by waiting.
* `Pool.run_orderly` is the rule for all procedures together, and `Pool.run_allowed` its simple case,
  in which what keeps the invariant can be read off the operation.
-/

namespace Procedure

variable {Op : Type} {Ans : Op → Type} {α β ρ σ φ η : Type}

/-! ## Orderly procedures -/

/-- A procedure that has last seen the state `s` can go on from every state it has evolved into. -/
def Orderly (handle : φ → Handler Op Ans σ) (I : σ → Prop) (E : σ → σ → Prop) (Q : α → σ → Prop) :
    Procedure Op Ans α → σ → Prop
  | .done a, s => ∀ t, I t → E s t → Q a t
  | .step op next, s => ∀ t fate, I t → E s t →
    (I (handle fate op t).2 ∧ E t (handle fate op t).2) ∧
      Orderly handle I E Q (next (handle fate op t).1) (handle fate op t).2

namespace Orderly

variable {handle : φ → Handler Op Ans σ} {I : σ → Prop} {E : σ → σ → Prop}

/-- A procedure that ends at once. -/
lemma pure {Q : α → σ → Prop} {a : α} {s : σ} (h : ∀ t, I t → E s t → Q a t) :
    Orderly handle I E Q (Pure.pure a : Procedure Op Ans α) s := h

/-- One operation, and what comes after it. -/
lemma perform {Q : α → σ → Prop} {op : Op} {f : Ans op → Procedure Op Ans α} {s : σ}
    (h : ∀ t fate, I t → E s t → (I (handle fate op t).2 ∧ E t (handle fate op t).2) ∧
      Orderly handle I E Q (f (handle fate op t).1) (handle fate op t).2) :
    Orderly handle I E Q (Procedure.perform op >>= f) s := h

/-- One procedure after the other. -/
lemma bind [Std.Refl E] {Q : β → σ → Prop} {p : Procedure Op Ans α}
    {f : α → Procedure Op Ans β} {s : σ} (hs : I s)
    (h : Orderly handle I E (fun a t => Orderly handle I E Q (f a) t) p s) :
    Orderly handle I E Q (p >>= f) s := by
  induction p generalizing s with
  | done a => exact h s hs (refl_of E s)
  | step op next ih =>
    intro t fate ht evolves
    obtain ⟨hkeeps, hnext⟩ := h t fate ht evolves
    exact ⟨hkeeps, ih _ hkeeps.1 hnext⟩

/-- A weaker condition at the end. -/
lemma mono {Q R : α → σ → Prop} {p : Procedure Op Ans α} {s : σ}
    (h : Orderly handle I E Q p s) (hQ : ∀ a t, I t → Q a t → R a t) :
    Orderly handle I E R p s := by
  induction p generalizing s with
  | done a => exact fun t ht evolves => hQ a t ht (h t ht evolves)
  | step op next ih =>
    intro t fate ht evolves
    obtain ⟨hkeeps, hnext⟩ := h t fate ht evolves
    exact ⟨hkeeps, ih _ hnext⟩

/-- The state at the end has evolved from the one at the start. -/
lemma evolved [IsTrans σ E] {Q : α → σ → Prop} {p : Procedure Op Ans α} {s t : σ}
    (h : Orderly handle I E Q p t) (evolves : E s t) :
    Orderly handle I E (fun a u => Q a u ∧ E s u) p t := by
  induction p generalizing t with
  | done a => exact fun u hu hE => ⟨h u hu hE, trans_of E evolves hE⟩
  | step op next ih =>
    intro u fate hu hE
    obtain ⟨hkeeps, hnext⟩ := h u fate hu hE
    exact ⟨hkeeps, ih _ hnext (trans_of E (trans_of E evolves hE) hkeeps.2)⟩

end Orderly

/-- A procedure can go on from every state that `s` has evolved into, as long as its operations meet
only fates that are permitted. -/
def OrderlyIf (permits : Procedure Op Ans α → φ → Prop) (handle : φ → Handler Op Ans σ)
    (I : σ → Prop) (E : σ → σ → Prop) (Q : α → σ → Prop) : Procedure Op Ans α → σ → Prop
  | .done a, s => ∀ t, I t → E s t → Q a t
  | .step op next, s => ∀ t fate, permits (.step op next) fate → I t → E s t →
    (I (handle fate op t).2 ∧ E t (handle fate op t).2) ∧
      OrderlyIf permits handle I E Q (next (handle fate op t).1) (handle fate op t).2

section OrderlyIf

variable {permits : Procedure Op Ans α → φ → Prop} {handle : φ → Handler Op Ans σ} {I : σ → Prop}
  {E : σ → σ → Prop} {Q : α → σ → Prop} {p : Procedure Op Ans α} {s t : σ}

/-- What is orderly is so under permitted fates. -/
lemma Orderly.orderlyIf (h : Orderly handle I E Q p s) : OrderlyIf permits handle I E Q p s := by
  induction p generalizing s with
  | done a => exact h
  | step op next ih =>
    intro t fate _ ht evolves
    obtain ⟨hkeeps, hnext⟩ := h t fate ht evolves
    exact ⟨hkeeps, ih _ hnext⟩

/-- A weaker condition at the end. -/
lemma OrderlyIf.mono {R : α → σ → Prop} (h : OrderlyIf permits handle I E Q p s)
    (hQ : ∀ a t, I t → Q a t → R a t) : OrderlyIf permits handle I E R p s := by
  induction p generalizing s with
  | done a => exact fun t ht evolves => hQ a t ht (h t ht evolves)
  | step op next ih =>
    intro t fate hpermits ht evolves
    obtain ⟨hkeeps, hnext⟩ := h t fate hpermits ht evolves
    exact ⟨hkeeps, ih _ hnext⟩

/-- What is orderly from a state is orderly from the states it evolves into. -/
lemma OrderlyIf.later [IsTrans σ E] (h : OrderlyIf permits handle I E Q p s) (evolves : E s t) :
    OrderlyIf permits handle I E Q p t := by
  cases p with
  | done a => exact fun u hu ht => h u hu (trans_of E evolves ht)
  | step op next => exact fun u fate hpermits hu ht => h u fate hpermits hu (trans_of E evolves ht)

end OrderlyIf

/-- A procedure whose operations all keep the invariant by themselves. -/
lemma Asks.orderly {handle : φ → Handler Op Ans σ} {I : σ → Prop} {allowed : Op → Prop}
    {p : Procedure Op Ans α} (hp : Asks allowed p)
    (hI : ∀ fate op s, allowed op → I s → I (handle fate op s).2) (s : σ) :
    Orderly handle I (fun _ _ => True) (fun _ _ => True) p s := by
  induction p generalizing s with
  | done a => exact fun _ _ _ => trivial
  | step op next ih => exact fun t fate ht _ => ⟨⟨hI fate op t hp.1 ht, trivial⟩, ih _ (hp.2 _) _⟩

/-! ## Pools -/

/-- A state, and the procedures that run over it. -/
structure Pool (Op : Type) (Ans : Op → Type) (α σ : Type) where
  shared : σ
  running : ℕ → Option (Procedure Op Ans α) := fun _ => none

/-- What happens in a pool. -/
inductive PoolEvent (ρ φ η : Type) where
  /-- A procedure starts for a request. -/
  | start (number : ℕ) (request : ρ)
  /-- A procedure performs its next operation. -/
  | proceed (number : ℕ) (fate : φ)
  /-- The state changes from outside. -/
  | outside (change : η)

namespace Pool

variable (handle : φ → Handler Op Ans σ) (program : ρ → Procedure Op Ans α) (change : η → σ → σ)

/-- The pool after the next operation of a procedure that has not ended. -/
def advance (pool : Pool Op Ans α σ) (number : ℕ) (fate : φ) : Pool Op Ans α σ :=
  match pool.running number with
  | some (.step op next) =>
    { shared := (handle fate op pool.shared).2
      running := Function.update pool.running number
        (some (next (handle fate op pool.shared).1)) }
  | _ => pool

/-- The pool after an event. -/
def step (pool : Pool Op Ans α σ) : PoolEvent ρ φ η → Pool Op Ans α σ
  | .start number request =>
    { pool with running := Function.update pool.running number (some (program request)) }
  | .proceed number fate => pool.advance handle number fate
  | .outside event => { pool with shared := change event pool.shared }

variable (permits : Procedure Op Ans α → φ → Prop) (I : σ → Prop) (E : σ → σ → Prop)
  (Q : ℕ → α → σ → Prop)

/-- The invariant holds, and the procedures that run are orderly, each with its own condition at the
end. -/
def OrderlyPool (pool : Pool Op Ans α σ) : Prop :=
  I pool.shared ∧
    ∀ number p, pool.running number = some p →
      OrderlyIf permits handle I E (Q number) p pool.shared

/-- An event starts only procedures that are orderly, an operation meets a fate that is permitted,
and what changes from outside keeps the invariant. -/
def Fits (pool : Pool Op Ans α σ) : PoolEvent ρ φ η → Prop
  | .start number request =>
    I pool.shared → OrderlyIf permits handle I E (Q number) (program request) pool.shared
  | .proceed number fate => ∀ p, pool.running number = some p → permits p fate
  | .outside event =>
    I pool.shared → I (change event pool.shared) ∧ E pool.shared (change event pool.shared)

variable {handle program change permits I E Q} [Std.Refl E] [IsTrans σ E]

/-- The next operation of a procedure keeps a pool orderly and evolves its state. -/
lemma advance_orderly {pool : Pool Op Ans α σ} (h : OrderlyPool handle permits I E Q pool)
    {number : ℕ} {fate : φ} (hpermits : ∀ p, pool.running number = some p → permits p fate) :
    OrderlyPool handle permits I E Q (pool.advance handle number fate) ∧
      E pool.shared (pool.advance handle number fate).shared := by
  unfold advance
  split
  next op next hrunning =>
    obtain ⟨⟨hI, hE⟩, hnext⟩ :=
      h.2 number _ hrunning _ fate (hpermits _ hrunning) h.1 (refl_of E _)
    refine ⟨⟨hI, fun other p hp => ?_⟩, hE⟩
    simp only [Function.update_apply] at hp
    split at hp
    next hsame =>
      cases hp
      exact hsame ▸ hnext
    · exact (h.2 other p hp).later hE
  · exact ⟨h, refl_of E _⟩

/-- An event keeps a pool orderly and evolves its state. -/
lemma step_orderly {pool : Pool Op Ans α σ} (h : OrderlyPool handle permits I E Q pool)
    {event : PoolEvent ρ φ η} (fits : Fits handle program change permits I E Q pool event) :
    OrderlyPool handle permits I E Q (step handle program change pool event) ∧
      E pool.shared (step handle program change pool event).shared := by
  cases event with
  | start number request =>
    refine ⟨⟨h.1, fun other p hp => ?_⟩, refl_of E _⟩
    simp only [step, Function.update_apply] at hp
    split at hp
    next hsame =>
      cases hp
      exact hsame ▸ fits h.1
    · exact h.2 other p hp
  | proceed number fate => exact advance_orderly h fits
  | outside event =>
    obtain ⟨hI, hE⟩ := fits h.1
    exact ⟨⟨hI, fun number p hp => (h.2 number p hp).later hE⟩, hE⟩

/-- A pool in which only orderly procedures are started stays orderly, and its state evolves. -/
theorem run_orderly {pool : Pool Op Ans α σ} (h : OrderlyPool handle permits I E Q pool)
    {events : List (PoolEvent ρ φ η)}
    (fits : Runs.Along (step handle program change)
      (Fits handle program change permits I E Q) pool events) :
    OrderlyPool handle permits I E Q (Runs.run (step handle program change) pool events) ∧
      E pool.shared (Runs.run (step handle program change) pool events).shared := by
  induction events generalizing pool with
  | nil => exact ⟨h, refl_of E _⟩
  | cons event events ih =>
    obtain ⟨hnext, hevolves⟩ := step_orderly h fits.1
    obtain ⟨hlast, hevolves'⟩ := ih hnext fits.2
    exact ⟨hlast, trans_of E hevolves hevolves'⟩

section Admitted

variable {Q : ρ → σ → α → σ → Prop} {admits : ρ → Prop}
  (orderly : ∀ request s, admits request → I s →
    Orderly handle I E (Q request s) (program request) s)
  (outside : ∀ event s, I s → I (change event s) ∧ E s (change event s))

include orderly outside

omit [Std.Refl E] [IsTrans σ E] in
/-- A request that is admitted fits everywhere, when nothing is said at its end. -/
lemma fits_of_admits (pool : Pool Op Ans α σ) {R : ℕ → α → σ → Prop} {event : PoolEvent ρ φ η}
    (hadmits : ∀ n r, event = .start n r → admits r)
    (hR : ∀ n r, event = .start n r → ∀ a t, R n a t) :
    Fits handle program change (fun _ _ => True) I E R pool event := by
  cases event with
  | start n r =>
    exact fun hI => ((orderly r _ (hadmits n r rfl) hI).mono fun a t _ _ => hR n r rfl a t).orderlyIf
  | proceed n fate => exact fun _ _ => trivial
  | outside event => exact outside event _

/-- When every procedure that is started is orderly from every state that keeps the invariant, the
pool stays so, and its state evolves. -/
theorem run_keeps {pool : Pool Op Ans α σ}
    (hpool : OrderlyPool handle (fun _ _ => True) I E (fun _ _ _ => True) pool)
    {events : List (PoolEvent ρ φ η)} (hadmits : ∀ n r, .start n r ∈ events → admits r) :
    OrderlyPool handle (fun _ _ => True) I E (fun _ _ _ => True)
        (Runs.run (step handle program change) pool events) ∧
      E pool.shared (Runs.run (step handle program change) pool events).shared := by
  refine run_orderly hpool (Runs.along_iff_split.mpr fun l event r hsplit => ?_)
  refine fits_of_admits orderly outside _ (fun n request hevent => hadmits n request ?_)
    fun _ _ _ _ _ => trivial
  rw [hsplit, ← hevent]
  exact List.mem_append_right _ List.mem_cons_self

/-- When besides every procedure ends as its request says about the states at its start and at its
end, then this holds of a request that was answered. -/
theorem run_answered {s : σ} (hs : I s) {before after : List (PoolEvent ρ φ η)} {number : ℕ}
    {request : ρ} (hadmits : ∀ n r, .start n r ∈ before ++ .start number request :: after → admits r)
    (hafter : ∀ r, .start number r ∉ after) {a : α}
    (hdone : (Runs.run (step handle program change) { shared := s }
      (before ++ .start number request :: after)).running number = some (.done a)) :
    Q request (Runs.run (step handle program change) { shared := s } before).shared a
      (Runs.run (step handle program change) { shared := s }
        (before ++ .start number request :: after)).shared := by
  let always : Procedure Op Ans α → φ → Prop := fun _ _ => True
  have hfirst : OrderlyPool handle always I E (fun _ _ _ => True) { shared := s } :=
    ⟨hs, fun _ _ h => by cases h⟩
  have hbefore := (run_keeps orderly outside hfirst
    fun n r hstart => hadmits n r (List.mem_append_left _ hstart)).1
  rw [Runs.run_append] at hdone ⊢
  generalize Runs.run (step handle program change) { shared := s } before = pool
    at hbefore hdone ⊢
  let R : ℕ → α → σ → Prop := fun n a t => n = number → Q request pool.shared a t
  have hstart : OrderlyPool handle always I E R (step handle program change pool
      (.start number request)) := by
    refine ⟨hbefore.1, fun n p hp => ?_⟩
    simp only [step, Function.update_apply] at hp
    split at hp
    · cases hp
      have hrequest := orderly request pool.shared
        (hadmits number request (List.mem_append_right _ List.mem_cons_self)) hbefore.1
      exact (hrequest.mono fun a t _ hQ _ => hQ).orderlyIf
    next hother =>
      exact (hbefore.2 n p hp).mono fun a t _ _ hsame => absurd hsame hother
  have hlater : Runs.Along (step handle program change)
      (Fits handle program change always I E R)
      (step handle program change pool (.start number request)) after := by
    refine Runs.along_iff_split.mpr fun l event r hsplit => ?_
    have hevent : event ∈ after := hsplit ▸ List.mem_append_right _ List.mem_cons_self
    refine fits_of_admits orderly outside _ (fun n r' hstarted => hadmits n r' ?_) ?_
    · exact hstarted ▸ List.mem_append_right _ (List.mem_cons_of_mem _ hevent)
    · rintro n r' rfl a t rfl
      exact absurd hevent (hafter r')
  have hend := (run_orderly hstart hlater).1
  exact hend.2 number _ hdone _ hend.1 (refl_of E _) rfl

end Admitted

omit [Std.Refl E] [IsTrans σ E] in
/-- What the allowed operations and the changes from outside keep is kept by a pool of procedures
that ask only for allowed operations. -/
theorem run_allowed {allowed : Op → Prop}
    (keeps : ∀ fate op s, allowed op → I s → I (handle fate op s).2)
    (asks : ∀ request, Asks allowed (program request))
    (outside : ∀ event s, I s → I (change event s)) {s : σ} (hs : I s)
    (events : List (PoolEvent ρ φ η)) :
    I (Runs.run (step handle program change) { shared := s } events).shared := by
  have : Std.Refl fun _ _ : σ => True := ⟨fun _ => trivial⟩
  have : IsTrans σ fun _ _ => True := ⟨fun _ _ _ _ _ => trivial⟩
  let start : Pool Op Ans α σ := { shared := s }
  have hstart : OrderlyPool handle (fun _ _ => True) I (fun _ _ => True) (fun _ _ _ => True) start :=
    ⟨hs, nofun⟩
  refine (run_orderly hstart ?_).1.1
  refine Runs.along_iff_split.mpr fun before event after _ => ?_
  cases event with
  | start number request => exact fun _ => ((asks request).orderly keeps _).orderlyIf
  | proceed number fate => exact fun _ _ => trivial
  | outside event => exact fun hI => ⟨outside event _ hI, trivial⟩

end Pool

end Procedure
