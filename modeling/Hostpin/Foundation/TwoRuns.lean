import Hostpin.Foundation.Procedure

/-!
# Two runs of a procedure

What a run of a procedure does not depend on is said by comparing two runs of it, from states that
are in a relation `I`.

* `Related handle I R p q` says that the runs of `p` and `q` from states in `I` end with values in
  `R`, and in states in `I` again.  `Alike handle I p` is the case of one procedure and equal
  values.
* `Related.pure`, `Related.perform`, `Related.bind` and their forms for `Alike` are the rules.
* `EndsIn x y` relates two answers that are the same error, or the values `x` and `y`, and
  `SameOK Q` two answers that are the same error, or the same value in `Q`.
* `each` and `eachOK` perform a procedure for every element of a list, to the end or up to the first
  error.  They are alike when the procedures for the elements are.
-/

namespace Procedure

variable {Op : Type} {Ans : Op → Type} {α β γ δ ε σ : Type}

/-! ## Loops -/

/-- Perform a procedure for each element of a list. -/
def each (f : α → Procedure Op Ans β) : List α → Procedure Op Ans (List β)
  | [] => pure []
  | a :: as => do
    let b ← f a
    let bs ← each f as
    return b :: bs

/-- Perform a procedure for each element of a list, up to the first error. -/
def eachOK (f : α → Procedure Op Ans (Except ε β)) : List α → Procedure Op Ans (Except ε (List β))
  | [] => pure (.ok [])
  | a :: as => do
    match ← f a with
    | .error e => return .error e
    | .ok b =>
      match ← eachOK f as with
      | .error e => return .error e
      | .ok bs => return .ok (b :: bs)

/-! ## Related runs -/

section

variable (handle : Handler Op Ans σ) (I : σ → σ → Prop)

/-- From states in `I` the procedures end with values in `R`, and in states in `I`. -/
def Related (R : α → β → Prop) (p : Procedure Op Ans α) (q : Procedure Op Ans β) : Prop :=
  ∀ s t, I s t → R (p.run handle s).1 (q.run handle t).1 ∧ I (p.run handle s).2 (q.run handle t).2

/-- From states in `I` a procedure ends with one value, and in states in `I`. -/
def Alike (p : Procedure Op Ans α) : Prop := Related handle I Eq p p

end

/-- Two answers are the same error, or the one is `x` and the other `y`. -/
def EndsIn (x : α) (y : β) (a : Except ε α) (b : Except ε β) : Prop :=
  (∃ e, a = .error e ∧ b = .error e) ∨ (a = .ok x ∧ b = .ok y)

/-- Two answers are the same, and a value satisfies a condition. -/
def SameOK (Q : α → Prop) (a b : Except ε α) : Prop := a = b ∧ ∀ x, a = .ok x → Q x

variable {handle : Handler Op Ans σ} {I : σ → σ → Prop}

namespace Related

variable {R : α → β → Prop} {S : γ → δ → Prop}

/-- Procedures that end at once. -/
lemma pure {a : α} {b : β} (h : R a b) :
    Related handle I R (Pure.pure a : Procedure Op Ans α) (Pure.pure b) :=
  fun _ _ hI => ⟨h, hI⟩

/-- One operation. -/
lemma perform {op : Op} {R : Ans op → Ans op → Prop}
    (h : ∀ s t, I s t → R (handle op s).1 (handle op t).1 ∧ I (handle op s).2 (handle op t).2) :
    Related handle I R (Procedure.perform op) (Procedure.perform op) := h

/-- One procedure after the other. -/
lemma bind {p : Procedure Op Ans α} {q : Procedure Op Ans β} {f : α → Procedure Op Ans γ}
    {g : β → Procedure Op Ans δ} (hp : Related handle I R p q)
    (hf : ∀ a b, R a b → Related handle I S (f a) (g b)) :
    Related handle I S (p >>= f) (q >>= g) := by
  intro s t hI
  obtain ⟨hR, hI'⟩ := hp s t hI
  rw [run_bind, run_bind]
  exact hf _ _ hR _ _ hI'

/-- A procedure that may fail, and what comes after it. -/
lemma bindEnds {p : Procedure Op Ans (Except ε α)} {q : Procedure Op Ans (Except ε β)} {x : α}
    {y : β} {f : Except ε α → Procedure Op Ans γ} {g : Except ε β → Procedure Op Ans δ}
    (hp : Related handle I (EndsIn x y) p q)
    (herror : ∀ e, Related handle I S (f (.error e)) (g (.error e)))
    (hok : Related handle I S (f (.ok x)) (g (.ok y))) :
    Related handle I S (p >>= f) (q >>= g) := by
  refine bind hp ?_
  rintro _ _ (⟨e, rfl, rfl⟩ | ⟨rfl, rfl⟩)
  · exact herror e
  · exact hok

/-- A procedure that ends with the same error or value, and what comes after it. -/
lemma bindSame {p q : Procedure Op Ans (Except ε α)} {Q : α → Prop}
    {f g : Except ε α → Procedure Op Ans γ} {S : γ → γ → Prop}
    (hp : Related handle I (SameOK Q) p q)
    (herror : ∀ e, Related handle I S (f (.error e)) (g (.error e)))
    (hok : ∀ x, Q x → Related handle I S (f (.ok x)) (g (.ok x))) :
    Related handle I S (p >>= f) (q >>= g) := by
  refine bind hp ?_
  rintro a _ ⟨rfl, hQ⟩
  cases a with
  | error e => exact herror e
  | ok x => exact hok x (hQ x rfl)

/-- A loop over a list, with a condition that the values satisfy. -/
lemma each {f : α → Procedure Op Ans β} {Q : β → Prop} {l : List α}
    (h : ∀ a ∈ l, Related handle I (fun x y => x = y ∧ Q x) (f a) (f a)) :
    Related handle I (fun xs ys => xs = ys ∧ ∀ x ∈ xs, Q x) (Procedure.each f l)
      (Procedure.each f l) := by
  induction l with
  | nil => exact pure ⟨rfl, nofun⟩
  | cons a as ih =>
    refine bind (h a List.mem_cons_self) ?_
    rintro b _ ⟨rfl, hb⟩
    refine bind (ih fun c hc => h c (List.mem_cons_of_mem a hc)) ?_
    rintro bs _ ⟨rfl, hbs⟩
    exact pure ⟨rfl, List.forall_mem_cons.mpr ⟨hb, hbs⟩⟩

/-- A loop over a list up to the first error, with a condition that the values satisfy. -/
lemma eachOK {f : α → Procedure Op Ans (Except ε β)} {Q : β → Prop} {l : List α}
    (h : ∀ a ∈ l, Related handle I (SameOK Q) (f a) (f a)) :
    Related handle I (SameOK fun bs => ∀ b ∈ bs, Q b) (Procedure.eachOK f l)
      (Procedure.eachOK f l) := by
  induction l with
  | nil =>
    refine pure ⟨rfl, fun bs hbs => ?_⟩
    cases hbs
    exact nofun
  | cons a as ih =>
    refine bindSame (h a List.mem_cons_self) (fun e => pure ⟨rfl, nofun⟩) fun b hb => ?_
    have hrest := ih fun c hc => h c (List.mem_cons_of_mem a hc)
    refine bindSame hrest (fun e => pure ⟨rfl, nofun⟩) fun bs hbs => pure ⟨rfl, fun all hall => ?_⟩
    cases hall
    exact List.forall_mem_cons.mpr ⟨hb, hbs⟩

/-- A weaker relation of the values. -/
lemma mono {R' : α → β → Prop} {p : Procedure Op Ans α} {q : Procedure Op Ans β}
    (hp : Related handle I R p q) (h : ∀ a b, R a b → R' a b) : Related handle I R' p q :=
  fun s t hI => ⟨h _ _ (hp s t hI).1, (hp s t hI).2⟩

end Related

namespace Alike

/-- A procedure that ends at once. -/
lemma pure (a : α) : Alike handle I (Pure.pure a : Procedure Op Ans α) := Related.pure rfl

/-- One procedure after the other. -/
lemma bind {p : Procedure Op Ans α} {f : α → Procedure Op Ans β} (hp : Alike handle I p)
    (hf : ∀ a, Alike handle I (f a)) : Alike handle I (p >>= f) :=
  Related.bind hp fun a _ hab => hab ▸ hf a

/-- A choice. -/
lemma ite {b : Prop} [Decidable b] {p q : Procedure Op Ans α} (hp : b → Alike handle I p)
    (hq : ¬b → Alike handle I q) : Alike handle I (if b then p else q) := by
  split_ifs with h
  · exact hp h
  · exact hq h

/-- A loop over a list. -/
lemma each {f : α → Procedure Op Ans β} {l : List α} (h : ∀ a ∈ l, Alike handle I (f a)) :
    Alike handle I (Procedure.each f l) := by
  have hloop : ∀ a ∈ l, Related handle I (fun x y => x = y ∧ True) (f a) (f a) :=
    fun a ha => (h a ha).mono fun _ _ heq => ⟨heq, trivial⟩
  exact (Related.each hloop).mono fun _ _ hab => hab.1

/-- A loop over a list up to the first error. -/
lemma eachOK {f : α → Procedure Op Ans (Except ε β)} {l : List α}
    (h : ∀ a ∈ l, Alike handle I (f a)) : Alike handle I (Procedure.eachOK f l) := by
  have hloop : ∀ a ∈ l, Related handle I (SameOK fun _ => True) (f a) (f a) :=
    fun a ha => (h a ha).mono fun _ _ heq => ⟨heq, fun _ _ => trivial⟩
  exact (Related.eachOK hloop).mono fun _ _ hab => hab.1

/-- A procedure that is alike, with what is known of the value of the first run. -/
lemma known {p : Procedure Op Ans α} {Q : α → Prop} (hp : Alike handle I p)
    (hQ : ∀ s t, I s t → Q (p.run handle s).1) :
    Related handle I (fun a b => a = b ∧ Q a) p p :=
  fun s t hI => ⟨⟨(hp s t hI).1, hQ s t hI⟩, (hp s t hI).2⟩

end Alike

end Procedure
