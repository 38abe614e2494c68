import Mathlib

/-!
# Tables that transactions share

Several transactions write to one table at the isolation level READ COMMITTED.  The rows that a
transaction has inserted are pending until it ends: a commit makes them rows of the table, a
rollback removes them, and no other transaction reads them before.  A constraint of the schema, such
as a primary key, is a relation `conflict` between rows that cannot both be in the table.  It is
enforced against pending rows as well: an insertion that conflicts with a committed row, or with a
row of its own transaction, fails, and one that conflicts with a pending row of another transaction
waits.

* `SharedTable conflict` carries the constraint as a field, over committed and pending rows
  together.
* `insert`, `commit` and `rollback` are described by the committed rows and by the rows that each
  transaction has pending (`writesOf`).
* `not_clash` is the rule for uniqueness: a pending row has no conflict with a committed one.
-/

/-- Two rows conflict, in either order. -/
def Clash {V : Type} (conflict : V → V → Prop) (v w : V) : Prop := conflict v w ∨ conflict w v

instance {V : Type} (conflict : V → V → Prop) [DecidableRel conflict] (v w : V) :
    Decidable (Clash conflict v w) :=
  inferInstanceAs (Decidable (_ ∨ _))

/-- A table with the rows that are pending, each with the number of its transaction. -/
structure SharedTable {V : Type} (conflict : V → V → Prop) where
  committed : List V
  pending : List (ℕ × V)
  compatible : (committed ++ pending.map Prod.snd).Pairwise fun v w => ¬Clash conflict v w

/-- How an insertion turns out. -/
inductive Insertion {V : Type} (conflict : V → V → Prop) where
  | fails
  | waits
  | inserted (table : SharedTable conflict)

namespace SharedTable

variable {V : Type} {conflict : V → V → Prop}

/-- The table without rows. -/
def empty : SharedTable conflict := ⟨[], [], List.Pairwise.nil⟩

/-- The rows that a transaction has pending. -/
def writesOf (t : SharedTable conflict) (holder : ℕ) : List V :=
  (t.pending.filter fun entry => entry.1 = holder).map Prod.snd

@[simp] lemma committed_empty : (empty : SharedTable conflict).committed = [] := rfl

@[simp] lemma writesOf_empty (holder : ℕ) : (empty : SharedTable conflict).writesOf holder = [] :=
  rfl

/-- A committed row and a pending one do not conflict. -/
lemma not_clash (t : SharedTable conflict) {v w : V} {holder : ℕ} (hv : v ∈ t.committed)
    (hw : w ∈ t.writesOf holder) : ¬Clash conflict v w := by
  obtain ⟨entry, mem, rfl⟩ := List.mem_map.mp hw
  exact (List.pairwise_append.mp t.compatible).2.2 v hv entry.2
    (List.mem_map_of_mem (List.mem_filter.mp mem).1)

/-! ## Insertion -/

/-- A transaction inserts a row. -/
def insert [DecidableRel conflict] (t : SharedTable conflict) (holder : ℕ) (v : V) :
    Insertion conflict :=
  if h : ∀ w ∈ t.committed ++ t.pending.map Prod.snd, ¬Clash conflict w v then
    .inserted
      { committed := t.committed
        pending := t.pending ++ [(holder, v)]
        compatible := by
          rw [List.map_append, ← List.append_assoc, List.pairwise_append]
          refine ⟨t.compatible, List.pairwise_singleton _ _, fun w hw u hu => ?_⟩
          rw [List.mem_singleton.mp hu]
          exact h w hw }
  else if ∃ w ∈ t.committed ++ t.writesOf holder, Clash conflict w v then .fails
  else .waits

/-- What an insertion does that neither fails nor waits. -/
lemma insert_eq_inserted [DecidableRel conflict] {t u : SharedTable conflict} {holder : ℕ} {v : V}
    (h : t.insert holder v = .inserted u) : u.committed = t.committed ∧
      ∀ other, u.writesOf other = t.writesOf other ++ if other = holder then [v] else [] := by
  unfold insert at h
  split_ifs at h
  cases h
  refine ⟨rfl, fun other => ?_⟩
  simp only [writesOf, List.filter_append, List.map_append]
  congr 1
  by_cases same : other = holder
  · simp [same]
  · simp [same, Ne.symm same]

/-! ## The end of a transaction -/

/-- A transaction commits. -/
def commit (t : SharedTable conflict) (holder : ℕ) : SharedTable conflict where
  committed := t.committed ++ t.writesOf holder
  pending := t.pending.filter fun entry => entry.1 ≠ holder
  compatible := by
    have symm : ∀ v w : V, ¬Clash conflict v w → ¬Clash conflict w v :=
      fun v w h h' => h h'.symm
    refine t.compatible.perm (List.Perm.symm ?_) fun {v w} => symm v w
    rw [List.append_assoc]
    refine List.Perm.append_left _ ?_
    rw [writesOf, ← List.map_append]
    refine List.Perm.map _ ?_
    simpa using List.filter_append_perm (fun entry : ℕ × V => decide (entry.1 = holder)) t.pending

/-- A transaction is rolled back. -/
def rollback (t : SharedTable conflict) (holder : ℕ) : SharedTable conflict where
  committed := t.committed
  pending := t.pending.filter fun entry => entry.1 ≠ holder
  compatible := t.compatible.sublist
    (List.Sublist.append_left (List.filter_sublist.map Prod.snd) t.committed)

lemma committed_commit (t : SharedTable conflict) (holder : ℕ) :
    (t.commit holder).committed = t.committed ++ t.writesOf holder := rfl

@[simp] lemma committed_rollback (t : SharedTable conflict) (holder : ℕ) :
    (t.rollback holder).committed = t.committed := rfl

@[simp] lemma writesOf_commit (t : SharedTable conflict) (holder other : ℕ) :
    (t.commit holder).writesOf other = if other = holder then [] else t.writesOf other := by
  simp only [writesOf, commit, List.filter_filter]
  by_cases same : other = holder
  · simp [same]
  · rw [if_neg same]
    congr 1
    refine List.filter_congr fun entry _ => ?_
    by_cases h : entry.1 = other <;> simp [h, same]

@[simp] lemma writesOf_rollback (t : SharedTable conflict) (holder other : ℕ) :
    (t.rollback holder).writesOf other = if other = holder then [] else t.writesOf other :=
  t.writesOf_commit holder other

end SharedTable
