import Hostpin.Foundation.KeyedTable

/-!
# Sorting and selecting

Sorting by an integer rank is stable, so it can be exchanged with a selection, or with a change of
the elements that keeps their ranks (`filterMap_insertionSort`, `filter_insertionSort`).  Elements
that are left out before a limit on their number may change what comes after it;
`filter_take_iff` says when a selection does not notice.

For an ordered selection from a table with a primary key the exchange says what becomes of it after
a deletion.
-/

namespace Sorting

variable {α β : Type} {f : α → Option β} {rank : α → ℤ} {rank' : β → ℤ}

/-- An element before all others is inserted in front. -/
lemma orderedInsert_of_forall {rank : α → ℤ} {a : α} {l : List α} (h : ∀ c ∈ l, rank a ≤ rank c) :
    l.orderedInsert (fun r s => rank r ≤ rank s) a = a :: l := by
  cases l with
  | nil => rfl
  | cons c l => exact List.orderedInsert_cons_of_le _ l (h c List.mem_cons_self)

/-- Inserting an element in its place, and then choosing and changing elements that keep their
rank. -/
lemma filterMap_orderedInsert (hf : ∀ a b, f a = some b → rank' b = rank a) (a : α) {l : List α}
    (hl : l.Pairwise fun r s => rank r ≤ rank s) :
    (l.orderedInsert (fun r s => rank r ≤ rank s) a).filterMap f =
      (f a).elim (l.filterMap f) fun b =>
        (l.filterMap f).orderedInsert (fun r s => rank' r ≤ rank' s) b := by
  induction l with
  | nil => cases ha : f a <;> simp [ha]
  | cons c l ih =>
    have hcl := List.pairwise_cons.mp hl
    by_cases hac : rank a ≤ rank c
    · rw [List.orderedInsert_cons_of_le _ l hac]
      cases ha : f a with
      | none => rw [List.filterMap_cons_none ha, Option.elim_none]
      | some b =>
        rw [List.filterMap_cons_some ha, Option.elim_some, orderedInsert_of_forall]
        intro d hd
        obtain ⟨e, he, hed⟩ := List.mem_filterMap.mp hd
        rw [hf a b ha, hf e d hed]
        rcases List.mem_cons.mp he with rfl | he
        · exact hac
        · exact hac.trans (hcl.1 e he)
    · rw [List.orderedInsert_of_not_le _ l hac]
      cases hc : f c with
      | none => rw [List.filterMap_cons_none hc, List.filterMap_cons_none hc, ih hcl.2]
      | some d =>
        rw [List.filterMap_cons_some hc, List.filterMap_cons_some hc, ih hcl.2]
        cases ha : f a with
        | none => rfl
        | some b =>
          rw [Option.elim_some, Option.elim_some, List.orderedInsert_of_not_le]
          rwa [hf a b ha, hf c d hc]

/-- Sorting by rank, and then choosing and changing elements that keep their rank. -/
lemma filterMap_insertionSort (hf : ∀ a b, f a = some b → rank' b = rank a) (l : List α) :
    (l.insertionSort fun r s => rank r ≤ rank s).filterMap f =
      (l.filterMap f).insertionSort fun r s => rank' r ≤ rank' s := by
  induction l with
  | nil => rfl
  | cons a l ih =>
    rw [List.insertionSort_cons, filterMap_orderedInsert hf a (List.pairwise_insertionSort _ l), ih]
    cases ha : f a with
    | none => rw [List.filterMap_cons_none ha, Option.elim_none]
    | some b => rw [List.filterMap_cons_some ha, Option.elim_some, List.insertionSort_cons]

/-- Sorting by rank, and then keeping some elements. -/
lemma filter_insertionSort (p : α → Bool) (l : List α) :
    (l.insertionSort fun r s => rank r ≤ rank s).filter p =
      (l.filter p).insertionSort fun r s => rank r ≤ rank s := by
  have h : (l.insertionSort fun r s => rank r ≤ rank s).filterMap (Option.guard p) =
      (l.filterMap (Option.guard p)).insertionSort fun r s => rank r ≤ rank s := by
    refine filterMap_insertionSort (fun a b hab => ?_) l
    rw [(Option.guard_eq_some_iff.mp hab).1]
  rwa [List.filterMap_eq_filter] at h

/-- What is selected within a limit, when none of it is left out, comes first in what is selected
within the limit after some elements are left out. -/
lemma prefix_filter_take {p q : α → Bool} {l : List α} {n : ℕ}
    (h : ∀ a ∈ l.take n, q a = true → p a = true) :
    (l.take n).filter q <+: ((l.filter p).take n).filter q := by
  have hselected : (l.take n).filter q = ((l.take n).filter p).filter q := by
    rw [List.filter_filter]
    refine List.filter_congr fun a ha => ?_
    cases hq : q a with
    | false => rfl
    | true => rw [h a ha hq, Bool.and_self]
  have hread : (l.take n).filter p <+: l.filter p := by
    refine List.IsPrefix.filter p ?_
    exact List.take_prefix n l
  have hkept : (l.filter p).take n <+: l.filter p := List.take_prefix n _
  have hlength : ((l.take n).filter p).length ≤ ((l.filter p).take n).length := by
    rw [List.length_take]
    refine le_min ?_ hread.length_le
    exact (List.length_filter_le _ _).trans (List.length_take_le n l)
  rw [hselected]
  exact (List.prefix_of_prefix_length_le hread hkept hlength).filter q

/-- A limit before and after some elements are left out: a selection is the same exactly when it
selects none of the elements that are left out, and the limit cuts off none that it selects. -/
lemma filter_take_iff {p q : α → Bool} {l : List α} {n : ℕ} (hl : l.Nodup) :
    (l.take n).filter q = ((l.filter p).take n).filter q ↔
      (∀ a ∈ l.take n, q a = true → p a = true) ∧
        ∀ a ∈ (l.filter p).take n, q a = true → a ∈ l.take n := by
  constructor
  · intro heq
    refine ⟨fun a ha hq => ?_, fun a ha hq => ?_⟩
    · have hmem : a ∈ ((l.filter p).take n).filter q := heq ▸ List.mem_filter.mpr ⟨ha, hq⟩
      exact (List.mem_filter.mp (List.mem_of_mem_take (List.mem_filter.mp hmem).1)).2
    · have hmem : a ∈ (l.take n).filter q := heq ▸ List.mem_filter.mpr ⟨ha, hq⟩
      exact (List.mem_filter.mp hmem).1
  · rintro ⟨hkept, hread⟩
    refine (prefix_filter_take hkept).eq_of_length_le
      (List.Nodup.subperm ?_ fun a ha => ?_).length_le
    · exact ((hl.filter p).sublist (List.take_sublist n _)).filter q
    · obtain ⟨hmem, hq⟩ := List.mem_filter.mp ha
      exact List.mem_filter.mpr ⟨hread a hmem hq, hq⟩

end Sorting

namespace KeyedTable

variable {K V : Type} {key : V → K} {t : KeyedTable key} {p q : V → Bool} {rank : V → ℤ}

/-- An ordered selection after a deletion. -/
lemma selectOrdered_deleteWhere :
    (t.deleteWhere q).selectOrdered p rank = (t.selectOrdered p rank).filter fun r => !q r := by
  rw [selectOrdered, selectOrdered, Sorting.filter_insertionSort, deleteWhere, List.filter_filter,
    List.filter_filter]
  simp only [Bool.and_comm]

/-- An ordered selection of rows that a deletion keeps. -/
lemma selectOrdered_deleteWhere_eq (h : ∀ r ∈ t, p r = true → q r = false) :
    (t.deleteWhere q).selectOrdered p rank = t.selectOrdered p rank := by
  rw [selectOrdered_deleteWhere, List.filter_eq_self]
  intro r hr
  obtain ⟨hmem, hp⟩ := mem_selectOrdered.mp hr
  rw [h r hmem hp]
  rfl

end KeyedTable
