import Mathlib

/-!
# Cutting lists

A list is cut at the first separator in it (`cut_eq_some`), or at a prefix.
-/

namespace Cut

variable {α : Type} [DecidableEq α]

/-- What stands before and after the first separator. -/
def cut (separator : α) (l : List α) : Option (List α × List α) :=
  match l.dropWhile (· ≠ separator) with
  | [] => none
  | _ :: after => some (l.takeWhile (· ≠ separator), after)

/-- A list is cut at the first separator. -/
lemma cut_eq_some {separator : α} {l before after : List α} :
    cut separator l = some (before, after) ↔
      l = before ++ separator :: after ∧ separator ∉ before := by
  unfold cut
  constructor
  · intro h
    split at h
    · cases h
    next c rest hrest =>
      cases h
      have hc : c = separator := by
        have hhead := List.head?_dropWhile_not (· ≠ separator) l
        rw [hrest] at hhead
        simpa using hhead
      refine ⟨?_, fun hmem => ?_⟩
      · have hsplit := List.takeWhile_append_dropWhile (p := (· ≠ separator)) (l := l)
        rw [hrest, hc] at hsplit
        exact hsplit.symm
      · simpa using List.mem_takeWhile_imp hmem
  · rintro ⟨rfl, hnotMem⟩
    have hall : ∀ c ∈ before, decide (c ≠ separator) = true := by
      intro c hc
      exact decide_eq_true fun h => hnotMem (h ▸ hc)
    rw [List.takeWhile_append_of_pos hall, List.dropWhile_append_of_pos hall]
    simp

end Cut
