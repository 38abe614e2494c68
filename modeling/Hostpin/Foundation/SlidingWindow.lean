import Mathlib

/-!
# Sliding windows

Events happen at instants that do not decrease.  A monitor looks at the events of a window that ends
at the present, so it may forget the ones before the window: dropping them from the front of the
list leaves the ones in the window (`dropWhile_eq_window`), however often it was done before
(`window_window`).

A burst is an event that fills its window.  What a burst starts lasts for a fixed time; it goes on
as long as it does after the last burst (`lt_lastEnd_iff`).

* `window` lists the events from a cutoff on.
* `bursts` lists the events that fill their window, and `mem_bursts_iff` says which they are.
* `lastEnd` is the end of what the last event of a list has started.
-/

namespace SlidingWindow

variable {T : Type} [LinearOrder T]

/-- The events from a cutoff on. -/
def window (cutoff : T) (l : List T) : List T := l.filter (cutoff ≤ ·)

@[simp] lemma window_nil (cutoff : T) : window cutoff [] = [] := rfl

/-- An event at the present lies in the window. -/
lemma window_append_singleton {cutoff now : T} (h : cutoff ≤ now) (l : List T) :
    window cutoff (l ++ [now]) = window cutoff l ++ [now] := by
  simp [window, List.filter_append, h]

/-- What was forgotten before lies before the window. -/
lemma window_window {earlier cutoff : T} (h : earlier ≤ cutoff) (l : List T) :
    window cutoff (window earlier l) = window cutoff l := by
  unfold window
  rw [List.filter_filter]
  refine List.filter_congr fun t _ => ?_
  by_cases ht : cutoff ≤ t
  · simp [ht, h.trans ht]
  · simp [ht]

/-- Dropping the events before a cutoff from the front leaves the window. -/
lemma dropWhile_eq_window {l : List T} (hl : l.Pairwise (· ≤ ·)) (cutoff : T) :
    l.dropWhile (fun t => decide (t < cutoff)) = window cutoff l := by
  induction l with
  | nil => rfl
  | cons t l ih =>
    obtain ⟨hfirst, hrest⟩ := List.pairwise_cons.mp hl
    by_cases ht : t < cutoff
    · rw [List.dropWhile_cons_of_pos (by simpa using ht), ih hrest]
      unfold window
      rw [List.filter_cons_of_neg (by simpa using ht)]
    · rw [List.dropWhile_cons_of_neg (by simpa using ht)]
      have hall : ∀ u ∈ t :: l, cutoff ≤ u := by
        intro u hu
        obtain rfl | hmem := List.mem_cons.mp hu
        · exact not_lt.mp ht
        · exact (not_lt.mp ht).trans (hfirst u hmem)
      exact (List.filter_eq_self.mpr fun u hu => by simpa using hall u hu).symm

lemma pairwise_window {l : List T} (hl : l.Pairwise (· ≤ ·)) (cutoff : T) :
    (window cutoff l).Pairwise (· ≤ ·) := hl.filter _

/-- The number of events in the window. -/
lemma length_window (cutoff : T) (l : List T) :
    (window cutoff l).length = l.countP (cutoff ≤ ·) :=
  List.countP_eq_length_filter.symm

/-! ## Bursts -/

variable [AddCommGroup T]

/-- An event fills its window when it is at least the `k`-th one in it. -/
def Fills (k : ℕ) (length : T) (before : List T) (t : T) : Prop :=
  k ≤ (before ++ [t]).countP (t - length ≤ ·)

instance Fills.decidable (k : ℕ) (length : T) (before : List T) (t : T) :
    Decidable (Fills k length before t) := inferInstanceAs (Decidable (_ ≤ _))

/-- One more event, with the events so far and the bursts among them. -/
def burstStep (k : ℕ) (length : T) (seen : List T × List T) (t : T) : List T × List T :=
  (seen.1 ++ [t], if Fills k length seen.1 t then seen.2 ++ [t] else seen.2)

/-- The events that fill their windows. -/
def bursts (k : ℕ) (length : T) (l : List T) : List T :=
  (l.foldl (burstStep k length) ([], [])).2

section

variable {k : ℕ} {length : T} {l : List T} {t : T}

lemma foldl_burstStep_fst (l : List T) :
    (l.foldl (burstStep k length) ([], [])).1 = l := by
  induction l using List.reverseRecOn with
  | nil => rfl
  | append_singleton l t ih => rw [List.foldl_append, List.foldl_cons, List.foldl_nil, burstStep, ih]

@[simp] lemma bursts_nil : bursts k length ([] : List T) = [] := rfl

lemma bursts_append_singleton (l : List T) (t : T) :
    bursts k length (l ++ [t]) =
      if Fills k length l t then bursts k length l ++ [t] else bursts k length l := by
  unfold bursts
  rw [List.foldl_append, List.foldl_cons, List.foldl_nil, burstStep, foldl_burstStep_fst]

lemma bursts_sublist (l : List T) : (bursts k length l).Sublist l := by
  induction l using List.reverseRecOn with
  | nil => exact List.Sublist.refl _
  | append_singleton l t ih =>
    rw [bursts_append_singleton]
    split
    · exact ih.append_right [t]
    · exact ih.trans (List.sublist_append_left l [t])

/-- A burst is an event that fills its window. -/
theorem mem_bursts_iff : t ∈ bursts k length l ↔
    ∃ before after, l = before ++ t :: after ∧ Fills k length before t := by
  induction l using List.reverseRecOn with
  | nil => simp
  | append_singleton l u ih =>
    have hearlier : (∃ before after, l ++ [u] = before ++ t :: after ∧ Fills k length before t) ↔
        (∃ before after, l = before ++ t :: after ∧ Fills k length before t) ∨
          t = u ∧ Fills k length l u := by
      constructor
      · rintro ⟨before, after, hsplit, hfills⟩
        induction after using List.reverseRecOn with
        | nil =>
          obtain ⟨rfl, hlast⟩ := List.append_inj' hsplit rfl
          rw [List.cons.injEq] at hlast
          obtain ⟨rfl, -⟩ := hlast
          exact Or.inr ⟨rfl, hfills⟩
        | append_singleton after v _ =>
          rw [← List.cons_append, ← List.append_assoc] at hsplit
          obtain ⟨rfl, -⟩ := List.append_inj' hsplit rfl
          exact Or.inl ⟨before, after, rfl, hfills⟩
      · rintro (⟨before, after, rfl, hfills⟩ | ⟨rfl, hfills⟩)
        · exact ⟨before, after ++ [u], by simp, hfills⟩
        · exact ⟨l, [], rfl, hfills⟩
    rw [hearlier, ← ih, bursts_append_singleton]
    split
    next hfills => simp [hfills]
    next hfills => simp [hfills]

end

/-! ## What an event starts -/

/-- Two ends that are the same as far as they are to come. -/
lemma lt_iff_of_max_eq {T : Type} [LinearOrder T] {now e e' : T} (h : max now e = max now e') :
    (now < e ↔ now < e') ∧ (now < e' → e = e') := by
  obtain hle | hlt := le_or_gt e' now
  · rw [max_eq_left hle] at h
    have he : e ≤ now := by
      rw [← h]
      exact le_max_right now e
    exact ⟨iff_of_false (not_lt.mpr he) (not_lt.mpr hle), fun hlt => absurd hle (not_le.mpr hlt)⟩
  · rw [max_eq_right hlt.le] at h
    obtain hmax | hmax := max_choice now e
    · rw [hmax] at h
      exact absurd h hlt.ne
    · rw [hmax] at h
      rw [h]
      exact ⟨Iff.rfl, fun _ => rfl⟩

/-- The end of what the last event has started, when it lasts for a fixed time. -/
def lastEnd {T : Type} [AddCommGroup T] (duration : T) (starts : List T) : T :=
  match starts.getLast? with
  | none => 0
  | some t => t + duration

@[simp] lemma lastEnd_nil {T : Type} [AddCommGroup T] (duration : T) : lastEnd duration ([] : List T) = 0 := rfl

@[simp] lemma lastEnd_append_singleton {T : Type} [AddCommGroup T] (duration : T)
    (starts : List T) (t : T) : lastEnd duration (starts ++ [t]) = t + duration := by
  simp [lastEnd]

/-- What events in the past have started ends before long. -/
lemma lastEnd_le [IsOrderedAddMonoid T] {duration now : T} {starts : List T}
    (hpast : ∀ t ∈ starts, t ≤ now) (hnow : 0 ≤ now + duration) :
    lastEnd duration starts ≤ now + duration := by
  induction starts using List.reverseRecOn with
  | nil => exact hnow
  | append_singleton starts u _ =>
    rw [lastEnd_append_singleton]
    have hu : u ≤ now := hpast u (by simp)
    gcongr

/-- What events have started goes on until what the last one has started ends. -/
theorem lt_lastEnd_iff [IsOrderedAddMonoid T] {duration now : T} {starts : List T}
    (hsorted : starts.Pairwise (· ≤ ·)) (hnow : 0 ≤ now) :
    now < lastEnd duration starts ↔ ∃ t ∈ starts, now < t + duration := by
  induction starts using List.reverseRecOn with
  | nil => simpa using hnow
  | append_singleton starts u _ =>
    rw [lastEnd_append_singleton]
    constructor
    · intro h
      exact ⟨u, by simp, h⟩
    · rintro ⟨t, hmem, ht⟩
      obtain hearlier | hlast := List.mem_append.mp hmem
      · have hle : t ≤ u := (List.pairwise_append.mp hsorted).2.2 t hearlier u (by simp)
        exact ht.trans_le (by gcongr)
      · rw [List.mem_singleton] at hlast
        rwa [← hlast]

end SlidingWindow
