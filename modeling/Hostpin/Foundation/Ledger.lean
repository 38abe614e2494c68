import Mathlib

/-!
# Ledgers

A history is a list to which facts are only added, so that an earlier history is a prefix of a later
one.  `Since past now holds` says that something held of some moment between two histories, and
`added past now` are the facts between them.

A ledger is a history of what is opened and closed under keys.  `held` is what is open under a key;
whatever is held later was held before or was opened in between (`held_or_opened`).  `Records` says
that some rows are those that a ledger leaves open.
-/

namespace Ledger

/-! ## Histories -/

section Histories

variable {α : Type} {past now later : List α} {holds : List α → Prop}

/-- Something held of a moment between two histories. -/
def Since (past now : List α) (holds : List α → Prop) : Prop :=
  ∃ moment, past <+: moment ∧ moment <+: now ∧ holds moment

/-- What has held since is so later. -/
lemma Since.extend (h : Since past now holds) (hlater : now <+: later) :
    Since past later holds := by
  obtain ⟨moment, hpast, hnow, hmoment⟩ := h
  exact ⟨moment, hpast, hnow.trans hlater, hmoment⟩

/-- The facts that were added to a history. -/
def added (past now : List α) : List α := now.drop past.length

lemma added_append (past facts : List α) : added past (past ++ facts) = facts :=
  List.drop_left

/-- What was added stays. -/
lemma mem_added_later (hnow : past <+: now) (hlater : now <+: later) {a : α}
    (h : a ∈ added past now) : a ∈ added past later := by
  obtain ⟨facts, rfl⟩ := hnow
  obtain ⟨facts', rfl⟩ := hlater
  rw [added_append] at h
  rw [List.append_assoc, added_append]
  exact List.mem_append_left _ h

/-- What was added after a moment was added after the moments before it. -/
lemma mem_added_of_mem_added {moment : List α} (hpast : past <+: moment) (hmoment : moment <+: now)
    {a : α} (h : a ∈ added moment now) : a ∈ added past now := by
  obtain ⟨facts, rfl⟩ := hpast
  obtain ⟨facts', rfl⟩ := hmoment
  rw [added_append] at h
  rw [List.append_assoc, added_append]
  exact List.mem_append_right _ h

lemma mem_of_mem_added {a : α} (h : a ∈ added past now) : a ∈ now := List.mem_of_mem_drop h

end Histories

/-! ## Ledgers -/

/-- A value is opened under its key, or a key is closed. -/
inductive Entry (K V : Type) where
  | opened (v : V)
  | closed (k : K)

variable {K V : Type} [DecidableEq K] (key : V → K)

/-- What is open under a key after an entry. -/
def Entry.after (k : K) (before : Option V) : Entry K V → Option V
  | .opened v => if key v = k then some v else before
  | .closed k' => if k' = k then none else before

/-- What is open under a key after some entries. -/
def held (entries : List (Entry K V)) (k : K) : Option V :=
  entries.foldl (Entry.after key k) none

variable {key}

@[simp] lemma held_nil (k : K) : held key [] k = none := rfl

/-- What is open after one more entry. -/
@[simp] lemma held_concat (entries : List (Entry K V)) (entry : Entry K V) (k : K) :
    held key (entries ++ [entry]) k = entry.after key k (held key entries k) := by
  rw [held, List.foldl_append, List.foldl_cons, List.foldl_nil, held]

/-- What is held later was held before, or was opened in between. -/
lemma held_or_opened {before entries : List (Entry K V)} {k : K} {v : V}
    (h : held key (before ++ entries) k = some v) :
    held key before k = some v ∨ .opened v ∈ entries := by
  induction entries using List.reverseRecOn with
  | nil => exact Or.inl (List.append_nil before ▸ h)
  | append_singleton entries entry ih =>
    rw [← List.append_assoc, held_concat] at h
    cases entry with
    | opened w =>
      by_cases hw : key w = k
      · rw [Entry.after, if_pos hw] at h
        cases h
        exact Or.inr (List.mem_append_right _ (List.mem_singleton_self _))
      · rw [Entry.after, if_neg hw] at h
        exact (ih h).imp_right (List.mem_append_left _)
    | closed k' =>
      by_cases hk : k' = k
      · rw [Entry.after, if_pos hk] at h
        cases h
      · rw [Entry.after, if_neg hk] at h
        exact (ih h).imp_right (List.mem_append_left _)

/-- What is held was opened. -/
lemma opened_of_held {entries : List (Entry K V)} {k : K} {v : V}
    (h : held key entries k = some v) : .opened v ∈ entries := by
  have hnil : held key ([] ++ entries) k = some v := h
  exact (held_or_opened hnil).resolve_left nofun

/-- The rows are those that are open. -/
def Records (key : V → K) (entries : List (Entry K V)) (rows : V → Prop) : Prop :=
  ∀ v, rows v ↔ held key entries (key v) = some v

namespace Records

variable {entries : List (Entry K V)} {rows rows' : V → Prop}

lemma congr (h : Records key entries rows) (hrows : ∀ v, rows' v ↔ rows v) :
    Records key entries rows' := fun v => (hrows v).trans (h v)

/-- A row is opened under a key of its own. -/
lemma opened (h : Records key entries rows) {v : V} (hnew : ∀ r, rows r → key r ≠ key v) :
    Records key (entries ++ [.opened v]) fun r => r = v ∨ rows r := by
  intro r
  rw [held_concat, Entry.after]
  by_cases hkey : key v = key r
  · rw [if_pos hkey, Option.some_inj]
    constructor
    · rintro (rfl | hr)
      · rfl
      · exact absurd hkey.symm (hnew r hr)
    · rintro rfl
      exact Or.inl rfl
  · rw [if_neg hkey, ← h r]
    constructor
    · rintro (rfl | hr)
      · exact absurd rfl hkey
      · exact hr
    · exact Or.inr

/-- Some keys are closed. -/
lemma closed (h : Records key entries rows) (keys : List K) :
    Records key (entries ++ keys.map .closed) fun r => rows r ∧ key r ∉ keys := by
  induction keys using List.reverseRecOn with
  | nil => simpa using h
  | append_singleton keys k ih =>
    intro r
    rw [List.map_append, ← List.append_assoc, List.map_singleton, held_concat, Entry.after]
    by_cases hkey : k = key r
    · rw [if_pos hkey]
      simp [hkey]
    · rw [if_neg hkey, ← ih r]
      dsimp only
      rw [List.mem_append, List.mem_singleton, not_or]
      exact ⟨fun hr => ⟨hr.1, hr.2.1⟩, fun hr => ⟨hr.1, hr.2, fun heq => hkey heq.symm⟩⟩

end Records

end Ledger
