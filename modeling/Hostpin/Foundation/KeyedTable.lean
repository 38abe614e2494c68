import Mathlib

/-!
# Tables with a primary key

A `KeyedTable key` is a finite list of rows no two of which have the same key.  The operations
are the ones a relational store offers on such a table: insertion that replaces the row with the
same key (`upsert`), a list of such insertions (`upsertAll`), insertion that fails when the key is
taken (`insertNew`), an update of all rows (`updateAll`), deletion by a predicate (`deleteWhere`),
the search for a key (`lookup`) and an ordered selection (`selectOrdered`).  Two constraints of a
schema come with their rules: a column without repetitions (`Unique`) and a table that has a row for
each row of another (`SameKeys`).

Every operation is described by its members: which rows the resulting table holds.  The order of
the rows inside a table carries no meaning.
-/

/-- A table of rows of type `V` with the primary key `key`. -/
structure KeyedTable {K V : Type} (key : V → K) where
  /-- The rows, in no particular order. -/
  rows : List V
  /-- No two rows have the same key. -/
  keys_nodup : (rows.map key).Nodup

namespace KeyedTable

variable {K V : Type} {key : V → K}

instance : Membership V (KeyedTable key) where
  mem t r := r ∈ t.rows

/-- The empty table. -/
def empty : KeyedTable key := ⟨[], List.nodup_nil⟩

/-- Membership in a table is membership in its list of rows. -/
lemma mem_def {t : KeyedTable key} {r : V} : r ∈ t ↔ r ∈ t.rows := Iff.rfl

/-- The empty table has no rows. -/
@[simp] lemma notMem_empty (r : V) : r ∉ (empty : KeyedTable key) := by
  simp [mem_def, empty]

/-- Two rows of a table with the same key are the same row. -/
lemma eq_of_key_eq {t : KeyedTable key} {r s : V} (hr : r ∈ t) (hs : s ∈ t)
    (h : key r = key s) : r = s :=
  List.inj_on_of_nodup_map t.keys_nodup hr hs h

/-! ## Deletion -/

/-- The table without the rows that satisfy `p`. -/
def deleteWhere (t : KeyedTable key) (p : V → Bool) : KeyedTable key where
  rows := t.rows.filter fun r => !p r
  keys_nodup := (List.filter_sublist.map key).nodup t.keys_nodup

/-- Deletion keeps exactly the rows that do not satisfy the predicate. -/
@[simp] lemma mem_deleteWhere {t : KeyedTable key} {p : V → Bool} {r : V} :
    r ∈ t.deleteWhere p ↔ r ∈ t ∧ p r = false := by
  simp [mem_def, deleteWhere]

/-! ## Ordered selection -/

/-- The rows that satisfy `p`, in increasing order of `rank`. -/
def selectOrdered (t : KeyedTable key) (p : V → Bool) (rank : V → ℤ) : List V :=
  (t.rows.filter p).insertionSort fun r s => rank r ≤ rank s

/-- An ordered selection consists of the rows that satisfy the predicate. -/
@[simp] lemma mem_selectOrdered {t : KeyedTable key} {p : V → Bool} {rank : V → ℤ} {r : V} :
    r ∈ t.selectOrdered p rank ↔ r ∈ t ∧ p r = true := by
  rw [selectOrdered, List.mem_insertionSort, List.mem_filter, mem_def]

/-- An ordered selection is sorted by rank. -/
lemma pairwise_selectOrdered (t : KeyedTable key) (p : V → Bool) (rank : V → ℤ) :
    (t.selectOrdered p rank).Pairwise fun r s => rank r ≤ rank s :=
  List.pairwise_insertionSort _ _

/-- When the selected rows are told apart by their rank, an ordered selection is strictly sorted. -/
lemma pairwise_lt_selectOrdered {t : KeyedTable key} {p : V → Bool} {rank : V → ℤ}
    (hinj : ∀ r s, p r = true → p s = true → rank r = rank s → key r = key s) :
    (t.selectOrdered p rank).Pairwise fun r s => rank r < rank s := by
  have hnd : (t.selectOrdered p rank).Nodup := by
    refine (List.perm_insertionSort _ _).nodup_iff.mpr ?_
    exact (List.Nodup.of_map key t.keys_nodup).filter p
  refine (List.Pairwise.and hnd (pairwise_selectOrdered t p rank)).imp_of_mem ?_
  rintro r s hr hs ⟨hne, hle⟩
  rw [mem_selectOrdered] at hr hs
  refine lt_of_le_of_ne hle fun heq => hne ?_
  exact eq_of_key_eq hr.1 hs.1 (hinj r s hr.2 hs.2 heq)

/-- Two ordered selections of the same rows are equal, when the rows are told apart by their
rank. -/
lemma selectOrdered_congr {t u : KeyedTable key} {p q : V → Bool} {rank : V → ℤ}
    (hp : ∀ r s, p r = true → p s = true → rank r = rank s → key r = key s)
    (hq : ∀ r s, q r = true → q s = true → rank r = rank s → key r = key s)
    (h : ∀ r, r ∈ t ∧ p r = true ↔ r ∈ u ∧ q r = true) :
    t.selectOrdered p rank = u.selectOrdered q rank := by
  have ht := pairwise_lt_selectOrdered (t := t) hp
  have hu := pairwise_lt_selectOrdered (t := u) hq
  have hnodup : ∀ {l : List V}, (l.Pairwise fun r s => rank r < rank s) → l.Nodup :=
    fun hl => hl.imp fun hlt heq => by simp [heq] at hlt
  refine List.Perm.eq_of_pairwise ?_ ht hu ?_
  · intro r s _ _ hrs hsr
    exact absurd hrs (not_lt.mpr hsr.le)
  · refine (List.perm_ext_iff_of_nodup (hnodup ht) (hnodup hu)).mpr fun r => ?_
    rw [mem_selectOrdered, mem_selectOrdered]
    exact h r

/-! ## Update -/

/-- Change every row, each of which keeps its key. -/
def updateAll (t : KeyedTable key) (f : V → V) (keeps : ∀ r, key (f r) = key r) :
    KeyedTable key where
  rows := t.rows.map f
  keys_nodup := by
    rw [List.map_map, show key ∘ f = key from funext keeps]
    exact t.keys_nodup

/-- An update holds the changed rows. -/
@[simp] lemma mem_updateAll {t : KeyedTable key} {f : V → V} {keeps : ∀ r, key (f r) = key r}
    {r : V} : r ∈ t.updateAll f keeps ↔ ∃ s ∈ t, f s = r := by
  simp [mem_def, updateAll]

/-! ## Insertion -/

variable [DecidableEq K]

/-- Insert a row whose key is not taken. -/
def insertNew (t : KeyedTable key) (v : V) : Option (KeyedTable key) :=
  if h : key v ∈ t.rows.map key then none
  else some ⟨v :: t.rows, List.nodup_cons.mpr ⟨h, t.keys_nodup⟩⟩

/-- After a successful insertion the table holds the new row and the old ones, which have other
keys. -/
lemma insertNew_eq_some {t u : KeyedTable key} {v : V} (h : t.insertNew v = some u) :
    (∀ r, r ∈ u ↔ r = v ∨ r ∈ t) ∧ ∀ r ∈ t, key r ≠ key v := by
  unfold insertNew at h
  split at h
  · cases h
  next hnew =>
    cases h
    refine ⟨fun r => by simp [mem_def], fun r hr heq => hnew ?_⟩
    exact heq ▸ List.mem_map_of_mem hr

/-- Insert a row, or replace the row with its key. -/
def upsert (t : KeyedTable key) (v : V) : KeyedTable key where
  rows := (t.rows.filter fun r => !decide (key r = key v)) ++ [v]
  keys_nodup := by
    rw [List.map_append, List.nodup_append]
    refine ⟨(List.filter_sublist.map key).nodup t.keys_nodup, List.nodup_singleton _, ?_⟩
    intro k hk k' hk' h
    obtain ⟨r, hr, rfl⟩ := List.mem_map.mp hk
    rw [List.map_singleton, List.mem_singleton] at hk'
    subst hk'
    simp [h] at hr

/-- After an insertion the table holds the new row and the old rows with another key. -/
@[simp] lemma mem_upsert {t : KeyedTable key} {v r : V} :
    r ∈ t.upsert v ↔ r = v ∨ r ∈ t ∧ key r ≠ key v := by
  simp [mem_def, upsert, or_comm]

/-- Inserting a row with a new key appends it. -/
lemma rows_upsert_of_notMem {t : KeyedTable key} {v : V} (h : key v ∉ t.rows.map key) :
    (t.upsert v).rows = t.rows ++ [v] := by
  have hfilter : (t.rows.filter fun r => !decide (key r = key v)) = t.rows := by
    refine List.filter_eq_self.mpr fun r hr => ?_
    have hne : key r ≠ key v := fun heq => h (heq ▸ List.mem_map_of_mem hr)
    simp [hne]
  unfold upsert
  simp only [hfilter]

/-- Insert a list of rows, in order. -/
def upsertAll (t : KeyedTable key) (vs : List V) : KeyedTable key := vs.foldl upsert t

/-- Inserting no rows changes nothing. -/
@[simp] lemma upsertAll_nil (t : KeyedTable key) : t.upsertAll [] = t := rfl

/-- Inserting a list of rows row by row. -/
@[simp] lemma upsertAll_cons (t : KeyedTable key) (v : V) (vs : List V) :
    t.upsertAll (v :: vs) = (t.upsert v).upsertAll vs := rfl

/-- After inserting rows with distinct keys the table holds these rows and the old rows whose key
none of them has. -/
lemma mem_upsertAll {t : KeyedTable key} {vs : List V} (hnd : (vs.map key).Nodup) {r : V} :
    r ∈ t.upsertAll vs ↔ r ∈ vs ∨ r ∈ t ∧ key r ∉ vs.map key := by
  induction vs generalizing t with
  | nil => simp
  | cons v vs ih =>
    rw [List.map_cons, List.nodup_cons] at hnd
    rw [upsertAll_cons, ih hnd.2, mem_upsert, List.mem_cons, List.map_cons, List.mem_cons]
    constructor
    · rintro (h | ⟨rfl | ⟨h, hne⟩, hvs⟩)
      · exact Or.inl (Or.inr h)
      · exact Or.inl (Or.inl rfl)
      · exact Or.inr ⟨h, fun hor => hor.elim hne hvs⟩
    · rintro ((rfl | h) | ⟨h, hnot⟩)
      · exact Or.inr ⟨Or.inl rfl, hnd.1⟩
      · exact Or.inl h
      · exact Or.inr ⟨Or.inr ⟨h, fun heq => hnot (Or.inl heq)⟩, fun hm => hnot (Or.inr hm)⟩

/-- A key that none of the inserted rows has keeps its row. -/
lemma mem_upsertAll_of_notMem {t : KeyedTable key} {vs : List V} {r : V}
    (hr : key r ∉ vs.map key) : r ∈ t.upsertAll vs ↔ r ∈ t := by
  induction vs generalizing t with
  | nil => simp
  | cons v vs ih =>
    rw [List.map_cons, List.mem_cons, not_or] at hr
    rw [upsertAll_cons, ih hr.2, mem_upsert]
    constructor
    · rintro (rfl | ⟨h, -⟩)
      · exact absurd rfl hr.1
      · exact h
    · exact fun h => Or.inr ⟨h, hr.1⟩

/-- Every row of the table after a list of insertions is an inserted row or an old one. -/
lemma mem_or_mem_of_mem_upsertAll {t : KeyedTable key} {vs : List V} {r : V}
    (hr : r ∈ t.upsertAll vs) : r ∈ vs ∨ r ∈ t := by
  induction vs generalizing t with
  | nil => exact Or.inr hr
  | cons v vs ih =>
    rw [upsertAll_cons] at hr
    rcases ih hr with h | h
    · exact Or.inl (List.mem_cons_of_mem _ h)
    · rcases mem_upsert.mp h with rfl | ⟨h, -⟩
      · exact Or.inl List.mem_cons_self
      · exact Or.inr h

/-- The row of an inserted key is an inserted row. -/
lemma mem_of_mem_upsertAll {t : KeyedTable key} {vs : List V} {r : V} (hr : r ∈ t.upsertAll vs)
    (hkey : key r ∈ vs.map key) : r ∈ vs := by
  induction vs generalizing t with
  | nil => cases hkey
  | cons v vs ih =>
    rw [upsertAll_cons] at hr
    by_cases hlater : key r ∈ vs.map key
    · exact List.mem_cons_of_mem _ (ih hr hlater)
    · rw [mem_upsertAll_of_notMem hlater, mem_upsert] at hr
      have hv : key r = key v := (List.mem_cons.mp hkey).resolve_right hlater
      rcases hr with rfl | ⟨-, hne⟩
      · exact List.mem_cons_self
      · exact absurd hv hne

/-! ## Search -/

/-- The row with a key. -/
def lookup (t : KeyedTable key) (k : K) : Option V := t.rows.find? fun r => key r = k

/-- The search finds the row with the key. -/
lemma lookup_eq_some_iff {t : KeyedTable key} {k : K} {r : V} :
    t.lookup k = some r ↔ r ∈ t ∧ key r = k := by
  constructor
  · intro h
    have hkey : key r = k := by simpa using List.find?_some h
    exact ⟨List.mem_of_find?_eq_some h, hkey⟩
  · rintro ⟨hr, hkey⟩
    cases hfind : t.lookup k with
    | none =>
      have hne := List.find?_eq_none.mp hfind r hr
      simp [hkey] at hne
    | some s =>
      have hs : key s = k := by simpa using List.find?_some hfind
      rw [eq_of_key_eq (List.mem_of_find?_eq_some hfind) hr (hs.trans hkey.symm)]

/-- The search fails when no row has the key. -/
lemma lookup_eq_none_iff {t : KeyedTable key} {k : K} :
    t.lookup k = none ↔ ∀ r ∈ t, key r ≠ k := by
  unfold lookup
  rw [List.find?_eq_none]
  simp [mem_def]

/-- The search after an insertion. -/
lemma lookup_upsert (t : KeyedTable key) (v : V) (k : K) :
    (t.upsert v).lookup k = if key v = k then some v else t.lookup k := by
  split_ifs with h
  · exact lookup_eq_some_iff.mpr ⟨mem_upsert.mpr (Or.inl rfl), h⟩
  · refine Option.ext fun r => ?_
    rw [lookup_eq_some_iff, lookup_eq_some_iff, mem_upsert]
    constructor
    · rintro ⟨rfl | ⟨mem, -⟩, hkey⟩
      · exact absurd hkey h
      · exact ⟨mem, hkey⟩
    · rintro ⟨mem, hkey⟩
      exact ⟨Or.inr ⟨mem, fun same => h (same.symm.trans hkey)⟩, hkey⟩

/-- The search after the row with a key was deleted. -/
lemma lookup_deleteKey (t : KeyedTable key) (k k' : K) :
    (t.deleteWhere fun r => key r = k).lookup k' = if k = k' then none else t.lookup k' := by
  split_ifs with h
  · refine lookup_eq_none_iff.mpr fun r mem hkey => ?_
    rw [mem_deleteWhere, decide_eq_false_iff_not] at mem
    exact mem.2 (hkey.trans h.symm)
  · refine Option.ext fun r => ?_
    rw [lookup_eq_some_iff, lookup_eq_some_iff, mem_deleteWhere, decide_eq_false_iff_not]
    constructor
    · rintro ⟨⟨mem, -⟩, hkey⟩
      exact ⟨mem, hkey⟩
    · rintro ⟨mem, hkey⟩
      exact ⟨⟨mem, fun same => h (same.symm.trans hkey)⟩, hkey⟩

@[simp] lemma lookup_empty (k : K) : (empty : KeyedTable key).lookup k = none := rfl

/-- Two tables that have the same rows with a key agree in the search for it. -/
lemma lookup_congr {t u : KeyedTable key} {k : K} (h : ∀ r, key r = k → (r ∈ t ↔ r ∈ u)) :
    t.lookup k = u.lookup k := by
  refine Option.ext fun r => ?_
  rw [lookup_eq_some_iff, lookup_eq_some_iff]
  constructor
  · rintro ⟨hr, hkey⟩
    exact ⟨(h r hkey).mp hr, hkey⟩
  · rintro ⟨hr, hkey⟩
    exact ⟨(h r hkey).mpr hr, hkey⟩

/-! ## Constraints -/

/-- No two rows agree in a column. -/
def Unique {C : Type} (t : KeyedTable key) (column : V → C) : Prop :=
  ∀ r ∈ t, ∀ s ∈ t, column r = column s → r = s

omit [DecidableEq K] in
lemma Unique.deleteWhere {C : Type} {t : KeyedTable key} {column : V → C} (h : t.Unique column)
    (p : V → Bool) : (t.deleteWhere p).Unique column :=
  fun r hr s hs => h r (mem_deleteWhere.mp hr).1 s (mem_deleteWhere.mp hs).1

lemma Unique.insertNew {C : Type} {t u : KeyedTable key} {column : V → C} {v : V}
    (h : t.Unique column) (inserted : t.insertNew v = some u)
    (fresh : ∀ r ∈ t, column r ≠ column v) : u.Unique column := by
  obtain ⟨members, -⟩ := insertNew_eq_some inserted
  intro r hr s hs same
  rcases (members r).mp hr with rfl | hr <;> rcases (members s).mp hs with rfl | hs
  · rfl
  · exact absurd same.symm (fresh s hs)
  · exact absurd same (fresh r hr)
  · exact h r hr s hs same

/-- Two tables have rows with the same keys. -/
def SameKeys {W : Type} {other : W → K} (t : KeyedTable key) (u : KeyedTable other) : Prop :=
  ∀ k, (∃ r ∈ t, key r = k) ↔ ∃ r ∈ u, other r = k

lemma SameKeys.insertNew {W : Type} {other : W → K} {t t' : KeyedTable key}
    {u u' : KeyedTable other} {v : V} {w : W} (h : t.SameKeys u) (ht : t.insertNew v = some t')
    (hu : u.insertNew w = some u') (same : key v = other w) : t'.SameKeys u' := by
  obtain ⟨left, -⟩ := insertNew_eq_some ht
  obtain ⟨right, -⟩ := insertNew_eq_some hu
  intro k
  simp only [left, right, or_and_right, exists_or, exists_eq_left, same, h k]

lemma SameKeys.deleteKey {W : Type} {other : W → K} {t : KeyedTable key} {u : KeyedTable other}
    (h : t.SameKeys u) (k : K) :
    (t.deleteWhere fun r => key r = k).SameKeys (u.deleteWhere fun r => other r = k) := by
  intro l
  simp only [mem_deleteWhere, decide_eq_false_iff_not]
  constructor
  · rintro ⟨r, ⟨mem, hne⟩, rfl⟩
    obtain ⟨s, hs, same⟩ := (h (key r)).mp ⟨r, mem, rfl⟩
    exact ⟨s, ⟨hs, same ▸ hne⟩, same⟩
  · rintro ⟨s, ⟨mem, hne⟩, rfl⟩
    obtain ⟨r, hr, same⟩ := (h (other s)).mpr ⟨s, mem, rfl⟩
    exact ⟨r, ⟨hr, same ▸ hne⟩, same⟩

omit [DecidableEq K] in
/-- A row of one table has exactly one row with its key in the other. -/
lemma SameKeys.existsUnique {W : Type} {other : W → K} {t : KeyedTable key} {u : KeyedTable other}
    (h : t.SameKeys u) {w : W} (mem : w ∈ u) : ∃! r, r ∈ t ∧ key r = other w := by
  obtain ⟨r, hr, same⟩ := (h (other w)).mpr ⟨w, mem, rfl⟩
  exact ⟨r, ⟨hr, same⟩, fun s hs => eq_of_key_eq hs.1 hr (hs.2.trans same.symm)⟩

end KeyedTable
