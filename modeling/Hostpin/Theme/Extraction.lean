import Hostpin.Backup.Limits
import Hostpin.Backup.Paths
import Hostpin.Theme.Archive

/-!
# What is extracted

The names of an archive that is accepted stay below the directory that it is extracted to, and
their cleaned forms are distinct (`Accepted`).  The directory then holds the files of the archive
under their cleaned names, the directories of the archive and those above them, and nothing else
(`Holds`).
-/

namespace Hostpin

open Backup (ZipFile Tree clean parents makeDirectories createFile Contained contained_of_clean
  isPrefixOf_slash find?_makeDirectories find?_createFile)

namespace Theme

/-- The names of the entries of an archive are safe, and their cleaned forms are distinct. -/
structure Accepted (archive : List ZipFile) : Prop where
  safe : ∀ entry ∈ archive, safeArchivePath entry.name = .ok (clean entry.name) ∧
    Contained entry.name
  nodup : (archive.map fun entry => clean entry.name).Nodup

/-- What an archive puts at a path. -/
def Stands (archive : List ZipFile) (path : Bytes) : Backup.Entry → Prop
  | .regular contents => ∃ entry ∈ archive, isDirectory entry = false ∧ clean entry.name = path ∧
      entry.contents = some contents
  | .directory => ∃ entry ∈ archive, path ∈ parents (clean entry.name) ∨
      isDirectory entry = true ∧ clean entry.name = path
  | .irregular => False

/-- A directory holds the files and the directories of an archive, and nothing else. -/
def Holds (archive : List ZipFile) (tree : Tree) : Prop :=
  ∀ path node, tree.find? path = some node ↔ Stands archive path node

/-! ## Accepted archives -/

section Accepted

variable {L : Libraries} {archive : List ZipFile}

/-- A safe name stays below the directory that it is joined with. -/
lemma safeArchivePath_ok {name cleaned : Bytes} (h : safeArchivePath name = .ok cleaned) :
    cleaned = clean name ∧ Contained name := by
  unfold safeArchivePath at h
  split_ifs at h with hname hcleaned
  · simp only [Bool.or_eq_true, not_or, Bool.not_eq_true, isPrefixOf_slash] at hname
    simp only [Bool.or_eq_true, beq_iff_eq, not_or, Bool.not_eq_true] at hcleaned
    exact ⟨(Except.ok.inj h).symm, contained_of_clean hname.2 hcleaned.1.1 hcleaned.1.2 hcleaned.2⟩

/-- What the checks of the entries say. -/
lemma validateEntries_ok {seen names : List Bytes} {total : ℕ}
    {manifest found : Option ThemeManifest}
    (h : validateEntries L seen total manifest archive = .ok (names, found)) :
    (∀ entry ∈ archive, safeArchivePath entry.name = .ok (clean entry.name) ∧
      Contained entry.name) ∧ (archive.map fun entry => clean entry.name).Nodup ∧
      ∀ entry ∈ archive, clean entry.name ∉ seen := by
  induction archive generalizing seen total manifest with
  | nil => simp
  | cons entry rest ih =>
    unfold validateEntries at h
    cases hname : safeArchivePath entry.name with
    | error cause => simp [hname] at h
    | ok name =>
      obtain ⟨rfl, hcontained⟩ := safeArchivePath_ok hname
      simp only [hname] at h
      split_ifs at h with hseen
      cases hmanifest : takeManifest L manifest (clean entry.name) entry with
      | error cause => simp [hmanifest] at h
      | ok next =>
        rw [hmanifest] at h
        obtain ⟨hsafe, hnodup, hnew⟩ := ih h
        simp only [List.mem_cons, not_or] at hnew
        refine ⟨List.forall_mem_cons.mpr ⟨⟨hname, hcontained⟩, hsafe⟩, ?_, ?_⟩
        · refine List.nodup_cons.mpr ⟨fun mem => ?_, hnodup⟩
          obtain ⟨other, hother, heq⟩ := List.mem_map.mp mem
          exact (hnew other hother).1 heq
        · refine List.forall_mem_cons.mpr ⟨?_, fun other hother => (hnew other hother).2⟩
          simpa using hseen

/-- An archive that is accepted. -/
lemma accepted_of_validateArchive {manifest : ThemeManifest}
    (h : validateArchive L archive = .ok manifest) : Accepted archive := by
  unfold validateArchive at h
  split at h
  · cases h
  · cases h
  · rename_i hentries
    obtain ⟨hsafe, hnodup, -⟩ := validateEntries_ok hentries
    exact ⟨hsafe, hnodup⟩

/-- A theme is installed under a short name that is allowed. -/
lemma shortPattern_of_validateArchive {manifest : ThemeManifest}
    (h : validateArchive L archive = .ok manifest) : shortPattern manifest.short = true := by
  unfold validateArchive at h
  split at h
  · cases h
  · cases h
  · rename_i seen found _
    cases hvalid : validateManifest L found.renamed seen with
    | error cause => simp [hvalid, Except.map] at h
    | ok _ =>
      rw [hvalid] at h
      obtain rfl := Except.ok.inj h
      unfold validateManifest at hvalid
      split_ifs at hvalid with hname hshort <;> simpa using hshort

end Accepted

/-! ## Extraction -/

section Extraction

variable {archive done : List ZipFile} {tree made : Tree} {entry : ZipFile}

/-- What archives put at a path. -/
lemma stands_append {path : Bytes} {node : Backup.Entry} :
    Stands (done ++ archive) path node ↔ Stands done path node ∨ Stands archive path node := by
  cases node with
  | regular contents => simp only [Stands, List.mem_append, or_and_right, exists_or]
  | directory => simp only [Stands, List.mem_append, or_and_right, exists_or]
  | irregular => simp only [Stands, or_self]

/-- What an entry that is a directory puts at a path. -/
lemma stands_directory {path : Bytes} {node : Backup.Entry}
    (hdirectory : isDirectory entry = true) :
    Stands [entry] path node ↔
      path ∈ parents (clean entry.name) ++ [clean entry.name] ∧ node = .directory := by
  cases node with
  | regular contents => simp [Stands, hdirectory]
  | directory => simp [Stands, hdirectory, @eq_comm _ path]
  | irregular => simp [Stands]

/-- What an entry that is a file puts at a path. -/
lemma stands_file {path contents : Bytes} {node : Backup.Entry} (hfile : isDirectory entry = false)
    (hcontents : entry.contents = some contents) :
    Stands [entry] path node ↔ path = clean entry.name ∧ node = .regular contents ∨
      path ∈ parents (clean entry.name) ∧ node = .directory := by
  cases node with
  | regular other => simp [Stands, hfile, hcontents, @eq_comm _ path, @eq_comm _ contents]
  | directory => simp [Stands, hfile]
  | irregular => simp [Stands]

/-- Extracting an entry adds what the entry puts into a directory. -/
lemma find?_extractEntry {written : ℕ} (h : extractEntry tree entry = .ok (written, made))
    (path : Bytes) (node : Backup.Entry) :
    made.find? path = some node ↔ Stands [entry] path node ∨ tree.find? path = some node := by
  unfold extractEntry at h
  cases hname : safeArchivePath entry.name with
  | error cause => simp [hname] at h
  | ok name =>
    obtain ⟨rfl, -⟩ := safeArchivePath_ok hname
    simp only [hname] at h
    by_cases hdirectory : isDirectory entry = true
    · rw [if_pos hdirectory] at h
      cases hmade : makeDirectories tree (parents (clean entry.name) ++ [clean entry.name]) with
      | error errno => simp [hmade] at h
      | ok between =>
        rw [hmade] at h
        obtain ⟨-, rfl⟩ := Prod.mk.inj (Except.ok.inj h)
        rw [find?_makeDirectories hmade]
        exact or_congr_left (stands_directory hdirectory).symm
    · rw [if_neg hdirectory] at h
      cases hcontents : entry.contents with
      | none => simp [hcontents] at h
      | some contents =>
        simp only [hcontents, Option.map_some] at h
        cases hmade : createFile tree (clean entry.name)
            (contents.take (maxThemeFileBytes + 1)) with
        | error errno => simp [hmade] at h
        | ok between =>
          simp only [hmade] at h
          split_ifs at h with hlength
          obtain ⟨-, rfl⟩ := Prod.mk.inj (Except.ok.inj h)
          have htake : contents.take (maxThemeFileBytes + 1) = contents := by
            rw [List.take_eq_self_iff]
            rw [List.length_take] at hlength
            omega
          rw [htake] at hmade
          rw [find?_createFile hmade, ← or_assoc]
          exact or_congr_left (stands_file (Bool.not_eq_true _ ▸ hdirectory) hcontents).symm

/-- Extracting entries adds what they put into a directory. -/
lemma find?_extractAll {extracted : ℕ} (h : extractAll extracted tree archive = .ok made)
    (path : Bytes) (node : Backup.Entry) :
    made.find? path = some node ↔ Stands archive path node ∨ tree.find? path = some node := by
  induction archive generalizing extracted tree with
  | nil =>
    obtain rfl := Except.ok.inj h
    cases node <;> simp [Stands]
  | cons entry rest ih =>
    unfold extractAll at h
    cases hentry : extractEntry tree entry with
    | error cause => simp [hentry] at h
    | ok result =>
      obtain ⟨written, between⟩ := result
      simp only [hentry] at h
      split_ifs at h
      have hsplit : entry :: rest = [entry] ++ rest := rfl
      rw [ih h, find?_extractEntry hentry, hsplit, stands_append, or_left_comm, or_assoc]

/-- An empty directory holds an archive after the archive was extracted into it. -/
lemma holds_of_extractAll (h : extractAll 0 KeyedTable.empty archive = .ok made) :
    Holds archive made := by
  intro path node
  rw [find?_extractAll h]
  refine or_iff_left fun hempty => ?_
  exact absurd (Tree.find?_eq_some_iff.mp hempty) (KeyedTable.notMem_empty _)

end Extraction

end Theme

end Hostpin
