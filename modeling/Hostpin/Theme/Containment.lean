import Hostpin.Backup.Restorable
import Hostpin.Theme.Extraction

/-!
# Extraction stays inside its directory

The archives of themes and of backups are extracted into a directory.  Every path that is written
lies strictly inside it, whatever the directory is called, and no two entries are written to the
same path; a backup writes the database, the master key and files strictly below the directory of
the themes (`extraction_confined`).

A tree is relative to the directory that it is in, so a path of it is a name to join with that
directory.
-/

namespace Hostpin

open Backup (ZipFile Tree FileRecord Manifest Primitives Archiver ascii clean join parents Contained
  StrictlyInside databaseName keyName themesName findEntry safePayloadPath extractRecord
  extractAndValidateArchive)

/-- Paths lie strictly inside a directory, and no path is there twice. -/
structure Confined (root : Bytes) (paths : List Bytes) : Prop where
  inside : ∀ path ∈ paths, StrictlyInside root path
  nodup : paths.Nodup

/-- A clean name that stays below a directory. -/
def SafeName (name : Bytes) : Prop := Contained name ∧ clean name = name

section SafeName

variable {name : Bytes} {names : List Bytes}

/-- The cleaned form of a name that stays below a directory. -/
lemma safeName_clean (h : Contained name) : SafeName (clean name) := by
  refine ⟨⟨?_, ?_, ?_⟩, Backup.clean_clean name⟩
  · rw [Backup.rooted_clean, h.relative]
  · rw [Backup.cleanParts_clean]
    exact h.ne_nil
  · rw [Backup.cleanParts_clean]
    exact h.notMem

/-- A safe name and the directories above it lie strictly inside a directory. -/
lemma SafeName.strictlyInside (h : SafeName name) {path : Bytes}
    (hpath : path = name ∨ path ∈ parents name) (root : Bytes) :
    StrictlyInside root (join root path) := by
  rcases hpath with rfl | hparent
  · exact h.1.strictlyInside_join root
  · obtain ⟨below, rfl⟩ := Backup.mem_parents.mp hparent
    exact (h.1.above h.2).strictlyInside_join root

/-- Distinct safe names lead to distinct paths strictly inside a directory. -/
lemma confined_join (h : ∀ name ∈ names, SafeName name) (hnodup : names.Nodup) (root : Bytes) :
    Confined root (names.map (join root)) where
  inside := by
    intro path mem
    obtain ⟨name, hname, rfl⟩ := List.mem_map.mp mem
    exact (h name hname).strictlyInside (Or.inl rfl) root
  nodup := by
    refine List.Nodup.map_on ?_ hnodup
    intro name hname other hother heq
    have hclean := (h name hname).1.clean_eq_of_join_eq (h other hother).1 heq
    rwa [(h name hname).2, (h other hother).2] at hclean

end SafeName

/-! ## Themes -/

namespace Theme

/-- The paths that the entries of an archive are extracted to. -/
def targets (root : Bytes) (archive : List ZipFile) : Except ThemeError (List Bytes) :=
  archive.mapM fun entry => (safeArchivePath entry.name).map (join root)

section Targets

variable {archive : List ZipFile}

/-- The entries of an archive with safe names are extracted to the cleaned names. -/
lemma targets_eq {root : Bytes} (h : ∀ entry ∈ archive, safeArchivePath entry.name =
    .ok (clean entry.name)) :
    targets root archive = .ok ((archive.map fun entry => clean entry.name).map (join root)) := by
  induction archive with
  | nil => rfl
  | cons entry rest ih =>
    obtain ⟨hentry, hrest⟩ := List.forall_mem_cons.mp h
    have hrest := ih hrest
    unfold targets at hrest ⊢
    rw [List.mapM_cons, hentry, hrest]
    rfl

/-- The cleaned names of an accepted archive are safe. -/
lemma Accepted.safeName (h : Accepted archive) {name : Bytes}
    (mem : name ∈ archive.map fun entry => clean entry.name) : SafeName name := by
  obtain ⟨entry, hentry, rfl⟩ := List.mem_map.mp mem
  exact safeName_clean (h.safe entry hentry).2

/-- An accepted archive is extracted to distinct paths strictly inside a directory. -/
lemma Accepted.confined (h : Accepted archive) (root : Bytes) :
    ∃ paths, targets root archive = .ok paths ∧ Confined root paths :=
  ⟨_, targets_eq fun entry mem => (h.safe entry mem).1,
    confined_join (fun _ mem => h.safeName mem) h.nodup root⟩

/-- What an accepted archive puts somewhere is strictly inside the directory. -/
lemma Accepted.strictlyInside (h : Accepted archive) {path : Bytes} {node : Backup.Entry}
    (stands : Stands archive path node) (root : Bytes) : StrictlyInside root (join root path) := by
  have hname : ∀ entry ∈ archive, SafeName (clean entry.name) := fun entry mem =>
    h.safeName (List.mem_map_of_mem mem)
  cases node with
  | regular contents =>
    obtain ⟨entry, mem, -, heq, -⟩ := stands
    exact (hname entry mem).strictlyInside (Or.inl heq.symm) root
  | directory =>
    obtain ⟨entry, mem, hparent | ⟨-, heq⟩⟩ := stands
    · exact (hname entry mem).strictlyInside (Or.inr hparent) root
    · exact (hname entry mem).strictlyInside (Or.inl heq.symm) root
  | irregular => exact stands.elim

end Targets

end Theme

/-! ## Backups -/

namespace Backup

section Records

variable {P : Primitives} {archive : List ZipFile} {record : FileRecord} {records : List FileRecord}
  {tree made : Tree} {path : Bytes} {node : Backup.Entry}

/-- What a record puts somewhere: a file at its path, and directories above it. -/
def RecordStands (record : FileRecord) (path : Bytes) (node : Backup.Entry) : Prop :=
  path = record.path ∨ path ∈ parents record.path ∧ node = .directory

/-- What stands in a tree after a record was extracted comes from the record or was there before. -/
lemma recordStands_of_extractRecord (h : extractRecord P archive tree record = .ok made)
    (hfind : made.find? path = some node) :
    RecordStands record path node ∨ tree.find? path = some node := by
  unfold extractRecord at h
  cases hfile : findEntry archive record.path with
  | none => simp [hfile] at h
  | some file =>
    simp only [hfile] at h
    split_ifs at h with hsize
    cases hcontents : file.contents with
    | none => simp [hcontents] at h
    | some contents =>
      simp only [hcontents, Option.map_some] at h
      cases hcreate : createFile tree record.path (contents.take (record.size + 1).toNat) with
      | error errno => simp [hcreate] at h
      | ok between =>
        simp only [hcreate] at h
        split_ifs at h
        obtain rfl := Except.ok.inj h
        rcases (find?_createFile hcreate).mp hfind with ⟨hpath, -⟩ | hparent | hold
        · exact Or.inl (Or.inl hpath)
        · exact Or.inl (Or.inr hparent)
        · exact Or.inr hold

/-- What stands in a tree after records were extracted into an empty one comes from a record. -/
lemma recordStands_of_foldlM
    (h : records.foldlM (extractRecord P archive) tree = .ok made)
    (hfind : made.find? path = some node) :
    (∃ record ∈ records, RecordStands record path node) ∨ tree.find? path = some node := by
  induction records generalizing tree with
  | nil =>
    obtain rfl := Except.ok.inj h
    exact Or.inr hfind
  | cons record rest ih =>
    rw [List.foldlM_cons] at h
    cases hrecord : extractRecord P archive tree record with
    | error cause => simp [hrecord, bind, Except.bind] at h
    | ok between =>
      rw [hrecord] at h
      rcases ih h with ⟨other, hother, stands⟩ | hold
      · exact Or.inl ⟨other, List.mem_cons_of_mem _ hother, stands⟩
      · rcases recordStands_of_extractRecord hrecord hold with stands | hold
        · exact Or.inl ⟨record, List.mem_cons_self, stands⟩
        · exact Or.inr hold

/-- A path that a backup may write a file to. -/
def RestoredPath (root path : Bytes) : Prop :=
  path = join root databaseName ∨ path = join root keyName ∨
    StrictlyInside (join root themesName) path

/-- A safe payload path is one of those. -/
lemma restoredPath_of_safePayloadPath {name : Bytes} (h : safePayloadPath name = true)
    (root : Bytes) :
    RestoredPath root (join root name) := by
  simp only [safePayloadPath, Bool.and_eq_true, Bool.or_eq_true, beq_iff_eq] at h
  obtain ⟨hsafe, (rfl | rfl) | hthemes⟩ := h
  · exact Or.inl rfl
  · exact Or.inr (Or.inl rfl)
  · exact Or.inr (Or.inr (strictlyInside_themes hsafe hthemes root))

/-- What the manifest of an archive that is extracted declares, and what is extracted. -/
lemma records_of_extract {A : Archiver} {payload : Bytes} {manifest : Manifest}
    (h : extractAndValidateArchive P A payload = .ok (manifest, tree)) :
    (∀ record ∈ manifest.files, safePayloadPath record.path = true) ∧
      (manifest.files.map FileRecord.path).Nodup ∧
      ∃ archive, (A.visit manifest.files).foldlM (extractRecord P archive) KeyedTable.empty =
        .ok tree := by
  cases hunzip : A.unzip payload with
  | none => simp [extractAndValidateArchive, hunzip] at h
  | some archive =>
    obtain ⟨-, -, -, hrecords, -, -, -, hfold⟩ := (extractAndValidateArchive_ok_iff hunzip).mp h
    obtain ⟨hall, hnodup, -⟩ := (checkRecords_ok_iff List.nodup_nil (by decide)).mp hrecords
    rw [List.append_nil] at hnodup
    exact ⟨fun record mem => (hall record mem).1, hnodup, archive, hfold⟩

end Records

end Backup

/-! ## Both archives -/

/-- When the archive of a theme or a backup is accepted, extracting it writes strictly inside the
directory, to distinct paths, and a backup writes nothing but its files. -/
theorem extraction_confined (root : Bytes) :
    (∀ (L : Theme.Libraries) (archive : List ZipFile) (manifest : Theme.ThemeManifest),
      Theme.validateArchive L archive = .ok manifest →
      (∃ paths, Theme.targets root archive = .ok paths ∧ Confined root paths) ∧
      ∀ tree, Theme.extractAll 0 KeyedTable.empty archive = .ok tree →
        ∀ e ∈ tree.rows, StrictlyInside root (join root e.1)) ∧
    ∀ (P : Primitives) (A : Archiver) (payload : Bytes) (manifest : Manifest) (tree : Tree),
      (∀ records, (A.visit records).Perm records) →
      extractAndValidateArchive P A payload = .ok (manifest, tree) →
      Confined root ((A.visit manifest.files).map fun record => join root record.path) ∧
      (∀ record ∈ A.visit manifest.files, Backup.RestoredPath root (join root record.path)) ∧
      ∀ e ∈ tree.rows, StrictlyInside root (join root e.1) ∧
        (e.2 ≠ .directory → Backup.RestoredPath root (join root e.1)) := by
  constructor
  · intro L archive manifest hvalid
    have accepted := Theme.accepted_of_validateArchive hvalid
    refine ⟨accepted.confined root, fun tree htree e he => ?_⟩
    have stands := (Theme.holds_of_extractAll htree e.1 e.2).mp (Tree.find?_eq_some_iff.mpr he)
    exact accepted.strictlyInside stands root
  · intro P A payload manifest tree hvisit hextract
    obtain ⟨hall, hnodup, archive, hfold⟩ := Backup.records_of_extract hextract
    have hsafe : ∀ record ∈ A.visit manifest.files, safePayloadPath record.path = true :=
      fun record mem => hall record ((hvisit _).mem_iff.mp mem)
    have hname : ∀ record ∈ A.visit manifest.files, SafeName record.path := fun record mem =>
      Backup.contained_of_safeArchivePath (Bool.and_eq_true_iff.mp (hsafe record mem)).1
    have hrestored : ∀ record ∈ A.visit manifest.files,
        Backup.RestoredPath root (join root record.path) := fun record mem =>
      Backup.restoredPath_of_safePayloadPath (hsafe record mem) root
    refine ⟨?_, hrestored, fun e he => ?_⟩
    · have hvisited : ((A.visit manifest.files).map FileRecord.path).Nodup :=
        ((hvisit manifest.files).map FileRecord.path).nodup_iff.mpr hnodup
      have confined := confined_join (List.forall_mem_map.mpr hname) hvisited root
      rwa [List.map_map] at confined
    · have hnone : Tree.find? KeyedTable.empty e.1 ≠ some e.2 := fun hempty =>
        absurd (Tree.find?_eq_some_iff.mp hempty) (KeyedTable.notMem_empty _)
      obtain ⟨record, mem, stands⟩ := (Backup.recordStands_of_foldlM hfold
        (Tree.find?_eq_some_iff.mpr he)).resolve_right hnone
      rcases stands with heq | ⟨hparent, hnode⟩
      · exact ⟨(hname record mem).strictlyInside (Or.inl heq) root,
          fun _ => heq ▸ hrestored record mem⟩
      · exact ⟨(hname record mem).strictlyInside (Or.inr hparent) root,
          fun hne => absurd hnode hne⟩

/-- A theme and a backup that are accepted. -/
theorem extraction_confined_examples :
    (∃ paths, Theme.targets (ascii "themes/.install-1") Theme.exampleArchive = .ok paths ∧
      Confined (ascii "themes/.install-1") paths) ∧
    ∃ manifest tree, extractAndValidateArchive (Backup.examplePrimitives ([], [], [], []))
        Backup.exampleArchiver (ascii "PK") = .ok (manifest, tree) ∧
      Confined (ascii "..") ((Backup.exampleArchiver.visit manifest.files).map fun record =>
        join (ascii "..") record.path) := by
  refine ⟨((extraction_confined _).1 Theme.exampleLibraries Theme.exampleArchive
    Theme.exampleManifest (by decide)).1, ?_⟩
  have hok : (extractAndValidateArchive (Backup.examplePrimitives ([], [], [], []))
      Backup.exampleArchiver (ascii "PK")).isOk = true := by decide +kernel
  cases hextract : extractAndValidateArchive (Backup.examplePrimitives ([], [], [], []))
      Backup.exampleArchiver (ascii "PK") with
  | error cause => simp [hextract, Except.isOk, Except.toBool] at hok
  | ok result =>
    obtain ⟨manifest, tree⟩ := result
    exact ⟨manifest, tree, rfl, ((extraction_confined _).2 _ _ _ manifest tree
      (fun records => List.reverse_perm records) hextract).1⟩

end Hostpin
