import Hostpin.Backup.Checks
import Hostpin.Backup.Rollback

/-!
# What a restore installs

A staged tree that passes the checks is installed when the operations work: its database after the
sessions were deleted, its master key and its themes.

* `Acceptable` collects the checks that a staged tree passes, and `checkPending_accepts` says that
  they are what the procedure asks for.
* `safely_prepare` and `safely_switchOver` say what the copies and the switch do.
* `safely_applyPendingRestore` says what the whole restore does, and what holds on the way:
  everything that stood at a live path is still at the live path or under its rollback name.
-/

namespace Hostpin

open Clock

namespace Backup

open Procedure (Safely)

variable {services : Services} {config : RestoreConfig} {names : RunNames} {faults : Faults}
  {files : Files} {now : Time} {tree : Tree} {pending : PendingRestore}

/-! ## Trees -/

/-- The tree without the files of the log, or without one of them. -/
def Tree.trim (tree : Tree) (wal shm : Bool) : Tree :=
  let tree := if wal then tree.remove walName else tree
  if shm then tree.remove shmName else tree

/-- Trimming leaves the other paths. -/
lemma Tree.find?_trim {path : Bytes} (hwal : path ≠ walName) (hshm : path ≠ shmName)
    (tree : Tree) (wal shm : Bool) : (tree.trim wal shm).find? path = tree.find? path := by
  cases wal <;> cases shm <;> simp [Tree.trim, Tree.find?_remove_of_ne, hwal, hshm]

/-- Trimming leaves the contents of the other files. -/
lemma Tree.file?_trim {path : Bytes} (hwal : path ≠ walName) (hshm : path ≠ shmName)
    (tree : Tree) (wal shm : Bool) : (tree.trim wal shm).file? path = tree.file? path := by
  unfold Tree.file?
  rw [Tree.find?_trim hwal hshm]

/-- The log of a trimmed tree is that of the tree, or it is gone. -/
lemma Tree.find?_trim_wal (tree : Tree) (wal shm : Bool) :
    (tree.trim wal shm).find? walName = if wal then none else tree.find? walName := by
  have hne : walName ≠ shmName := by decide
  cases wal <;> cases shm <;>
    simp [Tree.trim, Tree.find?_remove_of_ne hne, Tree.find?_remove_self]

/-- The entries below the directory of the themes, relative to it. -/
def themeEntries (rows : List (Bytes × Entry)) : List (Bytes × Entry) :=
  rows.filterMap fun e => (themePath? e.1).map fun path => (path, e.2)

/-- The paths of the themes are those of their entries. -/
lemma themePaths_eq (tree : Tree) : themePaths tree = (themeEntries tree.rows).map Prod.fst := by
  unfold themePaths themeEntries
  rw [List.map_filterMap]
  congr 1
  funext e
  cases themePath? e.1 <;> rfl

/-- A relative path of the themes is the path below their directory. -/
lemma themePath?_eq_some {path relative : Bytes} (h : themePath? path = some relative) :
    path = themesPrefix ++ relative := by
  unfold themePath? at h
  split_ifs at h with hpre
  obtain ⟨rest, rfl⟩ := List.isPrefixOf_iff_prefix.mp hpre
  rw [← Option.some.inj h, List.drop_left]

/-- The entries of the themes stand in the tree. -/
lemma mem_of_mem_themeEntries {rows : List (Bytes × Entry)} {e : Bytes × Entry}
    (h : e ∈ themeEntries rows) : (themesPrefix ++ e.1, e.2) ∈ rows := by
  obtain ⟨row, hrow, hsome⟩ := List.mem_filterMap.mp h
  obtain ⟨relative, hpath, rfl⟩ := Option.map_eq_some_iff.mp hsome
  rwa [← themePath?_eq_some hpath]

/-- The entries of the themes have different paths. -/
lemma nodup_themeEntries {rows : List (Bytes × Entry)} (h : (rows.map Prod.fst).Nodup) :
    ((themeEntries rows).map Prod.fst).Nodup := by
  have hmap : (themeEntries rows).map Prod.fst = (rows.map Prod.fst).filterMap themePath? := by
    unfold themeEntries
    rw [List.map_filterMap, List.filterMap_map]
    congr 1
    funext e
    simp only [Function.comp]
    cases themePath? e.1 <;> rfl
  rw [hmap]
  refine h.filterMap fun a b relative ha hb => ?_
  rw [themePath?_eq_some ha, themePath?_eq_some hb]

/-- Rows that are not of the themes do not matter for them. -/
lemma themeEntries_filter {rows : List (Bytes × Entry)} {p : Bytes × Entry → Bool}
    (h : ∀ e ∈ rows, p e = false → themePath? e.1 = none) :
    themeEntries (rows.filter p) = themeEntries rows := by
  unfold themeEntries
  rw [List.filterMap_filter]
  refine List.filterMap_congr fun e he => ?_
  split_ifs with hp
  · rfl
  · rw [h e he (by simpa using hp)]
    rfl

/-- The entries of the themes, if their directory is there. -/
def themeRows (tree : Tree) : List (Bytes × Entry) :=
  if tree.find? themesName = some .directory then themeEntries tree.rows else []

/-- The entries of the themes have different paths. -/
lemma nodup_themeRows (tree : Tree) : ((themeRows tree).map Prod.fst).Nodup := by
  unfold themeRows
  split
  · exact nodup_themeEntries tree.keys_nodup
  · exact List.nodup_nil

/-- The directory of the themes that a staged tree holds. -/
def Tree.themes (tree : Tree) : Tree where
  rows := themeRows tree
  keys_nodup := nodup_themeRows tree

/-- Trees with the same rows. -/
lemma Tree.eq_of_rows {tree other : Tree} (h : tree.rows = other.rows) : tree = other := by
  cases tree
  cases other
  cases h
  rfl

/-- Removing a path that is not of the themes keeps the themes. -/
lemma Tree.themes_remove (path : Bytes) (hpath : themePath? path = none)
    (hname : themesName ≠ path) (tree : Tree) : (tree.remove path).themes = tree.themes := by
  refine Tree.eq_of_rows ?_
  have hrows : themeEntries (tree.remove path).rows = themeEntries tree.rows := by
    refine themeEntries_filter fun e _ he => ?_
    have heq : e.1 = path := by simpa using he
    rw [heq, hpath]
  show themeRows (tree.remove path) = themeRows tree
  unfold themeRows
  rw [Tree.find?_remove_of_ne hname, hrows]

/-- Trimming keeps the themes. -/
lemma Tree.themes_trim (tree : Tree) (wal shm : Bool) :
    (tree.trim wal shm).themes = tree.themes := by
  have hwal := Tree.themes_remove walName (by decide) (by decide)
  have hshm := Tree.themes_remove shmName (by decide) (by decide)
  cases wal <;> cases shm <;> simp [Tree.trim, hwal, hshm]

/-- A path that is set. -/
lemma Tree.find?_put_self (tree : Tree) (path : Bytes) (entry : Entry) :
    (tree.put path entry).find? path = some entry := by
  unfold Tree.put
  split_ifs with h
  · exact h
  · rw [Tree.find?_eq_some_iff, KeyedTable.mem_upsert]
    exact Or.inl rfl

/-- Setting a path leaves the other paths. -/
lemma Tree.find?_put_of_ne {path other : Bytes} (h : other ≠ path) (tree : Tree) (entry : Entry) :
    (tree.put path entry).find? other = tree.find? other := by
  unfold Tree.put
  split_ifs
  · rfl
  · refine Option.ext fun e => ?_
    rw [Tree.find?_eq_some_iff, Tree.find?_eq_some_iff, KeyedTable.mem_upsert]
    simp [h]

/-- Setting the database keeps the themes. -/
lemma Tree.themes_put_database (tree : Tree) (entry : Entry) :
    (tree.put databaseName entry).themes = tree.themes := by
  have hname : themesName ≠ databaseName := by decide
  have hpath : themePath? databaseName = none := by decide
  refine Tree.eq_of_rows ?_
  have hrows : themeEntries (tree.put databaseName entry).rows = themeEntries tree.rows := by
    unfold Tree.put
    split_ifs
    · rfl
    · have hkept : themeEntries (tree.rows.filter fun r => !decide (r.1 = databaseName)) =
          themeEntries tree.rows := by
        refine themeEntries_filter fun e _ he => ?_
        have heq : e.1 = databaseName := by simpa using he
        rw [heq, hpath]
      have hnew : themeEntries [(databaseName, entry)] = [] := by
        simp [themeEntries, hpath]
      show themeEntries (_ ++ _) = _
      rw [themeEntries, List.filterMap_append, ← themeEntries, ← themeEntries, hnew,
        List.append_nil]
      exact hkept
  show themeRows (tree.put databaseName entry) = themeRows tree
  unfold themeRows
  rw [Tree.find?_put_of_ne hname, hrows]

/-! ## Checks -/

/-- The checks that a staged tree passes, with the description that it holds. -/
structure Acceptable (services : Services) (config : RestoreConfig) (tree : Tree)
    (pending : PendingRestore) : Prop where
  paths : validatePendingTree (.directory tree) = .ok ()
  metadata : ∃ metadata, tree.file? pendingMetadata = some metadata ∧
    checkMetadata services config metadata = .ok pending
  checksums :
    verifyPendingChecksums services.primitives (.directory tree) pending.manifest = .ok ()
  database : ∃ contents key database, tree.file? keyName = some contents ∧
    decodeMasterKey services contents = some key ∧
    services.connect (tree.find? databaseName) (tree.find? walName) = some database ∧
    checkDatabase services key database = .ok () ∧ database.sessions ≠ none ∧
    configuredKeyMatches services config key = true

/-- The operations of the checks whose failure refuses a staged tree. -/
def checkOperations : List Operation :=
  [.walk .tree, .readFile pendingMetadata, .walk .checksums, .readFile keyName, .openDatabase,
    .clearSessions]

/-- The database file of a staged tree after the sessions were deleted. -/
def flushed (services : Services) (tree : Tree) : Bytes :=
  services.flush (tree.find? databaseName) (tree.find? walName)

/-- The staged tree after the sessions were deleted. -/
def cleared (services : Services) (tree : Tree) : Tree :=
  tree.put databaseName (.regular (flushed services tree))

/-- A staged tree and the files around it. -/
def Files.withPending (files : Files) (tree : Tree) : Files :=
  files.set .pending (some (.directory tree))

/-- The staged tree of files that have one. -/
@[simp] lemma Files.pendingTree_withPending (files : Files) (tree : Tree) :
    (files.withPending tree).pendingTree = some tree := by
  simp [Files.pendingTree, Files.withPending]

/-- The node of the staged tree. -/
@[simp] lemma Files.withPending_pending (files : Files) (tree : Tree) :
    files.withPending tree .pending = some (.directory tree) := by
  simp [Files.withPending]

/-- Setting the staged tree twice. -/
@[simp] lemma Files.withPending_withPending (files : Files) (tree other : Tree) :
    (files.withPending tree).withPending other = files.withPending other := by
  simp [Files.withPending, Files.set]

/-- Files with a staged tree. -/
lemma Files.withPending_eq_self (h : files .pending = some (.directory tree)) :
    files.withPending tree = files := by
  rw [Files.withPending, Files.set, ← h, Function.update_eq_self]

/-- Reading a regular file of the staged tree. -/
lemma handle_readFile {name content : Bytes} (hfault : faults (.readFile name) = none)
    (h : tree.file? name = some content) :
    handle services faults (.readFile name) (files.withPending tree) =
      (.ok content, files.withPending tree) := by
  rw [Tree.file?_eq_some_iff] at h
  simp [handle, act, hfault, Files.pendingEntry?, h]

/-- Walking over the staged tree. -/
lemma handle_walk {walk : Walk} (hfault : faults (.walk walk) = none)
    (hpending : files .pending = some (.directory tree)) :
    handle services faults (.walk walk) files = (.ok (.directory tree), files) := by
  simp [handle, act, hfault, hpending]

/-- Opening the staged database. -/
lemma handle_openDatabase {database : Database} (hfault : faults .openDatabase = none)
    (h : services.connect (tree.find? databaseName) (tree.find? walName) = some database) :
    handle services faults .openDatabase (files.withPending tree) =
      (.ok database, files.withPending tree) := by
  simp [handle, act, hfault, Files.pendingEntry?, h]

/-- Deleting the sessions of the staged database. -/
lemma handle_clearSessions {database : Database} (hfault : faults .clearSessions = none)
    (h : services.connect (tree.find? databaseName) (tree.find? walName) = some database)
    (hsessions : database.sessions ≠ none) :
    handle services faults .clearSessions (files.withPending tree) =
      (.ok (), files.withPending (cleared services tree)) := by
  obtain ⟨sessions, hsome⟩ := Option.ne_none_iff_exists'.mp hsessions
  simp only [handle, hfault, act, Files.pendingTree_withPending, h, Option.bind_some, hsome]
  exact congrArg (Prod.mk _) (files.withPending_withPending tree _)

/-- Removing a file of the staged tree works, or changes nothing. -/
lemma handle_removeFile (services : Services) (faults : Faults) (files : Files) (tree : Tree)
    (name : Bytes) :
    (handle services faults (.removeFile name) (files.withPending tree)).2 =
        files.withPending (tree.remove name) ∨
      (handle services faults (.removeFile name) (files.withPending tree)).2 =
        files.withPending tree := by
  cases hfault : faults (.removeFile name) with
  | some failure => exact Or.inr (by simp [handle, hfault, Files.afterFailure])
  | none =>
    refine Or.inl ?_
    simp only [handle, hfault, act, Files.pendingTree_withPending]
    exact files.withPending_withPending tree _

/-- The checks of the staged database when they pass. -/
lemma safely_validateRestoredDatabase {I : Files → Prop} {contents key : Bytes}
    {database : Database} (hfaults : ∀ op ∈ checkOperations, faults op = none)
    (hcontents : tree.file? keyName = some contents)
    (hkey : decodeMasterKey services contents = some key)
    (hdatabase : services.connect (tree.find? databaseName) (tree.find? walName) = some database)
    (hcheck : checkDatabase services key database = .ok ()) (hsessions : database.sessions ≠ none)
    (hstart : I (files.withPending tree))
    (htrim : ∀ wal shm, I (files.withPending ((cleared services tree).trim wal shm))) :
    Safely (handle services faults) I
      (fun result t => result = .ok key ∧
        ∃ wal shm, t = files.withPending ((cleared services tree).trim wal shm))
      (validateRestoredDatabase services) (files.withPending tree) := by
  refine Safely.perform hstart ?_
  rw [handle_readFile (hfaults _ (by simp [checkOperations])) hcontents]
  simp only [hkey]
  refine Safely.perform hstart ?_
  rw [handle_openDatabase (hfaults _ (by simp [checkOperations])) hdatabase]
  simp only [hcheck]
  refine Safely.perform hstart ?_
  rw [handle_clearSessions (hfaults _ (by simp [checkOperations])) hdatabase hsessions]
  refine Safely.perform (htrim false false) ?_
  -- what is left of the log may stay when it cannot be removed
  have hwal : ∃ wal, (handle services faults (.removeFile walName)
      (files.withPending (cleared services tree))).2 =
        files.withPending ((cleared services tree).trim wal false) := by
    rcases handle_removeFile services faults files (cleared services tree) walName with h | h
    · exact ⟨true, h⟩
    · exact ⟨false, h⟩
  obtain ⟨wal, hwal⟩ := hwal
  rw [hwal]
  refine Safely.perform (htrim wal false) ?_
  have hshm : ∃ shm, (handle services faults (.removeFile shmName)
      (files.withPending ((cleared services tree).trim wal false))).2 =
        files.withPending ((cleared services tree).trim wal shm) := by
    rcases handle_removeFile services faults files ((cleared services tree).trim wal false) shmName
      with h | h
    · exact ⟨true, h⟩
    · exact ⟨false, h⟩
  obtain ⟨shm, hshm⟩ := hshm
  rw [hshm]
  exact Safely.pure (htrim wal shm) ⟨rfl, wal, shm, rfl⟩

/-- The checks accept an acceptable tree when their operations work. -/
lemma safely_checkPending (files : Files) {I : Files → Prop}
    (h : Acceptable services config tree pending)
    (hfaults : ∀ op ∈ checkOperations, faults op = none) (hstart : I (files.withPending tree))
    (htrim : ∀ wal shm, I (files.withPending ((cleared services tree).trim wal shm))) :
    Safely (handle services faults) I
      (fun outcome t => outcome = .accepted pending ∧
        ∃ wal shm, t = files.withPending ((cleared services tree).trim wal shm))
      (checkPending services config) (files.withPending tree) := by
  obtain ⟨metadata, hmetadata, hdescription⟩ := h.metadata
  obtain ⟨contents, key, database, hcontents, hkey, hdatabase, hcheck, hsessions, hconfigured⟩ :=
    h.database
  refine Safely.perform hstart ?_
  rw [handle_walk (hfaults _ (by simp [checkOperations])) (files.withPending_pending tree)]
  simp only [h.paths]
  refine Safely.perform hstart ?_
  rw [handle_readFile (hfaults _ (by simp [checkOperations])) hmetadata]
  simp only [hdescription]
  refine Safely.perform hstart ?_
  rw [handle_walk (hfaults _ (by simp [checkOperations])) (files.withPending_pending tree)]
  simp only [h.checksums]
  refine Safely.bind ((safely_validateRestoredDatabase hfaults hcontents hkey hdatabase hcheck
    hsessions hstart htrim).mono (fun _ ht => ht) ?_)
  rintro result t ⟨rfl, wal, shm, rfl⟩
  simp only [hconfigured, if_true]
  exact Safely.pure (htrim wal shm) ⟨rfl, wal, shm, rfl⟩

/-! ## Copies -/

/-- What the copies need of a staged tree: a database file, a master key file and themes that are a
directory of regular files, or missing. -/
structure Installable (tree : Tree) (database key : Bytes) : Prop where
  database : tree.file? databaseName = some database
  key : tree.file? keyName = some key
  themes : tree.find? themesName = none ∨ tree.find? themesName = some .directory
  regular : ∀ e ∈ tree.rows, e.2 ≠ .irregular

/-- Files that differ at the copies of one restore at most. -/
def AgreeBeside (identifier : String) (files other : Files) : Prop :=
  ∀ place, (∀ slot, place ≠ .prepared slot identifier) → other place = files place

/-- Setting a copy. -/
lemma AgreeBeside.set {identifier : String} {other : Files} (h : AgreeBeside identifier files other)
    (slot : Slot) (node : Option Node) :
    AgreeBeside identifier files (other.set (.prepared slot identifier) node) := by
  intro place hplace
  rw [Files.set_of_ne (hplace slot), h place hplace]

/-- The operations of the copies. -/
def copyOperations (identifier : String) (tree : Tree) : List Operation :=
  [.copyRegularFile databaseName (.prepared .database identifier),
    .copyRegularFile keyName (.prepared .masterKey identifier),
    .makeDirectory (.prepared .themes identifier), .walk .themes] ++
    (themeRows tree).map fun e => .copyInto e.1 (.prepared .themes identifier)

/-- What stands at a path of a staged tree. -/
lemma Files.pendingEntry?_eq (h : files .pending = some (.directory tree)) (name : Bytes) :
    files.pendingEntry? name = tree.find? name := by
  simp [Files.pendingEntry?, Files.pendingTree, h]

/-- Copying a regular file to a place where nothing is. -/
lemma handle_copyRegularFile {name content : Bytes} {to_ : Place}
    (hfault : faults (.copyRegularFile name to_) = none)
    (hpending : files .pending = some (.directory tree)) (hname : tree.file? name = some content)
    (hto : files to_ = none) :
    handle services faults (.copyRegularFile name to_) files =
      (.ok (), files.set to_ (some (.file content))) := by
  rw [Tree.file?_eq_some_iff] at hname
  simp [handle, act, hfault, Files.pendingEntry?_eq hpending, hname, hto]

/-- Copying an entry of the themes into a directory that does not have it. -/
lemma handle_copyInto {relative : Bytes} {entry : Entry} {to_ : Place} {copied : Tree}
    (hfault : faults (.copyInto relative to_) = none)
    (hpending : files .pending = some (.directory tree))
    (hentry : tree.find? (themesPrefix ++ relative) = some entry) (hregular : entry ≠ .irregular)
    (hto : files to_ = some (.directory copied)) (hnew : copied.find? relative = none) :
    handle services faults (.copyInto relative to_) files =
      (.ok (), files.set to_ (some (.directory (copied.put relative entry)))) := by
  cases entry with
  | irregular => exact absurd rfl hregular
  | regular content =>
    simp [handle, act, hfault, Files.pendingEntry?_eq hpending, hentry, Files.addEntry, hto, hnew]
  | directory =>
    simp [handle, act, hfault, Files.pendingEntry?_eq hpending, hentry, Files.addEntry, hto, hnew]

/-- An entry with a new path is added at the end. -/
lemma Tree.rows_put_of_notMem {path : Bytes} (entry : Entry)
    (h : path ∉ tree.rows.map Prod.fst) :
    tree.find? path = none ∧ (tree.put path entry).rows = tree.rows ++ [(path, entry)] := by
  have hnone : tree.find? path = none := by
    refine Option.eq_none_iff_forall_ne_some.mpr fun e hsome => h ?_
    exact List.mem_map_of_mem (Tree.find?_eq_some_iff.mp hsome)
  refine ⟨hnone, ?_⟩
  rw [Tree.put, if_neg (by simp [hnone])]
  exact KeyedTable.rows_upsert_of_notMem h

/-- Copying entries adds them to the directory. -/
lemma safely_copyEntries (services : Services) {to_ : Place} (entries : List (Bytes × Entry))
    {copied : Tree} (hpending : files .pending = some (.directory tree)) (hne : to_ ≠ .pending)
    (hfaults : ∀ e ∈ entries, faults (.copyInto e.1 to_) = none)
    (hentries : ∀ e ∈ entries, tree.find? (themesPrefix ++ e.1) = some e.2 ∧ e.2 ≠ .irregular)
    (hnodup : ((copied.rows ++ entries).map Prod.fst).Nodup)
    (hto : files to_ = some (.directory copied)) :
    Safely (handle services faults) (fun t => ∀ place, place ≠ to_ → t place = files place)
      (fun result t => result = .ok () ∧ ∃ all : Tree, all.rows = copied.rows ++ entries ∧
        t = files.set to_ (some (.directory all)))
      (copyEntries to_ (entries.map Prod.fst)) files := by
  induction entries generalizing copied files with
  | nil =>
    refine Safely.pure (fun _ _ => rfl) ⟨rfl, copied, by simp, ?_⟩
    rw [Files.set, ← hto, Function.update_eq_self]
  | cons e rest ih =>
    have hnew : e.1 ∉ copied.rows.map Prod.fst := by
      rw [List.map_append, List.map_cons] at hnodup
      exact fun hmem => (List.nodup_append.mp hnodup).2.2 _ hmem _ List.mem_cons_self rfl
    obtain ⟨hnone, hrows⟩ := Tree.rows_put_of_notMem e.2 hnew
    obtain ⟨hentry, hregular⟩ := hentries e List.mem_cons_self
    refine Safely.perform (fun _ _ => rfl) ?_
    rw [handle_copyInto (hfaults e List.mem_cons_self) hpending hentry hregular hto hnone]
    have hpending' : files.set to_ (some (.directory (copied.put e.1 e.2))) .pending =
        some (.directory tree) := by
      rwa [Files.set_of_ne hne.symm]
    have hrest := ih hpending' (fun e' he' => hfaults e' (List.mem_cons_of_mem _ he'))
      (fun e' he' => hentries e' (List.mem_cons_of_mem _ he'))
      (by rwa [hrows, List.append_assoc, List.singleton_append]) (Files.set_self _ _ _)
    refine hrest.mono ?_ ?_
    · intro t ht place hplace
      rw [ht place hplace, Files.set_of_ne hplace]
    · rintro result t ⟨rfl, all, hall, rfl⟩
      refine ⟨rfl, all, ?_, by simp [Files.set]⟩
      rw [hall, hrows, List.append_assoc, List.singleton_append]

/-- What a walk over the themes finds. -/
lemma walkThemes_eq (h : tree.find? themesName = none ∨ tree.find? themesName = some .directory) :
    walkThemes (.directory tree) = .ok ((themeRows tree).map Prod.fst) := by
  rcases h with h | h
  · simp [walkThemes, themeRows, h]
  · simp [walkThemes, themeRows, h, themePaths_eq]

/-- The entries of the themes are found in the tree. -/
lemma themeRows_find? (hregular : ∀ e ∈ tree.rows, e.2 ≠ .irregular) {e : Bytes × Entry}
    (h : e ∈ themeRows tree) :
    tree.find? (themesPrefix ++ e.1) = some e.2 ∧ e.2 ≠ .irregular := by
  unfold themeRows at h
  split_ifs at h
  · have hmem := mem_of_mem_themeEntries h
    exact ⟨Tree.find?_eq_some_iff.mpr hmem, hregular (themesPrefix ++ e.1, e.2) hmem⟩
  · simp at h

/-- The copies when their operations work, made where nothing is. -/
lemma safely_prepare {identifier : String} {database key : Bytes}
    (hpending : files .pending = some (.directory tree))
    (hinstallable : Installable tree database key)
    (hfresh : ∀ slot, files (.prepared slot identifier) = none)
    (hfaults : ∀ op ∈ copyOperations identifier tree, faults op = none) :
    Safely (handle services faults) (AgreeBeside identifier files)
      (fun result t => result = .ok () ∧
        t (.prepared .database identifier) = some (.file database) ∧
        t (.prepared .masterKey identifier) = some (.file key) ∧
        t (.prepared .themes identifier) = some (.directory tree.themes) ∧
        AgreeBeside identifier files t)
      (prepare identifier) files := by
  have hmem : ∀ op ∈ _, faults op = none := hfaults
  simp only [copyOperations, List.cons_append, List.nil_append, List.forall_mem_cons] at hmem
  obtain ⟨hdatabase, hkey, hthemes, hwalk, hentries⟩ := hmem
  set copy₁ := files.set (.prepared .database identifier) (some (.file database)) with hcopy₁
  set copy₂ := copy₁.set (.prepared .masterKey identifier) (some (.file key)) with hcopy₂
  set copy₃ := copy₂.set (.prepared .themes identifier) (some (.directory KeyedTable.empty))
    with hcopy₃
  have hstart : AgreeBeside identifier files files := fun _ _ => rfl
  have hagree₁ : AgreeBeside identifier files copy₁ := hstart.set _ _
  have hagree₂ : AgreeBeside identifier files copy₂ := hagree₁.set _ _
  have hagree₃ : AgreeBeside identifier files copy₃ := hagree₂.set _ _
  have hpending₁ : copy₁ .pending = some (.directory tree) := by
    rw [hagree₁ _ (by simp), hpending]
  have hpending₃ : copy₃ .pending = some (.directory tree) := by
    rw [hagree₃ _ (by simp), hpending]
  -- the database
  refine Safely.perform hstart ?_
  rw [handle_copyRegularFile hdatabase hpending hinstallable.database (hfresh _), ← hcopy₁]
  -- the master key
  refine Safely.perform hagree₁ ?_
  have hnone : copy₁ (.prepared .masterKey identifier) = none := by
    rw [hcopy₁, Files.set_of_ne (by simp), hfresh]
  rw [handle_copyRegularFile hkey hpending₁ hinstallable.key hnone, ← hcopy₂]
  -- the themes
  refine Safely.bind (Safely.perform hagree₂ ?_)
  have hmade : handle services faults (.makeDirectory (.prepared .themes identifier)) copy₂ =
      (.ok (), copy₃) := by
    have hnone : copy₂ (.prepared .themes identifier) = none := by
      rw [hcopy₂, hcopy₁, Files.set_of_ne (by simp), Files.set_of_ne (by simp), hfresh]
    simp [handle, act, hthemes, hnone, hcopy₃]
  rw [hmade]
  refine Safely.perform hagree₃ ?_
  rw [handle_walk hwalk hpending₃]
  simp only [walkThemes_eq hinstallable.themes]
  have hcopied := safely_copyEntries services (themeRows tree) hpending₃ (by simp)
    (fun e he => hentries _ (List.mem_map_of_mem he))
    (fun e he => themeRows_find? hinstallable.regular he)
    (by simpa [KeyedTable.empty] using nodup_themeRows tree)
    (Files.set_self copy₂ (.prepared .themes identifier) (some (.directory KeyedTable.empty)))
  refine hcopied.mono ?_ ?_
  · intro t ht place hplace
    rw [ht place (hplace .themes), hagree₃ place hplace]
  · rintro result t ⟨rfl, all, hall, rfl⟩
    have hall : all = tree.themes := Tree.eq_of_rows (hall.trans (List.nil_append _))
    have hagree := hagree₃.set .themes (some (.directory all))
    refine Safely.pure hagree ⟨rfl, ?_, ?_, ?_, hagree⟩
    · rw [Files.set_of_ne (by simp), hcopy₃, Files.set_of_ne (by simp), hcopy₂,
        Files.set_of_ne (by simp), hcopy₁, Files.set_self]
    · rw [Files.set_of_ne (by simp), hcopy₃, Files.set_of_ne (by simp), hcopy₂, Files.set_self]
    · rw [Files.set_self, hall]

/-! ## The switch -/

/-- The operations of the switch work. -/
def SwitchWorks (names : RunNames) (faults : Faults) : Prop :=
  ∀ slot, faults (.lstat (.live slot)) = none ∧
    faults (.rename (.live slot) (.saved slot names.stamp)) = none ∧
    faults (.rename (.prepared slot names.identifier) (.live slot)) = none

/-- What holds between the steps of a switch: the way back finds what stood at the live paths, the
copies wait beside the live paths or are activated, rollback names that are not used yet are free,
and other places are as they were. -/
structure Switching (names : RunNames) (original copy : Slot → Option Node)
    (cleared moved activated : List Slot) (base files : Files) : Prop where
  undoable : Undoable names original cleared moved activated files
  copies : ∀ slot, slot ∉ activated →
    files (.prepared slot names.identifier) = copy slot
  live : ∀ slot ∈ activated, files (.live slot) = copy slot
  free : ∀ slot, slot ∉ cleared → files (.saved slot names.stamp) = none
  others : ∀ place, (∀ slot, place ≠ .live slot ∧ place ≠ .saved slot names.stamp ∧
    place ≠ .prepared slot names.identifier) → files place = base place

namespace Switching

variable {original copy : Slot → Option Node} {cleared moved activated : List Slot} {base : Files}

/-- A slot where nothing is. -/
lemma skip (h : Switching names original copy cleared moved activated base files) {slot : Slot}
    (hslot : slot ∉ cleared) (hnone : files (.live slot) = none) :
    Switching names original copy (slot :: cleared) moved activated base files where
  undoable := h.undoable.skip hslot hnone
  copies := h.copies
  live := h.live
  free := fun s hs => h.free s fun hmem => hs (List.mem_cons_of_mem _ hmem)
  others := h.others

/-- A slot that is moved aside. -/
lemma save (h : Switching names original copy cleared moved activated base files) {slot : Slot}
    (hslot : slot ∉ cleared) {node : Node} (hnode : files (.live slot) = some node) :
    Switching names original copy (slot :: cleared) (moved ++ [slot]) activated base
      ((files.set (.live slot) none).set (.saved slot names.stamp) (some node)) where
  undoable := h.undoable.save hslot hnode
  copies := by
    intro s hs
    rw [Files.set_of_ne (by simp), Files.set_of_ne (by simp)]
    exact h.copies s hs
  live := by
    intro s hs
    have hne : s ≠ slot := fun heq => hslot (heq ▸ h.undoable.activated_cleared s hs)
    rw [Files.set_of_ne (by simp), Files.set_of_ne (by simpa using hne)]
    exact h.live s hs
  free := by
    intro s hs
    rw [List.mem_cons, not_or] at hs
    rw [Files.set_of_ne (by simpa using hs.1), Files.set_of_ne (by simp)]
    exact h.free s hs.2
  others := by
    intro place hplace
    rw [Files.set_of_ne (hplace slot).2.1, Files.set_of_ne (hplace slot).1]
    exact h.others place hplace

/-- A copy that is moved to its live path. -/
lemma activate (h : Switching names original copy cleared moved activated base files)
    {slot : Slot} (hslot : slot ∈ cleared) (hnew : slot ∉ activated) {node : Node}
    (hnode : files (.prepared slot names.identifier) = some node) :
    Switching names original copy cleared moved (activated ++ [slot]) base
      ((files.set (.prepared slot names.identifier) none).set (.live slot) (some node)) where
  undoable := h.undoable.activate hslot
  copies := by
    intro s hs
    rw [List.mem_append, List.mem_singleton, not_or] at hs
    rw [Files.set_of_ne (by simp), Files.set_of_ne (by simpa using hs.2)]
    exact h.copies s hs.1
  live := by
    intro s hs
    by_cases heq : s = slot
    · rw [heq, Files.set_self, ← hnode]
      exact h.copies slot hnew
    · have hmem : s ∈ activated := by
        rcases List.mem_append.mp hs with hs | hs
        · exact hs
        · exact absurd (List.mem_singleton.mp hs) heq
      rw [Files.set_of_ne (by simpa using heq), Files.set_of_ne (by simp)]
      exact h.live s hmem
  free := by
    intro s hs
    rw [Files.set_of_ne (by simp), Files.set_of_ne (by simp)]
    exact h.free s hs
  others := by
    intro place hplace
    rw [Files.set_of_ne (hplace slot).1, Files.set_of_ne (hplace slot).2.2]
    exact h.others place hplace

/-- Something that stood at a live path is there, or under its rollback name. -/
lemma live_or_saved (h : Switching names original copy cleared moved activated base files)
    {slot : Slot} {node : Node} (hnode : original slot = some node) :
    files (.live slot) = some node ∨ files (.saved slot names.stamp) = some node := by
  by_cases hcleared : slot ∈ cleared
  · by_cases hmoved : slot ∈ moved
    · exact Or.inr ((h.undoable.kept slot hmoved).1.trans hnode)
    · rw [h.undoable.missing slot hcleared hmoved] at hnode
      simp at hnode
  · exact Or.inl ((h.undoable.untouched slot hcleared).trans hnode)

end Switching

/-- Moving a path aside when the operations work and the rollback name is free. -/
lemma safely_moveExisting_works {I : Files → Prop} {Q : Except Errno Bool → Files → Prop}
    {slot : Slot} (hworks : SwitchWorks names faults)
    (hfree : files (.saved slot names.stamp) = none) (hI : I files)
    (habsent : files (.live slot) = none → Q (.ok false) files)
    (hmoved : ∀ node, files (.live slot) = some node →
      I ((files.set (.live slot) none).set (.saved slot names.stamp) (some node)) ∧
        Q (.ok true) ((files.set (.live slot) none).set (.saved slot names.stamp) (some node))) :
    Safely (handle services faults) I Q (moveExisting (.live slot) (.saved slot names.stamp))
      files := by
  refine Safely.perform hI ?_
  cases hnode : files (.live slot) with
  | none =>
    have hstep : handle services faults (.lstat (.live slot)) files =
        (.error .notExist, files) := by
      simp [handle, act, (hworks slot).1, hnode]
    rw [hstep]
    exact Safely.pure hI (habsent hnode)
  | some node =>
    have hstep : handle services faults (.lstat (.live slot)) files = (.ok (), files) := by
      simp [handle, act, (hworks slot).1, hnode]
    rw [hstep]
    refine Safely.perform hI ?_
    rw [handle_rename_of_none services (hworks slot).2.1 hnode hfree]
    exact Safely.pure (hmoved node hnode).1 (hmoved node hnode).2

/-- The slots that the steps of a switch activate. -/
def activatedSlots (steps : List SwitchStep) : List Slot :=
  steps.filterMap fun
    | .save _ => none
    | .activate slot => some slot

/-- A switch whose operations work goes through. -/
lemma safely_switchOver (services : Services) {original copy : Slot → Option Node} {base : Files}
    {steps : List SwitchStep} {cleared moved activated : List Slot}
    (hworks : SwitchWorks names faults) (horder : Orderly steps cleared activated)
    (hcopy : ∀ slot, .activate slot ∈ steps → copy slot ≠ none)
    (h : Switching names original copy cleared moved activated base files) :
    Safely (handle services faults)
      (fun t => ∃ cleared moved activated,
        Switching names original copy cleared moved activated base t)
      (fun result t => ∃ cleared' moved', result = .ok moved' ∧
        (∀ slot, slot ∈ cleared ∨ .save slot ∈ steps → slot ∈ cleared') ∧
        Switching names original copy cleared' moved' (activated ++ activatedSlots steps) base t)
      (switchOver names steps moved activated) files := by
  induction steps generalizing cleared moved activated files with
  | nil =>
    refine Safely.pure ⟨_, _, _, h⟩ ⟨cleared, moved, rfl, by simp, ?_⟩
    simpa [activatedSlots] using h
  | cons step rest ih =>
    have hrest : ∀ slot, .activate slot ∈ rest → copy slot ≠ none :=
      fun slot hslot => hcopy slot (List.mem_cons_of_mem _ hslot)
    cases step with
    | save slot =>
      have hcleared : ∀ cleared' : List Slot,
          (∀ s, s ∈ slot :: cleared ∨ .save s ∈ rest → s ∈ cleared') →
          ∀ s, s ∈ cleared ∨ .save s ∈ SwitchStep.save slot :: rest → s ∈ cleared' := by
        intro cleared' hall s hs
        refine hall s ?_
        simp only [List.mem_cons, SwitchStep.save.injEq] at hs ⊢
        tauto
      refine Safely.bind (safely_moveExisting_works hworks (h.free slot horder.1) ⟨_, _, _, h⟩
        ?_ ?_)
      · intro hnone
        refine (ih horder.2 hrest (h.skip horder.1 hnone)).mono (fun _ ht => ht) ?_
        rintro result t ⟨cleared', moved', rfl, hall, ht⟩
        exact ⟨cleared', moved', rfl, hcleared cleared' hall, ht⟩
      · intro node hnode
        refine ⟨⟨_, _, _, h.save horder.1 hnode⟩, ?_⟩
        refine (ih horder.2 hrest (h.save horder.1 hnode)).mono (fun _ ht => ht) ?_
        rintro result t ⟨cleared', moved', rfl, hall, ht⟩
        exact ⟨cleared', moved', rfl, hcleared cleared' hall, ht⟩
    | activate slot =>
      obtain ⟨node, hnode⟩ :=
        Option.ne_none_iff_exists'.mp (hcopy slot List.mem_cons_self)
      have hprepared := (h.copies slot horder.2.1).trans hnode
      have hlive := h.undoable.vacated slot horder.1 horder.2.1
      refine Safely.perform ⟨_, _, _, h⟩ ?_
      rw [handle_rename_of_none services (hworks slot).2.2 hprepared hlive]
      refine (ih horder.2.2 hrest (h.activate horder.1 horder.2.1 hprepared)).mono
        (fun _ ht => ht) ?_
      rintro result t ⟨cleared', moved', rfl, hall, ht⟩
      refine ⟨cleared', moved', rfl, ?_, ?_⟩
      · intro s hs
        refine hall s ?_
        simpa using hs
      · rwa [List.append_assoc] at ht

/-! ## The restore -/

/-- The entries of a trimmed tree are entries of the tree. -/
lemma Tree.mem_of_mem_trim {wal shm : Bool} {e : Bytes × Entry}
    (h : e ∈ (tree.trim wal shm).rows) : e ∈ tree.rows := by
  cases wal <;> cases shm <;> simp only [Tree.trim] at h
  · exact h
  · exact List.mem_of_mem_filter h
  · exact List.mem_of_mem_filter h
  · exact List.mem_of_mem_filter (List.mem_of_mem_filter h)

/-- The entries of a tree with a path set. -/
lemma Tree.mem_of_mem_put {path : Bytes} {entry : Entry} {e : Bytes × Entry}
    (h : e ∈ (tree.put path entry).rows) : e = (path, entry) ∨ e ∈ tree.rows := by
  unfold Tree.put at h
  split_ifs at h
  · exact Or.inr h
  · exact (KeyedTable.mem_upsert.mp h).imp id And.left

/-- The themes of an acceptable tree are a directory, or missing. -/
lemma Acceptable.themes (h : Acceptable services config tree pending) :
    tree.find? themesName = none ∨ tree.find? themesName = some .directory := by
  cases hfind : tree.find? themesName with
  | none => exact Or.inl rfl
  | some entry =>
    refine Or.inr (congrArg some ?_)
    by_contra hne
    have hmem := Tree.find?_eq_some_iff.mp hfind
    have hdeclare : mustDeclare (themesName, entry) = true := by
      simp only [mustDeclare, Bool.and_eq_true, bne_iff_ne, ne_eq, hne, not_false_eq_true,
        true_and]
      decide
    obtain ⟨-, hsafe, -, hall⟩ := verifyPendingChecksums_ok h.checksums
    obtain ⟨record, hrecord, -, hpath, -⟩ := hall _ hmem hdeclare
    have hbad : safePayloadPath themesName = false := by decide
    have htrue := hsafe record hrecord
    rw [hpath, hbad] at htrue
    simp at htrue

/-- The master key file of an acceptable tree. -/
lemma Acceptable.exists_key (h : Acceptable services config tree pending) :
    ∃ key, tree.file? keyName = some key := by
  obtain ⟨contents, -, -, hcontents, -⟩ := h.database
  exact ⟨contents, hcontents⟩

/-- An acceptable tree can be installed after its checks. -/
lemma Acceptable.installable (h : Acceptable services config tree pending) {key : Bytes}
    (hkey : tree.file? keyName = some key) (wal shm : Bool) :
    Installable ((cleared services tree).trim wal shm) (flushed services tree) key where
  database := by
    rw [Tree.file?_trim (by decide) (by decide), Tree.file?_eq_some_iff]
    exact Tree.find?_put_self _ _ _
  key := by
    rw [Tree.file?_trim (by decide) (by decide), Tree.file?_eq_some_iff, cleared,
      Tree.find?_put_of_ne (by decide)]
    exact Tree.file?_eq_some_iff.mp hkey
  themes := by
    rw [Tree.find?_trim (by decide) (by decide), cleared, Tree.find?_put_of_ne (by decide)]
    exact h.themes
  regular := by
    intro e he
    rcases Tree.mem_of_mem_put (Tree.mem_of_mem_trim he) with rfl | he
    · simp
    · exact ((validatePendingTree_ok_iff.mp h.paths).1 e he).1

/-- The themes of a tree after its checks are the themes of the tree. -/
lemma themes_checked (services : Services) (tree : Tree) (wal shm : Bool) :
    ((cleared services tree).trim wal shm).themes = tree.themes := by
  rw [Tree.themes_trim, cleared, Tree.themes_put_database]

/-- The operations of the restore whose failure keeps it from being applied all work. -/
structure RestoreWorks (names : RunNames) (tree : Tree) (faults : Faults) : Prop where
  checks : ∀ op ∈ checkOperations, faults op = none
  absolute : ∀ dataDir, faults (.absolute dataDir) = none
  copies : ∀ op ∈ copyOperations names.identifier tree, faults op = none
  switch : SwitchWorks names faults

/-- The names of a restore are not used yet. -/
def RunNames.Fresh (names : RunNames) (files : Files) : Prop :=
  ∀ slot, files (.prepared slot names.identifier) = none ∧
    files (.saved slot names.stamp) = none

/-- What holds on the way of a restore: the staged tree is there, as it was or after its checks, or
the restore is over; what stood at a live path is there or under its rollback name; and other places
are as they were. -/
structure OnTheWay (services : Services) (names : RunNames) (tree : Tree) (files t : Files) :
    Prop where
  staged : t .pending = none ∨ t .pending = some (.directory tree) ∨
    ∃ wal shm, t .pending = some (.directory ((cleared services tree).trim wal shm))
  kept : ∀ slot node, files (.live slot) = some node →
    t (.live slot) = some node ∨ t (.saved slot names.stamp) = some node
  others : ∀ place, place ≠ .pending → (∀ slot, place ≠ .live slot ∧
    place ≠ .saved slot names.stamp ∧ place ≠ .prepared slot names.identifier) →
      t place = files place

/-- What stands at the live paths after a restore. -/
structure Installed (database key : Bytes) (themes : Tree) (files : Files) : Prop where
  database : files (.live .database) = some (.file database)
  wal : files (.live .wal) = none
  shm : files (.live .shm) = none
  masterKey : files (.live .masterKey) = some (.file key)
  themes : files (.live .themes) = some (.directory themes)

/-- Files that differ from files on the way at the copies. -/
lemma OnTheWay.beside {t u : Files} (h : OnTheWay services names tree files t)
    (hagree : AgreeBeside names.identifier t u) : OnTheWay services names tree files u where
  staged := by
    rw [hagree .pending (by simp)]
    exact h.staged
  kept := by
    intro slot node hnode
    rw [hagree (.live slot) (by simp), hagree (.saved slot names.stamp) (by simp)]
    exact h.kept slot node hnode
  others := by
    intro place hpending hplace
    rw [hagree place fun slot => (hplace slot).2.2]
    exact h.others place hpending hplace

/-- Files with another staged tree. -/
lemma OnTheWay.withPending {t : Files} {other : Tree} (h : OnTheWay services names tree files t)
    (hother : other = tree ∨ ∃ wal shm, other = (cleared services tree).trim wal shm) :
    OnTheWay services names tree files (t.withPending other) where
  staged := by
    rw [Files.withPending_pending]
    rcases hother with rfl | ⟨wal, shm, rfl⟩
    · exact Or.inr (Or.inl rfl)
    · exact Or.inr (Or.inr ⟨wal, shm, rfl⟩)
  kept := by
    intro slot node hnode
    rw [Files.withPending, Files.set_of_ne (by simp), Files.set_of_ne (by simp)]
    exact h.kept slot node hnode
  others := by
    intro place hpending hplace
    rw [Files.withPending, Files.set_of_ne hpending]
    exact h.others place hpending hplace

/-- Before the restore. -/
lemma OnTheWay.start (services : Services) (names : RunNames)
    (hpending : files .pending = some (.directory tree)) :
    OnTheWay services names tree files files where
  staged := Or.inr (Or.inl hpending)
  kept := fun _ _ hnode => Or.inl hnode
  others := fun _ _ _ => rfl

/-- Files during the switch. -/
lemma OnTheWay.switching {t u : Files} {copy : Slot → Option Node}
    {cleared moved activated : List Slot} (h : OnTheWay services names tree files t)
    (hswitching : Switching names (fun slot => files (.live slot)) copy cleared moved activated
      t u) :
    OnTheWay services names tree files u where
  staged := by
    rw [hswitching.others .pending (by simp)]
    exact h.staged
  kept := fun _ _ hnode => hswitching.live_or_saved hnode
  others := by
    intro place hpending hplace
    rw [hswitching.others place hplace]
    exact h.others place hpending hplace

/-- At the end of the switch, what stood at a live path is under its rollback name. -/
lemma Switching.saved {original copy : Slot → Option Node} {slots moved activated : List Slot}
    {base t : Files} (h : Switching names original copy slots moved activated base t)
    (hall : ∀ slot, slot ∈ slots) {slot : Slot} {node : Node} (hnode : original slot = some node) :
    t (.saved slot names.stamp) = some node := by
  by_cases hmoved : slot ∈ moved
  · exact (h.undoable.kept slot hmoved).1.trans hnode
  · rw [h.undoable.missing slot (hall slot) hmoved] at hnode
    simp at hnode

/-- What stands at the live paths at the end of the switch. -/
lemma Switching.installed {original copy : Slot → Option Node} {slots moved : List Slot}
    {base t : Files} {database key : Bytes} {themes : Tree}
    (h : Switching names original copy slots moved [.database, .masterKey, .themes] base t)
    (hall : ∀ slot, slot ∈ slots) (hdatabase : copy .database = some (.file database))
    (hkey : copy .masterKey = some (.file key))
    (hthemes : copy .themes = some (.directory themes)) : Installed database key themes t where
  database := (h.live .database (by simp)).trans hdatabase
  wal := h.undoable.vacated .wal (hall _) (by simp)
  shm := h.undoable.vacated .shm (hall _) (by simp)
  masterKey := (h.live .masterKey (by simp)).trans hkey
  themes := (h.live .themes (by simp)).trans hthemes

/-- What the removal of the staged tree leaves of it. -/
def removalLeaves (faults : Faults) : Option Node :=
  (faults (.removeAll .pending)).bind Failure.left

/-- How a restore ends that was applied. -/
structure Applied (services : Services) (names : RunNames) (now : Time) (pending : PendingRestore)
    (tree : Tree) (key : Bytes) (faults : Faults) (files : Files) (result : RestoreResult)
    (t : Files) : Prop where
  receipt : ∃ moved, result.1 = some (newReceipt names now pending moved)
  error : faults (.removeAll .pending) = none → result.2 = none
  installed : Installed (flushed services tree) key tree.themes t
  removed : t .pending = removalLeaves faults
  saved : ∀ slot node, files (.live slot) = some node → t (.saved slot names.stamp) = some node
  others : ∀ place, place ≠ .pending → (∀ slot, place ≠ .live slot ∧
    place ≠ .saved slot names.stamp ∧ place ≠ .prepared slot names.identifier) →
      t place = files place

/-- A restore that was applied is on the way, as long as the staged tree could be removed. -/
lemma Applied.onTheWay {key : Bytes} {result : RestoreResult} {t : Files}
    (h : Applied services names now pending tree key faults files result t)
    (hnone : faults (.removeAll .pending) = none) : OnTheWay services names tree files t where
  staged := by
    refine Or.inl ?_
    rw [h.removed, removalLeaves, hnone]
    rfl
  kept := fun slot node hnode => Or.inr (h.saved slot node hnode)
  others := h.others

/-- What is installed depends on the live paths only. -/
lemma Installed.congr {database key : Bytes} {themes : Tree} {t u : Files}
    (h : Installed database key themes t) (hlive : ∀ slot, u (.live slot) = t (.live slot)) :
    Installed database key themes u :=
  ⟨(hlive _).trans h.database, (hlive _).trans h.wal, (hlive _).trans h.shm,
    (hlive _).trans h.masterKey, (hlive _).trans h.themes⟩

/-- A restore that was applied, with other copies. -/
lemma Applied.beside {key : Bytes} {result : RestoreResult} {t u : Files}
    (h : Applied services names now pending tree key faults files result t)
    (hagree : AgreeBeside names.identifier t u) :
    Applied services names now pending tree key faults files result u where
  receipt := h.receipt
  error := h.error
  installed := h.installed.congr fun _ => hagree _ (by simp)
  removed := (hagree .pending (by simp)).trans h.removed
  saved := fun slot node hnode => (hagree _ (by simp)).trans (h.saved slot node hnode)
  others := by
    intro place hpending hplace
    rw [hagree place fun slot => (hplace slot).2.2]
    exact h.others place hpending hplace

/-- Removing the staged tree. -/
lemma handle_removeAll_pending (services : Services) (faults : Faults) (files : Files) :
    (handle services faults (.removeAll .pending) files).2 =
        files.set .pending (removalLeaves faults) ∧
      (faults (.removeAll .pending) = none →
        (handle services faults (.removeAll .pending) files).1 = .ok ()) := by
  cases hfault : faults (.removeAll .pending) <;>
    simp [handle, act, hfault, removalLeaves, Files.afterFailure]

/-- The installation of an acceptable tree whose operations work. -/
lemma safely_install (h : Acceptable services config tree pending) {key : Bytes}
    (hkey : tree.file? keyName = some key) (hworks : RestoreWorks names tree faults)
    (hfresh : names.Fresh files) {checked : Files} {wal shm : Bool}
    (hway : OnTheWay services names tree files checked)
    (hchecked : checked = files.withPending ((cleared services tree).trim wal shm)) :
    Safely (handle services faults)
      (fun t => faults (.removeAll .pending) = none → OnTheWay services names tree files t)
      (Applied services names now pending tree key faults files)
      (install names now pending) checked := by
  have hpending : checked .pending =
      some (.directory ((cleared services tree).trim wal shm)) := by
    rw [hchecked, Files.withPending_pending]
  have hplace : ∀ place, place ≠ .pending → checked place = files place := by
    intro place hne
    rw [hchecked, Files.withPending, Files.set_of_ne hne]
  have hcopies : ∀ op ∈ copyOperations names.identifier ((cleared services tree).trim wal shm),
      faults op = none := by
    have hrows : themeRows ((cleared services tree).trim wal shm) = themeRows tree :=
      congrArg KeyedTable.rows (themes_checked services tree wal shm)
    rw [copyOperations, hrows]
    exact hworks.copies
  refine Safely.bind ((safely_prepare hpending (h.installable hkey wal shm)
    (fun slot => (hplace _ (by simp)).trans (hfresh slot).1) hcopies).mono
      (fun t ht _ => hway.beside ht) ?_)
  rintro result t ⟨rfl, hdatabase, hmasterKey, hthemes, hagree⟩
  have hlive : (fun slot => t (.live slot)) = fun slot => files (.live slot) :=
    funext fun slot => (hagree _ (by simp)).trans (hplace _ (by simp))
  have hstart : Switching names (fun slot => files (.live slot))
      (fun slot => t (.prepared slot names.identifier)) [] [] [] t t :=
    { undoable := hlive ▸ Undoable.start names t
      copies := fun _ _ => rfl
      live := by simp
      free := fun slot _ => (hagree _ (by simp)).trans ((hplace _ (by simp)).trans (hfresh slot).2)
      others := fun _ _ => rfl }
  have hcopied : ∀ slot, .activate slot ∈ switchSteps →
      t (.prepared slot names.identifier) ≠ none := by
    intro slot hslot
    cases slot <;> simp_all [switchSteps]
  refine Safely.bind ((safely_switchOver services hworks.switch orderly_switchSteps hcopied
    hstart).mono ?_ ?_)
  · rintro u ⟨slots, moved, activated, hu⟩ -
    exact (hway.beside hagree).switching hu
  · rintro result u ⟨slots, moved, rfl, hall, hu⟩
    have hslots : ∀ slot, slot ∈ slots := by
      intro slot
      refine hall slot (Or.inr ?_)
      cases slot <;> simp [switchSteps]
    have hinstalled := hu.installed hslots hdatabase hmasterKey
      (hthemes.trans (by rw [themes_checked]))
    have hwayu := (hway.beside hagree).switching hu
    refine Safely.perform (fun _ => hwayu) ?_
    obtain ⟨hremoved, hanswer⟩ := handle_removeAll_pending services faults u
    have hlive : ∀ slot, u.set .pending (removalLeaves faults) (.live slot) = u (.live slot) :=
      fun slot => Files.set_of_ne (by simp)
    have hway' : faults (.removeAll .pending) = none →
        OnTheWay services names tree files (u.set .pending (removalLeaves faults)) := by
      intro hnone
      refine ⟨Or.inl ?_, fun slot node hnode => ?_, fun place hne hother => ?_⟩
      · rw [Files.set_self, removalLeaves, hnone]
        rfl
      · rw [hlive, Files.set_of_ne (by simp)]
        exact hwayu.kept slot node hnode
      · rw [Files.set_of_ne hne]
        exact hwayu.others place hne hother
    have happlied : ∀ result : RestoreResult,
        result.1 = some (newReceipt names now pending moved) →
        (faults (.removeAll .pending) = none → result.2 = none) →
        Applied services names now pending tree key faults files result
          (u.set .pending (removalLeaves faults)) := by
      intro result hreceipt herror
      exact
        { receipt := ⟨moved, hreceipt⟩
          error := herror
          installed := hinstalled.congr hlive
          removed := Files.set_self _ _ _
          saved := fun slot node hnode => by
            rw [Files.set_of_ne (by simp)]
            exact hu.saved hslots hnode
          others := fun place hne hother => by
            rw [Files.set_of_ne hne]
            exact hwayu.others place hne hother }
    rw [hremoved]
    cases hanswer' : (handle services faults (.removeAll .pending) u).1 with
    | ok _ => exact Safely.pure hway' (happlied _ rfl fun _ => rfl)
    | error errno =>
      refine Safely.pure hway' (happlied _ rfl fun hnone => ?_)
      rw [hanswer hnone] at hanswer'
      cases hanswer'

/-- Removing the copies changes nothing else. -/
lemma safely_removePrepared (services : Services) (faults : Faults) (identifier : String)
    (files : Files) :
    Safely (handle services faults) (AgreeBeside identifier files)
      (fun _ t => AgreeBeside identifier files t) (removePrepared identifier) files := by
  refine (asks_removePrepared identifier).safely (fun op t hop ht => ?_) fun _ _ => rfl
  intro place hplace
  rw [handle_of_not_touches (hop place hplace), ht place hplace]

/-- What a restore of an acceptable tree does when its operations work: it is applied, whatever
becomes of the staged tree and of the copies. -/
lemma safely_applyPendingRestore (now : Time)
    (h : Acceptable services config tree pending) {key : Bytes}
    (hpending : files .pending = some (.directory tree)) (hkey : tree.file? keyName = some key)
    (hworks : RestoreWorks names tree faults) (hfresh : names.Fresh files) :
    Safely (handle services faults)
      (fun t => faults (.removeAll .pending) = none → OnTheWay services names tree files t)
      (Applied services names now pending tree key faults files)
      (applyPendingRestore services config names now) files := by
  have hstart := OnTheWay.start services names hpending
  have hself := Files.withPending_eq_self hpending
  have hchecks : Safely (handle services faults) (OnTheWay services names tree files) _
      (checkPending services config) (files.withPending tree) :=
    safely_checkPending files h hworks.checks (hself.symm ▸ hstart)
      (fun wal shm => hstart.withPending (Or.inr ⟨wal, shm, rfl⟩))
  rw [hself] at hchecks
  refine Safely.bind (hchecks.mono (fun t ht _ => ht) ?_)
  rintro outcome t ⟨rfl, wal, shm, ht⟩
  have hway : OnTheWay services names tree files t :=
    ht ▸ hstart.withPending (Or.inr ⟨wal, shm, rfl⟩)
  have habsolute : ∀ dataDir, handle services faults (.absolute dataDir) t = (.ok (), t) := by
    intro dataDir
    simp [handle, act, hworks.absolute dataDir]
  refine Safely.perform (fun _ => hway) ?_
  rw [habsolute]
  refine Safely.perform (fun _ => hway) ?_
  rw [habsolute]
  refine Safely.bind ((safely_install h hkey hworks hfresh hway ht).mono (fun _ hu => hu) ?_)
  intro result u happlied
  refine Safely.bind ((safely_removePrepared services faults names.identifier u).mono ?_ ?_)
  · exact fun v hagree hnone => (happlied.beside hagree).onTheWay hnone
  · exact fun _ v hagree => Safely.pure (fun hnone => (happlied.beside hagree).onTheWay hnone)
      (happlied.beside hagree)

end Backup

end Hostpin
