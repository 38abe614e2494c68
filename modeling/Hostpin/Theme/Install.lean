import Hostpin.Theme.Extraction

/-!
# Installing a theme

A theme is extracted into a temporary directory, which then takes the place of the directory of the
theme; an old one is moved aside first and moved back when a later step fails.  The last step saves
the row of the theme in the database.

* `Manager.Install` of the source is `install`, made of the checks (`readArchive`), the extraction
  (`unpack`), the renames (`Site.activate`) and the row (`saveTheme`).
* Each step can fail; what undoes a step works.

An installation that fails changes no theme and no row, and one that succeeds leaves the files of
the archive and keeps the settings and the instant of the first installation.  The exception is a
row that cannot be read: it counts as absent, and then its settings are replaced by none
(`allOrNothing_iff`).
-/

namespace Hostpin

open Clock

open Backup (ZipFile Tree Errno ascii clean equalFold hexEncode trimSpace)

namespace Theme

/-! ## The site -/

/-- The names in the directory of the themes. -/
inductive Place where
  | theme (short : Bytes)
  /-- The directory that an archive is extracted to, `.install-SUFFIX`. -/
  | temporary (suffix : Bytes)
  /-- An old theme moved aside, `SHORT.backup-ID`. -/
  | backup (short identifier : Bytes)
deriving DecidableEq

/-- The name of a place. -/
def Place.name : Place → Bytes
  | .theme short => short
  | .temporary suffix => ascii ".install-" ++ suffix
  | .backup short identifier => short ++ ascii ".backup-" ++ identifier

/-- Whether a place belongs to a theme with a short name that is allowed. -/
def Place.Valid : Place → Prop
  | .theme short | .backup short _ => shortPattern short = true
  | .temporary _ => True

/-- A row of the table of themes.  The settings are the text of a JSON object. -/
structure ThemeRow where
  short : Bytes
  manifest : ThemeManifest
  settings : Bytes
  sourceURL : Bytes
  checksum : Bytes
  installedAt : ℤ
  updatedAt : ℤ
deriving DecidableEq

/-- What is installed: what stands in the directory of the themes, and the rows. -/
structure Site where
  nodes : Place → Option Backup.Node
  themes : KeyedTable ThemeRow.short

/-- A theme as the program has it. -/
structure InstalledTheme where
  manifest : ThemeManifest
  settings : Bytes
  sourceURL : Bytes
  checksum : Bytes
  installed : Time
  updated : Time
deriving DecidableEq

/-- The steps of an installation that can fail. -/
inductive Step where
  | mkdirTemp
  | extraction
  | statIndex
  | getTheme
  | statTarget
  | renameTarget
  | renameTemporary
  | saveTheme
deriving DecidableEq

/-- The random names and the clocks of an installation, and the steps that fail with the reasons. -/
structure Circumstances where
  suffix : Bytes
  identifier : Bytes
  now : Time
  later : Time
  faults : Step → Option String

/-- The settings of a theme that has none. -/
def noSettings : Bytes := ascii "\x7b\x7d"

/-! ## Operations -/

namespace Site

/-- The site with a place set. -/
def put (s : Site) (place : Place) (node : Option Backup.Node) : Site :=
  { s with nodes := Function.update s.nodes place node }

/-- Remove what stands at a place. -/
def removeAll (s : Site) (place : Place) : Site := s.put place none

/-- Whether a node can be renamed to a place where another one stands or none: a directory replaces
nothing, and nothing replaces a directory. -/
def mayReplace : Backup.Node → Option Backup.Node → Bool
  | _, none => true
  | .directory _, some _ => false
  | _, some (.directory _) => false
  | _, some _ => true

/-- Rename a place. -/
def rename (s : Site) (current to_ : Place) : Except Errno Site :=
  match s.nodes current with
  | none => .error .notExist
  | some node =>
    if mayReplace node (s.nodes to_) then .ok ((s.put current none).put to_ (some node))
    else .error (.other "file exists")

/-- Rename a place, in a step that may fail. -/
def tryRename (s : Site) (fault : Option String) (current to_ : Place) : Except Errno Site :=
  match fault with
  | some reason => .error (.other reason)
  | none => s.rename current to_

/-- Rename a place back; an error is not looked at. -/
def renameBack (s : Site) (current to_ : Place) : Site :=
  match s.rename current to_ with
  | .error _ => s
  | .ok s => s

/-- Make the temporary directory. -/
def mkdirTemp (run : Circumstances) (s : Site) : Except Errno Site :=
  match run.faults .mkdirTemp, s.nodes (.temporary run.suffix) with
  | some reason, _ => .error (.other reason)
  | none, some _ => .error (.other "file exists")
  | none, none => .ok (s.put (.temporary run.suffix) (some (.directory KeyedTable.empty)))

/-- The theme with a short name, unless the row cannot be read or there is none. -/
def getTheme (run : Circumstances) (s : Site) (short : Bytes) : Option InstalledTheme :=
  match run.faults .getTheme with
  | some _ => none
  | none => (s.themes.lookup short).map fun row =>
      { manifest := row.manifest, settings := row.settings, sourceURL := row.sourceURL,
        checksum := row.checksum, installed := ofUnixMilli row.installedAt,
        updated := ofUnixMilli row.updatedAt }

/-- Put the extracted files in the place of a theme.  The answer says whether an old theme was moved
aside. -/
def activate (run : Circumstances) (s : Site) (short : Bytes) : Except Errno Bool × Site :=
  -- an error of `Stat` counts as absence
  if (run.faults .statTarget).isNone && (s.nodes (.theme short)).isSome then
    match s.tryRename (run.faults .renameTarget) (.theme short)
        (.backup short run.identifier) with
    | .error errno => (.error errno, s)
    | .ok moved =>
      match moved.tryRename (run.faults .renameTemporary) (.temporary run.suffix)
          (.theme short) with
      | .error errno =>
        (.error errno, moved.renameBack (.backup short run.identifier) (.theme short))
      | .ok s => (.ok true, s)
  else
    match s.tryRename (run.faults .renameTemporary) (.temporary run.suffix) (.theme short) with
    | .error errno => (.error errno, s)
    | .ok s => (.ok false, s)

/-- Give the place of a theme back to the old one, if there is one. -/
def takeBack (run : Circumstances) (s : Site) (short : Bytes) (hadExisting : Bool) : Site :=
  let s := s.removeAll (.theme short)
  if hadExisting then s.renameBack (.backup short run.identifier) (.theme short) else s

/-- Save a theme.  A row that is there keeps the instant of its installation. -/
def saveTheme (s : Site) (theme : InstalledTheme) (clock : Time) : Site :=
  let installed := if isZero theme.installed then clock else theme.installed
  let row : ThemeRow :=
    { short := theme.manifest.short, manifest := theme.manifest, settings := theme.settings
      sourceURL := theme.sourceURL, checksum := theme.checksum
      installedAt := unixMilli installed, updatedAt := unixMilli clock }
  match s.themes.lookup theme.manifest.short with
  | some old => { s with themes := s.themes.upsert { row with installedAt := old.installedAt } }
  | none => { s with themes := s.themes.upsert row }

end Site

/-! ## The installation -/

/-- Check an archive before anything is written. -/
def readArchive (L : Libraries) (archive expectedChecksum : Bytes) :
    Except ThemeError (List ZipFile × ThemeManifest) :=
  if archive.length = 0 ∨ archive.length > maxArchiveBytes then .error .archiveSize
  else if expectedChecksum ≠ [] &&
      !equalFold (trimSpace expectedChecksum) (hexEncode (L.sum256 archive).toList) then
    .error .checksum
  else
    match L.unzip archive with
    | .error reason => .error (.openArchive reason)
    | .ok entries =>
      if entries.length = 0 ∨ entries.length > maxThemeFiles then .error .fileCount
      else (validateArchive L entries).map fun manifest => (entries, manifest)

/-- Extract the entries into the temporary directory.  What a failure leaves there is removed with
the directory. -/
def unpack (run : Circumstances) (entries : List ZipFile) : Except ThemeError Tree :=
  match run.faults .extraction with
  | some reason => .error (.fileSystem (.other reason))
  | none =>
    match extractAll 0 KeyedTable.empty entries with
    | .error cause => .error cause
    | .ok tree =>
      if (run.faults .statIndex).isSome || (tree.find? indexName).isNone then .error .indexMissing
      else .ok tree

/-- The theme that is saved: a theme that is read keeps its settings and the instant of its
installation. -/
def newTheme (L : Libraries) (run : Circumstances) (archive sourceURL : Bytes)
    (manifest : ThemeManifest) (existing : Option InstalledTheme) : InstalledTheme where
  manifest := manifest
  settings := (existing.map InstalledTheme.settings).getD noSettings
  sourceURL := sourceURL
  checksum := hexEncode (L.sum256 archive).toList
  installed := (existing.map InstalledTheme.installed).getD run.now
  updated := run.now

/-- Put the extracted files in the place of a theme and save it.  What was done is undone when a step
fails. -/
def Site.replace (run : Circumstances) (s : Site) (theme : InstalledTheme) :
    Except ThemeError InstalledTheme × Site :=
  let short := theme.manifest.short
  match s.activate run short with
  | (.error errno, left) => (.error (.fileSystem errno), left.removeAll (.temporary run.suffix))
  | (.ok hadExisting, active) =>
    match run.faults .saveTheme with
    | some reason => (.error (.saveTheme (ascii reason)), active.takeBack run short hadExisting)
    | none =>
      let saved := active.saveTheme theme run.later
      (.ok theme, if hadExisting then saved.removeAll (.backup short run.identifier) else saved)

/-- Install a theme. -/
def install (L : Libraries) (run : Circumstances) (s : Site)
    (archive expectedChecksum sourceURL : Bytes) : Except ThemeError InstalledTheme × Site :=
  match readArchive L archive expectedChecksum with
  | .error cause => (.error cause, s)
  | .ok (entries, manifest) =>
    match s.mkdirTemp run with
    | .error errno => (.error (.fileSystem errno), s)
    | .ok made =>
      match unpack run entries with
      | .error cause => (.error cause, made.removeAll (.temporary run.suffix))
      | .ok tree =>
        let extracted := made.put (.temporary run.suffix) (some (.directory tree))
        let existing := extracted.getTheme run manifest.short
        extracted.replace run (newTheme L run archive sourceURL manifest existing)

/-! ## Names of places -/

section Names

/-- A short name has no dot. -/
lemma ne_dot_of_shortPattern {short : Bytes} (h : shortPattern short = true) :
    ∀ byte ∈ short, (byte != 46) = true := by
  simp only [shortPattern, Bool.and_eq_true, List.all_eq_true] at h
  intro byte mem
  have hbyte := h.2 byte mem
  rw [bne_iff_ne]
  rintro rfl
  exact absurd hbyte (by decide)

/-- What stands in a name before the first dot, and the rest. -/
lemma Place.span_name {place : Place} (h : place.Valid) :
    (place.name.takeWhile (· != 46), place.name.dropWhile (· != 46)) =
      match place with
      | .theme short => (short, [])
      | .temporary suffix => ([], ascii ".install-" ++ suffix)
      | .backup short identifier => (short, ascii ".backup-" ++ identifier) := by
  cases place with
  | theme short =>
    have hdot := ne_dot_of_shortPattern h
    exact Prod.ext (List.takeWhile_eq_self_iff.mpr hdot) (List.dropWhile_eq_nil_iff.mpr hdot)
  | temporary suffix => rfl
  | backup short identifier =>
    have hdot := ne_dot_of_shortPattern h
    rw [Place.name, List.append_assoc, List.takeWhile_append_of_pos hdot,
      List.dropWhile_append_of_pos hdot]
    exact Prod.ext (List.append_nil short) rfl

/-- Different places have different names. -/
lemma Place.name_inj {place other : Place} (h : place.Valid) (hother : other.Valid)
    (heq : place.name = other.name) : place = other := by
  have hspan := span_name h
  rw [heq, span_name hother] at hspan
  cases place <;> cases other <;> simp_all [ascii]

/-- The places of a theme that is installed. -/
lemma valid_of_readArchive {L : Libraries} {archive expectedChecksum identifier : Bytes}
    {entries : List ZipFile} {manifest : ThemeManifest}
    (h : readArchive L archive expectedChecksum = .ok (entries, manifest)) :
    (Place.theme manifest.short).Valid ∧ (Place.backup manifest.short identifier).Valid := by
  suffices hshort : shortPattern manifest.short = true from ⟨hshort, hshort⟩
  unfold readArchive at h
  split_ifs at h
  cases hunzip : L.unzip archive with
  | error reason => simp [hunzip] at h
  | ok files =>
    simp only [hunzip] at h
    split_ifs at h
    cases hvalid : validateArchive L files with
    | error cause => simp [hvalid, Except.map] at h
    | ok found =>
      rw [hvalid] at h
      obtain ⟨-, rfl⟩ := Prod.mk.inj (Except.ok.inj h)
      exact shortPattern_of_validateArchive hvalid

end Names

/-! ## What the operations do -/

namespace Site

section Operations

variable {run : Circumstances} {s moved : Site} {current to_ : Place} {node : Option Backup.Node}
  {short : Bytes}

@[simp] lemma nodes_put_self (s : Site) (place : Place) (node : Option Backup.Node) :
    (s.put place node).nodes place = node :=
  Function.update_self ..

@[simp] lemma nodes_put_of_ne {place other : Place} (h : other ≠ place) (s : Site)
    (node : Option Backup.Node) : (s.put place node).nodes other = s.nodes other :=
  Function.update_of_ne h ..

@[simp] lemma themes_put (s : Site) (place : Place) (node : Option Backup.Node) :
    (s.put place node).themes = s.themes := rfl

/-- A rename works when there is something to rename and nothing in its way. -/
lemma rename_ok_iff : s.rename current to_ = .ok moved ↔
    ∃ node, s.nodes current = some node ∧ mayReplace node (s.nodes to_) = true ∧
      moved = (s.put current none).put to_ (some node) := by
  unfold rename
  cases s.nodes current with
  | none => simp
  | some node => by_cases h : mayReplace node (s.nodes to_) = true <;> simp [h, @eq_comm _ moved]

/-- A step that renames works when it does not fail and the rename works. -/
lemma tryRename_ok_iff {fault : Option String} : s.tryRename fault current to_ = .ok moved ↔
    fault = none ∧ s.rename current to_ = .ok moved := by
  cases fault <;> simp [tryRename]

/-- A directory is renamed only to where nothing stands. -/
lemma mayReplace_directory {tree : Tree} : mayReplace (.directory tree) node = true ↔
    node = none := by
  cases node <;> simp [mayReplace]

/-- What was moved aside is moved back to the place, where nothing stands. -/
lemma nodes_renameBack (h : s.nodes to_ = none) {old : Backup.Node}
    (hold : s.nodes current = some old) :
    s.renameBack current to_ = (s.put current none).put to_ (some old) := by
  unfold renameBack
  rw [rename_ok_iff.mpr ⟨old, hold, by rw [h]; cases old <;> rfl, rfl⟩]

end Operations

/-! ## The switch -/

/-- Nothing keeps the extracted files from taking the place of a theme. -/
def Movable (run : Circumstances) (s : Site) (short : Bytes) : Prop :=
  run.faults .renameTemporary = none ∧ (s.nodes (.theme short) = none ∨
    run.faults .statTarget = none ∧ run.faults .renameTarget = none ∧
      ∀ old, s.nodes (.theme short) = some old →
        mayReplace old (s.nodes (.backup short run.identifier)) = true)

/-- The files in a tree have taken the place of a theme, and an old theme was moved aside. -/
structure Activated (run : Circumstances) (s : Site) (short : Bytes) (tree : Tree)
    (hadExisting : Bool) (left : Site) : Prop where
  themes_eq : left.themes = s.themes
  target : left.nodes (.theme short) = some (.directory tree)
  others : ∀ other ≠ short, left.nodes (.theme other) = s.nodes (.theme other)
  absent : hadExisting = false → s.nodes (.theme short) = none
  aside : hadExisting = true → ∃ old, s.nodes (.theme short) = some old ∧
    left.nodes (.backup short run.identifier) = some old

/-- Two sites differ at most in the temporary directory. -/
structure Beside (run : Circumstances) (s t : Site) : Prop where
  themes_eq : s.themes = t.themes
  nodes_eq : ∀ place ≠ .temporary run.suffix, s.nodes place = t.nodes place

/-- No theme and no row is changed. -/
structure Unchanged (s left : Site) : Prop where
  themes_eq : left.themes = s.themes
  nodes_eq : ∀ short, left.nodes (.theme short) = s.nodes (.theme short)

section Beside

variable {run : Circumstances} {s t left : Site} {short : Bytes}

/-- A site with another temporary directory. -/
lemma beside_put (s : Site) (run : Circumstances) (node : Option Backup.Node) :
    (s.put (.temporary run.suffix) node).Beside run s :=
  ⟨rfl, fun _ hne => nodes_put_of_ne hne s node⟩

/-- Changing the temporary directory once more. -/
lemma Beside.put (h : s.Beside run t) (node : Option Backup.Node) :
    (s.put (.temporary run.suffix) node).Beside run t :=
  ⟨h.themes_eq, fun place hne => (nodes_put_of_ne hne s node).trans (h.nodes_eq place hne)⟩

/-- Reading a row does not depend on the temporary directory. -/
lemma Beside.getTheme_eq (h : s.Beside run t) : s.getTheme run short = t.getTheme run short := by
  simp only [getTheme, h.themes_eq]

/-- The temporary directory is in nobody's way. -/
lemma Beside.movable_iff (h : s.Beside run t) : s.Movable run short ↔ t.Movable run short := by
  simp only [Movable, h.nodes_eq (.theme short) (by simp),
    h.nodes_eq (.backup short run.identifier) (by simp)]

/-- What leaves the themes and the rows of one site leaves those of the other. -/
lemma Beside.unchanged (h : s.Beside run t) (hleft : s.Unchanged left) : t.Unchanged left :=
  ⟨hleft.themes_eq.trans h.themes_eq,
    fun short => (hleft.nodes_eq short).trans (h.nodes_eq _ (by simp))⟩

end Beside

section Switch

variable {run : Circumstances} {s : Site} {short : Bytes} {tree : Tree}

/-- The temporary directory takes the place of a theme where nothing stands. -/
lemma activate_of_none (htemporary : s.nodes (.temporary run.suffix) = some (.directory tree))
    (hnone : s.nodes (.theme short) = none) :
    s.tryRename none (.temporary run.suffix) (.theme short) =
      .ok ((s.put (.temporary run.suffix) none).put (.theme short) (some (.directory tree))) :=
  rename_ok_iff.mpr ⟨_, htemporary, mayReplace_directory.mpr hnone, rfl⟩

/-- The switch works exactly when nothing is in its way, and otherwise it changes nothing. -/
lemma activate_cases (htemporary : s.nodes (.temporary run.suffix) = some (.directory tree)) :
    (s.Movable run short ∧ ∃ hadExisting left, s.activate run short = (.ok hadExisting, left) ∧
      s.Activated run short tree hadExisting left) ∨
    ¬ s.Movable run short ∧ ∃ errno left, s.activate run short = (.error errno, left) ∧
      s.Unchanged left := by
  unfold activate
  by_cases hstat : ((run.faults .statTarget).isNone && (s.nodes (.theme short)).isSome) = true
  · rw [if_pos hstat]
    simp only [Bool.and_eq_true, Option.isNone_iff_eq_none] at hstat
    obtain ⟨hnoFault, hsome⟩ := hstat
    obtain ⟨old, hold⟩ := Option.isSome_iff_exists.mp hsome
    cases hmoved : s.tryRename (run.faults .renameTarget) (.theme short)
        (.backup short run.identifier) with
    | error errno =>
      refine Or.inr ⟨?_, errno, s, rfl, rfl, fun _ => rfl⟩
      rintro ⟨-, hnone | ⟨-, htarget, hmay⟩⟩
      · simp [hnone] at hold
      · rw [tryRename_ok_iff.mpr ⟨htarget, rename_ok_iff.mpr ⟨old, hold, hmay old hold, rfl⟩⟩]
          at hmoved
        cases hmoved
    | ok moved =>
      obtain ⟨htarget, hrename⟩ := tryRename_ok_iff.mp hmoved
      obtain ⟨node, hnode, hmay, rfl⟩ := rename_ok_iff.mp hrename
      obtain rfl := Option.some.inj (hold.symm.trans hnode)
      -- the old theme stands aside now
      generalize hmovedSite : (s.put (.theme short) none).put
        (.backup short run.identifier) (some old) = moved
      have hnone : moved.nodes (.theme short) = none := by simp [← hmovedSite]
      have haside : moved.nodes (.backup short run.identifier) = some old := by
        simp [← hmovedSite]
      have hdirectory : moved.nodes (.temporary run.suffix) = some (.directory tree) := by
        simp [← hmovedSite, htemporary]
      have hothers : ∀ other ≠ short, moved.nodes (.theme other) = s.nodes (.theme other) := by
        intro other hne
        simp [← hmovedSite, hne]
      have hthemes : moved.themes = s.themes := by rw [← hmovedSite]; rfl
      dsimp only
      cases hfault : run.faults .renameTemporary with
      | none =>
        rw [activate_of_none hdirectory hnone]
        refine Or.inl ⟨⟨hfault, Or.inr ⟨hnoFault, htarget, ?_⟩⟩, true, _, rfl, ?_⟩
        · intro other hother
          rwa [Option.some.inj (hother.symm.trans hold)]
        · refine ⟨hthemes, by simp, fun other hne => ?_, by simp, fun _ => ⟨old, hold, ?_⟩⟩
          · simp [hne, hothers other hne]
          · simp [haside]
      | some reason =>
        refine Or.inr ⟨fun h => by simp [h.1] at hfault, .other reason, _, rfl, ?_⟩
        rw [nodes_renameBack hnone haside]
        refine ⟨hthemes, fun other => ?_⟩
        by_cases hne : other = short
        · simp [hne, hold]
        · simp [hne, hothers other hne]
  · rw [if_neg hstat]
    have habsent : run.faults .statTarget = none → s.nodes (.theme short) = none := by
      intro hnoFault
      simpa [hnoFault] using hstat
    cases hmoved : s.tryRename (run.faults .renameTemporary) (.temporary run.suffix)
        (.theme short) with
    | error errno =>
      refine Or.inr ⟨?_, errno, s, rfl, rfl, fun _ => rfl⟩
      rintro ⟨hfault, hplace⟩
      have hnone : s.nodes (.theme short) = none := hplace.elim id fun h => habsent h.1
      rw [hfault, activate_of_none htemporary hnone] at hmoved
      cases hmoved
    | ok left =>
      obtain ⟨hfault, hrename⟩ := tryRename_ok_iff.mp hmoved
      obtain ⟨node, hnode, hmay, rfl⟩ := rename_ok_iff.mp hrename
      obtain rfl := Option.some.inj (htemporary.symm.trans hnode)
      have hnone := mayReplace_directory.mp hmay
      refine Or.inl ⟨⟨hfault, Or.inl hnone⟩, false, _, rfl, rfl, by simp, ?_, fun _ => hnone,
        by simp⟩
      intro other hne
      simp [hne]

/-- What is taken back leaves no theme changed. -/
lemma Activated.takeBack {hadExisting : Bool} {left : Site}
    (h : s.Activated run short tree hadExisting left) :
    s.Unchanged (left.takeBack run short hadExisting) := by
  unfold Site.takeBack
  have hnone : (left.removeAll (.theme short)).nodes (.theme short) = none := by simp [removeAll]
  cases hadExisting with
  | false =>
    refine ⟨h.themes_eq, fun other => ?_⟩
    by_cases hne : other = short
    · simp [hne, hnone, h.absent rfl]
    · simp [removeAll, hne, h.others other hne]
  | true =>
    obtain ⟨old, hold, haside⟩ := h.aside rfl
    have hback : (left.removeAll (.theme short)).nodes (.backup short run.identifier) =
        some old := by
      simp [removeAll, haside]
    rw [if_pos rfl, nodes_renameBack hnone hback]
    refine ⟨h.themes_eq, fun other => ?_⟩
    by_cases hne : other = short
    · simp [hne, hold]
    · simp [removeAll, hne, h.others other hne]

end Switch

/-! ## The row -/

section Row

variable {run : Circumstances} {s : Site} {theme : InstalledTheme} {clock : Time}

/-- Saving a theme changes no file. -/
@[simp] lemma nodes_saveTheme (s : Site) (theme : InstalledTheme) (clock : Time) :
    (s.saveTheme theme clock).nodes = s.nodes := by
  unfold saveTheme
  cases s.themes.lookup theme.manifest.short <;> rfl

/-- The rows after a theme was saved depend only on the rows before. -/
lemma themes_saveTheme_congr {t : Site} (h : s.themes = t.themes) :
    (s.saveTheme theme clock).themes = (t.saveTheme theme clock).themes := by
  unfold saveTheme
  rw [h]
  cases t.themes.lookup theme.manifest.short <;> rfl

/-- The saved row has the settings of the theme, and the instant of the installation of the old
row. -/
lemma exists_row_saveTheme (s : Site) (theme : InstalledTheme) (clock : Time) :
    ∃ row ∈ (s.saveTheme theme clock).themes, row.short = theme.manifest.short ∧
      row.settings = theme.settings ∧
      ∀ old ∈ s.themes, old.short = theme.manifest.short → row.installedAt = old.installedAt := by
  unfold saveTheme
  cases hlookup : s.themes.lookup theme.manifest.short with
  | none =>
    refine ⟨_, KeyedTable.mem_upsert.mpr (Or.inl rfl), rfl, rfl, fun old mem hshort => ?_⟩
    exact absurd hshort (KeyedTable.lookup_eq_none_iff.mp hlookup old mem)
  | some found =>
    refine ⟨_, KeyedTable.mem_upsert.mpr (Or.inl rfl), rfl, rfl, fun old mem hshort => ?_⟩
    rw [KeyedTable.lookup_eq_some_iff.mpr ⟨mem, hshort⟩] at hlookup
    rw [Option.some.inj hlookup]

/-- A row that can be read gives its settings to the new theme. -/
lemma settings_newTheme {L : Libraries} {archive sourceURL : Bytes} {manifest : ThemeManifest}
    {old : ThemeRow} (hfault : run.faults .getTheme = none) (mem : old ∈ s.themes)
    (hshort : old.short = manifest.short) :
    (newTheme L run archive sourceURL manifest (s.getTheme run manifest.short)).settings =
      old.settings := by
  have hlookup := KeyedTable.lookup_eq_some_iff.mpr ⟨mem, hshort⟩
  simp [newTheme, getTheme, hfault, hlookup]

/-- When the row cannot be read the new theme has no settings. -/
lemma settings_newTheme_of_fault {L : Libraries} {archive sourceURL : Bytes}
    {manifest : ThemeManifest} (hfault : run.faults .getTheme ≠ none) :
    (newTheme L run archive sourceURL manifest (s.getTheme run manifest.short)).settings =
      noSettings := by
  obtain ⟨reason, hreason⟩ := Option.ne_none_iff_exists'.mp hfault
  simp [newTheme, getTheme, hreason]

/-- The theme is replaced and saved when nothing is in the way and the row can be saved; otherwise
nothing is changed. -/
lemma replace_cases {tree : Tree}
    (htemporary : s.nodes (.temporary run.suffix) = some (.directory tree)) :
    ((s.Movable run theme.manifest.short ∧ run.faults .saveTheme = none) ∧
      ∃ left, s.replace run theme = (.ok theme, left) ∧
        left.nodes (.theme theme.manifest.short) = some (.directory tree) ∧
        left.themes = (s.saveTheme theme run.later).themes) ∨
    ¬ (s.Movable run theme.manifest.short ∧ run.faults .saveTheme = none) ∧
      ∃ cause left, s.replace run theme = (.error cause, left) ∧ s.Unchanged left := by
  unfold replace
  rcases @activate_cases run s theme.manifest.short tree htemporary with
    ⟨hmovable, hadExisting, active, hactivate, activated⟩ | ⟨hnot, errno, left, hactivate, hleft⟩
  · simp only [hactivate]
    cases hsave : run.faults .saveTheme with
    | none =>
      refine Or.inl ⟨⟨hmovable, rfl⟩, _, rfl, ?_, ?_⟩
      · cases hadExisting <;> simp [removeAll, activated.target]
      · rw [← themes_saveTheme_congr activated.themes_eq]
        cases hadExisting <;> rfl
    | some reason => exact Or.inr ⟨by simp, _, _, rfl, activated.takeBack⟩
  · simp only [hactivate]
    refine Or.inr ⟨fun h => hnot h.1, _, _, rfl, hleft.themes_eq, fun short => ?_⟩
    simp [removeAll, hleft.nodes_eq]

end Row

end Site

/-! ## All or nothing -/

/-- Every step of an installation works. -/
structure Installable (L : Libraries) (run : Circumstances) (s : Site)
    (archive expectedChecksum : Bytes) (entries : List ZipFile) (manifest : ThemeManifest)
    (tree : Tree) : Prop where
  read : readArchive L archive expectedChecksum = .ok (entries, manifest)
  temporary : run.faults .mkdirTemp = none ∧ s.nodes (.temporary run.suffix) = none
  unpack : unpack run entries = .ok tree
  movable : s.Movable run manifest.short
  saves : run.faults .saveTheme = none

/-- The outcome of an installation: an error leaves the themes and the rows as they were, and
otherwise the directory of the theme holds the files of the archive, and a row that was there keeps
its settings and the instant of its installation. -/
def AllOrNothing (L : Libraries) (s : Site) (archive expectedChecksum : Bytes) :
    Except ThemeError InstalledTheme × Site → Prop
  | (.error _, left) => s.Unchanged left
  | (.ok theme, left) => ∃ entries manifest,
      readArchive L archive expectedChecksum = .ok (entries, manifest) ∧
      theme.manifest = manifest ∧
      (∃ tree, left.nodes (.theme manifest.short) = some (.directory tree) ∧ Holds entries tree) ∧
      ∀ old ∈ s.themes, old.short = manifest.short → ∃ row ∈ left.themes,
        row.short = manifest.short ∧ row.settings = old.settings ∧
        row.installedAt = old.installedAt

/-- The row of a theme with settings cannot be read, and every other step works. -/
def LosesSettings (L : Libraries) (run : Circumstances) (s : Site)
    (archive expectedChecksum : Bytes) : Prop :=
  run.faults .getTheme ≠ none ∧ ∃ entries manifest tree,
    Installable L run s archive expectedChecksum entries manifest tree ∧
    ∃ old ∈ s.themes, old.short = manifest.short ∧ old.settings ≠ noSettings

open Site (settings_newTheme settings_newTheme_of_fault themes_saveTheme_congr)

section Install

variable {L : Libraries} {run : Circumstances} {s : Site}
  {archive expectedChecksum sourceURL : Bytes} {entries : List ZipFile} {manifest : ThemeManifest}
  {tree : Tree}

/-- The temporary directory is made when it is not there and the step does not fail. -/
lemma mkdirTemp_ok_iff {made : Site} : s.mkdirTemp run = .ok made ↔
    (run.faults .mkdirTemp = none ∧ s.nodes (.temporary run.suffix) = none) ∧
      made = s.put (.temporary run.suffix) (some (.directory KeyedTable.empty)) := by
  unfold Site.mkdirTemp
  cases run.faults .mkdirTemp <;> cases s.nodes (.temporary run.suffix) <;>
    simp [@eq_comm _ made]

/-- Extracted files are those of the archive. -/
lemma holds_of_unpack (h : unpack run entries = .ok tree) : Holds entries tree := by
  unfold unpack at h
  cases hfault : run.faults .extraction with
  | some reason => simp [hfault] at h
  | none =>
    simp only [hfault] at h
    cases hextract : extractAll 0 KeyedTable.empty entries with
    | error cause => simp [hextract] at h
    | ok extracted =>
      simp only [hextract] at h
      split_ifs at h
      obtain rfl := Except.ok.inj h
      exact holds_of_extractAll hextract

/-- An installation whose steps all work puts the extracted files in the place of the theme and
saves the theme; otherwise it changes nothing. -/
lemma install_cases (L : Libraries) (run : Circumstances) (s : Site)
    (archive expectedChecksum sourceURL : Bytes) :
    (∃ entries manifest tree,
      Installable L run s archive expectedChecksum entries manifest tree ∧
      ∃ left, install L run s archive expectedChecksum sourceURL =
          (.ok (newTheme L run archive sourceURL manifest (s.getTheme run manifest.short)), left) ∧
        left.nodes (.theme manifest.short) = some (.directory tree) ∧
        left.themes = (s.saveTheme (newTheme L run archive sourceURL manifest
          (s.getTheme run manifest.short)) run.later).themes) ∨
    (∀ entries manifest tree,
      ¬ Installable L run s archive expectedChecksum entries manifest tree) ∧
      ∃ cause left, install L run s archive expectedChecksum sourceURL = (.error cause, left) ∧
        s.Unchanged left := by
  unfold install
  cases hread : readArchive L archive expectedChecksum with
  | error cause =>
    refine Or.inr ⟨fun _ _ _ h => ?_, cause, s, rfl, rfl, fun _ => rfl⟩
    cases hread.symm.trans h.read
  | ok result =>
    obtain ⟨entries, manifest⟩ := result
    have same : ∀ {entries' manifest' tree'}, Installable L run s archive expectedChecksum
        entries' manifest' tree' → entries' = entries ∧ manifest' = manifest := fun h =>
      Prod.mk.inj (Except.ok.inj (h.read.symm.trans hread))
    dsimp only
    cases hmade : s.mkdirTemp run with
    | error errno =>
      refine Or.inr ⟨fun _ _ _ h => ?_, _, s, rfl, rfl, fun _ => rfl⟩
      cases hmade.symm.trans (mkdirTemp_ok_iff.mpr ⟨h.temporary, rfl⟩)
    | ok made =>
      obtain ⟨htemporary, rfl⟩ := mkdirTemp_ok_iff.mp hmade
      dsimp only
      cases hunpack : unpack run entries with
      | error cause =>
        refine Or.inr ⟨fun _ _ _ h => ?_, cause, _, rfl, rfl, fun _ => by simp [Site.removeAll]⟩
        obtain ⟨rfl, -⟩ := same h
        cases hunpack.symm.trans h.unpack
      | ok tree =>
        dsimp only
        generalize hmade : (s.put (.temporary run.suffix)
          (some (.directory KeyedTable.empty))).put (.temporary run.suffix)
            (some (.directory tree)) = extracted
        have beside : extracted.Beside run s := hmade ▸ (s.beside_put run _).put _
        have hdirectory : extracted.nodes (.temporary run.suffix) = some (.directory tree) := by
          simp [← hmade]
        rw [beside.getTheme_eq]
        rcases Site.replace_cases hdirectory with
          ⟨⟨hmovable, hsave⟩, left, hreplace, hnode, hthemes⟩ | ⟨hnot, cause, left, hreplace, hleft⟩
        · refine Or.inl ⟨entries, manifest, tree,
            ⟨hread, htemporary, hunpack, beside.movable_iff.mp hmovable, hsave⟩, left, hreplace,
            hnode, ?_⟩
          rw [hthemes, themes_saveTheme_congr beside.themes_eq]
        · refine Or.inr ⟨fun _ _ _ h => ?_, cause, left, hreplace, beside.unchanged hleft⟩
          obtain ⟨-, rfl⟩ := same h
          exact hnot ⟨beside.movable_iff.mpr h.movable, h.saves⟩

/-- An installation is all or nothing exactly when it does not lose settings. -/
theorem allOrNothing_iff (L : Libraries) (run : Circumstances) (s : Site)
    (archive expectedChecksum sourceURL : Bytes) :
    AllOrNothing L s archive expectedChecksum
        (install L run s archive expectedChecksum sourceURL) ↔
      ¬ LosesSettings L run s archive expectedChecksum := by
  rcases install_cases L run s archive expectedChecksum sourceURL with
    ⟨entries, manifest, tree, works, left, hinstall, hnode, hthemes⟩ |
    ⟨hnot, cause, left, hinstall, unchanged⟩
  · rw [hinstall]
    obtain ⟨row, hrow, hshort, hsettings, hinstalled⟩ := s.exists_row_saveTheme
      (newTheme L run archive sourceURL manifest (s.getTheme run manifest.short)) run.later
    rw [← hthemes] at hrow
    have same : ∀ {entries' manifest'},
        readArchive L archive expectedChecksum = .ok (entries', manifest') →
        entries' = entries ∧ manifest' = manifest := fun h =>
      Prod.mk.inj (Except.ok.inj (h.symm.trans works.read))
    constructor
    · rintro ⟨entries', manifest', hread, -, -, hkept⟩
        ⟨hfault, _, _, _, works', old, hold, heq, hne⟩
      obtain ⟨rfl, rfl⟩ := same hread
      obtain ⟨rfl, rfl⟩ := same works'.read
      obtain ⟨kept, hkeptMem, hkeptShort, hkeptSettings, -⟩ := hkept old hold heq
      obtain rfl := KeyedTable.eq_of_key_eq hkeptMem hrow (hkeptShort.trans hshort.symm)
      rw [settings_newTheme_of_fault hfault] at hsettings
      exact hne (hkeptSettings.symm.trans hsettings)
    · intro keeps
      refine ⟨entries, manifest, works.read, rfl, ⟨tree, hnode, holds_of_unpack works.unpack⟩, ?_⟩
      intro old hold heq
      refine ⟨row, hrow, hshort, hsettings.trans ?_, hinstalled old hold heq⟩
      by_cases hfault : run.faults .getTheme = none
      · exact settings_newTheme hfault hold heq
      · rw [settings_newTheme_of_fault hfault]
        by_contra hne
        exact keeps ⟨hfault, entries, manifest, tree, works, old, hold, heq, Ne.symm hne⟩
  · rw [hinstall]
    refine iff_of_true unchanged ?_
    rintro ⟨-, entries, manifest, tree, works, -⟩
    exact hnot entries manifest tree works

end Install

/-! ## An example -/

/-- A site with a theme that has settings. -/
def exampleSite : Site where
  nodes place :=
    if place = .theme (ascii "demo") then
      some (.directory ⟨[(ascii "old.html", .regular (ascii "<body>"))], List.nodup_singleton _⟩)
    else none
  themes := ⟨[{ short := ascii "demo", manifest := exampleManifest
                settings := ascii "\x7b\"color\":\"red\"\x7d", sourceURL := [], checksum := []
                installedAt := 1700000000000, updatedAt := 1700000000000 }],
    List.nodup_singleton _⟩

/-- An installation during which the row cannot be read. -/
def exampleRun : Circumstances where
  suffix := ascii "1"
  identifier := ascii "6ba7b810"
  now := unixEpoch
  later := unixEpoch
  faults step := if step = .getTheme then some "database is locked" else none

/-- Installing a theme again while its row cannot be read replaces its settings. -/
theorem not_allOrNothing_unreadableRow :
    ¬ AllOrNothing exampleLibraries exampleSite (ascii "PK") []
      (install exampleLibraries exampleRun exampleSite (ascii "PK") [] []) := by
  have hmanifest : (readArchive exampleLibraries (ascii "PK") []).map (fun read => read.2.short) =
      .ok (ascii "demo") := by
    decide +kernel
  generalize hinstall : install exampleLibraries exampleRun exampleSite (ascii "PK") [] [] = result
  have hok : result.1.isOk = true := by
    rw [← hinstall]
    decide +kernel
  have hrows : result.2.themes.rows.map ThemeRow.settings = [noSettings] := by
    rw [← hinstall]
    decide +kernel
  obtain ⟨outcome, left⟩ := result
  cases outcome with
  | error cause => cases hok
  | ok theme =>
    rintro ⟨entries, manifest, hread, -, -, hkept⟩
    rw [hread] at hmanifest
    obtain ⟨row, hrow, -, hsettings, -⟩ := hkept _ (List.mem_singleton.mpr rfl)
      (Except.ok.inj hmanifest).symm
    have hmem : row.settings ∈ left.themes.rows.map ThemeRow.settings := List.mem_map_of_mem hrow
    rw [hrows, List.mem_singleton, hsettings] at hmem
    exact absurd hmem (by decide)

end Theme

end Hostpin
