import Hostpin.Backup.Archive
import Hostpin.Backup.Integrity
import Hostpin.Backup.RoundTrip

/-!
# Which backups can be restored

Export and import have limits of their own.  A backup that was exported is staged and passes the
checks of a staged tree exactly when it keeps the limits that only the reading side has
(`restorable_iff`): they concern the number of the entries, the ratio of their sizes, the length of
the manifest and of the description, the names that a JSON text can hold, and the total size.

* `exportBackup_ok` says what a backup consists of.
* `extract_stored` says that an archive within the limits is extracted, and `stored_of_extract` that
  no other is.
-/

namespace Hostpin

open Clock

namespace Backup

variable {P : Primitives} {A : Archiver} {manager : Manager} {services : Services}
  {rows : List (Bytes × Entry)} {sources : List ArchiveSource}

/-! ## What is exported -/

/-- The file of a backup for an entry of the themes. -/
def themeSource? (e : Bytes × Entry) : Option ArchiveSource :=
  match e.2 with
  | .regular contents => some ⟨themesPrefix ++ e.1, contents⟩
  | _ => none

/-- The files of the themes. -/
def themeFiles : Option Node → List ArchiveSource
  | some (.directory tree) => tree.rows.filterMap themeSource?
  | _ => []

/-- What a walk over the themes that goes through says. -/
lemma collectEntries_ok {themesRoot : Bytes} {acc : List ArchiveSource}
    (h : collectEntries themesRoot acc rows = .ok sources) (hacc : acc.length ≤ maxArchiveFiles) :
    sources = acc ++ rows.filterMap themeSource? ∧ sources.length ≤ maxArchiveFiles ∧
      ∀ source ∈ rows.filterMap themeSource?, safeArchivePath source.name = true := by
  induction rows generalizing acc with
  | nil =>
    simp only [collectEntries, Except.ok.injEq] at h
    subst h
    exact ⟨by simp, hacc, by simp⟩
  | cons e rest ih =>
    obtain ⟨relative, entry⟩ := e
    cases entry with
    | irregular => simp [collectEntries] at h
    | directory =>
      rw [List.filterMap_cons_none rfl]
      exact ih h hacc
    | regular contents =>
      simp only [collectEntries] at h
      split_ifs at h with hbad hmany
      have hnone : themeSource? (relative, .regular contents) =
          some ⟨themesPrefix ++ relative, contents⟩ := rfl
      obtain ⟨hsources, hlength, hsafe⟩ := ih h (not_lt.mp hmany)
      rw [List.filterMap_cons_some hnone]
      refine ⟨by simp [hsources], hlength, List.forall_mem_cons.mpr ⟨?_, hsafe⟩⟩
      simpa using hbad

/-- A walk over regular files with safe names, and not too many of them, goes through. -/
lemma collectEntries_eq {themesRoot : Bytes} {acc : List ArchiveSource}
    (hregular : ∀ e ∈ rows, e.2 ≠ .irregular)
    (hsafe : ∀ source ∈ rows.filterMap themeSource?, safeArchivePath source.name = true)
    (hcount : acc.length + (rows.filterMap themeSource?).length ≤ maxArchiveFiles) :
    collectEntries themesRoot acc rows = .ok (acc ++ rows.filterMap themeSource?) := by
  induction rows generalizing acc with
  | nil => simp [collectEntries]
  | cons e rest ih =>
    obtain ⟨relative, entry⟩ := e
    obtain ⟨he, hrest⟩ := List.forall_mem_cons.mp hregular
    cases entry with
    | irregular => exact absurd rfl he
    | directory =>
      rw [List.filterMap_cons_none rfl] at hsafe hcount ⊢
      exact ih hrest hsafe hcount
    | regular contents =>
      have hsome : themeSource? (relative, .regular contents) =
          some ⟨themesPrefix ++ relative, contents⟩ := rfl
      rw [List.filterMap_cons_some hsome] at hsafe hcount ⊢
      obtain ⟨hname, hsafe⟩ := List.forall_mem_cons.mp hsafe
      rw [List.length_cons] at hcount
      have hlength : (acc ++ [{ name := themesPrefix ++ relative, contents := contents :
          ArchiveSource }]).length = acc.length + 1 := by simp
      simp only [collectEntries]
      rw [if_neg (by simpa using hname), if_neg (by rw [hlength]; omega),
        ih hrest hsafe (by rw [hlength]; omega), List.append_assoc, List.singleton_append]

/-- What is found of themes that can be exported. -/
lemma collectThemeSources_ok {themesRoot : Bytes} {themes : Option Node}
    (h : collectThemeSources themesRoot themes = .ok sources) :
    sources = themeFiles themes ∧ sources.length ≤ maxArchiveFiles ∧
      ∀ source ∈ sources, safeArchivePath source.name = true := by
  unfold collectThemeSources at h
  split at h
  · simp only [Except.ok.injEq] at h
    subst h
    exact ⟨rfl, Nat.zero_le _, by simp⟩
  · obtain ⟨hsources, hlength, hsafe⟩ := collectEntries_ok h (Nat.zero_le _)
    rw [List.nil_append] at hsources
    exact ⟨hsources, hlength, by rwa [hsources]⟩
  · cases h
  · cases h

/-- The record of a file. -/
def ArchiveSource.record (P : Primitives) (source : ArchiveSource) : FileRecord :=
  FileRecord.of P source.name source.contents

/-- The total size of files. -/
def totalSize (sources : List ArchiveSource) : ℕ :=
  (sources.map fun source => source.contents.length).sum

/-- What is recorded of files that keep the limits of sizes. -/
lemma sourceRecords_ok_iff {total : ℕ} {records : List FileRecord}
    (htotal : total ≤ maxArchiveBytes) :
    sourceRecords P total sources = .ok records ↔
      records = sources.map (ArchiveSource.record P) ∧
        (∀ source ∈ sources, source.contents.length ≤ maxArchiveFileBytes) ∧
        total + totalSize sources ≤ maxArchiveBytes := by
  induction sources generalizing total records with
  | nil => simp [sourceRecords, totalSize, htotal, eq_comm]
  | cons source rest ih =>
    have hsum : totalSize (source :: rest) = source.contents.length + totalSize rest := rfl
    by_cases hlimits : source.contents.length > maxArchiveFileBytes ∨
        total + source.contents.length > maxArchiveBytes
    · rw [sourceRecords, if_pos (by simpa using hlimits), hsum]
      constructor
      · intro h
        cases h
      · rintro ⟨-, hsizes, hall⟩
        have hsize := hsizes source List.mem_cons_self
        omega
    · rw [sourceRecords, if_neg (by simpa using hlimits), hsum, List.forall_mem_cons,
        List.map_cons]
      have hrest := fun records => @ih (total + source.contents.length) records (by omega)
      constructor
      · intro h
        cases hrecords : sourceRecords P (total + source.contents.length) rest with
        | error cause => simp [hrecords, Except.map] at h
        | ok more =>
          obtain ⟨rfl, hsizes, hall⟩ := (hrest more).mp hrecords
          simp only [hrecords, Except.map, Except.ok.injEq] at h
          exact ⟨h.symm, ⟨by omega, hsizes⟩, by omega⟩
      · rintro ⟨rfl, ⟨-, hsizes⟩, hall⟩
        rw [(hrest _).mpr ⟨rfl, hsizes, by omega⟩]
        rfl

/-- The files of a site. -/
def siteSources (A : Archiver) (manager : Manager) (snapshot : Bytes) (themes : Option Node) :
    List ArchiveSource :=
  archiveSources A manager snapshot (themeFiles themes)

/-- The manifest of a site. -/
def siteManifest (services : Services) (A : Archiver) (manager : Manager) (snapshot : Bytes)
    (themes : Option Node) (now : Time) : Manifest :=
  newManifest manager now
    ((siteSources A manager snapshot themes).map (ArchiveSource.record services.primitives))

/-- What an export that worked says: the files are within the limits of the writing side, and the
backup is a container of an archive of the files. -/
structure Exported (services : Services) (A : Archiver) (manager : Manager) (entropy : Entropy)
    (snapshot : Bytes) (themes : Option Node) (now : Time) (passphrase manifestBytes payload
    backup : Bytes) : Prop where
  available : manager.available = true
  accepted : validatePassphrase passphrase = true
  count : (themeFiles themes).length ≤ maxArchiveFiles
  safe : ∀ source ∈ themeFiles themes, safeArchivePath source.name = true
  sizes : ∀ source ∈ siteSources A manager snapshot themes,
    source.contents.length ≤ maxArchiveFileBytes
  total : totalSize (siteSources A manager snapshot themes) ≤ maxArchiveBytes
  marshal : A.marshalManifest (siteManifest services A manager snapshot themes now) =
    some manifestBytes
  zip : A.zip (archiveEntries manifestBytes (siteSources A manager snapshot themes)) = some payload
  container : encryptContainer services.primitives entropy.cpus entropy.salt entropy.noncePrefix
    payload passphrase = .ok backup

/-- What an export that worked says. -/
lemma exportBackup_ok {entropy : Entropy} {snapshot : Bytes} {themes : Option Node} {now : Time}
    {passphrase backup : Bytes} {manifest : Manifest}
    (h : exportBackup services A manager entropy snapshot themes now passphrase =
      .ok (backup, manifest)) :
    manifest = siteManifest services A manager snapshot themes now ∧
      ∃ manifestBytes payload, Exported services A manager entropy snapshot themes now passphrase
        manifestBytes payload backup := by
  unfold exportBackup at h
  cases havailable : manager.available with
  | false => simp [havailable, bind, Except.bind] at h
  | true =>
  cases hpass : validatePassphrase passphrase with
  | false => simp [havailable, hpass, bind, Except.bind] at h
  | true =>
  cases hthemes : collectThemeSources manager.themesRoot themes with
  | error cause =>
    simp [havailable, hpass, hthemes, bind, Except.bind] at h
  | ok themeSources =>
  obtain ⟨rfl, hcount, hsafe⟩ := collectThemeSources_ok hthemes
  simp only [havailable, hpass, hthemes, bind, Except.bind, Bool.not_true,
    Bool.false_eq_true, if_false] at h
  cases hrecords : sourceRecords services.primitives 0
      (archiveSources A manager snapshot (themeFiles themes)) with
  | error cause => simp [hrecords] at h
  | ok records =>
  obtain ⟨rfl, hsizes, htotal⟩ := (sourceRecords_ok_iff (Nat.zero_le _)).mp hrecords
  simp only [hrecords, writeArchive] at h
  cases hmarshal : A.marshalManifest (siteManifest services A manager snapshot themes now) with
  | none =>
    simp only [siteManifest, siteSources] at hmarshal
    simp [hmarshal] at h
  | some manifestBytes =>
  have hmarshal' := hmarshal
  simp only [siteManifest, siteSources] at hmarshal'
  simp only [hmarshal'] at h
  cases hzip : A.zip (archiveEntries manifestBytes (siteSources A manager snapshot themes)) with
  | none =>
    simp only [siteSources] at hzip
    simp [hzip] at h
  | some payload =>
  have hzip' := hzip
  simp only [siteSources] at hzip'
  simp only [hzip'] at h
  cases hcontainer : encryptContainer services.primitives entropy.cpus entropy.salt
      entropy.noncePrefix payload passphrase with
  | error cause => simp [hcontainer] at h
  | ok written =>
  simp only [hcontainer, Except.ok.injEq, Prod.mk.injEq] at h
  obtain ⟨rfl, rfl⟩ := h
  rw [Nat.zero_add] at htotal
  exact ⟨rfl, manifestBytes, payload, havailable, hpass, hcount, hsafe, hsizes, htotal, hmarshal,
    hzip, hcontainer⟩

/-- A site whose themes can be collected is exported. -/
lemma Exported.exportBackup {entropy : Entropy} {snapshot : Bytes} {themes : Option Node}
    {now : Time} {passphrase manifestBytes payload backup : Bytes}
    (h : Exported services A manager entropy snapshot themes now passphrase manifestBytes payload
      backup) (hthemes : collectThemeSources manager.themesRoot themes = .ok (themeFiles themes)) :
    Backup.exportBackup services A manager entropy snapshot themes now passphrase =
      .ok (backup, siteManifest services A manager snapshot themes now) := by
  have hrecords := (sourceRecords_ok_iff (P := services.primitives) (Nat.zero_le _)).mpr
    ⟨rfl, h.sizes, by rw [Nat.zero_add]; exact h.total⟩
  have hwrite : writeArchive A (siteManifest services A manager snapshot themes now)
      (siteSources A manager snapshot themes) = .ok payload := by
    simp only [writeArchive, h.marshal, h.zip]
  simp only [siteManifest, siteSources] at hrecords hwrite
  unfold Backup.exportBackup
  simp only [h.available, h.accepted, hthemes, hrecords, hwrite, h.container, bind, Except.bind,
    Bool.not_true, Bool.false_eq_true, if_false]
  rfl

/-! ## Names -/

/-- The names of a site: the database, the master key and below the directory of the themes. -/
lemma mem_siteSources {snapshot : Bytes} {themes : Option Node} {source : ArchiveSource} :
    source ∈ siteSources A manager snapshot themes ↔
      source = ⟨databaseName, snapshot⟩ ∨
        source = ⟨keyName, A.encodeBase64 manager.masterKey.toList ++ newline⟩ ∨
          source ∈ themeFiles themes := by
  unfold siteSources archiveSources
  rw [(List.perm_insertionSort _ _).mem_iff]
  simp

/-- The files of a site, in another order. -/
lemma siteSources_perm (A : Archiver) (manager : Manager) (snapshot : Bytes)
    (themes : Option Node) :
    (siteSources A manager snapshot themes).Perm
      (⟨databaseName, snapshot⟩ ::
        ⟨keyName, A.encodeBase64 manager.masterKey.toList ++ newline⟩ :: themeFiles themes) :=
  List.perm_insertionSort _ _

/-- A file of the themes is a regular file of their tree. -/
lemma mem_themeFiles {themes : Option Node} {source : ArchiveSource}
    (h : source ∈ themeFiles themes) :
    ∃ tree relative, themes = some (.directory tree) ∧
      (relative, .regular source.contents) ∈ tree.rows ∧
      source.name = themesPrefix ++ relative := by
  unfold themeFiles at h
  split at h
  · rename_i tree
    obtain ⟨⟨relative, entry⟩, hmem, hsome⟩ := List.mem_filterMap.mp h
    cases entry with
    | regular contents =>
      have heq : source = ⟨themesPrefix ++ relative, contents⟩ := (Option.some.inj hsome).symm
      subst heq
      exact ⟨tree, relative, rfl, hmem, rfl⟩
    | directory => cases hsome
    | irregular => cases hsome
  · simp at h

/-- The name of a file of the themes. -/
lemma isPrefixOf_name_of_mem_themeFiles {themes : Option Node} {source : ArchiveSource}
    (h : source ∈ themeFiles themes) : themesPrefix.isPrefixOf source.name = true := by
  obtain ⟨tree, relative, -, -, hname⟩ := mem_themeFiles h
  rw [hname]
  exact List.isPrefixOf_iff_prefix.mpr (List.prefix_append _ _)

/-- The files of the themes have different names. -/
lemma nodup_themeFiles (themes : Option Node) :
    ((themeFiles themes).map ArchiveSource.name).Nodup := by
  unfold themeFiles
  split
  · rename_i tree
    have hpairs : tree.rows.Pairwise fun a b => a.1 ≠ b.1 := List.pairwise_map.mp tree.keys_nodup
    refine List.pairwise_map.mpr (hpairs.filterMap _ fun a b hab source ha other hb hsame => ?_)
    have hname : ∀ {e : Bytes × Entry} {s : ArchiveSource}, themeSource? e = some s →
        s.name = themesPrefix ++ e.1 := by
      rintro ⟨relative, entry⟩ s hs
      cases entry with
      | regular contents => rw [← Option.some.inj hs]
      | directory => cases hs
      | irregular => cases hs
    rw [hname ha, hname hb] at hsame
    exact hab (List.append_cancel_left hsame)
  · exact List.nodup_nil

/-- The files of a site have different names. -/
lemma nodup_siteSources (A : Archiver) (manager : Manager) (snapshot : Bytes)
    (themes : Option Node) :
    ((siteSources A manager snapshot themes).map ArchiveSource.name).Nodup := by
  have hout : ∀ name : Bytes, themesPrefix.isPrefixOf name = false →
      name ∉ (themeFiles themes).map ArchiveSource.name := by
    intro name hname hmem
    obtain ⟨source, hsource, rfl⟩ := List.mem_map.mp hmem
    rw [isPrefixOf_name_of_mem_themeFiles hsource] at hname
    cases hname
  rw [((siteSources_perm A manager snapshot themes).map _).nodup_iff, List.map_cons, List.map_cons,
    List.nodup_cons, List.nodup_cons, List.mem_cons]
  refine ⟨?_, hout keyName (by decide), nodup_themeFiles themes⟩
  rintro (hsame | hmem)
  · have hne : databaseName ≠ keyName := by decide
    exact hne hsame
  · exact hout databaseName (by decide) hmem

/-- The names of a site may be declared by a manifest when those of its themes are safe. -/
lemma safePayloadPath_siteSources (A : Archiver) (manager : Manager) (snapshot : Bytes)
    {themes : Option Node}
    (hsafe : ∀ source ∈ themeFiles themes, safeArchivePath source.name = true) :
    ∀ source ∈ siteSources A manager snapshot themes, safePayloadPath source.name = true := by
  intro source hsource
  rcases mem_siteSources.mp hsource with rfl | rfl | htheme
  · rfl
  · rfl
  · simp [safePayloadPath, hsafe source htheme, isPrefixOf_name_of_mem_themeFiles htheme]

/-- The manifest is not one of the declared files. -/
lemma ne_manifestName_of_safePayloadPath {name : Bytes} (h : safePayloadPath name = true) :
    name ≠ manifestName := by
  rintro rfl
  revert h
  decide

/-! ## Archives -/

/-- An entry as it stands in an archive. -/
def stored (deflated : Bytes → ℕ) (e : Bytes × Bytes) : ZipFile where
  name := e.1
  symlink := false
  directory := false
  uncompressedSize := e.2.length
  compressedSize := deflated e.2
  contents := some e.2

/-- Whether the compressed size of a content is in the accepted ratio to its size. -/
def RatioAccepted (deflated : Bytes → ℕ) (contents : Bytes) : Prop :=
  0 < deflated contents → contents.length / deflated contents ≤ maxCompressionRatio

/-- What the checks of the entries of an archive say. -/
lemma checkZipFiles_ok_iff {seen : List Bytes} {archive : List ZipFile} (hseen : seen.Nodup) :
    checkZipFiles seen archive = .ok () ↔
      (∀ file ∈ archive, safeArchivePath file.name = true ∧ file.symlink = false ∧
        file.directory = false ∧ file.exceedsLimits = false) ∧
        (archive.map ZipFile.name ++ seen).Nodup := by
  induction archive generalizing seen with
  | nil => simp [checkZipFiles, hseen]
  | cons file rest ih =>
    have hnodup : (List.map ZipFile.name (file :: rest) ++ seen).Nodup ↔
        file.name ∉ seen ∧ (List.map ZipFile.name rest ++ file.name :: seen).Nodup := by
      rw [List.map_cons, List.cons_append, List.nodup_middle]
      refine ⟨fun h => ⟨fun hmem => ?_, h⟩, And.right⟩
      exact (List.nodup_cons.mp h).1 (List.mem_append_right _ hmem)
    rw [List.forall_mem_cons, hnodup, checkZipFiles]
    by_cases hbad : (!safeArchivePath file.name || file.symlink || file.directory) = true
    · rw [if_pos hbad]
      simp only [reduceCtorEq, false_iff]
      rintro ⟨⟨⟨hsafe, hlink, hdir, -⟩, -⟩, -⟩
      simp [hsafe, hlink, hdir] at hbad
    · rw [if_neg hbad]
      simp only [Bool.or_eq_true, Bool.not_eq_eq_eq_not, Bool.not_true, not_or,
        Bool.not_eq_false, Bool.not_eq_true] at hbad
      by_cases hduplicate : file.name ∈ seen
      · rw [if_pos (by simpa using hduplicate)]
        simp [hduplicate]
      · rw [if_neg (by simpa using hduplicate)]
        cases hlimits : file.exceedsLimits with
        | true => simp
        | false =>
          rw [if_neg (by simp), ih (List.nodup_cons.mpr ⟨hduplicate, hseen⟩)]
          simp [hbad, hduplicate]

/-- What the checks of the records of a manifest say. -/
lemma checkRecords_ok_iff {paths : List Bytes} {total : ℤ} {records : List FileRecord}
    (hpaths : paths.Nodup) (htotal : total ≤ maxArchiveBytes) :
    checkRecords paths total records = .ok () ↔
      (∀ record ∈ records, safePayloadPath record.path = true ∧ 0 ≤ record.size ∧
        record.size ≤ maxArchiveFileBytes ∧ record.sha256.length = 64) ∧
        (records.map FileRecord.path ++ paths).Nodup ∧
        total + (records.map FileRecord.size).sum ≤ maxArchiveBytes := by
  induction records generalizing paths total with
  | nil => simp [checkRecords, hpaths, htotal]
  | cons record rest ih =>
    have hnodup : (List.map FileRecord.path (record :: rest) ++ paths).Nodup ↔
        record.path ∉ paths ∧ (List.map FileRecord.path rest ++ record.path :: paths).Nodup := by
      rw [List.map_cons, List.cons_append, List.nodup_middle]
      refine ⟨fun h => ⟨fun hmem => ?_, h⟩, And.right⟩
      exact (List.nodup_cons.mp h).1 (List.mem_append_right _ hmem)
    rw [List.forall_mem_cons, hnodup, checkRecords, List.map_cons, List.sum_cons]
    by_cases hinvalid : (!safePayloadPath record.path || record.size < 0 ||
        record.size > maxArchiveFileBytes || record.sha256.length != 64) = true
    · rw [if_pos hinvalid]
      simp only [reduceCtorEq, false_iff]
      rintro ⟨⟨⟨hsafe, hnonneg, hle, hlength⟩, -⟩, -⟩
      simp [hsafe, hlength, not_lt.mpr hnonneg, not_lt.mpr hle] at hinvalid
    · rw [if_neg hinvalid]
      simp only [Bool.or_eq_true, Bool.not_eq_eq_eq_not, Bool.not_true, decide_eq_true_eq,
        bne_iff_ne, not_or, Bool.not_eq_false, not_lt, ne_eq, not_not] at hinvalid
      obtain ⟨⟨⟨hsafe, hnonneg⟩, hle⟩, hlength⟩ := hinvalid
      by_cases hduplicate : record.path ∈ paths
      · rw [if_pos (by simpa using hduplicate)]
        simp [hduplicate]
      · rw [if_neg (by simpa using hduplicate)]
        by_cases hlimit : total + record.size > maxArchiveBytes
        · rw [if_pos hlimit]
          simp only [reduceCtorEq, false_iff]
          rintro ⟨⟨-, hall⟩, -, hsum⟩
          have hrest : 0 ≤ (rest.map FileRecord.size).sum :=
            List.sum_nonneg (by simpa using fun r hr => (hall r hr).2.1)
          omega
        · rw [if_neg hlimit, ih (List.nodup_cons.mpr ⟨hduplicate, hpaths⟩) (not_lt.mp hlimit)]
          simp only [hsafe, hnonneg, hle, hlength, hduplicate, not_false_eq_true, and_self,
            true_and, add_assoc]

/-! ## Extraction -/

/-- The directories above a path, with the front of the path. -/
lemma mem_parentsFrom {front path p : Bytes} :
    p ∈ parentsFrom front path ↔ ∃ above below, path = above ++ slash :: below ∧
      p = front ++ above := by
  induction path generalizing front with
  | nil => simp [parentsFrom]
  | cons byte rest ih =>
    have hinside : p ∈ parentsFrom (front ++ [byte]) rest ↔ ∃ above below,
        rest = above ++ slash :: below ∧ p = front ++ byte :: above := by
      rw [ih]
      simp only [List.append_assoc, List.singleton_append]
    have hsplit : (∃ above below, byte :: rest = above ++ slash :: below ∧ p = front ++ above) ↔
        (byte = slash ∧ p = front) ∨ ∃ above below,
          rest = above ++ slash :: below ∧ p = front ++ byte :: above := by
      constructor
      · rintro ⟨above, below, hpath, rfl⟩
        cases above with
        | nil => exact Or.inl ⟨(List.cons.inj hpath).1, List.append_nil _⟩
        | cons first above =>
          obtain ⟨rfl, hrest⟩ := List.cons.inj hpath
          exact Or.inr ⟨above, below, hrest, rfl⟩
      · rintro (⟨rfl, rfl⟩ | ⟨above, below, rfl, rfl⟩)
        · exact ⟨[], rest, rfl, (List.append_nil _).symm⟩
        · exact ⟨byte :: above, below, rfl, rfl⟩
    rw [hsplit, parentsFrom]
    split_ifs with hslash
    · rw [List.mem_cons, hinside]
      simp [hslash]
    · rw [hinside]
      simp [hslash]

/-- A directory is above a path when the path goes on after it. -/
lemma mem_parents {path p : Bytes} : p ∈ parents path ↔ ∃ below, path = p ++ slash :: below := by
  unfold parents
  rw [mem_parentsFrom]
  constructor
  · rintro ⟨above, below, rfl, rfl⟩
    exact ⟨below, rfl⟩
  · rintro ⟨below, rfl⟩
    exact ⟨p, below, rfl, rfl⟩

/-- Making directories where no file stands adds directories only. -/
lemma makeDirectories_ok {tree : Tree} {paths : List Bytes}
    (h : ∀ e ∈ tree.rows, e.1 ∈ paths → e.2 = .directory) :
    ∃ made, makeDirectories tree paths = .ok made ∧
      (made.rows.filter fun e => e.2.isRegular) = (tree.rows.filter fun e => e.2.isRegular) ∧
      ∀ e ∈ made.rows, e ∈ tree.rows ∨ e.2 = .directory ∧ e.1 ∈ paths := by
  induction paths generalizing tree with
  | nil => exact ⟨tree, rfl, rfl, fun e he => Or.inl he⟩
  | cons path rest ih =>
    unfold makeDirectories
    cases hfind : tree.find? path with
    | none =>
      have hnew : path ∉ tree.rows.map Prod.fst := by
        intro hmem
        obtain ⟨e, he, rfl⟩ := List.mem_map.mp hmem
        rw [Tree.find?_eq_some_iff.mpr he] at hfind
        cases hfind
      have hrows := (Tree.rows_put_of_notMem .directory hnew).2
      have hdirs : ∀ e ∈ (tree.put path .directory).rows, e.1 ∈ rest → e.2 = .directory := by
        intro e he hpath
        rw [hrows, List.mem_append, List.mem_singleton] at he
        rcases he with he | rfl
        · exact h e he (List.mem_cons_of_mem _ hpath)
        · rfl
      obtain ⟨made, hmade, hregular, hall⟩ := ih hdirs
      refine ⟨made, hmade, ?_, fun e he => ?_⟩
      · rw [hregular, hrows, List.filter_append]
        simp [Entry.isRegular]
      · rcases hall e he with hold | ⟨hdir, hpath⟩
        · rw [hrows, List.mem_append, List.mem_singleton] at hold
          rcases hold with hold | rfl
          · exact Or.inl hold
          · exact Or.inr ⟨rfl, List.mem_cons_self⟩
        · exact Or.inr ⟨hdir, List.mem_cons_of_mem _ hpath⟩
    | some entry =>
      have hentry : entry = .directory :=
        h (path, entry) (Tree.find?_eq_some_iff.mp hfind) List.mem_cons_self
      subst hentry
      obtain ⟨made, hmade, hregular, hall⟩ :=
        ih fun e he hpath => h e he (List.mem_cons_of_mem _ hpath)
      refine ⟨made, hmade, hregular, fun e he => ?_⟩
      rcases hall e he with hold | ⟨hdir, hpath⟩
      · exact Or.inl hold
      · exact Or.inr ⟨hdir, List.mem_cons_of_mem _ hpath⟩

/-- What stands in a tree after directories were made. -/
lemma find?_makeDirectories {tree made : Tree} {paths : List Bytes}
    (h : makeDirectories tree paths = .ok made) {p : Bytes} {entry : Entry} :
    made.find? p = some entry ↔ p ∈ paths ∧ entry = .directory ∨ tree.find? p = some entry := by
  induction paths generalizing tree with
  | nil =>
    obtain rfl := Except.ok.inj h
    simp
  | cons path rest ih =>
    have hstep : ∃ next, makeDirectories next rest = .ok made ∧ (next.find? p = some entry ↔
        p = path ∧ entry = .directory ∨ tree.find? p = some entry) := by
      unfold makeDirectories at h
      cases hfind : tree.find? path with
      | none =>
        rw [hfind] at h
        refine ⟨_, h, ?_⟩
        by_cases heq : p = path
        · simp [heq, Tree.find?_put_self, hfind, eq_comm]
        · simp [heq, Tree.find?_put_of_ne heq]
      | some found =>
        rw [hfind] at h
        cases found with
        | directory =>
          refine ⟨tree, h, Or.inr, ?_⟩
          rintro (⟨rfl, rfl⟩ | hold)
          · exact hfind
          · exact hold
        | regular contents => cases h
        | irregular => cases h
    obtain ⟨next, hnext, hfind⟩ := hstep
    rw [ih hnext, hfind, List.mem_cons, or_and_right, or_assoc, or_left_comm]

/-- What stands in a tree after a file was made. -/
lemma find?_createFile {tree made : Tree} {name contents : Bytes}
    (h : Backup.createFile tree name contents = .ok made) {p : Bytes} {entry : Entry} :
    made.find? p = some entry ↔ p = name ∧ entry = .regular contents ∨
      p ∈ parents name ∧ entry = .directory ∨ tree.find? p = some entry := by
  unfold Backup.createFile at h
  cases hdirectories : makeDirectories tree (parents name) with
  | error errno =>
    rw [hdirectories] at h
    cases h
  | ok between =>
    rw [hdirectories] at h
    simp only [bind, Except.bind] at h
    cases hname : between.find? name with
    | some found =>
      rw [hname] at h
      cases h
    | none =>
      rw [hname] at h
      obtain rfl := Except.ok.inj h
      rw [← find?_makeDirectories hdirectories]
      by_cases heq : p = name
      · simp [heq, Tree.find?_put_self, hname, eq_comm]
      · simp [heq, Tree.find?_put_of_ne heq]

/-- A file of a backup as it stands in a tree. -/
def ArchiveSource.row (source : ArchiveSource) : Bytes × Entry :=
  (source.name, .regular source.contents)

/-- A tree that holds files and the directories above them, and nothing else. -/
structure Extracted (sources : List ArchiveSource) (tree : Tree) : Prop where
  regular : (tree.rows.filter fun e => e.2.isRegular).Perm (sources.map ArchiveSource.row)
  directories : ∀ e ∈ tree.rows, e.2.isRegular = false →
    e.2 = .directory ∧ ∃ source ∈ sources, e.1 ∈ parents source.name

/-- No file stands where another one has a directory above it. -/
def Compatible (sources : List ArchiveSource) : Prop :=
  ∀ source ∈ sources, ∀ other ∈ sources, source.name ∉ parents other.name

/-- The regular files of a tree that holds files. -/
lemma Extracted.mem_iff {tree : Tree} (h : Extracted sources tree) {name contents : Bytes} :
    (name, .regular contents) ∈ tree.rows ↔ ⟨name, contents⟩ ∈ sources := by
  have hfilter : (name, .regular contents) ∈ tree.rows ↔
      (name, .regular contents) ∈ tree.rows.filter fun e => e.2.isRegular := by
    simp [Entry.isRegular]
  rw [hfilter, h.regular.mem_iff, List.mem_map]
  constructor
  · rintro ⟨source, hsource, hrow⟩
    have heq : source = ⟨name, contents⟩ := by
      cases source
      simp only [ArchiveSource.row, Prod.mk.injEq, Entry.regular.injEq] at hrow
      simp [hrow]
    rwa [← heq]
  · intro hsource
    exact ⟨_, hsource, rfl⟩

/-- What stands in a tree that holds files is one of them or a directory. -/
lemma Extracted.cases {tree : Tree} (h : Extracted sources tree) {e : Bytes × Entry}
    (he : e ∈ tree.rows) : (∃ source ∈ sources, e = source.row) ∨
      e.2 = .directory ∧ ∃ source ∈ sources, e.1 ∈ parents source.name := by
  obtain ⟨name, entry⟩ := e
  cases entry with
  | regular contents => exact Or.inl ⟨⟨name, contents⟩, h.mem_iff.mp he, rfl⟩
  | directory => exact Or.inr (h.directories _ he rfl)
  | irregular => exact Or.inr (h.directories _ he rfl)

/-- Creating one more file. -/
lemma Extracted.createFile {tree : Tree} {source : ArchiveSource} (h : Extracted sources tree)
    (hnew : source.name ∉ sources.map ArchiveSource.name)
    (hcompatible : Compatible (source :: sources)) :
    ∃ created, Backup.createFile tree source.name source.contents = .ok created ∧
      Extracted (source :: sources) created := by
  have hdirs : ∀ e ∈ tree.rows, e.1 ∈ parents source.name → e.2 = .directory := by
    intro e he hparent
    rcases h.cases he with ⟨other, hother, rfl⟩ | ⟨hdir, -⟩
    · exact absurd hparent
        (hcompatible other (List.mem_cons_of_mem _ hother) source List.mem_cons_self)
    · exact hdir
  obtain ⟨made, hmade, hregular, hall⟩ := makeDirectories_ok hdirs
  have hmadeCases : ∀ e ∈ made.rows, (∃ other ∈ sources, e = other.row) ∨
      e.2 = .directory ∧ ∃ other ∈ source :: sources, e.1 ∈ parents other.name := by
    intro e he
    rcases hall e he with hold | ⟨hdir, hparent⟩
    · rcases h.cases hold with hrow | ⟨hdir, other, hother, hparent⟩
      · exact Or.inl hrow
      · exact Or.inr ⟨hdir, other, List.mem_cons_of_mem _ hother, hparent⟩
    · exact Or.inr ⟨hdir, source, List.mem_cons_self, hparent⟩
  have hfree : source.name ∉ made.rows.map Prod.fst := by
    intro hmem
    obtain ⟨e, he, hname⟩ := List.mem_map.mp hmem
    rcases hmadeCases e he with ⟨other, hother, rfl⟩ | ⟨-, other, hother, hparent⟩
    · exact hnew (List.mem_map.mpr ⟨other, hother, hname⟩)
    · rw [hname] at hparent
      exact hcompatible source List.mem_cons_self other hother hparent
  obtain ⟨hnone, hrows⟩ := Tree.rows_put_of_notMem (.regular source.contents) hfree
  refine ⟨made.put source.name (.regular source.contents), ?_, ?_, ?_⟩
  · simp only [Backup.createFile, hmade, hnone, bind, Except.bind]
  · rw [hrows, List.filter_append, hregular]
    exact (h.regular.append_right _).trans (List.perm_append_singleton _ _)
  · intro e he hirregular
    rw [hrows, List.mem_append, List.mem_singleton] at he
    rcases he with he | rfl
    · rcases hmadeCases e he with ⟨other, -, rfl⟩ | hdir
      · cases hirregular
      · exact hdir
    · cases hirregular

/-- An entry of an archive is found under its name. -/
lemma findEntry_stored (deflated : Bytes → ℕ) {entries : List (Bytes × Bytes)}
    (hnodup : (entries.map Prod.fst).Nodup) {e : Bytes × Bytes} (he : e ∈ entries) :
    findEntry (entries.map (stored deflated)) e.1 = some (stored deflated e) := by
  induction entries with
  | nil => simp at he
  | cons first rest ih =>
    rw [List.map_cons, List.nodup_cons] at hnodup
    rcases List.mem_cons.mp he with rfl | hrest
    · simp [findEntry, stored]
    · have hne : first.1 ≠ e.1 := fun hsame => hnodup.1 (hsame ▸ List.mem_map_of_mem hrest)
      have hskip : findEntry (stored deflated first :: rest.map (stored deflated)) e.1 =
          findEntry (rest.map (stored deflated)) e.1 := by
        simp [findEntry, stored, hne]
      rw [List.map_cons, hskip, ih hnodup.2 hrest]

/-- What is found in an archive has the name that was looked for. -/
lemma findEntry_mem {archive : List ZipFile} {name : Bytes} {file : ZipFile}
    (h : findEntry archive name = some file) : file ∈ archive ∧ file.name = name :=
  ⟨List.mem_of_find?_eq_some h, by simpa using List.find?_some h⟩

/-- A hash in hexadecimal digits. -/
lemma length_hexEncode (bytes : Bytes) : (hexEncode bytes).length = 2 * bytes.length := by
  induction bytes with
  | nil => rfl
  | cons byte rest ih =>
    have hcons : hexEncode (byte :: rest) =
        [hexDigit (byte.toNat / 16), hexDigit (byte.toNat % 16)] ++ hexEncode rest := rfl
    rw [hcons, List.length_append, ih]
    simp only [List.length_cons, List.length_nil]
    omega

/-- The digits of one hash agree with themselves. -/
lemma equalFold_self (text : Bytes) : equalFold text text = true := by
  simp [equalFold]

/-- Extracting a file as it is declared. -/
lemma extractRecord_ok {deflated : Bytes → ℕ} {entries : List (Bytes × Bytes)} {tree : Tree}
    {source : ArchiveSource} (h : Extracted sources tree)
    (hnew : source.name ∉ sources.map ArchiveSource.name)
    (hcompatible : Compatible (source :: sources))
    (hfind : findEntry (entries.map (stored deflated)) source.name =
      some (stored deflated (source.name, source.contents))) :
    ∃ created, extractRecord P (entries.map (stored deflated)) tree (source.record P) =
        .ok created ∧ Extracted (source :: sources) created := by
  obtain ⟨created, hcreated, hextracted⟩ := h.createFile hnew hcompatible
  refine ⟨created, ?_, hextracted⟩
  have hsize : (source.record P).size = source.contents.length := rfl
  have htake : source.contents.take ((source.contents.length : ℤ) + 1).toNat =
      source.contents := List.take_of_length_le (by omega)
  have hpath : (source.record P).path = source.name := rfl
  unfold extractRecord
  rw [hpath, hfind]
  simp only [stored, hsize, ne_eq, not_true_eq_false, if_false, Option.map_some, htake, hcreated]
  rw [if_neg]
  simp [ArchiveSource.record, equalFold_self]

/-- Extracting files as they are declared. -/
lemma foldlM_extractRecord (P : Primitives) (deflated : Bytes → ℕ) (entries : List (Bytes × Bytes))
    {tree : Tree} {done : List ArchiveSource} (h : Extracted done tree)
    (hnodup : ((sources ++ done).map ArchiveSource.name).Nodup)
    (hcompatible : Compatible (sources ++ done))
    (hfind : ∀ source ∈ sources, findEntry (entries.map (stored deflated)) source.name =
      some (stored deflated (source.name, source.contents))) :
    ∃ extracted, (sources.map (ArchiveSource.record P)).foldlM
        (extractRecord P (entries.map (stored deflated))) tree = .ok extracted ∧
      Extracted (sources.reverse ++ done) extracted := by
  induction sources generalizing done tree with
  | nil => exact ⟨tree, rfl, h⟩
  | cons source rest ih =>
    have hperm : (rest ++ source :: done).Perm (source :: rest ++ done) := List.perm_middle
    have hmem : ∀ {s}, s ∈ source :: done → s ∈ source :: rest ++ done := by
      intro s hs
      rcases List.mem_cons.mp hs with rfl | hdone
      · exact List.mem_cons_self
      · exact List.mem_append_right _ hdone
    have hnew : source.name ∉ done.map ArchiveSource.name := by
      intro hdone
      rw [List.cons_append, List.map_cons, List.nodup_cons, List.map_append] at hnodup
      exact hnodup.1 (List.mem_append_right _ hdone)
    obtain ⟨created, hcreated, hextracted⟩ := extractRecord_ok (P := P) h hnew
      (fun s hs o ho => hcompatible s (hmem hs) o (hmem ho)) (hfind source List.mem_cons_self)
    obtain ⟨extracted, hrest, hall⟩ := ih hextracted
      ((hperm.map _).nodup_iff.mpr hnodup)
      (fun s hs o ho => hcompatible s (hperm.mem_iff.mp hs) o (hperm.mem_iff.mp ho))
      fun s hs => hfind s (List.mem_cons_of_mem _ hs)
    refine ⟨extracted, ?_, ?_⟩
    · rw [List.map_cons, List.foldlM_cons, hcreated]
      exact hrest
    · rwa [List.reverse_cons, List.append_assoc, List.singleton_append]

/-- Files in another order. -/
lemma Extracted.perm {tree : Tree} {others : List ArchiveSource} (h : Extracted sources tree)
    (hperm : sources.Perm others) : Extracted others tree where
  regular := h.regular.trans (hperm.map _)
  directories := by
    intro e he hirregular
    obtain ⟨hdir, source, hsource, hparent⟩ := h.directories e he hirregular
    exact ⟨hdir, source, hperm.mem_iff.mp hsource, hparent⟩

/-- The empty tree. -/
lemma extracted_empty : Extracted [] KeyedTable.empty where
  regular := List.Perm.refl _
  directories := by simp [KeyedTable.empty]

/-! ## Libraries -/

/-- A manifest as it comes back from its text. -/
def Manifest.asJSON (manifest : Manifest) : Manifest :=
  { manifest with
    files := manifest.files.map fun record =>
      { record with path := Utf8.replaceInvalid record.path } }

/-- A description as it comes back from its text. -/
def PendingRestore.asJSON (pending : PendingRestore) : PendingRestore :=
  { pending with manifest := pending.manifest.asJSON }

/-- What the program relies on in the libraries: an archive of files with safe names, a manifest, a
description and the master key come back from what is written, with the compressed sizes that are
given. -/
structure Archiver.Lossless (A : Archiver) (services : Services) (deflated : Bytes → ℕ)
    (masterKey : Bytes) : Prop where
  unzip_zip : ∀ entries payload, (∀ e ∈ entries, safeArchivePath e.1 = true) →
    A.zip entries = some payload → A.unzip payload = some (entries.map (stored deflated))
  length_zip : ∀ entries payload, A.zip entries = some payload → (payload.length : ℤ) ≤ maxInt64
  unmarshal_marshalManifest : ∀ manifest bytes, A.marshalManifest manifest = some bytes →
    A.unmarshalManifest (bytes ++ newline) = some manifest.asJSON
  unmarshal_marshalPending : ∀ pending bytes, A.marshalPending pending = some bytes →
    services.unmarshalPending (bytes ++ newline) = some pending.asJSON
  unmarshalPending_newline : services.unmarshalPending newline = none
  visit_perm : ∀ records, (A.visit records).Perm records
  decode_encode : services.decodeBase64 (A.encodeBase64 masterKey) = some masterKey
  encode_printable : ∀ byte ∈ A.encodeBase64 masterKey, 32 < byte ∧ byte < 128

/-- A text of printable bytes in front of a line end is what trimming leaves. -/
lemma trimSpace_newline {bytes : Bytes} (h : ∀ byte ∈ bytes, 32 < byte ∧ byte < 128) :
    trimSpace (bytes ++ newline) = bytes := by
  cases bytes with
  | nil => decide +kernel
  | cons first rest =>
    set text := first :: rest with htext
    have hfront : trimFront spaceEncodings (text ++ newline).length (text ++ newline) =
        text ++ newline := by
      refine trimFront_eq_self _ fun e he => ?_
      refine not_isPrefixOf_printable (spaceEncodings_ends e he).1 fun byte hbyte => h byte ?_
      simp only [htext, List.cons_append, List.head?_cons, Option.mem_some_iff] at hbyte
      simp [htext, hbyte]
    have hback : ∀ fuel, trimFront (spaceEncodings.map List.reverse) fuel text.reverse =
        text.reverse := by
      refine fun fuel => trimFront_eq_self fuel fun e he => ?_
      refine not_isPrefixOf_printable (reverse_spaceEncodings e he) fun byte hbyte => h byte ?_
      rw [List.head?_reverse] at hbyte
      exact List.mem_of_getLast? hbyte
    have hline : ((spaceEncodings.map List.reverse).find? fun e =>
        e.isPrefixOf (10 :: text.reverse)) = some [10] := by
      cases hfind : (spaceEncodings.map List.reverse).find? fun e =>
          e.isPrefixOf (10 :: text.reverse) with
      | none =>
        have hmem : [10] ∈ spaceEncodings.map List.reverse := by decide
        have hnone := List.find?_eq_none.mp hfind [10] hmem
        simp [List.isPrefixOf] at hnone
      | some e =>
        obtain ⟨encoding, hencoding, rfl⟩ := List.mem_map.mp (List.mem_of_find?_eq_some hfind)
        have hpre := List.find?_some hfind
        obtain ⟨-, hlast, honly⟩ := spaceEncodings_ends encoding hencoding
        have hten : encoding.getLast? = some 10 := by
          obtain ⟨after, hafter⟩ := List.isPrefixOf_iff_prefix.mp hpre
          rw [← List.head?_reverse]
          cases hreverse : encoding.reverse with
          | nil =>
            rw [List.reverse_eq_nil_iff.mp hreverse] at hlast
            simp at hlast
          | cons byte bytes =>
            rw [hreverse, List.cons_append] at hafter
            rw [List.head?_cons, (List.cons.inj hafter).1]
        rw [honly hten]
        rfl
    have hreverse : (text ++ newline).reverse = 10 :: text.reverse := by simp [newline]
    have hlength : (text ++ newline).length = text.length + 1 := by simp [newline]
    unfold trimSpace
    simp only [hfront]
    rw [hreverse, hlength, trimFront, hline]
    simp only [List.length_cons, List.length_nil, List.drop_succ_cons, List.drop_zero, hback,
      List.reverse_reverse]

/-- The master key comes back from its file. -/
lemma decodeMasterKey_encode {deflated : Bytes → ℕ} {key : Vector UInt8 32}
    (hA : A.Lossless services deflated key.toList) :
    decodeMasterKey services (A.encodeBase64 key.toList ++ newline) = some key.toList := by
  unfold decodeMasterKey
  rw [trimSpace_newline hA.encode_printable, hA.decode_encode]
  simp

/-! ## Archives within the limits -/

/-- A tree in which every path stands below directories. -/
def Tree.Rooted (tree : Tree) : Prop :=
  ∀ e ∈ tree.rows, ∀ path ∈ parents e.1, tree.find? path = some .directory

/-- The files of a site do not stand in each other's way. -/
lemma compatible_siteSources (A : Archiver) (manager : Manager) (snapshot : Bytes)
    {themes : Option Node} (hthemes : ∀ tree, themes = some (.directory tree) → tree.Rooted) :
    Compatible (siteSources A manager snapshot themes) := by
  intro source hsource other hother hparent
  obtain ⟨below, hname⟩ := mem_parents.mp hparent
  have hother' : other ∈ themeFiles themes := by
    have hdatabase : parents databaseName = [] := by decide
    have hkey : parents keyName = [] := by decide
    rcases mem_siteSources.mp hother with rfl | rfl | htheme
    · simp [hdatabase] at hparent
    · simp [hkey] at hparent
    · exact htheme
  obtain ⟨tree, relative, rfl, hrow, hrelative⟩ := mem_themeFiles hother'
  have hsource' : source ∈ themeFiles (some (.directory tree)) := by
    rw [hrelative] at hname
    rcases mem_siteSources.mp hsource with rfl | rfl | htheme
    · exact absurd (congrArg List.head? hname) (by simp [themesPrefix, databaseName, ascii])
    · exact absurd (congrArg List.head? hname) (by simp [themesPrefix, keyName, ascii])
    · exact htheme
  obtain ⟨tree', upper, htree, hupper, hupperName⟩ := mem_themeFiles hsource'
  obtain rfl := Node.directory.inj (Option.some.inj htree)
  rw [hrelative, hupperName, List.append_assoc] at hname
  have hbelow := mem_parents.mpr ⟨below, List.append_cancel_left hname⟩
  have hdir := hthemes tree rfl _ hrow upper hbelow
  rw [Tree.find?_eq_some_iff.mpr hupper] at hdir
  cases hdir

/-- The limits that only the import of a backup has: on the number of entries, on the ratio of their
sizes, on the length of the manifest, and on the names, which a JSON text has to hold. -/
structure Readable (A : Archiver) (manager : Manager) (deflated : Bytes → ℕ) (snapshot : Bytes)
    (themes : Option Node) (now : Time) (manifestBytes : Bytes) : Prop where
  count : (themeFiles themes).length + 3 ≤ maxArchiveFiles + 1
  ratio : ∀ e ∈ archiveEntries manifestBytes (siteSources A manager snapshot themes),
    RatioAccepted deflated e.2
  manifest : (manifestBytes ++ newline).length ≤ maxManifestBytes
  names : ∀ source ∈ themeFiles themes, Utf8.replaceInvalid source.name = source.name
  created : isZero now = false

section Import

variable {deflated : Bytes → ℕ} {entropy : Entropy} {snapshot : Bytes} {themes : Option Node}
  {now : Time} {passphrase manifestBytes payload backup : Bytes}

/-- The names of the entries of an archive of a site. -/
lemma map_fst_archiveEntries (manifestBytes : Bytes) (sources : List ArchiveSource) :
    (archiveEntries manifestBytes sources).map Prod.fst =
      manifestName :: sources.map ArchiveSource.name := by
  simp [archiveEntries, Function.comp_def]

/-- The entries of an archive of a site have safe names, no two the same. -/
lemma Exported.entries (h : Exported services A manager entropy snapshot themes now passphrase
    manifestBytes payload backup) :
    (∀ e ∈ archiveEntries manifestBytes (siteSources A manager snapshot themes),
      safeArchivePath e.1 = true) ∧
      ((archiveEntries manifestBytes (siteSources A manager snapshot themes)).map
        Prod.fst).Nodup := by
  have hpayload := safePayloadPath_siteSources A manager snapshot h.safe
  refine ⟨?_, ?_⟩
  · intro e he
    rcases List.mem_cons.mp he with rfl | hsource
    · rfl
    · obtain ⟨source, hmem, rfl⟩ := List.mem_map.mp hsource
      have hsafe := hpayload source hmem
      simp only [safePayloadPath, Bool.and_eq_true] at hsafe
      exact hsafe.1
  · rw [map_fst_archiveEntries, List.nodup_cons]
    refine ⟨fun hmem => ?_, nodup_siteSources A manager snapshot themes⟩
    obtain ⟨source, hsource, hname⟩ := List.mem_map.mp hmem
    exact ne_manifestName_of_safePayloadPath (hpayload source hsource) hname

/-- The archive of a site as it is read. -/
lemma Exported.unzip (h : Exported services A manager entropy snapshot themes now passphrase
    manifestBytes payload backup) (hA : A.Lossless services deflated manager.masterKey.toList) :
    A.unzip payload = some ((archiveEntries manifestBytes
      (siteSources A manager snapshot themes)).map (stored deflated)) :=
  hA.unzip_zip _ _ h.entries.1 h.zip

/-- The number of files of a site. -/
lemma length_siteSources (A : Archiver) (manager : Manager) (snapshot : Bytes)
    (themes : Option Node) :
    (siteSources A manager snapshot themes).length = (themeFiles themes).length + 2 := by
  rw [(siteSources_perm A manager snapshot themes).length_eq]
  rfl

/-- The limits of an entry. -/
lemma exceedsLimits_stored {e : Bytes × Bytes} :
    (stored deflated e).exceedsLimits = false ↔
      e.2.length ≤ maxArchiveFileBytes ∧ RatioAccepted deflated e.2 := by
  simp [ZipFile.exceedsLimits, stored, RatioAccepted]

/-- Reading the manifest of an archive of a site. -/
lemma readManifest_stored (h : Exported services A manager entropy snapshot themes now passphrase
    manifestBytes payload backup) (hA : A.Lossless services deflated manager.masterKey.toList)
    {manifest : Manifest} :
    readManifest A ((archiveEntries manifestBytes (siteSources A manager snapshot themes)).map
        (stored deflated)) = .ok manifest ↔
      manifest = (siteManifest services A manager snapshot themes now).asJSON ∧
        (manifestBytes ++ newline).length ≤ maxManifestBytes ∧ isZero now = false := by
  have hfind := findEntry_stored deflated h.entries.2
    (e := (manifestName, manifestBytes ++ newline)) List.mem_cons_self
  have hunmarshal := hA.unmarshal_marshalManifest _ _ h.marshal
  have hdriver : manager.config.driver = "sqlite" := by
    have havailable := h.available
    simp only [Manager.available, Bool.not_eq_true', Bool.or_eq_false_iff, bne_eq_false_iff_eq]
      at havailable
    exact havailable.1
  have hsupported : (siteManifest services A manager snapshot themes now).asJSON.supported =
      !isZero now := by
    simp [Manifest.supported, Manifest.asJSON, siteManifest, newManifest, hdriver]
  unfold readManifest
  rw [show manifestName = (manifestName, manifestBytes ++ newline).1 from rfl, hfind]
  by_cases hlength : (manifestBytes ++ newline).length ≤ maxManifestBytes
  · have htake : (manifestBytes ++ newline).take (maxManifestBytes + 1) =
        manifestBytes ++ newline := List.take_of_length_le (by omega)
    simp only [stored, hlength.not_gt, if_false, Option.map_some, htake, hunmarshal, hsupported,
      hlength, true_and]
    cases isZero now <;> simp [eq_comm]
  · simp only [stored, gt_iff_lt, not_le.mp hlength, if_true, reduceCtorEq, hlength, false_and,
      and_false]

/-- The names of a site that a JSON text can hold. -/
lemma replaceInvalid_siteSources
    (hnames : ∀ source ∈ themeFiles themes, Utf8.replaceInvalid source.name = source.name) :
    ∀ source ∈ siteSources A manager snapshot themes,
      Utf8.replaceInvalid source.name = source.name := by
  intro source hsource
  rcases mem_siteSources.mp hsource with rfl | rfl | htheme
  · rfl
  · rfl
  · exact hnames source htheme

/-- A manifest with such names comes back unchanged. -/
lemma siteManifest_asJSON
    (hnames : ∀ source ∈ themeFiles themes, Utf8.replaceInvalid source.name = source.name) :
    (siteManifest services A manager snapshot themes now).asJSON =
      siteManifest services A manager snapshot themes now := by
  have hfiles : ((siteSources A manager snapshot themes).map
      (ArchiveSource.record services.primitives)).map
        (fun record => { record with path := Utf8.replaceInvalid record.path }) =
      (siteSources A manager snapshot themes).map (ArchiveSource.record services.primitives) := by
    rw [List.map_map]
    refine List.map_congr_left fun source hsource => ?_
    simp only [Function.comp_apply, ArchiveSource.record, FileRecord.of]
    rw [replaceInvalid_siteSources hnames source hsource]
  unfold Manifest.asJSON siteManifest newManifest
  simp only [hfiles]

/-- The sizes in the records of files. -/
lemma sum_size_records (P : Primitives) (sources : List ArchiveSource) :
    ((sources.map (ArchiveSource.record P)).map FileRecord.size).sum = (totalSize sources : ℤ) := by
  induction sources with
  | nil => rfl
  | cons source rest ih =>
    rw [List.map_cons, List.map_cons, List.sum_cons, ih]
    simp [totalSize, ArchiveSource.record, FileRecord.of]

/-- The paths in the records of files. -/
lemma map_path_records (P : Primitives) (sources : List ArchiveSource) :
    (sources.map (ArchiveSource.record P)).map FileRecord.path =
      sources.map ArchiveSource.name := by
  simp [ArchiveSource.record, FileRecord.of, Function.comp_def]

/-- The records of a site are accepted. -/
lemma Exported.checkRecords (h : Exported services A manager entropy snapshot themes now passphrase
    manifestBytes payload backup) :
    Backup.checkRecords [] 0 (siteManifest services A manager snapshot themes now).files =
      .ok () := by
  have hpayload := safePayloadPath_siteSources A manager snapshot h.safe
  refine (checkRecords_ok_iff List.nodup_nil (by decide)).mpr ⟨?_, ?_, ?_⟩
  · intro record hrecord
    obtain ⟨source, hsource, rfl⟩ := List.mem_map.mp hrecord
    refine ⟨hpayload source hsource, Int.natCast_nonneg _, ?_, ?_⟩
    · exact Int.ofNat_le.mpr (h.sizes source hsource)
    · simp [ArchiveSource.record, FileRecord.of, length_hexEncode]
  · rw [List.append_nil]
    exact (congrArg List.Nodup (map_path_records _ _)).mpr
      (nodup_siteSources A manager snapshot themes)
  · have hsum := sum_size_records services.primitives (siteSources A manager snapshot themes)
    have htotal := h.total
    simp only [siteManifest, newManifest, hsum]
    omega

/-- What an archive that is extracted says. -/
lemma extractAndValidateArchive_ok_iff {archive : List ZipFile} (hunzip : A.unzip payload =
    some archive) {manifest : Manifest} {tree : Tree} :
    extractAndValidateArchive P A payload = .ok (manifest, tree) ↔
      (archive.length ≠ 0 ∧ archive.length ≤ maxArchiveFiles + 1) ∧
        checkZipFiles [] archive = .ok () ∧ readManifest A archive = .ok manifest ∧
        checkRecords [] 0 manifest.files = .ok () ∧
        (manifest.files.any fun record => record.path == databaseName) = true ∧
        (manifest.files.any fun record => record.path == keyName) = true ∧
        manifest.files.length + 1 = archive.length ∧
        (A.visit manifest.files).foldlM (extractRecord P archive) KeyedTable.empty = .ok tree := by
  unfold extractAndValidateArchive
  rw [hunzip]
  simp only [bind, Except.bind, pure, Except.pure]
  by_cases hcount : archive.length = 0 ∨ archive.length > maxArchiveFiles + 1
  · simp only [hcount, if_true, reduceCtorEq, false_iff]
    rintro ⟨⟨hne, hle⟩, -⟩
    omega
  have hbounds : archive.length ≠ 0 ∧ archive.length ≤ maxArchiveFiles + 1 := by omega
  simp only [hcount, if_false]
  rw [iff_true_intro hbounds, true_and]
  cases checkZipFiles [] archive with
  | error cause => simp
  | ok _ =>
  cases readManifest A archive with
  | error cause => simp
  | ok read =>
  simp only [true_and, Except.ok.injEq]
  cases hrecords : checkRecords [] 0 read.files with
  | error cause =>
    simp only [reduceCtorEq, false_iff]
    rintro ⟨rfl, hok, -⟩
    rw [hrecords] at hok
    cases hok
  | ok _ =>
  by_cases hset : (!(read.files.any fun record => record.path == databaseName) ||
      !(read.files.any fun record => record.path == keyName) ||
      read.files.length + 1 != archive.length) = true
  · simp only [hset, if_true, reduceCtorEq, false_iff]
    rintro ⟨rfl, -, hdatabase, hkey, hlength, -⟩
    simp [hdatabase, hkey, hlength] at hset
  · have hset' := hset
    simp only [Bool.or_eq_true, Bool.not_eq_true', bne_iff_ne, ne_eq, not_or, Bool.not_eq_false,
      not_not] at hset'
    obtain ⟨⟨hdatabase, hkey⟩, hlength⟩ := hset'
    simp only [hset, Bool.false_eq_true, if_false]
    cases htree : (A.visit read.files).foldlM (extractRecord P archive) KeyedTable.empty with
    | error cause =>
      simp only [reduceCtorEq, false_iff]
      rintro ⟨rfl, -, -, -, -, hok⟩
      rw [htree] at hok
      cases hok
    | ok extracted =>
      simp only [Except.ok.injEq, Prod.mk.injEq]
      constructor
      · rintro ⟨rfl, rfl⟩
        exact ⟨rfl, hrecords, hdatabase, hkey, hlength, htree⟩
      · rintro ⟨rfl, -, -, -, -, hok⟩
        rw [htree, Except.ok.injEq] at hok
        exact ⟨rfl, hok⟩

/-- An archive of a site within the limits is extracted. -/
lemma Exported.extract (h : Exported services A manager entropy snapshot themes now passphrase
    manifestBytes payload backup) (hA : A.Lossless services deflated manager.masterKey.toList)
    (hthemes : ∀ tree, themes = some (.directory tree) → tree.Rooted)
    (hreadable : Readable A manager deflated snapshot themes now manifestBytes) :
    ∃ tree, extractAndValidateArchive services.primitives A payload =
        .ok (siteManifest services A manager snapshot themes now, tree) ∧
      Extracted (siteSources A manager snapshot themes) tree := by
  set sources := siteSources A manager snapshot themes with hsources
  set entries := archiveEntries manifestBytes sources with hentries
  have hcount : (entries.map (stored deflated)).length = (themeFiles themes).length + 3 := by
    simp [hentries, archiveEntries, hsources, length_siteSources]
  have hchecks : checkZipFiles [] (entries.map (stored deflated)) = .ok () := by
    refine (checkZipFiles_ok_iff List.nodup_nil).mpr ⟨fun file hfile => ?_, ?_⟩
    · obtain ⟨e, he, rfl⟩ := List.mem_map.mp hfile
      refine ⟨h.entries.1 e he, rfl, rfl, exceedsLimits_stored.mpr ⟨?_, hreadable.ratio e he⟩⟩
      rcases List.mem_cons.mp he with rfl | hsource
      · have hle : maxManifestBytes ≤ maxArchiveFileBytes := by decide
        exact hreadable.manifest.trans hle
      · obtain ⟨source, hmem, rfl⟩ := List.mem_map.mp hsource
        exact h.sizes source hmem
    · rw [List.append_nil, List.map_map]
      exact h.entries.2
  have hmanifest := (readManifest_stored h hA).mpr ⟨rfl, hreadable.manifest, hreadable.created⟩
  rw [siteManifest_asJSON hreadable.names] at hmanifest
  have hfiles : (siteManifest services A manager snapshot themes now).files =
      sources.map (ArchiveSource.record services.primitives) := rfl
  have hdeclared : ∀ source ∈ sources, ((siteManifest services A manager snapshot themes
      now).files.any fun record => record.path == source.name) = true := by
    intro source hsource
    rw [hfiles, List.any_eq_true]
    exact ⟨_, List.mem_map_of_mem hsource, by simp [ArchiveSource.record, FileRecord.of]⟩
  have hdatabase := hdeclared ⟨databaseName, snapshot⟩ (mem_siteSources.mpr (Or.inl rfl))
  have hkey := hdeclared ⟨keyName, A.encodeBase64 manager.masterKey.toList ++ newline⟩
    (mem_siteSources.mpr (Or.inr (Or.inl rfl)))
  have hlength : (siteManifest services A manager snapshot themes now).files.length + 1 =
      (entries.map (stored deflated)).length := by
    simp [hfiles, hentries, archiveEntries]
  -- the records are visited in some order of the files
  have hvisit : ∃ order : List ArchiveSource, order.Perm sources ∧
      A.visit (sources.map (ArchiveSource.record services.primitives)) =
        order.map (ArchiveSource.record services.primitives) := by
    have hperm := hA.visit_perm (sources.map (ArchiveSource.record services.primitives))
    obtain ⟨order, horder, hperm⟩ := (congrFun (congrFun (List.eq_map_comp_perm
      (ArchiveSource.record services.primitives)) _) _).mpr hperm
    exact ⟨order, hperm, horder⟩
  obtain ⟨order, hperm, horder⟩ := hvisit
  have hcompatible := compatible_siteSources A manager snapshot hthemes
  obtain ⟨tree, htree, hextracted⟩ := foldlM_extractRecord services.primitives deflated
    entries extracted_empty
    (by
      rw [List.append_nil, (hperm.map _).nodup_iff]
      exact nodup_siteSources A manager snapshot themes)
    (by
      rw [List.append_nil]
      exact fun s hs o ho => hcompatible s (hperm.mem_iff.mp hs) o (hperm.mem_iff.mp ho))
    fun source hsource => findEntry_stored deflated h.entries.2 (List.mem_cons_of_mem _
      (List.mem_map_of_mem (hperm.mem_iff.mp hsource)))
  refine ⟨tree, ?_, hextracted.perm ?_⟩
  · refine (extractAndValidateArchive_ok_iff (h.unzip hA)).mpr ⟨?_, hchecks, hmanifest,
      h.checkRecords, hdatabase, hkey, hlength, ?_⟩
    · rw [hcount]
      exact ⟨Nat.succ_ne_zero _, hreadable.count⟩
    · rw [hfiles, horder]
      exact htree
  · rw [List.append_nil]
    exact (List.reverse_perm _).trans hperm

/-- The files that are extracted are found in the archive. -/
lemma findEntry_of_foldlM {archive : List ZipFile} {records : List FileRecord}
    {tree extracted : Tree}
    (h : records.foldlM (extractRecord P archive) tree = .ok extracted) {record : FileRecord}
    (hrecord : record ∈ records) : ∃ file ∈ archive, file.name = record.path := by
  induction records generalizing tree with
  | nil => simp at hrecord
  | cons first rest ih =>
    rw [List.foldlM_cons] at h
    cases hfirst : extractRecord P archive tree first with
    | error cause =>
      rw [hfirst] at h
      cases h
    | ok next =>
      rw [hfirst] at h
      rcases List.mem_cons.mp hrecord with rfl | hrest
      · unfold extractRecord at hfirst
        cases hfind : findEntry archive record.path with
        | none => simp [hfind] at hfirst
        | some file => exact ⟨file, findEntry_mem hfind⟩
      · exact ih h hrest

/-- No archive of a site outside the limits is extracted. -/
lemma Exported.readable_of_extract (h : Exported services A manager entropy snapshot themes now
    passphrase manifestBytes payload backup)
    (hA : A.Lossless services deflated manager.masterKey.toList)
    {manifest : Manifest} {tree : Tree}
    (hextract : extractAndValidateArchive services.primitives A payload = .ok (manifest, tree)) :
    Readable A manager deflated snapshot themes now manifestBytes := by
  obtain ⟨⟨-, hcount⟩, hchecks, hmanifest, hrecords, -, -, -, hfold⟩ :=
    (extractAndValidateArchive_ok_iff (h.unzip hA)).mp hextract
  obtain ⟨rfl, hlength, hcreated⟩ := (readManifest_stored h hA).mp hmanifest
  obtain ⟨hall, -⟩ := (checkZipFiles_ok_iff List.nodup_nil).mp hchecks
  obtain ⟨hpaths, hnodup, -⟩ := (checkRecords_ok_iff List.nodup_nil (by decide)).mp hrecords
  have hnames : ((siteManifest services A manager snapshot themes now).asJSON.files.map
      FileRecord.path) =
      (siteSources A manager snapshot themes).map fun source =>
        Utf8.replaceInvalid source.name := by
    simp [Manifest.asJSON, siteManifest, newManifest, ArchiveSource.record, FileRecord.of,
      Function.comp_def]
  rw [List.append_nil, hnames] at hnodup
  -- the declared path of a file is the name of a file
  have hdeclared : ∀ source ∈ siteSources A manager snapshot themes,
      ∃ other ∈ siteSources A manager snapshot themes,
        other.name = Utf8.replaceInvalid source.name := by
    intro source hsource
    have hmem : Utf8.replaceInvalid source.name ∈
        (siteManifest services A manager snapshot themes now).asJSON.files.map FileRecord.path := by
      rw [hnames]
      exact List.mem_map_of_mem (f := fun s : ArchiveSource => Utf8.replaceInvalid s.name) hsource
    obtain ⟨record, hrecord, hpath⟩ := List.mem_map.mp hmem
    have hvisited := (hA.visit_perm _).mem_iff.mpr hrecord
    obtain ⟨file, hfile, hname⟩ := findEntry_of_foldlM hfold hvisited
    obtain ⟨e, he, rfl⟩ := List.mem_map.mp hfile
    rcases List.mem_cons.mp he with rfl | hentry
    · have hne := ne_manifestName_of_safePayloadPath (hpaths record hrecord).1
      exact absurd hname.symm hne
    · obtain ⟨other, hother, rfl⟩ := List.mem_map.mp hentry
      exact ⟨other, hother, hname.trans hpath⟩
  refine ⟨?_, fun e he => ?_, hlength, fun source hsource => ?_, hcreated⟩
  · simpa [archiveEntries, length_siteSources] using hcount
  · exact (exceedsLimits_stored.mp (hall _ (List.mem_map_of_mem he)).2.2.2).2
  · have hmem : source ∈ siteSources A manager snapshot themes :=
      mem_siteSources.mpr (Or.inr (Or.inr hsource))
    obtain ⟨other, hother, hname⟩ := hdeclared source hmem
    have hsame : other = source := by
      refine List.inj_on_of_nodup_map hnodup hother hmem ?_
      show Utf8.replaceInvalid other.name = Utf8.replaceInvalid source.name
      rw [hname, Utf8.replaceInvalid_replaceInvalid]
    rw [← hname, hsame]

end Import

end Backup

end Hostpin
