import Hostpin.Backup.Limits

/-!
# Which backups can be restored

A backup that was exported is staged and passes the checks of a staged tree exactly when it keeps
the limits that only the reading side has (`restorable_iff`): those of `Readable`, the size of the
decrypted payload, the length of the description and the total size of the staged tree.

Staging changes one file, since the sessions of the database are deleted, and adds the description;
`Exported.staged` says what is staged.
-/

namespace Hostpin

open Clock

namespace Backup

open Procedure (Safely)

variable {P : Primitives} {A : Archiver} {manager : Manager} {services : Services}
  {sources : List ArchiveSource} {tree : Tree}

/-! ## Changed trees -/

/-- Replacing the first file of a tree that holds files. -/
lemma Extracted.replace {name old new : Bytes}
    (h : Extracted (⟨name, old⟩ :: sources) tree) (hnew : name ∉ sources.map ArchiveSource.name) :
    Extracted (⟨name, new⟩ :: sources) (tree.put name (.regular new)) := by
  unfold Tree.put
  split_ifs with hsame
  · have hmem := h.mem_iff.mp (Tree.find?_eq_some_iff.mp hsame)
    rcases List.mem_cons.mp hmem with heq | hrest
    · rwa [heq]
    · exact absurd (List.mem_map_of_mem (f := ArchiveSource.name) hrest) hnew
  · have hkept : ((sources.map ArchiveSource.row).filter fun e => !decide (e.1 = name)) =
        sources.map ArchiveSource.row := by
      refine List.filter_eq_self.mpr fun e he => ?_
      obtain ⟨source, hsource, rfl⟩ := List.mem_map.mp he
      have hne : source.name ≠ name := by
        rintro rfl
        exact hnew (List.mem_map_of_mem hsource)
      simp [ArchiveSource.row, hne]
    have hregular := h.regular.filter fun e => !decide (e.1 = name)
    rw [List.map_cons, List.filter_cons_of_neg (by simp [ArchiveSource.row]), hkept] at hregular
    refine ⟨?_, fun e he hirregular => ?_⟩
    · show List.Perm (List.filter _ (_ ++ _)) _
      rw [List.filter_append, List.filter_comm]
      exact (hregular.append_right _).trans (List.perm_append_singleton _ _)
    · rcases List.mem_append.mp he with hold | hlast
      · obtain ⟨hdir, source, hsource, hparent⟩ :=
          h.directories e (List.mem_of_mem_filter hold) hirregular
        rcases List.mem_cons.mp hsource with rfl | hrest
        · exact ⟨hdir, _, List.mem_cons_self, hparent⟩
        · exact ⟨hdir, source, List.mem_cons_of_mem _ hrest, hparent⟩
      · rw [List.mem_singleton.mp hlast] at hirregular
        cases hirregular

/-- The total size of the entries of a tree is that of its files. -/
lemma sum_size_filter (rows : List (Bytes × Entry)) :
    (rows.map fun e => e.2.size).sum =
      ((rows.filter fun e => e.2.isRegular).map fun e => e.2.size).sum := by
  induction rows with
  | nil => rfl
  | cons e rest ih =>
    obtain ⟨name, entry⟩ := e
    cases entry with
    | regular contents =>
      rw [List.filter_cons_of_pos rfl, List.map_cons, List.map_cons, List.sum_cons, List.sum_cons,
        ih]
    | directory =>
      rw [List.filter_cons_of_neg (by simp [Entry.isRegular]), List.map_cons, List.sum_cons, ← ih]
      exact Nat.zero_add _
    | irregular =>
      rw [List.filter_cons_of_neg (by simp [Entry.isRegular]), List.map_cons, List.sum_cons, ← ih]
      exact Nat.zero_add _

/-- The size of a tree that holds files. -/
lemma Extracted.sum_size (h : Extracted sources tree) :
    (tree.rows.map fun e => e.2.size).sum = totalSize sources := by
  rw [sum_size_filter, (h.regular.map _).sum_eq, List.map_map]
  rfl

/-- The number of files of a tree that holds files. -/
lemma Extracted.countP (h : Extracted sources tree) :
    tree.rows.countP (fun e => e.2.isRegular) = sources.length := by
  rw [List.countP_eq_length_filter, h.regular.length_eq, List.length_map]

/-- The directories above a declared file are that of the themes and those below it. -/
lemma mem_parents_of_safePayloadPath {name path : Bytes} (h : safePayloadPath name = true)
    (hparent : path ∈ parents name) :
    path = themesName ∨ themesPrefix.isPrefixOf path = true := by
  have hdatabase : parents databaseName = [] := by decide
  have hkey : parents keyName = [] := by decide
  have hinside : slash ∉ themesName := by decide
  simp only [safePayloadPath, Bool.and_eq_true, Bool.or_eq_true, beq_iff_eq] at h
  rcases h.2 with (rfl | rfl) | htheme
  · simp [hdatabase] at hparent
  · simp [hkey] at hparent
  obtain ⟨below, hbelow⟩ := mem_parents.mp hparent
  obtain ⟨rest, hrest⟩ := List.isPrefixOf_iff_prefix.mp htheme
  have hsplit : themesName ++ slash :: rest = path ++ slash :: below := by
    rw [← hbelow, ← hrest]
    rfl
  rcases List.append_eq_append_iff.mp hsplit with ⟨after, hpath, hafter⟩ | ⟨after, hname, hafter⟩
  · cases after with
    | nil => exact Or.inl (by rw [hpath, List.append_nil])
    | cons byte after =>
      refine Or.inr (List.isPrefixOf_iff_prefix.mpr ⟨after, ?_⟩)
      rw [hpath, ← (List.cons.inj hafter).1]
      rfl
  · cases after with
    | nil => exact Or.inl (by rw [hname, List.append_nil])
    | cons byte after =>
      refine absurd ?_ hinside
      rw [hname, ← (List.cons.inj hafter).1]
      exact List.mem_append_right _ List.mem_cons_self

/-- The paths of a tree that holds declared files. -/
lemma Extracted.path_cases (h : Extracted sources tree)
    (hsafe : ∀ source ∈ sources, safePayloadPath source.name = true) {e : Bytes × Entry}
    (he : e ∈ tree.rows) : e.1 = databaseName ∨ e.1 = keyName ∨ e.1 = themesName ∨
      themesPrefix.isPrefixOf e.1 = true := by
  rcases h.cases he with ⟨source, hsource, rfl⟩ | ⟨-, source, hsource, hparent⟩
  · have hpath := hsafe source hsource
    simp only [safePayloadPath, Bool.and_eq_true, Bool.or_eq_true, beq_iff_eq] at hpath
    rcases hpath.2 with (hdatabase | hkey) | htheme
    · exact Or.inl hdatabase
    · exact Or.inr (Or.inl hkey)
    · exact Or.inr (Or.inr (Or.inr htheme))
  · exact Or.inr (Or.inr (mem_parents_of_safePayloadPath (hsafe source hsource) hparent))

/-- Paths that a tree of declared files does not have. -/
lemma Extracted.notMem (path : Bytes) (h : Extracted sources tree)
    (hsafe : ∀ source ∈ sources, safePayloadPath source.name = true)
    (hpath : path ∉ [databaseName, keyName, themesName])
    (htheme : themesPrefix.isPrefixOf path = false) : path ∉ tree.rows.map Prod.fst := by
  intro hmem
  obtain ⟨e, he, rfl⟩ := List.mem_map.mp hmem
  rcases h.path_cases hsafe he with hname | hname | hname | hpre
  · simp [hname] at hpath
  · simp [hname] at hpath
  · simp [hname] at hpath
  · rw [hpre] at htheme
    cases htheme

/-- The paths of a tree of declared files are those of a restore. -/
lemma Extracted.allowed (h : Extracted sources tree)
    (hsafe : ∀ source ∈ sources, safePayloadPath source.name = true) :
    ∀ e ∈ tree.rows, e.2 ≠ .irregular ∧ pendingAllowed e.1 = true := by
  intro e he
  refine ⟨?_, ?_⟩
  · rcases h.cases he with ⟨source, -, rfl⟩ | ⟨hdir, -⟩
    · simp [ArchiveSource.row]
    · simp [hdir]
  · rcases h.path_cases hsafe he with hname | hname | hname | hpre
    · rw [hname]
      rfl
    · rw [hname]
      rfl
    · rw [hname]
      rfl
    · simp [pendingAllowed, hpre]

/-! ## The staged tree -/

/-- The checks of a snapshot of the database when it is restored with the master key. -/
def SnapshotAccepted (services : Services) (masterKey snapshot : Bytes) : Prop :=
  ∃ database, services.connect (some (.regular snapshot)) none = some database ∧
    checkDatabase services masterKey database = .ok () ∧ database.sessions ≠ none

/-- The database file of a snapshot after the sessions were deleted. -/
def restoredSnapshot (services : Services) (snapshot : Bytes) : Bytes :=
  services.flush (some (.regular snapshot)) none

/-- A file of a site as it is staged. -/
def stagedSource (services : Services) (snapshot : Bytes) (source : ArchiveSource) :
    ArchiveSource :=
  if source.name = databaseName then ⟨databaseName, restoredSnapshot services snapshot⟩ else source

/-- The files of a site as they are staged. -/
def stagedSources (services : Services) (A : Archiver) (manager : Manager) (snapshot : Bytes)
    (themes : Option Node) : List ArchiveSource :=
  (siteSources A manager snapshot themes).map (stagedSource services snapshot)

/-- The manifest of a site as it is staged. -/
def stagedManifest (services : Services) (A : Archiver) (manager : Manager) (snapshot : Bytes)
    (themes : Option Node) (now : Time) : Manifest :=
  newManifest manager now
    ((stagedSources services A manager snapshot themes).map
      (ArchiveSource.record services.primitives))

/-- The description of a site that is staged. -/
def stagedPending (services : Services) (A : Archiver) (manager : Manager) (snapshot : Bytes)
    (themes : Option Node) (now : Time) (actor : String) (later : Time) : PendingRestore :=
  newPending manager actor later (stagedManifest services A manager snapshot themes now)

section Staging

variable {deflated : Bytes → ℕ} {entropy : Entropy} {snapshot : Bytes} {themes : Option Node}
  {now later : Time} {passphrase manifestBytes payload backup : Bytes} {actor : String}

/-- A file keeps its name when it is staged. -/
lemma name_stagedSource (services : Services) (snapshot : Bytes) (source : ArchiveSource) :
    (stagedSource services snapshot source).name = source.name := by
  unfold stagedSource
  split_ifs with hname
  · exact hname.symm
  · rfl

/-- The names of a site as it is staged. -/
lemma map_name_stagedSources (services : Services) (A : Archiver) (manager : Manager)
    (snapshot : Bytes) (themes : Option Node) :
    (stagedSources services A manager snapshot themes).map ArchiveSource.name =
      (siteSources A manager snapshot themes).map ArchiveSource.name := by
  simp [stagedSources, Function.comp_def, name_stagedSource]

/-- The themes of a site do not have the name of the database. -/
lemma ne_databaseName_of_mem_themeFiles {source : ArchiveSource} (h : source ∈ themeFiles themes) :
    source.name ≠ databaseName := by
  intro hname
  have hpre := isPrefixOf_name_of_mem_themeFiles h
  rw [hname] at hpre
  exact absurd hpre (by decide)

/-- The files of a site as they are staged, in another order. -/
lemma stagedSources_perm (services : Services) (A : Archiver) (manager : Manager)
    (snapshot : Bytes) (themes : Option Node) :
    (stagedSources services A manager snapshot themes).Perm
      (⟨databaseName, restoredSnapshot services snapshot⟩ ::
        ⟨keyName, A.encodeBase64 manager.masterKey.toList ++ newline⟩ :: themeFiles themes) := by
  have hperm := (siteSources_perm A manager snapshot themes).map (stagedSource services snapshot)
  have hkey : keyName ≠ databaseName := by decide
  have hthemes : (themeFiles themes).map (stagedSource services snapshot) = themeFiles themes := by
    refine (List.map_congr_left fun source hsource => ?_).trans (List.map_id _)
    exact if_neg (ne_databaseName_of_mem_themeFiles hsource)
  rwa [List.map_cons, List.map_cons, hthemes, stagedSource, if_pos rfl, stagedSource, if_neg hkey]
    at hperm

/-- Replacing the record of a file. -/
lemma replaceRecord_stagedSource (services : Services) (snapshot : Bytes)
    {sources : List ArchiveSource} (hnodup : (sources.map ArchiveSource.name).Nodup)
    (hmem : databaseName ∈ sources.map ArchiveSource.name) :
    replaceRecord (FileRecord.of P databaseName (restoredSnapshot services snapshot))
        (sources.map (ArchiveSource.record P)) =
      some ((sources.map (stagedSource services snapshot)).map (ArchiveSource.record P)) := by
  induction sources with
  | nil => simp at hmem
  | cons source rest ih =>
    rw [List.map_cons, List.nodup_cons] at hnodup
    have hpath : (source.record P).path = source.name := rfl
    have htarget : (FileRecord.of P databaseName (restoredSnapshot services snapshot)).path =
      databaseName := rfl
    rw [List.map_cons, replaceRecord, hpath, htarget]
    by_cases hname : source.name = databaseName
    · have hrest : rest.map (stagedSource services snapshot) = rest := by
        refine (List.map_congr_left fun other hother => ?_).trans (List.map_id _)
        refine if_neg fun hsame => hnodup.1 ?_
        rw [hname, ← hsame]
        exact List.mem_map_of_mem hother
      rw [if_pos (by simpa using hname), List.map_cons, List.map_cons, hrest, stagedSource,
        if_pos hname]
      rfl
    · have hmem' : databaseName ∈ rest.map ArchiveSource.name :=
        (List.mem_cons.mp hmem).resolve_left fun hsame => hname hsame.symm
      rw [if_neg (by simpa using hname), ih hnodup.2 hmem', List.map_cons, List.map_cons,
        stagedSource, if_neg hname]
      rfl

/-- Trimming a tree without a log changes nothing. -/
lemma Tree.trim_eq_self (hwal : tree.find? walName = none) (hshm : tree.find? shmName = none)
    (wal shm : Bool) : tree.trim wal shm = tree := by
  have hremove : ∀ {t : Tree} {path}, t.find? path = none → t.remove path = t := by
    intro t path hnone
    refine Tree.eq_of_rows (List.filter_eq_self.mpr fun e he => ?_)
    have hne : e.1 ≠ path := by
      rintro rfl
      rw [Tree.find?_eq_some_iff.mpr he] at hnone
      cases hnone
    simp [hne]
  cases wal <;> cases shm <;> simp [Tree.trim, hremove hwal, hremove hshm]

/-- Validating the database of an extracted site. -/
lemma validateExtracted_eq (hA : A.Lossless services deflated manager.masterKey.toList)
    (hsnapshot : SnapshotAccepted services manager.masterKey.toList snapshot)
    (hsafe : ∀ source ∈ themeFiles themes, safeArchivePath source.name = true)
    (h : Extracted (siteSources A manager snapshot themes) tree) :
    validateExtracted services tree = (.ok manager.masterKey.toList,
      tree.put databaseName (.regular (restoredSnapshot services snapshot))) := by
  have hpayload := safePayloadPath_siteSources A manager snapshot hsafe
  have hnone : ∀ {path : Bytes}, path ∉ [databaseName, keyName, themesName] →
      themesPrefix.isPrefixOf path = false → tree.find? path = none := fun hpath htheme =>
    (Tree.rows_put_of_notMem .directory (h.notMem _ hpayload hpath htheme)).1
  have hwal : tree.find? walName = none := hnone (by decide) (by decide)
  have hshm : tree.find? shmName = none := hnone (by decide) (by decide)
  have hmain : tree.find? databaseName = some (.regular snapshot) :=
    Tree.find?_eq_some_iff.mpr (h.mem_iff.mpr (mem_siteSources.mpr (Or.inl rfl)))
  have hkey : tree.file? keyName = some (A.encodeBase64 manager.masterKey.toList ++ newline) :=
    Tree.file?_eq_some_iff.mpr (Tree.find?_eq_some_iff.mpr
      (h.mem_iff.mpr (mem_siteSources.mpr (Or.inr (Or.inl rfl)))))
  obtain ⟨database, hconnect, hcheck, hsessions⟩ := hsnapshot
  have hcleared : cleared services tree =
      tree.put databaseName (.regular (restoredSnapshot services snapshot)) := by
    rw [cleared, flushed, hmain, hwal, restoredSnapshot]
  have hsafely : Safely (handle services noFaults) (fun _ => True)
      (fun result t => result = .ok manager.masterKey.toList ∧ ∃ wal shm,
        t = Files.withPending (fun _ => none) ((cleared services tree).trim wal shm))
      (validateRestoredDatabase services) (Files.withPending (fun _ => none) tree) :=
    safely_validateRestoredDatabase (fun _ _ => rfl) hkey (decodeMasterKey_encode hA)
      (by rw [hmain, hwal]; exact hconnect) hcheck hsessions trivial fun _ _ => trivial
  have hstart : (fun place => if place = Place.pending then some (Node.directory tree) else none) =
      Files.withPending (fun _ => none) tree := by
    funext place
    by_cases hplace : place = .pending
    · simp [hplace, Files.withPending]
    · simp [hplace, Files.withPending, Files.set_of_ne]
  obtain ⟨hresult, wal, shm, hfiles⟩ := hsafely.run
  have hwal' : (cleared services tree).find? walName = none := by
    rw [hcleared, Tree.find?_put_of_ne (by decide), hwal]
  have hshm' : (cleared services tree).find? shmName = none := by
    rw [hcleared, Tree.find?_put_of_ne (by decide), hshm]
  unfold validateExtracted
  rw [hstart]
  refine Prod.ext hresult ?_
  show Option.getD _ tree = _
  rw [hfiles, Tree.trim_eq_self hwal' hshm', Files.pendingTree_withPending, hcleared]
  rfl

/-- What is staged of a site. -/
lemma Extracted.staged (services : Services)
    (h : Extracted (siteSources A manager snapshot themes) tree) :
    Extracted (stagedSources services A manager snapshot themes)
      (tree.put databaseName (.regular (restoredSnapshot services snapshot))) := by
  have hnew : databaseName ∉ (⟨keyName, A.encodeBase64 manager.masterKey.toList ++ newline⟩ ::
      themeFiles themes).map ArchiveSource.name := by
    have hnodup := nodup_siteSources A manager snapshot themes
    rw [((siteSources_perm A manager snapshot themes).map _).nodup_iff, List.map_cons,
      List.nodup_cons] at hnodup
    exact hnodup.1
  exact ((h.perm (siteSources_perm A manager snapshot themes)).replace hnew).perm
    (stagedSources_perm services A manager snapshot themes).symm

/-- Reading the container of an exported site. -/
lemma Exported.decrypt (h : Exported services A manager entropy snapshot themes now passphrase
    manifestBytes payload backup) (hA : A.Lossless services deflated manager.masterKey.toList)
    (hP : services.primitives.Lawful entropy.cpus entropy.salt entropy.noncePrefix)
    (hcpus : 0 < entropy.cpus) :
    decryptContainer services.primitives backup passphrase maxArchiveBytes =
      if payload.length ≤ maxArchiveBytes then .ok payload else .error .exceedsSizeLimit := by
  rw [decryptContainer_of_encryptContainer hP hcpus h.accepted (hA.length_zip _ _ h.zip) _
    h.container]
  by_cases hle : payload.length ≤ maxArchiveBytes
  · rw [if_pos hle, if_pos (Or.inl (Int.ofNat_le.mpr hle))]
  · rw [if_neg hle, if_neg]
    rintro (hle' | rfl)
    · exact hle (Int.ofNat_le.mp hle')
    · exact hle (Nat.zero_le _)

/-- A site within the limits of an import is staged. -/
lemma Exported.stageRestore (h : Exported services A manager entropy snapshot themes now passphrase
    manifestBytes payload backup) (actor : String) (later : Time)
    (hA : A.Lossless services deflated manager.masterKey.toList)
    (hP : services.primitives.Lawful entropy.cpus entropy.salt entropy.noncePrefix)
    (hcpus : 0 < entropy.cpus)
    (hsnapshot : SnapshotAccepted services manager.masterKey.toList snapshot)
    (hthemes : ∀ tree, themes = some (.directory tree) → tree.Rooted)
    (hreadable : Readable A manager deflated snapshot themes now manifestBytes)
    (hpayload : payload.length ≤ maxArchiveBytes) :
    ∃ staged, Extracted (stagedSources services A manager snapshot themes) staged ∧
      Backup.stageRestore services A manager false backup passphrase actor later =
        .ok (stagedManifest services A manager snapshot themes now,
          staged.put pendingMetadata (.regular (pendingBytes A
            (stagedPending services A manager snapshot themes now actor later)))) := by
  obtain ⟨tree, hextract, hextracted⟩ := h.extract hA hthemes hreadable
  have hstaged := hextracted.staged services
  refine ⟨_, hstaged, ?_⟩
  have hvalidate := validateExtracted_eq hA hsnapshot h.safe hextracted
  have hfile : (tree.put databaseName (.regular (restoredSnapshot services snapshot))).file?
      databaseName = some (restoredSnapshot services snapshot) :=
    Tree.file?_eq_some_iff.mpr (Tree.find?_put_self _ _ _)
  have hreplace := replaceRecord_stagedSource (P := services.primitives) services snapshot
    (nodup_siteSources A manager snapshot themes)
    (List.mem_map.mpr ⟨_, mem_siteSources.mpr (Or.inl rfl), rfl⟩)
  have hrefresh : refreshManifestRecord services.primitives
      (siteManifest services A manager snapshot themes now)
      (tree.put databaseName (.regular (restoredSnapshot services snapshot))) databaseName =
      .ok (stagedManifest services A manager snapshot themes now) := by
    unfold refreshManifestRecord
    simp only [hfile, siteManifest, newManifest, hreplace]
    rfl
  unfold Backup.stageRestore
  simp only [h.available, h.decrypt hA hP hcpus, hpayload, if_true, hextract, hvalidate, hrefresh,
    bind, Except.bind, Bool.not_true, Bool.false_eq_true, if_false]
  rw [if_neg (by simp)]
  rfl

/-- A site that is staged keeps the limits of an import. -/
lemma Exported.readable_of_stageRestore (h : Exported services A manager entropy snapshot themes now
    passphrase manifestBytes payload backup)
    (hA : A.Lossless services deflated manager.masterKey.toList)
    (hP : services.primitives.Lawful entropy.cpus entropy.salt entropy.noncePrefix)
    (hcpus : 0 < entropy.cpus) {result : Manifest × Tree}
    (hstage : Backup.stageRestore services A manager false backup passphrase actor later =
      .ok result) :
    Readable A manager deflated snapshot themes now manifestBytes ∧
      payload.length ≤ maxArchiveBytes := by
  unfold Backup.stageRestore at hstage
  simp only [h.available, h.decrypt hA hP hcpus, bind, Except.bind, Bool.not_true,
    Bool.false_eq_true, if_false] at hstage
  by_cases hpayload : payload.length ≤ maxArchiveBytes
  · refine ⟨?_, hpayload⟩
    cases hextract : extractAndValidateArchive services.primitives A payload with
    | error cause => simp [hpayload, hextract] at hstage
    | ok extracted => exact h.readable_of_extract hA hextract
  · simp [hpayload] at hstage

/-! ## The checks of the staged tree -/

/-- The names of the staged files of a site may be declared by a manifest. -/
lemma safePayloadPath_stagedSources (services : Services) (A : Archiver) (manager : Manager)
    (snapshot : Bytes)
    (hsafe : ∀ source ∈ themeFiles themes, safeArchivePath source.name = true) :
    ∀ source ∈ stagedSources services A manager snapshot themes,
      safePayloadPath source.name = true := by
  intro source hsource
  obtain ⟨original, horiginal, rfl⟩ := List.mem_map.mp hsource
  rw [name_stagedSource]
  exact safePayloadPath_siteSources A manager snapshot hsafe original horiginal

/-- What may be declared by a manifest has to be. -/
lemma exempt_of_safePayloadPath {name : Bytes} (h : safePayloadPath name = true) :
    exempt name = false := by
  have hne : ∀ other : Bytes, safePayloadPath other = false → (name == other) = false := by
    intro other hother
    rw [beq_eq_false_iff_ne]
    rintro rfl
    rw [h] at hother
    cases hother
  simp [exempt, hne pendingMetadata (by decide), hne walName (by decide), hne shmName (by decide)]

/-- The paths and sizes of the staged tree of a site are accepted when the total size is. -/
lemma validatePendingTree_staged {metadata : Bytes}
    (h : Extracted (stagedSources services A manager snapshot themes) tree)
    (hsafe : ∀ source ∈ themeFiles themes, safeArchivePath source.name = true)
    (hcount : (themeFiles themes).length ≤ maxArchiveFiles) :
    validatePendingTree (.directory (tree.put pendingMetadata (.regular metadata))) = .ok () ↔
      totalSize (stagedSources services A manager snapshot themes) + metadata.length ≤
        maxArchiveBytes := by
  have hnames : ∀ source ∈ stagedSources services A manager snapshot themes,
      safePayloadPath source.name = true :=
    safePayloadPath_stagedSources services A manager snapshot hsafe
  have hrows := (Tree.rows_put_of_notMem (.regular metadata)
    (h.notMem pendingMetadata hnames (by decide) (by decide))).2
  have hlength : (stagedSources services A manager snapshot themes).length =
      (themeFiles themes).length + 2 := by
    rw [stagedSources, List.length_map, length_siteSources]
  rw [validatePendingTree_ok_iff, hrows, List.countP_append, List.map_append, List.sum_append,
    h.countP, h.sum_size, hlength]
  have hone : [(pendingMetadata, Entry.regular metadata)].countP (fun e => e.2.isRegular) = 1 := rfl
  have hsize : ([(pendingMetadata, Entry.regular metadata)].map fun e => e.2.size).sum =
      metadata.length := by
    simp [Entry.size]
  rw [hone, hsize]
  constructor
  · exact fun hall => hall.2.2
  · refine fun htotal => ⟨fun e he => ?_, by omega, htotal⟩
    rcases List.mem_append.mp he with hold | hlast
    · exact h.allowed hnames e hold
    · rw [List.mem_singleton.mp hlast]
      exact ⟨by simp, rfl⟩

/-- The files of the staged tree of a site agree with the staged manifest. -/
lemma verifyPendingChecksums_staged {metadata : Bytes}
    (h : Extracted (stagedSources services A manager snapshot themes) tree)
    (hsafe : ∀ source ∈ themeFiles themes, safeArchivePath source.name = true) :
    verifyPendingChecksums services.primitives
        (.directory (tree.put pendingMetadata (.regular metadata)))
        (stagedManifest services A manager snapshot themes now) = .ok () := by
  have hnames := safePayloadPath_stagedSources services A manager snapshot hsafe
  have hrows := (Tree.rows_put_of_notMem (.regular metadata)
    (h.notMem pendingMetadata hnames (by decide) (by decide))).2
  have hfiles : (stagedManifest services A manager snapshot themes now).files =
      (stagedSources services A manager snapshot themes).map
        (ArchiveSource.record services.primitives) := rfl
  -- what has to be declared are the regular files of the site
  have hdeclare : ∀ e ∈ tree.rows, mustDeclare e = e.2.isRegular := by
    intro e he
    rcases h.cases he with ⟨source, hsource, rfl⟩ | ⟨hdir, -⟩
    · have hexempt : exempt source.name = false := exempt_of_safePayloadPath (hnames source hsource)
      simp [mustDeclare, ArchiveSource.row, hexempt, Entry.isRegular]
    · simp [mustDeclare, hdir, Entry.isRegular]
  have hmetadata : mustDeclare (pendingMetadata, .regular metadata) = false := by
    simp [mustDeclare, show exempt pendingMetadata = true from rfl]
  refine verifyPendingChecksums_eq_ok ?_ ?_ ?_ ?_
  · rw [hfiles, map_path_records, map_name_stagedSources]
    exact nodup_siteSources A manager snapshot themes
  · intro record hrecord
    obtain ⟨source, hsource, rfl⟩ := List.mem_map.mp hrecord
    exact hnames source hsource
  · rw [hrows, List.countP_append, List.countP_congr fun e he => by rw [hdeclare e he], h.countP,
      hfiles, List.length_map]
    simp [hmetadata]
  · intro e he hmust
    rw [hrows] at he
    rcases List.mem_append.mp he with hold | hlast
    · rcases h.cases hold with ⟨source, hsource, rfl⟩ | ⟨hdir, -⟩
      · exact ⟨source.record services.primitives, List.mem_map_of_mem hsource, source.contents,
          rfl, rfl, rfl, equalFold_self _⟩
      · simp [mustDeclare, hdir] at hmust
    · rw [List.mem_singleton.mp hlast, hmetadata] at hmust
      cases hmust

/-- The staged manifest comes back unchanged when the names do. -/
lemma stagedManifest_asJSON (services : Services) (A : Archiver) (manager : Manager)
    (snapshot : Bytes) (now : Time)
    (hnames : ∀ source ∈ themeFiles themes, Utf8.replaceInvalid source.name = source.name) :
    (stagedManifest services A manager snapshot themes now).asJSON =
      stagedManifest services A manager snapshot themes now := by
  have hfiles : ((stagedSources services A manager snapshot themes).map
      (ArchiveSource.record services.primitives)).map
        (fun record => { record with path := Utf8.replaceInvalid record.path }) =
      (stagedSources services A manager snapshot themes).map
        (ArchiveSource.record services.primitives) := by
    rw [List.map_map]
    refine List.map_congr_left fun source hsource => ?_
    obtain ⟨original, horiginal, rfl⟩ := List.mem_map.mp hsource
    simp only [Function.comp_apply, ArchiveSource.record, FileRecord.of, name_stagedSource]
    rw [replaceInvalid_siteSources hnames original horiginal]
  unfold Manifest.asJSON stagedManifest newManifest
  simp only [hfiles]

/-- The description of the staged tree of a site is accepted when it could be written and is short
enough. -/
lemma checkMetadata_staged (h : Exported services A manager entropy snapshot themes now passphrase
    manifestBytes payload backup) (hA : A.Lossless services deflated manager.masterKey.toList)
    (hreadable : Readable A manager deflated snapshot themes now manifestBytes)
    {pending : PendingRestore} :
    checkMetadata services manager.config (pendingBytes A
        (stagedPending services A manager snapshot themes now actor later)) = .ok pending ↔
      pending = stagedPending services A manager snapshot themes now actor later ∧
        A.marshalPending (stagedPending services A manager snapshot themes now actor later) ≠ none ∧
        (pendingBytes A (stagedPending services A manager snapshot themes now actor later)).length ≤
          maxManifestBytes := by
  set staged := stagedPending services A manager snapshot themes now actor later with hstaged
  have havailable := h.available
  simp only [Manager.available, Bool.not_eq_true'] at havailable
  have hjson : staged.asJSON = staged := by
    have hmanifest := stagedManifest_asJSON services A manager snapshot now hreadable.names
    simp only [hstaged, PendingRestore.asJSON, stagedPending, newPending, hmanifest]
  have hsupported : staged.manifest.supported = true := by
    have hdriver : manager.config.driver = "sqlite" := by
      simpa using (Bool.or_eq_false_iff.mp havailable).1
    simp [Manifest.supported, hstaged, stagedPending, newPending, stagedManifest, newManifest,
      hdriver, hreadable.created]
  unfold checkMetadata
  rw [if_neg (by simp [havailable])]
  cases hmarshal : A.marshalPending staged with
  | none =>
    have hbytes : pendingBytes A staged = newline := by rw [pendingBytes, hmarshal]; rfl
    rw [hbytes, hA.unmarshalPending_newline, if_neg (by decide)]
    simp
  | some bytes =>
    have hbytes : pendingBytes A staged = bytes ++ newline := by rw [pendingBytes, hmarshal]; rfl
    rw [hbytes, hA.unmarshal_marshalPending _ _ hmarshal, hjson]
    by_cases hlength : (bytes ++ newline).length ≤ maxManifestBytes
    · simp only [gt_iff_lt, hlength.not_gt, if_false, hsupported, if_true, Except.ok.injEq, ne_eq,
        reduceCtorEq, not_false_eq_true, hlength, and_true, eq_comm]
    · simp only [gt_iff_lt, not_le.mp hlength, if_true, reduceCtorEq, hlength, and_false]

end Staging

/-! ## Restorable backups -/

/-- The text of the manifest of a site. -/
def siteManifestBytes (services : Services) (A : Archiver) (manager : Manager) (snapshot : Bytes)
    (themes : Option Node) (now : Time) : Bytes :=
  (A.marshalManifest (siteManifest services A manager snapshot themes now)).getD []

/-- The archive of a site. -/
def sitePayload (services : Services) (A : Archiver) (manager : Manager) (snapshot : Bytes)
    (themes : Option Node) (now : Time) : Bytes :=
  (A.zip (archiveEntries (siteManifestBytes services A manager snapshot themes now)
    (siteSources A manager snapshot themes))).getD []

/-- The text of the description of a site that is staged. -/
def stagedMetadata (services : Services) (A : Archiver) (manager : Manager) (snapshot : Bytes)
    (themes : Option Node) (now : Time) (actor : String) (later : Time) : Bytes :=
  pendingBytes A (stagedPending services A manager snapshot themes now actor later)

/-- The limits that only the reading side has. -/
structure WithinLimits (services : Services) (A : Archiver) (manager : Manager)
    (deflated : Bytes → ℕ) (snapshot : Bytes) (themes : Option Node) (now : Time) (actor : String)
    (later : Time) : Prop where
  readable : Readable A manager deflated snapshot themes now
    (siteManifestBytes services A manager snapshot themes now)
  payload : (sitePayload services A manager snapshot themes now).length ≤ maxArchiveBytes
  described : A.marshalPending
    (stagedPending services A manager snapshot themes now actor later) ≠ none
  description : (stagedMetadata services A manager snapshot themes now actor later).length ≤
    maxManifestBytes
  total : totalSize (stagedSources services A manager snapshot themes) +
    (stagedMetadata services A manager snapshot themes now actor later).length ≤ maxArchiveBytes

/-- A backup is staged, and the staged tree passes the checks of paths, description and files. -/
def Restorable (services : Services) (A : Archiver) (manager : Manager)
    (backup passphrase : Bytes) (actor : String) (later : Time) : Prop :=
  ∃ manifest tree metadata pending,
    stageRestore services A manager false backup passphrase actor later = .ok (manifest, tree) ∧
      validatePendingTree (.directory tree) = .ok () ∧
      tree.file? pendingMetadata = some metadata ∧
      checkMetadata services manager.config metadata = .ok pending ∧
      verifyPendingChecksums services.primitives (.directory tree) pending.manifest = .ok ()

/-- An exported backup of a site, whose database passes the checks of a restore, can be restored by
the same version with the same passphrase and master key exactly when it is within the limits that
only the reading side has. -/
theorem restorable_iff (services : Services) (A : Archiver) (deflated : Bytes → ℕ)
    (manager : Manager) (hA : A.Lossless services deflated manager.masterKey.toList)
    (entropy : Entropy)
    (hP : services.primitives.Lawful entropy.cpus entropy.salt entropy.noncePrefix)
    (hcpus : 0 < entropy.cpus) (snapshot : Bytes)
    (hsnapshot : SnapshotAccepted services manager.masterKey.toList snapshot)
    (themes : Option Node) (hthemes : ∀ tree, themes = some (.directory tree) → tree.Rooted)
    (now later : Time) (passphrase : Bytes) (actor : String) (backup : Bytes) (manifest : Manifest)
    (hexport : exportBackup services A manager entropy snapshot themes now passphrase =
      .ok (backup, manifest)) :
    Restorable services A manager backup passphrase actor later ↔
      WithinLimits services A manager deflated snapshot themes now actor later := by
  obtain ⟨-, manifestBytes, payload, h⟩ := exportBackup_ok hexport
  have hmanifest : siteManifestBytes services A manager snapshot themes now = manifestBytes := by
    rw [siteManifestBytes, h.marshal]
    rfl
  have hpayload : sitePayload services A manager snapshot themes now = payload := by
    rw [sitePayload, hmanifest, h.zip]
    rfl
  constructor
  · rintro ⟨staged, tree, metadata, pending, hstage, hpaths, hfile, hmetadata, -⟩
    obtain ⟨hreadable, hle⟩ := h.readable_of_stageRestore hA hP hcpus hstage
    obtain ⟨extracted, hextracted, hstaged⟩ :=
      h.stageRestore actor later hA hP hcpus hsnapshot hthemes hreadable hle
    obtain ⟨rfl, rfl⟩ := Prod.mk.inj (Except.ok.inj (hstage.symm.trans hstaged))
    rw [Tree.file?_eq_some_iff, Tree.find?_put_self, Option.some.injEq,
      Entry.regular.injEq] at hfile
    subst hfile
    obtain ⟨-, hdescribed, hdescription⟩ := (checkMetadata_staged h hA hreadable).mp hmetadata
    exact ⟨by rwa [hmanifest], by rwa [hpayload], hdescribed, hdescription,
      (validatePendingTree_staged hextracted h.safe h.count).mp hpaths⟩
  · rintro ⟨hreadable, hle, hdescribed, hdescription, htotal⟩
    rw [hmanifest] at hreadable
    rw [hpayload] at hle
    obtain ⟨extracted, hextracted, hstaged⟩ :=
      h.stageRestore actor later hA hP hcpus hsnapshot hthemes hreadable hle
    exact ⟨_, _, _, _, hstaged,
      (validatePendingTree_staged hextracted h.safe h.count).mpr htotal,
      Tree.file?_eq_some_iff.mpr (Tree.find?_put_self _ _ _),
      (checkMetadata_staged h hA hreadable).mpr ⟨rfl, hdescribed, hdescription⟩,
      verifyPendingChecksums_staged hextracted h.safe⟩

/-! ## Examples -/

/-- Services for the examples. -/
def siteServices (pending : PendingRestore) : Services :=
  { exampleServices with
    primitives := examplePrimitives ([], [], [], [])
    unmarshalPending := fun text =>
      if text = ascii "restore" ++ newline then some pending else none }

/-- A manager for the examples. -/
def exampleManager : Manager where
  config := exampleConfig
  themesRoot := ascii "data/themes"
  version := "1.0.0"
  masterKey := Vector.replicate 32 0
  externalMasterKey := false

/-- Random values for the examples. -/
def exampleEntropy : Entropy where
  cpus := 2
  salt := Vector.replicate 16 0
  noncePrefix := Vector.replicate 4 0

/-- An archiver that writes one manifest, one description and the entries of one archive. -/
def tableArchiver (manifest : Manifest) (pending : PendingRestore)
    (entries : List (Bytes × Bytes)) : Archiver where
  marshalManifest := fun m => if m = manifest then some (ascii "manifest") else none
  unmarshalManifest := fun text =>
    if text = ascii "manifest" ++ newline then some manifest.asJSON else none
  marshalPending := fun p => if p = pending then some (ascii "restore") else none
  encodeBase64 := fun _ => exampleKey.dropLast
  zip := fun es => if es = entries then some (ascii "PK") else none
  unzip := fun payload =>
    if payload = ascii "PK" then some (entries.map (stored List.length)) else none
  visit := List.reverse

/-- What the archiver writes comes back. -/
lemma lossless_tableArchiver (manifest : Manifest) (pending : PendingRestore)
    (entries : List (Bytes × Bytes)) :
    (tableArchiver manifest pending entries).Lossless (siteServices pending.asJSON) List.length
      exampleManager.masterKey.toList where
  unzip_zip := by
    intro es payload _ h
    simp only [tableArchiver, Option.ite_none_right_eq_some, Option.some.injEq] at h ⊢
    exact ⟨h.2.symm, by rw [h.1]⟩
  length_zip := by
    intro es payload h
    simp only [tableArchiver, Option.ite_none_right_eq_some, Option.some.injEq] at h
    rw [← h.2]
    decide
  unmarshal_marshalManifest := by
    intro m bytes h
    simp only [tableArchiver, Option.ite_none_right_eq_some, Option.some.injEq] at h ⊢
    exact ⟨by rw [h.2], by rw [h.1]⟩
  unmarshal_marshalPending := by
    intro p bytes h
    simp only [tableArchiver, siteServices, Option.ite_none_right_eq_some, Option.some.injEq] at h ⊢
    exact ⟨by rw [h.2], by rw [h.1]⟩
  unmarshalPending_newline := by
    have hne : newline ≠ ascii "restore" ++ newline := by decide
    simp only [siteServices, hne, if_false]
  visit_perm := fun records => List.reverse_perm _
  decode_encode := by
    simp only [siteServices, exampleServices, tableArchiver, if_true]
    rfl
  encode_printable := by
    show ∀ byte ∈ exampleKey.dropLast, 32 < byte ∧ byte < 128
    decide +kernel

/-- The database file of the examples is accepted. -/
lemma snapshotAccepted_exampleMain (pending : PendingRestore) :
    SnapshotAccepted (siteServices pending) exampleManager.masterKey.toList exampleMain :=
  ⟨exampleDatabase, by rfl, by rfl, by simp [exampleDatabase]⟩

/-- A directory of themes with one file. -/
def exampleThemes : Option Node :=
  some (.directory ⟨[(ascii "a.html", .regular exampleTheme)], List.nodup_singleton _⟩)

/-- The files of a site with these themes. -/
def exampleSources : List ArchiveSource :=
  [⟨databaseName, exampleMain⟩, ⟨keyName, exampleKey⟩, ⟨ascii "themes/a.html", exampleTheme⟩]

/-- Their manifest. -/
def exampleSiteManifest : Manifest :=
  newManifest exampleManager 63921916800000000000
    (exampleSources.map (ArchiveSource.record (examplePrimitives ([], [], [], []))))

/-- The description of the site when it is staged. -/
def exampleSitePending : PendingRestore :=
  newPending exampleManager "admin" 63921916800000000000 exampleSiteManifest

/-- An archiver for this site. -/
def exampleArchiver : Archiver :=
  tableArchiver exampleSiteManifest exampleSitePending
    (archiveEntries (ascii "manifest") exampleSources)

/-- The backup of a small site can be restored. -/
theorem restorable_exampleThemes :
    ∃ backup manifest, exportBackup (siteServices exampleSitePending.asJSON) exampleArchiver
        exampleManager exampleEntropy exampleMain exampleThemes 63921916800000000000
        examplePassphrase = .ok (backup, manifest) ∧
      Restorable (siteServices exampleSitePending.asJSON) exampleArchiver exampleManager backup
        examplePassphrase "admin" 63921916800000000000 := by
  refine ⟨_, _, rfl, ?_⟩
  refine (restorable_iff (siteServices exampleSitePending.asJSON) exampleArchiver List.length
    exampleManager (lossless_tableArchiver _ _ _) exampleEntropy (lawful_examplePrimitives _)
    (by decide) exampleMain (snapshotAccepted_exampleMain _) exampleThemes ?_ 63921916800000000000
    63921916800000000000 examplePassphrase "admin" _ _ rfl).mpr ?_
  · rintro tree htree e he path hpath
    obtain rfl := Node.directory.inj (Option.some.inj htree)
    have hnone : parents (ascii "a.html") = [] := by decide
    rw [List.mem_singleton.mp he, hnone] at hpath
    cases hpath
  · have hsources : siteSources exampleArchiver exampleManager exampleMain exampleThemes =
        exampleSources := by rfl
    have hmanifest : siteManifestBytes (siteServices exampleSitePending.asJSON) exampleArchiver
        exampleManager exampleMain exampleThemes 63921916800000000000 = ascii "manifest" := by rfl
    refine ⟨⟨by decide, ?_, ?_, by decide, rfl⟩, ?_, ?_, ?_, ?_⟩
    · rw [hmanifest, hsources]
      unfold RatioAccepted
      decide
    · rw [hmanifest]
      decide
    · decide +kernel
    · decide +kernel
    · decide +kernel
    · decide +kernel

/-- A name without separators below the directory of the themes is safe. -/
lemma safeArchivePath_themes {part : Bytes} (hne : part ≠ []) (hslash : slash ∉ part)
    (hbackslash : backslash ∉ part) (hdot : part ≠ ascii "." ∧ part ≠ ascii "..") :
    safeArchivePath (themesPrefix ++ part) = true := by
  have hname : themesPrefix ++ part = List.intercalate [slash] [themesName, part] := by
    simp [List.intercalate, themesPrefix, themesName, slash, ascii]
  have hinside : slash ∉ themesName := by decide
  have hsplit : (themesPrefix ++ part).splitOn slash = [themesName, part] := by
    rw [hname]
    refine List.splitOn_intercalate slash ?_ (by simp)
    simp [hinside, hslash]
  have hthemes : cleanPart false [] themesName = [themesName] := by decide
  have hpart : cleanPart false [themesName] part = [part, themesName] := by
    simp [cleanPart, hne, hdot]
  have hclean : clean (themesPrefix ++ part) = themesPrefix ++ part := by
    have hrooted : ((themesPrefix ++ part).head? == some slash) = false := by
      simp [themesPrefix, ascii, slash]
    unfold clean
    simp only [hrooted, hsplit, List.foldl_cons, List.foldl_nil, hthemes, hpart]
    rw [if_neg (by simp), hname]
    simp [List.intercalate, themesName, ascii]
  have hcontains : backslash ∉ themesPrefix ++ part := by
    have hpre : backslash ∉ themesPrefix := by decide
    simp [hpre, hbackslash]
  have hfirst : themesPrefix ++ part = 116 :: (themesPrefix.tail ++ part) := rfl
  unfold safeArchivePath
  simp only [hclean, List.contains_eq_mem, hcontains, decide_false, beq_self_eq_true]
  rw [hfirst]
  simp [ascii, List.isPrefixOf]

/-- A decimal digit. -/
def digit (n : ℕ) : UInt8 := UInt8.ofNat (48 + n % 10)

/-- A number with five digits. -/
def fiveDigits (n : ℕ) : Bytes :=
  [digit (n / 10000), digit (n / 1000), digit (n / 100), digit (n / 10), digit n]

/-- The number of a digit. -/
lemma toNat_digit (n : ℕ) : (digit n).toNat = 48 + n % 10 := by
  rw [digit, UInt8.toNat_ofNat']
  omega

/-- What is not a digit is not one of five digits. -/
lemma notMem_fiveDigits (n : ℕ) (byte : UInt8) (h : byte.toNat < 48 ∨ 57 < byte.toNat) :
    byte ∉ fiveDigits n := by
  have hdigit : ∀ n, byte ≠ digit n := by
    rintro n rfl
    rw [toNat_digit] at h
    omega
  simp [fiveDigits, hdigit]

/-- Different numbers have different digits. -/
lemma fiveDigits_injective {m n : ℕ} (hm : m < 100000) (hn : n < 100000)
    (h : fiveDigits m = fiveDigits n) : m = n := by
  have hdigit : ∀ {i j : ℕ}, digit i = digit j → i % 10 = j % 10 := by
    intro i j hij
    have hnat := congrArg UInt8.toNat hij
    rw [toNat_digit, toNat_digit] at hnat
    omega
  simp only [fiveDigits, List.cons.injEq, and_true] at h
  obtain ⟨h4, h3, h2, h1, h0⟩ := h
  have := hdigit h4
  have := hdigit h3
  have := hdigit h2
  have := hdigit h1
  have := hdigit h0
  omega

/-- The rows of a directory of themes with many empty files. -/
def manyRows (count : ℕ) : List (Bytes × Entry) :=
  (List.range count).map fun n => (fiveDigits n, .regular [])

/-- They have different names. -/
lemma nodup_manyRows {count : ℕ} (h : count ≤ 100000) : ((manyRows count).map Prod.fst).Nodup := by
  unfold manyRows
  rw [List.map_map]
  refine List.nodup_range.map_on fun m hm n hn hsame => ?_
  rw [List.mem_range] at hm hn
  exact fiveDigits_injective (by omega) (by omega) hsame

/-- A directory of themes with many empty files. -/
def manyThemes (count : ℕ) (h : count ≤ 100000) : Option Node :=
  some (.directory ⟨manyRows count, nodup_manyRows h⟩)

/-- An archiver that writes no archive. -/
def plainArchiver : Archiver := tableArchiver exampleSiteManifest exampleSitePending []

/-- The files of a site with many themes. -/
def manySources (count : ℕ) (h : count ≤ 100000) : List ArchiveSource :=
  siteSources plainArchiver exampleManager exampleMain (manyThemes count h)

/-- Their manifest. -/
def manyManifest (count : ℕ) (h : count ≤ 100000) : Manifest :=
  newManifest exampleManager 63921916800000000000
    ((manySources count h).map (ArchiveSource.record (examplePrimitives ([], [], [], []))))

/-- An archiver for this site. -/
def manyArchiver (count : ℕ) (h : count ≤ 100000) : Archiver :=
  tableArchiver (manyManifest count h) exampleSitePending
    (archiveEntries (ascii "manifest") (manySources count h))

section Many

variable {count : ℕ} (h : count ≤ 100000)

/-- The files of many themes. -/
lemma themeFiles_manyThemes : themeFiles (manyThemes count h) =
    (List.range count).map fun n => ⟨themesPrefix ++ fiveDigits n, []⟩ := by
  show (manyRows count).filterMap themeSource? = _
  rw [manyRows, List.filterMap_map, ← List.filterMap_eq_map]
  rfl

/-- The names of the files are safe. -/
lemma safeArchivePath_manyThemes : ∀ source ∈ themeFiles (manyThemes count h),
    safeArchivePath source.name = true := by
  intro source hsource
  rw [themeFiles_manyThemes] at hsource
  obtain ⟨n, -, rfl⟩ := List.mem_map.mp hsource
  refine safeArchivePath_themes (by simp [fiveDigits]) (notMem_fiveDigits n _ (by decide))
    (notMem_fiveDigits n _ (by decide)) ⟨?_, ?_⟩
  · simp [fiveDigits, ascii]
  · simp [fiveDigits, ascii]

/-- The size of the site. -/
lemma totalSize_manySources : totalSize (manySources count h) = 61 := by
  have hperm := siteSources_perm plainArchiver exampleManager exampleMain (manyThemes count h)
  have hthemes : ((themeFiles (manyThemes count h)).map fun source =>
      source.contents.length).sum = 0 := by
    rw [themeFiles_manyThemes, List.map_map]
    simp [Function.comp_def]
  rw [totalSize, manySources, (hperm.map _).sum_eq, List.map_cons, List.map_cons, List.sum_cons,
    List.sum_cons, hthemes]
  decide +kernel

/-- Exporting a site with as many themes as the writing side accepts. -/
lemma exportBackup_manyThemes (hcount : count ≤ maxArchiveFiles) : ∃ backup,
    exportBackup (siteServices exampleSitePending.asJSON) (manyArchiver count h) exampleManager
      exampleEntropy exampleMain (manyThemes count h) 63921916800000000000 examplePassphrase =
        .ok (backup, manyManifest count h) := by
  have hsources : siteSources (manyArchiver count h) exampleManager exampleMain
      (manyThemes count h) = manySources count h := rfl
  have hmanifest : siteManifest (siteServices exampleSitePending.asJSON) (manyArchiver count h)
      exampleManager exampleMain (manyThemes count h) 63921916800000000000 =
        manyManifest count h := rfl
  have htotal : totalSize (manySources count h) ≤ maxArchiveFileBytes := by
    rw [totalSize_manySources]
    decide
  have hlength : (themeFiles (manyThemes count h)).length = count := by
    rw [themeFiles_manyThemes, List.length_map, List.length_range]
  obtain ⟨backup, hbackup⟩ : ∃ backup,
      encryptContainer (siteServices exampleSitePending.asJSON).primitives exampleEntropy.cpus
        exampleEntropy.salt exampleEntropy.noncePrefix (ascii "PK") examplePassphrase =
          .ok backup := ⟨_, encryptContainer_eq (by decide)⟩
  have hexported : Exported (siteServices exampleSitePending.asJSON) (manyArchiver count h)
      exampleManager exampleEntropy exampleMain (manyThemes count h) 63921916800000000000
      examplePassphrase (ascii "manifest") (ascii "PK") backup := by
    refine ⟨rfl, by decide, hlength.le.trans hcount, safeArchivePath_manyThemes h, ?_, ?_, ?_, ?_,
      hbackup⟩
    · intro source hsource
      refine le_trans ?_ htotal
      exact List.single_le_sum (fun _ _ => Nat.zero_le _) _
        (List.mem_map_of_mem (f := fun s : ArchiveSource => s.contents.length) hsource)
    · rw [hsources]
      exact htotal.trans (by decide)
    · rw [hmanifest]
      exact if_pos rfl
    · rw [hsources]
      exact if_pos rfl
  have hthemes : collectThemeSources exampleManager.themesRoot (manyThemes count h) =
      .ok (themeFiles (manyThemes count h)) := by
    show collectEntries exampleManager.themesRoot [] (manyRows count) =
      .ok ([] ++ (manyRows count).filterMap themeSource?)
    refine collectEntries_eq ?_ (safeArchivePath_manyThemes h) ?_
    · intro e he
      obtain ⟨n, -, rfl⟩ := List.mem_map.mp he
      simp
    · show 0 + (themeFiles (manyThemes count h)).length ≤ maxArchiveFiles
      omega
  exact ⟨_, hexported.exportBackup hthemes⟩

/-- Many themes stand directly below their directory. -/
lemma rooted_manyThemes : ∀ tree, manyThemes count h = some (.directory tree) → tree.Rooted := by
  rintro tree htree e he path hpath
  obtain rfl := Node.directory.inj (Option.some.inj htree)
  obtain ⟨n, -, rfl⟩ := List.mem_map.mp he
  obtain ⟨below, hbelow⟩ := mem_parents.mp hpath
  refine absurd ?_ (notMem_fiveDigits n slash (by decide))
  rw [show fiveDigits n = path ++ slash :: below from hbelow]
  exact List.mem_append_right _ List.mem_cons_self

end Many

/-- A backup of a site with 49999 files of themes is exported and cannot be restored. -/
theorem notRestorable_manyThemes : ∃ h : 49999 ≤ 100000,
    (manyArchiver 49999 h).Lossless (siteServices exampleSitePending.asJSON) List.length
        exampleManager.masterKey.toList ∧
      SnapshotAccepted (siteServices exampleSitePending.asJSON) exampleManager.masterKey.toList
        exampleMain ∧
      (∀ tree, manyThemes 49999 h = some (.directory tree) → tree.Rooted) ∧
      ∃ backup manifest, exportBackup (siteServices exampleSitePending.asJSON)
          (manyArchiver 49999 h) exampleManager exampleEntropy exampleMain (manyThemes 49999 h)
          63921916800000000000 examplePassphrase = .ok (backup, manifest) ∧
        ¬Restorable (siteServices exampleSitePending.asJSON) (manyArchiver 49999 h) exampleManager
          backup examplePassphrase "admin" 63921916800000000000 := by
  have h : 49999 ≤ 100000 := by omega
  obtain ⟨backup, hexport⟩ := exportBackup_manyThemes h (by unfold maxArchiveFiles; omega)
  have hlossless := lossless_tableArchiver (manyManifest 49999 h) exampleSitePending
    (archiveEntries (ascii "manifest") (manySources 49999 h))
  refine ⟨h, hlossless, snapshotAccepted_exampleMain _, rooted_manyThemes h, backup,
    manyManifest 49999 h, hexport, ?_⟩
  rintro ⟨manifest, tree, metadata, pending, hstage, -⟩
  obtain ⟨-, manifestBytes, payload, hexported⟩ := exportBackup_ok hexport
  have hreadable := (hexported.readable_of_stageRestore hlossless (lawful_examplePrimitives _)
    (by decide) hstage).1
  have hcount := hreadable.count
  rw [themeFiles_manyThemes, List.length_map, List.length_range] at hcount
  unfold maxArchiveFiles at hcount
  omega

end Backup

end Hostpin
