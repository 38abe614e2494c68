import Hostpin.Backup.Pending
import Hostpin.Backup.Recovery

/-!
# What the checksums of a staged tree fix

Two staged trees with the same manifest that pass the checks of paths and files have the same
declared files, when the hash tells the contents of their files apart (`declared_eq`).  The log
beside the database and the directories of the themes are not declared, so what a restore installs
is the same exactly when these make no difference (`restored_eq_iff`).
-/

namespace Hostpin

open Clock

namespace Backup

variable {services : Services} {config : RestoreConfig} {names : RunNames} {files : Files}
  {now : Time} {tree other : Tree} {manifest : Manifest} {P : Primitives}

/-! ## Checksums -/

/-- A hexadecimal digit is not an upper-case letter. -/
lemma lowerByte_hexDigit {n : ℕ} (h : n < 16) : lowerByte (hexDigit n) = hexDigit n := by
  interval_cases n <;> rfl

/-- Different hexadecimal digits. -/
lemma hexDigit_injective {m n : ℕ} (hm : m < 16) (hn : n < 16) (h : hexDigit m = hexDigit n) :
    m = n := by
  have hall : ∀ m n : Fin 16, hexDigit m = hexDigit n → m = n := by decide
  exact congrArg Fin.val (hall ⟨m, hm⟩ ⟨n, hn⟩ h)

/-- The digits of a byte string are in lower case. -/
lemma map_lowerByte_hexEncode (bytes : Bytes) :
    (hexEncode bytes).map lowerByte = hexEncode bytes := by
  induction bytes with
  | nil => rfl
  | cons byte rest ih =>
    have hbyte : byte.toNat < 256 := byte.toNat_lt
    have hcons : hexEncode (byte :: rest) =
        [hexDigit (byte.toNat / 16), hexDigit (byte.toNat % 16)] ++ hexEncode rest := rfl
    rw [hcons, List.map_append, ih]
    simp [lowerByte_hexDigit (by omega : byte.toNat / 16 < 16),
      lowerByte_hexDigit (by omega : byte.toNat % 16 < 16)]

/-- The digits give the byte string back. -/
lemma hexEncode_injective : Function.Injective hexEncode := by
  intro left right h
  induction left generalizing right with
  | nil =>
    cases right with
    | nil => rfl
    | cons byte rest => simp [hexEncode] at h
  | cons a left ih =>
    cases right with
    | nil => simp [hexEncode] at h
    | cons b right =>
      have ha : a.toNat < 256 := a.toNat_lt
      have hb : b.toNat < 256 := b.toNat_lt
      have hparts : hexDigit (a.toNat / 16) = hexDigit (b.toNat / 16) ∧
          hexDigit (a.toNat % 16) = hexDigit (b.toNat % 16) ∧
          hexEncode left = hexEncode right := by
        simpa [hexEncode] using h
      have hhigh := hexDigit_injective (by omega) (by omega) hparts.1
      have hlow := hexDigit_injective (by omega) (by omega) hparts.2.1
      have hbyte : a = b := UInt8.toNat_inj.mp (by omega)
      rw [hbyte, ih hparts.2.2]

/-- Contents that agree with one record have the same hash. -/
lemma sum256_eq_of_agrees {record : FileRecord} {left right : Bytes}
    (hleft : Agrees P record left) (hright : Agrees P record right) :
    P.sum256 left = P.sum256 right := by
  have hl := eq_of_beq hleft.2
  have hr := eq_of_beq hright.2
  rw [map_lowerByte_hexEncode] at hl hr
  have hlist := hexEncode_injective (hl.trans hr.symm)
  exact Vector.toList_inj.mp hlist

/-! ## Declared files -/

/-- The content of a file of a tree that has to be declared. -/
def Tree.Holds (tree : Tree) (content : Bytes) : Prop :=
  ∃ path, exempt path = false ∧ (path, .regular content) ∈ tree.rows

/-- The names of the files of a tree that have to be declared. -/
def declaredNames (tree : Tree) : List Bytes := (tree.rows.filter mustDeclare).map Prod.fst

/-- The files that have to be declared are those of the manifest. -/
lemma mem_declaredNames (h : verifyPendingChecksums P (.directory tree) manifest = .ok ())
    {record : FileRecord} (hrecord : record ∈ manifest.files) :
    record.path ∈ declaredNames tree := by
  obtain ⟨-, -, hcount, hall⟩ := verifyPendingChecksums_ok h
  have hnodup : (declaredNames tree).Nodup :=
    (List.filter_sublist.map Prod.fst).nodup tree.keys_nodup
  have hsub : declaredNames tree ⊆ manifest.files.map FileRecord.path := by
    intro name hname
    obtain ⟨e, he, rfl⟩ := List.mem_map.mp hname
    obtain ⟨r, hr, -, hpath, -⟩ := hall e (List.mem_of_mem_filter he) (List.mem_filter.mp he).2
    exact List.mem_map.mpr ⟨r, hr, hpath⟩
  have hlength : (manifest.files.map FileRecord.path).length ≤ (declaredNames tree).length := by
    rw [List.length_map, declaredNames, List.length_map, ← List.countP_eq_length_filter, hcount]
  have hperm := (hnodup.subperm hsub).perm_of_length_le hlength
  exact hperm.mem_iff.mpr (List.mem_map_of_mem hrecord)

/-- A declared file has the content that its record describes. -/
lemma exists_content (h : verifyPendingChecksums P (.directory tree) manifest = .ok ())
    {record : FileRecord} (hrecord : record ∈ manifest.files) :
    ∃ content, (record.path, .regular content) ∈ tree.rows ∧ Agrees P record content := by
  obtain ⟨hnodup, -, -, hall⟩ := verifyPendingChecksums_ok h
  obtain ⟨e, he, hpath⟩ := List.mem_map.mp (mem_declaredNames h hrecord)
  obtain ⟨r, hr, content, hrpath, hregular, hagrees⟩ :=
    hall e (List.mem_of_mem_filter he) (List.mem_filter.mp he).2
  have hsame : r = record := List.inj_on_of_nodup_map hnodup hr hrecord (hrpath.trans hpath)
  subst hsame
  refine ⟨content, ?_, hagrees⟩
  have hmem := List.mem_of_mem_filter he
  rwa [show e = (r.path, .regular content) from Prod.ext hrpath.symm hregular] at hmem

/-- The declared files of two trees with one manifest are the same. -/
lemma declared_eq (h : verifyPendingChecksums P (.directory tree) manifest = .ok ())
    (hother : verifyPendingChecksums P (.directory other) manifest = .ok ())
    (hinjective : ∀ a b, tree.Holds a → other.Holds b → P.sum256 a = P.sum256 b → a = b)
    {name content : Bytes} (hname : exempt name = false)
    (hcontent : tree.find? name = some (.regular content)) :
    other.find? name = some (.regular content) := by
  have hmem := Tree.find?_eq_some_iff.mp hcontent
  obtain ⟨-, -, -, hall⟩ := verifyPendingChecksums_ok h
  obtain ⟨record, hrecord, c, hpath, hregular, hagrees⟩ :=
    hall (name, .regular content) hmem (by simp [mustDeclare, hname])
  have hc : content = c := by simpa using hregular
  subst hc
  obtain ⟨c, hc, hagrees'⟩ := exists_content hother hrecord
  have hname' : record.path = name := hpath
  rw [hname'] at hc
  have heq := hinjective content c ⟨name, hname, hmem⟩ ⟨name, hname, hc⟩
    (sum256_eq_of_agrees hagrees hagrees')
  rw [heq, Tree.find?_eq_some_iff]
  exact hc

/-! ## What is installed -/

/-- What stands at a place, as an entry of a directory. -/
def Node.entry : Node → Entry
  | .file content => .regular content
  | .directory _ => .directory
  | .irregular => .irregular

/-- The entries below a place. -/
def Node.find? : Option Node → Bytes → Option Entry
  | some (.directory tree), path => tree.find? path
  | _, _ => none

/-- What a restore installs: the database that a connection to the live file sees, the master key
and the themes. -/
structure Restored where
  database : Option Database
  masterKey : Option Entry
  themes : Bytes → Option Entry

/-- What stands at the live paths. -/
def restoredIn (services : Services) (files : Files) : Restored where
  database := services.connect ((files (.live .database)).map Node.entry)
    ((files (.live .wal)).map Node.entry)
  masterKey := (files (.live .masterKey)).map Node.entry
  themes := Node.find? (files (.live .themes))

/-- What a restore of a staged tree installs, if it is applied. -/
def restored (services : Services) (config : RestoreConfig) (names : RunNames) (now : Time)
    (files : Files) (tree : Tree) : Option Restored :=
  let run := (applyPendingRestore services config names now).run (handle services noFaults)
    (files.withPending tree)
  run.1.1.map fun _ => restoredIn services run.2

/-- The staged tree is accepted. -/
def Accepts (services : Services) (config : RestoreConfig) (tree : Tree) : Prop :=
  ∃ pending, Acceptable services config tree pending

/-- The database that a connection to the staged file sees, with the log beside it. -/
def stagedDatabase (services : Services) (tree : Tree) : Option Database :=
  services.connect (tree.find? databaseName) (tree.find? walName)

/-- What is accepted is installed. -/
lemma restored_of_acceptable {pending : PendingRestore} (hconnect : ConnectsFlushed services)
    (h : Acceptable services config tree pending) (hfresh : names.Fresh files) {key : Bytes}
    (hkey : tree.file? keyName = some key) :
    restored services config names now files tree =
      some ⟨(stagedDatabase services tree).map Database.clearSessions, some (.regular key),
        tree.themes.find?⟩ := by
  have hfresh' : names.Fresh (files.withPending tree) := by
    intro slot
    rw [Files.withPending, Files.set_of_ne (by simp), Files.set_of_ne (by simp)]
    exact hfresh slot
  have happlied := (safely_applyPendingRestore now h (files.withPending_pending tree) hkey
    (restoreWorks_noFaults names tree) hfresh').run
  obtain ⟨moved, hreceipt⟩ := happlied.receipt
  obtain ⟨-, -, database, -, -, hdatabase, -⟩ := h.database
  have hinstalled := happlied.installed
  have hopened : services.connect (some (.regular (flushed services tree))) none =
      some database.clearSessions := hconnect _ _ _ hdatabase
  unfold restored
  simp only [hreceipt, Option.map_some, restoredIn, hinstalled.database, hinstalled.wal,
    hinstalled.masterKey, hinstalled.themes, Node.entry, Option.map_none, hopened, stagedDatabase,
    hdatabase]
  rfl

/-- A staged restore that is refused gives no receipt. -/
lemma run_refuse_receipt (services : Services) (faults : Faults) (names : RunNames) (cause : Cause)
    (files : Files) : ((refuse names cause).run (handle services faults) files).1.1 = none := by
  simp only [refuse, Procedure.run_bind, Procedure.run_pure]

/-- What is not accepted is not installed. -/
lemma restored_of_not_accepts (h : ¬ Accepts services config tree) :
    restored services config names now files tree = none := by
  have houtcome := outcome_of_run services config noFaults (files.withPending tree)
  have hreceipt : ((applyPendingRestore services config names now).run (handle services noFaults)
      (files.withPending tree)).1.1 = none := by
    unfold applyPendingRestore
    rw [Procedure.run_bind]
    cases hchecks : ((checkPending services config).run (handle services noFaults)
        (files.withPending tree)).1 with
    | absent => rfl
    | unreadable errno => rfl
    | refused cause => exact run_refuse_receipt services noFaults names cause _
    | accepted pending =>
      rw [hchecks] at houtcome
      obtain ⟨accepted, hpending, hacceptable, -⟩ := houtcome
      rw [Files.withPending_pending] at hpending
      rw [← Node.directory.inj (Option.some.inj hpending)] at hacceptable
      exact absurd ⟨pending, hacceptable⟩ h
  unfold restored
  simp only [hreceipt, Option.map_none]

/-- A tree that passes the checks of paths and files, with the manifest of its description. -/
structure PassesChecks (services : Services) (tree : Tree) (manifest : Manifest) : Prop where
  description : ∃ metadata pending, tree.file? pendingMetadata = some metadata ∧
    services.unmarshalPending metadata = some pending ∧ pending.manifest = manifest
  paths : validatePendingTree (.directory tree) = .ok ()
  checksums : verifyPendingChecksums services.primitives (.directory tree) manifest = .ok ()

/-- The paths of the themes of a tree stand below their directory. -/
def Tree.ThemesRooted (tree : Tree) : Prop :=
  ∀ e ∈ tree.rows, themesPrefix.isPrefixOf e.1 = true → tree.find? themesName = some .directory

/-- A path below the directory of the themes. -/
lemma themePath?_append (path : Bytes) : themePath? (themesPrefix ++ path) = some path := by
  rw [themePath?, if_pos (List.isPrefixOf_iff_prefix.mpr (List.prefix_append _ _)),
    List.drop_left]

/-- The entries of the themes of a tree. -/
lemma Tree.find?_themes (hrooted : tree.ThemesRooted) (path : Bytes) :
    tree.themes.find? path = tree.find? (themesPrefix ++ path) := by
  refine Option.ext fun entry => ?_
  rw [Tree.find?_eq_some_iff, Tree.find?_eq_some_iff]
  constructor
  · intro hmem
    have hrows : (path, entry) ∈ themeRows tree := hmem
    unfold themeRows at hrows
    split_ifs at hrows
    · exact mem_of_mem_themeEntries hrows
    · simp at hrows
  · intro hmem
    have hpre := List.isPrefixOf_iff_prefix.mpr (List.prefix_append themesPrefix path)
    have hdirectory := hrooted (themesPrefix ++ path, entry) hmem hpre
    show (path, entry) ∈ themeRows tree
    rw [themeRows, if_pos hdirectory]
    exact List.mem_filterMap.mpr ⟨_, hmem, by simp [themePath?_append]⟩

/-- The path of a theme has to be declared. -/
lemma exempt_themes (path : Bytes) : exempt (themesPrefix ++ path) = false := by
  have hne : ∀ name : Bytes, themesPrefix.isPrefixOf name = false →
      (themesPrefix ++ path == name) = false := by
    intro name hname
    rw [beq_eq_false_iff_ne]
    rintro rfl
    simp [List.isPrefixOf_iff_prefix.mpr (List.prefix_append themesPrefix path)] at hname
  simp [exempt, hne pendingMetadata (by decide), hne walName (by decide), hne shmName (by decide)]

/-- The themes of two trees with one manifest are the same when their directories are. -/
lemma themes_eq_iff (h : PassesChecks services tree manifest)
    (hother : PassesChecks services other manifest) (hrooted : tree.ThemesRooted)
    (hrooted' : other.ThemesRooted)
    (hinjective : ∀ a b, tree.Holds a → other.Holds b →
      services.primitives.sum256 a = services.primitives.sum256 b → a = b) :
    tree.themes.find? = other.themes.find? ↔
      ∀ path, tree.find? (themesPrefix ++ path) = some .directory ↔
        other.find? (themesPrefix ++ path) = some .directory := by
  constructor
  · intro heq path
    rw [← Tree.find?_themes hrooted, ← Tree.find?_themes hrooted', heq]
  · intro hdirectories
    funext path
    rw [Tree.find?_themes hrooted, Tree.find?_themes hrooted']
    refine Option.ext fun entry => ?_
    cases entry with
    | directory => exact hdirectories path
    | regular content =>
      exact ⟨declared_eq h.checksums hother.checksums hinjective (exempt_themes path),
        declared_eq hother.checksums h.checksums
          (fun a b ha hb hab => (hinjective b a hb ha hab.symm).symm) (exempt_themes path)⟩
    | irregular =>
      have hnone : ∀ t : Tree, validatePendingTree (.directory t) = .ok () →
          t.find? (themesPrefix ++ path) ≠ some .irregular := fun t ht hmem =>
        ((validatePendingTree_ok_iff.mp ht).1 _ (Tree.find?_eq_some_iff.mp hmem)).1 rfl
      exact iff_of_false (hnone tree h.paths) (hnone other hother.paths)

/-- What two trees with one manifest install when both are accepted. -/
lemma restored_eq_iff_of_accepts (hconnect : ConnectsFlushed services) (hfresh : names.Fresh files)
    (h : PassesChecks services tree manifest) (hother : PassesChecks services other manifest)
    (hrooted : tree.ThemesRooted) (hrooted' : other.ThemesRooted)
    (hinjective : ∀ a b, tree.Holds a → other.Holds b →
      services.primitives.sum256 a = services.primitives.sum256 b → a = b)
    (haccepts : Accepts services config tree) (haccepts' : Accepts services config other) :
    restored services config names now files tree =
        restored services config names now files other ↔
      (stagedDatabase services tree).map Database.clearSessions =
          (stagedDatabase services other).map Database.clearSessions ∧
        ∀ path, tree.find? (themesPrefix ++ path) = some .directory ↔
          other.find? (themesPrefix ++ path) = some .directory := by
  obtain ⟨pending, hacceptable⟩ := haccepts
  obtain ⟨pending', hacceptable'⟩ := haccepts'
  obtain ⟨key, hkey⟩ := hacceptable.exists_key
  have hkey' : other.file? keyName = some key := by
    rw [Tree.file?_eq_some_iff] at hkey ⊢
    exact declared_eq h.checksums hother.checksums hinjective (by decide) hkey
  rw [restored_of_acceptable hconnect hacceptable hfresh hkey,
    restored_of_acceptable hconnect hacceptable' hfresh hkey', Option.some.injEq,
    Restored.mk.injEq, themes_eq_iff h hother hrooted hrooted' hinjective]
  simp only [true_and]

/-- Two staged trees with one manifest that pass the checks of paths and files install the same
exactly when the other checks accept both or none and, if they accept them, the database files
opened with the log beside them hold the same up to sessions and the themes have the same
directories. -/
theorem restored_eq_iff (services : Services) (config : RestoreConfig) (names : RunNames)
    (now : Time) (files : Files) (hconnect : ConnectsFlushed services) (hfresh : names.Fresh files)
    (tree other : Tree) (manifest : Manifest) (h : PassesChecks services tree manifest)
    (hother : PassesChecks services other manifest) (hrooted : tree.ThemesRooted)
    (hrooted' : other.ThemesRooted)
    (hinjective : ∀ a b, tree.Holds a → other.Holds b →
      services.primitives.sum256 a = services.primitives.sum256 b → a = b) :
    restored services config names now files tree =
        restored services config names now files other ↔
      (Accepts services config tree ↔ Accepts services config other) ∧
        (Accepts services config tree →
          (stagedDatabase services tree).map Database.clearSessions =
              (stagedDatabase services other).map Database.clearSessions ∧
            ∀ path, tree.find? (themesPrefix ++ path) = some .directory ↔
              other.find? (themesPrefix ++ path) = some .directory) := by
  have hsome : ∀ {t : Tree}, Accepts services config t →
      restored services config names now files t ≠ none := by
    rintro t ⟨pending, hacceptable⟩
    obtain ⟨key, hkey⟩ := hacceptable.exists_key
    rw [restored_of_acceptable hconnect hacceptable hfresh hkey]
    exact Option.some_ne_none _
  by_cases haccepts : Accepts services config tree <;>
    by_cases haccepts' : Accepts services config other
  · rw [restored_eq_iff_of_accepts hconnect hfresh h hother hrooted hrooted' hinjective haccepts
      haccepts']
    simp only [haccepts, haccepts', true_and, true_imp_iff]
  · rw [restored_of_not_accepts haccepts']
    simp only [haccepts, haccepts', hsome haccepts, true_iff, false_and]
  · rw [restored_of_not_accepts haccepts]
    simp only [haccepts, haccepts', (hsome haccepts').symm, false_iff, not_true_eq_false,
      false_and]
  · rw [restored_of_not_accepts haccepts, restored_of_not_accepts haccepts']
    simp only [haccepts, haccepts', true_and, false_imp_iff]

/-! ## An example -/

/-- The content of a file beside the database. -/
def logContent : Option Entry → Bytes
  | some (.regular content) => content
  | _ => []

/-- Services for the example.  A connection sees the rows of the file and of the log beside it. -/
def loggedServices : Services :=
  { exampleServices with
    connect := fun main wal =>
      if exampleMain.isPrefixOf (logContent main) then
        some { exampleDatabase with rest := (logContent main).drop 16 ++ logContent wal }
      else none
    flush := fun main wal => logContent main ++ logContent wal }

/-- The tree of the example with a row in the log. -/
def loggedTree : Tree where
  rows :=
    [(databaseName, .regular exampleMain), (walName, .regular (ascii "row")),
      (keyName, .regular exampleKey), (pendingMetadata, .regular exampleMetadata),
      (themesName, .directory), (ascii "themes/a.html", .regular exampleTheme)]
  keys_nodup := by decide

/-- Writing the log back keeps what a connection sees. -/
lemma connectsFlushed_loggedServices : ConnectsFlushed loggedServices := by
  intro main wal database h
  simp only [loggedServices] at h ⊢
  split_ifs at h with hpre
  have hdatabase := Option.some.inj h
  obtain ⟨rest, hrest⟩ := List.isPrefixOf_iff_prefix.mp hpre
  have hlength : exampleMain.length = 16 := by decide
  have hflush : logContent (some (.regular (logContent main ++ logContent wal))) =
      exampleMain ++ (rest ++ logContent wal) := by
    rw [logContent, ← hrest, List.append_assoc]
  rw [hflush, if_pos (List.isPrefixOf_iff_prefix.mpr (List.prefix_append _ _)), ← hdatabase,
    ← hrest, ← hlength, List.drop_left, List.drop_left]
  simp [logContent, Database.clearSessions, exampleDatabase]

/-- The files that the trees of the example declare. -/
lemma passesChecks_example {tree : Tree} (h : tree = exampleTree ∨ tree = loggedTree) :
    PassesChecks loggedServices tree exampleManifest := by
  rcases h with rfl | rfl
  · exact ⟨⟨exampleMetadata, examplePending, by rfl, by rfl, rfl⟩, by rfl, by rfl⟩
  · exact ⟨⟨exampleMetadata, examplePending, by rfl, by rfl, rfl⟩, by rfl, by rfl⟩

/-- The declared files of the trees of the example. -/
lemma mem_of_holds_example {tree : Tree} (h : tree = exampleTree ∨ tree = loggedTree)
    {content : Bytes} (hholds : tree.Holds content) :
    content ∈ [exampleMain, exampleKey, exampleTheme] := by
  have hlog : exempt walName = true := by decide
  have hmetadata : exempt pendingMetadata = true := by decide
  obtain ⟨path, hpath, hmem⟩ := hholds
  rcases h with rfl | rfl <;>
  · simp only [exampleTree, loggedTree, List.mem_cons, Prod.mk.injEq, Entry.regular.injEq,
      reduceCtorEq, and_false, false_or, List.not_mem_nil, or_false] at hmem
    rcases hmem with ⟨rfl, rfl⟩ | ⟨rfl, rfl⟩ | ⟨rfl, rfl⟩ | ⟨rfl, rfl⟩ | ⟨-, rfl⟩
    · simp
    · simp [hlog] at hpath
    · simp
    · simp [hmetadata] at hpath
    · simp

/-- The hash tells the declared files of the example apart. -/
lemma exampleSum_injective {a b : Bytes} (ha : a ∈ [exampleMain, exampleKey, exampleTheme])
    (hb : b ∈ [exampleMain, exampleKey, exampleTheme]) (h : exampleSum a = exampleSum b) :
    a = b := by
  have hall : ∀ a ∈ [exampleMain, exampleKey, exampleTheme],
      ∀ b ∈ [exampleMain, exampleKey, exampleTheme], exampleSum a = exampleSum b → a = b := by
    decide
  exact hall a ha b hb h

/-- The themes of the trees of the example stand below their directory. -/
lemma themesRooted_example {tree : Tree} (h : tree = exampleTree ∨ tree = loggedTree) :
    tree.ThemesRooted := by
  rcases h with rfl | rfl <;> exact fun _ _ _ => by rfl

/-- Two staged trees with the same manifest, of which one has another log beside the database, pass
the checks of paths and files, and the databases that they install differ. -/
theorem restored_of_other_log :
    PassesChecks loggedServices exampleTree exampleManifest ∧
      PassesChecks loggedServices loggedTree exampleManifest ∧
      (restored loggedServices exampleConfig exampleNames 0 exampleFiles exampleTree).map
        Restored.database = some (some exampleDatabase) ∧
      (restored loggedServices exampleConfig exampleNames 0 exampleFiles loggedTree).map
        Restored.database = some (some { exampleDatabase with rest := ascii "row" }) :=
  ⟨passesChecks_example (.inl rfl), passesChecks_example (.inr rfl), by rfl, by rfl⟩

/-- The two trees install the same at most when the log makes no difference. -/
theorem restored_eq_iff_loggedTree :
    restored loggedServices exampleConfig exampleNames 0 exampleFiles exampleTree =
        restored loggedServices exampleConfig exampleNames 0 exampleFiles loggedTree ↔
      (Accepts loggedServices exampleConfig exampleTree ↔
          Accepts loggedServices exampleConfig loggedTree) ∧
        (Accepts loggedServices exampleConfig exampleTree →
          (stagedDatabase loggedServices exampleTree).map Database.clearSessions =
              (stagedDatabase loggedServices loggedTree).map Database.clearSessions ∧
            ∀ path, exampleTree.find? (themesPrefix ++ path) = some .directory ↔
              loggedTree.find? (themesPrefix ++ path) = some .directory) :=
  restored_eq_iff loggedServices exampleConfig exampleNames 0 exampleFiles
    connectsFlushed_loggedServices (fun _ => ⟨rfl, rfl⟩) exampleTree loggedTree exampleManifest
    (passesChecks_example (.inl rfl)) (passesChecks_example (.inr rfl))
    (themesRooted_example (.inl rfl)) (themesRooted_example (.inr rfl))
    fun _ _ ha hb => exampleSum_injective (mem_of_holds_example (.inl rfl) ha)
      (mem_of_holds_example (.inr rfl) hb)

end Backup

end Hostpin
