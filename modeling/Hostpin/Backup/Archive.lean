import Hostpin.Backup.Restore
import Hostpin.Foundation.Utf8

/-!
# Export and import

A backup is a container with a ZIP archive of a manifest, the database, the master key and the files
of the themes.  Importing it extracts the archive into a directory, validates the database there and
adds the description of the restore; the directory is then staged.

* `exportBackup` writes a backup of a site, with `collectThemeSources` and `writeArchive`.
* `extractAndValidateArchive` checks and extracts an archive.
* `stageRestore` reads a backup and gives the tree that it stages.

The ZIP format, the codecs of the manifest and of the description, base64 and the order of a map are
not part of the program; `Archiver` stands for them.
-/

namespace Hostpin

open Clock

namespace Backup

/-! ## Libraries -/

/-- An entry of a ZIP archive.  The sizes are those of the directory of the archive, and the
contents are what reading the entry gives, if it works. -/
structure ZipFile where
  name : Bytes
  symlink : Bool
  directory : Bool
  uncompressedSize : ℕ
  compressedSize : ℕ
  contents : Option Bytes

/-- What is taken from libraries.  An archive is written from the names and contents of its
entries. -/
structure Archiver where
  marshalManifest : Manifest → Option Bytes
  unmarshalManifest : Bytes → Option Manifest
  marshalPending : PendingRestore → Option Bytes
  encodeBase64 : Bytes → Bytes
  zip : List (Bytes × Bytes) → Option Bytes
  unzip : Bytes → Option (List ZipFile)
  /-- The order in which the records of a map are visited. -/
  visit : List FileRecord → List FileRecord

/-- What a server knows for its backups. -/
structure Manager where
  config : RestoreConfig
  themesRoot : Bytes
  version : String
  masterKey : Vector UInt8 32
  externalMasterKey : Bool

/-- The random values of a container and the number of processors. -/
structure Entropy where
  cpus : ℕ
  salt : Vector UInt8 16
  noncePrefix : Vector UInt8 4

/-- Whether backups are available. -/
def Manager.available (manager : Manager) : Bool :=
  !(manager.config.driver != "sqlite" || !plainSQLitePath manager.config.dsn)

/-- The end of a line. -/
def newline : Bytes := [10]

/-! ## Export -/

/-- Why a backup is not written. -/
inductive ExportError where
  | unsupported
  | irregularTheme (current : Bytes)
  | unsafeTheme (name : Bytes)
  | tooManyThemes
  | exceedsSizeLimit
  | marshal
  | writeZip
  | container (cause : ContainerError)
deriving DecidableEq

/-- The text of an error. -/
def ExportError.message : ExportError → Bytes
  | .unsupported => ascii "one-click backup and restore is available only for SQLite"
  | .irregularTheme current =>
    ascii "theme path " ++ current ++ ascii " is not a regular file or directory"
  | .unsafeTheme name => ascii "unsafe theme path " ++ name
  | .tooManyThemes => ascii "theme file count exceeds backup limit"
  | .exceedsSizeLimit => ascii "backup contents exceed the one-click size limit"
  | .marshal => ascii "json: error calling MarshalJSON for type time.Time"
  | .writeZip => ascii "zip: FileHeader.Name too long"
  | .container .passphraseLength => ascii (ContainerError.message .passphraseLength)
  | .container cause => ascii "encrypt backup: " ++ ascii cause.message

/-- A file that goes into an archive. -/
structure ArchiveSource where
  name : Bytes
  contents : Bytes
deriving DecidableEq

/-- The walk over the themes, with the files found so far. -/
def collectEntries (themesRoot : Bytes) :
    List ArchiveSource → List (Bytes × Entry) → Except ExportError (List ArchiveSource)
  | result, [] => .ok result
  | result, (relative, entry) :: rest =>
    match entry with
    | .irregular => .error (.irregularTheme (themesRoot ++ slash :: relative))
    | .directory => collectEntries themesRoot result rest
    | .regular contents =>
      let name := themesPrefix ++ relative
      if !safeArchivePath name then .error (.unsafeTheme name)
      else
        let result := result ++ [{ name := name, contents := contents : ArchiveSource }]
        if result.length > maxArchiveFiles then .error .tooManyThemes
        else collectEntries themesRoot result rest

/-- The files of the themes, from what stands at their directory. -/
def collectThemeSources (themesRoot : Bytes) :
    Option Node → Except ExportError (List ArchiveSource)
  | none => .ok []
  | some (.directory tree) => collectEntries themesRoot [] tree.rows
  | some .irregular => .error (.irregularTheme themesRoot)
  -- the walk starts with the file itself, whose relative path is a dot
  | some (.file _) => .error (.unsafeTheme (ascii "themes/."))

/-- The records of the files, with the size of the files before. -/
def sourceRecords (P : Primitives) :
    ℕ → List ArchiveSource → Except ExportError (List FileRecord)
  | _, [] => .ok []
  | total, source :: rest =>
    if source.contents.length > maxArchiveFileBytes ||
        total + source.contents.length > maxArchiveBytes then
      .error .exceedsSizeLimit
    else
      (sourceRecords P (total + source.contents.length) rest).map
        (FileRecord.of P source.name source.contents :: ·)

/-- The files of a backup: a snapshot of the database, the master key and the themes, by name. -/
def archiveSources (A : Archiver) (manager : Manager) (snapshot : Bytes)
    (themes : List ArchiveSource) : List ArchiveSource :=
  let masterKey := A.encodeBase64 manager.masterKey.toList ++ newline
  let site : List ArchiveSource := [⟨databaseName, snapshot⟩, ⟨keyName, masterKey⟩]
  (site ++ themes).insertionSort fun left right => left.name ≤ right.name

/-- The manifest of a backup. -/
def newManifest (manager : Manager) (now : Time) (files : List FileRecord) : Manifest where
  format := archiveFormat
  version := archiveVersion
  createdAt := now
  hostpinVersion := manager.version
  sourceDriver := manager.config.driver
  files := files

/-- The entries of an archive. -/
def archiveEntries (manifestBytes : Bytes) (sources : List ArchiveSource) : List (Bytes × Bytes) :=
  (manifestName, manifestBytes ++ newline) :: sources.map fun source =>
    (source.name, source.contents)

/-- Write an archive. -/
def writeArchive (A : Archiver) (manifest : Manifest) (sources : List ArchiveSource) :
    Except ExportError Bytes :=
  match A.marshalManifest manifest with
  | none => .error .marshal
  | some manifestBytes =>
    match A.zip (archiveEntries manifestBytes sources) with
    | none => .error .writeZip
    | some payload => .ok payload

/-- Export a backup of a site, from a snapshot of its database and what stands at the directory of
its themes. -/
def exportBackup (services : Services) (A : Archiver) (manager : Manager) (entropy : Entropy)
    (snapshot : Bytes) (themes : Option Node) (now : Time) (passphrase : Bytes) :
    Except ExportError (Bytes × Manifest) := do
  if !manager.available then .error .unsupported
  if !validatePassphrase passphrase then .error (.container .passphraseLength)
  let themeSources ← collectThemeSources manager.themesRoot themes
  let sources := archiveSources A manager snapshot themeSources
  let files ← sourceRecords services.primitives 0 sources
  let manifest := newManifest manager now files
  let payload ← writeArchive A manifest sources
  match encryptContainer services.primitives entropy.cpus entropy.salt entropy.noncePrefix payload
      passphrase with
  | .error cause => .error (.container cause)
  | .ok backup => .ok (backup, manifest)

/-! ## Import -/

/-- Why a backup is not staged. -/
inductive ImportError where
  | unsupported
  | alreadyPending
  | container (cause : ContainerError)
  | notZip
  | fileCount
  | unsafeEntry (name : Bytes)
  | duplicateEntry (name : Bytes)
  | entryLimits
  | manifestMissing
  | readManifest
  | unsupportedManifest
  | manifestFile
  | duplicateManifestPath
  | sizeLimit
  | fileSet
  | wrongSize (name : Bytes)
  | createFile (errno : Errno)
  | checksumMismatch (name : Bytes)
  | database (cause : Cause)
  | recordMissing (name : Bytes)
  | masterKeyMismatch

/-- The text of an error, for names that quoting leaves as they are. -/
def ImportError.message : ImportError → Bytes
  | .unsupported => ascii "one-click backup and restore is available only for SQLite"
  | .alreadyPending => ascii "a restore is already pending"
  | .container cause => ascii cause.message
  | .notZip => invalidBackup "payload is not a ZIP archive"
  | .fileCount => invalidBackup "invalid file count"
  | .unsafeEntry name => invalidBackup "unsafe archive entry \"" ++ name ++ ascii "\""
  | .duplicateEntry name => invalidBackup "duplicate archive entry \"" ++ name ++ ascii "\""
  | .entryLimits => invalidBackup "archive entry exceeds limits"
  | .manifestMissing => invalidBackup "manifest is missing or too large"
  | .readManifest => invalidBackup "read manifest"
  | .unsupportedManifest => invalidBackup "unsupported manifest"
  | .manifestFile => invalidBackup "invalid manifest file"
  | .duplicateManifestPath => invalidBackup "duplicate manifest path"
  | .sizeLimit => invalidBackup "archive exceeds size limit"
  | .fileSet => invalidBackup "required or declared files do not match"
  | .wrongSize name =>
    invalidBackup "file " ++ name ++ ascii " is missing or has the wrong size"
  | .createFile errno => ascii errno.reason
  | .checksumMismatch name => invalidBackup "checksum mismatch for " ++ name
  | .database cause => cause.message
  | .recordMissing name => invalidBackup "manifest file " ++ name ++ ascii " is missing"
  | .masterKeyMismatch =>
    ascii "backup master key does not match the configured external master key"

/-- Whether the sizes of an entry exceed the limits. -/
def ZipFile.exceedsLimits (file : ZipFile) : Bool :=
  file.uncompressedSize > maxArchiveFileBytes ||
    (file.compressedSize > 0 && file.uncompressedSize / file.compressedSize > maxCompressionRatio)

/-- The checks of the entries of an archive, with the names seen so far. -/
def checkZipFiles : List Bytes → List ZipFile → Except ImportError Unit
  | _, [] => .ok ()
  | seen, file :: rest =>
    if !safeArchivePath file.name || file.symlink || file.directory then
      .error (.unsafeEntry file.name)
    else if seen.contains file.name then .error (.duplicateEntry file.name)
    else if file.exceedsLimits then .error .entryLimits
    else checkZipFiles (file.name :: seen) rest

/-- The entry with a name. -/
def findEntry (archive : List ZipFile) (name : Bytes) : Option ZipFile :=
  archive.find? fun file => file.name == name

/-- The manifest in an archive. -/
def readManifest (A : Archiver) (archive : List ZipFile) : Except ImportError Manifest :=
  match findEntry archive manifestName with
  | none => .error .manifestMissing
  | some file =>
    if file.uncompressedSize > maxManifestBytes then .error .manifestMissing
    else
      match file.contents.map fun contents => contents.take (maxManifestBytes + 1) with
      | none => .error .readManifest
      | some manifestBytes =>
        if manifestBytes.length > maxManifestBytes then .error .readManifest
        else
          match A.unmarshalManifest manifestBytes with
          | none => .error .unsupportedManifest
          | some manifest =>
            if manifest.supported then .ok manifest else .error .unsupportedManifest

/-- The checks of the records of a manifest, with the paths and the total size so far. -/
def checkRecords : List Bytes → ℤ → List FileRecord → Except ImportError Unit
  | _, _, [] => .ok ()
  | paths, total, record :: rest =>
    if !safePayloadPath record.path || record.size < 0 || record.size > maxArchiveFileBytes ||
        record.sha256.length != 64 then
      .error .manifestFile
    else if paths.contains record.path then .error .duplicateManifestPath
    else if total + record.size > maxArchiveBytes then .error .sizeLimit
    else checkRecords (record.path :: paths) (total + record.size) rest

/-- The directories above a path, from the top, with the front of the path. -/
def parentsFrom : Bytes → Bytes → List Bytes
  | _, [] => []
  | front, byte :: rest =>
    if byte = slash then front :: parentsFrom (front ++ [byte]) rest
    else parentsFrom (front ++ [byte]) rest

/-- The directories above a path, from the top. -/
def parents (path : Bytes) : List Bytes := parentsFrom [] path

/-- Make directories. -/
def makeDirectories : Tree → List Bytes → Except Errno Tree
  | tree, [] => .ok tree
  | tree, path :: rest =>
    match tree.find? path with
    | none => makeDirectories (tree.put path .directory) rest
    | some .directory => makeDirectories tree rest
    | some _ => .error (.other "not a directory")

/-- Make a file that is not there, with the directories above it. -/
def createFile (tree : Tree) (name contents : Bytes) : Except Errno Tree := do
  let tree ← makeDirectories tree (parents name)
  match tree.find? name with
  | none => .ok (tree.put name (.regular contents))
  | some _ => .error (.other "file exists")

/-- Extract a file that a manifest declares. -/
def extractRecord (P : Primitives) (archive : List ZipFile) (tree : Tree) (record : FileRecord) :
    Except ImportError Tree :=
  match findEntry archive record.path with
  | none => .error (.wrongSize record.path)
  | some file =>
    if (file.uncompressedSize : ℤ) ≠ record.size then .error (.wrongSize record.path)
    else
      match file.contents.map fun contents => contents.take (record.size + 1).toNat with
      | none => .error (.checksumMismatch record.path)
      | some written =>
        match createFile tree record.path written with
        | .error errno => .error (.createFile errno)
        | .ok tree =>
          if (written.length : ℤ) ≠ record.size ||
              !equalFold (FileRecord.of P record.path written).sha256 record.sha256 then
            .error (.checksumMismatch record.path)
          else .ok tree

/-- Check an archive and extract it into an empty directory. -/
def extractAndValidateArchive (P : Primitives) (A : Archiver) (payload : Bytes) :
    Except ImportError (Manifest × Tree) :=
  match A.unzip payload with
  | none => .error .notZip
  | some archive => do
    if archive.length = 0 ∨ archive.length > maxArchiveFiles + 1 then .error .fileCount
    checkZipFiles [] archive
    let manifest ← readManifest A archive
    checkRecords [] 0 manifest.files
    if !(manifest.files.any fun record => record.path == databaseName) ||
        !(manifest.files.any fun record => record.path == keyName) ||
        manifest.files.length + 1 != archive.length then
      .error .fileSet
    let tree ← (A.visit manifest.files).foldlM (extractRecord P archive) KeyedTable.empty
    return (manifest, tree)

/-- Validate the database of an extracted archive.  The directory that it was extracted to stands
where the script looks for a staged tree. -/
def validateExtracted (services : Services) (tree : Tree) : Except Cause Bytes × Tree :=
  let run := (validateRestoredDatabase services).run (handle services noFaults) fun place =>
    if place = .pending then some (.directory tree) else none
  (run.1, run.2.pendingTree.getD tree)

/-- The records with the first one of the same path replaced, if there is one. -/
def replaceRecord (record : FileRecord) : List FileRecord → Option (List FileRecord)
  | [] => none
  | other :: rest =>
    if other.path == record.path then some (record :: rest)
    else (replaceRecord record rest).map (other :: ·)

/-- The manifest with the record of a file replaced. -/
def refreshManifestRecord (P : Primitives) (manifest : Manifest) (tree : Tree) (name : Bytes) :
    Except ImportError Manifest :=
  match tree.file? name with
  | none => .error (.createFile .notExist)
  | some contents =>
    match replaceRecord (FileRecord.of P name contents) manifest.files with
    | none => .error (.recordMissing name)
    | some files => .ok { manifest with files := files }

/-- The description of a restore. -/
def newPending (manager : Manager) (actor : String) (later : Time) (manifest : Manifest) :
    PendingRestore where
  manifest := manifest
  actor := Text.trimSpace actor
  stagedAt := later
  externalMasterKey := manager.externalMasterKey

/-- The text of a description. -/
def pendingBytes (A : Archiver) (pending : PendingRestore) : Bytes :=
  (A.marshalPending pending).getD [] ++ newline

/-- Read a backup and give the tree that is staged, when `pending` says whether one is staged
already. -/
def stageRestore (services : Services) (A : Archiver) (manager : Manager) (pending : Bool)
    (backup passphrase : Bytes) (actor : String) (later : Time) :
    Except ImportError (Manifest × Tree) := do
  if !manager.available then .error .unsupported
  if pending then .error .alreadyPending
  match decryptContainer services.primitives backup passphrase maxArchiveBytes with
  | .error cause => .error (.container cause)
  | .ok payload =>
    let (manifest, extracted) ← extractAndValidateArchive services.primitives A payload
    match validateExtracted services extracted with
    | (.error cause, _) => .error (.database cause)
    | (.ok backupKey, tree) =>
      let manifest ← refreshManifestRecord services.primitives manifest tree databaseName
      if manager.externalMasterKey && backupKey != manager.masterKey.toList then
        .error .masterKeyMismatch
      let metadata := pendingBytes A (newPending manager actor later manifest)
      .ok (manifest, tree.put pendingMetadata (.regular metadata))

end Backup

end Hostpin
