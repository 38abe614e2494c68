import Hostpin.Backup.FileSystem
import Hostpin.Foundation.Text

/-!
# Applying a staged restore

At the start of the server a staged restore is applied: the staged tree is checked, its database,
its master key and its themes are copied beside the live ones, the live ones are moved aside under
rollback names, and the copies are moved to the live paths.  When a step fails, what was moved is
moved back and the staged tree is put into quarantine.

* `applyPendingRestore` is the procedure, made of the checks (`checkPending`), the copies
  (`prepare`), the switch (`switchOver`), the way back (`rollback`) and `quarantineRestore`.
-/

namespace Hostpin

open Clock

namespace Backup

open Procedure (perform)

/-! ## Configuration and errors -/

/-- What of the configuration of the server a restore reads. -/
structure RestoreConfig where
  driver : String
  dsn : String
  masterKey : String

/-- The text of an error of the file system. -/
def Errno.reason : Errno → String
  | .notExist => "no such file or directory"
  | .other reason => reason

/-- Why a staged restore is refused. -/
inductive Cause where
  | walkFailed (reason : String)
  | rootNotDirectory
  | nonRegularPath
  | unexpectedPath (relative : Bytes)
  | exceedsLimits
  | unsupported
  | metadataInvalid
  | unsafeManifestPath
  | duplicateManifestPath
  | undeclaredFile (name : Bytes)
  | checksumMismatch (name : Bytes)
  | incompleteFileSet
  | readMasterKey (errno : Errno)
  | masterKeyInvalid
  | integrityCheck
  | tableMissing (table : String)
  | schemaNewer
  | administrators
  | readEncrypted
  | keyMismatch
  | clearSessionsFailed (errno : Errno)
  | configuredKeyMismatch
  | absolutePath (errno : Errno)
  | prepareFailed (slot : Slot) (errno : Errno)
  | saveFailed (slot : Slot) (errno : Errno)
  | activateFailed (slot : Slot) (errno : Errno)
  | rollbackFailed (cause : Cause) (failures : List Errno)

/-- How applying a staged restore fails. -/
inductive RestoreError where
  /-- The description could not be read. -/
  | readPending (errno : Errno)
  /-- The staged tree was refused and is kept under a quarantine name. -/
  | quarantined (cause : Cause) (identifier : String)
  /-- The staged tree was refused and could not be moved away. -/
  | notQuarantined (cause : Cause) (reason : String)
  /-- The restore was applied and the staged tree could not be removed. -/
  | cleanupFailed (errno : Errno)

/-- The text of an error about a backup that is not one of this program. -/
def invalidBackup (detail : String) : Bytes := ascii "invalid Hostpin backup: " ++ ascii detail

/-- How the error of a step of the switch starts. -/
def Slot.saveText : Slot → String
  | .database => "save current database: "
  | .wal | .shm => "save SQLite sidecar: "
  | .masterKey => "save current master key: "
  | .themes => "save current themes: "

/-- What a restore puts at a slot. -/
def Slot.restoredText : Slot → String
  | .database | .wal | .shm => "restored database: "
  | .masterKey => "restored master key: "
  | .themes => "restored themes: "

/-- The text of a cause. -/
def Cause.message : Cause → Bytes
  | .walkFailed reason => ascii reason
  | .rootNotDirectory => invalidBackup "pending restore root is not a regular directory"
  | .nonRegularPath => invalidBackup "pending restore contains a non-regular path"
  | .unexpectedPath relative => invalidBackup "unexpected pending restore path " ++ relative
  | .exceedsLimits => invalidBackup "pending restore exceeds limits"
  | .unsupported => ascii "one-click backup and restore is available only for SQLite"
  | .metadataInvalid => invalidBackup "pending restore metadata is invalid"
  | .unsafeManifestPath => invalidBackup "unsafe pending manifest path"
  | .duplicateManifestPath => invalidBackup "duplicate pending manifest path"
  | .undeclaredFile name => invalidBackup "undeclared pending file " ++ name
  | .checksumMismatch name => invalidBackup "pending checksum mismatch for " ++ name
  | .incompleteFileSet => invalidBackup "pending restore file set is incomplete"
  | .readMasterKey errno => ascii "read backup master key: " ++ ascii errno.reason
  | .masterKeyInvalid => invalidBackup "master key is invalid"
  | .integrityCheck => invalidBackup "SQLite integrity check failed"
  | .tableMissing table =>
    invalidBackup "required table " ++ ascii table ++ ascii " is missing"
  | .schemaNewer => invalidBackup "database schema is newer than this Hostpin version"
  | .administrators => invalidBackup "backup must contain exactly one administrator"
  | .readEncrypted => ascii "read encrypted backup fields: "
  | .keyMismatch => invalidBackup "master key does not match encrypted database fields"
  | .clearSessionsFailed errno => ascii "clear restored sessions: " ++ ascii errno.reason
  | .configuredKeyMismatch => ascii "configured master key does not match pending backup"
  | .absolutePath errno => ascii errno.reason
  | .prepareFailed slot errno =>
    ascii "prepare " ++ ascii slot.restoredText ++ ascii errno.reason
  | .saveFailed slot errno => ascii slot.saveText ++ ascii errno.reason
  | .activateFailed slot errno =>
    ascii "activate " ++ ascii slot.restoredText ++ ascii errno.reason
  | .rollbackFailed cause failures =>
    cause.message ++ ascii "; rollback also failed: " ++
      List.intercalate (ascii "; ") (failures.map fun errno => ascii errno.reason)

/-- The text of an error. -/
def RestoreError.message : RestoreError → Bytes
  | .readPending errno => ascii "read pending restore: " ++ ascii errno.reason
  | .quarantined cause identifier =>
    cause.message ++ ascii "; staged files retained at .restore-failed-" ++ ascii identifier
  | .notQuarantined cause reason =>
    cause.message ++ ascii "; could not quarantine pending restore: " ++ ascii reason
  | .cleanupFailed errno =>
    ascii "restore applied but pending workspace cleanup failed: " ++ ascii errno.reason

/-- The receipt of a restore that was applied. -/
structure RestoreReceipt where
  manifest : Manifest
  actor : String
  appliedAt : Time
  databaseSaved : Option Place
  masterKeySaved : Option Place
  themesSaved : Option Place

/-! ## Checks -/

/-- The paths that a staged tree may have. -/
def pendingAllowed (relative : Bytes) : Bool :=
  relative == pendingMetadata || relative == databaseName || relative == keyName ||
    relative == walName || relative == shmName || relative == themesName ||
    themesPrefix.isPrefixOf relative

/-- The walk of `validatePendingTree`, with the number and the total size of the files so far. -/
def validateEntries : ℕ → ℕ → List (Bytes × Entry) → Except Cause Unit
  | _, _, [] => .ok ()
  | files, total, (relative, entry) :: rest =>
    match entry with
    | .irregular => .error .nonRegularPath
    | .directory =>
      if !pendingAllowed relative then .error (.unexpectedPath relative)
      else validateEntries files total rest
    | .regular content =>
      if !pendingAllowed relative then .error (.unexpectedPath relative)
      else if files + 1 > maxArchiveFiles + 4 || total + content.length > maxArchiveBytes then
        .error .exceedsLimits
      else validateEntries (files + 1) (total + content.length) rest

/-- Whether a staged tree has only the paths of a restore, within the limits. -/
def validatePendingTree : Node → Except Cause Unit
  | .directory tree => validateEntries 0 0 tree.rows
  | _ => .error .rootNotDirectory

/-- A character in lower case, as far as the letters of ASCII are concerned. -/
def lowerChar (c : Char) : Char :=
  if c.toNat = 0x130 then 'i' else if c.toNat = 0x212A then 'k' else c.toLower

/-- Whether a data source is the plain path of a file. -/
def plainSQLitePath (value : String) : Bool :=
  let trimmed := (Text.trimSpace value).toList
  !trimmed.isEmpty && !("file:".toList).isPrefixOf (trimmed.map lowerChar) &&
    !trimmed.any fun c => c == '?' || c.toNat == 0

/-- The description of a staged restore, from the bytes of `restore.json`. -/
def checkMetadata (services : Services) (config : RestoreConfig) (metadata : Bytes) :
    Except Cause PendingRestore :=
  if config.driver != "sqlite" || !plainSQLitePath config.dsn then .error .unsupported
  else if metadata.length > maxManifestBytes then .error .metadataInvalid
  else
    match services.unmarshalPending metadata with
    | none => .error .metadataInvalid
    | some pending =>
      if pending.manifest.supported then .ok pending else .error .metadataInvalid

/-- The files that a manifest declares, with those seen before. -/
def expectedRecords : List FileRecord → List FileRecord → Except Cause (List FileRecord)
  | expected, [] => .ok expected
  | expected, record :: rest =>
    if !safePayloadPath record.path then .error .unsafeManifestPath
    else if expected.any fun r => r.path == record.path then .error .duplicateManifestPath
    else expectedRecords (record :: expected) rest

/-- The files that need not be declared. -/
def exempt (name : Bytes) : Bool := name == pendingMetadata || name == walName || name == shmName

/-- The walk of `verifyPendingChecksums`, with the number of the files that agree so far. -/
def verifyEntries (P : Primitives) (expected : List FileRecord) :
    ℕ → List (Bytes × Entry) → Except Cause ℕ
  | actual, [] => .ok actual
  | actual, (_, .directory) :: rest => verifyEntries P expected actual rest
  | actual, (name, entry) :: rest =>
    if exempt name then verifyEntries P expected actual rest
    else
      match expected.find? fun r => r.path == name with
      | none => .error (.undeclaredFile name)
      | some record =>
        match entry with
        | .regular content =>
          let observed := FileRecord.of P name content
          if observed.size != record.size || !equalFold observed.sha256 record.sha256 then
            .error (.checksumMismatch name)
          else verifyEntries P expected (actual + 1) rest
        | _ => .error (.walkFailed "not a regular file")

/-- Whether the files of a staged tree are those that its manifest declares. -/
def verifyPendingChecksums (P : Primitives) (root : Node) (manifest : Manifest) :
    Except Cause Unit := do
  let expected ← expectedRecords [] manifest.files
  match root with
  | .directory tree =>
    let actual ← verifyEntries P expected 0 tree.rows
    if actual ≠ expected.length then .error .incompleteFileSet else .ok ()
  | _ => .error .rootNotDirectory

/-! ## The staged database -/

/-- The characters of white space, in UTF-8. -/
def spaceEncodings : List Bytes :=
  [[9], [10], [11], [12], [13], [32], [194, 133], [194, 160], [225, 154, 128]] ++
    (List.range 11).map (fun i => [226, 128, UInt8.ofNat (128 + i)]) ++
    [[226, 128, 168], [226, 128, 169], [226, 128, 175], [226, 129, 159], [227, 128, 128]]

/-- A byte string without the encodings at its front.  The number bounds the rounds of the loop. -/
def trimFront (encodings : List Bytes) : ℕ → Bytes → Bytes
  | 0, bytes => bytes
  | fuel + 1, bytes =>
    match encodings.find? fun e => e.isPrefixOf bytes with
    | none => bytes
    | some e => trimFront encodings fuel (bytes.drop e.length)

/-- A byte string without white space at its ends. -/
def trimSpace (bytes : Bytes) : Bytes :=
  let front := trimFront spaceEncodings bytes.length bytes
  (trimFront (spaceEncodings.map List.reverse) front.length front.reverse).reverse

/-- White space is not empty and starts and ends with bytes that are not printable; a line end is
the only one that ends with its byte. -/
lemma spaceEncodings_ends : ∀ e ∈ spaceEncodings,
    (e.head?.any fun byte => !(32 < byte && byte < 128)) = true ∧
      (e.getLast?.any fun byte => !(32 < byte && byte < 128)) = true ∧
      (e.getLast? = some 10 → e = [10]) := by
  decide +kernel

/-- Nothing is cut off where no encoding is in front. -/
lemma trimFront_eq_self {encodings : List Bytes} {bytes : Bytes} (fuel : ℕ)
    (h : ∀ e ∈ encodings, e.isPrefixOf bytes = false) : trimFront encodings fuel bytes = bytes := by
  cases fuel with
  | zero => rfl
  | succ fuel =>
    rw [trimFront, List.find?_eq_none.mpr fun e he => by simp [h e he]]

/-- What starts with a byte that is not printable is not in front of a printable byte. -/
lemma not_isPrefixOf_printable {e bytes : Bytes}
    (he : (e.head?.any fun byte => !(32 < byte && byte < 128)) = true)
    (h : ∀ byte ∈ bytes.head?, 32 < byte ∧ byte < 128) : e.isPrefixOf bytes = false := by
  cases e with
  | nil => simp at he
  | cons first e =>
    cases bytes with
    | nil => rfl
    | cons byte rest =>
      have hbyte := h byte rfl
      have hne : first ≠ byte := by
        rintro rfl
        simp [hbyte] at he
      simp [List.isPrefixOf, hne]

/-- Read backwards, white space starts with bytes that are not printable. -/
lemma reverse_spaceEncodings : ∀ e ∈ spaceEncodings.map List.reverse,
    (e.head?.any fun byte => !(32 < byte && byte < 128)) = true := by
  intro e he
  obtain ⟨encoding, hencoding, rfl⟩ := List.mem_map.mp he
  rw [List.head?_reverse]
  exact (spaceEncodings_ends encoding hencoding).2.1

/-- A byte string that starts and ends with printable bytes has no white space at its ends. -/
lemma trimSpace_eq_self {bytes : Bytes} (hfront : ∀ byte ∈ bytes.head?, 32 < byte ∧ byte < 128)
    (hback : ∀ byte ∈ bytes.getLast?, 32 < byte ∧ byte < 128) : trimSpace bytes = bytes := by
  have hkept : ∀ fuel, trimFront spaceEncodings fuel bytes = bytes := fun fuel =>
    trimFront_eq_self fuel fun e he => not_isPrefixOf_printable (spaceEncodings_ends e he).1 hfront
  have hreverse : ∀ fuel, trimFront (spaceEncodings.map List.reverse) fuel bytes.reverse =
      bytes.reverse := by
    refine fun fuel => trimFront_eq_self fuel fun e he => ?_
    refine not_isPrefixOf_printable (reverse_spaceEncodings e he) fun byte hbyte => hback byte ?_
    rwa [List.head?_reverse] at hbyte
  rw [trimSpace, hkept, hreverse, List.reverse_reverse]

/-- The master key in a file. -/
def decodeMasterKey (services : Services) (contents : Bytes) : Option Bytes := do
  let key ← services.decodeBase64 (trimSpace contents)
  guard (key.length = 32)
  return key

/-- The tables that a database of the program has. -/
def requiredTables : List String := ["schema_migrations", "settings", "admins", "nodes"]

/-- Whether the values of an encrypted column open under the key. -/
def validateEncryptedColumn (services : Services) (key : Bytes) :
    Option (List String) → Except Cause Unit
  | none => .error .readEncrypted
  | some values =>
    if values.all (services.openSecret key) then .ok () else .error .keyMismatch

/-- Whether a database is one of this program, not newer than this version, with one administrator
and with encrypted fields that the key opens. -/
def checkDatabase (services : Services) (key : Bytes) (database : Database) :
    Except Cause Unit := do
  if database.quickCheck != some "ok" then .error .integrityCheck
  match requiredTables.find? fun table => database.tables.count table != 1 with
  | some table => .error (.tableMissing table)
  | none => .ok ()
  match database.schemaVersion with
  | none => .error .schemaNewer
  | some version => if version > services.latestMigration then .error .schemaNewer else .ok ()
  if database.admins != some 1 then .error .administrators
  validateEncryptedColumn services key database.totpSecrets
  validateEncryptedColumn services key database.channelConfigs

/-- Check the staged database and the staged master key, delete the sessions and write the log
back. -/
def validateRestoredDatabase (services : Services) : Script (Except Cause Bytes) := do
  match ← perform (.readFile keyName) with
  | .error errno => return .error (.readMasterKey errno)
  | .ok contents =>
    match decodeMasterKey services contents with
    | none => return .error .masterKeyInvalid
    | some key =>
      match ← perform .openDatabase with
      | .error _ => return .error .integrityCheck
      | .ok database =>
        match checkDatabase services key database with
        | .error cause => return .error cause
        | .ok _ =>
          match ← perform .clearSessions with
          | .error errno => return .error (.clearSessionsFailed errno)
          | .ok _ =>
            -- the database was closed; what is left of the log is removed
            let _ ← perform (.removeFile walName)
            let _ ← perform (.removeFile shmName)
            return .ok key

/-- Whether a master key that is set in the configuration is the one of the backup. -/
def configuredKeyMatches (services : Services) (config : RestoreConfig) (backupKey : Bytes) :
    Bool :=
  config.masterKey.isEmpty ||
    services.decodeBase64 config.masterKey.toUTF8.toList == some backupKey

/-- How the checks of a staged restore end. -/
inductive CheckOutcome where
  /-- Nothing is staged. -/
  | absent
  /-- The description cannot be read. -/
  | unreadable (errno : Errno)
  | refused (cause : Cause)
  | accepted (pending : PendingRestore)

/-- The checks of a staged restore. -/
def checkPending (services : Services) (config : RestoreConfig) : Script CheckOutcome := do
  match ← perform (.walk .tree) with
  | .error .notExist => return .absent
  | .error (.other reason) => return .refused (.walkFailed reason)
  | .ok root =>
    match validatePendingTree root with
    | .error cause => return .refused cause
    | .ok _ =>
      match ← perform (.readFile pendingMetadata) with
      | .error errno => return .unreadable errno
      | .ok metadata =>
        match checkMetadata services config metadata with
        | .error cause => return .refused cause
        | .ok pending =>
          match ← perform (.walk .checksums) with
          | .error errno => return .refused (.walkFailed errno.reason)
          | .ok root =>
            match verifyPendingChecksums services.primitives root pending.manifest with
            | .error cause => return .refused cause
            | .ok _ =>
              match ← validateRestoredDatabase services with
              | .error cause => return .refused cause
              | .ok backupKey =>
                if configuredKeyMatches services config backupKey then return .accepted pending
                else return .refused .configuredKeyMismatch

/-! ## Copies -/

/-- A path below the directory of the themes, relative to it. -/
def themePath? (path : Bytes) : Option Bytes :=
  if themesPrefix.isPrefixOf path then some (path.drop themesPrefix.length) else none

/-- The paths of the themes, relative to their directory, in the order of a walk. -/
def themePaths (tree : Tree) : List Bytes := tree.rows.filterMap fun e => themePath? e.1

/-- The paths that a walk over the themes of a staged tree finds, which may be missing. -/
def walkThemes : Node → Except Errno (List Bytes)
  | .directory tree =>
    match tree.find? themesName with
    | none => .ok []
    | some .directory => .ok (themePaths tree)
    -- the walk starts with the file itself, and its copy stands in the way of a directory
    | some (.regular _) => .error (.other "file exists")
    | some .irregular => .error (.other "restore themes contain a non-regular path")
  | _ => .error (.other "not a directory")

/-- Copy the paths of the themes. -/
def copyEntries (to_ : Place) : List Bytes → Script (Except Errno Unit)
  | [] => return .ok ()
  | relative :: rest => do
    match ← perform (.copyInto relative to_) with
    | .error errno => return .error errno
    | .ok _ => copyEntries to_ rest

/-- Copy the themes of the staged tree; without themes the copy is an empty directory. -/
def copyRegularTree (to_ : Place) : Script (Except Errno Unit) := do
  match ← perform (.makeDirectory to_) with
  | .error errno => return .error errno
  | .ok _ =>
    match ← perform (.walk .themes) with
    | .error .notExist => return .ok ()
    | .error errno => return .error errno
    | .ok root =>
      match walkThemes root with
      | .error errno => return .error errno
      | .ok paths => copyEntries to_ paths

/-- Copy the database, the master key and the themes beside the live ones. -/
def prepare (identifier : String) : Script (Except Cause Unit) := do
  match ← perform (.copyRegularFile databaseName (.prepared .database identifier)) with
  | .error errno => return .error (.prepareFailed .database errno)
  | .ok _ =>
    match ← perform (.copyRegularFile keyName (.prepared .masterKey identifier)) with
    | .error errno => return .error (.prepareFailed .masterKey errno)
    | .ok _ =>
      match ← copyRegularTree (.prepared .themes identifier) with
      | .error errno => return .error (.prepareFailed .themes errno)
      | .ok _ => return .ok ()

/-- Remove what is left of the copies. -/
def removePrepared (identifier : String) : Script Unit := do
  let _ ← perform (.removeAll (.prepared .themes identifier))
  let _ ← perform (.removeAll (.prepared .masterKey identifier))
  let _ ← perform (.removeAll (.prepared .database identifier))

/-! ## The switch and the way back -/

/-- The names that one restore makes up: the time and the identifier in rollback names, the
identifier of the copies, and the identifier of a quarantine. -/
structure RunNames where
  timestamp : String
  identifier : String
  quarantine : String

/-- What the rollback names of a restore end with. -/
def RunNames.stamp (names : RunNames) : String := names.timestamp ++ "-" ++ names.identifier

/-- A step of the switch: a live path is moved aside, or a copy is moved to its live path. -/
inductive SwitchStep where
  | save (slot : Slot)
  | activate (slot : Slot)
deriving DecidableEq

/-- The steps of the switch. -/
def switchSteps : List SwitchStep :=
  [.save .database, .save .wal, .save .shm, .activate .database,
    .save .masterKey, .activate .masterKey, .save .themes, .activate .themes]

/-- Move a path aside if something is there, and say whether there was. -/
def moveExisting (current saved : Place) : Script (Except Errno Bool) := do
  match ← perform (.lstat current) with
  | .error .notExist => return .ok false
  | .error errno => return .error errno
  | .ok _ =>
    match ← perform (.rename current saved) with
    | .error errno => return .error errno
    | .ok _ => return .ok true

/-- A switch that failed: why, and what was moved and activated before. -/
structure SwitchFailure where
  cause : Cause
  moved : List Slot
  activated : List Slot

/-- Take the steps of the switch, with the slots that were moved and activated so far; the slots
that were moved are returned. -/
def switchOver (names : RunNames) :
    List SwitchStep → (moved activated : List Slot) → Script (Except SwitchFailure (List Slot))
  | [], moved, _ => return .ok moved
  | .save slot :: rest, moved, activated => do
    match ← moveExisting (.live slot) (.saved slot names.stamp) with
    | .error errno => return .error ⟨.saveFailed slot errno, moved, activated⟩
    | .ok true => switchOver names rest (moved ++ [slot]) activated
    | .ok false => switchOver names rest moved activated
  | .activate slot :: rest, moved, activated => do
    match ← perform (.rename (.prepared slot names.identifier) (.live slot)) with
    | .error errno => return .error ⟨.activateFailed slot errno, moved, activated⟩
    | .ok _ => switchOver names rest moved (activated ++ [slot])

/-- Remove live paths, and say what failed. -/
def removeActivated : List Slot → Script (List Errno)
  | [] => return []
  | slot :: rest => do
    match ← perform (.removeAll (.live slot)) with
    | .error (.other reason) => return .other reason :: (← removeActivated rest)
    | _ => removeActivated rest

/-- Move paths back, and say what failed. -/
def restoreMoved (stamp : String) : List Slot → Script (List Errno)
  | [] => return []
  | slot :: rest => do
    match ← perform (.rename (.saved slot stamp) (.live slot)) with
    | .error errno => return errno :: (← restoreMoved stamp rest)
    | .ok _ => restoreMoved stamp rest

/-- Undo a switch that failed, the last step first. -/
def rollback (names : RunNames) (failure : SwitchFailure) : Script Cause := do
  let removeErrors ← removeActivated failure.activated.reverse
  let renameErrors ← restoreMoved names.stamp failure.moved.reverse
  match removeErrors ++ renameErrors with
  | [] => return failure.cause
  | errors => return .rollbackFailed failure.cause errors

/-- Put the staged tree into quarantine. -/
def quarantineRestore (names : RunNames) (cause : Cause) : Script RestoreError := do
  match ← perform (.rename .pending (.failed names.quarantine)) with
  | .error (.other reason) => return .notQuarantined cause reason
  | _ => return .quarantined cause names.quarantine

/-! ## The restore -/

/-- What applying a staged restore returns: a receipt when it was applied, and an error. -/
abbrev RestoreResult := Option RestoreReceipt × Option RestoreError

/-- Refuse a staged restore. -/
def refuse (names : RunNames) (cause : Cause) : Script RestoreResult := do
  return (none, some (← quarantineRestore names cause))

/-- The rollback place of a slot, if the slot was moved. -/
def savedPlace (names : RunNames) (moved : List Slot) (slot : Slot) : Option Place :=
  if slot ∈ moved then some (.saved slot names.stamp) else none

/-- The receipt of a restore. -/
def newReceipt (names : RunNames) (now : Time) (pending : PendingRestore) (moved : List Slot) :
    RestoreReceipt where
  manifest := pending.manifest
  actor := pending.actor
  appliedAt := now
  databaseSaved := savedPlace names moved .database
  masterKeySaved := savedPlace names moved .masterKey
  themesSaved := savedPlace names moved .themes

/-- Install a staged restore that was accepted. -/
def install (names : RunNames) (now : Time) (pending : PendingRestore) : Script RestoreResult := do
  match ← prepare names.identifier with
  | .error cause => refuse names cause
  | .ok _ =>
    match ← switchOver names switchSteps [] [] with
    | .error failure => refuse names (← rollback names failure)
    | .ok moved =>
      let receipt := newReceipt names now pending moved
      match ← perform (.removeAll .pending) with
      | .error errno => return (some receipt, some (.cleanupFailed errno))
      | .ok _ => return (some receipt, none)

/-- Apply the staged restore, if there is one. -/
def applyPendingRestore (services : Services) (config : RestoreConfig) (names : RunNames)
    (now : Time) : Script RestoreResult := do
  match ← checkPending services config with
  | .absent => return (none, none)
  | .unreadable errno => return (none, some (.readPending errno))
  | .refused cause => refuse names cause
  | .accepted pending =>
    match ← perform (.absolute false) with
    | .error errno => refuse names (.absolutePath errno)
    | .ok _ =>
      match ← perform (.absolute true) with
      | .error errno => refuse names (.absolutePath errno)
      | .ok _ =>
        let result ← install names now pending
        removePrepared names.identifier
        return result

end Backup

end Hostpin
