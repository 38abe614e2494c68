import Hostpin.Backup.Manifest
import Hostpin.Foundation.Procedure

/-!
# The file system of a restore

A staged restore is applied on a few paths: the live ones, copies beside them, rollback names, the
staged tree and the trees in quarantine.

* `Files` says what stands at these paths.
* `Operation` lists the operations on them, `act` says what they do, and `handle` what they do when
  some of them fail as `Faults` say.

SQLite, the codec of the description of a restore, base64 and the opening of encrypted fields are
not part of the program; `Services` stands for them.
-/

namespace Hostpin

namespace Backup

/-! ## Places -/

/-- The paths that a restore replaces. -/
inductive Slot where
  | database
  | wal
  | shm
  | masterKey
  | themes
deriving DecidableEq

/-- The paths that a restore touches. -/
inductive Place where
  /-- The database file with `-wal` and `-shm`, `master.key` and `themes` of the data directory. -/
  | live (slot : Slot)
  /-- A copy beside a live path, `.hostpin.db.restore-new-ID`. -/
  | prepared (slot : Slot) (identifier : String)
  /-- A live path moved aside, `hostpin.db.pre-restore-STAMP`, with `-wal` and `-shm`. -/
  | saved (slot : Slot) (stamp : String)
  /-- The staged tree, `.restore-pending`. -/
  | pending
  /-- A staged tree in quarantine, `.restore-failed-ID`. -/
  | failed (identifier : String)
deriving DecidableEq

/-- What stands at a place. -/
inductive Node where
  | file (content : Bytes)
  | directory (tree : Tree)
  /-- A symbolic link, a device, a socket or a pipe. -/
  | irregular

/-- The file system. -/
abbrev Files := Place → Option Node

/-- The files with one place set. -/
def Files.set (files : Files) (place : Place) (node : Option Node) : Files :=
  Function.update files place node

/-- Why an operation fails. -/
inductive Errno where
  | notExist
  | other (reason : String)
deriving DecidableEq

/-! ## Services -/

/-- What queries see in a database. -/
structure Database where
  quickCheck : Option String
  tables : List String
  schemaVersion : Option ℤ
  admins : Option ℕ
  totpSecrets : Option (List String)
  channelConfigs : Option (List String)
  sessions : Option (List String)
  /-- The other rows. -/
  rest : Bytes
deriving DecidableEq

/-- The database without sessions. -/
def Database.clearSessions (database : Database) : Database :=
  { database with sessions := database.sessions.map fun _ => [] }

/-- What is taken from libraries.  `connect` is what a connection sees, from what stands at the
database file and at its `-wal`, and `flush` the database file after the sessions were deleted and
the log was written back. -/
structure Services where
  primitives : Primitives
  unmarshalPending : Bytes → Option PendingRestore
  decodeBase64 : Bytes → Option Bytes
  connect : (main wal : Option Entry) → Option Database
  flush : (main wal : Option Entry) → Bytes
  openSecret : (key : Bytes) → (encrypted : String) → Bool
  latestMigration : ℤ

/-! ## Operations -/

/-- The parts of the program that walk over the staged tree. -/
inductive Walk where
  | tree
  | checksums
  | themes
deriving DecidableEq

/-- The operations of a restore.  The names of files are relative to the staged tree. -/
inductive Operation where
  | walk (by_ : Walk)
  | readFile (name : Bytes)
  | openDatabase
  | clearSessions
  | removeFile (name : Bytes)
  | absolute (dataDir : Bool)
  | copyRegularFile (name : Bytes) (to_ : Place)
  | makeDirectory (place : Place)
  | copyInto (relative : Bytes) (to_ : Place)
  | lstat (place : Place)
  | rename (current to_ : Place)
  | removeAll (place : Place)
deriving DecidableEq

/-- What an operation gives when it works. -/
@[reducible] def Value : Operation → Type
  | .walk _ => Node
  | .readFile _ => Bytes
  | .openDatabase => Database
  | _ => Unit

/-- What an operation answers. -/
abbrev Answer (op : Operation) : Type := Except Errno (Value op)

/-- How an injected failure of an operation looks: what is reported, and what is left where the
operation was writing or removing. -/
structure Failure where
  reason : String
  left : Option Node

/-- The operations that fail. -/
abbrev Faults := Operation → Option Failure

/-- The file system works. -/
def noFaults : Faults := fun _ => none

/-- The files after an operation that fails. -/
def Files.afterFailure (files : Files) (left : Option Node) : Operation → Files
  | .copyRegularFile _ to_ => files.set to_ left
  | .makeDirectory place => files.set place left
  | .copyInto _ to_ => files.set to_ left
  | .removeAll place => files.set place left
  | _ => files

/-- The staged tree, if it is a directory. -/
def Files.pendingTree (files : Files) : Option Tree :=
  match files .pending with
  | some (.directory tree) => some tree
  | _ => none

/-- What stands at a path of the staged tree. -/
def Files.pendingEntry? (files : Files) (name : Bytes) : Option Entry :=
  files.pendingTree.bind fun tree => tree.find? name

/-- Whether a node can be renamed to a place with such a node. -/
def Node.mayReplace : Node → Option Node → Bool
  | _, none => true
  | .directory _, some (.directory tree) => tree.rows.isEmpty
  | .directory _, some _ => false
  | _, some (.directory _) => false
  | _, some _ => true

/-- Put an entry into the directory at a place, unless something else stands there. -/
def Files.addEntry (files : Files) (place : Place) (relative : Bytes) (entry : Entry) :
    Except Errno Unit × Files :=
  match files place with
  | some (.directory tree) =>
    match entry, tree.find? relative with
    | .directory, some .directory => (.ok (), files)
    | _, none => (.ok (), files.set place (some (.directory (tree.put relative entry))))
    | _, some _ => (.error (.other "file exists"), files)
  | _ => (.error .notExist, files)

/-- What an operation does. -/
def act (services : Services) : (op : Operation) → Files → Answer op × Files
  | .walk _, files =>
    match files .pending with
    | none => (.error .notExist, files)
    | some node => (.ok node, files)
  | .readFile name, files =>
    match files.pendingEntry? name with
    | none => (.error .notExist, files)
    | some (.regular content) => (.ok content, files)
    | some _ => (.error (.other "is a directory"), files)
  | .openDatabase, files =>
    match services.connect (files.pendingEntry? databaseName) (files.pendingEntry? walName) with
    | none => (.error (.other "unable to open database file"), files)
    | some database => (.ok database, files)
  | .clearSessions, files =>
    match files.pendingTree with
    | none => (.error .notExist, files)
    | some tree =>
      let main := tree.find? databaseName
      let wal := tree.find? walName
      match (services.connect main wal).bind Database.sessions with
      | none => (.error (.other "no such table: sessions"), files)
      | some _ =>
        let flushed := tree.put databaseName (.regular (services.flush main wal))
        (.ok (), files.set .pending (some (.directory flushed)))
  | .removeFile name, files =>
    match files.pendingTree with
    | none => (.error .notExist, files)
    | some tree => (.ok (), files.set .pending (some (.directory (tree.remove name))))
  | .absolute _, files => (.ok (), files)
  | .copyRegularFile name to_, files =>
    match files.pendingEntry? name, files to_ with
    | none, _ => (.error .notExist, files)
    | some (.regular content), none => (.ok (), files.set to_ (some (.file content)))
    | some (.regular _), some _ => (.error (.other "file exists"), files)
    | some _, _ => (.error (.other "source is not a regular file"), files)
  | .makeDirectory place, files =>
    match files place with
    | none => (.ok (), files.set place (some (.directory KeyedTable.empty)))
    | some (.directory _) => (.ok (), files)
    | some _ => (.error (.other "not a directory"), files)
  | .copyInto relative to_, files =>
    match files.pendingEntry? (themesPrefix ++ relative) with
    | none => (.error .notExist, files)
    | some .irregular => (.error (.other "restore themes contain a non-regular path"), files)
    | some entry => files.addEntry to_ relative entry
  | .lstat place, files =>
    match files place with
    | none => (.error .notExist, files)
    | some _ => (.ok (), files)
  | .rename current to_, files =>
    match files current with
    | none => (.error .notExist, files)
    | some node =>
      if node.mayReplace (files to_) then (.ok (), (files.set current none).set to_ (some node))
      else (.error (.other "file exists"), files)
  | .removeAll place, files => (.ok (), files.set place none)

/-- What an operation does when some operations fail. -/
def handle (services : Services) (faults : Faults) : Handler Operation Answer Files :=
  fun op files =>
    match faults op with
    | none => act services op files
    | some failure => (.error (.other failure.reason), files.afterFailure failure.left op)

/-- Procedures on the file system. -/
abbrev Script := Procedure Operation Answer

/-! ## Frames -/

/-- Whether an operation may change a place. -/
def Operation.touches : Operation → Place → Bool
  | .clearSessions, place => place == .pending
  | .removeFile _, place => place == .pending
  | .copyRegularFile _ to_, place => place == to_
  | .makeDirectory to_, place => place == to_
  | .copyInto _ to_, place => place == to_
  | .rename current to_, place => place == current || place == to_
  | .removeAll to_, place => place == to_
  | _, _ => false

/-- A place that is set. -/
@[simp] lemma Files.set_self (files : Files) (place : Place) (node : Option Node) :
    files.set place node place = node := by
  simp [Files.set]

/-- The other places keep what stands there. -/
lemma Files.set_of_ne {files : Files} {place other : Place} {node : Option Node}
    (h : other ≠ place) : files.set place node other = files other := by
  simp [Files.set, h]

/-- A failure changes only the place that is written. -/
lemma Files.afterFailure_of_not_touches {files : Files} {left : Option Node} {op : Operation}
    {place : Place} (h : op.touches place = false) :
    files.afterFailure left op place = files place := by
  cases op <;> simp_all [Files.afterFailure, Operation.touches, Files.set_of_ne]

/-- Adding an entry changes only the directory. -/
lemma Files.addEntry_of_ne {files : Files} {place other : Place} {relative : Bytes} {entry : Entry}
    (h : other ≠ place) : (files.addEntry place relative entry).2 other = files other := by
  unfold Files.addEntry
  repeat' split
  all_goals simp [Files.set_of_ne h]

/-- An operation that works changes only the places it touches. -/
lemma act_of_not_touches {services : Services} {op : Operation} {files : Files} {place : Place}
    (h : op.touches place = false) : (act services op files).2 place = files place := by
  cases op <;> simp only [Operation.touches, beq_eq_false_iff_ne, Bool.or_eq_false_iff] at h <;>
    simp only [act] <;> repeat' split
  all_goals first
    | rfl
    | exact Files.set_of_ne h
    | exact Files.addEntry_of_ne h
    | exact (Files.set_of_ne h.2).trans (Files.set_of_ne h.1)

/-- An operation changes only the places it touches. -/
lemma handle_of_not_touches {services : Services} {faults : Faults} {op : Operation}
    {files : Files} {place : Place} (h : op.touches place = false) :
    (handle services faults op files).2 place = files place := by
  unfold handle
  split
  · exact act_of_not_touches h
  · exact Files.afterFailure_of_not_touches h

end Backup

end Hostpin
