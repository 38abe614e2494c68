import Hostpin.Backup.Container
import Hostpin.Foundation.KeyedTable

/-!
# Manifests and directory trees

A manifest declares the files of a backup with their sizes and checksums.  A backup holds the
database, the master key and the files of the themes; while it is staged for a restore it is a
directory tree.

* `Tree` is a directory tree as a walk over it finds it, every path once.
* `safeArchivePath` and `safePayloadPath` are the rules for the names in a backup.
* `FileRecord.of` is the entry of a file in a manifest.
-/

namespace Hostpin

open Clock

namespace Backup

/-! ## Limits and names -/

/-- The format of a backup. -/
def archiveFormat : String := "hostpin-portable-backup"

/-- The version of the format. -/
def archiveVersion : ℤ := 1

/-- The greatest size of the contents of a backup. -/
def maxArchiveBytes : ℕ := 8589934592

/-- The greatest number of files of the themes. -/
def maxArchiveFiles : ℕ := 50000

/-- The greatest size of a file. -/
def maxArchiveFileBytes : ℕ := 6442450944

/-- The greatest size of a manifest. -/
def maxManifestBytes : ℕ := 1048576

/-- The greatest ratio of the size of a file to its compressed size. -/
def maxCompressionRatio : ℕ := 1000

/-- The name of the database. -/
def databaseName : Bytes := ascii "hostpin.db"

/-- The name of the write-ahead log beside the database. -/
def walName : Bytes := ascii "hostpin.db-wal"

/-- The name of the shared memory beside the database. -/
def shmName : Bytes := ascii "hostpin.db-shm"

/-- The name of the master key. -/
def keyName : Bytes := ascii "master.key"

/-- The name of the directory of the themes. -/
def themesName : Bytes := ascii "themes"

/-- What the names of the files of the themes start with. -/
def themesPrefix : Bytes := ascii "themes/"

/-- The name of the manifest in an archive. -/
def manifestName : Bytes := ascii "manifest.json"

/-- The name of the description of a staged restore. -/
def pendingMetadata : Bytes := ascii "restore.json"

/-! ## Paths -/

/-- The byte that separates the parts of a path. -/
def slash : UInt8 := 47

/-- The byte that no path in a backup has. -/
def backslash : UInt8 := 92

/-- The parts of a path seen so far, the last one first, with one more part. -/
def cleanPart (rooted : Bool) (parts : List Bytes) (part : Bytes) : List Bytes :=
  if part = [] ∨ part = ascii "." then parts
  else if part = ascii ".." then
    match parts with
    | [] => if rooted then [] else [part]
    | last :: rest => if last = ascii ".." then part :: parts else rest
  else part :: parts

/-- The shortest path that names the same file. -/
def clean (name : Bytes) : Bytes :=
  let rooted := name.head? == some slash
  let parts := (name.splitOn slash).foldl (cleanPart rooted) []
  let body := List.intercalate [slash] parts.reverse
  let path := if rooted then slash :: body else body
  if path.isEmpty then ascii "." else path

/-- Whether a name of an archive stays inside the directory that the archive is extracted to. -/
def safeArchivePath (name : Bytes) : Bool :=
  !name.isEmpty && !name.contains backslash && !(ascii "/").isPrefixOf name && clean name == name &&
    name != ascii "." && name != ascii ".." && !(ascii "../").isPrefixOf name

/-- Whether a name may be declared by a manifest. -/
def safePayloadPath (name : Bytes) : Bool :=
  safeArchivePath name &&
    (name == databaseName || name == keyName || themesPrefix.isPrefixOf name)

example : safePayloadPath (ascii "themes/demo/index.html") = true := by decide

example : safePayloadPath (ascii "themes/../master.key") = false := by decide

/-! ## Checksums -/

/-- A hexadecimal digit. -/
def hexDigit (n : ℕ) : UInt8 := if n < 10 then UInt8.ofNat (48 + n) else UInt8.ofNat (87 + n)

/-- A byte string in hexadecimal digits. -/
def hexEncode (bytes : Bytes) : Bytes :=
  bytes.flatMap fun byte => [hexDigit (byte.toNat / 16), hexDigit (byte.toNat % 16)]

/-- A letter of ASCII in lower case. -/
def lowerByte (byte : UInt8) : UInt8 := if 65 ≤ byte ∧ byte ≤ 90 then byte + 32 else byte

/-- Equality up to the case of letters, where one text has ASCII letters only. -/
def equalFold (left right : Bytes) : Bool := left.map lowerByte == right.map lowerByte

/-! ## Manifests -/

/-- A file that a manifest declares. -/
structure FileRecord where
  path : Bytes
  size : ℤ
  sha256 : Bytes
deriving DecidableEq

/-- The entry of a file in a manifest. -/
def FileRecord.of (P : Primitives) (name content : Bytes) : FileRecord where
  path := name
  size := content.length
  sha256 := hexEncode (P.sum256 content).toList

/-- What a backup says about itself. -/
structure Manifest where
  format : String
  version : ℤ
  createdAt : Time
  hostpinVersion : String
  sourceDriver : String
  files : List FileRecord
deriving DecidableEq

/-- Whether this version reads backups with such a manifest. -/
def Manifest.supported (manifest : Manifest) : Bool :=
  !(manifest.format != archiveFormat || manifest.version != archiveVersion ||
    manifest.sourceDriver != "sqlite" || isZero manifest.createdAt)

/-- The description of a staged restore. -/
structure PendingRestore where
  manifest : Manifest
  actor : String
  stagedAt : Time
  externalMasterKey : Bool
deriving DecidableEq

/-! ## Trees -/

/-- What stands at a path of a directory tree. -/
inductive Entry where
  | regular (content : Bytes)
  | directory
  /-- A symbolic link, a device, a socket or a pipe. -/
  | irregular
deriving DecidableEq

/-- A directory tree: the paths below the directory, relative to it, with what stands there. -/
abbrev Tree := KeyedTable (Prod.fst : Bytes × Entry → Bytes)

namespace Tree

/-- What stands at a path. -/
def find? (tree : Tree) (path : Bytes) : Option Entry := (tree.lookup path).map Prod.snd

/-- The content of the regular file at a path. -/
def file? (tree : Tree) (path : Bytes) : Option Bytes :=
  match tree.find? path with
  | some (.regular content) => some content
  | _ => none

/-- The tree without a path. -/
def remove (tree : Tree) (path : Bytes) : Tree := tree.deleteWhere fun e => e.1 == path

/-- The tree with a path set. -/
def put (tree : Tree) (path : Bytes) (entry : Entry) : Tree :=
  if tree.find? path = some entry then tree else tree.upsert (path, entry)

/-- The search finds the entries of the tree. -/
lemma find?_eq_some_iff {tree : Tree} {path : Bytes} {entry : Entry} :
    tree.find? path = some entry ↔ (path, entry) ∈ tree := by
  unfold find?
  rw [Option.map_eq_some_iff]
  constructor
  · rintro ⟨⟨p, e⟩, hlookup, rfl⟩
    obtain ⟨hmem, rfl⟩ := KeyedTable.lookup_eq_some_iff.mp hlookup
    exact hmem
  · intro hmem
    exact ⟨(path, entry), KeyedTable.lookup_eq_some_iff.mpr ⟨hmem, rfl⟩, rfl⟩

/-- A regular file is found by its content. -/
lemma file?_eq_some_iff {tree : Tree} {path content : Bytes} :
    tree.file? path = some content ↔ tree.find? path = some (.regular content) := by
  unfold file?
  split <;> simp_all

/-- Removing a path leaves the other paths. -/
lemma find?_remove_of_ne {tree : Tree} {path other : Bytes} (h : other ≠ path) :
    (tree.remove path).find? other = tree.find? other := by
  refine Option.ext fun entry => ?_
  rw [find?_eq_some_iff, find?_eq_some_iff, remove, KeyedTable.mem_deleteWhere]
  simp [h]

/-- A removed path is not there. -/
lemma find?_remove_self (tree : Tree) (path : Bytes) : (tree.remove path).find? path = none := by
  refine Option.eq_none_iff_forall_ne_some.mpr fun entry hsome => ?_
  rw [find?_eq_some_iff, remove, KeyedTable.mem_deleteWhere] at hsome
  simp at hsome

/-- Setting a path to what stands there changes nothing. -/
lemma put_eq_self {tree : Tree} {path : Bytes} {entry : Entry}
    (h : tree.find? path = some entry) : tree.put path entry = tree :=
  if_pos h

end Tree

end Backup

end Hostpin
