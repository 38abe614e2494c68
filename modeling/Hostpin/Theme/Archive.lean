import Hostpin.Backup.Archive

/-!
# Archives of themes

A theme comes as a ZIP archive with a manifest at its root.  Before anything is extracted, the
names, the sizes and the manifest are checked.

* `safeArchivePath` cleans the name of an entry and refuses the names that lead out of the archive.
* `validateArchive` checks an archive and gives its manifest, with `validateManifest`.
* `extractEntry` and `extractAll` extract the entries into a directory.

The ZIP format, JSON, URLs and the hash function are not part of the program; `Libraries` stands for
them.
-/

namespace Hostpin

open Backup (ZipFile Tree Errno ascii slash backslash clean equalFold hexEncode trimSpace trimFront
  parents makeDirectories createFile)

namespace Theme

/-! ## Limits and manifests -/

/-- The greatest size of an archive. -/
def maxArchiveBytes : ℕ := 26214400

/-- The greatest size of the files of a theme together. -/
def maxUncompressedBytes : ℕ := 104857600

/-- The greatest number of entries of an archive. -/
def maxThemeFiles : ℕ := 2000

/-- The greatest size of a file of a theme. -/
def maxThemeFileBytes : ℕ := 20971520

/-- The greatest size of a manifest. -/
def maxManifestBytes : ℕ := 1048576

/-- The name of the manifest. -/
def manifestName : Bytes := ascii "komari-theme.json"

/-- The page that every theme has. -/
def indexName : Bytes := ascii "dist/index.html"

/-- How a theme is configured.  The name and the data are JSON texts, or empty. -/
structure ThemeConfiguration where
  type : Bytes := []
  icon : Bytes := []
  name : Bytes := []
  data : Bytes := []
deriving DecidableEq

/-- What a theme says about itself.  The name, the description and the author are JSON texts, or
empty. -/
structure ThemeManifest where
  name : Bytes := []
  short : Bytes := []
  description : Bytes := []
  version : Bytes := []
  author : Bytes := []
  url : Bytes := []
  preview : Bytes := []
  configuration : ThemeConfiguration := {}
deriving DecidableEq

/-- What of a URL is looked at. -/
structure ParsedURL where
  isAbs : Bool
  host : Bytes

/-- What is taken from libraries, with the texts of the errors that are shown.  A JSON text is read
as a manifest, as a string, as the values of an object of strings, or as a list of objects, which is
only a question. -/
structure Libraries where
  sum256 : Bytes → Vector UInt8 32
  unzip : Bytes → Except Bytes (List ZipFile)
  unmarshalManifest : Bytes → Except Bytes ThemeManifest
  unmarshalString : Bytes → Option Bytes
  unmarshalLocalized : Bytes → Option (List Bytes)
  isItems : Bytes → Bool
  parseURL : Bytes → Option ParsedURL

/-- Why a theme is not installed. -/
inductive ThemeError where
  | archiveSize
  | checksum
  | openArchive (reason : Bytes)
  | fileCount
  | unsafePath (name : Bytes)
  | duplicatePath (name : Bytes)
  | symlink (name : Bytes)
  | fileTooLarge (name : Bytes)
  | expands
  | compressionRatio (name : Bytes)
  | manifestTooLarge
  | readEntry
  | decodeManifest (reason : Bytes)
  | manifestMissing
  | nameInvalid
  | shortInvalid
  | indexMissing
  | previewInvalid
  | previewMissing
  | managedData
  | rawData
  | redirectData
  | configurationType
  | fileSystem (errno : Errno)
  | saveTheme (reason : Bytes)
deriving DecidableEq

/-- The text of an error, for names that quoting leaves as they are. -/
def ThemeError.message : ThemeError → Bytes
  | .archiveSize => ascii "theme archive must be between 1 byte and 25 MiB"
  | .checksum => ascii "theme SHA-256 checksum does not match"
  | .openArchive reason => ascii "open theme archive: " ++ reason
  | .fileCount => ascii "theme archive has an invalid file count"
  | .unsafePath name => ascii "unsafe theme path \"" ++ name ++ ascii "\""
  | .duplicatePath name => ascii "duplicate theme path \"" ++ name ++ ascii "\""
  | .symlink name => ascii "symbolic links are not allowed: " ++ name
  | .fileTooLarge name => ascii "theme file is too large: " ++ name
  | .expands => ascii "theme expands beyond the uncompressed size limit"
  | .compressionRatio name => ascii "suspicious compression ratio for " ++ name
  | .manifestTooLarge => ascii "theme manifest is too large"
  | .readEntry => ascii "zip: checksum error"
  | .decodeManifest reason => ascii "decode komari-theme.json: " ++ reason
  | .manifestMissing => ascii "theme archive must contain komari-theme.json at its root"
  | .nameInvalid => ascii "theme name must be a string or localized string object"
  | .shortInvalid => ascii "theme short must contain only letters, digits, underscores, or hyphens"
  | .indexMissing => ascii "theme must contain dist/index.html"
  | .previewInvalid => ascii "theme preview path is invalid"
  | .previewMissing => ascii "theme preview file is missing"
  | .managedData => ascii "managed theme configuration data must be an array"
  | .rawData => ascii "raw theme configuration data must be non-empty HTML"
  | .redirectData => ascii "redirect theme configuration must be a safe site-relative path"
  | .configurationType => ascii "theme configuration type must be managed, raw, or redirect"
  | .fileSystem errno => ascii errno.reason
  | .saveTheme reason => reason

/-! ## Names -/

/-- The cleaned name of an entry, unless it is unsafe. -/
def safeArchivePath (name : Bytes) : Except ThemeError Bytes :=
  if name.isEmpty || name.contains 0 || name.contains backslash || (ascii "/").isPrefixOf name then
    .error (.unsafePath name)
  else if clean name == ascii "." || clean name == ascii ".." ||
      (ascii "../").isPrefixOf (clean name) then
    .error (.unsafePath name)
  else .ok (clean name)

example : safeArchivePath (ascii "dist/./img//../index.html") = .ok (ascii "dist/index.html") := by
  decide

/-- The characters of a short name. -/
def shortByte (byte : UInt8) : Bool :=
  65 ≤ byte && byte ≤ 90 || 97 ≤ byte && byte ≤ 122 || 48 ≤ byte && byte ≤ 57 || byte == 95 ||
    byte == 45

/-- Whether a text is a short name. -/
def shortPattern (short : Bytes) : Bool :=
  1 ≤ short.length && short.length ≤ 64 && short.all shortByte

/-! ## Checks of the manifest -/

/-- Whether a JSON text is a text, or has a text for some language, that is not blank. -/
def validLocalizedText (L : Libraries) (raw : Bytes) : Bool :=
  if raw.isEmpty then false
  else
    match L.unmarshalString raw with
    | some text => trimSpace text != []
    | none =>
      match L.unmarshalLocalized raw with
      | none => false
      | some localized => localized.any fun value => trimSpace value != []

/-- Whether a redirect stays on the site. -/
def validRedirect (L : Libraries) (target : Bytes) : Bool :=
  if trimSpace target == [] || target.contains backslash || (ascii "/").isPrefixOf target ||
      (ascii "//").isPrefixOf target then
    false
  else
    match L.parseURL target with
    | none => false
    | some parsed =>
      if parsed.isAbs || parsed.host != [] then false
      else
        let trimmed := trimFront [ascii "../"] target.length target
        -- what stands before the query
        let path := trimmed.takeWhile (· != 63)
        !(path.splitOn slash).contains (ascii "..")

/-- The checks of the configuration of a theme. -/
def validateConfiguration (L : Libraries) (configuration : ThemeConfiguration) :
    Except ThemeError Unit :=
  let typeName := if configuration.type = [] then ascii "managed" else configuration.type
  if typeName = ascii "managed" then
    if configuration.data ≠ [] && configuration.data ≠ ascii "null" &&
        !L.isItems configuration.data then
      .error .managedData
    else .ok ()
  else if typeName = ascii "raw" then
    match L.unmarshalString configuration.data with
    | none => .error .rawData
    | some raw => if trimSpace raw == [] then .error .rawData else .ok ()
  else if typeName = ascii "redirect" then
    match L.unmarshalString configuration.data with
    | none => .error .redirectData
    | some target => if validRedirect L target then .ok () else .error .redirectData
  else .error .configurationType

/-- The checks of a manifest, with the cleaned names of the entries. -/
def validateManifest (L : Libraries) (manifest : ThemeManifest) (files : List Bytes) :
    Except ThemeError Unit :=
  if !validLocalizedText L manifest.name then .error .nameInvalid
  else if !shortPattern manifest.short then .error .shortInvalid
  else if !files.contains indexName then .error .indexMissing
  else if manifest.preview = [] then validateConfiguration L manifest.configuration
  else
    match safeArchivePath manifest.preview with
    | .error _ => .error .previewInvalid
    | .ok preview =>
      if !files.contains preview then .error .previewMissing
      else validateConfiguration L manifest.configuration

/-! ## Checks of the archive -/

/-- The manifest in an entry. -/
def readManifest (L : Libraries) (entry : ZipFile) : Except ThemeError ThemeManifest :=
  if entry.uncompressedSize > maxManifestBytes then .error .manifestTooLarge
  else
    match entry.contents.map fun contents => contents.take (maxManifestBytes + 1) with
    | none => .error .readEntry
    | some data =>
      if data.length > maxManifestBytes then .error .manifestTooLarge
      else
        match L.unmarshalManifest data with
        | .error reason => .error (.decodeManifest reason)
        | .ok manifest => .ok manifest

/-- Whether the sizes of an entry are those of a decompression bomb. -/
def suspiciousRatio (entry : ZipFile) : Bool :=
  entry.uncompressedSize > 1048576 && entry.compressedSize > 0 &&
    entry.uncompressedSize / entry.compressedSize > 250

/-- The manifest after an entry. -/
def takeManifest (L : Libraries) (manifest : Option ThemeManifest) (name : Bytes)
    (entry : ZipFile) : Except ThemeError (Option ThemeManifest) :=
  if name = manifestName then (readManifest L entry).map some else .ok manifest

/-- The checks of the entries, with the names, the total size and the manifest so far. -/
def validateEntries (L : Libraries) :
    List Bytes → ℕ → Option ThemeManifest → List ZipFile →
      Except ThemeError (List Bytes × Option ThemeManifest)
  | seen, _, manifest, [] => .ok (seen, manifest)
  | seen, total, manifest, entry :: rest =>
    match safeArchivePath entry.name with
    | .error cause => .error cause
    | .ok name =>
      if seen.contains name then .error (.duplicatePath name)
      else if entry.symlink then .error (.symlink name)
      else if entry.uncompressedSize > maxThemeFileBytes then .error (.fileTooLarge name)
      else if total + entry.uncompressedSize > maxUncompressedBytes then .error .expands
      else if suspiciousRatio entry then .error (.compressionRatio name)
      else
        match takeManifest L manifest name entry with
        | .error cause => .error cause
        | .ok manifest =>
          validateEntries L (name :: seen) (total + entry.uncompressedSize) manifest rest

/-- The manifest under the short name that the theme is installed under.  The reserved name of the
built-in theme is replaced. -/
def ThemeManifest.renamed (manifest : ThemeManifest) : ThemeManifest :=
  if equalFold manifest.short (ascii "default") then
    { manifest with short := ascii "komari-default" }
  else manifest

/-- Check an archive.  All its entries are to be extracted. -/
def validateArchive (L : Libraries) (archive : List ZipFile) : Except ThemeError ThemeManifest :=
  match validateEntries L [] 0 none archive with
  | .error cause => .error cause
  | .ok (_, none) => .error .manifestMissing
  | .ok (seen, some manifest) =>
    (validateManifest L manifest.renamed seen).map fun _ => manifest.renamed

/-- An entry with a name and contents. -/
def exampleEntry (name contents : Bytes) : ZipFile where
  name := name
  symlink := false
  directory := name.getLast? == some slash
  uncompressedSize := contents.length
  compressedSize := contents.length
  contents := some contents

/-- The archive of a small theme. -/
def exampleArchive : List ZipFile :=
  [exampleEntry (ascii "komari-theme.json")
      (ascii "\x7b\"name\":\"Demo\",\"short\":\"demo\"\x7d"),
    exampleEntry (ascii "dist/") [], exampleEntry (ascii "./dist//index.html") (ascii "<body>")]

/-- Its manifest. -/
def exampleManifest : ThemeManifest := { name := ascii "\"Demo\"", short := ascii "demo" }

/-- Libraries for the examples: they read this archive and its manifest. -/
def exampleLibraries : Libraries where
  sum256 _ := Vector.replicate 32 0
  unzip payload :=
    if payload = ascii "PK" then .ok exampleArchive
    else .error (ascii "zip: not a valid zip file")
  unmarshalManifest text :=
    if text = ascii "\x7b\"name\":\"Demo\",\"short\":\"demo\"\x7d" then
      .ok exampleManifest
    else .error (ascii "unexpected end of JSON input")
  unmarshalString text := if text = ascii "\"Demo\"" then some (ascii "Demo") else none
  unmarshalLocalized _ := none
  isItems _ := false
  parseURL _ := none

example : validateArchive exampleLibraries exampleArchive = .ok exampleManifest := by decide +kernel

/-! ## Extraction -/

/-- Whether an entry is a directory. -/
def isDirectory (entry : ZipFile) : Bool := entry.directory || entry.name.getLast? == some slash

/-- Extract an entry into a directory, and give the number of bytes. -/
def extractEntry (tree : Tree) (entry : ZipFile) : Except ThemeError (ℕ × Tree) :=
  match safeArchivePath entry.name with
  | .error cause => .error cause
  | .ok name =>
    if isDirectory entry then
      match makeDirectories tree (parents name ++ [name]) with
      | .error errno => .error (.fileSystem errno)
      | .ok tree => .ok (0, tree)
    else
      match entry.contents.map fun contents => contents.take (maxThemeFileBytes + 1) with
      | none => .error .readEntry
      | some written =>
        match createFile tree name written with
        | .error errno => .error (.fileSystem errno)
        | .ok tree =>
          if written.length > maxThemeFileBytes then .error (.fileTooLarge name)
          else .ok (written.length, tree)

/-- Extract entries, with the number of bytes extracted so far. -/
def extractAll : ℕ → Tree → List ZipFile → Except ThemeError Tree
  | _, tree, [] => .ok tree
  | extracted, tree, entry :: rest =>
    match extractEntry tree entry with
    | .error cause => .error cause
    | .ok (written, tree) =>
      if extracted + written > maxUncompressedBytes then .error .expands
      else extractAll (extracted + written) tree rest

end Theme

end Hostpin
