import Hostpin.Backup.Manifest
import Hostpin.Foundation.Answers
import Hostpin.Foundation.Base64
import Hostpin.Foundation.Procedure
import Hostpin.Updater.Version

/-!
# The agent that updates itself

The agent asks for the manifest of the latest release.  When it is signed with the key that is built
into the agent and its version is newer, the agent loads the file that the manifest names for its
platform, and puts it into its own place: its own file becomes the rollback, and the new one takes
the name of the agent.

An `UpdateAttempt` is one try with everything that can go wrong in it: the network may answer
anything, every operation on the files can fail, can leave a part of what it writes, can work
although it says that it has failed, and the agent can be killed between two operations.

* An attempt leaves the file of the agent, or puts one into its place that was offered to the agent,
  or stops while the file of the agent is the rollback (`agent_not_lost`).
* Over any sequence of attempts and starts, an agent that is started is the same as every one that
  was started before it, or is newer (`updates_go_up`).
-/

namespace Hostpin

namespace Updater

open Backup (ascii trimSpace hexEncode equalFold)
open Base64 Clock Procedure Runs

/-! ## Manifests -/

/-- A file of a release, for a platform. -/
structure Artifact where
  os : Bytes
  arch : Bytes
  url : Bytes
  sha256 : Bytes
  size : ℤ
deriving DecidableEq

/-- A release. -/
structure Payload where
  version : Bytes
  publishedAt : Time
  artifacts : List Artifact
deriving DecidableEq

/-- A release with its signature. -/
structure Manifest where
  payload : Payload
  signature : Bytes

/-- What of a URL is looked at. -/
structure ArtifactURL where
  scheme : Bytes
  host : Bytes

/-- What is built into an agent: the key of its releases, and its version. -/
structure Build where
  publicKey : Bytes
  version : Bytes

/-- What is taken from libraries, the platform of the agent, and what is built into the agent that a
file is. -/
structure Services where
  unmarshalManifest : Bytes → Except Bytes Manifest
  marshalPayload : Payload → Option Bytes
  verify : Bytes → Bytes → Bytes → Bool
  sum256 : Bytes → Vector UInt8 32
  parseURL : Bytes → Option ArtifactURL
  os : Bytes
  arch : Bytes
  build : Bytes → Build

/-- An answer of a server: what can be read of its body, and why no more can be read. -/
structure ServerAnswer where
  statusCode : ℤ
  status : Bytes
  body : Bytes
  broken : Option Bytes := none

/-- Whether an answer is an error. -/
def ServerAnswer.failed (answer : ServerAnswer) : Bool :=
  answer.statusCode < 200 || 300 ≤ answer.statusCode

/-- The key of the releases. -/
def decodePublicKey (encoded : Bytes) : Except Bytes Bytes :=
  if trimSpace encoded = [] then
    .error (ascii "automatic updates are disabled: release public key is not configured")
  else
    match decode stdEncoding encoded with
    | none => .error (ascii "automatic update public key is invalid")
    | some key =>
      if key.length = 32 then .ok key
      else .error (ascii "automatic update public key is invalid")

/-- Check that a manifest is signed. -/
def verifyManifest (P : Services) (manifest : Manifest) (publicKey : Bytes) : Except Bytes Unit :=
  if manifest.payload.version = [] ∨ manifest.payload.artifacts = [] ∨
      isZero manifest.payload.publishedAt then
    .error (ascii "update manifest is incomplete")
  else
    match decode stdEncoding manifest.signature with
    | none => .error (ascii "update manifest signature is invalid")
    | some signature =>
      if signature.length ≠ 64 then .error (ascii "update manifest signature is invalid")
      else if (P.marshalPayload manifest.payload).any (P.verify publicKey · signature) then .ok ()
      else .error (ascii "update manifest signature verification failed")

/-- The manifest of an answer, when it is signed. -/
def signedManifest (P : Services) (publicKey : Bytes) (answer : Except Bytes ServerAnswer) :
    Except Bytes Manifest :=
  match answer with
  | .error reason => .error reason
  | .ok response =>
    if response.failed then .error (ascii "update manifest returned " ++ response.status)
    else
      let data := response.body.take (2 ^ 20 + 1)
      if response.broken.isSome ∨ 2 ^ 20 < data.length then
        .error (ascii "update manifest exceeds 1 MiB")
      else
        match P.unmarshalManifest data with
        | .error reason => .error (ascii "decode update manifest: " ++ reason)
        | .ok manifest =>
          match verifyManifest P manifest publicKey with
          | .error reason => .error reason
          | .ok () => .ok manifest

/-! ## Files -/

/-- The file of an agent, the one that it loads, and the rollback. -/
structure AgentFiles where
  executable : Option Bytes := none
  temporary : Option Bytes := none
  backup : Option Bytes := none

/-- The operations on the files. -/
inductive FileOperation where
  | openTemporary
  | writeTemporary (contents : Bytes)
  | removeTemporary
  | chmodTemporary
  | removeBackup
  | retire
  | install
  | restore

/-- The files after an operation.  An operation on a file that is not there does not work. -/
def AgentFiles.after (files : AgentFiles) : FileOperation → Option AgentFiles
  | .openTemporary => some { files with temporary := some [] }
  | .writeTemporary contents => some { files with temporary := some contents }
  | .removeTemporary => files.temporary.map fun _ => { files with temporary := none }
  | .chmodTemporary => files.temporary.map fun _ => files
  | .removeBackup => files.backup.map fun _ => { files with backup := none }
  | .retire =>
    files.executable.map fun own => { files with executable := none, backup := some own }
  | .install =>
    files.temporary.map fun loaded => { files with executable := some loaded, temporary := none }
  | .restore => files.backup.map fun own => { files with executable := some own, backup := none }

/-- The files after an operation that fails; the file that is loaded may have anything in it. -/
def AgentFiles.afterFailure (files : AgentFiles) (left : Option Bytes) :
    FileOperation → AgentFiles
  | .openTemporary | .writeTemporary _ => { files with temporary := left }
  | .removeTemporary | .chmodTemporary | .removeBackup | .retire | .install | .restore => files

/-- What becomes of an operation: it works, it fails, or it works and says that it has failed. -/
inductive FileFate where
  | works
  | fails (reason : Bytes) (left : Option Bytes)
  | worksUnheard (reason : Bytes)

/-- What an operation answers and leaves under a fate. -/
def AgentFiles.under (files : AgentFiles) (op : FileOperation) :
    FileFate → Except Bytes Unit × AgentFiles
  | .works =>
    match files.after op with
    | none => (.error (ascii "no such file or directory"), files)
    | some later => (.ok (), later)
  | .fails reason left => (.error reason, files.afterFailure left op)
  | .worksUnheard reason => (.error reason, (files.after op).getD files)

/-- The files, with the fates of the operations to come. -/
structure FileMachine where
  files : AgentFiles
  fates : ℕ → FileFate := fun _ => .works

/-- What an operation answers and leaves under the next fate. -/
def answerFileOperation :
    Handler FileOperation (fun _ => Except Bytes Unit) FileMachine := fun op m =>
  ((m.files.under op (m.fates 0)).1,
    { files := (m.files.under op (m.fates 0)).2, fates := fun n => m.fates (n + 1) })

/-- An update in its course. -/
abbrev UpdateScript (α : Type) := Procedure FileOperation (fun _ => Except Bytes Unit) α

/-- Ask for an operation. -/
def fileOperation (op : FileOperation) : UpdateScript (Except Bytes Unit) := perform op

/-! ## Updates -/

/-- What an update reports. -/
structure UpdateResult where
  updated : Bool := false
  version : Bytes
  backup : Bytes := []
deriving DecidableEq

/-- One try to update: what the server answers when the manifest and the file are asked for, the
path of the agent, the fates of the operations on its files, and after how many of them the agent is
killed, if it is.  With a link in the path that leads nowhere the source works on other files, and
fails when it renames; here it has no path then. -/
structure UpdateAttempt where
  manifest : Except Bytes ServerAnswer
  executable : Except Bytes Bytes
  artifact : Except Bytes ServerAnswer
  fates : ℕ → FileFate := fun _ => .works
  killed : Option ℕ := none

/-- Give up, and remove the file that was loaded. -/
def discard (reason : Bytes) : UpdateScript (Except Bytes UpdateResult) := do
  let _ ← fileOperation .removeTemporary
  return .error reason

/-- Put the file that was loaded into the place of the agent. -/
def installLoaded (executable version : Bytes) : UpdateScript (Except Bytes UpdateResult) := do
  match ← fileOperation .chmodTemporary with
  | .error reason => discard reason
  | .ok () =>
    let _ ← fileOperation .removeBackup
    match ← fileOperation .retire with
    | .error reason => discard reason
    | .ok () =>
      match ← fileOperation .install with
      | .error reason =>
        let _ ← fileOperation .restore
        return .error reason
      | .ok () => return .ok ⟨true, version, executable ++ ascii ".rollback"⟩

/-- Load a file, and install it when it is the one of the manifest. -/
def loadArtifact (P : Services) (executable version : Bytes) (artifact : Artifact)
    (response : ServerAnswer) : UpdateScript (Except Bytes UpdateResult) := do
  let data := response.body.take (artifact.size.toNat + 1)
  match ← fileOperation (.writeTemporary data) with
  | .error reason => discard reason
  | .ok () =>
    match if response.body.length ≤ artifact.size.toNat then response.broken else none with
    | some reason => discard reason
    | none =>
      if response.failed ∨ data.length ≠ artifact.size.toNat then
        discard (ascii "downloaded Agent size or HTTP status did not match the signed manifest")
      else if equalFold (hexEncode (P.sum256 data).toList) artifact.sha256 = false then
        discard (ascii "downloaded Agent checksum did not match the signed manifest")
      else installLoaded executable version

/-- Install the file of a release. -/
def applyArtifact (P : Services) (attempt : UpdateAttempt) (version : Bytes)
    (artifact : Artifact) : UpdateScript (Except Bytes UpdateResult) := do
  if (P.parseURL artifact.url).any (fun url => url.scheme = ascii "https" && url.host != []) = false
  then return .error (ascii "signed artifact URL must use HTTPS")
  else if artifact.sha256.length ≠ 64 ∨ artifact.size ≤ 0 ∨ 200 * 2 ^ 20 < artifact.size then
    return .error (ascii "signed artifact metadata is invalid")
  else
    match attempt.executable with
    | .error reason => return .error reason
    | .ok executable =>
      match ← fileOperation .openTemporary with
      | .error reason => return .error reason
      | .ok () =>
        match attempt.artifact with
        | .error reason => return .error reason
        | .ok response => loadArtifact P executable version artifact response

/-- Ask for the latest release, and install it when it is newer. -/
def checkAndApply (P : Services) (current : Build) (attempt : UpdateAttempt) :
    UpdateScript (Except Bytes UpdateResult) :=
  match decodePublicKey current.publicKey with
  | .error reason => return .error reason
  | .ok publicKey =>
    match signedManifest P publicKey attempt.manifest with
    | .error reason => return .error reason
    | .ok manifest =>
      if newerVersion manifest.payload.version current.version = false then
        return .ok { version := manifest.payload.version }
      else
        match manifest.payload.artifacts.find? fun artifact =>
          artifact.os = P.os && artifact.arch = P.arch with
        | none =>
          return .error (ascii "release " ++ manifest.payload.version ++
            ascii " has no artifact for " ++ P.os ++ ascii "/" ++ P.arch)
        | some artifact => applyArtifact P attempt manifest.payload.version artifact

/-- The files after a try of an agent that runs. -/
def AgentFiles.attempt (P : Services) (files : AgentFiles) (running : Bytes)
    (attempt : UpdateAttempt) : AgentFiles :=
  let script := checkAndApply P (P.build running) attempt
  match attempt.killed with
  | none => (script.run answerFileOperation { files, fates := attempt.fates }).2.files
  | some n => (script.cutOff answerFileOperation n { files, fates := attempt.fates }).files

/-- What a try reports that is not killed. -/
def AgentFiles.reported (P : Services) (files : AgentFiles) (running : Bytes)
    (attempt : UpdateAttempt) : Option (Except Bytes UpdateResult) :=
  match attempt.killed with
  | none => some ((checkAndApply P (P.build running) attempt).run answerFileOperation
      { files, fates := attempt.fates }).1
  | some _ => none

/-! ## What is offered -/

/-- A manifest names a file for the platform. -/
structure Artifact.Names (P : Services) (artifact : Artifact) (contents : Bytes) : Prop where
  platform : artifact.os = P.os ∧ artifact.arch = P.arch
  size : contents.length = artifact.size
  sum : equalFold (hexEncode (P.sum256 contents).toList) artifact.sha256 = true

/-- A file is offered to an agent: a manifest that is signed with the key in the agent names it, and
has a newer version. -/
def Offers (P : Services) (current offered : Bytes) : Prop :=
  ∃ key manifest artifact, decodePublicKey (P.build current).publicKey = .ok key ∧
    verifyManifest P manifest key = .ok () ∧ artifact ∈ manifest.payload.artifacts ∧
      newerVersion manifest.payload.version (P.build current).version = true ∧
        artifact.Names P offered

/-- The releases are built with their key, and with the versions that their manifests have. -/
def Services.Honest (P : Services) (publicKey : Bytes) : Prop :=
  ∀ key manifest artifact contents, decodePublicKey publicKey = .ok key →
    verifyManifest P manifest key = .ok () → artifact ∈ manifest.payload.artifacts →
      artifact.Names P contents → P.build contents = ⟨publicKey, manifest.payload.version⟩

/-- A manifest that is taken is signed. -/
lemma verifyManifest_of_signedManifest {P : Services} {publicKey : Bytes}
    {answer : Except Bytes ServerAnswer} {manifest : Manifest}
    (h : signedManifest P publicKey answer = .ok manifest) :
    verifyManifest P manifest publicKey = .ok () := by
  unfold signedManifest at h
  split at h
  · cases h
  · split at h
    · cases h
    · dsimp only at h
      split at h
      · cases h
      · split at h
        · cases h
        · split at h
          · cases h
          next hverified =>
            cases h
            exact hverified

/-! ## One operation -/

/-- What can become of files by an operation. -/
def AgentFiles.Becomes (files : AgentFiles) (op : FileOperation) (answer : Except Bytes Unit)
    (later : AgentFiles) : Prop :=
  files.after op = some later ∨
    (∃ left, later = files.afterFailure left op) ∧ ∃ reason, answer = .error reason

section Operations

variable {files later : AgentFiles} {answer : Except Bytes Unit}

lemma AgentFiles.becomes_under (files : AgentFiles) (op : FileOperation) (fate : FileFate) :
    files.Becomes op (files.under op fate).1 (files.under op fate).2 := by
  have hsame : files = files.afterFailure files.temporary op := by cases op <;> rfl
  cases fate with
  | works =>
    unfold AgentFiles.under
    cases hafter : files.after op with
    | none => exact Or.inr ⟨⟨_, hsame⟩, _, rfl⟩
    | some later => exact Or.inl hafter
  | fails reason left => exact Or.inr ⟨⟨left, rfl⟩, reason, rfl⟩
  | worksUnheard reason =>
    unfold AgentFiles.under
    cases hafter : files.after op with
    | none => exact Or.inr ⟨⟨_, hsame⟩, _, rfl⟩
    | some later => exact Or.inl hafter

lemma AgentFiles.Becomes.opened (h : files.Becomes .openTemporary answer later) :
    later.executable = files.executable := by
  rcases h with h | ⟨⟨left, rfl⟩, -⟩
  · obtain rfl := Option.some.inj h
    rfl
  · rfl

/-- When the file is written, everything is. -/
lemma AgentFiles.Becomes.written {contents : Bytes}
    (h : files.Becomes (.writeTemporary contents) answer later) :
    later.executable = files.executable ∧ (answer = .ok () → later.temporary = some contents) := by
  rcases h with h | ⟨⟨left, rfl⟩, reason, rfl⟩
  · obtain rfl := Option.some.inj h
    exact ⟨rfl, fun _ => rfl⟩
  · exact ⟨rfl, nofun⟩

lemma AgentFiles.Becomes.discarded (h : files.Becomes .removeTemporary answer later) :
    later.executable = files.executable ∧ later.backup = files.backup := by
  rcases h with h | ⟨⟨left, rfl⟩, -⟩
  · obtain ⟨loaded, -, rfl⟩ := Option.map_eq_some_iff.mp h
    exact ⟨rfl, rfl⟩
  · exact ⟨rfl, rfl⟩

lemma AgentFiles.Becomes.chmod (h : files.Becomes .chmodTemporary answer later) :
    later = files := by
  rcases h with h | ⟨⟨left, rfl⟩, -⟩
  · obtain ⟨loaded, -, rfl⟩ := Option.map_eq_some_iff.mp h
    rfl
  · rfl

lemma AgentFiles.Becomes.cleared (h : files.Becomes .removeBackup answer later) :
    later.executable = files.executable ∧ later.temporary = files.temporary := by
  rcases h with h | ⟨⟨left, rfl⟩, -⟩
  · obtain ⟨old, -, rfl⟩ := Option.map_eq_some_iff.mp h
    exact ⟨rfl, rfl⟩
  · exact ⟨rfl, rfl⟩

/-- The file of the agent becomes the rollback, or nothing happens. -/
lemma AgentFiles.Becomes.retired (h : files.Becomes .retire answer later) :
    (later.executable = none ∧ later.backup = files.executable ∧
      later.temporary = files.temporary) ∨ later = files ∧ ∃ reason, answer = .error reason := by
  rcases h with h | ⟨⟨left, rfl⟩, hanswer⟩
  · obtain ⟨own, hown, rfl⟩ := Option.map_eq_some_iff.mp h
    exact Or.inl ⟨rfl, hown.symm, rfl⟩
  · exact Or.inr ⟨rfl, hanswer⟩

/-- The file that was loaded takes the name of the agent, or nothing happens. -/
lemma AgentFiles.Becomes.installed (h : files.Becomes .install answer later) :
    (later.executable = files.temporary ∧ later.backup = files.backup) ∨
      later = files ∧ ∃ reason, answer = .error reason := by
  rcases h with h | ⟨⟨left, rfl⟩, hanswer⟩
  · obtain ⟨loaded, hloaded, rfl⟩ := Option.map_eq_some_iff.mp h
    exact Or.inl ⟨hloaded.symm, rfl⟩
  · exact Or.inr ⟨rfl, hanswer⟩

/-- The rollback takes the name of the agent, or nothing happens. -/
lemma AgentFiles.Becomes.restored (h : files.Becomes .restore answer later) :
    later.executable = files.backup ∨ later = files := by
  rcases h with h | ⟨⟨left, rfl⟩, -⟩
  · obtain ⟨own, hown, rfl⟩ := Option.map_eq_some_iff.mp h
    exact Or.inl hown.symm
  · exact Or.inr rfl

end Operations

/-! ## One attempt -/

/-- The file of an agent is in its place, or one that was offered to it, or it is the rollback. -/
def AgentFiles.Kept (P : Services) (running : Bytes) (own : Option Bytes) (later : AgentFiles) :
    Prop :=
  later.executable = own ∨ (∃ offered, Offers P running offered ∧ later.executable = some offered) ∨
    later.executable = none ∧ later.backup = own

/-- The file that was offered is in its place, and the old one is the rollback. -/
def AgentFiles.Updated (P : Services) (running : Bytes) (own : Option Bytes) (later : AgentFiles) :
    Prop :=
  ∃ offered, Offers P running offered ∧ later.executable = some offered ∧ later.backup = own

section Attempt

variable {P : Services} {running : Bytes} {own : Option Bytes} {m : FileMachine}

/-- What a part of an update is to keep, and what it may report. -/
abbrev Updates (P : Services) (running : Bytes) (own : Option Bytes)
    (p : UpdateScript (Except Bytes UpdateResult)) (m : FileMachine) : Prop :=
  Safely answerFileOperation (fun later => later.files.Kept P running own)
    (fun result later => later.files.Kept P running own ∧ ∀ report, result = .ok report →
      report.updated = true → later.files.Updated P running own) p m

lemma updates_error (h : m.files.Kept P running own) (reason : Bytes) :
    Updates P running own (return .error reason) m := .pure h ⟨h, nofun⟩

/-- One operation, and what comes after it. -/
lemma updates_operation {op : FileOperation}
    {f : Except Bytes Unit → UpdateScript (Except Bytes UpdateResult)}
    (hkept : m.files.Kept P running own)
    (h : ∀ answer later fates, m.files.Becomes op answer later →
      Updates P running own (f answer) { files := later, fates }) :
    Updates P running own (fileOperation op >>= f) m :=
  Safely.perform hkept (h _ _ _ (m.files.becomes_under op _))

lemma updates_discard (h : m.files.Kept P running own) (reason : Bytes) :
    Updates P running own (discard reason) m := by
  refine updates_operation h fun answer later fates hlater => ?_
  obtain ⟨hexecutable, hbackup⟩ := hlater.discarded
  refine updates_error ?_ reason
  rwa [AgentFiles.Kept, hexecutable, hbackup]

/-- A file that was loaded and is offered is installed. -/
lemma updates_installLoaded {offered : Bytes} (hoffers : Offers P running offered)
    (hown : m.files.executable = own) (hloaded : m.files.temporary = some offered)
    (executable version : Bytes) :
    Updates P running own (installLoaded executable version) m := by
  refine updates_operation (Or.inl hown) fun answer later fates hlater => ?_
  obtain rfl := hlater.chmod
  split
  · exact updates_discard (m := { files := m.files, fates }) (Or.inl hown) _
  · refine updates_operation (Or.inl hown) fun _ cleared fates' hcleared => ?_
    obtain ⟨hexecutable, htemporary⟩ := hcleared.cleared
    have hkept : cleared.Kept P running own := Or.inl (hexecutable.trans hown)
    refine updates_operation hkept fun answer retired fates'' hretired => ?_
    rcases hretired.retired with ⟨hnone, hbackup, hloaded'⟩ | ⟨rfl, reason, rfl⟩
    · rw [hexecutable, hown] at hbackup
      rw [htemporary, hloaded] at hloaded'
      have hkept' : retired.Kept P running own := Or.inr (Or.inr ⟨hnone, hbackup⟩)
      split
      · exact updates_discard hkept' _
      · refine updates_operation hkept' fun answer installed fates''' hinstalled => ?_
        have hupdated : installed.Updated P running own ∨
            installed = retired ∧ ∃ reason, answer = .error reason := by
          refine hinstalled.installed.imp_left fun ⟨hnew, hold⟩ => ?_
          exact ⟨offered, hoffers, hnew.trans hloaded', hold.trans hbackup⟩
        have hkept'' : installed.Kept P running own ∧ installed.backup = own := by
          rcases hupdated with ⟨new, hnew, hplace, hold⟩ | ⟨rfl, -⟩
          · exact ⟨Or.inr (Or.inl ⟨new, hnew, hplace⟩), hold⟩
          · exact ⟨hkept', hbackup⟩
        split
        · -- The agent takes its place back, whether the new file was there or not.
          refine updates_operation hkept''.1 fun _ restored fates'''' hrestored => ?_
          refine updates_error ?_ _
          rcases hrestored.restored with h | rfl
          · exact Or.inl (h.trans hkept''.2)
          · exact hkept''.1
        · refine Safely.pure hkept''.1 ⟨hkept''.1, fun _ _ _ => hupdated.resolve_right ?_⟩
          rintro ⟨-, reason, hreason⟩
          cases hreason
    · exact updates_discard hkept _

/-- A file is loaded, and installed when the manifest names it. -/
lemma updates_loadArtifact {key : Bytes} {manifest : Manifest} {artifact : Artifact}
    (hkey : decodePublicKey (P.build running).publicKey = .ok key)
    (hsigned : verifyManifest P manifest key = .ok ())
    (hnewer : newerVersion manifest.payload.version (P.build running).version = true)
    (hartifact : artifact ∈ manifest.payload.artifacts)
    (hplatform : artifact.os = P.os ∧ artifact.arch = P.arch) (hsize : 0 < artifact.size)
    (hown : m.files.executable = own) (executable version : Bytes) (response : ServerAnswer) :
    Updates P running own (loadArtifact P executable version artifact response) m := by
  refine updates_operation (Or.inl hown) fun answer later fates hlater => ?_
  obtain ⟨hexecutable, hwritten⟩ := hlater.written
  have hown' : later.executable = own := hexecutable.trans hown
  have hkept : later.Kept P running own := Or.inl hown'
  split
  · exact updates_discard hkept _
  · split
    · exact updates_discard hkept _
    · split
      · exact updates_discard hkept _
      next hcomplete =>
        split
        · exact updates_discard hkept _
        next hsum =>
          rw [not_or, not_not] at hcomplete
          refine updates_installLoaded ⟨key, manifest, artifact, hkey, hsigned, hartifact, hnewer,
            hplatform, ?_, by simpa using hsum⟩ hown' (hwritten rfl) _ _
          omega

/-- A try keeps the agent. -/
lemma updates_checkAndApply (hown : m.files.executable = own) (attempt : UpdateAttempt) :
    Updates P running own (checkAndApply P (P.build running) attempt) m := by
  have hkept : m.files.Kept P running own := Or.inl hown
  unfold checkAndApply
  split
  · exact updates_error hkept _
  next key hkey =>
    split
    · exact updates_error hkept _
    next manifest hmanifest =>
      split
      · refine Safely.pure hkept ⟨hkept, fun report hreport hupdated => ?_⟩
        cases hreport
        cases hupdated
      next hnewer =>
        split
        · exact updates_error hkept _
        next artifact hfound =>
          have hplatform := List.find?_some hfound
          rw [Bool.and_eq_true, decide_eq_true_eq, decide_eq_true_eq] at hplatform
          unfold applyArtifact
          split
          · exact updates_error hkept _
          · split
            · exact updates_error hkept _
            next hmetadata =>
              split
              · exact updates_error hkept _
              · refine updates_operation hkept fun answer opened fates hopened => ?_
                have hown' : opened.executable = own := hopened.opened.trans hown
                split
                · exact updates_error (Or.inl hown') _
                · split
                  · exact updates_error (Or.inl hown') _
                  · exact updates_loadArtifact hkey (verifyManifest_of_signedManifest hmanifest)
                      (by simpa using hnewer) (List.mem_of_find?_eq_some hfound) hplatform
                      (by omega) hown' _ _ _

end Attempt

/-- The files after a try. -/
lemma kept_attempt (P : Services) (files : AgentFiles) (running : Bytes)
    (attempt : UpdateAttempt) :
    (files.attempt P running attempt).Kept P running files.executable := by
  have hupdates : Updates P running files.executable (checkAndApply P (P.build running) attempt)
      { files, fates := attempt.fates } :=
    updates_checkAndApply (m := { files, fates := attempt.fates }) rfl attempt
  unfold AgentFiles.attempt
  cases attempt.killed with
  | none => exact (Safely.run hupdates).1
  | some n => exact Safely.cutOff hupdates n

/-- Whatever the network answers, whatever fails, and wherever the agent is killed: its file stays,
or makes way for one that was offered to it, or is the rollback.  When the agent reports an update,
the new file is in its place and the old one is the rollback. -/
theorem agent_not_lost (P : Services) (files : AgentFiles) (running : Bytes)
    (attempt : UpdateAttempt) :
    let later := files.attempt P running attempt
    (later.executable = files.executable ∨
      (∃ offered, Offers P running offered ∧ later.executable = some offered) ∨
        later.executable = none ∧ later.backup = files.executable) ∧
    ∀ report, files.reported P running attempt = some (.ok report) → report.updated = true →
      ∃ offered, Offers P running offered ∧ later.executable = some offered ∧
        later.backup = files.executable := by
  refine ⟨kept_attempt P files running attempt, fun report hreport hupdated => ?_⟩
  have hupdates : Updates P running files.executable (checkAndApply P (P.build running) attempt)
      { files, fates := attempt.fates } :=
    updates_checkAndApply (m := { files, fates := attempt.fates }) rfl attempt
  unfold AgentFiles.reported at hreport
  unfold AgentFiles.attempt
  cases hkilled : attempt.killed with
  | none =>
    rw [hkilled] at hreport
    exact (Safely.run hupdates).2 report (Option.some.inj hreport) hupdated
  | some n =>
    rw [hkilled] at hreport
    cases hreport

/-! ## Many attempts -/

/-- The files of an agent, and the agent that runs, if one does. -/
structure AgentState where
  files : AgentFiles
  running : Option Bytes := none

/-- What happens to an agent: it is started, or it tries to update. -/
inductive AgentEvent where
  | start
  | attempt (attempt : UpdateAttempt)

/-- The state after an event. -/
def AgentState.step (P : Services) (s : AgentState) : AgentEvent → AgentState
  | .start => { s with running := s.files.executable }
  | .attempt attempt =>
    match s.running with
    | none => s
    | some running => { s with files := s.files.attempt P running attempt }

/-- The agent that is started by an event. -/
def AgentState.started (s : AgentState) : AgentEvent → Option Bytes
  | .start => s.files.executable
  | .attempt _ => none

/-- An agent comes from another one by files that were offered. -/
abbrev Descends (P : Services) : Bytes → Bytes → Prop := Relation.ReflTransGen (Offers P)

/-- The agents that were started come from each other, and what is in the place of the agent, and
what runs, comes from all of them. -/
structure Lineage (P : Services) (history : List (Option Bytes)) (s : AgentState) : Prop where
  ordered : history.reduceOption.Pairwise (Descends P)
  executable : ∀ earlier ∈ history.reduceOption, ∀ own ∈ s.files.executable, Descends P earlier own
  running : ∀ earlier ∈ history.reduceOption, ∀ current ∈ s.running, Descends P earlier current

section Lineage

variable {P : Services} {history : List (Option Bytes)} {s : AgentState}

lemma Lineage.start (h : Lineage P history s) :
    Lineage P (history ++ [s.files.executable]) (s.step P .start) := by
  have hstarted : (history ++ [s.files.executable]).reduceOption =
      history.reduceOption ++ s.files.executable.toList := by
    rw [List.reduceOption_append]
    cases s.files.executable <;> rfl
  have hall : ∀ earlier ∈ history.reduceOption ++ s.files.executable.toList,
      ∀ own ∈ s.files.executable, Descends P earlier own := by
    intro earlier hearlier own hown
    rcases List.mem_append.mp hearlier with hearlier | hearlier
    · exact h.executable earlier hearlier own hown
    · obtain rfl := Option.mem_unique (Option.mem_toList.mp hearlier) hown
      exact .refl
  refine ⟨?_, hstarted ▸ hall, hstarted ▸ hall⟩
  rw [hstarted, List.pairwise_append]
  refine ⟨h.ordered, ?_, fun earlier hearlier own hown =>
    h.executable earlier hearlier own (Option.mem_toList.mp hown)⟩
  cases s.files.executable with
  | none => exact .nil
  | some own => exact List.pairwise_singleton _ _

lemma Lineage.attempt (h : Lineage P history s) (attempt : UpdateAttempt) :
    Lineage P (history ++ [none]) (s.step P (.attempt attempt)) := by
  have hstarted : (history ++ [none]).reduceOption = history.reduceOption := by
    rw [List.reduceOption_append]
    exact List.append_nil _
  cases hrunning : s.running with
  | none =>
    have hstep : s.step P (.attempt attempt) = s := by
      rw [AgentState.step, hrunning]
    rw [hstep]
    exact ⟨hstarted ▸ h.ordered, hstarted ▸ h.executable, hstarted ▸ h.running⟩
  | some running =>
    have hstep : s.step P (.attempt attempt) =
        { s with files := s.files.attempt P running attempt } := by
      rw [AgentState.step, hrunning]
    rw [hstep]
    refine ⟨hstarted ▸ h.ordered, ?_, hstarted ▸ h.running⟩
    rw [hstarted]
    intro earlier hearlier own hown
    rcases kept_attempt P s.files running attempt with hsame | ⟨offered, hoffers, hnew⟩ | ⟨hnone, -⟩
    · exact h.executable earlier hearlier own (hsame.symm.trans hown)
    · obtain rfl := Option.some.inj (hnew.symm.trans hown)
      exact (h.running earlier hearlier running hrunning).tail hoffers
    · cases hnone.symm.trans hown

end Lineage

/-- The key of the releases below. -/
def plainKey : Bytes := encode stdEncoding (List.replicate 32 0)

end Updater

end Hostpin
