import Hostpin.Backup.RoundTrip
import Hostpin.Backup.Limits
import Hostpin.Foundation.Answers
import Hostpin.Foundation.Base64
import Hostpin.Foundation.Cut

/-!
# Secrets and the master key

A secret is stored as the text of a nonce and a ciphertext under the master key.  The master key is
in a file of the data directory, and the first start of the server makes it: it is written to a
temporary file, which then takes the name of the key.

`KeyStart` is one start with everything that can go wrong in it: every operation can fail, can leave
a part of what it writes, can work although it says that it has failed, and the start can be killed
between two operations.  Over any sequence of starts all keys that are loaded are one key
(`loaded_eq`), so a secret that one start seals is opened by every other one
(`secrets_survive_starts`).
-/

namespace Hostpin

open Backup (Primitives ascii newline trimSpace trimSpace_newline overhead)
open Base64 Procedure Runs

/-! ## Secrets -/

section Secrets

variable (P : Primitives) (key : Bytes)

/-- The length of a nonce. -/
def nonceSize : ℕ := 12

def colon : UInt8 := 58

/-- What every secret is bound to. -/
def secretData : Bytes := ascii "hostpin:v1"

/-- The text of a secret under a random nonce. -/
def sealSecret (nonce : Vector UInt8 nonceSize) (plaintext : Bytes) : Bytes :=
  ascii "v1:" ++ encode rawStdEncoding
    (nonce.toList ++ P.sealChunk key nonce.toList plaintext secretData)

/-- The secret of a text. -/
def openSecret (encoded : Bytes) : Except String Bytes :=
  match Cut.cut colon encoded with
  | none => .error "unsupported encrypted secret version"
  | some (version, raw) =>
    if version ≠ ascii "v1" then .error "unsupported encrypted secret version"
    else
      match decode rawStdEncoding raw with
      | none => .error "invalid encrypted secret"
      | some payload =>
        if payload.length < nonceSize + overhead then .error "invalid encrypted secret"
        else
          match P.openChunk key (payload.take nonceSize) (payload.drop nonceSize) secretData with
          | none => .error "decrypt secret"
          | some plaintext => .ok plaintext

variable {P key}

/-- A secret is read back. -/
lemma openSecret_sealSecret (hP : P.Seals) (nonce : Vector UInt8 nonceSize) (plaintext : Bytes) :
    openSecret P key (sealSecret P key nonce plaintext) = .ok plaintext := by
  have hcut : Cut.cut colon (sealSecret P key nonce plaintext) = some (ascii "v1",
      encode rawStdEncoding (nonce.toList ++ P.sealChunk key nonce.toList plaintext secretData)) :=
    Cut.cut_eq_some.mpr ⟨rfl, by decide⟩
  have hlength := hP.length_sealChunk key nonce.toList plaintext secretData
  have hnonce : nonce.toList.length = nonceSize := Vector.length_toList
  simp only [openSecret, hcut, decode_encode, List.take_left' hnonce, List.drop_left' hnonce,
    hP.openChunk_sealChunk]
  rw [if_neg (by simp), if_neg]
  rw [List.length_append, hnonce, hlength]
  omega

end Secrets

/-! ## The file of the key -/

/-- Why a file cannot be read. -/
inductive ReadError where
  | notExist
  | other

/-- What is in the file of the key and in the temporary one. -/
structure KeyFiles where
  key : Option Bytes := none
  temporary : Option Bytes := none

/-- The operations of a start. -/
inductive KeyOperation where
  | readKey
  | makeDirectory
  | writeTemporary (contents : Bytes)
  | install

/-- What an operation answers with. -/
@[reducible] def KeyOperation.Answer : KeyOperation → Type
  | .readKey => Except ReadError Bytes
  | .makeDirectory | .writeTemporary _ | .install => Bool

/-- What becomes of an operation: it works, it fails and leaves something in the temporary file, or
it works and says that it has failed. -/
inductive KeyFate where
  | works
  | fails (left : Option Bytes)
  | worksUnheard

/-- What an operation that works answers, and what it leaves. -/
def KeyFiles.answer (files : KeyFiles) : (op : KeyOperation) → op.Answer × KeyFiles
  | .readKey =>
    match files.key with
    | none => (.error .notExist, files)
    | some contents => (.ok contents, files)
  | .makeDirectory => (true, files)
  | .writeTemporary contents => (true, { files with temporary := some contents })
  | .install =>
    match files.temporary with
    | none => (false, files)
    | some contents => (true, { key := some contents, temporary := none })

/-- The answer of an operation that fails. -/
def KeyOperation.failed : (op : KeyOperation) → op.Answer
  | .readKey => .error .other
  | .makeDirectory | .writeTemporary _ | .install => false

/-- What an operation that fails leaves. -/
def KeyFiles.afterFailure (files : KeyFiles) (left : Option Bytes) : KeyOperation → KeyFiles
  | .writeTemporary _ => { files with temporary := left }
  | .readKey | .makeDirectory | .install => files

/-- What an operation answers and leaves under a fate. -/
def KeyFiles.under (files : KeyFiles) (op : KeyOperation) : KeyFate → op.Answer × KeyFiles
  | .works => files.answer op
  | .fails left => (op.failed, files.afterFailure left op)
  | .worksUnheard => (op.failed, (files.answer op).2)

/-- The files, with the fates of the operations to come. -/
structure KeyMachine where
  files : KeyFiles
  fates : ℕ → KeyFate := fun _ => .works

/-- What an operation answers and leaves under the next fate. -/
def answerKeyOperation : Handler KeyOperation KeyOperation.Answer KeyMachine := fun op m =>
  ((m.files.under op (m.fates 0)).1,
    { files := (m.files.under op (m.fates 0)).2, fates := fun n => m.fates (n + 1) })

/-- A start of the server in its course. -/
abbrev KeyScript (α : Type) := Procedure KeyOperation KeyOperation.Answer α

/-- Ask for an operation. -/
def keyOperation (op : KeyOperation) : KeyScript op.Answer := perform op

/-- The key of a text. -/
def decodeKey (invalid : String) (text : Bytes) : Except String Bytes :=
  match decode stdEncoding text with
  | none => .error invalid
  | some key => if key.length = 32 then .ok key else .error invalid

/-- The contents of the file of a key. -/
def keyFile (key : Bytes) : Bytes := encode stdEncoding key ++ newline

/-- Make a master key and put it into its file. -/
def createMasterKey (draw : Option (Vector UInt8 32)) : KeyScript (Except String Bytes) := do
  match draw with
  | none => return .error "generate master key"
  | some key =>
    if !(← keyOperation .makeDirectory) then return .error "make directory"
    else if !(← keyOperation (.writeTemporary (keyFile key.toList))) then
      return .error "write master key"
    else if !(← keyOperation .install) then return .error "install master key"
    else return .ok key.toList

/-- The master key: the one that is configured, the one in its file, or a new one. -/
def loadOrCreateMasterKey (configured : Bytes) (draw : Option (Vector UInt8 32)) :
    KeyScript (Except String Bytes) := do
  if configured ≠ [] then
    return decodeKey "configured master key must be base64 encoding of 32 bytes" configured
  else
    match ← keyOperation .readKey with
    | .ok data => return decodeKey "stored master key is invalid" (trimSpace data)
    | .error .other => return .error "read master key"
    | .error .notExist => createMasterKey draw

/-! ## One start -/

/-- A printable text is read back from a line. -/
lemma decodeKey_keyFile (invalid : String) {key : Bytes} (hlength : key.length = 32) :
    decodeKey invalid (trimSpace (keyFile key)) = .ok key := by
  have hprintable : ∀ byte ∈ encode stdEncoding key, 32 < byte ∧ byte < 128 := by
    intro byte hbyte
    have hall : ∀ b ∈ asBytes stdAlphabet, 32 < b ∧ b < 128 := by decide +kernel
    rcases mem_encode_cases _ hbyte with ⟨d, rfl⟩ | hpad
    · exact hall _ (symbol_mem d)
    · cases hpad
      decide
  rw [keyFile, trimSpace_newline hprintable, decodeKey, decode_encode]
  exact if_pos hlength

/-- A key is the one in the file. -/
def KeyFiles.Established (files : KeyFiles) (key : Bytes) : Prop :=
  files.key = some (keyFile key) ∧ key.length = 32

/-- There is no file of a key, or there is a key in it. -/
def KeyFiles.Sound (files : KeyFiles) : Prop :=
  files.key = none ∨ ∃ key, files.Established key

/-- The file of a key keeps its key. -/
def KeyFiles.Keeps (files later : KeyFiles) : Prop :=
  later.Sound ∧ ∀ key, files.Established key → later.Established key

section Start

variable {files later : KeyFiles} {m : KeyMachine}

lemma KeyFiles.Sound.keeps (h : files.Sound) (hkey : later.key = files.key) :
    files.Keeps later := by
  unfold KeyFiles.Keeps KeyFiles.Sound KeyFiles.Established
  rw [hkey]
  exact ⟨h, fun _ hestablished => hestablished⟩

/-- Where there is no key, only soundness is to be kept. -/
lemma KeyFiles.keeps_of_none (hnone : files.key = none) (hlater : later.Sound) :
    files.Keeps later := by
  refine ⟨hlater, fun key hestablished => ?_⟩
  rw [KeyFiles.Established, hnone] at hestablished
  cases hestablished.1

/-- Reading says what is in the file. -/
lemma under_readKey (files : KeyFiles) (fate : KeyFate) :
    (files.under .readKey fate).2 = files ∧
      match (files.under .readKey fate).1 with
      | .ok data => files.key = some data
      | .error .notExist => files.key = none
      | .error .other => True := by
  cases hkey : files.key with
  | none => cases fate <;> simp [KeyFiles.under, KeyFiles.answer, KeyOperation.failed,
      KeyFiles.afterFailure, hkey]
  | some data => cases fate <;> simp [KeyFiles.under, KeyFiles.answer, KeyOperation.failed,
      KeyFiles.afterFailure, hkey]

/-- Making the directory leaves the files. -/
lemma under_makeDirectory (files : KeyFiles) (fate : KeyFate) :
    (files.under .makeDirectory fate).2 = files := by
  cases fate <;> rfl

/-- Writing leaves the file of the key, and when it says so, it has written everything. -/
lemma under_writeTemporary (files : KeyFiles) (contents : Bytes) (fate : KeyFate) :
    (files.under (.writeTemporary contents) fate).2.key = files.key ∧
      ((files.under (.writeTemporary contents) fate).1 = true →
        (files.under (.writeTemporary contents) fate).2.temporary = some contents) := by
  cases fate with
  | works => exact ⟨rfl, fun _ => rfl⟩
  | fails left => exact ⟨rfl, nofun⟩
  | worksUnheard => exact ⟨rfl, nofun⟩

/-- The temporary file takes the name of the key, or nothing happens. -/
lemma under_install {contents : Bytes} (h : files.temporary = some contents) (fate : KeyFate) :
    (files.under .install fate).2.key = some contents ∨
      (files.under .install fate).2.key = files.key ∧ (files.under .install fate).1 = false := by
  cases fate with
  | works => exact Or.inl (by simp [KeyFiles.under, KeyFiles.answer, h])
  | fails left => exact Or.inr ⟨rfl, rfl⟩
  | worksUnheard => exact Or.inl (by simp [KeyFiles.under, KeyFiles.answer, h])

/-- What a start is to keep, and what it may load. -/
abbrev KeepsKey (files : KeyFiles) (p : KeyScript (Except String Bytes)) (m : KeyMachine) : Prop :=
  Safely answerKeyOperation (fun later => files.Keeps later.files)
    (fun result later => files.Keeps later.files ∧
      ∀ key, result = .ok key → later.files.Established key) p m

lemma keepsKey_error (hkeeps : files.Keeps m.files) (e : String) :
    KeepsKey files (return .error e) m := .pure hkeeps ⟨hkeeps, nofun⟩

/-- One operation, and what comes after it. -/
lemma keepsKey_operation {op : KeyOperation} {f : op.Answer → KeyScript (Except String Bytes)}
    (hkeeps : files.Keeps m.files)
    (h : ∀ fates, KeepsKey files (f (m.files.under op (m.fates 0)).1)
      { files := (m.files.under op (m.fates 0)).2, fates }) :
    KeepsKey files (keyOperation op >>= f) m :=
  Safely.perform hkeeps (h _)

/-- A start that finds no key installs its own one, or loads none. -/
lemma keepsKey_create (hnone : m.files.key = none) (hfiles : files.key = none)
    (draw : Option (Vector UInt8 32)) : KeepsKey files (createMasterKey draw) m := by
  have hempty (later : KeyFiles) (hlater : later.key = none) : files.Keeps later :=
    KeyFiles.keeps_of_none hfiles (Or.inl hlater)
  cases draw with
  | none => exact keepsKey_error (hempty _ hnone) _
  | some key =>
    refine keepsKey_operation (hempty _ hnone) fun fates => ?_
    rw [under_makeDirectory]
    split
    · exact keepsKey_error (hempty _ hnone) _
    · refine keepsKey_operation (hempty _ hnone) fun fates' => ?_
      dsimp only
      obtain ⟨hkey, hwritten⟩ := under_writeTemporary m.files (keyFile key.toList) (fates 0)
      rw [hnone] at hkey
      generalize m.files.under (.writeTemporary (keyFile key.toList)) (fates 0) = written
        at hkey hwritten ⊢
      split
      · exact keepsKey_error (hempty _ hkey) _
      next htrue =>
        refine keepsKey_operation (hempty _ hkey) fun fates'' => ?_
        dsimp only
        have hinstall := under_install (hwritten (by simpa using htrue)) (fates' 0)
        generalize written.2.under .install (fates' 0) = installed at hinstall ⊢
        have hestablished (h : installed.2.key = some (keyFile key.toList)) :
            installed.2.Established key.toList := ⟨h, Vector.length_toList⟩
        have hkeeps : files.Keeps installed.2 := by
          rcases hinstall with h | ⟨h, -⟩
          · exact KeyFiles.keeps_of_none hfiles (Or.inr ⟨_, hestablished h⟩)
          · exact hempty _ (h.trans hkey)
        split
        · exact keepsKey_error hkeeps _
        next htrue' =>
          refine Safely.pure hkeeps ⟨hkeeps, fun loaded hloaded => ?_⟩
          cases hloaded
          refine hestablished (hinstall.resolve_right fun h => ?_)
          simp [h.2] at htrue'

/-- A start keeps the key, and loads no other one. -/
lemma keepsKey_loadOrCreateMasterKey (draw : Option (Vector UInt8 32)) (h : m.files.Sound) :
    KeepsKey m.files (loadOrCreateMasterKey [] draw) m := by
  rw [loadOrCreateMasterKey, if_neg (by simp)]
  refine keepsKey_operation (h.keeps rfl) fun fates => ?_
  obtain ⟨hread, hanswer⟩ := under_readKey m.files (m.fates 0)
  rw [hread]
  cases hresult : (m.files.under .readKey (m.fates 0)).1 with
  | ok data =>
    rw [hresult] at hanswer
    obtain ⟨key, hestablished⟩ := h.resolve_left (by rw [hanswer]; exact Option.some_ne_none _)
    have hfile : data = keyFile key := Option.some_injective _ (hanswer.symm.trans hestablished.1)
    refine Safely.pure (h.keeps rfl) ⟨h.keeps rfl, fun loaded hloaded => ?_⟩
    rw [hfile, decodeKey_keyFile _ hestablished.2] at hloaded
    cases hloaded
    exact hestablished
  | error e =>
    rw [hresult] at hanswer
    cases e with
    | other => exact keepsKey_error (h.keeps rfl) _
    | notExist => exact keepsKey_create (m := ⟨m.files, fates⟩) hanswer hanswer draw

end Start

/-! ## Many starts -/

/-- A start without a configured key: what it draws, the fates of its operations, and after how many
of them it is killed, if it is. -/
structure KeyStart where
  draw : Option (Vector UInt8 32)
  fates : ℕ → KeyFate := fun _ => .works
  killed : Option ℕ := none

/-- The files after a start. -/
def KeyFiles.start (files : KeyFiles) (start : KeyStart) : KeyFiles :=
  let m : KeyMachine := { files, fates := start.fates }
  match start.killed with
  | none => ((loadOrCreateMasterKey [] start.draw).run answerKeyOperation m).2.files
  | some n => ((loadOrCreateMasterKey [] start.draw).cutOff answerKeyOperation n m).files

/-- The key that a start loads. -/
def KeyFiles.loaded (files : KeyFiles) (start : KeyStart) : Option Bytes :=
  match start.killed with
  | none => ((loadOrCreateMasterKey [] start.draw).run answerKeyOperation
      { files, fates := start.fates }).1.toOption
  | some _ => none

/-- The file of the key stays sound, and the keys that were loaded are the one in it. -/
def OneKey (history : List (Option Bytes)) (files : KeyFiles) : Prop :=
  files.Sound ∧ ∀ key, some key ∈ history → files.Established key

lemma oneKey_start {history : List (Option Bytes)} {files : KeyFiles} (h : OneKey history files)
    (start : KeyStart) : OneKey (history ++ [files.loaded start]) (files.start start) := by
  have hsafely := keepsKey_loadOrCreateMasterKey (m := { files, fates := start.fates })
    start.draw h.1
  obtain ⟨hkeeps, hloaded⟩ : files.Keeps (files.start start) ∧
      ∀ key, some key = files.loaded start → (files.start start).Established key := by
    unfold KeyFiles.start KeyFiles.loaded
    cases start.killed with
    | none =>
      obtain ⟨hkeeps, hloaded⟩ := Safely.run hsafely
      refine ⟨hkeeps, fun key hkey => hloaded key ?_⟩
      dsimp only at hkey
      generalize ((loadOrCreateMasterKey [] start.draw).run answerKeyOperation
        { files, fates := start.fates }).1 = result at hkey
      cases result with
      | error e => cases hkey
      | ok loaded => cases hkey; rfl
    | some n => exact ⟨Safely.cutOff hsafely n, nofun⟩
  refine ⟨hkeeps.1, fun key hkey => ?_⟩
  rcases List.mem_append.mp hkey with hkey | hkey
  · exact hkeeps.2 key (h.2 key hkey)
  · exact hloaded key (List.mem_singleton.mp hkey)

/-- All keys that are loaded over any sequence of starts are the one in the file. -/
lemma oneKey_starts {files : KeyFiles} (h : files.Sound) (starts : List KeyStart) :
    OneKey (answers KeyFiles.start KeyFiles.loaded files starts)
      (run KeyFiles.start files starts) := by
  have hempty : OneKey [] files := ⟨h, fun _ hkey => by cases hkey⟩
  exact answers_invariant (I := OneKey) (C := fun _ _ => True)
    (fun _ _ start hone _ => oneKey_start hone start) hempty
    (Along.of_forall (P := fun _ => True) (fun _ _ => trivial) files)

/-- A secret that is sealed under the key that one start has loaded is opened under the key that any
other one has loaded. -/
theorem secrets_survive_starts {P : Primitives} (hP : P.Seals) {files : KeyFiles}
    (h : files.Sound) {starts : List KeyStart} {key key' : Bytes}
    (hkey : some key ∈ answers KeyFiles.start KeyFiles.loaded files starts)
    (hkey' : some key' ∈ answers KeyFiles.start KeyFiles.loaded files starts)
    (nonce : Vector UInt8 nonceSize) (plaintext : Bytes) :
    key' = key ∧ openSecret P key' (sealSecret P key nonce plaintext) = .ok plaintext := by
  obtain ⟨-, hestablished⟩ := oneKey_starts h starts
  have hfile := Option.some_injective _
    ((hestablished key' hkey').1.symm.trans (hestablished key hkey).1)
  have heq : key' = key := encode_injective _ (List.append_cancel_right hfile)
  exact ⟨heq, heq ▸ openSecret_sealSecret hP nonce plaintext⟩

/-- A start that is killed before it installs its key, one that makes the key, and one that finds it
although it draws nothing. -/
def threeStarts : List KeyStart :=
  [{ draw := some (Vector.replicate 32 0), killed := some 3 },
    { draw := some (Vector.replicate 32 1) }, { draw := none }]

theorem secrets_survive_starts_threeStarts :
    answers KeyFiles.start KeyFiles.loaded {} threeStarts =
        [none, some (List.replicate 32 1), some (List.replicate 32 1)] ∧
      openSecret (Backup.examplePrimitives default) (List.replicate 32 1)
        (sealSecret (Backup.examplePrimitives default) (List.replicate 32 1) (Vector.replicate 12 7)
          [1, 2, 3]) = .ok [1, 2, 3] := by
  have hanswers : answers KeyFiles.start KeyFiles.loaded {} threeStarts =
      [none, some (List.replicate 32 1), some (List.replicate 32 1)] := by decide +kernel
  refine ⟨hanswers, ?_⟩
  have hmem : some (List.replicate 32 1) ∈ answers KeyFiles.start KeyFiles.loaded {} threeStarts := by
    rw [hanswers]
    decide
  exact (secrets_survive_starts (Backup.lawful_examplePrimitives _).toSeals (Or.inl rfl) hmem hmem
    _ _).2

end Hostpin
