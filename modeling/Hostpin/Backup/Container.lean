import Hostpin.Foundation.Bytes
import Hostpin.Foundation.Clock

/-!
# The encrypted container

A backup is written as an encrypted container: a magic text, a header in JSON that is preceded by
its length, the chunks of the payload, each preceded by its length and sealed under the key that is
derived from the passphrase, and a length of zero.  The additional data of a chunk binds it to the
hash of the header, to its number and to its length.

* `encryptContainer` writes a container and `decryptContainer` reads one, up to a greatest size of
  the payload.
* `containerFrames` are the chunks of a container, with their lengths, as they stand in it.

The key derivation, the authenticated encryption, the hash and the codecs of the header are not part
of the program; `Primitives` stands for them.
-/

namespace Hostpin

open Clock

namespace Backup

/-! ## Headers -/

/-- The bytes of an ASCII text. -/
def ascii (text : String) : Bytes := text.toList.map fun c => UInt8.ofNat c.toNat

/-- The text at the start of a container. -/
def containerMagic : Bytes := ascii "HOSTPIN-BACKUP\x00"

/-- The version of the container format. -/
def containerVersion : ℤ := 1

/-- The size of a chunk of the payload. -/
def containerChunk : ℕ := 1048576

/-- The greatest length of a header. -/
def maxHeaderBytes : ℕ := 65536

/-- The number of bytes that sealing adds to a chunk. -/
def overhead : ℕ := 16

/-- The header of a container. -/
structure ContainerHeader where
  format : String
  version : ℤ
  kdf : String
  memoryKiB : UInt32
  iterations : UInt32
  parallelism : UInt8
  salt : String
  noncePrefix : String
  chunkSize : UInt32
deriving DecidableEq

/-- What is taken from libraries: the key derivation, the authenticated encryption with its inverse,
the hash, and the codecs of the header and of the byte strings in it. -/
structure Primitives where
  idKey : (password salt : Bytes) → (time memory : UInt32) → (threads : UInt8) → Bytes
  sealChunk : (key nonce plaintext additionalData : Bytes) → Bytes
  openChunk : (key nonce ciphertext additionalData : Bytes) → Option Bytes
  sum256 : Bytes → Vector UInt8 32
  marshal : ContainerHeader → Bytes
  unmarshal : Bytes → Option ContainerHeader
  encodeToString : Bytes → String
  decodeString : String → Option Bytes

/-- Why a container is refused. -/
inductive ContainerError where
  | passphraseLength
  | invalidBackup
  | exceedsSizeLimit
  | invalidPassphrase
deriving DecidableEq

/-- The text of an error. -/
def ContainerError.message : ContainerError → String
  | .passphraseLength => "backup passphrase must contain 12 to 1024 characters"
  | .invalidBackup => "invalid Hostpin backup"
  | .exceedsSizeLimit =>
    "invalid Hostpin backup: decrypted payload exceeds the size limit"
  | .invalidPassphrase => "backup passphrase is incorrect or the backup is damaged"

/-- Whether a passphrase has an accepted length, in bytes. -/
def validatePassphrase (passphrase : Bytes) : Bool :=
  !(passphrase.length < 12 || 1024 < passphrase.length)

/-- A word of four bytes. -/
def writeUint32 (value : ℕ) : Bytes := bigEndian 4 value

/-- Read a word of four bytes. -/
def readUint32 (source : Bytes) : Option (ℕ × Bytes) :=
  (readFull 4 source).map fun (encoded, rest) => (ofBigEndian encoded, rest)

/-- The nonce of a chunk: the prefix in four bytes, and the number of the chunk. -/
def backupNonce (noncePrefix : Bytes) (counter : ℕ) : Bytes :=
  (noncePrefix ++ List.replicate 4 0).take 4 ++ bigEndian 8 counter

/-- The additional data of a chunk: the hash of the header, the number and the length. -/
def backupAAD (headerHash : Vector UInt8 32) (counter length : ℕ) : Bytes :=
  headerHash.toList ++ bigEndian 8 counter ++ bigEndian 4 length

/-- The key of a container. -/
def backupKey (P : Primitives) (passphrase salt : Bytes) (memory iterations : UInt32)
    (parallelism : UInt8) : Bytes :=
  P.idKey passphrase salt iterations memory parallelism

/-- The header of a new container.  The first number is the number of processors. -/
def newHeader (P : Primitives) (cpus : ℕ) (salt noncePrefix : Bytes) : ContainerHeader where
  format := "hostpin-encrypted-backup"
  version := containerVersion
  kdf := "argon2id"
  memoryKiB := 65536
  iterations := 3
  parallelism := UInt8.ofNat (min cpus 2)
  salt := P.encodeToString salt
  noncePrefix := P.encodeToString noncePrefix
  chunkSize := UInt32.ofNat containerChunk

/-! ## Writing -/

/-- What seals the chunks of one container. -/
structure Sealing where
  key : Bytes
  noncePrefix : Bytes
  headerHash : Vector UInt8 32

/-- What seals the chunks under a header. -/
def sealingOf (P : Primitives) (passphrase : Bytes) (header : ContainerHeader)
    (headerBytes salt noncePrefix : Bytes) : Sealing where
  key := backupKey P passphrase salt header.memoryKiB header.iterations header.parallelism
  noncePrefix := noncePrefix
  headerHash := P.sum256 headerBytes

/-- The chunks of a payload, sealed and preceded by their lengths.  The first number bounds the
rounds of the loop, and `counter` is the number of the next chunk. -/
def encryptChunks (P : Primitives) (S : Sealing) (chunkSize : ℕ) : ℕ → ℕ → Bytes → Bytes
  | 0, _, _ => []
  | fuel + 1, counter, source =>
    -- the source is at its end
    if source.isEmpty then []
    else
      let buffer := source.take chunkSize
      let ciphertext := P.sealChunk S.key (backupNonce S.noncePrefix counter) buffer
        (backupAAD S.headerHash counter buffer.length)
      let written := writeUint32 buffer.length ++ ciphertext
      -- a chunk that could not be filled is the last one
      if source.length < chunkSize then written
      else written ++ encryptChunks P S chunkSize fuel (counter + 1) (source.drop chunkSize)

/-- Write a container.  The salt and the prefix of the nonces are random. -/
def encryptContainer (P : Primitives) (cpus : ℕ) (salt : Vector UInt8 16)
    (noncePrefix : Vector UInt8 4) (source passphrase : Bytes) : Except ContainerError Bytes :=
  if !validatePassphrase passphrase then .error .passphraseLength
  else
    let header := newHeader P cpus salt.toList noncePrefix.toList
    let headerBytes := P.marshal header
    let S := sealingOf P passphrase header headerBytes salt.toList noncePrefix.toList
    .ok (containerMagic ++ writeUint32 headerBytes.length ++ headerBytes ++
      encryptChunks P S header.chunkSize.toNat (source.length + 1) 0 source ++ writeUint32 0)

/-! ## Reading -/

/-- Whether the numbers of a header are in their ranges. -/
def ContainerHeader.accepted (header : ContainerHeader) : Bool :=
  !(header.format != "hostpin-encrypted-backup" || header.version != containerVersion ||
    header.kdf != "argon2id" || header.memoryKiB < 8192 || header.memoryKiB > 131072 ||
    header.iterations == 0 || header.iterations > 6 || header.parallelism == 0 ||
    header.parallelism > 4 || header.chunkSize < 65536 || header.chunkSize > 4194304)

/-- The bytes of the header of a container, and the rest of the container. -/
def readHeaderBytes (source : Bytes) : Option (Bytes × Bytes) := do
  let (magic, source) ← readFull containerMagic.length source
  guard (magic = containerMagic)
  let (headerLength, source) ← readUint32 source
  guard ¬(headerLength = 0 ∨ headerLength > maxHeaderBytes)
  readFull headerLength source

/-- The header of a container with its salt and its prefix of the nonces. -/
def decodeHeader (P : Primitives) (headerBytes : Bytes) :
    Option (ContainerHeader × Bytes × Bytes) := do
  let header ← P.unmarshal headerBytes
  guard header.accepted
  let salt ← P.decodeString header.salt
  guard (salt.length = 16)
  let noncePrefix ← P.decodeString header.noncePrefix
  guard (noncePrefix.length = 4)
  return (header, salt, noncePrefix)

/-- Read chunks until the length zero.  The first number bounds the rounds of the loop, `total` is
the length of the output so far, and the sums are signed 64-bit numbers. -/
def decryptChunks (P : Primitives) (S : Sealing) (chunkSize : ℕ) (maximum : ℤ) :
    ℕ → ℕ → ℤ → Bytes → Except ContainerError Bytes
  | 0, _, _, _ => .error .invalidBackup
  | fuel + 1, counter, total, source =>
    match readUint32 source with
    | none => .error .invalidBackup
    | some (plainLength, source) =>
      if plainLength = 0 then
        if source.isEmpty then .ok [] else .error .invalidBackup
      else if plainLength > chunkSize || wrap64 (total + plainLength) > maximum then
        .error .exceedsSizeLimit
      else
        match readFull (plainLength + overhead) source with
        | none => .error .invalidBackup
        | some (ciphertext, source) =>
          match P.openChunk S.key (backupNonce S.noncePrefix counter) ciphertext
            (backupAAD S.headerHash counter plainLength) with
          | none => .error .invalidPassphrase
          | some plaintext =>
            (decryptChunks P S chunkSize maximum fuel (counter + 1)
              (wrap64 (total + plaintext.length)) source).map (plaintext ++ ·)

/-- Read a container whose payload is not longer than a maximum. -/
def decryptContainer (P : Primitives) (source passphrase : Bytes) (maximum : ℤ) :
    Except ContainerError Bytes :=
  if !validatePassphrase passphrase then .error .passphraseLength
  else
    match readHeaderBytes source with
    | none => .error .invalidBackup
    | some (headerBytes, chunks) =>
      match decodeHeader P headerBytes with
      | none => .error .invalidBackup
      | some (header, salt, noncePrefix) =>
        let S := sealingOf P passphrase header headerBytes salt noncePrefix
        decryptChunks P S header.chunkSize.toNat maximum (chunks.length + 1) 0 0 chunks

/-! ## Frames -/

/-- A chunk as it stands in a container: its length and its ciphertext. -/
structure Frame where
  length : ℕ
  ciphertext : Bytes
deriving DecidableEq

/-- The bytes of a frame. -/
def Frame.bytes (frame : Frame) : Bytes := writeUint32 frame.length ++ frame.ciphertext

/-- The frames up to the length zero, or up to a frame that is cut off. -/
def readFrames : ℕ → Bytes → List Frame
  | 0, _ => []
  | fuel + 1, source =>
    match readUint32 source with
    | none => []
    | some (length, source) =>
      if length = 0 then []
      else
        match readFull (length + overhead) source with
        | none => []
        | some (ciphertext, source) => ⟨length, ciphertext⟩ :: readFrames fuel source

/-- The frames of a container. -/
def containerFrames (source : Bytes) : List Frame :=
  match readHeaderBytes source with
  | none => []
  | some (_, chunks) => readFrames (chunks.length + 1) chunks

end Backup

end Hostpin
