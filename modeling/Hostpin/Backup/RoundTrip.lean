import Hostpin.Backup.Container

/-!
# The round trip of the container

What is written is read back: a container of a payload is accepted with any maximum that is not
below the length of the payload and gives the payload, and it is refused with any smaller maximum,
unless the payload is empty (`decryptContainer_encryptContainer`).

The two loops meet in the list of sealed frames: the writer emits the frames of the chunks of the
payload (`encryptChunks_eq`), and the reader takes frames off one by one (`decryptChunks_frames`).
-/

namespace Hostpin

open Clock

namespace Backup

/-- Sealing adds a fixed number of bytes and is undone by opening. -/
structure Primitives.Seals (P : Primitives) : Prop where
  length_sealChunk : ∀ key nonce plaintext additionalData,
    (P.sealChunk key nonce plaintext additionalData).length = plaintext.length + overhead
  openChunk_sealChunk : ∀ key nonce plaintext additionalData,
    P.openChunk key nonce (P.sealChunk key nonce plaintext additionalData) additionalData =
      some plaintext

/-- What the program relies on in the libraries: sealing is undone by opening, and the header of a
container with its byte strings comes back from its text, which is short. -/
structure Primitives.Lawful (P : Primitives) (cpus : ℕ) (salt : Vector UInt8 16)
    (noncePrefix : Vector UInt8 4) : Prop extends P.Seals where
  unmarshal_marshal :
    P.unmarshal (P.marshal (newHeader P cpus salt.toList noncePrefix.toList)) =
      some (newHeader P cpus salt.toList noncePrefix.toList)
  marshal_ne_nil : P.marshal (newHeader P cpus salt.toList noncePrefix.toList) ≠ []
  length_marshal :
    (P.marshal (newHeader P cpus salt.toList noncePrefix.toList)).length ≤ maxHeaderBytes
  decodeString_salt : P.decodeString (P.encodeToString salt.toList) = some salt.toList
  decodeString_noncePrefix :
    P.decodeString (P.encodeToString noncePrefix.toList) = some noncePrefix.toList

/-! ## Frames -/

/-- The frame of a chunk. -/
def sealFrame (P : Primitives) (S : Sealing) (counter : ℕ) (chunk : Bytes) : Frame where
  length := chunk.length
  ciphertext := P.sealChunk S.key (backupNonce S.noncePrefix counter) chunk
    (backupAAD S.headerHash counter chunk.length)

/-- The frames of a list of chunks, numbered from a counter on. -/
def sealFrames (P : Primitives) (S : Sealing) : ℕ → List Bytes → List Frame
  | _, [] => []
  | counter, chunk :: chunks => sealFrame P S counter chunk :: sealFrames P S (counter + 1) chunks

section Writer

variable {P : Primitives} {S : Sealing} {chunkSize : ℕ}

/-- The writer emits the frames of the chunks of its source. -/
lemma encryptChunks_eq (fuel counter : ℕ) (source : Bytes) :
    encryptChunks P S chunkSize fuel counter source =
      (sealFrames P S counter (chunksOf chunkSize fuel source)).flatMap Frame.bytes := by
  induction fuel generalizing counter source with
  | zero => rfl
  | succ fuel ih =>
    cases source with
    | nil => simp [encryptChunks, sealFrames]
    | cons head tail =>
      simp only [encryptChunks, chunksOf, List.isEmpty_cons, Bool.false_eq_true, if_false,
        sealFrames, List.flatMap_cons]
      split_ifs with hshort
      · -- nothing is left after a chunk that could not be filled
        rw [List.drop_eq_nil_of_le hshort.le, chunksOf_nil]
        simp [sealFrames, Frame.bytes, sealFrame]
      · rw [ih]
        rfl

end Writer

section Reader

variable {P : Primitives} {S : Sealing} {chunkSize : ℕ}

/-- A word that fits is read back. -/
lemma readUint32_writeUint32 {value : ℕ} (h : value < 2 ^ 32) (rest : Bytes) :
    readUint32 (writeUint32 value ++ rest) = some (value, rest) := by
  unfold readUint32 writeUint32
  rw [readFull_append (length_bigEndian 4 value)]
  simp only [Option.map_some]
  rw [ofBigEndian_bigEndian_of_lt (by omega)]

/-- There are at least as many bytes as frames. -/
lemma length_le_length_flatMap (frames : List Frame) :
    frames.length ≤ (frames.flatMap Frame.bytes).length := by
  induction frames with
  | nil => simp
  | cons frame frames ih =>
    have hword : (writeUint32 frame.length).length = 4 := length_bigEndian 4 _
    simp only [List.flatMap_cons, List.length_append, List.length_cons, Frame.bytes, hword]
    omega

/-- There is one frame for each chunk. -/
@[simp] lemma length_sealFrames (counter : ℕ) (chunks : List Bytes) :
    (sealFrames P S counter chunks).length = chunks.length := by
  induction chunks generalizing counter with
  | nil => rfl
  | cons chunk chunks ih => simp [sealFrames, ih]

/-- The reader takes one frame off. -/
lemma decryptChunks_cons (hP : P.Seals) {chunk : Bytes} (hpos : 0 < chunk.length)
    (hchunk : chunk.length ≤ chunkSize) (hsize : chunkSize < 2 ^ 32) (maximum : ℤ)
    (fuel counter : ℕ) (total : ℤ) (rest : Bytes) :
    decryptChunks P S chunkSize maximum (fuel + 1) counter total
        ((sealFrame P S counter chunk).bytes ++ rest) =
      if wrap64 (total + chunk.length) > maximum then .error .exceedsSizeLimit
      else (decryptChunks P S chunkSize maximum fuel (counter + 1)
        (wrap64 (total + chunk.length)) rest).map (chunk ++ ·) := by
  have hread := readUint32_writeUint32 (hchunk.trans_lt hsize)
    ((sealFrame P S counter chunk).ciphertext ++ rest)
  have hfull : readFull (chunk.length + overhead)
      ((sealFrame P S counter chunk).ciphertext ++ rest) = some (_, rest) :=
    readFull_append (hP.length_sealChunk _ _ _ _) rest
  have hopened := hP.openChunk_sealChunk S.key (backupNonce S.noncePrefix counter) chunk
    (backupAAD S.headerHash counter chunk.length)
  rw [Frame.bytes, List.append_assoc, decryptChunks]
  simp only [sealFrame] at hread hfull ⊢
  rw [hread]
  simp only [hpos.ne', if_false, hchunk.not_gt, decide_false, Bool.false_or, decide_eq_true_eq]
  split_ifs with hmax
  · rfl
  · rw [hfull]
    simp only [hopened]

/-- The reader gives the chunks back, or refuses them when their total length exceeds the
maximum. -/
lemma decryptChunks_frames (hP : P.Seals) (hsize : chunkSize < 2 ^ 32) (maximum : ℤ)
    {chunks : List Bytes}
    (hchunks : ∀ chunk ∈ chunks, 0 < chunk.length ∧ chunk.length ≤ chunkSize) {fuel : ℕ}
    (hfuel : chunks.length < fuel) (counter : ℕ) {total : ℤ} (htotal : 0 ≤ total)
    (hsum : total + chunks.flatten.length ≤ maxInt64) :
    decryptChunks P S chunkSize maximum fuel counter total
        ((sealFrames P S counter chunks).flatMap Frame.bytes ++ writeUint32 0) =
      if total + chunks.flatten.length ≤ maximum ∨ chunks = [] then .ok chunks.flatten
      else .error .exceedsSizeLimit := by
  induction chunks generalizing fuel counter total with
  | nil =>
    obtain ⟨fuel, rfl⟩ := Nat.exists_eq_add_one_of_ne_zero hfuel.ne_bot
    have hread := readUint32_writeUint32 (Nat.two_pow_pos 32) []
    rw [List.append_nil] at hread
    simp [sealFrames, decryptChunks, hread]
  | cons chunk chunks ih =>
    obtain ⟨fuel, rfl⟩ := Nat.exists_eq_add_one_of_ne_zero (Nat.ne_zero_of_lt hfuel)
    obtain ⟨hpos, hchunk⟩ := hchunks chunk List.mem_cons_self
    have hflatten : ((chunk :: chunks).flatten.length : ℤ) =
        chunk.length + chunks.flatten.length := by simp
    rw [hflatten] at hsum ⊢
    have hwrap : wrap64 (total + chunk.length) = total + chunk.length := by
      refine wrap64_eq_self ?_ ?_
      · unfold minInt64
        omega
      · omega
    rw [sealFrames, List.flatMap_cons, List.append_assoc,
      decryptChunks_cons hP hpos hchunk hsize, hwrap,
      ih (fun c hc => hchunks c (List.mem_cons_of_mem _ hc)) (by simpa using hfuel) (counter + 1)
        (by omega) (by omega)]
    by_cases hmax : total + chunk.length > maximum
    · have hexceeds : ¬(total + ((chunk.length : ℤ) + chunks.flatten.length) ≤ maximum ∨
          chunk :: chunks = []) := by
        simp only [reduceCtorEq, or_false]
        omega
      rw [if_pos hmax, if_neg hexceeds]
    · rw [if_neg hmax]
      have hiff : total + ((chunk.length : ℤ) + chunks.flatten.length) ≤ maximum ∨
          chunk :: chunks = [] ↔
          total + chunk.length + chunks.flatten.length ≤ maximum ∨ chunks = [] := by
        constructor
        · rintro (h | h)
          · exact Or.inl (by omega)
          · cases h
        · rintro (h | rfl)
          · exact Or.inl (by omega)
          · simp only [List.flatten_nil, List.length_nil, Nat.cast_zero]
            exact Or.inl (by omega)
      by_cases hfits : total + chunk.length + chunks.flatten.length ≤ maximum ∨ chunks = []
      · rw [if_pos hfits, if_pos (hiff.mpr hfits)]
        rfl
      · rw [if_neg hfits, if_neg (fun h => hfits (hiff.mp h))]
        rfl

end Reader

/-! ## Containers -/

/-- The chunks that a payload is cut into. -/
def payloadChunks (payload : Bytes) : List Bytes :=
  chunksOf containerChunk (payload.length + 1) payload

/-- The chunks of a payload give the payload back. -/
lemma flatten_payloadChunks (payload : Bytes) : (payloadChunks payload).flatten = payload :=
  flatten_chunksOf (by decide) (Nat.le_succ _)

/-- A chunk of a payload is not empty and not longer than the chunk size. -/
lemma length_of_mem_payloadChunks {payload chunk : Bytes} (h : chunk ∈ payloadChunks payload) :
    0 < chunk.length ∧ chunk.length ≤ containerChunk :=
  length_of_mem_chunksOf (by decide) h

/-- A payload without chunks is empty. -/
lemma payloadChunks_eq_nil_iff {payload : Bytes} : payloadChunks payload = [] ↔ payload = [] := by
  constructor
  · intro h
    rw [← flatten_payloadChunks payload, h]
    rfl
  · rintro rfl
    exact chunksOf_nil

/-- What seals the chunks of a new container. -/
def newSealing (P : Primitives) (cpus : ℕ) (salt : Vector UInt8 16) (noncePrefix : Vector UInt8 4)
    (passphrase : Bytes) : Sealing :=
  sealingOf P passphrase (newHeader P cpus salt.toList noncePrefix.toList)
    (P.marshal (newHeader P cpus salt.toList noncePrefix.toList)) salt.toList noncePrefix.toList

section Container

variable {P : Primitives} {cpus : ℕ} {salt : Vector UInt8 16} {noncePrefix : Vector UInt8 4}
  {payload passphrase : Bytes}

/-- A container is its header and the frames of the chunks of its payload. -/
lemma encryptContainer_eq (hpass : validatePassphrase passphrase = true) :
    encryptContainer P cpus salt noncePrefix payload passphrase =
      .ok (containerMagic ++ (writeUint32
        (P.marshal (newHeader P cpus salt.toList noncePrefix.toList)).length ++
        (P.marshal (newHeader P cpus salt.toList noncePrefix.toList) ++
        ((sealFrames P (newSealing P cpus salt noncePrefix passphrase) 0
          (payloadChunks payload)).flatMap Frame.bytes ++ writeUint32 0)))) := by
  have hsize : (newHeader P cpus salt.toList noncePrefix.toList).chunkSize.toNat =
      containerChunk := rfl
  unfold encryptContainer
  simp only [hpass, Bool.not_true, Bool.false_eq_true, if_false, hsize, encryptChunks_eq,
    List.append_assoc]
  rfl

/-- The header in front of a container is read back. -/
lemma readHeaderBytes_append {headerBytes : Bytes} (hne : headerBytes ≠ [])
    (hlength : headerBytes.length ≤ maxHeaderBytes) (rest : Bytes) :
    readHeaderBytes (containerMagic ++ (writeUint32 headerBytes.length ++ (headerBytes ++ rest))) =
      some (headerBytes, rest) := by
  have hpos : headerBytes.length ≠ 0 := fun h => hne (List.length_eq_zero_iff.mp h)
  have hlt : headerBytes.length < 2 ^ 32 := by
    unfold maxHeaderBytes at hlength
    omega
  unfold readHeaderBytes
  rw [readFull_append rfl]
  simp only [Option.bind_eq_bind, Option.bind_some, guard_true, Option.pure_def]
  rw [readUint32_writeUint32 hlt]
  simp only [Option.bind_some, hpos, hlength.not_gt, or_self, not_false_eq_true, guard_true,
    Option.pure_def]
  rw [readFull_append rfl]

/-- The header of a new container is accepted. -/
lemma decodeHeader_newHeader (hP : P.Lawful cpus salt noncePrefix) (hcpus : 0 < cpus) :
    decodeHeader P (P.marshal (newHeader P cpus salt.toList noncePrefix.toList)) =
      some (newHeader P cpus salt.toList noncePrefix.toList, salt.toList, noncePrefix.toList) := by
  have hparallelism : UInt8.ofNat (min cpus 2) = 1 ∨ UInt8.ofNat (min cpus 2) = 2 := by
    rcases Nat.lt_or_ge cpus 2 with h | h
    · obtain rfl : cpus = 1 := by omega
      exact Or.inl rfl
    · rw [min_eq_right h]
      exact Or.inr rfl
  have hranges : ∀ parallelism : UInt8, parallelism = 1 ∨ parallelism = 2 →
      { newHeader P cpus salt.toList noncePrefix.toList with
        parallelism := parallelism }.accepted = true := by
    rintro parallelism (rfl | rfl) <;> rfl
  have haccepted : (newHeader P cpus salt.toList noncePrefix.toList).accepted = true :=
    hranges _ hparallelism
  unfold decodeHeader
  rw [hP.unmarshal_marshal]
  simp only [Option.bind_eq_bind, Option.bind_some, haccepted, guard_true, Option.pure_def]
  have hsalt := hP.decodeString_salt
  have hpre := hP.decodeString_noncePrefix
  simp only [newHeader] at hsalt hpre ⊢
  rw [hsalt, hpre]
  simp

/-- Reading a new container gives its payload, or fails when that is not empty and longer than the
maximum. -/
lemma decryptContainer_of_encryptContainer (hP : P.Lawful cpus salt noncePrefix) (hcpus : 0 < cpus)
    (hpass : validatePassphrase passphrase = true) (hpayload : (payload.length : ℤ) ≤ maxInt64)
    (maximum : ℤ) {container : Bytes}
    (h : encryptContainer P cpus salt noncePrefix payload passphrase = .ok container) :
    decryptContainer P container passphrase maximum =
      if (payload.length : ℤ) ≤ maximum ∨ payload = [] then .ok payload
      else .error .exceedsSizeLimit := by
  rw [encryptContainer_eq hpass, Except.ok.injEq] at h
  subst h
  set S := newSealing P cpus salt noncePrefix passphrase with hS
  have hchunks : (payloadChunks payload).length <
      ((sealFrames P S 0 (payloadChunks payload)).flatMap Frame.bytes ++
        writeUint32 0).length + 1 := by
    have hle := length_le_length_flatMap (sealFrames P S 0 (payloadChunks payload))
    rw [length_sealFrames] at hle
    rw [List.length_append]
    omega
  have hread := decryptChunks_frames (S := S) hP.toSeals
    (by decide : containerChunk < 2 ^ 32) maximum
    (fun chunk hchunk => length_of_mem_payloadChunks hchunk) hchunks 0 le_rfl
    (by rw [flatten_payloadChunks]; omega)
  unfold decryptContainer
  simp only [hpass, Bool.not_true, Bool.false_eq_true, if_false,
    readHeaderBytes_append hP.marshal_ne_nil hP.length_marshal, decodeHeader_newHeader hP hcpus]
  simp only [flatten_payloadChunks, zero_add, payloadChunks_eq_nil_iff] at hread
  exact hread

end Container

/-- The round trip of the container.  Assume that opening undoes sealing and that the header comes
back from its text.  For every payload and every valid passphrase, reading the container of the
payload gives the payload when the maximum is not below its length, and fails when it is, unless the
payload is empty: the length of an empty payload is never compared with the maximum. -/
theorem decryptContainer_encryptContainer (P : Primitives) (cpus : ℕ) (salt : Vector UInt8 16)
    (noncePrefix : Vector UInt8 4) (hP : P.Lawful cpus salt noncePrefix) (hcpus : 0 < cpus)
    (payload passphrase : Bytes) (hpass : validatePassphrase passphrase = true)
    (hpayload : (payload.length : ℤ) ≤ maxInt64) (maximum : ℤ) :
    ∃ container, encryptContainer P cpus salt noncePrefix payload passphrase = .ok container ∧
      ((payload.length : ℤ) ≤ maximum →
        decryptContainer P container passphrase maximum = .ok payload) ∧
      (maximum < payload.length → payload ≠ [] →
        decryptContainer P container passphrase maximum = .error .exceedsSizeLimit) ∧
      (payload = [] → decryptContainer P container passphrase maximum = .ok payload) := by
  refine ⟨_, encryptContainer_eq hpass, ?_⟩
  rw [decryptContainer_of_encryptContainer hP hcpus hpass hpayload maximum
    (encryptContainer_eq hpass)]
  refine ⟨fun hle => if_pos (Or.inl hle), fun hlt hne => if_neg ?_,
    fun hnil => if_pos (Or.inr hnil)⟩
  rintro (hle | hnil)
  · omega
  · exact hne hnil

/-- The header of a container that is written on two processors, with a salt and a prefix of
zeros. -/
def exampleHeader : ContainerHeader where
  format := "hostpin-encrypted-backup"
  version := 1
  kdf := "argon2id"
  memoryKiB := 65536
  iterations := 3
  parallelism := 2
  salt := "AAAAAAAAAAAAAAAAAAAAAA"
  noncePrefix := "AAAAAA"
  chunkSize := 1048576

/-- The text of the header. -/
def exampleHeaderBytes : Bytes :=
  ascii "\x7b\"format\":\"hostpin-encrypted-backup\",\"version\":1,\"kdf\":\"argon2id\"," ++
    ascii "\"memory_kib\":65536,\"iterations\":3,\"parallelism\":2," ++
    ascii "\"salt\":\"AAAAAAAAAAAAAAAAAAAAAA\",\"nonce_prefix\":\"AAAAAA\"," ++
    ascii "\"chunk_size\":1048576\x7d"

/-- Primitives for the header above.  A sealed chunk ends with a tag, and one chunk, with its key,
nonce and additional data, has a tag of its own. -/
def examplePrimitives (special : Bytes × Bytes × Bytes × Bytes) : Primitives :=
  let tag := fun key nonce plaintext additionalData : Bytes =>
    List.replicate overhead
      (if (key, nonce, plaintext, additionalData) = special then 1 else 0 : UInt8)
  { idKey := fun password salt _ _ _ => password ++ salt
    sealChunk := fun key nonce plaintext additionalData =>
      plaintext ++ tag key nonce plaintext additionalData
    openChunk := fun key nonce ciphertext additionalData =>
      let plaintext := ciphertext.take (ciphertext.length - overhead)
      if ciphertext = plaintext ++ tag key nonce plaintext additionalData then some plaintext
      else none
    sum256 := fun _ => Vector.replicate 32 7
    marshal := fun _ => exampleHeaderBytes
    unmarshal := fun text => if text = exampleHeaderBytes then some exampleHeader else none
    encodeToString := fun bytes =>
      if bytes.length = 16 then "AAAAAAAAAAAAAAAAAAAAAA" else "AAAAAA"
    decodeString := fun text =>
      some (List.replicate (if text = "AAAAAAAAAAAAAAAAAAAAAA" then 16 else 4) 0) }

/-- The header of a container with the example primitives. -/
lemma newHeader_examplePrimitives (special : Bytes × Bytes × Bytes × Bytes) :
    newHeader (examplePrimitives special) 2 (Vector.replicate 16 (0 : UInt8)).toList
      (Vector.replicate 4 (0 : UInt8)).toList = exampleHeader := by
  simp only [newHeader, examplePrimitives, Vector.toList_replicate, List.length_replicate, if_true,
    Nat.reduceEqDiff, if_false]
  rfl

/-- The example primitives behave as the program relies on. -/
lemma lawful_examplePrimitives (special : Bytes × Bytes × Bytes × Bytes) :
    (examplePrimitives special).Lawful 2 (Vector.replicate 16 0) (Vector.replicate 4 0) where
  length_sealChunk := fun key nonce plaintext additionalData => by simp [examplePrimitives]
  openChunk_sealChunk := fun key nonce plaintext additionalData => by simp [examplePrimitives]
  unmarshal_marshal := by
    rw [newHeader_examplePrimitives]
    simp only [examplePrimitives, if_true]
  marshal_ne_nil := by
    have hne : exampleHeaderBytes ≠ [] := by decide +kernel
    simpa only [examplePrimitives] using hne
  length_marshal := by
    have hlength : exampleHeaderBytes.length ≤ maxHeaderBytes := by decide +kernel
    simpa only [examplePrimitives] using hlength
  decodeString_salt := by simp [examplePrimitives]
  decodeString_noncePrefix := by simp [examplePrimitives]

/-- A passphrase. -/
def examplePassphrase : Bytes := ascii "correct horse battery staple"

/-- The container of an empty payload is accepted with a maximum of minus one. -/
theorem decryptContainer_negative_maximum :
    (examplePrimitives ([], [], [], [])).Lawful 2 (Vector.replicate 16 0) (Vector.replicate 4 0) ∧
      ∃ container, encryptContainer (examplePrimitives ([], [], [], [])) 2 (Vector.replicate 16 0)
          (Vector.replicate 4 0) [] examplePassphrase = .ok container ∧
        (-1 : ℤ) < ([] : Bytes).length ∧
        decryptContainer (examplePrimitives ([], [], [], [])) container examplePassphrase (-1) =
          .ok [] :=
  ⟨lawful_examplePrimitives _, _, rfl, by decide, by decide +kernel⟩

/-- A payload of three bytes comes back with a maximum of three and is refused with two. -/
theorem decryptContainer_three_bytes :
    ∃ container, encryptContainer (examplePrimitives ([], [], [], [])) 2 (Vector.replicate 16 0)
        (Vector.replicate 4 0) [1, 2, 3] examplePassphrase = .ok container ∧
      decryptContainer (examplePrimitives ([], [], [], [])) container examplePassphrase 3 =
        .ok [1, 2, 3] ∧
      decryptContainer (examplePrimitives ([], [], [], [])) container examplePassphrase 2 =
        .error .exceedsSizeLimit := by
  obtain ⟨container, hcontainer, hok, -⟩ := decryptContainer_encryptContainer
    (examplePrimitives ([], [], [], [])) 2 (Vector.replicate 16 0) (Vector.replicate 4 0)
    (lawful_examplePrimitives _) (by decide) [1, 2, 3] examplePassphrase (by decide) (by decide) 3
  obtain ⟨container', hcontainer', -, herror, -⟩ := decryptContainer_encryptContainer
    (examplePrimitives ([], [], [], [])) 2 (Vector.replicate 16 0) (Vector.replicate 4 0)
    (lawful_examplePrimitives _) (by decide) [1, 2, 3] examplePassphrase (by decide) (by decide) 2
  obtain rfl : container = container' := Except.ok.inj (hcontainer.symm.trans hcontainer')
  exact ⟨container, hcontainer, hok (by decide), herror (by decide) (by decide)⟩

end Backup

end Hostpin
