import Hostpin.Backup.RoundTrip

/-!
# What a container authenticates

Every chunk of a container is sealed together with its number and its length, so chunks cannot be
removed from the middle, reordered or repeated.  The length zero at the end is not sealed, so the
last chunks can be cut off.

Assume that opening succeeds only on what was sealed.  A byte string that is accepted and whose
chunks all come from the container of a payload gives the first chunks of the payload; it gives the
payload exactly when it has as many chunks as the container (`decryptContainer_of_frames`).
-/

namespace Hostpin

namespace Backup

/-! ## Frames that are accepted -/

/-- The frames open to the plaintexts, with the numbers from a counter on. -/
def OpensAs (P : Primitives) (S : Sealing) : ℕ → List Frame → List Bytes → Prop
  | _, [], [] => True
  | counter, frame :: frames, plaintext :: plaintexts =>
    P.openChunk S.key (backupNonce S.noncePrefix counter) frame.ciphertext
        (backupAAD S.headerHash counter frame.length) = some plaintext ∧
      OpensAs P S (counter + 1) frames plaintexts
  | _, _, _ => False

section Reader

variable {P : Primitives} {S : Sealing} {chunkSize : ℕ} {maximum : ℤ}

/-- What the reader accepts are frames that open to its output. -/
lemma opensAs_of_decryptChunks {fuel counter : ℕ} {total : ℤ} {source out : Bytes}
    (h : decryptChunks P S chunkSize maximum fuel counter total source = .ok out) :
    ∃ plaintexts, out = plaintexts.flatten ∧
      OpensAs P S counter (readFrames fuel source) plaintexts := by
  induction fuel generalizing counter total source out with
  | zero => cases h
  | succ fuel ih =>
    unfold decryptChunks at h
    unfold readFrames
    cases hword : readUint32 source with
    | none =>
      simp only [hword] at h
      cases h
    | some word =>
      obtain ⟨length, source⟩ := word
      simp only [hword] at h ⊢
      by_cases hzero : length = 0
      · -- the end of the container
        simp only [hzero, if_true] at h ⊢
        split_ifs at h
        exact ⟨[], (Except.ok.inj h).symm, trivial⟩
      · simp only [hzero, if_false] at h ⊢
        split_ifs at h
        cases hfull : readFull (length + overhead) source with
        | none =>
          simp only [hfull] at h
          cases h
        | some ciphertext =>
          obtain ⟨ciphertext, source⟩ := ciphertext
          simp only [hfull] at h ⊢
          split at h
          · cases h
          · rename_i plaintext hopen
            cases hrest : decryptChunks P S chunkSize maximum fuel (counter + 1)
              (Clock.wrap64 (total + plaintext.length)) source with
            | error e =>
              rw [hrest] at h
              cases h
            | ok rest =>
              rw [hrest] at h
              obtain ⟨plaintexts, rfl, hopens⟩ := ih hrest
              exact ⟨plaintext :: plaintexts, (Except.ok.inj h).symm, hopen, hopens⟩

/-- Each round of the loop reads one frame at most. -/
lemma length_readFrames_le (fuel : ℕ) (source : Bytes) :
    (readFrames fuel source).length ≤ fuel := by
  induction fuel generalizing source with
  | zero => simp [readFrames]
  | succ fuel ih =>
    unfold readFrames
    split
    · simp
    · split_ifs
      · simp
      · split
        · simp
        · simpa using ih _

/-- The frames of a container are read back. -/
lemma readFrames_sealFrames (hP : P.Seals) {chunks : List Bytes}
    (hchunks : ∀ chunk ∈ chunks, 0 < chunk.length ∧ chunk.length ≤ containerChunk) {fuel : ℕ}
    (hfuel : chunks.length < fuel) (counter : ℕ) :
    readFrames fuel ((sealFrames P S counter chunks).flatMap Frame.bytes ++ writeUint32 0) =
      sealFrames P S counter chunks := by
  induction chunks generalizing fuel counter with
  | nil =>
    obtain ⟨fuel, rfl⟩ := Nat.exists_eq_add_one_of_ne_zero hfuel.ne_bot
    have hread := readUint32_writeUint32 (Nat.two_pow_pos 32) []
    rw [List.append_nil] at hread
    simp [sealFrames, readFrames, hread]
  | cons chunk chunks ih =>
    obtain ⟨fuel, rfl⟩ := Nat.exists_eq_add_one_of_ne_zero (Nat.ne_zero_of_lt hfuel)
    obtain ⟨hpos, hchunk⟩ := hchunks chunk List.mem_cons_self
    have hlt : chunk.length < 2 ^ 32 := by
      unfold containerChunk at hchunk
      omega
    rw [sealFrames, List.flatMap_cons, List.append_assoc, Frame.bytes, List.append_assoc,
      readFrames]
    have hread : ∀ rest, readUint32 (writeUint32 (sealFrame P S counter chunk).length ++ rest) =
        some (chunk.length, rest) := fun rest => readUint32_writeUint32 hlt rest
    have hfull : ∀ rest, readFull (chunk.length + overhead)
        ((sealFrame P S counter chunk).ciphertext ++ rest) =
          some ((sealFrame P S counter chunk).ciphertext, rest) :=
      fun rest => readFull_append (hP.length_sealChunk _ _ _ _) rest
    simp only [hread, hpos.ne', if_false, hfull]
    rw [ih (fun c hc => hchunks c (List.mem_cons_of_mem _ hc)) (by simpa using hfuel)]
    rfl

end Reader

/-! ## Opening only what was sealed -/

/-- A ciphertext with its key, nonce and additional data was produced for one of the chunks. -/
def SealedBy (P : Primitives) (S : Sealing) (chunks : List Bytes)
    (key nonce ciphertext additionalData : Bytes) : Prop :=
  ∃ i chunk, chunks[i]? = some chunk ∧ key = S.key ∧ nonce = backupNonce S.noncePrefix i ∧
    additionalData = backupAAD S.headerHash i chunk.length ∧
    ciphertext = P.sealChunk key nonce chunk additionalData

/-- Opening a ciphertext of the frames of a container succeeds only with the key, the nonce and the
additional data that it was sealed with. -/
def Primitives.IdealFor (P : Primitives) (S : Sealing) (chunks : List Bytes) : Prop :=
  ∀ frame ∈ sealFrames P S 0 chunks, ∀ key nonce additionalData plaintext,
    P.openChunk key nonce frame.ciphertext additionalData = some plaintext →
      SealedBy P S chunks key nonce frame.ciphertext additionalData

section Ideal

variable {P : Primitives} {S S' : Sealing} {chunks : List Bytes}

/-- The nonce of a chunk determines its number. -/
lemma counter_eq_of_backupNonce {p q : Bytes} {i j : ℕ} (hi : i < 2 ^ 64) (hj : j < 2 ^ 64)
    (h : backupNonce p i = backupNonce q j) : i = j := by
  have hlength : ∀ p : Bytes, ((p ++ List.replicate 4 0).take 4).length = 4 := by
    intro p
    simp
  have htail := (List.append_inj h ((hlength p).trans (hlength q).symm)).2
  exact bigEndian_injective (by omega) (by omega) htail

/-- Frames that open one after the other open to the chunks with their numbers. -/
lemma exists_append_of_opensAs (hP : P.Seals) (hideal : P.IdealFor S chunks)
    (hchunks : chunks.length ≤ 2 ^ 64) {frames : List Frame} {plaintexts : List Bytes}
    (hfrom : ∀ frame ∈ frames, frame ∈ sealFrames P S 0 chunks) {counter : ℕ}
    (hcounter : counter + frames.length ≤ 2 ^ 64) (h : OpensAs P S' counter frames plaintexts) :
    ∃ rest, chunks.drop counter = plaintexts ++ rest ∧ plaintexts.length = frames.length := by
  induction frames generalizing counter plaintexts with
  | nil =>
    cases plaintexts with
    | nil => exact ⟨_, rfl, rfl⟩
    | cons plaintext plaintexts => exact h.elim
  | cons frame frames ih =>
    cases plaintexts with
    | nil => exact h.elim
    | cons plaintext plaintexts =>
      obtain ⟨hopen, hrest⟩ := h
      obtain ⟨i, chunk, hchunk, -, hnonce, -, hciphertext⟩ :=
        hideal frame (hfrom frame List.mem_cons_self) _ _ _ _ hopen
      have hi : i < chunks.length := (List.getElem?_eq_some_iff.mp hchunk).1
      rw [List.length_cons] at hcounter
      obtain rfl : counter = i :=
        counter_eq_of_backupNonce (by omega) (hi.trans_le hchunks) hnonce
      -- opening undoes sealing, so the plaintext is the chunk
      rw [hciphertext, hP.openChunk_sealChunk, Option.some.injEq] at hopen
      subst hopen
      obtain ⟨rest, hsplit, hlength⟩ := ih (fun f hf => hfrom f (List.mem_cons_of_mem _ hf))
        (by omega) hrest
      refine ⟨rest, ?_, by simp [hlength]⟩
      rw [List.drop_eq_getElem?_toList_append, hchunk, hsplit]
      rfl

end Ideal

/-- A container has the frames of the chunks of its payload. -/
lemma containerFrames_encryptContainer {P : Primitives} {cpus : ℕ} {salt : Vector UInt8 16}
    {noncePrefix : Vector UInt8 4} {payload passphrase container : Bytes}
    (hP : P.Lawful cpus salt noncePrefix)
    (h : encryptContainer P cpus salt noncePrefix payload passphrase = .ok container) :
    containerFrames container =
      sealFrames P (newSealing P cpus salt noncePrefix passphrase) 0 (payloadChunks payload) := by
  have hpass : validatePassphrase passphrase = true := by
    cases hvalid : validatePassphrase passphrase with
    | true => rfl
    | false =>
      simp only [encryptContainer, hvalid, Bool.not_false, if_true] at h
      cases h
  rw [encryptContainer_eq hpass] at h
  rw [← Except.ok.inj h, containerFrames,
    readHeaderBytes_append hP.marshal_ne_nil hP.length_marshal]
  refine readFrames_sealFrames hP.toSeals (fun chunk => length_of_mem_payloadChunks) ?_ 0
  have hle := length_le_length_flatMap
    (sealFrames P (newSealing P cpus salt noncePrefix passphrase) 0 (payloadChunks payload))
  rw [length_sealFrames] at hle
  rw [List.length_append]
  omega

/-- What follows a header is not longer than the byte string. -/
lemma length_of_readHeaderBytes {data headerBytes chunks : Bytes}
    (h : readHeaderBytes data = some (headerBytes, chunks)) : chunks.length ≤ data.length := by
  have hread : ∀ {count : ℕ} {data front rest : Bytes},
      readFull count data = some (front, rest) → rest.length ≤ data.length := by
    intro count data front rest hfull
    obtain ⟨rfl, -⟩ := readFull_eq_some hfull
    simp
  unfold readHeaderBytes at h
  simp only [Option.bind_eq_bind, Option.bind_eq_some_iff] at h
  obtain ⟨⟨magic, source₁⟩, hmagic, -, -, ⟨length, source₂⟩, hlength, -, -, hheader⟩ := h
  obtain ⟨⟨word, source₃⟩, hword, heq⟩ := Option.map_eq_some_iff.mp hlength
  obtain rfl : source₃ = source₂ := (Prod.mk.inj heq).2
  exact (hread hheader).trans ((hread hword).trans (hread hmagic))

/-- There are not more chunks than bytes. -/
lemma length_payloadChunks_le (payload : Bytes) :
    (payloadChunks payload).length ≤ payload.length := by
  have hle : ∀ chunks : List Bytes, (∀ chunk ∈ chunks, 0 < chunk.length) →
      chunks.length ≤ chunks.flatten.length := by
    intro chunks
    induction chunks with
    | nil => simp
    | cons chunk chunks ih =>
      intro hpos
      have hchunk := hpos chunk List.mem_cons_self
      have hrest := ih fun c hc => hpos c (List.mem_cons_of_mem _ hc)
      simp only [List.length_cons, List.flatten_cons, List.length_append]
      omega
  have h := hle (payloadChunks payload) fun chunk hchunk => (length_of_mem_payloadChunks hchunk).1
  rwa [flatten_payloadChunks] at h

/-- What an accepted byte string opens to. -/
lemma opensAs_of_decryptContainer {P : Primitives} {data passphrase out : Bytes} {maximum : ℤ}
    (h : decryptContainer P data passphrase maximum = .ok out) :
    ∃ S plaintexts, out = plaintexts.flatten ∧
      OpensAs P S 0 (containerFrames data) plaintexts ∧
      (containerFrames data).length ≤ data.length + 1 := by
  unfold decryptContainer at h
  split_ifs at h
  cases hheader : readHeaderBytes data with
  | none =>
    simp only [hheader] at h
    cases h
  | some parts =>
    obtain ⟨headerBytes, chunks⟩ := parts
    have hframes : containerFrames data = readFrames (chunks.length + 1) chunks := by
      simp only [containerFrames, hheader]
    simp only [hheader] at h
    split at h
    · cases h
    · obtain ⟨plaintexts, hout, hopens⟩ := opensAs_of_decryptChunks h
      refine ⟨_, plaintexts, hout, by rwa [hframes], ?_⟩
      rw [hframes]
      exact (length_readFrames_le _ _).trans (Nat.succ_le_succ (length_of_readHeaderBytes hheader))

/-- The integrity of the container.  Assume that opening undoes sealing, and that a ciphertext of
the container of a payload opens only with the key, the nonce and the additional data that it was
sealed with.  Every byte string that is accepted under the passphrase and whose chunks all come from
the container gives a beginning of the payload; it gives the payload exactly when it has as many
chunks as the container. -/
theorem decryptContainer_of_frames (P : Primitives) (cpus : ℕ) (salt : Vector UInt8 16)
    (noncePrefix : Vector UInt8 4) (hP : P.Lawful cpus salt noncePrefix)
    (payload passphrase container : Bytes) (hpayload : payload.length < 2 ^ 63)
    (hcontainer : encryptContainer P cpus salt noncePrefix payload passphrase = .ok container)
    (hideal : P.IdealFor (newSealing P cpus salt noncePrefix passphrase) (payloadChunks payload))
    (data out : Bytes) (maximum : ℤ) (hdata : data.length < 2 ^ 63)
    (hdecrypt : decryptContainer P data passphrase maximum = .ok out)
    (hfrom : ∀ frame ∈ containerFrames data, frame ∈ containerFrames container) :
    out <+: payload ∧
      (out = payload ↔ (containerFrames data).length = (containerFrames container).length) := by
  obtain ⟨S, plaintexts, rfl, hopens, hcount⟩ := opensAs_of_decryptContainer hdecrypt
  rw [containerFrames_encryptContainer hP hcontainer] at hfrom ⊢
  have hchunks := length_payloadChunks_le payload
  obtain ⟨rest, hsplit, hlength⟩ := exists_append_of_opensAs hP.toSeals hideal (by omega) hfrom
    (by omega) hopens
  rw [List.drop_zero] at hsplit
  have hpayload' : payload = plaintexts.flatten ++ rest.flatten := by
    rw [← flatten_payloadChunks payload, hsplit, List.flatten_append]
  refine ⟨⟨rest.flatten, hpayload'.symm⟩, ?_⟩
  rw [length_sealFrames, hsplit, List.length_append, ← hlength]
  constructor
  · intro hout
    -- the chunks that are left out have no bytes, and a chunk is not empty
    have hnil : rest.flatten = [] := by
      rw [hpayload'] at hout
      exact List.self_eq_append_right.mp hout
    cases rest with
    | nil => rfl
    | cons chunk rest =>
      have hchunk : chunk ∈ payloadChunks payload := by simp [hsplit]
      have hpos := (length_of_mem_payloadChunks hchunk).1
      rw [List.flatten_cons, List.append_eq_nil_iff] at hnil
      rw [hnil.1] at hpos
      cases hpos
  · intro hlengths
    have hrest : rest = [] := List.length_eq_zero_iff.mp (by omega)
    rw [hpayload', hrest, List.flatten_nil, List.append_nil]

/-- The key, the nonce, the chunk and the additional data of the container of three bytes. -/
def exampleSealed : Bytes × Bytes × Bytes × Bytes :=
  (examplePassphrase ++ List.replicate 16 0, backupNonce (List.replicate 4 0) 0, [1, 2, 3],
    backupAAD (Vector.replicate 32 7) 0 3)

/-- The ciphertext of the container of three bytes opens only with what it was sealed with. -/
lemma idealFor_exampleSealed :
    (examplePrimitives exampleSealed).IdealFor
      (newSealing (examplePrimitives exampleSealed) 2 (Vector.replicate 16 0)
        (Vector.replicate 4 0) examplePassphrase) (payloadChunks [1, 2, 3]) := by
  intro frame hframe key nonce additionalData plaintext hopen
  have hsealed : sealFrames (examplePrimitives exampleSealed)
      (newSealing (examplePrimitives exampleSealed) 2 (Vector.replicate 16 0)
        (Vector.replicate 4 0) examplePassphrase) 0 (payloadChunks [1, 2, 3]) =
      [⟨3, [1, 2, 3] ++ List.replicate 16 1⟩] := by decide +kernel
  rw [hsealed, List.mem_singleton] at hframe
  subst hframe
  have htag : (key, nonce, [1, 2, 3], additionalData) = exampleSealed := by
    by_contra hne
    simp [examplePrimitives, hne, overhead] at hopen
  simp only [exampleSealed, Prod.mk.injEq] at htag
  obtain ⟨rfl, rfl, -, rfl⟩ := htag
  exact ⟨0, [1, 2, 3], by decide +kernel, by decide +kernel, by decide +kernel, by decide +kernel,
    by decide +kernel⟩

/-- The container of three bytes without its chunk: the header and the length zero. -/
def truncatedContainer : Bytes :=
  containerMagic ++ writeUint32 exampleHeaderBytes.length ++ exampleHeaderBytes ++ writeUint32 0

/-- The container of three bytes is still accepted after its chunk is cut off, and it then gives
nothing. -/
theorem decryptContainer_truncatedContainer :
    ∃ container, encryptContainer (examplePrimitives exampleSealed) 2 (Vector.replicate 16 0)
        (Vector.replicate 4 0) [1, 2, 3] examplePassphrase = .ok container ∧
      (∀ frame ∈ containerFrames truncatedContainer, frame ∈ containerFrames container) ∧
      decryptContainer (examplePrimitives exampleSealed) truncatedContainer examplePassphrase
        8589934592 = .ok [] ∧
      (examplePrimitives exampleSealed).Lawful 2 (Vector.replicate 16 0) (Vector.replicate 4 0) ∧
      (examplePrimitives exampleSealed).IdealFor
        (newSealing (examplePrimitives exampleSealed) 2 (Vector.replicate 16 0)
          (Vector.replicate 4 0) examplePassphrase) (payloadChunks [1, 2, 3]) := by
  refine ⟨_, rfl, ?_, by decide +kernel, lawful_examplePrimitives _, idealFor_exampleSealed⟩
  have hnone : containerFrames truncatedContainer = [] := by decide +kernel
  simp [hnone]

/-- The container of three bytes itself gives the three bytes. -/
theorem decryptContainer_of_frames_three_bytes :
    ∃ container out, encryptContainer (examplePrimitives exampleSealed) 2 (Vector.replicate 16 0)
        (Vector.replicate 4 0) [1, 2, 3] examplePassphrase = .ok container ∧
      decryptContainer (examplePrimitives exampleSealed) container examplePassphrase 8589934592 =
        .ok out ∧ out = [1, 2, 3] := by
  refine ⟨_, [1, 2, 3], rfl, by decide +kernel, ?_⟩
  exact (decryptContainer_of_frames (examplePrimitives exampleSealed) 2 (Vector.replicate 16 0)
    (Vector.replicate 4 0) (lawful_examplePrimitives _) [1, 2, 3] examplePassphrase _ (by decide)
    rfl idealFor_exampleSealed _ [1, 2, 3] 8589934592 (by decide +kernel) (by decide +kernel)
    (fun _ h => h)).2.mpr rfl

end Backup

end Hostpin
