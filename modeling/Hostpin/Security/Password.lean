import Hostpin.Foundation.Base64
import Hostpin.Foundation.Cut
import Hostpin.Foundation.Decimal

/-!
# Passwords and PINs

A password or a PIN is stored as the text of a hash with the parameters and the salt of its
derivation, separated by `$`.  A stored text is read back into a `StoredHash`, which carries the
bounds on its parameters: whatever text is stored, a check derives a key within them
(`verifyHash_derives`).

A text that was made for a value is accepted for exactly the values from which the same key is
derived (`verifyHash_hashPassword`, `verifyHash_hashPIN`).
-/

namespace Hostpin

open Base64 Decimal

/-! ## Data -/

/-- The parameters of a derivation. -/
structure ArgonParams where
  memory : UInt32
  iterations : UInt32
  parallelism : UInt8
  saltLength : ℕ
  keyLength : ℕ

/-- The parameters for passwords on a machine with a number of processors. -/
def defaultArgonParams (cpus : ℕ) : ArgonParams where
  memory := 64 * 1024
  iterations := 3
  parallelism := UInt8.ofNat (min cpus 2)
  saltLength := 16
  keyLength := 32

def pinArgonParams : ArgonParams where
  memory := 32 * 1024
  iterations := 3
  parallelism := 1
  saltLength := 16
  keyLength := 32

/-- A derivation of keys: from a value and a salt, with iterations, memory and threads, a key of a
length. -/
abbrev Derivation :=
  (value salt : Bytes) → (time memory : UInt32) → (threads : UInt8) → (keyLength : ℕ) → Bytes

/-- The bounds on the parameters of a derivation. -/
structure ArgonBounds (memory iterations : UInt32) (parallelism : UInt8) (saltLength : ℕ)
    (keyLength : ℕ) : Prop where
  memory : 8 * 1024 ≤ memory ∧ memory ≤ 512 * 1024
  iterations : iterations ≠ 0 ∧ iterations ≤ 10
  parallelism : parallelism ≠ 0 ∧ parallelism ≤ 16
  salt : 8 ≤ saltLength ∧ saltLength ≤ 64
  key : 16 ≤ keyLength ∧ keyLength ≤ 64

/-- What a stored text says. -/
structure StoredHash where
  memory : UInt32
  iterations : UInt32
  parallelism : UInt8
  salt : Bytes
  wanted : Bytes
  bounds : ArgonBounds memory iterations parallelism salt.length wanted.length

/-! ## Writing -/

/-- The bytes of a text of ASCII characters. -/
def textBytes (text : String) : Bytes := asBytes text.toList

def dollar : UInt8 := 36

def comma : UInt8 := 44

def equals : UInt8 := 61

/-- A parameter as text. -/
def parameter (key : String) (n : ℕ) : Bytes := textBytes key ++ [equals] ++ numeral n

/-- The parameters as text. -/
def ArgonParams.text (params : ArgonParams) : Bytes :=
  [comma].intercalate [parameter "m" params.memory.toNat, parameter "t" params.iterations.toNat,
    parameter "p" params.parallelism.toNat]

/-- The text that is stored for a value, with a random salt. -/
def hashArgon (idKey : Derivation) (params : ArgonParams) (value : Bytes)
    (salt : Option (Vector UInt8 params.saltLength)) : Except String Bytes :=
  if value = [] then .error "value must not be empty"
  else
    match salt with
    | none => .error "generate salt"
    | some salt =>
      let hash := idKey value salt.toList params.iterations params.memory params.parallelism
        params.keyLength
      .ok ([dollar].intercalate [textBytes "argon2id", textBytes "v=19", params.text,
        encode rawStdEncoding salt.toList, encode rawStdEncoding hash])

def hashPassword (idKey : Derivation) (cpus : ℕ) (password : Bytes)
    (salt : Option (Vector UInt8 16)) : Except String Bytes :=
  hashArgon idKey (defaultArgonParams cpus) password salt

def hashPIN (idKey : Derivation) (pin : Bytes) (salt : Option (Vector UInt8 16)) :
    Except String Bytes :=
  hashArgon idKey pinArgonParams pin salt

/-! ## Reading -/

/-- The numbers that the parameters of a text set. -/
structure ArgonNumbers where
  memory : UInt32 := 0
  iterations : UInt32 := 0
  parallelism : UInt8 := 0

/-- Read one parameter.  A later one overrides an earlier one, and others are numbers, too. -/
def ArgonNumbers.read (numbers : ArgonNumbers) (item : Bytes) : Option ArgonNumbers := do
  let (key, raw) ← Cut.cut equals item
  let value ← parseDigits (2 ^ 32 - 1) raw
  if key = textBytes "m" then return { numbers with memory := UInt32.ofNat value }
  else if key = textBytes "t" then return { numbers with iterations := UInt32.ofNat value }
  else if key = textBytes "p" then return { numbers with parallelism := UInt8.ofNat value }
  else return numbers

instance (memory iterations : UInt32) (parallelism : UInt8) (saltLength keyLength : ℕ) :
    Decidable (ArgonBounds memory iterations parallelism saltLength keyLength) :=
  decidable_of_iff
    ((8 * 1024 ≤ memory ∧ memory ≤ 512 * 1024) ∧ (iterations ≠ 0 ∧ iterations ≤ 10) ∧
      (parallelism ≠ 0 ∧ parallelism ≤ 16) ∧ (8 ≤ saltLength ∧ saltLength ≤ 64) ∧
        (16 ≤ keyLength ∧ keyLength ≤ 64))
    ⟨fun ⟨m, t, p, s, k⟩ => ⟨m, t, p, s, k⟩, fun ⟨m, t, p, s, k⟩ => ⟨m, t, p, s, k⟩⟩

/-- Read a stored text. -/
def parseHash (encoded : Bytes) : Option StoredHash :=
  match encoded.splitOn dollar with
  | [name, version, items, salt, wanted] =>
    if name = textBytes "argon2id" ∧ version = textBytes "v=19" then do
      let numbers ← (items.splitOn comma).foldlM ArgonNumbers.read {}
      let salt ← decode rawStdEncoding salt
      let wanted ← decode rawStdEncoding wanted
      if bounds : ArgonBounds numbers.memory numbers.iterations numbers.parallelism salt.length
          wanted.length then
        some { memory := numbers.memory, iterations := numbers.iterations,
               parallelism := numbers.parallelism, salt, wanted, bounds }
      else none
    else none
  | _ => none

/-- Whether a value is the one of a stored text. -/
def verifyHash (idKey : Derivation) (encoded value : Bytes) : Bool :=
  match parseHash encoded with
  | none => false
  | some h =>
    idKey value h.salt h.iterations h.memory h.parallelism h.wanted.length == h.wanted

/-! ## What is written is read back -/

section RoundTrip

variable {idKey : Derivation} {params : ArgonParams}

/-- A byte that is not a digit is not in a numeral. -/
lemma notMem_numeral {b : UInt8} (h : isDigit b = false) (n : ℕ) : b ∉ numeral n := fun hmem => by
  rw [isDigit_of_mem_numeral hmem] at h
  cases h

/-- A parameter is read back. -/
lemma read_parameter (key : String) (hkey : equals ∉ textBytes key) {n : ℕ} (hn : n < 2 ^ 32)
    (numbers : ArgonNumbers) :
    numbers.read (parameter key n) =
      if textBytes key = textBytes "m" then some { numbers with memory := UInt32.ofNat n }
      else if textBytes key = textBytes "t" then some { numbers with iterations := UInt32.ofNat n }
      else if textBytes key = textBytes "p" then some { numbers with parallelism := UInt8.ofNat n }
      else some numbers := by
  have hcut : Cut.cut equals (parameter key n) = some (textBytes key, numeral n) :=
    Cut.cut_eq_some.mpr ⟨by simp [parameter], hkey⟩
  have hvalue : parseDigits (2 ^ 32 - 1) (numeral n) = some n :=
    parseDigits_numeral (Nat.le_sub_one_of_lt hn)
  simp only [ArgonNumbers.read, hcut, hvalue, Option.bind_eq_bind, Option.bind_some]
  rfl

/-- The text of the parameters is read back. -/
lemma read_text (params : ArgonParams) :
    (params.text.splitOn comma).foldlM ArgonNumbers.read {} =
      some ⟨params.memory, params.iterations, params.parallelism⟩ := by
  have hitem {key : String} (hkey : comma ∉ textBytes key) (n : ℕ) : comma ∉ parameter key n := by
    rw [parameter, List.append_assoc, List.mem_append, List.mem_append, not_or, not_or]
    exact ⟨hkey, by decide, notMem_numeral (by decide) n⟩
  rw [ArgonParams.text, List.splitOn_intercalate]
  · have hm := read_parameter "m" (by decide) params.memory.toNat_lt {}
    rw [if_pos rfl, UInt32.ofNat_toNat] at hm
    have ht := read_parameter "t" (by decide) params.iterations.toNat_lt
      { memory := params.memory }
    rw [if_neg (by decide), if_pos rfl, UInt32.ofNat_toNat] at ht
    have hp := read_parameter "p" (by decide)
      (params.parallelism.toNat_lt.trans (by decide))
      { memory := params.memory, iterations := params.iterations }
    rw [if_neg (by decide), if_neg (by decide), if_pos rfl, UInt8.ofNat_toNat] at hp
    simp only [List.foldlM_cons, List.foldlM_nil, hm, ht, hp, Option.bind_eq_bind, Option.bind_some]
    rfl
  · intro item hmem
    simp only [List.mem_cons, List.not_mem_nil, or_false] at hmem
    rcases hmem with rfl | rfl | rfl
    · exact hitem (by decide) _
    · exact hitem (by decide) _
    · exact hitem (by decide) _
  · exact List.cons_ne_nil _ _

/-- The parts of a stored text are told apart. -/
lemma splitOn_hash (params : ArgonParams) (salt hash : Bytes) :
    ([dollar].intercalate [textBytes "argon2id", textBytes "v=19", params.text,
        encode rawStdEncoding salt, encode rawStdEncoding hash]).splitOn dollar =
      [textBytes "argon2id", textBytes "v=19", params.text, encode rawStdEncoding salt,
        encode rawStdEncoding hash] := by
  have hdigits (bytes : Bytes) : dollar ∉ encode rawStdEncoding bytes := by
    intro hmem
    obtain ⟨d, hd⟩ := mem_encode rfl hmem
    have hsymbol : dollar ∈ asBytes stdAlphabet := hd ▸ symbol_mem d
    exact absurd hsymbol (by decide +kernel)
  have hparameter (key : String) (hkey : dollar ∉ textBytes key) (n : ℕ) :
      dollar ∉ parameter key n := by
    rw [parameter, List.append_assoc, List.mem_append, List.mem_append, not_or, not_or]
    exact ⟨hkey, by decide, notMem_numeral (by decide) n⟩
  have htext : dollar ∉ params.text := by
    have hm := hparameter "m" (by decide) params.memory.toNat
    have ht := hparameter "t" (by decide) params.iterations.toNat
    have hp := hparameter "p" (by decide) params.parallelism.toNat
    have hcomma : dollar ≠ comma := by decide
    simp [ArgonParams.text, List.intercalate, hm, ht, hp, hcomma]
  refine List.splitOn_intercalate dollar (fun part hmem => ?_) (List.cons_ne_nil _ _)
  simp only [List.mem_cons, List.not_mem_nil, or_false] at hmem
  rcases hmem with rfl | rfl | rfl | rfl | rfl
  · decide
  · decide
  · exact htext
  · exact hdigits _
  · exact hdigits _

/-- What a derivation is given, a key of its length is derived. -/
def Derivation.Lawful (idKey : Derivation) : Prop :=
  ∀ value salt time memory threads keyLength,
    (idKey value salt time memory threads keyLength).length = keyLength

/-- A value is accepted for the text that was made for another one exactly when the same key is
derived from them. -/
lemma verifyHash_hashArgon (lawful : idKey.Lawful) {value encoded : Bytes}
    {salt : Vector UInt8 params.saltLength}
    (h : hashArgon idKey params value (some salt) = .ok encoded)
    (bounds : ArgonBounds params.memory params.iterations params.parallelism params.saltLength
      params.keyLength) (other : Bytes) :
    verifyHash idKey encoded other = true ↔
      idKey other salt.toList params.iterations params.memory params.parallelism params.keyLength =
        idKey value salt.toList params.iterations params.memory params.parallelism
          params.keyLength := by
  unfold hashArgon at h
  split at h
  · cases h
  · cases h
    have hlength := lawful value salt.toList params.iterations params.memory params.parallelism
      params.keyLength
    simp only [verifyHash, parseHash, splitOn_hash, read_text, decode_encode, Option.bind_eq_bind,
      Option.bind_some, and_self, if_true]
    rw [dif_pos (by rwa [hlength, Vector.length_toList])]
    simp only [hlength, beq_iff_eq]

end RoundTrip

/-! ## Checks -/

/-- The key of a value under some parameters and a salt. -/
def ArgonParams.derive (params : ArgonParams) (idKey : Derivation) (salt value : Bytes) : Bytes :=
  idKey value salt params.iterations params.memory params.parallelism params.keyLength

/-- The parameters for passwords are within the bounds. -/
lemma bounds_defaultArgonParams {cpus : ℕ} (hcpus : 0 < cpus) :
    ArgonBounds (defaultArgonParams cpus).memory (defaultArgonParams cpus).iterations
      (defaultArgonParams cpus).parallelism 16 32 := by
  have hthreads : min cpus 2 = 1 ∨ min cpus 2 = 2 := by omega
  have hmemory : (8 * 1024 : UInt32) ≤ 64 * 1024 ∧ (64 * 1024 : UInt32) ≤ 512 * 1024 := by decide
  have hiterations : (3 : UInt32) ≠ 0 ∧ (3 : UInt32) ≤ 10 := by decide
  refine ⟨hmemory, hiterations, ?_, by decide, by decide⟩
  rcases hthreads with h | h
  · rw [defaultArgonParams, h]
    decide
  · rw [defaultArgonParams, h]
    decide

/-- A password is accepted for the text of another one exactly when the same key is derived from
both, and so is a PIN.  Whatever text is stored, a check derives keys within the bounds only. -/
theorem verifyHash_spec {idKey : Derivation} (lawful : idKey.Lawful) {cpus : ℕ} (hcpus : 0 < cpus)
    (value other encoded : Bytes) (salt : Vector UInt8 16) :
    (hashPassword idKey cpus value (some salt) = .ok encoded →
      (verifyHash idKey encoded other = true ↔
        (defaultArgonParams cpus).derive idKey salt.toList other =
          (defaultArgonParams cpus).derive idKey salt.toList value)) ∧
    (hashPIN idKey value (some salt) = .ok encoded →
      (verifyHash idKey encoded other = true ↔
        pinArgonParams.derive idKey salt.toList other =
          pinArgonParams.derive idKey salt.toList value)) ∧
    ∀ idKey' : Derivation,
      (∀ value salt time memory threads keyLength,
        ArgonBounds memory time threads salt.length keyLength →
          idKey' value salt time memory threads keyLength =
            idKey value salt time memory threads keyLength) →
      verifyHash idKey' encoded other = verifyHash idKey encoded other := by
  refine ⟨fun h => ?_, fun h => ?_, fun idKey' h => ?_⟩
  · exact verifyHash_hashArgon lawful h (bounds_defaultArgonParams hcpus) other
  · refine verifyHash_hashArgon lawful h ?_ other
    exact ⟨by decide, by decide, by decide, by decide, by decide⟩
  · unfold verifyHash
    cases parseHash encoded with
    | none => rfl
    | some stored =>
      dsimp only
      rw [h _ _ _ _ _ _ stored.bounds]

/-- A derivation that keeps the start of the value. -/
def startKey : Derivation := fun value _ _ _ _ keyLength =>
  (value ++ List.replicate keyLength 0).take keyLength

theorem verifyHash_spec_startKey :
    ∃ encoded, hashPIN startKey (textBytes "246810") (some (Vector.replicate 16 7)) = .ok encoded ∧
      verifyHash startKey encoded (textBytes "246810") = true ∧
        verifyHash startKey encoded (textBytes "246811") = false := by
  have lawful : startKey.Lawful := by
    intro value salt time memory threads keyLength
    simp [startKey]
  obtain ⟨encoded, hencoded⟩ : ∃ encoded,
      hashPIN startKey (textBytes "246810") (some (Vector.replicate 16 7)) = .ok encoded := ⟨_, rfl⟩
  refine ⟨encoded, hencoded, ?_, ?_⟩
  · exact ((verifyHash_spec lawful one_pos _ _ _ _).2.1 hencoded).mpr rfl
  · refine Bool.eq_false_iff.mpr fun h => ?_
    have hkeys := ((verifyHash_spec lawful one_pos _ _ _ _).2.1 hencoded).mp h
    exact absurd hkeys (by decide)

end Hostpin
