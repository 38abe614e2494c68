import Hostpin.Foundation.Base64
import Hostpin.Foundation.Cut

/-!
# Tokens

A token of an agent and an API key consist of a prefix, an id and a secret; the token of a share
link is a prefix with a secret.  The store knows the ids and the hashes of the secrets.

A text is parsed as a new token exactly when it is this token (`parseAPIKeyToken_new_iff`,
`parseAgentToken_new_iff`), unless two secrets have one hash.  The prefixes keep the kinds of tokens
apart.
-/

namespace Hostpin

open Base64

/-! ## Texts -/

/-- The text behind a prefix. -/
def cutPrefix (start text : String) : Option String :=
  (start.toList.isPrefixOf? text.toList).map String.ofList

/-- The texts before and after the first separator. -/
def cut (separator : Char) (text : String) : Option (String × String) :=
  (Cut.cut separator text.toList).map fun (before, after) =>
    (String.ofList before, String.ofList after)

lemma cutPrefix_eq_some {start text rest : String} :
    cutPrefix start text = some rest ↔ text = start ++ rest := by
  rw [cutPrefix, Option.map_eq_some_iff]
  constructor
  · rintro ⟨chars, hchars, rfl⟩
    rw [List.isPrefixOf?_eq_some_iff_append_eq] at hchars
    exact String.toList_inj.mp (by rw [← hchars]; simp)
  · rintro rfl
    exact ⟨rest.toList, by simp, by simp⟩

lemma cut_eq_some {separator : Char} {text before after : String} :
    cut separator text = some (before, after) ↔
      text = before ++ String.singleton separator ++ after ∧ separator ∉ before.toList := by
  rw [cut, Option.map_eq_some_iff]
  constructor
  · rintro ⟨⟨left, right⟩, hcut, h⟩
    cases h
    obtain ⟨htext, hnotMem⟩ := Cut.cut_eq_some.mp hcut
    refine ⟨String.toList_inj.mp ?_, by rwa [String.toList_ofList]⟩
    rw [htext]
    simp
  · rintro ⟨rfl, hnotMem⟩
    refine ⟨(before.toList, after.toList), Cut.cut_eq_some.mpr ⟨?_, hnotMem⟩, ?_⟩
    · simp
    · simp

/-! ## Tokens -/

/-- What a source of random bytes gives: so many bytes as it is asked for, or an error. -/
abbrev Draw := (count : ℕ) → Option (Vector UInt8 count)

/-- A text of random bytes, of which there are at least 16. -/
def randomURLToken (count : ℕ) (draw : Draw) : Option String :=
  (draw (max count 16)).map fun raw => String.ofList (encode rawURLEncoding raw.toList)

def agentTokenPrefix : String := "hp_a_"

def apiKeyPrefix : String := "hp_k_"

def shareTokenPrefix : String := "hp_s_"

/-- A token, its id, and the hash under which the store knows its secret. -/
structure NewToken where
  token : String
  tokenID : String
  hash : String
deriving DecidableEq

variable (sum256 : Bytes → Vector UInt8 32)

/-- The hash of a text. -/
def hashToken (value : String) : String :=
  String.ofList (encode rawURLEncoding (sum256 value.toUTF8.data.toList).toList)

/-- A token with an id. -/
def newToken (start : String) (drawID drawSecret : Draw) : Option NewToken := do
  let id ← randomURLToken 9 drawID
  let secret ← randomURLToken 32 drawSecret
  return ⟨start ++ id ++ "." ++ secret, id, hashToken sum256 secret⟩

def newAPIKeyToken (drawID drawSecret : Draw) : Option NewToken :=
  newToken sum256 apiKeyPrefix drawID drawSecret

def newAgentToken (drawID drawSecret : Draw) : Option NewToken :=
  newToken sum256 agentTokenPrefix drawID drawSecret

/-- A token without an id, and its hash. -/
def newShareToken (drawSecret : Draw) : Option (String × String) := do
  let secret ← randomURLToken 32 drawSecret
  let token := shareTokenPrefix ++ secret
  return (token, hashToken sum256 token)

/-- The id and the hash of a token, or what is wrong with it. -/
def parseToken (start invalidPrefix invalid token : String) : Except String (String × String) :=
  match cutPrefix start token with
  | none => .error invalidPrefix
  | some rest =>
    match cut '.' rest with
    | none => .error invalid
    | some (id, secret) =>
      if id.utf8ByteSize < 8 ∨ secret.utf8ByteSize < 32 then .error invalid
      else .ok (id, hashToken sum256 secret)

def parseAPIKeyToken (token : String) : Except String (String × String) :=
  parseToken sum256 apiKeyPrefix "invalid API key prefix" "invalid API key" token

def parseAgentToken (token : String) : Except String (String × String) :=
  parseToken sum256 agentTokenPrefix "invalid agent token prefix" "invalid agent token" token

/-- The form of the token of a share link. -/
def hasShareForm (token : String) : Bool :=
  (cutPrefix shareTokenPrefix token).isSome &&
    decide (shareTokenPrefix.utf8ByteSize + 32 ≤ token.utf8ByteSize)

/-! ## New tokens -/

/-- No other text has the hash of the secret that is drawn. -/
def Unmatched (draw : Draw) : Prop :=
  ∀ secret ∈ randomURLToken 32 draw, ∀ value,
    hashToken sum256 value = hashToken sum256 secret → value = secret

section New

variable {sum256} {start invalidPrefix invalid : String}

/-- The texts that are parsed. -/
lemma parseToken_eq_ok {token id hash : String} :
    parseToken sum256 start invalidPrefix invalid token = .ok (id, hash) ↔
      ∃ secret, token = start ++ id ++ "." ++ secret ∧ '.' ∉ id.toList ∧ 8 ≤ id.utf8ByteSize ∧
        32 ≤ secret.utf8ByteSize ∧ hash = hashToken sum256 secret := by
  unfold parseToken
  constructor
  · intro h
    split at h
    · cases h
    next rest hrest =>
      split at h
      · cases h
      next id secret hcut =>
        split at h
        · cases h
        next hsizes =>
          cases h
          obtain ⟨rfl, hnotMem⟩ := cut_eq_some.mp hcut
          rw [not_or, not_lt, not_lt] at hsizes
          refine ⟨secret, ?_, hnotMem, hsizes.1, hsizes.2, rfl⟩
          rw [cutPrefix_eq_some.mp hrest]
          simp only [String.append_assoc]
          rfl
  · rintro ⟨secret, rfl, hnotMem, hid, hsecret, rfl⟩
    have hrest : cutPrefix start (start ++ id ++ "." ++ secret) = some (id ++ "." ++ secret) :=
      cutPrefix_eq_some.mpr (by simp only [String.append_assoc])
    have hcut : cut '.' (id ++ "." ++ secret) = some (id, secret) :=
      cut_eq_some.mpr ⟨rfl, hnotMem⟩
    simp only [hrest, hcut]
    rw [if_neg (by omega)]

/-- A text has at least as many bytes as characters. -/
lemma length_le_utf8ByteSize (chars : List Char) :
    chars.length ≤ (String.ofList chars).utf8ByteSize := by
  rw [String.utf8ByteSize_ofList]
  induction chars with
  | nil => rfl
  | cons c chars ih =>
    rw [String.utf8Len_cons, List.length_cons]
    exact Nat.add_le_add ih c.utf8Size_pos

/-- A random text has a length, and no separator in it. -/
lemma randomURLToken_spec {count : ℕ} {draw : Draw} {text : String}
    (h : randomURLToken count draw = some text) :
    '.' ∉ text.toList ∧ (max count 16 * 4 + 2) / 3 ≤ text.utf8ByteSize := by
  obtain ⟨raw, -, rfl⟩ := Option.map_eq_some_iff.mp h
  constructor
  · intro hmem
    rw [String.toList_ofList] at hmem
    obtain ⟨d, hd⟩ := mem_encode rfl hmem
    have hsymbol : '.' ∈ urlAlphabet := hd ▸ symbol_mem d
    exact absurd hsymbol (by decide +kernel)
  · refine le_trans (le_of_eq ?_) (length_le_utf8ByteSize _)
    rw [length_encode rfl, Vector.length_toList]

/-- A text is parsed as a new token exactly when it is this token, unless another text has the hash
of the secret. -/
lemma parseToken_new_iff {drawID drawSecret : Draw} (hsecret : Unmatched sum256 drawSecret)
    {new : NewToken} (hnew : newToken sum256 start drawID drawSecret = some new) {text : String} :
    parseToken sum256 start invalidPrefix invalid text = .ok (new.tokenID, new.hash) ↔
      text = new.token := by
  simp only [newToken, Option.bind_eq_bind, Option.bind_eq_some_iff] at hnew
  obtain ⟨id, hid, secret, hdrawn, hnew⟩ := hnew
  cases hnew
  obtain ⟨hnotMem, hidSize⟩ := randomURLToken_spec hid
  obtain ⟨-, hsecretSize⟩ := randomURLToken_spec hdrawn
  rw [parseToken_eq_ok]
  constructor
  · rintro ⟨value, rfl, -, -, -, hhash⟩
    rw [hsecret secret hdrawn value hhash.symm]
  · rintro rfl
    exact ⟨secret, rfl, hnotMem, le_trans (by decide) hidSize, le_trans (by decide) hsecretSize, rfl⟩

end New

/-- Texts that start with different prefixes of one length are different. -/
lemma eq_of_append_eq {start other rest rest' : String}
    (hlength : start.toList.length = other.toList.length) (h : start ++ rest = other ++ rest') :
    start = other := by
  have hlists := congrArg String.toList h
  rw [String.toList_append, String.toList_append] at hlists
  exact String.toList_inj.mp (List.append_inj_left hlists hlength)

/-- Whether a text is accepted as a token of a kind. -/
def accepted (parsed : Except String (String × String)) : Bool := parsed.toOption.isSome

/-- What is accepted starts with the prefix of the kind. -/
lemma exists_of_accepted {sum256 : Bytes → Vector UInt8 32}
    {start invalidPrefix invalid text : String}
    (h : accepted (parseToken sum256 start invalidPrefix invalid text) = true) :
    ∃ rest, text = start ++ rest := by
  cases hparsed : parseToken sum256 start invalidPrefix invalid text with
  | error message =>
    rw [hparsed] at h
    cases h
  | ok parsed =>
    obtain ⟨secret, rfl, -⟩ := parseToken_eq_ok.mp hparsed
    exact ⟨parsed.1 ++ ("." ++ secret), by simp only [String.append_assoc]⟩

/-- What has the form of the token of a share link starts with its prefix. -/
lemma exists_of_hasShareForm {text : String} (h : hasShareForm text = true) :
    ∃ rest, text = shareTokenPrefix ++ rest := by
  obtain ⟨rest, hrest⟩ := Option.isSome_iff_exists.mp (Bool.and_eq_true_iff.mp h).1
  exact ⟨rest, cutPrefix_eq_some.mp hrest⟩

/-- A text does not start with two prefixes. -/
lemma not_both_prefixes {start other text : String}
    (hlength : start.toList.length = other.toList.length) (hne : start ≠ other) :
    ¬((∃ rest, text = start ++ rest) ∧ ∃ rest, text = other ++ rest) := by
  rintro ⟨⟨rest, rfl⟩, rest', h⟩
  exact hne (eq_of_append_eq hlength h)

/-- Of three tests of which no two hold, one holds at most. -/
lemma count_true_le_one {a b c : Bool} (hab : ¬(a = true ∧ b = true))
    (hac : ¬(a = true ∧ c = true)) (hbc : ¬(b = true ∧ c = true)) :
    [a, b, c].count true ≤ 1 := by
  revert a b c
  decide

/-- A text is accepted as the API key or the token of an agent that was made exactly when it is its
text, and the token of a share link has the form of one.  No text is accepted as two kinds. -/
theorem tokens_told_apart (sum256 : Bytes → Vector UInt8 32) {drawID drawSecret : Draw}
    (hsecret : Unmatched sum256 drawSecret) (text : String) :
    (∀ new ∈ newAPIKeyToken sum256 drawID drawSecret,
        parseAPIKeyToken sum256 text = .ok (new.tokenID, new.hash) ↔ text = new.token) ∧
      (∀ new ∈ newAgentToken sum256 drawID drawSecret,
        parseAgentToken sum256 text = .ok (new.tokenID, new.hash) ↔ text = new.token) ∧
      (∀ new ∈ newShareToken sum256 drawSecret,
        hasShareForm new.1 = true ∧ new.2 = hashToken sum256 new.1) ∧
      [accepted (parseAPIKeyToken sum256 text), accepted (parseAgentToken sum256 text),
        hasShareForm text].count true ≤ 1 := by
  refine ⟨fun new hnew => parseToken_new_iff hsecret hnew,
    fun new hnew => parseToken_new_iff hsecret hnew, ?_, ?_⟩
  · intro new hnew
    simp only [newShareToken, Option.bind_eq_bind, Option.mem_def, Option.bind_eq_some_iff] at hnew
    obtain ⟨secret, hdrawn, hnew⟩ := hnew
    cases hnew
    refine ⟨?_, rfl⟩
    have hsize := (randomURLToken_spec hdrawn).2
    have hrest : cutPrefix shareTokenPrefix (shareTokenPrefix ++ secret) = some secret :=
      cutPrefix_eq_some.mpr rfl
    have hle : shareTokenPrefix.utf8ByteSize + 32 ≤
        (shareTokenPrefix ++ secret).utf8ByteSize := by
      rw [String.utf8ByteSize_append]
      exact Nat.add_le_add_left (le_trans (by decide) hsize) _
    rw [hasShareForm, hrest, decide_eq_true hle]
    rfl
  · refine count_true_le_one (fun h => ?_) (fun h => ?_) fun h => ?_
    · exact not_both_prefixes (by decide) (by decide)
        ⟨exists_of_accepted h.1, exists_of_accepted h.2⟩
    · exact not_both_prefixes (by decide) (by decide)
        ⟨exists_of_accepted h.1, exists_of_hasShareForm h.2⟩
    · exact not_both_prefixes (by decide) (by decide)
        ⟨exists_of_accepted h.1, exists_of_hasShareForm h.2⟩

/-! ## An example -/

/-- A source that gives zeros. -/
def zeros : Draw := fun count => some (Vector.replicate count 0)

/-- A sum that is not zero for a secret of zeros only. -/
def zeroSum (bytes : Bytes) : Vector UInt8 32 :=
  if some bytes = (randomURLToken 32 zeros).map fun secret => secret.toUTF8.data.toList then
    Vector.replicate 32 1
  else Vector.replicate 32 0

lemma unmatched_zeroSum : Unmatched zeroSum zeros := by
  intro secret hsecret value h
  have hsums := encode_injective _ (String.ofList_injective h)
  rw [Vector.toList_inj] at hsums
  have hsecret' : zeroSum secret.toUTF8.data.toList = Vector.replicate 32 1 :=
    if_pos (by rw [Option.mem_def.mp hsecret]; rfl)
  rw [hsecret', zeroSum, Option.mem_def.mp hsecret] at hsums
  split at hsums
  next hvalue =>
    have hbytes := Array.toList_inj.mp (Option.some_injective _ hvalue)
    exact String.toByteArray_inj.mp (ByteArray.ext hbytes)
  · exact absurd hsums (by decide)

theorem tokens_told_apart_zeros :
    ∃ new ∈ newAPIKeyToken zeroSum zeros zeros,
      parseAPIKeyToken zeroSum new.token = .ok (new.tokenID, new.hash) := by
  obtain ⟨new, hnew⟩ : ∃ new, newAPIKeyToken zeroSum zeros zeros = some new := ⟨_, rfl⟩
  have haccepted := (tokens_told_apart zeroSum unmatched_zeroSum new.token).1 new hnew
  exact ⟨new, hnew, haccepted.mpr rfl⟩

end Hostpin
