import Hostpin.Foundation.Clock

/-!
# Records as JSON objects

A `Codec` writes the values of a type as JSON and reads them back.  A record is written as an object
whose members may be left out when they hold the zero value of their type, and a member that is left
out is read as the zero value.

* `Codec.always` and `Codec.omitempty` write a member.
* `Json.read` reads a member, and `Json.readOptional` one whose absence is told from its zero value.
* `Json.read_ofMembers` and the rules for `Codec.decodeMember` say that a member is read as it was
  written.

* `readArray_writeArray` is the rule for lists whose items are not read exactly as they are written.

A number is an integer or a binary64 number, and an instant is a leaf of its own.
-/

/-- A JSON value. -/
inductive Json where
  | bool (value : Bool)
  | number (value : ℤ)
  | real (value : Float)
  | text (value : String)
  | time (value : Time)
  | array (items : List Json)
  | object (members : List (String × Json))

namespace Json

/-- How the values of a type are written and read. -/
structure Codec (α : Type) where
  encode : α → Json
  decode : Json → Option α
  decode_encode : ∀ a, decode (encode a) = some a

variable {α β : Type}

/-! ## Leaves and arrays -/

/-- Reading the items of a list that are read as `f` says. -/
lemma mapM_map {γ : Type} {encode : α → γ} {decode : γ → Option β} {f : α → β}
    (h : ∀ a, decode (encode a) = some (f a)) (as : List α) :
    (as.map encode).mapM decode = some (as.map f) := by
  induction as with
  | nil => rfl
  | cons a as ih =>
    rw [List.map_cons, List.mapM_cons, h, ih]
    rfl

namespace Codec

/-- Truth values. -/
def bool : Codec Bool where
  encode := .bool
  decode
    | .bool b => some b
    | _ => none
  decode_encode := fun _ => rfl

/-- Integers. -/
def int : Codec ℤ where
  encode := .number
  decode
    | .number n => some n
    | _ => none
  decode_encode := fun _ => rfl

/-- Unsigned integers of 64 bits; a number outside of their range is not read. -/
def counter : Codec UInt64 where
  encode := fun n => .number n.toNat
  decode
    | .number n => if 0 ≤ n ∧ n < 18446744073709551616 then some (UInt64.ofNat n.toNat) else none
    | _ => none
  decode_encode := by
    intro n
    have hrange : (0 : ℤ) ≤ n.toNat ∧ (n.toNat : ℤ) < 18446744073709551616 :=
      ⟨Int.natCast_nonneg _, by exact_mod_cast n.toNat_lt⟩
    simp only [if_pos hrange, Int.toNat_natCast, UInt64.ofNat_toNat]

/-- Numbers in binary64. -/
def real : Codec Float where
  encode := .real
  decode
    | .real x => some x
    | _ => none
  decode_encode := fun _ => rfl

/-- Texts. -/
def text : Codec String where
  encode := .text
  decode
    | .text s => some s
    | _ => none
  decode_encode := fun _ => rfl

/-- Instants. -/
def time : Codec Time where
  encode := .time
  decode
    | .time t => some t
    | _ => none
  decode_encode := fun _ => rfl

/-- A type whose values have names. -/
def named (name : α → String) (ofName : String → α) (h : ∀ a, ofName (name a) = a) : Codec α where
  encode := fun a => .text (name a)
  decode
    | .text s => some (ofName s)
    | _ => none
  decode_encode := fun a => congrArg some (h a)

/-- Reading the items of an array one by one. -/
lemma mapM_decode_map_encode (c : Codec α) (as : List α) :
    (as.map c.encode).mapM c.decode = some as := by
  rw [mapM_map c.decode_encode, List.map_id']

/-- Lists. -/
def list (c : Codec α) : Codec (List α) where
  encode := fun as => .array (as.map c.encode)
  decode
    | .array items => items.mapM c.decode
    | _ => none
  decode_encode := c.mapM_decode_map_encode

/-! ## Members -/

/-- A member that is always written. -/
def always (c : Codec α) (a : α) : Option Json := some (c.encode a)

/-- A member that is left out when it is zero. -/
def omitempty [DecidableEq α] (c : Codec α) (zero a : α) : Option Json :=
  if a = zero then none else some (c.encode a)

/-- The value of a member; a member that is left out has the zero value. -/
def decodeMember (c : Codec α) (zero : α) : Option Json → Option α
  | none => some zero
  | some value => c.decode value

/-- A member that is always written is read as it was written. -/
@[simp] lemma decodeMember_always (c : Codec α) (zero a : α) :
    c.decodeMember zero (c.always a) = some a :=
  c.decode_encode a

/-- A member that is left out when it is zero is read as it was written. -/
@[simp] lemma decodeMember_omitempty [DecidableEq α] (c : Codec α) (zero a : α) :
    c.decodeMember zero (c.omitempty zero a) = some a := by
  unfold omitempty
  split_ifs with hzero
  · rw [hzero]
    rfl
  · exact c.decode_encode a

/-- A member that is left out when it counts as empty. -/
def omitWhen (c : Codec α) (isEmpty : α → Bool) (a : α) : Option Json :=
  if isEmpty a then none else some (c.encode a)

/-- A member that counts as empty is read as the zero value. -/
@[simp] lemma decodeMember_omitWhen (c : Codec α) (zero : α) (isEmpty : α → Bool) (a : α) :
    c.decodeMember zero (c.omitWhen isEmpty a) = some (if isEmpty a then zero else a) := by
  unfold omitWhen
  split_ifs
  · rfl
  · exact c.decode_encode a

end Codec

/-- A member that is a list, left out when it has no items. -/
def writeArray (encode : α → Json) (as : List α) : Option Json :=
  if as.isEmpty then none else some (.array (as.map encode))

/-- Read a member that is a list. -/
def readArray (decode : Json → Option α) : Option Json → Option (List α)
  | none => some []
  | some (.array items) => items.mapM decode
  | some _ => none

/-- A list is read item by item. -/
@[simp] lemma readArray_writeArray {encode : α → Json} {decode : Json → Option β} {f : α → β}
    (h : ∀ a, decode (encode a) = some (f a)) (as : List α) :
    readArray decode (writeArray encode as) = some (as.map f) := by
  unfold writeArray
  cases as with
  | nil => rfl
  | cons a as => exact mapM_map h (a :: as)

/-- The object with the members that are not left out. -/
def ofMembers (members : List (String × Option Json)) : Json :=
  .object (members.filterMap fun m => m.2.map fun value => (m.1, value))

/-- The member of an object. -/
def member? (name : String) : Json → Option Json
  | .object members => members.lookup name
  | _ => none

/-- Read a member of an object. -/
def read (c : Codec α) (zero : α) (name : String) (json : Json) : Option α :=
  c.decodeMember zero (json.member? name)

/-- Read a member of an object that may be left out. -/
def readOptional (c : Codec α) (name : String) (json : Json) : Option (Option α) :=
  match json.member? name with
  | none => some none
  | some value => (c.decode value).map some

/-- A member is found as it was written. -/
lemma member?_ofMembers {members : List (String × Option Json)}
    (hnodup : (members.map Prod.fst).Nodup) (name : String) :
    (ofMembers members).member? name = (members.lookup name).join := by
  induction members with
  | nil => rfl
  | cons m members ih =>
    obtain ⟨n, value⟩ := m
    rw [List.map_cons, List.nodup_cons] at hnodup
    have hrest := ih hnodup.2
    simp only [ofMembers, member?] at hrest
    by_cases heq : name = n
    · subst heq
      cases value with
      | none =>
        have hnone : members.lookup name = none := by
          rw [List.lookup_eq_none_iff]
          rintro ⟨k, v⟩ hmem
          have hk : k ∈ members.map Prod.fst := List.mem_map.mpr ⟨_, hmem, rfl⟩
          rw [bne_iff_ne]
          rintro rfl
          exact hnodup.1 hk
        rw [hnone] at hrest
        simpa [ofMembers, member?] using hrest
      | some value => simp [ofMembers, member?]
    · have hfalse : (name == n) = false := beq_false_of_ne heq
      cases value with
      | none =>
        rw [List.lookup_cons, hfalse]
        simpa [ofMembers, member?] using hrest
      | some value =>
        rw [List.lookup_cons, hfalse]
        simp only [ofMembers, member?]
        rw [List.filterMap_cons, Option.map_some, List.lookup_cons, hfalse]
        exact hrest

/-- Reading a member of a written object. -/
lemma read_ofMembers {members : List (String × Option Json)}
    (hnodup : (members.map Prod.fst).Nodup) (c : Codec α) (zero : α) (name : String) :
    (ofMembers members).read c zero name = c.decodeMember zero (members.lookup name).join := by
  rw [read, member?_ofMembers hnodup]

end Json
