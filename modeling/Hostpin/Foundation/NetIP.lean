import Mathlib

/-!
# Internet addresses

Addresses of both families as they are read and printed, address prefixes, and the host of an
address with a port.  An IPv4 address has no zone, and an IPv6 address that carries an IPv4 address
is not the same as that address.
-/

namespace NetIP

/-- An address.  The zone of an IPv6 address may be empty. -/
inductive Addr where
  | v4 (bits : BitVec 32)
  | v6 (bits : BitVec 128) (zone : String)
deriving DecidableEq, Inhabited

/-- The number of bits of an address. -/
def Addr.bitLen : Addr → ℕ
  | .v4 _ => 32
  | .v6 _ _ => 128

/-! ## Reading -/

/-- The value of a hexadecimal digit. -/
def hexValue (c : Char) : Option ℕ :=
  if '0' ≤ c ∧ c ≤ '9' then some (c.toNat - 48)
  else if 'a' ≤ c ∧ c ≤ 'f' then some (c.toNat - 87)
  else if 'A' ≤ c ∧ c ≤ 'F' then some (c.toNat - 55)
  else none

/-- The number with some digits, of which those that are none count nothing. -/
def digitsValue (base : ℕ) (digits : List Char) : ℕ :=
  digits.foldl (fun value c => value * base + (hexValue c).getD 0) 0

/-- A field of an IPv4 address: a number up to 255 without leading zeros. -/
def parseOctet (field : List Char) : Option ℕ :=
  if field = [] ∨ (field.any fun c => !c.isDigit) ∨ (2 ≤ field.length ∧ field.head? = some '0') ∨
      3 < field.length ∨ 255 < digitsValue 10 field then none
  else some (digitsValue 10 field)

/-- The four fields of an IPv4 address as two numbers of sixteen bits. -/
def parseIPv4Fields (text : List Char) : Option (ℕ × ℕ) :=
  match (text.splitOn '.').map parseOctet with
  | [some a, some b, some c, some d] => some (a * 256 + b, c * 256 + d)
  | _ => none

/-- An IPv4 address. -/
def parseIPv4 (text : List Char) : Option Addr :=
  (parseIPv4Fields text).map fun (high, low) => .v4 (BitVec.ofNat 32 (high * 65536 + low))

/-- The groups of an IPv6 address: the groups that were read, the place of the ellipsis among them,
and what is left of the text.  There is room for a number of groups. -/
def parseGroups : ℕ → List Char → List ℕ → Option ℕ → Option (List ℕ × Option ℕ × List Char)
  | 0, text, groups, ellipsis => some (groups, ellipsis, text)
  | room + 1, text, groups, ellipsis =>
    let digits := text.takeWhile fun c => (hexValue c).isSome
    let groups' := groups ++ [digitsValue 16 digits]
    if digits = [] ∨ 4 < digits.length then none
    else
      match text.dropWhile fun c => (hexValue c).isSome with
      | [] => some (groups', ellipsis, [])
      | '.' :: _ =>
        -- an IPv4 address takes the room of the last two groups
        if (ellipsis = none ∧ room ≠ 1) ∨ room = 0 then none
        else (parseIPv4Fields text).map fun (high, low) => (groups ++ [high, low], ellipsis, [])
      | [':'] => none
      | ':' :: ':' :: rest =>
        if ellipsis.isSome then none
        else if rest = [] then some (groups', some groups'.length, [])
        else parseGroups room rest groups' (some groups'.length)
      | ':' :: rest => parseGroups room rest groups' ellipsis
      | _ => none

/-- An address of eight groups. -/
def ofGroups (groups : List ℕ) : BitVec 128 :=
  BitVec.ofNat 128 (groups.foldl (fun value group => value * 65536 + group) 0)

/-- The groups of an address, where the ellipsis stands for at least one group of zeros. -/
def expandGroups (groups : List ℕ) : Option ℕ → Option (List ℕ)
  | none => if groups.length = 8 then some groups else none
  | some ellipsis =>
    if groups.length < 8 then
      some (groups.take ellipsis ++ List.replicate (8 - groups.length) 0 ++ groups.drop ellipsis)
    else none

/-- An IPv6 address. -/
def parseIPv6 (text : List Char) : Option Addr :=
  let address := text.takeWhile (· ≠ '%')
  let zone := (text.dropWhile (· ≠ '%')).tail
  if '%' ∈ text ∧ zone = [] then none
  else
    let read :=
      match address with
      | [':', ':'] => some ([], some 0, [])
      | ':' :: ':' :: rest => parseGroups 8 rest [] (some 0)
      | _ => parseGroups 8 address [] none
    match read with
    | some (groups, ellipsis, []) =>
      (expandGroups groups ellipsis).map fun groups => .v6 (ofGroups groups) (String.ofList zone)
    | _ => none

/-- An address: its first punctuation tells the family. -/
def parseAddr (text : String) : Option Addr :=
  match text.toList.find? fun c => c = '.' ∨ c = ':' ∨ c = '%' with
  | some '.' => parseIPv4 text.toList
  | some ':' => parseIPv6 text.toList
  | _ => none

/-! ## Printing -/

/-- An IPv4 address as text. -/
def string4 (bits : BitVec 32) : String :=
  ".".intercalate ([24, 16, 8, 0].map fun shift => toString (bits.toNat >>> shift % 256))

/-- The eight groups of an address. -/
def groupsOf (bits : BitVec 128) : List ℕ :=
  (List.range 8).map fun i => bits.toNat >>> (112 - 16 * i) % 65536

/-- The first longest run of at least two groups of zeros: where it starts and how long it is. -/
def longestZeros (groups : List ℕ) : ℕ × ℕ :=
  (List.range 8).foldl
    (fun best i =>
      let length := ((groups.drop i).takeWhile (· = 0)).length
      if 2 ≤ length ∧ best.2 < length then (i, length) else best)
    (0, 0)

/-- Groups as text. -/
def hexGroups (groups : List ℕ) : String :=
  ":".intercalate (groups.map fun group => String.ofList (Nat.toDigits 16 group))

/-- An IPv6 address as text, without its zone. -/
def string6 (bits : BitVec 128) : String :=
  let groups := groupsOf bits
  let (start, length) := longestZeros groups
  if length = 0 then hexGroups groups
  else hexGroups (groups.take start) ++ "::" ++ hexGroups (groups.drop (start + length))

/-- An address as text. -/
def Addr.toString : Addr → String
  | .v4 bits => string4 bits
  | .v6 bits zone =>
    (if bits.toNat >>> 32 = 0xffff then "::ffff:" ++ string4 (bits.setWidth 32)
      else string6 bits) ++
      if zone = "" then "" else "%" ++ zone

example : (parseAddr "2001:DB8:0:0:1::7").map Addr.toString = some "2001:db8::1:0:0:7" := by
  decide +kernel

/-! ## Prefixes -/

/-- An address prefix. -/
structure Prefix where
  addr : Addr
  bits : ℕ
  valid : bits ≤ addr.bitLen

/-- Whether a prefix contains an address.  An address with a zone belongs to no prefix. -/
def Prefix.contains (p : Prefix) (ip : Addr) : Bool :=
  match p.addr, ip with
  | .v4 base, .v4 bits => (bits ^^^ base) >>> (32 - p.bits) = 0
  | .v6 base _, .v6 bits zone => zone = "" && (bits ^^^ base) >>> (128 - p.bits) = 0
  | _, _ => false

/-! ## Hosts -/

/-- The host of an address with a port. -/
def splitHostPort (hostport : String) : Option String :=
  let reversed := hostport.toList.reverse
  let port := reversed.takeWhile (· ≠ ':')
  match reversed.dropWhile (· ≠ ':') with
  | [] => none
  | _ :: before =>
    match before.reverse with
    | '[' :: rest =>
      let host := rest.dropLast
      if rest.getLast? = some ']' ∧ ']' ∉ host ∧ '[' ∉ host ∧ '[' ∉ port ∧ ']' ∉ port then
        some (String.ofList host)
      else none
    | host =>
      if ':' ∈ host ∨ '[' ∈ host ∨ ']' ∈ host ∨ '[' ∈ port ∨ ']' ∈ port then none
      else some (String.ofList host)

/-- A text without certain characters at its ends. -/
def trim (s cutset : String) : String :=
  String.ofList
    (((s.toList.dropWhile (· ∈ cutset.toList)).reverse.dropWhile (· ∈ cutset.toList)).reverse)

end NetIP
