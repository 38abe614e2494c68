import Mathlib

/-!
# Byte strings

Byte strings with big-endian words of a fixed width, reading of a fixed number of bytes and cutting
into chunks of equal size.

* `bigEndian` writes a word and `ofBigEndian` reads it back (`ofBigEndian_bigEndian`).
* `readFull` takes a number of bytes off the front, or fails when there are fewer.
* `chunksOf` cuts a list into chunks; joining the chunks gives the list back (`flatten_chunksOf`).
-/

/-- A byte string. -/
abbrev Bytes := List UInt8

/-! ## Words -/

/-- The last bytes of a number, most significant first. -/
def bigEndian : ℕ → ℕ → Bytes
  | 0, _ => []
  | width + 1, value => bigEndian width (value / 256) ++ [UInt8.ofNat value]

/-- The number that a byte string spells, most significant byte first. -/
def ofBigEndian (bytes : Bytes) : ℕ := bytes.foldl (fun value byte => value * 256 + byte.toNat) 0

/-- A word has its width. -/
@[simp] lemma length_bigEndian (width value : ℕ) : (bigEndian width value).length = width := by
  induction width generalizing value with
  | zero => rfl
  | succ width ih => simp [bigEndian, ih]

/-- Reading a word gives the number back, up to the width. -/
lemma ofBigEndian_bigEndian (width value : ℕ) :
    ofBigEndian (bigEndian width value) = value % 256 ^ width := by
  induction width generalizing value with
  | zero => simp [ofBigEndian, bigEndian, Nat.mod_one]
  | succ width ih =>
    have hsplit : ofBigEndian (bigEndian width (value / 256) ++ [UInt8.ofNat value]) =
        ofBigEndian (bigEndian width (value / 256)) * 256 + value % 256 := by
      simp [ofBigEndian]
    rw [bigEndian, hsplit, ih, pow_succ', Nat.mod_mul]
    ring

/-- A number that fits is read back. -/
lemma ofBigEndian_bigEndian_of_lt {width value : ℕ} (h : value < 256 ^ width) :
    ofBigEndian (bigEndian width value) = value := by
  rw [ofBigEndian_bigEndian, Nat.mod_eq_of_lt h]

/-- Words of numbers that fit are different. -/
lemma bigEndian_injective {width a b : ℕ} (ha : a < 256 ^ width) (hb : b < 256 ^ width)
    (h : bigEndian width a = bigEndian width b) : a = b := by
  rw [← ofBigEndian_bigEndian_of_lt ha, ← ofBigEndian_bigEndian_of_lt hb, h]

/-! ## Reading -/

/-- Take a number of bytes off the front, or fail when there are fewer. -/
def readFull (count : ℕ) (data : Bytes) : Option (Bytes × Bytes) :=
  if data.length < count then none else some (data.take count, data.drop count)

/-- Reading what was put in front. -/
lemma readFull_append {count : ℕ} {front : Bytes} (h : front.length = count) (rest : Bytes) :
    readFull count (front ++ rest) = some (front, rest) := by
  subst h
  simp [readFull]

/-- What is read was in front. -/
lemma readFull_eq_some {count : ℕ} {data front rest : Bytes}
    (h : readFull count data = some (front, rest)) :
    data = front ++ rest ∧ front.length = count := by
  unfold readFull at h
  split_ifs at h with hlt
  obtain ⟨hfront, hrest⟩ := Prod.mk.inj (Option.some.inj h)
  refine ⟨by rw [← hfront, ← hrest, List.take_append_drop], ?_⟩
  rw [← hfront, List.length_take]
  omega

/-! ## Chunks -/

section Chunks

variable {α : Type*}

/-- Cut a list into chunks of a size; the last one may be shorter.  The first argument bounds the
number of chunks. -/
def chunksOf (size : ℕ) : ℕ → List α → List (List α)
  | 0, _ => []
  | bound + 1, list =>
    if list.isEmpty then [] else list.take size :: chunksOf size bound (list.drop size)

variable {size bound : ℕ} {list : List α}

/-- The chunks of nothing. -/
@[simp] lemma chunksOf_nil : chunksOf size bound ([] : List α) = [] := by
  cases bound <;> simp [chunksOf]

/-- Joining the chunks gives the list back. -/
lemma flatten_chunksOf (hsize : 0 < size) (hbound : list.length ≤ bound) :
    (chunksOf size bound list).flatten = list := by
  induction bound generalizing list with
  | zero => simp [List.length_eq_zero_iff.mp (Nat.le_zero.mp hbound)]
  | succ bound ih =>
    cases list with
    | nil => simp
    | cons head tail =>
      have hdrop : ((head :: tail).drop size).length ≤ bound := by
        simp only [List.length_drop, List.length_cons] at hbound ⊢
        omega
      simp only [chunksOf, List.isEmpty_cons, Bool.false_eq_true, if_false, List.flatten_cons]
      rw [ih hdrop, List.take_append_drop]

/-- A chunk is not empty and not longer than the size. -/
lemma length_of_mem_chunksOf (hsize : 0 < size) {chunk : List α}
    (h : chunk ∈ chunksOf size bound list) : 0 < chunk.length ∧ chunk.length ≤ size := by
  induction bound generalizing list with
  | zero => simp [chunksOf] at h
  | succ bound ih =>
    cases list with
    | nil => simp at h
    | cons head tail =>
      simp only [chunksOf, List.isEmpty_cons, Bool.false_eq_true, if_false, List.mem_cons] at h
      rcases h with rfl | h
      · simp only [List.length_take, List.length_cons]
        omega
      · exact ih h

end Chunks
