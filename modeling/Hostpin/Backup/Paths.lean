import Hostpin.Backup.Manifest

/-!
# Paths

A path is a list of parts between slashes.  Cleaning it leaves a stack of parts: those that name
nothing are dropped, and `..` takes away the part before it where there is one.

* `cleanParts` is the stack that cleaning leaves, and `Settled` says how such a stack looks;
  cleaning it again changes nothing (`clean_clean`).
* `join` puts a name below a directory.
* `StrictlyInside root path` says that a path lies below a directory and is not the directory.
  Joining a directory with a name whose stack is not empty and has no `..` gives such a path
  (`strictlyInside_join`), and other names give other paths (`clean_eq_of_join_eq`).
-/

namespace Hostpin

namespace Backup

/-- Whether a path starts with a slash. -/
def rooted (path : Bytes) : Bool := path.head? == some slash

/-- The parts that cleaning leaves of a path, the last one first. -/
def cleanParts (path : Bytes) : List Bytes :=
  (path.splitOn slash).foldl (cleanPart (rooted path)) []

/-- The path with some parts, the last one first. -/
def ofParts (rooted : Bool) (parts : List Bytes) : Bytes :=
  let body := List.intercalate [slash] parts.reverse
  let path := if rooted then slash :: body else body
  if path.isEmpty then ascii "." else path

/-- Cleaning takes a path apart and puts it together again. -/
lemma clean_eq (path : Bytes) : clean path = ofParts (rooted path) (cleanParts path) := rfl

/-- A directory and a name below it, joined with a slash and cleaned. -/
def join (root name : Bytes) : Bytes :=
  if root = [] then if name = [] then [] else clean name else clean (root ++ slash :: name)

/-- The parts of a path from the top. -/
def components (path : Bytes) : List Bytes := (cleanParts path).reverse

/-- A path lies below a directory: it is clean, and it goes down from the directory by at least one
part and never up. -/
structure StrictlyInside (root path : Bytes) : Prop where
  clean_eq : clean path = path
  rooted_eq : rooted path = rooted root
  exists_below : ∃ below, components path = components root ++ below ∧ below ≠ [] ∧
    ascii ".." ∉ below

/-- A name that stays below the directory it is joined with. -/
structure Contained (name : Bytes) : Prop where
  relative : rooted name = false
  ne_nil : cleanParts name ≠ []
  notMem : ascii ".." ∉ cleanParts name

/-! ## Stacks of parts -/

/-- A stack of parts that cleaning leaves: no part is empty or a dot, and `..` is only below all
other parts of a path that does not start with a slash. -/
def Settled (rooted : Bool) : List Bytes → Prop
  | [] => True
  | part :: rest => part ≠ [] ∧ part ≠ ascii "." ∧ slash ∉ part ∧
      (part = ascii ".." → rooted = false ∧ ∀ other ∈ rest, other = ascii "..") ∧
      Settled rooted rest

section Stacks

variable {r : Bool} {parts stack : List Bytes} {part : Bytes}

/-- A part that names nothing is dropped. -/
lemma cleanPart_drop (h : part = [] ∨ part = ascii ".") : cleanPart r parts part = parts :=
  if_pos h

/-- A part that is not special is put on the stack. -/
lemma cleanPart_push (hnil : part ≠ []) (hdot : part ≠ ascii ".") (hup : part ≠ ascii "..") :
    cleanPart r parts part = part :: parts := by
  unfold cleanPart
  rw [if_neg (not_or.mpr ⟨hnil, hdot⟩), if_neg hup]

/-- Going up from a part takes it away, unless it goes up itself. -/
lemma cleanPart_up {last : Bytes} :
    cleanPart r (last :: parts) (ascii "..") =
      if last = ascii ".." then ascii ".." :: last :: parts else parts := by
  rw [cleanPart, if_neg (by decide), if_pos rfl]

/-- Going up from nothing. -/
lemma cleanPart_up_nil : cleanPart r [] (ascii "..") = if r then [] else [ascii ".."] := by
  rw [cleanPart, if_neg (by decide), if_pos rfl]

/-- The stack stays settled. -/
lemma Settled.cleanPart (h : Settled r parts) (hslash : slash ∉ part) :
    Settled r (cleanPart r parts part) := by
  by_cases hdrop : part = [] ∨ part = ascii "."
  · rwa [cleanPart_drop hdrop]
  obtain ⟨hnil, hdot⟩ := not_or.mp hdrop
  by_cases hup : part = ascii ".."
  · subst hup
    cases parts with
    | nil =>
      rw [cleanPart_up_nil]
      cases r with
      | true => exact trivial
      | false => exact ⟨hnil, hdot, hslash, fun _ => ⟨rfl, by simp⟩, trivial⟩
    | cons last rest =>
      rw [cleanPart_up]
      split_ifs with hlast
      · obtain ⟨hr, hrest⟩ := h.2.2.2.1 hlast
        exact ⟨hnil, hdot, hslash, fun _ => ⟨hr, List.forall_mem_cons.mpr ⟨hlast, hrest⟩⟩, h⟩
      · exact h.2.2.2.2
  · rw [cleanPart_push hnil hdot hup]
    exact ⟨hnil, hdot, hslash, fun heq => absurd heq hup, h⟩

/-- Parts without slashes leave a settled stack. -/
lemma Settled.foldl (h : Settled r stack) (hslash : ∀ part ∈ parts, slash ∉ part) :
    Settled r (parts.foldl (Backup.cleanPart r) stack) := by
  induction parts generalizing stack with
  | nil => exact h
  | cons part parts ih =>
    obtain ⟨hpart, hparts⟩ := List.forall_mem_cons.mp hslash
    exact ih (h.cleanPart hpart) hparts

/-- What is below some parts of a settled stack is settled. -/
lemma Settled.of_append (h : Settled r (parts ++ stack)) : Settled r stack := by
  induction parts with
  | nil => exact h
  | cons part parts ih => exact ih h.2.2.2.2

/-- Cleaning the parts of a settled stack puts them on the stack. -/
lemma Settled.foldl_reverse (h : Settled r (parts ++ stack)) :
    parts.reverse.foldl (Backup.cleanPart r) stack = parts ++ stack := by
  induction parts with
  | nil => rfl
  | cons part parts ih =>
    obtain ⟨hnil, hdot, hslash, hup, hrest⟩ := h
    rw [List.reverse_cons, List.foldl_append, ih hrest, List.foldl_cons, List.foldl_nil,
      List.cons_append]
    by_cases heq : part = ascii ".."
    · subst heq
      obtain ⟨hr, hall⟩ := hup rfl
      cases hstack : parts ++ stack with
      | nil => rw [cleanPart_up_nil, hr]; rfl
      | cons last rest =>
        have hlast : last ∈ parts ++ stack := by rw [hstack]; exact List.mem_cons_self
        rw [cleanPart_up, if_pos (hall last hlast)]
    · exact cleanPart_push hnil hdot heq

/-- Cleaning the parts of a settled stack gives the stack. -/
lemma Settled.foldl_reverse_nil (h : Settled r parts) :
    parts.reverse.foldl (Backup.cleanPart r) [] = parts := by
  have hfold := foldl_reverse ((List.append_nil parts).symm ▸ h)
  rwa [List.append_nil] at hfold

/-- When the parts alone leave nothing that goes up, they leave the same on any stack. -/
lemma foldl_cleanPart_append (h : ascii ".." ∉ parts.foldl (cleanPart false) []) :
    parts.foldl (cleanPart r) stack = parts.foldl (cleanPart false) [] ++ stack := by
  induction parts using List.reverseRecOn with
  | nil => rfl
  | append_singleton parts part ih =>
    simp only [List.foldl_append, List.foldl_cons, List.foldl_nil] at h ⊢
    by_cases hdrop : part = [] ∨ part = ascii "."
    · rw [cleanPart_drop hdrop] at h ⊢
      rw [cleanPart_drop hdrop, ih h]
    obtain ⟨hnil, hdot⟩ := not_or.mp hdrop
    by_cases hup : part = ascii ".."
    · subst hup
      cases hleft : parts.foldl (cleanPart false) [] with
      | nil => simp [hleft, cleanPart_up_nil] at h
      | cons last rest =>
        rw [hleft, cleanPart_up] at h
        split_ifs at h with hlast
        · exact absurd List.mem_cons_self h
        · have hbelow : ascii ".." ∉ parts.foldl (cleanPart false) [] := by
            rw [hleft, List.mem_cons, not_or]
            exact ⟨Ne.symm hlast, h⟩
          rw [ih hbelow, hleft, List.cons_append, cleanPart_up, cleanPart_up, if_neg hlast,
            if_neg hlast]
    · rw [cleanPart_push hnil hdot hup] at h ⊢
      rw [cleanPart_push hnil hdot hup, ih (fun mem => h (List.mem_cons_of_mem _ mem)),
        List.cons_append]

end Stacks

/-! ## Cleaned paths -/

section Clean

variable {path root name : Bytes}

/-- No part of a path has a slash. -/
lemma slash_notMem_of_mem_splitOn {part : Bytes} (h : part ∈ path.splitOn slash) :
    slash ∉ part := by
  induction path generalizing part with
  | nil =>
    rw [List.splitOn_nil, List.mem_singleton] at h
    simp [h]
  | cons byte path ih =>
    rw [List.splitOn_cons_eq_if_modifyHead] at h
    split_ifs at h with hbyte
    · rcases List.mem_cons.mp h with rfl | h
      · exact List.not_mem_nil
      · exact ih h
    · obtain ⟨first, rest, hsplit⟩ := List.exists_cons_of_ne_nil (List.splitOn_ne_nil slash path)
      rw [hsplit] at h ih
      rcases List.mem_cons.mp h with rfl | h
      · have hfirst := ih List.mem_cons_self
        have hne : slash ≠ byte := fun heq => hbyte (heq ▸ beq_self_eq_true _)
        exact List.not_mem_cons_of_ne_of_not_mem hne hfirst
      · exact ih (List.mem_cons_of_mem _ h)

/-- Cleaning leaves a settled stack. -/
lemma settled_cleanParts (path : Bytes) : Settled (rooted path) (cleanParts path) :=
  Settled.foldl trivial fun _ => slash_notMem_of_mem_splitOn

/-- No part on a settled stack is empty or has a slash. -/
lemma Settled.of_mem {r : Bool} {parts : List Bytes} (h : Settled r parts) {part : Bytes}
    (mem : part ∈ parts) : part ≠ [] ∧ slash ∉ part := by
  induction parts with
  | nil => cases mem
  | cons first rest ih =>
    rcases List.mem_cons.mp mem with rfl | mem
    · exact ⟨h.1, h.2.2.1⟩
    · exact ih h.2.2.2.2 mem

/-- The body of a path with parts splits into these parts. -/
lemma Settled.splitOn_intercalate {r : Bool} {parts : List Bytes} (h : Settled r parts)
    (hne : parts ≠ []) : (List.intercalate [slash] parts.reverse).splitOn slash = parts.reverse :=
  List.splitOn_intercalate slash (fun _ mem => (h.of_mem (List.mem_reverse.mp mem)).2)
    (mt List.reverse_eq_nil_iff.mp hne)

/-- The body of a path with parts starts with a byte of a part. -/
lemma Settled.rooted_intercalate {r : Bool} {parts : List Bytes} (h : Settled r parts)
    (hne : parts ≠ []) : ∃ byte rest, List.intercalate [slash] parts.reverse = byte :: rest ∧
      byte ≠ slash := by
  obtain ⟨first, others, hparts⟩ :=
    List.exists_cons_of_ne_nil (mt List.reverse_eq_nil_iff.mp hne)
  have hmem : first ∈ parts := List.mem_reverse.mp (hparts ▸ List.mem_cons_self)
  obtain ⟨hnil, hslash⟩ := h.of_mem hmem
  obtain ⟨byte, front, rfl⟩ := List.exists_cons_of_ne_nil hnil
  have hbyte : byte ≠ slash := fun heq => hslash (heq ▸ List.mem_cons_self)
  rw [hparts]
  cases others with
  | nil => exact ⟨byte, front, by simp, hbyte⟩
  | cons second others => exact ⟨byte, _, by rw [List.intercalate_cons_cons]; rfl, hbyte⟩

/-- A path with the parts of a settled stack starts with a slash when it is told to. -/
lemma Settled.rooted_ofParts {r : Bool} {parts : List Bytes} (h : Settled r parts) :
    rooted (ofParts r parts) = r := by
  by_cases hne : parts = []
  · subst hne
    cases r <;> decide
  · obtain ⟨byte, rest, hbody, hbyte⟩ := h.rooted_intercalate hne
    cases r <;> simp [ofParts, rooted, hbody, hbyte]

/-- A path with the parts of a settled stack has these parts. -/
lemma Settled.cleanParts_ofParts {r : Bool} {parts : List Bytes} (h : Settled r parts) :
    cleanParts (ofParts r parts) = parts := by
  unfold cleanParts
  rw [h.rooted_ofParts]
  by_cases hne : parts = []
  · subst hne
    cases r <;> decide
  · obtain ⟨byte, rest, hbody, hbyte⟩ := h.rooted_intercalate hne
    have hfold := h.foldl_reverse_nil
    have hsplit := h.splitOn_intercalate hne
    cases r with
    | false =>
      have hpath : ofParts false parts = List.intercalate [slash] parts.reverse := by
        simp [ofParts, hbody]
      rw [hpath, hsplit, hfold]
    | true =>
      have hpath : ofParts true parts = slash :: List.intercalate [slash] parts.reverse := by
        simp [ofParts]
      rw [hpath, List.splitOn_cons_eq_if_modifyHead, if_pos (beq_self_eq_true _), hsplit,
        List.foldl_cons, cleanPart_drop (Or.inl rfl), hfold]

/-- Cleaning does not change whether a path starts with a slash. -/
@[simp] lemma rooted_clean (path : Bytes) : rooted (clean path) = rooted path :=
  (settled_cleanParts path).rooted_ofParts

/-- Cleaning does not change what cleaning leaves. -/
@[simp] lemma cleanParts_clean (path : Bytes) : cleanParts (clean path) = cleanParts path :=
  (settled_cleanParts path).cleanParts_ofParts

/-- A cleaned path is clean. -/
lemma clean_clean (path : Bytes) : clean (clean path) = clean path := by
  rw [clean_eq (clean path), rooted_clean, cleanParts_clean, ← clean_eq]

/-! ## Names below a directory -/

/-- When a settled stack has a part that goes up, there is one at the bottom. -/
lemma Settled.exists_eq_append_of_mem {r : Bool} {parts : List Bytes} (h : Settled r parts)
    (mem : ascii ".." ∈ parts) : ∃ front, parts = front ++ [ascii ".."] := by
  induction parts with
  | nil => cases mem
  | cons part rest ih =>
    by_cases hrest : ascii ".." ∈ rest
    · obtain ⟨front, hfront⟩ := ih h.2.2.2.2 hrest
      exact ⟨part :: front, by rw [hfront, List.cons_append]⟩
    · obtain rfl := (List.mem_cons.mp mem).resolve_right hrest
      have hnil : rest = [] := by
        refine List.eq_nil_iff_forall_not_mem.mpr fun other hother => hrest ?_
        exact (h.2.2.2.1 rfl).2 other hother ▸ hother
      exact ⟨[], by rw [hnil, List.nil_append]⟩

/-- A relative name goes up nowhere when its cleaned form is not, and does not start with, a part
that goes up. -/
lemma contained_of_clean (hrooted : rooted name = false) (hdot : clean name ≠ ascii ".")
    (hup : clean name ≠ ascii "..") (hstart : (ascii "../").isPrefixOf (clean name) = false) :
    Contained name := by
  have hsettled := settled_cleanParts name
  have hclean := clean_eq name
  rw [hrooted] at hsettled hclean
  refine ⟨hrooted, fun hnil => hdot (by rw [hclean, hnil]; decide), fun mem => ?_⟩
  obtain ⟨front, hparts⟩ := hsettled.exists_eq_append_of_mem mem
  rw [hparts, ofParts, List.reverse_append, List.reverse_singleton, List.singleton_append] at hclean
  cases hfront : front.reverse with
  | nil => exact hup (by rw [hclean, hfront]; decide)
  | cons second others =>
    rw [hfront, List.intercalate_cons_cons] at hclean
    simp [hclean, ascii, slash] at hstart

/-- A directory joined with a name that stays below it. -/
lemma Contained.join_eq (h : Contained name) (root : Bytes) :
    join root name = clean (if root = [] then name else root ++ slash :: name) := by
  have hname : name ≠ [] := by
    rintro rfl
    exact h.ne_nil (by decide)
  unfold join
  rw [if_neg hname]
  split_ifs <;> rfl

/-- The parts of a directory joined with a name that stays below it. -/
lemma Contained.cleanParts_join (h : Contained name) (root : Bytes) :
    rooted (join root name) = rooted root ∧
      cleanParts (join root name) = cleanParts name ++ cleanParts root := by
  rw [h.join_eq, rooted_clean, cleanParts_clean]
  by_cases hroot : root = []
  · subst hroot
    rw [if_pos rfl, h.relative]
    exact ⟨rfl, (List.append_nil _).symm⟩
  · have hrooted : rooted (root ++ slash :: name) = rooted root := by
      obtain ⟨byte, rest, rfl⟩ := List.exists_cons_of_ne_nil hroot
      rfl
    have hnotMem := h.notMem
    rw [if_neg hroot]
    refine ⟨hrooted, ?_⟩
    unfold cleanParts at hnotMem ⊢
    rw [h.relative] at hnotMem ⊢
    rw [hrooted, List.splitOn_append_cons_self, List.foldl_append, foldl_cleanPart_append hnotMem]

/-- A directory joined with a name that stays below it is strictly inside it. -/
lemma Contained.strictlyInside_join (h : Contained name) (root : Bytes) :
    StrictlyInside root (join root name) where
  clean_eq := by rw [h.join_eq, clean_clean]
  rooted_eq := (h.cleanParts_join root).1
  exists_below := by
    refine ⟨components name, ?_, mt List.reverse_eq_nil_iff.mp h.ne_nil, ?_⟩
    · simp [components, (h.cleanParts_join root).2]
    · simpa [components] using h.notMem

/-- Names that stay below a directory and lead to the same path have the same cleaned form. -/
lemma Contained.clean_eq_of_join_eq {other : Bytes} (h : Contained name) (hother : Contained other)
    (heq : join root name = join root other) : clean name = clean other := by
  have hparts := congrArg cleanParts heq
  rw [(h.cleanParts_join root).2, (hother.cleanParts_join root).2, List.append_left_inj] at hparts
  rw [clean_eq, clean_eq other, h.relative, hother.relative, hparts]

/-- A clean name that stays below a directory splits into the parts that cleaning leaves. -/
lemma Contained.splitOn_eq (h : Contained name) (hclean : clean name = name) :
    name.splitOn slash = (cleanParts name).reverse := by
  have hsettled := settled_cleanParts name
  obtain ⟨byte, rest, hbody, -⟩ := hsettled.rooted_intercalate h.ne_nil
  have hname : name = List.intercalate [slash] (cleanParts name).reverse := by
    conv_lhs => rw [← hclean, clean_eq, h.relative]
    simp [ofParts, hbody]
  conv_lhs => rw [hname]
  exact hsettled.splitOn_intercalate h.ne_nil

/-- The directories above a clean name that stays below a directory stay below it too. -/
lemma Contained.above {front below : Bytes} (h : Contained (front ++ slash :: below))
    (hclean : clean (front ++ slash :: below) = front ++ slash :: below) : Contained front := by
  have hfront : front ≠ [] := by
    rintro rfl
    exact absurd h.relative (by simp [rooted])
  have hrooted : rooted front = false := by
    obtain ⟨byte, rest, rfl⟩ := List.exists_cons_of_ne_nil hfront
    exact h.relative
  have hparts : cleanParts (front ++ slash :: below) =
      (below.splitOn slash).reverse ++ (front.splitOn slash).reverse := by
    rw [← List.reverse_append, ← List.splitOn_append_cons_self, h.splitOn_eq hclean,
      List.reverse_reverse]
  have hsettled := settled_cleanParts (front ++ slash :: below)
  rw [h.relative, hparts] at hsettled
  have hfold := hsettled.of_append.foldl_reverse_nil
  rw [List.reverse_reverse] at hfold
  have hcleanParts : cleanParts front = (front.splitOn slash).reverse := by
    rw [cleanParts, hrooted, hfold]
  refine ⟨hrooted, ?_, fun mem => h.notMem ?_⟩
  · rw [hcleanParts]
    exact mt List.reverse_eq_nil_iff.mp (List.splitOn_ne_nil slash front)
  · rw [hparts]
    exact List.mem_append_right _ (hcleanParts ▸ mem)

/-- A path starts with a slash when it has one in front. -/
lemma isPrefixOf_slash (path : Bytes) : (ascii "/").isPrefixOf path = rooted path := by
  cases path with
  | nil => rfl
  | cons byte rest =>
    show (slash == byte && true) = (some byte == some slash)
    rw [Bool.and_true, Option.some_beq_some, Bool.beq_comm]

/-- What the names of a backup are: clean, and below the directory they are extracted to. -/
lemma contained_of_safeArchivePath (h : safeArchivePath name = true) :
    Contained name ∧ clean name = name := by
  simp only [safeArchivePath, Bool.and_eq_true, Bool.not_eq_true', bne_iff_ne, beq_iff_eq] at h
  obtain ⟨⟨⟨⟨⟨⟨hne, -⟩, hslash⟩, hclean⟩, hdot⟩, hup⟩, hstart⟩ := h
  rw [isPrefixOf_slash] at hslash
  refine ⟨contained_of_clean hslash ?_ ?_ ?_, hclean⟩ <;> rwa [hclean]

/-- A name of a theme lies strictly below the directory of the themes. -/
lemma strictlyInside_themes (h : safeArchivePath name = true)
    (hstart : themesPrefix.isPrefixOf name = true) (root : Bytes) :
    StrictlyInside (join root themesName) (join root name) := by
  obtain ⟨hname, hclean⟩ := contained_of_safeArchivePath h
  have hthemes : Contained themesName := ⟨by decide, by decide, by decide⟩
  have inside := hname.strictlyInside_join root
  obtain ⟨below, rfl⟩ := List.isPrefixOf_iff_prefix.mp hstart
  have hsplit : components (themesPrefix ++ below) =
      components themesName ++ below.splitOn slash := by
    have hparts := hname.splitOn_eq hclean
    have hname : themesPrefix ++ below = themesName ++ slash :: below := rfl
    rw [components, ← hparts, hname, List.splitOn_append_cons_self]
    rfl
  refine ⟨inside.clean_eq, ?_, below.splitOn slash, ?_, List.splitOn_ne_nil slash below, ?_⟩
  · rw [(hname.cleanParts_join root).1, (hthemes.cleanParts_join root).1]
  · simp only [components] at hsplit ⊢
    rw [(hname.cleanParts_join root).2, (hthemes.cleanParts_join root).2, List.reverse_append,
      List.reverse_append, hsplit, List.append_assoc]
  · intro mem
    refine hname.notMem (List.mem_reverse.mp ?_)
    rw [← components, hsplit]
    exact List.mem_append_right _ mem

end Clean

end Backup

end Hostpin
