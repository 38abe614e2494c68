import Hostpin.Backup.Restore

/-!
# What the checks of a staged tree say

* `validateEntries_ok_iff` reads the check of the paths, which looks at a tree as a set of entries
  within limits.
* `expectedRecords_ok` and `verifyEntries_ok` read the check of the files: every file that is not
  exempt has the size and the checksum of its record, and as many files are there as are declared.
* Removing exempt files keeps both checks (`validatePendingTree_remove`,
  `verifyPendingChecksums_remove`).
-/

namespace Hostpin

namespace Backup

variable {P : Primitives} {tree : Tree} {manifest : Manifest} {rows : List (Bytes × Entry)}

/-! ## The paths -/

/-- The size of a file, and nothing for what is not one. -/
def Entry.size : Entry → ℕ
  | .regular content => content.length
  | _ => 0

/-- Whether an entry is a file. -/
def Entry.isRegular : Entry → Bool
  | .regular _ => true
  | _ => false

/-- The walk accepts entries with paths of a restore and within the limits. -/
lemma validateEntries_ok_iff {files total : ℕ} (hfiles : files ≤ maxArchiveFiles + 4)
    (htotal : total ≤ maxArchiveBytes) :
    validateEntries files total rows = .ok () ↔
      (∀ e ∈ rows, e.2 ≠ .irregular ∧ pendingAllowed e.1 = true) ∧
        files + rows.countP (fun e => e.2.isRegular) ≤ maxArchiveFiles + 4 ∧
        total + (rows.map fun e => e.2.size).sum ≤ maxArchiveBytes := by
  induction rows generalizing files total with
  | nil => simp [validateEntries, hfiles, htotal]
  | cons e rest ih =>
    obtain ⟨relative, entry⟩ := e
    cases entry with
    | irregular => simp [validateEntries]
    | directory =>
      by_cases hallowed : pendingAllowed relative = true
      · simp [validateEntries, hallowed, ih hfiles htotal, Entry.isRegular, Entry.size]
      · simp [validateEntries, hallowed]
    | regular content =>
      by_cases hallowed : pendingAllowed relative = true
      · by_cases hlimits : files + 1 > maxArchiveFiles + 4 ∨
          total + content.length > maxArchiveBytes
        · have hreject : validateEntries files total ((relative, .regular content) :: rest) =
              .error .exceedsLimits := by
            rw [validateEntries, if_neg (by simp [hallowed]), if_pos (by simpa using hlimits)]
          rw [hreject]
          simp only [reduceCtorEq, List.countP_cons, Entry.isRegular, if_true, List.map_cons,
            List.sum_cons, Entry.size, false_iff, not_and, not_le]
          intro _ _
          omega
        · have hstep : validateEntries files total ((relative, .regular content) :: rest) =
              validateEntries (files + 1) (total + content.length) rest := by
            rw [validateEntries, if_neg (by simp [hallowed]), if_neg (by simpa using hlimits)]
          rw [hstep, ih (by omega) (by omega)]
          simp only [List.forall_mem_cons, ne_eq, reduceCtorEq, not_false_eq_true, hallowed,
            and_self, true_and, List.countP_cons, Entry.isRegular, if_true, List.map_cons,
            List.sum_cons, Entry.size]
          constructor
          · rintro ⟨hall, hcount, hsum⟩
            exact ⟨hall, by omega, by omega⟩
          · rintro ⟨hall, hcount, hsum⟩
            exact ⟨hall, by omega, by omega⟩
      · simp [validateEntries, hallowed]

/-- A staged tree with paths of a restore, within the limits. -/
lemma validatePendingTree_ok_iff :
    validatePendingTree (.directory tree) = .ok () ↔
      (∀ e ∈ tree.rows, e.2 ≠ .irregular ∧ pendingAllowed e.1 = true) ∧
        tree.rows.countP (fun e => e.2.isRegular) ≤ maxArchiveFiles + 4 ∧
        (tree.rows.map fun e => e.2.size).sum ≤ maxArchiveBytes := by
  rw [validatePendingTree, validateEntries_ok_iff (Nat.zero_le _) (Nat.zero_le _), Nat.zero_add,
    Nat.zero_add]

/-- Removing a path keeps the check of the paths. -/
lemma validatePendingTree_remove (h : validatePendingTree (.directory tree) = .ok ())
    (path : Bytes) : validatePendingTree (.directory (tree.remove path)) = .ok () := by
  rw [validatePendingTree_ok_iff] at h ⊢
  have hsub : (tree.remove path).rows.Sublist tree.rows := List.filter_sublist
  obtain ⟨hall, hcount, hsum⟩ := h
  refine ⟨fun e he => hall e (hsub.subset he), (hsub.countP_le).trans hcount, ?_⟩
  exact ((hsub.map _).sum_le_sum fun _ _ => Nat.zero_le _).trans hsum

/-! ## The files -/

/-- The files that a manifest declares are its records, with different safe paths. -/
lemma expectedRecords_ok {acc files expected : List FileRecord}
    (h : expectedRecords acc files = .ok expected) (hacc : (acc.map FileRecord.path).Nodup)
    (hsafe : ∀ r ∈ acc, safePayloadPath r.path = true) :
    expected = files.reverse ++ acc ∧ (expected.map FileRecord.path).Nodup ∧
      ∀ r ∈ expected, safePayloadPath r.path = true := by
  induction files generalizing acc with
  | nil =>
    simp only [expectedRecords, Except.ok.injEq] at h
    subst h
    exact ⟨rfl, hacc, hsafe⟩
  | cons record rest ih =>
    unfold expectedRecords at h
    split_ifs at h with hbad hduplicate
    have hnew : record.path ∉ acc.map FileRecord.path := by
      intro hmem
      obtain ⟨r, hr, hpath⟩ := List.mem_map.mp hmem
      exact hduplicate (List.any_eq_true.mpr ⟨r, hr, by simp [hpath]⟩)
    obtain ⟨hexpected, hnodup, hall⟩ := ih h (List.nodup_cons.mpr ⟨hnew, hacc⟩)
      (List.forall_mem_cons.mpr ⟨by simpa using hbad, hsafe⟩)
    exact ⟨by simp [hexpected], hnodup, hall⟩

/-- Whether an entry has to be declared. -/
def mustDeclare (e : Bytes × Entry) : Bool := e.2 != .directory && !exempt e.1

/-- A file has the size and the checksum of a record. -/
def Agrees (P : Primitives) (record : FileRecord) (content : Bytes) : Prop :=
  record.size = content.length ∧
    equalFold (hexEncode (P.sum256 content).toList) record.sha256 = true

/-- A directory is passed over. -/
@[simp] lemma verifyEntries_directory (expected : List FileRecord) (actual : ℕ) (name : Bytes) :
    verifyEntries P expected actual ((name, .directory) :: rows) =
      verifyEntries P expected actual rows := by
  rw [verifyEntries]

/-- An exempt file is passed over. -/
lemma verifyEntries_exempt {expected : List FileRecord} {actual : ℕ} {e : Bytes × Entry}
    (h : mustDeclare e = false) :
    verifyEntries P expected actual (e :: rows) = verifyEntries P expected actual rows := by
  obtain ⟨name, entry⟩ := e
  cases entry with
  | directory => simp
  | regular content =>
    have hexempt : exempt name = true := by simpa [mustDeclare] using h
    simp [verifyEntries, hexempt]
  | irregular =>
    have hexempt : exempt name = true := by simpa [mustDeclare] using h
    simp [verifyEntries, hexempt]

/-- A file that has to be declared agrees with its record. -/
lemma verifyEntries_declared {expected : List FileRecord} {actual total : ℕ} {e : Bytes × Entry}
    (hdeclare : mustDeclare e = true)
    (h : verifyEntries P expected actual (e :: rows) = .ok total) :
    verifyEntries P expected (actual + 1) rows = .ok total ∧
      ∃ record ∈ expected, ∃ content,
        record.path = e.1 ∧ e.2 = .regular content ∧ Agrees P record content := by
  obtain ⟨name, entry⟩ := e
  cases entry with
  | directory => simp [mustDeclare] at hdeclare
  | irregular =>
    have hexempt : exempt name = false := by simpa [mustDeclare] using hdeclare
    simp only [verifyEntries, hexempt, Bool.false_eq_true, if_false] at h
    split at h <;> cases h
  | regular content =>
    have hexempt : exempt name = false := by simpa [mustDeclare] using hdeclare
    simp only [verifyEntries, hexempt] at h
    cases hfind : expected.find? fun r => r.path == name with
    | none => simp [hfind] at h
    | some record =>
      have hpath : record.path = name := by simpa using List.find?_some hfind
      simp only [hfind, Bool.false_eq_true, if_false] at h
      by_cases hmismatch : ((FileRecord.of P name content).size != record.size ||
          !equalFold (FileRecord.of P name content).sha256 record.sha256) = true
      · rw [if_pos hmismatch] at h
        cases h
      · rw [if_neg hmismatch] at h
        refine ⟨h, record, List.mem_of_find?_eq_some hfind, content, hpath, rfl, ?_⟩
        simp only [FileRecord.of, Bool.or_eq_true, not_or] at hmismatch
        have hsize : (content.length : ℤ) = record.size := by simpa using hmismatch.1
        exact ⟨hsize.symm, by simpa using hmismatch.2⟩

/-- The files that have to be declared agree with their records, and are counted. -/
lemma verifyEntries_ok {expected : List FileRecord} {actual total : ℕ}
    (h : verifyEntries P expected actual rows = .ok total) :
    total = actual + rows.countP mustDeclare ∧
      ∀ e ∈ rows, mustDeclare e = true → ∃ record ∈ expected, ∃ content,
        record.path = e.1 ∧ e.2 = .regular content ∧ Agrees P record content := by
  induction rows generalizing actual with
  | nil =>
    simp only [verifyEntries, Except.ok.injEq] at h
    simp [h]
  | cons e rest ih =>
    cases hdeclare : mustDeclare e with
    | false =>
      rw [verifyEntries_exempt hdeclare] at h
      obtain ⟨htotal, hall⟩ := ih h
      refine ⟨by simp [htotal, hdeclare], List.forall_mem_cons.mpr ⟨?_, hall⟩⟩
      simp [hdeclare]
    | true =>
      obtain ⟨hrest, hrecord⟩ := verifyEntries_declared hdeclare h
      obtain ⟨htotal, hall⟩ := ih hrest
      refine ⟨?_, List.forall_mem_cons.mpr ⟨fun _ => hrecord, hall⟩⟩
      rw [htotal, List.countP_cons, hdeclare, if_pos rfl]
      omega

/-- Removing what need not be declared keeps the walk. -/
lemma verifyEntries_filter {expected : List FileRecord} {actual : ℕ} {p : Bytes × Entry → Bool}
    (h : ∀ e ∈ rows, p e = false → mustDeclare e = false) :
    verifyEntries P expected actual (rows.filter p) = verifyEntries P expected actual rows := by
  induction rows generalizing actual with
  | nil => rfl
  | cons e rest ih =>
    obtain ⟨he, hrest⟩ := List.forall_mem_cons.mp h
    cases hp : p e with
    | false => rw [List.filter_cons_of_neg (by simp [hp]), ih hrest, verifyEntries_exempt (he hp)]
    | true =>
      rw [List.filter_cons_of_pos hp]
      obtain ⟨name, entry⟩ := e
      cases entry with
      | directory => rw [verifyEntries_directory, verifyEntries_directory, ih hrest]
      | regular content => simp only [verifyEntries, ih hrest]
      | irregular => simp only [verifyEntries, ih hrest]

/-- What the check of the files says: the records have different safe paths, as many files have to
be declared as there are records, and each agrees with its record. -/
lemma verifyPendingChecksums_ok
    (h : verifyPendingChecksums P (.directory tree) manifest = .ok ()) :
    (manifest.files.map FileRecord.path).Nodup ∧
      (∀ r ∈ manifest.files, safePayloadPath r.path = true) ∧
      tree.rows.countP mustDeclare = manifest.files.length ∧
      ∀ e ∈ tree.rows, mustDeclare e = true → ∃ record ∈ manifest.files, ∃ content,
        record.path = e.1 ∧ e.2 = .regular content ∧ Agrees P record content := by
  unfold verifyPendingChecksums at h
  cases hexpected : expectedRecords [] manifest.files with
  | error cause => simp [hexpected, bind, Except.bind] at h
  | ok expected =>
    obtain ⟨hrecords, hnodup, hsafe⟩ := expectedRecords_ok hexpected List.nodup_nil (by simp)
    rw [List.append_nil] at hrecords
    subst hrecords
    cases hactual : verifyEntries P manifest.files.reverse 0 tree.rows with
    | error cause => simp [hexpected, hactual, bind, Except.bind] at h
    | ok actual =>
      obtain ⟨hcount, hall⟩ := verifyEntries_ok hactual
      simp only [hexpected, hactual, bind, Except.bind] at h
      split_ifs at h with hlength
      rw [List.map_reverse, List.nodup_reverse] at hnodup
      refine ⟨hnodup, fun r hr => hsafe r (List.mem_reverse.mpr hr), ?_, fun e he hdeclare => ?_⟩
      · rw [List.length_reverse] at hlength
        omega
      · obtain ⟨record, hrecord, content, hagrees⟩ := hall e he hdeclare
        exact ⟨record, List.mem_reverse.mp hrecord, content, hagrees⟩

/-- Removing an exempt path keeps the check of the files. -/
lemma verifyPendingChecksums_remove {path : Bytes} (hexempt : exempt path = true)
    (h : verifyPendingChecksums P (.directory tree) manifest = .ok ()) :
    verifyPendingChecksums P (.directory (tree.remove path)) manifest = .ok () := by
  have hrows : ∀ expected actual, verifyEntries P expected actual (tree.remove path).rows =
      verifyEntries P expected actual tree.rows := by
    intro expected actual
    refine verifyEntries_filter fun e _ he => ?_
    have heq : e.1 = path := by simpa using he
    simp [mustDeclare, heq, hexempt]
  unfold verifyPendingChecksums at h ⊢
  simpa only [hrows] using h

/-- Records with different safe paths are the files that a manifest declares. -/
lemma expectedRecords_eq (acc : List FileRecord) {files : List FileRecord}
    (hnodup : (files.map FileRecord.path ++ acc.map FileRecord.path).Nodup)
    (hsafe : ∀ r ∈ files, safePayloadPath r.path = true) :
    expectedRecords acc files = .ok (files.reverse ++ acc) := by
  induction files generalizing acc with
  | nil => rfl
  | cons record rest ih =>
    rw [List.map_cons, List.cons_append, ← List.nodup_middle] at hnodup
    have hnew : record.path ∉ acc.map FileRecord.path := by
      intro hmem
      rw [List.nodup_middle, List.nodup_cons] at hnodup
      exact hnodup.1 (List.mem_append_right _ hmem)
    have hfresh : (acc.any fun r => r.path == record.path) = false := by
      rw [List.any_eq_false]
      intro r hr hpath
      exact hnew (List.mem_map.mpr ⟨r, hr, by simpa using hpath⟩)
    obtain ⟨hrecord, hrest⟩ := List.forall_mem_cons.mp hsafe
    rw [expectedRecords, if_neg (by simp [hrecord]), if_neg (by simp [hfresh]),
      ih (record :: acc) hnodup hrest]
    simp

/-- A file that agrees with its record is counted. -/
lemma verifyEntries_agrees {expected : List FileRecord} {actual : ℕ} {record : FileRecord}
    {content : Bytes} (hexempt : exempt record.path = false)
    (hnodup : (expected.map FileRecord.path).Nodup) (hrecord : record ∈ expected)
    (hagrees : Agrees P record content) :
    verifyEntries P expected actual ((record.path, .regular content) :: rows) =
      verifyEntries P expected (actual + 1) rows := by
  have hfind : (expected.find? fun r => r.path == record.path) = some record := by
    cases hfound : expected.find? fun r => r.path == record.path with
    | none =>
      have hnone := List.find?_eq_none.mp hfound record hrecord
      simp at hnone
    | some r =>
      have hpath : r.path = record.path := by simpa using List.find?_some hfound
      rw [List.inj_on_of_nodup_map hnodup (List.mem_of_find?_eq_some hfound) hrecord hpath]
  have hsize : (FileRecord.of P record.path content).size = record.size := hagrees.1.symm
  have hsum : equalFold (FileRecord.of P record.path content).sha256 record.sha256 = true :=
    hagrees.2
  simp [verifyEntries, hexempt, hfind, hsize, hsum]

/-- Files that agree with their records are counted. -/
lemma verifyEntries_eq {expected : List FileRecord} {actual : ℕ}
    (hnodup : (expected.map FileRecord.path).Nodup)
    (h : ∀ e ∈ rows, mustDeclare e = true → ∃ record ∈ expected, ∃ content,
      record.path = e.1 ∧ e.2 = .regular content ∧ Agrees P record content) :
    verifyEntries P expected actual rows = .ok (actual + rows.countP mustDeclare) := by
  induction rows generalizing actual with
  | nil => rfl
  | cons e rest ih =>
    obtain ⟨he, hrest⟩ := List.forall_mem_cons.mp h
    cases hdeclare : mustDeclare e with
    | false =>
      rw [verifyEntries_exempt hdeclare, ih hrest, List.countP_cons_of_neg (by simp [hdeclare])]
    | true =>
      obtain ⟨record, hrecord, content, hpath, hregular, hagrees⟩ := he hdeclare
      have hentry : e = (record.path, .regular content) := Prod.ext hpath.symm hregular
      have hexempt : exempt record.path = false := by
        rw [hentry] at hdeclare
        simpa [mustDeclare] using hdeclare
      rw [List.countP_cons_of_pos hdeclare, hentry,
        verifyEntries_agrees hexempt hnodup hrecord hagrees, ih hrest]
      congr 1
      omega

/-- The check of the files accepts files that agree with the records, when there are as many. -/
lemma verifyPendingChecksums_eq_ok (hnodup : (manifest.files.map FileRecord.path).Nodup)
    (hsafe : ∀ r ∈ manifest.files, safePayloadPath r.path = true)
    (hcount : tree.rows.countP mustDeclare = manifest.files.length)
    (h : ∀ e ∈ tree.rows, mustDeclare e = true → ∃ record ∈ manifest.files, ∃ content,
      record.path = e.1 ∧ e.2 = .regular content ∧ Agrees P record content) :
    verifyPendingChecksums P (.directory tree) manifest = .ok () := by
  have hexpected := expectedRecords_eq [] (by simpa using hnodup)
    hsafe
  have hnodup' : (manifest.files.reverse.map FileRecord.path).Nodup := by
    rwa [List.map_reverse, List.nodup_reverse]
  have hactual : verifyEntries P manifest.files.reverse 0 tree.rows =
      .ok (0 + tree.rows.countP mustDeclare) := verifyEntries_eq hnodup' fun e he hdeclare => by
    obtain ⟨record, hrecord, content, hall⟩ := h e he hdeclare
    exact ⟨record, List.mem_reverse.mpr hrecord, content, hall⟩
  unfold verifyPendingChecksums
  simp only [hexpected, List.append_nil, hactual, bind, Except.bind, List.length_reverse, hcount,
    Nat.zero_add, ne_eq, not_true_eq_false, if_false]

end Backup

end Hostpin
