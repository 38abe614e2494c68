import Hostpin.Backup.Install

/-!
# A restore that is cut off

The machine may stop after any operation of a restore.  When the server starts again, the restore is
applied from the start, under new names.

* `Acceptable.trim` says that a staged tree is still acceptable after its checks, when another check
  leaves the bytes of its database unchanged.
* `applyPendingRestore_recovers` says that the second restore installs what was staged, and that
  everything that stood at a live path before the first one is kept under a rollback name.
-/

namespace Hostpin

open Clock

namespace Backup

open Procedure (Safely)

variable {services : Services} {config : RestoreConfig} {names : RunNames} {files : Files}
  {now : Time} {tree : Tree} {pending : PendingRestore}

/-! ## Checking again -/

/-- The file that is left after the sessions were deleted and the log was written back holds the
database without its sessions. -/
def ConnectsFlushed (services : Services) : Prop :=
  ∀ main wal database, services.connect main wal = some database →
    services.connect (some (.regular (services.flush main wal))) none =
      some database.clearSessions

/-- Checking the staged database again leaves its bytes unchanged, with its log or without. -/
def Revalidates (services : Services) (tree : Tree) : Prop :=
  ∀ wal, wal = tree.find? walName ∨ wal = none →
    tree.file? databaseName = some (services.flush (tree.find? databaseName) wal)

/-- Sessions do not matter for the checks of the database. -/
lemma checkDatabase_clearSessions (services : Services) (key : Bytes) (database : Database) :
    checkDatabase services key database.clearSessions = checkDatabase services key database := rfl

/-- Deleting the sessions of a database that was checked changes nothing. -/
lemma Revalidates.cleared_eq (h : Revalidates services tree) : cleared services tree = tree :=
  Tree.put_eq_self (Tree.file?_eq_some_iff.mp (h _ (Or.inl rfl)))

/-- A database that was checked keeps its bytes after its log is removed. -/
lemma Revalidates.trim (h : Revalidates services tree) (wal shm : Bool) :
    Revalidates services (tree.trim wal shm) := by
  intro log hlog
  rw [Tree.find?_trim_wal] at hlog
  rw [Tree.file?_trim (by decide) (by decide), Tree.find?_trim (by decide) (by decide)]
  refine h log ?_
  cases wal with
  | true => exact Or.inr (hlog.elim id id)
  | false => exact hlog

/-- An acceptable tree is acceptable after its log is removed. -/
lemma Acceptable.trim (h : Acceptable services config tree pending)
    (hconnect : ConnectsFlushed services) (hagain : Revalidates services tree) (wal shm : Bool) :
    Acceptable services config (tree.trim wal shm) pending where
  paths := by
    cases wal <;> cases shm
    · exact h.paths
    · exact validatePendingTree_remove h.paths _
    · exact validatePendingTree_remove h.paths _
    · exact validatePendingTree_remove (validatePendingTree_remove h.paths _) _
  metadata := by
    rw [Tree.file?_trim (by decide) (by decide)]
    exact h.metadata
  checksums := by
    have hwal : exempt walName = true := by decide
    have hshm : exempt shmName = true := by decide
    cases wal <;> cases shm
    · exact h.checksums
    · exact verifyPendingChecksums_remove hshm h.checksums
    · exact verifyPendingChecksums_remove hwal h.checksums
    · exact verifyPendingChecksums_remove hshm (verifyPendingChecksums_remove hwal h.checksums)
  database := by
    obtain ⟨contents, key, database, hcontents, hkey, hdatabase, hcheck, hsessions, hconfigured⟩ :=
      h.database
    rw [Tree.file?_trim (by decide) (by decide), Tree.find?_trim (by decide) (by decide),
      Tree.find?_trim_wal]
    cases wal with
    | false =>
      exact ⟨contents, key, database, hcontents, hkey, hdatabase, hcheck, hsessions, hconfigured⟩
    | true =>
      have hmain := Tree.file?_eq_some_iff.mp (hagain _ (Or.inl rfl))
      refine ⟨contents, key, database.clearSessions, hcontents, hkey, ?_, ?_, ?_, hconfigured⟩
      · rw [if_pos rfl]
        exact (congrArg (services.connect · none) hmain).trans (hconnect _ _ _ hdatabase)
      · rwa [checkDatabase_clearSessions]
      · simpa [Database.clearSessions] using hsessions

/-! ## Starting again -/

/-- When the file system works, nothing keeps an acceptable tree from being applied. -/
lemma restoreWorks_noFaults (names : RunNames) (tree : Tree) :
    RestoreWorks names tree noFaults where
  checks := fun _ _ => rfl
  absolute := fun _ => rfl
  copies := fun _ _ => rfl
  switch := fun _ => ⟨rfl, rfl, rfl⟩

/-- A restore that is cut off leaves the staged tree as it was, without files of its log at most,
or it is over. -/
lemma OnTheWay.staged_trim {t : Files} (h : OnTheWay services names tree files t)
    (hagain : Revalidates services tree) (hpending : t .pending ≠ none) :
    ∃ wal shm, t .pending = some (.directory (tree.trim wal shm)) := by
  rcases h.staged with hnone | hstaged | ⟨wal, shm, hstaged⟩
  · exact absurd hnone hpending
  · exact ⟨false, false, hstaged⟩
  · exact ⟨wal, shm, by rw [hstaged, hagain.cleared_eq]⟩

/-- Names that are not used stay unused during a restore with other names. -/
lemma OnTheWay.fresh {other : RunNames} {t : Files} (h : OnTheWay services names tree files t)
    (hfresh : other.Fresh files) (hidentifier : other.identifier ≠ names.identifier)
    (hstamp : other.stamp ≠ names.stamp) : other.Fresh t := by
  intro slot
  refine ⟨?_, ?_⟩
  · rw [h.others _ (by simp) fun s => ⟨by simp, by simp, by simp [hidentifier]⟩]
    exact (hfresh slot).1
  · rw [h.others _ (by simp) fun s => ⟨by simp, by simp [hstamp], by simp⟩]
    exact (hfresh slot).2

/-- A restore of a valid staged tree is cut off after any number of operations, before the staged
tree is removed, and is applied again at the next start.  Then the database, the master key and the
themes are those that were staged, no `-wal` and no `-shm` stands beside the database, and what
stood at a live path before the first restore stands unchanged under a rollback name of this
path. -/
theorem applyPendingRestore_recovers (services : Services) (config : RestoreConfig)
    (tree : Tree) (pending : PendingRestore) (hconnect : ConnectsFlushed services)
    (hstaged : Acceptable services config tree pending) (hagain : Revalidates services tree)
    (files : Files) (hpending : files .pending = some (.directory tree))
    (first second : RunNames) (hfirst : first.Fresh files) (hsecond : second.Fresh files)
    (hidentifier : second.identifier ≠ first.identifier) (hstamp : second.stamp ≠ first.stamp)
    (now later : Time) (operations : ℕ) (crashed : Files)
    (hcrashed : crashed = (applyPendingRestore services config first now).cutOff
      (handle services noFaults) operations files)
    (hbefore : crashed .pending ≠ none) (database key : Bytes)
    (hdatabase : tree.file? databaseName = some database) (hkey : tree.file? keyName = some key)
    (result : RestoreResult) (final : Files)
    (hfinal : (applyPendingRestore services config second later).run (handle services noFaults)
      crashed = (result, final)) :
    (∃ receipt, result = (some receipt, none)) ∧ Installed database key tree.themes final ∧
      ∀ slot node, files (.live slot) = some node →
        ∃ stamp, final (.saved slot stamp) = some node := by
  have hway : OnTheWay services first tree files crashed := by
    rw [hcrashed]
    exact (safely_applyPendingRestore now hstaged hpending hkey
      (restoreWorks_noFaults first tree) hfirst).cutOff operations rfl
  obtain ⟨wal, shm, hleft⟩ := hway.staged_trim hagain hbefore
  have hkey' : (tree.trim wal shm).file? keyName = some key := by
    rwa [Tree.file?_trim (by decide) (by decide)]
  have hfresh := hway.fresh hsecond hidentifier hstamp
  have happlied : Applied services second later pending (tree.trim wal shm) key noFaults crashed
      result final := by
    have hrun := (safely_applyPendingRestore later (hstaged.trim hconnect hagain wal shm) hleft
      hkey' (restoreWorks_noFaults second (tree.trim wal shm)) hfresh).run
    rwa [hfinal] at hrun
  obtain ⟨moved, hreceipt⟩ := happlied.receipt
  refine ⟨⟨newReceipt second later pending moved, ?_⟩, ?_, ?_⟩
  · exact Prod.ext hreceipt (happlied.error rfl)
  · have hflushed : flushed services (tree.trim wal shm) = database := by
      have hsame := (hagain.trim wal shm) _ (Or.inl rfl)
      rw [Tree.file?_trim (by decide) (by decide), hdatabase] at hsame
      exact (Option.some.inj hsame).symm
    have hinstalled := happlied.installed
    rwa [hflushed, Tree.themes_trim] at hinstalled
  · intro slot node hnode
    rcases hway.kept slot node hnode with hlive | hsaved
    · exact ⟨second.stamp, happlied.saved slot node hlive⟩
    · have hsame : final (.saved slot first.stamp) = crashed (.saved slot first.stamp) :=
        happlied.others _ (by simp) fun s => ⟨by simp, by simp [hstamp.symm], by simp⟩
      exact ⟨first.stamp, hsame.trans hsaved⟩

/-! ## An example -/

/-- Other names for a restore. -/
def exampleLaterNames : RunNames where
  timestamp := "20260810T000100Z"
  identifier := "3"
  quarantine := "4"

/-- The example is acceptable. -/
lemma acceptable_exampleTree :
    Acceptable exampleServices exampleConfig exampleTree examplePending where
  paths := by rfl
  metadata := ⟨exampleMetadata, by rfl, by rfl⟩
  checksums := by rfl
  database := ⟨exampleKey, List.replicate 32 0, exampleDatabase, by rfl, by rfl, by rfl, by rfl,
    by simp [exampleDatabase], by rfl⟩

/-- The example keeps its bytes. -/
lemma connectsFlushed_exampleServices : ConnectsFlushed exampleServices := by
  intro main wal database h
  simp only [exampleServices] at h ⊢
  split_ifs at h
  cases h
  rfl

/-- Files in which a restore stopped after a number of operations. -/
def exampleCrash (operations : ℕ) : Files :=
  (applyPendingRestore exampleServices exampleConfig exampleNames 0).cutOff
    (handle exampleServices noFaults) operations exampleFiles

/-- A restore that stops with the old database moved away and the new one not in place. -/
theorem applyPendingRestore_recovers_database :
    exampleCrash 20 (.live .database) = none ∧
      ∃ result final, (applyPendingRestore exampleServices exampleConfig exampleLaterNames 0).run
          (handle exampleServices noFaults) (exampleCrash 20) = (result, final) ∧
        Installed exampleMain exampleKey exampleTree.themes final ∧
        ∃ stamp, final (.saved .database stamp) = some (.file [1]) := by
  refine ⟨by rfl, _, _, rfl, ?_⟩
  have hrecovers := applyPendingRestore_recovers exampleServices exampleConfig exampleTree
    examplePending connectsFlushed_exampleServices acceptable_exampleTree (fun _ _ => by rfl)
    exampleFiles rfl exampleNames exampleLaterNames (fun slot => ⟨rfl, rfl⟩)
    (fun slot => ⟨rfl, rfl⟩) (by decide) (by decide) 0 0 20 (exampleCrash 20) rfl
    (Option.isSome_iff_ne_none.mp (by rfl)) exampleMain exampleKey (by rfl) (by rfl) _ _ rfl
  exact ⟨hrecovers.2.1, hrecovers.2.2 .database _ rfl⟩

end Backup

end Hostpin
