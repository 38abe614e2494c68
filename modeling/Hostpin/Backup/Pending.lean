import Hostpin.Backup.Install

/-!
# What a restore leaves of the staged tree

A call that is over has removed the staged tree or has put it into quarantine, except in two cases:
the tree is accepted but its description cannot be read, or the restore was applied and the removal
of the tree failed.  A staged tree that is left keeps another restore from being staged.

* `accepted_of_run`, `prepare_of_run` and `switchOver_of_run` say that a part of a restore that goes
  through had operations that worked.
* `pending_left_iff` says exactly when the staged tree is left.
-/

namespace Hostpin

open Clock

namespace Backup

open Procedure (Asks Safely asks_pure)

variable {services : Services} {config : RestoreConfig} {names : RunNames} {faults : Faults}
  {files : Files} {now : Time} {tree : Tree} {pending : PendingRestore}

/-! ## Operations that worked -/

/-- An operation that works did not fail. -/
lemma ok_of_handle {op : Operation} {value : Value op}
    (h : (handle services faults op files).1 = .ok value) :
    faults op = none ∧ (act services op files).1 = .ok value := by
  cases hfault : faults op with
  | none =>
    simp only [handle, hfault] at h
    exact ⟨rfl, h⟩
  | some failure =>
    simp only [handle, hfault] at h
    cases h

/-- An operation that reads leaves the files as they are. -/
lemma handle_reads (op : Operation) (h : ∀ place, op.touches place = false) :
    (handle services faults op files).2 = files :=
  funext fun place => handle_of_not_touches (h place)

/-- The operations of the checks do not make a staged tree. -/
lemma handle_isCheck_pending {op : Operation} (h : op.isCheck = true)
    (hpending : files .pending = none) :
    (handle services faults op files).2 .pending = none := by
  cases hfault : faults op with
  | some failure =>
    have hsame : files.afterFailure failure.left op = files := by
      cases op <;> simp_all [Operation.isCheck, Files.afterFailure]
    simpa [handle, hfault, hsame] using hpending
  | none =>
    simp only [handle, hfault]
    cases op <;> simp_all [Operation.isCheck, act, Files.pendingTree, Files.pendingEntry?]
    split <;> exact hpending

/-- Reading a file of the staged tree that worked. -/
lemma file?_of_handle {name content : Bytes} (hpending : files .pending = some (.directory tree))
    (h : (handle services faults (.readFile name) files).1 = .ok content) :
    faults (.readFile name) = none ∧ tree.file? name = some content := by
  obtain ⟨hfault, hact⟩ := ok_of_handle h
  refine ⟨hfault, ?_⟩
  simp only [act, Files.pendingEntry?_eq hpending] at hact
  rw [Tree.file?_eq_some_iff]
  split at hact
  · cases hact
  · rename_i heq
    cases hact
    exact heq
  · cases hact

/-- The checks of the staged database that went through. -/
lemma validated_of_run {key : Bytes} (hpending : files .pending = some (.directory tree))
    (h : ((validateRestoredDatabase services).run (handle services faults) files).1 = .ok key) :
    ∃ contents database, tree.file? keyName = some contents ∧
      decodeMasterKey services contents = some key ∧
      services.connect (tree.find? databaseName) (tree.find? walName) = some database ∧
      checkDatabase services key database = .ok () ∧ database.sessions ≠ none ∧
      ∀ op ∈ [.readFile keyName, .openDatabase, .clearSessions], faults op = none := by
  unfold validateRestoredDatabase at h
  simp only [Procedure.run_bind, Procedure.run_perform,
    handle_reads (.readFile keyName) fun _ => rfl] at h
  cases hread : (handle services faults (.readFile keyName) files).1 with
  | error errno => simp [hread] at h
  | ok contents =>
    obtain ⟨hreadWorks, hcontents⟩ := file?_of_handle hpending hread
    simp only [hread] at h
    cases hdecode : decodeMasterKey services contents with
    | none => simp [hdecode] at h
    | some key' =>
      simp only [hdecode, Procedure.run_bind, Procedure.run_perform,
        handle_reads .openDatabase fun _ => rfl] at h
      cases hopen : (handle services faults .openDatabase files).1 with
      | error errno => simp [hopen] at h
      | ok database =>
        obtain ⟨hopenWorks, hconnect⟩ := ok_of_handle hopen
        simp only [act, Files.pendingEntry?_eq hpending] at hconnect
        simp only [hopen] at h
        cases hcheck : checkDatabase services key' database with
        | error cause => simp [hcheck] at h
        | ok _ =>
          simp only [hcheck, Procedure.run_bind, Procedure.run_perform] at h
          cases hclear : (handle services faults .clearSessions files).1 with
          | error errno => simp [hclear] at h
          | ok _ =>
            obtain ⟨hclearWorks, hcleared⟩ := ok_of_handle hclear
            have hdatabase : services.connect (tree.find? databaseName) (tree.find? walName) =
                some database := by
              split at hconnect
              · cases hconnect
              · rename_i heq
                cases hconnect
                exact heq
            have hkey : key' = key := by simpa [hclear] using h
            subst hkey
            refine ⟨contents, database, hcontents, hdecode, hdatabase, hcheck, ?_, by
              simp [hreadWorks, hopenWorks, hclearWorks]⟩
            intro hnone
            simp [act, Files.pendingTree, hpending, hdatabase, hnone] at hcleared

/-- Only a directory is accepted as a staged tree. -/
lemma exists_tree_of_validatePendingTree {root : Node} (h : validatePendingTree root = .ok ()) :
    ∃ tree, root = .directory tree := by
  cases root with
  | directory tree => exact ⟨tree, rfl⟩
  | file content => cases h
  | irregular => cases h

/-- The description of a staged tree that is accepted cannot be read. -/
def Unreadable (faults : Faults) (files : Files) : Prop :=
  ∃ tree, files .pending = some (.directory tree) ∧ faults (.walk .tree) = none ∧
    validatePendingTree (.directory tree) = .ok () ∧
    (faults (.readFile pendingMetadata) ≠ none ∨ tree.file? pendingMetadata = none)

/-- A file of the staged tree that cannot be read. -/
lemma unreadable_of_handle {name : Bytes} {errno : Errno}
    (hpending : files .pending = some (.directory tree))
    (h : (handle services faults (.readFile name) files).1 = .error errno) :
    faults (.readFile name) ≠ none ∨ tree.file? name = none := by
  cases hfault : faults (.readFile name) with
  | some failure => exact Or.inl (by simp)
  | none =>
    refine Or.inr (Option.eq_none_iff_forall_ne_some.mpr fun content hcontent => ?_)
    rw [Tree.file?_eq_some_iff] at hcontent
    simp [handle, act, hfault, Files.pendingEntry?_eq hpending, hcontent] at h

/-- How the checks can end: nothing is staged, or the description cannot be read, or the tree is
refused, or it is acceptable and the operations of the checks worked. -/
lemma outcome_of_run (services : Services) (config : RestoreConfig) (faults : Faults)
    (files : Files) :
    match ((checkPending services config).run (handle services faults) files).1 with
    | .absent => files .pending = none
    | .unreadable _ => Unreadable faults files
    | .refused _ => True
    | .accepted pending => ∃ tree, files .pending = some (.directory tree) ∧
        Acceptable services config tree pending ∧ ∀ op ∈ checkOperations, faults op = none := by
  unfold checkPending
  simp only [Procedure.run_bind, Procedure.run_perform, handle_reads (.walk .tree) fun _ => rfl]
  cases hroot : (handle services faults (.walk .tree) files).1 with
  | error errno =>
    cases errno with
    | other reason => simp
    | notExist =>
      cases hfault : faults (.walk .tree) with
      | some failure => simp [handle, hfault] at hroot
      | none =>
        simp only [handle, hfault, act] at hroot
        split at hroot
        · assumption
        · cases hroot
  | ok root =>
    obtain ⟨hwalk, hnode⟩ := ok_of_handle hroot
    have hpending : files .pending = some root := by
      simp only [act] at hnode
      split at hnode
      · cases hnode
      · rename_i heq
        cases hnode
        exact heq
    cases hpaths : validatePendingTree root with
    | error cause => simp [hpaths]
    | ok _ =>
      obtain ⟨tree, rfl⟩ := exists_tree_of_validatePendingTree hpaths
      simp only [hpaths, Procedure.run_bind, Procedure.run_perform,
        handle_reads (.readFile pendingMetadata) fun _ => rfl]
      cases hread : (handle services faults (.readFile pendingMetadata) files).1 with
      | error errno =>
        exact ⟨tree, hpending, hwalk, hpaths, unreadable_of_handle hpending hread⟩
      | ok metadata =>
        obtain ⟨hreadWorks, hmetadata⟩ := file?_of_handle hpending hread
        cases hdescription : checkMetadata services config metadata with
        | error cause => simp [hdescription]
        | ok pending =>
          simp only [hdescription, Procedure.run_bind, Procedure.run_perform,
            handle_reads (.walk .checksums) fun _ => rfl]
          cases hroot' : (handle services faults (.walk .checksums) files).1 with
          | error errno => simp
          | ok root' =>
            obtain ⟨hwalk', hnode'⟩ := ok_of_handle hroot'
            have hsame : root' = .directory tree := by
              simpa [act, hpending] using hnode'.symm
            subst hsame
            cases hchecksums : verifyPendingChecksums services.primitives (.directory tree)
                pending.manifest with
            | error cause => simp [hchecksums]
            | ok _ =>
              simp only [hchecksums, Procedure.run_bind]
              cases hvalid : ((validateRestoredDatabase services).run (handle services faults)
                  files).1 with
              | error cause => simp
              | ok key =>
                obtain ⟨contents, database, hcontents, hkey, hconnect, hcheck, hsessions, hworks⟩ :=
                  validated_of_run hpending hvalid
                by_cases hconfigured : configuredKeyMatches services config key = true
                · simp only [hconfigured, if_true, Procedure.run_pure]
                  refine ⟨tree, hpending, ⟨hpaths, ⟨metadata, hmetadata, hdescription⟩, hchecksums,
                    contents, key, database, hcontents, hkey, hconnect, hcheck, hsessions,
                    hconfigured⟩, ?_⟩
                  simpa [checkOperations, hwalk, hreadWorks, hwalk'] using hworks
                · simp [hconfigured]

/-- Copies of entries that went through. -/
lemma copyEntries_of_run {to_ : Place} {paths : List Bytes}
    (h : ((copyEntries to_ paths).run (handle services faults) files).1 = .ok ()) :
    ∀ relative ∈ paths, faults (.copyInto relative to_) = none := by
  induction paths generalizing files with
  | nil => simp
  | cons relative rest ih =>
    simp only [copyEntries, Procedure.run_bind, Procedure.run_perform] at h
    cases hcopy : (handle services faults (.copyInto relative to_) files).1 with
    | error errno => simp [hcopy] at h
    | ok _ =>
      rw [hcopy] at h
      exact List.forall_mem_cons.mpr ⟨(ok_of_handle hcopy).1, ih h⟩

/-- A walk over the themes finds their entries. -/
lemma walkThemes_ok {paths : List Bytes} (h : walkThemes (.directory tree) = .ok paths) :
    paths = (themeRows tree).map Prod.fst := by
  cases hfind : tree.find? themesName with
  | none =>
    rw [walkThemes_eq (Or.inl hfind)] at h
    exact (Except.ok.inj h).symm
  | some entry =>
    cases entry with
    | directory =>
      rw [walkThemes_eq (Or.inr hfind)] at h
      exact (Except.ok.inj h).symm
    | regular content => simp [walkThemes, hfind] at h
    | irregular => simp [walkThemes, hfind] at h

/-- Copies that went through. -/
lemma prepare_of_run {identifier : String} (hpending : files .pending = some (.directory tree))
    (h : ((prepare identifier).run (handle services faults) files).1 = .ok ()) :
    ∀ op ∈ copyOperations identifier tree, faults op = none := by
  have hkeep : ∀ (op : Operation) (t : Files), CopiesOnly identifier op →
      t .pending = some (.directory tree) →
      (handle services faults op t).2 .pending = some (.directory tree) :=
    fun op t hop ht => (handle_of_not_touches (hop .pending (by simp))).trans ht
  simp only [prepare, Procedure.run_bind, Procedure.run_perform] at h
  cases hdatabase : (handle services faults
      (.copyRegularFile databaseName (.prepared .database identifier)) files).1 with
  | error errno => simp [hdatabase] at h
  | ok _ =>
    simp only [hdatabase, Procedure.run_bind, Procedure.run_perform] at h
    have hpending₁ := hkeep (.copyRegularFile databaseName (.prepared .database identifier)) files
      (fun place hplace => by simpa [Operation.touches] using hplace _) hpending
    generalize (handle services faults
      (.copyRegularFile databaseName (.prepared .database identifier)) files).2 = files₁
      at h hpending₁
    cases hkey : (handle services faults
        (.copyRegularFile keyName (.prepared .masterKey identifier)) files₁).1 with
    | error errno => simp [hkey] at h
    | ok _ =>
      simp only [hkey, copyRegularTree, Procedure.run_bind, Procedure.run_perform] at h
      have hpending₂ := hkeep (.copyRegularFile keyName (.prepared .masterKey identifier)) files₁
        (fun place hplace => by simpa [Operation.touches] using hplace _) hpending₁
      generalize (handle services faults
        (.copyRegularFile keyName (.prepared .masterKey identifier)) files₁).2 = files₂
        at h hpending₂
      cases hmake : (handle services faults (.makeDirectory (.prepared .themes identifier))
          files₂).1 with
      | error errno => simp [hmake] at h
      | ok _ =>
        simp only [hmake, Procedure.run_bind, Procedure.run_perform,
          handle_reads (.walk .themes) fun _ => rfl] at h
        have hpending₃ := hkeep (.makeDirectory (.prepared .themes identifier)) files₂
          (fun place hplace => by simpa [Operation.touches] using hplace _) hpending₂
        generalize (handle services faults (.makeDirectory (.prepared .themes identifier))
          files₂).2 = files₃ at h hpending₃
        cases hwalk : faults (.walk .themes) with
        | some failure => simp [handle, hwalk] at h
        | none =>
          rw [handle_walk hwalk hpending₃] at h
          cases hpaths : walkThemes (.directory tree) with
          | error errno => simp [hpaths] at h
          | ok paths =>
            simp only [hpaths] at h
            have hcopies : ∀ relative ∈ paths,
                faults (.copyInto relative (.prepared .themes identifier)) = none := by
              cases hcopy : ((copyEntries (.prepared .themes identifier) paths).run
                  (handle services faults) files₃).1 with
              | error errno => simp [hcopy] at h
              | ok _ => exact copyEntries_of_run hcopy
            rw [walkThemes_ok hpaths, List.forall_mem_map] at hcopies
            simp only [copyOperations, List.cons_append, List.nil_append, List.forall_mem_cons,
              List.forall_mem_map]
            exact ⟨(ok_of_handle hdatabase).1, (ok_of_handle hkey).1, (ok_of_handle hmake).1, hwalk,
              hcopies⟩

/-- A switch that went through. -/
lemma switchOver_of_run {steps : List SwitchStep} {moved activated slots : List Slot}
    (h : ((switchOver names steps moved activated).run (handle services faults) files).1 =
      .ok slots) : ∀ slot, .save slot ∈ steps → faults (.lstat (.live slot)) = none := by
  induction steps generalizing moved activated files with
  | nil => simp
  | cons step rest ih =>
    cases step with
    | activate slot =>
      simp only [switchOver, Procedure.run_bind, Procedure.run_perform] at h
      have hrest : ∀ s, .save s ∈ rest → faults (.lstat (.live s)) = none := by
        cases hrename : (handle services faults
            (.rename (.prepared slot names.identifier) (.live slot)) files).1 with
        | error errno => simp [hrename] at h
        | ok _ =>
          rw [hrename] at h
          exact ih h
      simpa using hrest
    | save slot =>
      simp only [switchOver, Procedure.run_bind] at h
      have hlstat : faults (.lstat (.live slot)) = none := by
        cases hfault : faults (.lstat (.live slot)) with
        | none => rfl
        | some failure =>
          simp [moveExisting, Procedure.run_bind, handle, hfault] at h
      have hrest : ∀ s, .save s ∈ rest → faults (.lstat (.live s)) = none := by
        cases hmove : ((moveExisting (.live slot) (.saved slot names.stamp)).run
            (handle services faults) files).1 with
        | error errno => simp [hmove] at h
        | ok there =>
          rw [hmove] at h
          cases there with
          | true => exact ih h
          | false => exact ih h
      intro s hs
      rcases List.mem_cons.mp hs with heq | hs
      · cases heq
        exact hlstat
      · exact hrest s hs

/-! ## The staged tree -/

/-- A quarantine that works leaves no staged tree. -/
lemma run_refuse_pending (hrename : faults (.rename .pending (.failed names.quarantine)) = none)
    (hfree : files (.failed names.quarantine) = none) (cause : Cause) :
    ((refuse names cause).run (handle services faults) files).2 .pending = none := by
  have hstate : ((refuse names cause).run (handle services faults) files).2 =
      (handle services faults (.rename .pending (.failed names.quarantine)) files).2 := by
    simp only [refuse, quarantineRestore, Procedure.run_bind, Procedure.run_perform,
      Procedure.run_pure]
    split <;> rfl
  rw [hstate]
  cases hpending : files .pending with
  | none => simp [handle, act, hrename, hpending]
  | some node =>
    rw [handle_rename_of_none services hrename hpending hfree]
    show (files.set .pending none).set (.failed names.quarantine) (some node) .pending = none
    rw [Files.set_of_ne (by simp), Files.set_self]

/-- An operation that changes live paths, copies and rollback names at most. -/
def SwitchesOnly (op : Operation) : Prop :=
  ∀ identifier, op.touches (.failed identifier) = false

/-- The way back makes no quarantine. -/
lemma asks_rollback (names : RunNames) (failure : SwitchFailure) :
    Asks SwitchesOnly (rollback names failure) := by
  have hremove : ∀ slots, Asks SwitchesOnly (removeActivated slots) := by
    intro slots
    induction slots with
    | nil => exact asks_pure _
    | cons slot rest ih =>
      refine Asks.perform (fun _ => rfl) fun answer => ?_
      split
      · exact Asks.bind ih fun _ => asks_pure _
      · exact ih
  have hrename : ∀ slots, Asks SwitchesOnly (restoreMoved names.stamp slots) := by
    intro slots
    induction slots with
    | nil => exact asks_pure _
    | cons slot rest ih =>
      refine Asks.perform (fun _ => rfl) fun answer => ?_
      split
      · exact Asks.bind ih fun _ => asks_pure _
      · exact ih
  refine Asks.bind (hremove _) fun _ => Asks.bind (hrename _) fun _ => ?_
  split <;> exact asks_pure _

/-- The switch makes no quarantine. -/
lemma asks_switchOver (names : RunNames) (steps : List SwitchStep) (moved activated : List Slot) :
    Asks SwitchesOnly (switchOver names steps moved activated) := by
  induction steps generalizing moved activated with
  | nil => exact asks_pure _
  | cons step rest ih =>
    cases step with
    | activate slot =>
      refine Asks.perform (fun _ => rfl) fun answer => ?_
      split
      · exact asks_pure _
      · exact ih _ _
    | save slot =>
      refine Asks.bind ?_ fun answer => ?_
      · refine Asks.perform (fun _ => rfl) fun answer => ?_
        split
        · exact asks_pure _
        · exact asks_pure _
        · refine Asks.perform (fun _ => rfl) fun answer => ?_
          split <;> exact asks_pure _
      · split
        · exact asks_pure _
        · exact ih _ _
        · exact ih _ _

/-- The staged tree is acceptable, and the operations that a restore needs work. -/
def Applicable (services : Services) (config : RestoreConfig) (names : RunNames) (faults : Faults)
    (files : Files) : Prop :=
  ∃ tree pending, files .pending = some (.directory tree) ∧
    Acceptable services config tree pending ∧ RestoreWorks names tree faults

/-- An installation that does not go through leaves no staged tree. -/
lemma install_pending (hrenames : ∀ current to_, faults (.rename current to_) = none)
    (hfree : files (.failed names.quarantine) = none)
    (hpending : files .pending = some (.directory tree))
    (hfails : ¬ ((∀ op ∈ copyOperations names.identifier tree, faults op = none) ∧
      ∀ slot, faults (.lstat (.live slot)) = none)) (pending : PendingRestore) :
    ((install names now pending).run (handle services faults) files).2 .pending = none := by
  have hprepared : ((prepare names.identifier).run (handle services faults) files).2
      (.failed names.quarantine) = none :=
    (run_of_asks (asks_prepare names.identifier) (fun _ hop => hop _ (by simp)) services faults
      files).trans hfree
  unfold install
  rw [Procedure.run_bind]
  cases hprepare : ((prepare names.identifier).run (handle services faults) files).1 with
  | error cause => exact run_refuse_pending (hrenames _ _) hprepared cause
  | ok _ =>
    set copied := ((prepare names.identifier).run (handle services faults) files).2
    simp only [Procedure.run_bind]
    have hswitched : ((switchOver names switchSteps [] []).run (handle services faults) copied).2
        (.failed names.quarantine) = none :=
      (run_of_asks (asks_switchOver names switchSteps [] []) (fun _ hop => hop _) services faults
        copied).trans hprepared
    cases hswitch : ((switchOver names switchSteps [] []).run (handle services faults) copied).1
      with
    | error failure =>
      simp only [Procedure.run_bind]
      refine run_refuse_pending (hrenames _ _) ?_ _
      exact (run_of_asks (asks_rollback names failure) (fun _ hop => hop _) services faults
        _).trans hswitched
    | ok slots =>
      refine absurd ⟨prepare_of_run hpending hprepare, fun slot => ?_⟩ hfails
      refine switchOver_of_run hswitch slot ?_
      cases slot <;> simp [switchSteps]

/-- A restore that is not applied leaves the staged tree only if its description cannot be read. -/
lemma pending_of_not_applicable (hrenames : ∀ current to_, faults (.rename current to_) = none)
    (hfree : files (.failed names.quarantine) = none)
    (hunreadable : ¬ Unreadable faults files)
    (happlicable : ¬ Applicable services config names faults files) (now : Time) :
    ((applyPendingRestore services config names now).run (handle services faults) files).2
      .pending = none := by
  have hfree' : ((checkPending services config).run (handle services faults) files).2
      (.failed names.quarantine) = none :=
    (run_of_asks (asks_checkPending services config)
      (fun _ hop => touches_of_isCheck hop (by simp)) services faults files).trans hfree
  have houtcome := outcome_of_run services config faults files
  have hself : files .pending = none →
      ((checkPending services config).run (handle services faults) files).2 .pending = none := by
    intro hnone
    have hsafe : Safely (handle services faults) (fun t => t .pending = none) _
        (checkPending services config) files :=
      (asks_checkPending services config).safely
        (fun op t hop ht => handle_isCheck_pending hop ht) hnone
    exact hsafe.run
  unfold applyPendingRestore
  rw [Procedure.run_bind]
  cases hchecks : ((checkPending services config).run (handle services faults) files).1 with
  | absent =>
    rw [hchecks] at houtcome
    exact hself houtcome
  | unreadable errno =>
    rw [hchecks] at houtcome
    exact absurd houtcome hunreadable
  | refused cause => exact run_refuse_pending (hrenames _ _) hfree' cause
  | accepted pending =>
    rw [hchecks] at houtcome
    obtain ⟨tree, hpending, hacceptable, hcheckWorks⟩ := houtcome
    -- the staged tree after the checks has the same themes
    have hchecked := (safely_checkPending files (I := fun _ => True) hacceptable hcheckWorks trivial
      fun _ _ => trivial).run
    rw [Files.withPending_eq_self hpending] at hchecked
    obtain ⟨-, wal, shm, hstate⟩ := hchecked
    set checked := ((checkPending services config).run (handle services faults) files).2
      with hdef
    have hpending' : checked .pending =
        some (.directory ((cleared services tree).trim wal shm)) := by
      rw [hstate, Files.withPending_pending]
    simp only [Procedure.run_bind, Procedure.run_perform,
      handle_reads (.absolute false) fun _ => rfl]
    cases hdatabase : (handle services faults (.absolute false) checked).1 with
    | error errno => exact run_refuse_pending (hrenames _ _) hfree' _
    | ok _ =>
      simp only [Procedure.run_bind, Procedure.run_perform,
        handle_reads (.absolute true) fun _ => rfl]
      cases hdata : (handle services faults (.absolute true) checked).1 with
      | error errno => exact run_refuse_pending (hrenames _ _) hfree' _
      | ok _ =>
        simp only [Procedure.run_bind, Procedure.run_pure]
        rw [run_of_asks (asks_removePrepared names.identifier) (fun _ hop => hop _ (by simp))]
        refine install_pending hrenames hfree' hpending' ?_ pending
        rintro ⟨hcopies, hlstat⟩
        refine happlicable ⟨tree, pending, hpending, hacceptable, hcheckWorks, ?_, ?_, ?_⟩
        · intro dataDir
          cases dataDir
          · exact (ok_of_handle hdatabase).1
          · exact (ok_of_handle hdata).1
        · have hrows : themeRows ((cleared services tree).trim wal shm) = themeRows tree :=
            congrArg KeyedTable.rows (themes_checked services tree wal shm)
          rwa [copyOperations, hrows] at hcopies
        · exact fun slot => ⟨hlstat slot, hrenames _ _, hrenames _ _⟩

/-- When the description cannot be read the files stay as they are. -/
lemma run_of_unreadable (services : Services) (config : RestoreConfig) (names : RunNames)
    (now : Time) (h : Unreadable faults files) :
    ((applyPendingRestore services config names now).run (handle services faults) files).2 =
      files := by
  obtain ⟨tree, hpending, hwalk, hpaths, hmissing⟩ := h
  have hread : ∃ errno, (handle services faults (.readFile pendingMetadata) files).1 =
      .error errno := by
    cases hanswer : (handle services faults (.readFile pendingMetadata) files).1 with
    | error errno => exact ⟨errno, rfl⟩
    | ok metadata =>
      obtain ⟨hworks, hmetadata⟩ := file?_of_handle hpending hanswer
      rcases hmissing with hfault | hnone
      · exact absurd hworks hfault
      · rw [hnone] at hmetadata
        cases hmetadata
  obtain ⟨errno, hread⟩ := hread
  simp only [applyPendingRestore, checkPending, Procedure.run_bind, Procedure.run_perform,
    handle_walk hwalk hpending, hpaths, hread,
    handle_reads (.readFile pendingMetadata) fun _ => rfl, Procedure.run_pure]

/-- When renames work, a call that is over leaves the staged tree exactly in two cases: the tree is
accepted but its description cannot be read, so that the tree is not put into quarantine, or the
restore was applied and the removal of the tree leaves something of it. -/
theorem pending_left_iff (services : Services) (config : RestoreConfig) (names : RunNames)
    (now : Time) (faults : Faults) (hrenames : ∀ current to_, faults (.rename current to_) = none)
    (files : Files) (hfresh : names.Fresh files)
    (hfree : files (.failed names.quarantine) = none) :
    ((applyPendingRestore services config names now).run (handle services faults) files).2
        .pending ≠ none ↔
      Unreadable faults files ∨
        Applicable services config names faults files ∧ removalLeaves faults ≠ none := by
  constructor
  · intro hleft
    by_cases hunreadable : Unreadable faults files
    · exact Or.inl hunreadable
    by_cases happlicable : Applicable services config names faults files
    · refine Or.inr ⟨happlicable, ?_⟩
      obtain ⟨tree, pending, hpending, hacceptable, hworks⟩ := happlicable
      obtain ⟨key, hkey⟩ := hacceptable.exists_key
      have happlied :=
        (safely_applyPendingRestore now hacceptable hpending hkey hworks hfresh).run
      rwa [happlied.removed] at hleft
    · exact absurd (pending_of_not_applicable hrenames hfree hunreadable happlicable now) hleft
  · rintro (hunreadable | ⟨⟨tree, pending, hpending, hacceptable, hworks⟩, hleaves⟩)
    · rw [run_of_unreadable services config names now hunreadable]
      obtain ⟨tree, hpending, -⟩ := hunreadable
      simp [hpending]
    · obtain ⟨key, hkey⟩ := hacceptable.exists_key
      have happlied :=
        (safely_applyPendingRestore now hacceptable hpending hkey hworks hfresh).run
      rwa [happlied.removed]

/-! ## An example -/

/-- What a removal that was interrupted may leave of a staged tree: the directory of the themes. -/
def leftoverTree : Tree where
  rows := [(themesName, .directory)]
  keys_nodup := List.nodup_singleton _

/-- Files with what is left of a staged tree. -/
def leftoverFiles : Files
  | .pending => some (.directory leftoverTree)
  | _ => none

/-- A staged tree without its description is left although every operation works. -/
theorem pending_left_without_description :
    exampleNames.Fresh leftoverFiles ∧ leftoverFiles (.failed exampleNames.quarantine) = none ∧
      ((applyPendingRestore exampleServices exampleConfig exampleNames 0).run
        (handle exampleServices noFaults) leftoverFiles).2 .pending ≠ none :=
  ⟨fun _ => ⟨rfl, rfl⟩, rfl, Option.isSome_iff_ne_none.mp (by rfl)⟩

/-- The staged tree of the example is not left. -/
theorem pending_left_iff_exampleFiles :
    ((applyPendingRestore exampleServices exampleConfig exampleNames 0).run
      (handle exampleServices noFaults) exampleFiles).2 .pending = none := by
  by_contra hleft
  rcases (pending_left_iff exampleServices exampleConfig exampleNames 0 noFaults
    (fun _ _ => rfl) exampleFiles (fun _ => ⟨rfl, rfl⟩) rfl).mp hleft with
    ⟨tree, hpending, -, -, hmissing⟩ | ⟨-, hleaves⟩
  · have htree : exampleTree = tree := Node.directory.inj (Option.some.inj hpending)
    subst htree
    rcases hmissing with hfault | hnone
    · exact hfault rfl
    · have hsome : exampleTree.file? pendingMetadata = some exampleMetadata := by rfl
      rw [hsome] at hnone
      cases hnone
  · exact hleaves rfl

end Backup

end Hostpin
