import Hostpin.Backup.Restore

/-!
# A restore that fails changes nothing

Whatever operations fail on the way, a restore that gives no receipt leaves the live paths as they
were, as long as the way back works.

* `Undoable` is what holds between the steps of the switch: where the way back finds what stood at
  each live path.  `switchOver_undoable` says that the steps keep it, and `rollback_restores` that
  the way back then gives the live paths back.
* The checks change the staged tree, the copies stand beside the live paths, and a quarantine is
  elsewhere (`asks_checkPending`, `asks_prepare`, `asks_refuse`); `run_of_asks` says that the other
  places keep what stands there.
* `applyPendingRestore_undone` puts the parts together.
-/

namespace Hostpin

open Clock

namespace Backup

open Procedure (Safely Asks asks_pure)

variable {services : Services} {config : RestoreConfig} {names : RunNames} {faults : Faults}
  {files : Files} {now : Time}

/-! ## Operations -/

/-- Renaming moves a node, or fails and changes nothing. -/
lemma handle_rename (services : Services) (faults : Faults) (files : Files)
    (current to_ : Place) :
    (∃ errno, handle services faults (.rename current to_) files = (.error errno, files)) ∨
      ∃ node, files current = some node ∧ handle services faults (.rename current to_) files =
        (.ok (), (files.set current none).set to_ (some node)) := by
  cases hfault : faults (.rename current to_) with
  | some failure => exact Or.inl ⟨_, by simp only [handle, hfault, Files.afterFailure]; rfl⟩
  | none =>
    simp only [handle, hfault, act]
    cases hnode : files current with
    | none => exact Or.inl ⟨_, rfl⟩
    | some node =>
      by_cases hreplace : node.mayReplace (files to_) = true
      · exact Or.inr ⟨node, rfl, if_pos hreplace⟩
      · exact Or.inl ⟨_, if_neg hreplace⟩

/-- A rename that works, to a place where nothing is. -/
lemma handle_rename_of_none (services : Services) {current to_ : Place} {node : Node}
    (hfault : faults (.rename current to_) = none) (hcurrent : files current = some node)
    (hto : files to_ = none) :
    handle services faults (.rename current to_) files =
      (.ok (), (files.set current none).set to_ (some node)) := by
  simp [handle, act, hfault, hcurrent, hto, Node.mayReplace]

/-- Looking at a path changes nothing, and finds it missing only if it is. -/
lemma handle_lstat (services : Services) (faults : Faults) (files : Files) (place : Place) :
    (files place = none ∧ handle services faults (.lstat place) files = (.error .notExist, files)) ∨
      (∃ reason, handle services faults (.lstat place) files = (.error (.other reason), files)) ∨
        ∃ node, files place = some node ∧ handle services faults (.lstat place) files =
          (.ok (), files) := by
  cases hfault : faults (.lstat place) with
  | some failure =>
    exact Or.inr (Or.inl ⟨_, by simp only [handle, hfault, Files.afterFailure]; rfl⟩)
  | none =>
    simp only [handle, hfault, act]
    cases hnode : files place with
    | none => exact Or.inl ⟨rfl, rfl⟩
    | some node => exact Or.inr (Or.inr ⟨node, rfl, rfl⟩)

/-- Moving a path aside: it fails and changes nothing, or nothing is there, or it is moved. -/
lemma safely_moveExisting {I : Files → Prop} {Q : Except Errno Bool → Files → Prop}
    {current saved : Place} (hI : I files) (hfail : ∀ errno, Q (.error errno) files)
    (habsent : files current = none → Q (.ok false) files)
    (hmoved : ∀ node, files current = some node →
      I ((files.set current none).set saved (some node)) ∧
        Q (.ok true) ((files.set current none).set saved (some node))) :
    Safely (handle services faults) I Q (moveExisting current saved) files := by
  refine Safely.perform hI ?_
  rcases handle_lstat services faults files current with ⟨hnone, h⟩ | ⟨reason, h⟩ | ⟨node, -, h⟩
  · rw [h]
    exact Safely.pure hI (habsent hnone)
  · rw [h]
    exact Safely.pure hI (hfail _)
  · rw [h]
    refine Safely.perform hI ?_
    rcases handle_rename services faults files current saved with
      ⟨errno, h⟩ | ⟨node, hnode, h⟩
    · rw [h]
      exact Safely.pure hI (hfail _)
    · rw [h]
      exact Safely.pure (hmoved node hnode).1 (hmoved node hnode).2

/-! ## The switch -/

/-- The slots that the steps of a switch move aside, after those in `cleared`, and the slots that
they activate are in order: a slot is moved aside once, and activated once after that. -/
def Orderly : List SwitchStep → (cleared activated : List Slot) → Prop
  | [], _, _ => True
  | .save slot :: rest, cleared, activated =>
    slot ∉ cleared ∧ Orderly rest (slot :: cleared) activated
  | .activate slot :: rest, cleared, activated =>
    slot ∈ cleared ∧ slot ∉ activated ∧ Orderly rest cleared (activated ++ [slot])

/-- The steps of a restore are in order. -/
lemma orderly_switchSteps : Orderly switchSteps [] [] := by
  simp [switchSteps, Orderly]

/-- Where the way back finds what stood at the live paths: at the live path while the slot was not
dealt with, at the rollback name when it was moved, and nowhere when nothing was there. -/
structure Undoable (names : RunNames) (original : Slot → Option Node)
    (cleared moved activated : List Slot) (files : Files) : Prop where
  untouched : ∀ slot, slot ∉ cleared → files (.live slot) = original slot
  vacated : ∀ slot ∈ cleared, slot ∉ activated → files (.live slot) = none
  kept : ∀ slot ∈ moved, files (.saved slot names.stamp) = original slot ∧ original slot ≠ none
  missing : ∀ slot ∈ cleared, slot ∉ moved → original slot = none
  moved_cleared : ∀ slot ∈ moved, slot ∈ cleared
  activated_cleared : ∀ slot ∈ activated, slot ∈ cleared
  moved_nodup : moved.Nodup

namespace Undoable

variable {original : Slot → Option Node} {cleared moved activated : List Slot}

/-- Nothing has to be undone before the first step. -/
lemma start (names : RunNames) (files : Files) :
    Undoable names (fun slot => files (.live slot)) [] [] [] files where
  untouched := fun _ _ => rfl
  vacated := by simp
  kept := by simp
  missing := by simp
  moved_cleared := by simp
  activated_cleared := by simp
  moved_nodup := List.nodup_nil

/-- A slot where nothing is. -/
lemma skip (h : Undoable names original cleared moved activated files) {slot : Slot}
    (hslot : slot ∉ cleared) (hnone : files (.live slot) = none) :
    Undoable names original (slot :: cleared) moved activated files where
  untouched := fun s hs => h.untouched s fun hmem => hs (List.mem_cons_of_mem _ hmem)
  vacated := by
    intro s hs hact
    rcases List.mem_cons.mp hs with rfl | hs
    · exact hnone
    · exact h.vacated s hs hact
  kept := h.kept
  missing := by
    intro s hs hmov
    rcases List.mem_cons.mp hs with rfl | hs
    · rw [← h.untouched s hslot]
      exact hnone
    · exact h.missing s hs hmov
  moved_cleared := fun s hs => List.mem_cons_of_mem _ (h.moved_cleared s hs)
  activated_cleared := fun s hs => List.mem_cons_of_mem _ (h.activated_cleared s hs)
  moved_nodup := h.moved_nodup

/-- A slot that is moved aside. -/
lemma save (h : Undoable names original cleared moved activated files) {slot : Slot}
    (hslot : slot ∉ cleared) {node : Node} (hnode : files (.live slot) = some node) :
    Undoable names original (slot :: cleared) (moved ++ [slot]) activated
      ((files.set (.live slot) none).set (.saved slot names.stamp) (some node)) where
  untouched := by
    intro s hs
    rw [List.mem_cons, not_or] at hs
    rw [Files.set_of_ne (by simp), Files.set_of_ne (by simpa using hs.1)]
    exact h.untouched s hs.2
  vacated := by
    intro s hs hact
    rw [Files.set_of_ne (by simp)]
    by_cases heq : s = slot
    · rw [heq, Files.set_self]
    · rw [Files.set_of_ne (by simpa using heq)]
      exact h.vacated s ((List.mem_cons.mp hs).resolve_left heq) hact
  kept := by
    intro s hs
    by_cases heq : s = slot
    · subst heq
      rw [Files.set_self, ← h.untouched s hslot, hnode]
      exact ⟨rfl, by simp⟩
    · have hmem : s ∈ moved := by
        rcases List.mem_append.mp hs with hs | hs
        · exact hs
        · exact absurd (List.mem_singleton.mp hs) heq
      rw [Files.set_of_ne (by simpa using heq), Files.set_of_ne (by simp)]
      exact h.kept s hmem
  missing := by
    intro s hs hmov
    rw [List.mem_append, List.mem_singleton, not_or] at hmov
    exact h.missing s ((List.mem_cons.mp hs).resolve_left hmov.2) hmov.1
  moved_cleared := by
    intro s hs
    rcases List.mem_append.mp hs with hs | hs
    · exact List.mem_cons_of_mem _ (h.moved_cleared s hs)
    · exact List.mem_cons.mpr (Or.inl (List.mem_singleton.mp hs))
  activated_cleared := fun s hs => List.mem_cons_of_mem _ (h.activated_cleared s hs)
  moved_nodup := by
    refine List.nodup_append.mpr ⟨h.moved_nodup, List.nodup_singleton _, ?_⟩
    rintro a ha b hb rfl
    rw [List.mem_singleton] at hb
    exact hslot (hb ▸ h.moved_cleared a ha)

/-- A copy that is moved to its live path. -/
lemma activate (h : Undoable names original cleared moved activated files) {slot : Slot}
    (hslot : slot ∈ cleared) {node : Node} :
    Undoable names original cleared moved (activated ++ [slot])
      ((files.set (.prepared slot names.identifier) none).set (.live slot) (some node)) where
  untouched := by
    intro s hs
    have hne : s ≠ slot := fun heq => hs (heq ▸ hslot)
    rw [Files.set_of_ne (by simpa using hne), Files.set_of_ne (by simp)]
    exact h.untouched s hs
  vacated := by
    intro s hs hact
    rw [List.mem_append, List.mem_singleton, not_or] at hact
    rw [Files.set_of_ne (by simpa using hact.2), Files.set_of_ne (by simp)]
    exact h.vacated s hs hact.1
  kept := by
    intro s hs
    rw [Files.set_of_ne (by simp), Files.set_of_ne (by simp)]
    exact h.kept s hs
  missing := h.missing
  moved_cleared := h.moved_cleared
  activated_cleared := by
    intro s hs
    rcases List.mem_append.mp hs with hs | hs
    · exact h.activated_cleared s hs
    · rwa [List.mem_singleton.mp hs]
  moved_nodup := h.moved_nodup

end Undoable

/-- A switch that fails can be undone. -/
lemma switchOver_undoable (services : Services) (faults : Faults)
    {original : Slot → Option Node} {steps : List SwitchStep}
    {cleared moved activated : List Slot} (horder : Orderly steps cleared activated)
    (h : Undoable names original cleared moved activated files) :
    Safely (handle services faults) (fun _ => True)
      (fun result t => ∀ failure, result = .error failure →
        ∃ cleared, Undoable names original cleared failure.moved failure.activated t)
      (switchOver names steps moved activated) files := by
  induction steps generalizing cleared moved activated files with
  | nil => exact Safely.pure trivial (by simp)
  | cons step rest ih =>
    cases step with
    | save slot =>
      refine Safely.bind (safely_moveExisting trivial ?_ ?_ ?_)
      · rintro errno
        refine Safely.pure trivial ?_
        rintro failure hfailure
        cases hfailure
        exact ⟨cleared, h⟩
      · intro hnone
        exact ih horder.2 (h.skip horder.1 hnone)
      · intro node hnode
        exact ⟨trivial, ih horder.2 (h.save horder.1 hnode)⟩
    | activate slot =>
      refine Safely.perform trivial ?_
      rcases handle_rename services faults files (.prepared slot names.identifier) (.live slot)
        with ⟨errno, hr⟩ | ⟨node, -, hr⟩
      · rw [hr]
        refine Safely.pure trivial ?_
        rintro failure hfailure
        cases hfailure
        exact ⟨cleared, h⟩
      · rw [hr]
        exact ih horder.2.2 (h.activate horder.1)

/-! ## The way back -/

/-- The way back works: what was activated can be removed, and what was moved can be moved back. -/
def RollbackWorks (names : RunNames) (faults : Faults) : Prop :=
  ∀ slot, faults (.removeAll (.live slot)) = none ∧
    faults (.rename (.saved slot names.stamp) (.live slot)) = none

/-- Removing live paths that can be removed. -/
lemma run_removeActivated (services : Services) (hworks : RollbackWorks names faults)
    (slots : List Slot) (files : Files) :
    ((removeActivated slots).run (handle services faults) files).1 = [] ∧
      ∀ place, ((removeActivated slots).run (handle services faults) files).2 place =
        if ∃ slot ∈ slots, place = .live slot then none else files place := by
  induction slots generalizing files with
  | nil => simp [removeActivated]
  | cons slot rest ih =>
    have hstep : handle services faults (.removeAll (.live slot)) files =
        (.ok (), files.set (.live slot) none) := by
      simp [handle, act, (hworks slot).1]
    simp only [removeActivated, Procedure.run_bind, Procedure.run_perform, hstep]
    refine ⟨(ih _).1, fun place => ?_⟩
    rw [(ih _).2 place]
    by_cases hplace : place = .live slot
    · simp [hplace]
    · rw [Files.set_of_ne hplace]
      simp [hplace]

/-- Moving paths back to live paths where nothing is. -/
lemma run_restoreMoved (services : Services) (hworks : RollbackWorks names faults)
    {slots : List Slot} (hnodup : slots.Nodup) (files : Files)
    (hsaved : ∀ slot ∈ slots, files (.saved slot names.stamp) ≠ none)
    (hlive : ∀ slot ∈ slots, files (.live slot) = none) :
    ((restoreMoved names.stamp slots).run (handle services faults) files).1 = [] ∧
      ∀ slot, ((restoreMoved names.stamp slots).run (handle services faults) files).2 (.live slot) =
        if slot ∈ slots then files (.saved slot names.stamp) else files (.live slot) := by
  induction slots generalizing files with
  | nil => simp [restoreMoved]
  | cons slot rest ih =>
    obtain ⟨hnotMem, hnodup⟩ := List.nodup_cons.mp hnodup
    obtain ⟨node, hnode⟩ := Option.ne_none_iff_exists'.mp (hsaved slot List.mem_cons_self)
    have hstep := handle_rename_of_none services (hworks slot).2 hnode
      (hlive slot List.mem_cons_self)
    simp only [restoreMoved, Procedure.run_bind, Procedure.run_perform, hstep]
    have hne : ∀ s ∈ rest, s ≠ slot := fun s hs heq => hnotMem (heq ▸ hs)
    have hrest := ih hnodup
      ((files.set (.saved slot names.stamp) none).set (.live slot) (some node))
      (fun s hs => by
        rw [Files.set_of_ne (by simp), Files.set_of_ne (by simpa using hne s hs)]
        exact hsaved s (List.mem_cons_of_mem _ hs))
      (fun s hs => by
        rw [Files.set_of_ne (by simpa using hne s hs), Files.set_of_ne (by simp)]
        exact hlive s (List.mem_cons_of_mem _ hs))
    refine ⟨hrest.1, fun s => ?_⟩
    rw [hrest.2 s]
    by_cases heq : s = slot
    · subst heq
      simp [hnotMem, hnode]
    · have hsame : s ∈ slot :: rest ↔ s ∈ rest := by simp [heq]
      rw [Files.set_of_ne (by simp), Files.set_of_ne (by simpa using heq),
        Files.set_of_ne (by simpa using heq), Files.set_of_ne (by simp)]
      simp only [hsame]

/-- The way back gives the live paths back. -/
lemma rollback_restores (hworks : RollbackWorks names faults) {original : Slot → Option Node}
    {cleared : List Slot} {failure : SwitchFailure}
    (h : Undoable names original cleared failure.moved failure.activated files) :
    ((rollback names failure).run (handle services faults) files).1 = failure.cause ∧
      ∀ slot, ((rollback names failure).run (handle services faults) files).2 (.live slot) =
        original slot := by
  obtain ⟨hnone, hremoved⟩ := run_removeActivated services hworks
    failure.activated.reverse files
  set removed := ((removeActivated failure.activated.reverse).run (handle services faults) files).2
    with hdef
  have hlive : ∀ slot ∈ cleared, removed (.live slot) = none := by
    intro slot hslot
    rw [hremoved]
    by_cases hact : slot ∈ failure.activated
    · simp [hact]
    · simpa [hact] using h.vacated slot hslot hact
  have hsaved : ∀ slot, removed (.saved slot names.stamp) = files (.saved slot names.stamp) := by
    intro slot
    rw [hremoved]
    simp
  obtain ⟨hnone', hrestored⟩ := run_restoreMoved services hworks
    (List.nodup_reverse.mpr h.moved_nodup) removed
    (fun slot hslot => by
      rw [hsaved, (h.kept slot (List.mem_reverse.mp hslot)).1]
      exact (h.kept slot (List.mem_reverse.mp hslot)).2)
    (fun slot hslot => hlive slot (h.moved_cleared slot (List.mem_reverse.mp hslot)))
  simp only [rollback, Procedure.run_bind, ← hdef, hnone, hnone', List.append_nil,
    Procedure.run_pure]
  refine ⟨trivial, fun slot => ?_⟩
  rw [hrestored]
  by_cases hmoved : slot ∈ failure.moved
  · rw [if_pos (List.mem_reverse.mpr hmoved), hsaved]
    exact (h.kept slot hmoved).1
  · rw [if_neg fun hmem => hmoved (List.mem_reverse.mp hmem)]
    by_cases hcleared : slot ∈ cleared
    · rw [hlive slot hcleared, h.missing slot hcleared hmoved]
    · have hact : slot ∉ failure.activated := fun hmem =>
        hcleared (h.activated_cleared slot hmem)
      rw [hremoved, ← h.untouched slot hcleared]
      simp [hact]

/-! ## What the parts of a restore change -/

/-- The operations of the checks. -/
def Operation.isCheck : Operation → Bool
  | .walk _ | .readFile _ | .openDatabase | .clearSessions | .removeFile _ => true
  | _ => false

/-- An operation that changes the copies of a restore at most. -/
def CopiesOnly (identifier : String) (op : Operation) : Prop :=
  ∀ place, (∀ slot, place ≠ .prepared slot identifier) → op.touches place = false

/-- An operation that changes the staged tree and quarantines at most. -/
def QuarantinesOnly (op : Operation) : Prop :=
  ∀ place, place ≠ .pending → (∀ identifier, place ≠ .failed identifier) →
    op.touches place = false

/-- The operations of the checks change the staged tree at most. -/
lemma touches_of_isCheck {op : Operation} (h : op.isCheck = true) {place : Place}
    (hplace : place ≠ .pending) : op.touches place = false := by
  cases op <;> simp_all [Operation.isCheck, Operation.touches]

/-- The checks of the database consist of operations of the checks. -/
lemma asks_validateRestoredDatabase (services : Services) :
    Asks (fun op => op.isCheck = true) (validateRestoredDatabase services) := by
  refine Asks.perform rfl fun contents => ?_
  split
  · exact asks_pure _
  split
  · exact asks_pure _
  refine Asks.perform rfl fun database => ?_
  split
  · exact asks_pure _
  split
  · exact asks_pure _
  refine Asks.perform rfl fun cleared => ?_
  split
  · exact asks_pure _
  · exact Asks.perform rfl fun _ => Asks.perform rfl fun _ => asks_pure _

/-- The checks consist of operations of the checks. -/
lemma asks_checkPending (services : Services) (config : RestoreConfig) :
    Asks (fun op => op.isCheck = true) (checkPending services config) := by
  refine Asks.perform rfl fun root => ?_
  split
  · exact asks_pure _
  · exact asks_pure _
  split
  · exact asks_pure _
  refine Asks.perform rfl fun metadata => ?_
  split
  · exact asks_pure _
  split
  · exact asks_pure _
  refine Asks.perform rfl fun root => ?_
  split
  · exact asks_pure _
  split
  · exact asks_pure _
  refine Asks.bind (asks_validateRestoredDatabase services) fun key => ?_
  split
  · exact asks_pure _
  · split_ifs <;> exact asks_pure _

/-- Copying entries changes the copy of the themes at most. -/
lemma asks_copyEntries (identifier : String) (paths : List Bytes) :
    Asks (CopiesOnly identifier) (copyEntries (.prepared .themes identifier) paths) := by
  induction paths with
  | nil => exact asks_pure _
  | cons relative rest ih =>
    refine Asks.perform (fun place hplace => by simpa [Operation.touches] using hplace _) ?_
    intro answer
    split
    · exact asks_pure _
    · exact ih

/-- Making the copies changes the copies at most. -/
lemma asks_prepare (identifier : String) : Asks (CopiesOnly identifier) (prepare identifier) := by
  refine Asks.perform (fun place hplace => by simpa [Operation.touches] using hplace _) ?_
  intro database
  split
  · exact asks_pure _
  refine Asks.perform (fun place hplace => by simpa [Operation.touches] using hplace _) ?_
  intro key
  split
  · exact asks_pure _
  refine Asks.bind ?_ fun themes => ?_
  · refine Asks.perform (fun place hplace => by simpa [Operation.touches] using hplace _) ?_
    intro made
    split
    · exact asks_pure _
    refine Asks.perform (fun _ _ => rfl) fun root => ?_
    split
    · exact asks_pure _
    · exact asks_pure _
    split
    · exact asks_pure _
    · exact asks_copyEntries _ _
  · split <;> exact asks_pure _

/-- Refusing a staged restore changes the staged tree and a quarantine at most. -/
lemma asks_refuse (names : RunNames) (cause : Cause) :
    Asks QuarantinesOnly (refuse names cause) := by
  refine Asks.bind (Asks.perform ?_ fun answer => ?_) fun _ => asks_pure _
  · intro place hpending hfailed
    simp [Operation.touches, hpending, hfailed]
  · split <;> exact asks_pure _

/-- Removing the copies changes the copies at most. -/
lemma asks_removePrepared (identifier : String) :
    Asks (CopiesOnly identifier) (removePrepared identifier) := by
  refine Asks.perform ?_ fun _ => Asks.perform ?_ fun _ => Asks.perform ?_ fun _ => asks_pure _
  all_goals
    intro place hplace
    simpa [Operation.touches] using hplace _

/-- A place that no operation of a procedure changes. -/
lemma run_of_asks {α : Type} {p : Script α} {allowed : Operation → Prop} (hp : Asks allowed p)
    {place : Place} (hallowed : ∀ op, allowed op → op.touches place = false)
    (services : Services) (faults : Faults) (files : Files) :
    (p.run (handle services faults) files).2 place = files place := by
  have hsafe : Safely (handle services faults) (fun t => t place = files place) _ p files :=
    hp.safely (fun op s hop hs => (handle_of_not_touches (hallowed op hop)).trans hs) rfl
  exact hsafe.run

/-- The checks keep the live paths. -/
lemma run_checkPending_live (services : Services) (config : RestoreConfig) (faults : Faults)
    (files : Files) (slot : Slot) :
    ((checkPending services config).run (handle services faults) files).2 (.live slot) =
      files (.live slot) :=
  run_of_asks (asks_checkPending services config)
    (fun _ hop => touches_of_isCheck hop (by simp)) services faults files

/-- Refusing a staged restore keeps the live paths. -/
lemma run_refuse_live (services : Services) (faults : Faults) (names : RunNames) (cause : Cause)
    (files : Files) (slot : Slot) :
    ((refuse names cause).run (handle services faults) files).2 (.live slot) =
      files (.live slot) :=
  run_of_asks (asks_refuse names cause) (fun _ hop => hop _ (by simp) (by simp)) services faults
    files

/-! ## The restore -/

/-- An installation that gives no receipt leaves the live paths as they were. -/
lemma install_undone (hworks : RollbackWorks names faults) (pending : PendingRestore)
    (hreceipt : ((install names now pending).run (handle services faults) files).1.1 = none)
    (slot : Slot) :
    ((install names now pending).run (handle services faults) files).2 (.live slot) =
      files (.live slot) := by
  unfold install at hreceipt ⊢
  rw [Procedure.run_bind] at hreceipt ⊢
  have hprepare : ∀ slot, _ = files (.live slot) := fun slot =>
    run_of_asks (asks_prepare names.identifier) (fun _ hop => hop (.live slot) (by simp))
      services faults files
  generalize (prepare names.identifier).run (handle services faults) files = prepared
    at hreceipt hprepare ⊢
  obtain ⟨result, copied⟩ := prepared
  cases result with
  | error cause =>
    exact (run_refuse_live services faults names cause copied slot).trans (hprepare slot)
  | ok _ =>
    simp only [Procedure.run_bind] at hreceipt ⊢
    have hswitch := (switchOver_undoable services faults
      orderly_switchSteps (Undoable.start names copied)).run
    generalize (switchOver names switchSteps [] []).run (handle services faults) copied = switched
      at hreceipt hswitch ⊢
    obtain ⟨result, moved⟩ := switched
    cases result with
    | error failure =>
      obtain ⟨cleared, hundoable⟩ := hswitch failure rfl
      simp only [Procedure.run_bind] at hreceipt ⊢
      rw [run_refuse_live, (rollback_restores hworks hundoable).2 slot]
      exact hprepare slot
    | ok slots =>
      simp only [Procedure.run_bind, Procedure.run_perform] at hreceipt
      split at hreceipt <;> simp at hreceipt

/-- Applying a staged restore that gives no receipt, with an error or without, leaves the database
with its `-wal` and `-shm`, the master key and the themes as they were, whatever operations fail, as
long as the way back works. -/
theorem applyPendingRestore_undone (services : Services) (config : RestoreConfig)
    (names : RunNames) (now : Time) (faults : Faults) (hworks : RollbackWorks names faults)
    (files : Files)
    (hreceipt : ((applyPendingRestore services config names now).run
      (handle services faults) files).1.1 = none) (slot : Slot) :
    ((applyPendingRestore services config names now).run (handle services faults) files).2
      (.live slot) = files (.live slot) := by
  unfold applyPendingRestore at hreceipt ⊢
  rw [Procedure.run_bind] at hreceipt ⊢
  have hchecks := run_checkPending_live services config faults files slot
  generalize (checkPending services config).run (handle services faults) files = checked
    at hreceipt hchecks ⊢
  obtain ⟨outcome, files'⟩ := checked
  have hrefuse : ∀ (cause : Cause) (t : Files), t (.live slot) = files (.live slot) →
      ((refuse names cause).run (handle services faults) t).2 (.live slot) =
        files (.live slot) :=
    fun cause t ht => (run_refuse_live services faults names cause t slot).trans ht
  cases outcome with
  | absent => exact hchecks
  | unreadable errno => exact hchecks
  | refused cause => exact hrefuse cause files' hchecks
  | accepted pending =>
    simp only [Procedure.run_bind, Procedure.run_perform] at hreceipt ⊢
    have hdatabase : (handle services faults (.absolute false) files').2 (.live slot) =
        files' (.live slot) := handle_of_not_touches rfl
    generalize handle services faults (.absolute false) files' = database
      at hreceipt hdatabase ⊢
    obtain ⟨answer, files₁⟩ := database
    cases answer with
    | error errno => exact hrefuse _ files₁ (hdatabase.trans hchecks)
    | ok _ =>
      simp only [Procedure.run_bind, Procedure.run_perform] at hreceipt ⊢
      have hdata : (handle services faults (.absolute true) files₁).2 (.live slot) =
          files₁ (.live slot) := handle_of_not_touches rfl
      generalize handle services faults (.absolute true) files₁ = data at hreceipt hdata ⊢
      obtain ⟨answer, files₂⟩ := data
      cases answer with
      | error errno => exact hrefuse _ files₂ (hdata.trans (hdatabase.trans hchecks))
      | ok _ =>
        simp only [Procedure.run_bind, Procedure.run_pure] at hreceipt ⊢
        rw [run_of_asks (asks_removePrepared names.identifier)
            (fun _ hop => hop (.live slot) (by simp)),
          install_undone hworks pending hreceipt slot]
        exact hdata.trans (hdatabase.trans hchecks)

/-! ## An example -/

/-- The start of a database file. -/
def exampleMain : Bytes := ascii "SQLite format 3\x00"

/-- A file with a master key of zero bytes. -/
def exampleKey : Bytes := ascii "AAAAAAAAAAAAAAAAAAAAAAAAAAAAAAAAAAAAAAAAAAA=\n"

/-- A file of a theme. -/
def exampleTheme : Bytes := ascii "<html>"

/-- The SHA-256 hashes of the files above. -/
def exampleSum (content : Bytes) : Vector UInt8 32 :=
  if content = exampleMain then
    #v[63, 132, 52, 175, 240, 18, 255, 203, 89, 74, 215, 82, 125, 96, 66, 132,
      28, 233, 79, 73, 152, 135, 248, 106, 184, 40, 248, 74, 154, 39, 95, 145]
  else if content = exampleKey then
    #v[32, 165, 1, 106, 255, 32, 112, 208, 56, 196, 61, 219, 73, 207, 126, 97,
      85, 207, 228, 70, 124, 238, 239, 249, 110, 47, 75, 112, 31, 243, 154, 81]
  else if content = exampleTheme then
    #v[183, 208, 130, 238, 18, 233, 27, 117, 110, 162, 46, 133, 19, 184, 89, 78,
      235, 207, 93, 57, 250, 184, 19, 218, 60, 181, 87, 148, 220, 136, 138, 215]
  else Vector.replicate 32 0

/-- The database in the file above. -/
def exampleDatabase : Database where
  quickCheck := some "ok"
  tables := ["schema_migrations", "settings", "admins", "nodes", "sessions"]
  schemaVersion := some 1
  admins := some 1
  totpSecrets := some []
  channelConfigs := some []
  sessions := some []
  rest := []

/-- A manifest of the files above. -/
def exampleManifest : Manifest where
  format := "hostpin-portable-backup"
  version := 1
  createdAt := 63921916800000000000
  hostpinVersion := "1.0.0"
  sourceDriver := "sqlite"
  files :=
    [⟨databaseName, 16, hexEncode (exampleSum exampleMain).toList⟩,
      ⟨keyName, 45, hexEncode (exampleSum exampleKey).toList⟩,
      ⟨ascii "themes/a.html", 6, hexEncode (exampleSum exampleTheme).toList⟩]

/-- A description of a restore with the manifest above. -/
def examplePending : PendingRestore where
  manifest := exampleManifest
  actor := "admin"
  stagedAt := 63921916800000000000
  externalMasterKey := false

/-- The bytes that stand for the description. -/
def exampleMetadata : Bytes :=
  ascii "\x7b\"manifest\":\x7b\"format\":\"hostpin-portable-backup\"\x7d\x7d"

/-- Services for the example.  The database file is the same with a log and without. -/
def exampleServices : Services where
  primitives :=
    { idKey := fun _ _ _ _ _ => []
      sealChunk := fun _ _ plaintext _ => plaintext
      openChunk := fun _ _ ciphertext _ => some ciphertext
      sum256 := exampleSum
      marshal := fun _ => []
      unmarshal := fun _ => none
      encodeToString := fun _ => ""
      decodeString := fun _ => none }
  unmarshalPending := fun metadata =>
    if metadata = exampleMetadata then some examplePending else none
  decodeBase64 := fun text =>
    if text = exampleKey.dropLast then some (List.replicate 32 0) else none
  connect := fun main _ => if main = some (.regular exampleMain) then some exampleDatabase else none
  flush := fun _ _ => exampleMain
  openSecret := fun _ _ => true
  latestMigration := 1

/-- A configuration with a database file. -/
def exampleConfig : RestoreConfig where
  driver := "sqlite"
  dsn := "./data/hostpin.db"
  masterKey := ""

/-- A staged tree. -/
def exampleTree : Tree where
  rows :=
    [(databaseName, .regular exampleMain), (walName, .regular []), (keyName, .regular exampleKey),
      (pendingMetadata, .regular exampleMetadata), (themesName, .directory),
      (ascii "themes/a.html", .regular exampleTheme)]
  keys_nodup := by decide

/-- Names for a restore. -/
def exampleNames : RunNames where
  timestamp := "20260810T000000Z"
  identifier := "1"
  quarantine := "2"

/-- Files with a database, its log, a master key and a staged tree. -/
def exampleFiles : Files
  | .pending => some (.directory exampleTree)
  | .live .database => some (.file [1])
  | .live .wal => some (.file [2])
  | .live .masterKey => some (.file [3])
  | _ => none

/-- The failure of the step that moves the new master key to its live path. -/
def exampleFaults : Faults := fun op =>
  if op = .rename (.prepared .masterKey exampleNames.identifier) (.live .masterKey) then
    some ⟨"input/output error", none⟩
  else none

/-- When the new master key cannot be moved to its live path, the new database is removed again and
the old one is back. -/
theorem applyPendingRestore_undone_masterKey :
    ((applyPendingRestore exampleServices exampleConfig exampleNames 0).run
      (handle exampleServices exampleFaults) exampleFiles).2 (.live .database) =
        some (.file [1]) :=
  applyPendingRestore_undone exampleServices exampleConfig exampleNames 0 exampleFaults
    (fun slot => by cases slot <;> decide) exampleFiles (by rfl) .database

end Backup

end Hostpin
