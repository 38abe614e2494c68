import Hostpin.Httpapi.ProbeTaskRuns

/-!
# What a probe task is for

The number of a task stands for one task and one purpose.  A handler looks at the listed tasks before
it writes, and what it relies on then is only that numbers keep their purposes and are not given
again (`TaskTable.Evolves`).

Three things can go wrong when a probe is saved: the list of the tasks is not looked at when the body
of the request names the number, a list that fails counts as an empty one, and a number that was not
given yet may be given to another task in between.  Where none of them happens (`Guarded`), numbers
keep their purposes over every run (`purposes_kept`), and where no carrier probe is deleted either,
every list of the carrier probes has one for each carrier (`carriers_known`).
-/

namespace Hostpin

open Procedure Runs

/-! ## Evolution -/

/-- The purpose that a task is listed with. -/
def ProbeTask.listedPurpose (task : ProbeTask) : ProbePurpose :=
  if task.purpose = .unset then .custom else task.purpose

/-- The defaults of the store leave the purpose as it is listed. -/
lemma ProbeTask.listedPurpose_withDefaults (task : ProbeTask) :
    task.withDefaults.listedPurpose = task.listedPurpose := by
  unfold listedPurpose withDefaults
  dsimp only
  by_cases hunset : task.purpose = .unset
  · rw [if_pos hunset, if_neg (by decide)]
  · rw [if_neg hunset, if_neg hunset]

/-- The numbers that were given keep their purposes and are not given again, and the tasks of
protected purposes stay. -/
structure TaskTable.Evolves (protect : ProbePurpose → Prop) (s t : TaskTable) : Prop where
  lastID_le : s.lastID ≤ t.lastID
  purposes : ∀ u ∈ t.table, u.id ≤ s.lastID →
    ∃ v ∈ s.table, v.id = u.id ∧ v.listedPurpose = u.listedPurpose
  persists : ∀ v ∈ s.table, protect v.listedPurpose → ∃ u ∈ t.table, u.id = v.id

/-- The tasks of a store evolve. -/
def TaskStore.Evolves (protect : ProbePurpose → Prop) (s t : TaskStore) : Prop :=
  s.tasks.Evolves protect t.tasks

section Evolves

variable {protect : ProbePurpose → Prop} {s t u : TaskTable}

lemma TaskTable.Evolves.refl (protect : ProbePurpose → Prop) (s : TaskTable) :
    s.Evolves protect s :=
  ⟨le_rfl, fun u hu _ => ⟨u, hu, rfl, rfl⟩, fun v hv _ => ⟨v, hv, rfl⟩⟩

/-- A task that stays has the purpose it had. -/
lemma TaskTable.Evolves.listedPurpose_eq (h : s.Evolves protect t) {v u : ProbeTask}
    (hv : v ∈ s.table) (hu : u ∈ t.table) (hid : u.id = v.id) :
    u.listedPurpose = v.listedPurpose := by
  obtain ⟨w, hw, hwid, hpurpose⟩ := h.purposes u hu (hid ▸ s.id_le v hv)
  rw [← hpurpose, KeyedTable.eq_of_key_eq hw hv (hwid.trans hid)]

lemma TaskTable.Evolves.trans (h : s.Evolves protect t) (h' : t.Evolves protect u) :
    s.Evolves protect u where
  lastID_le := h.lastID_le.trans h'.lastID_le
  purposes x hx hle := by
    obtain ⟨w, hw, hwid, hpurpose⟩ := h'.purposes x hx (hle.trans h.lastID_le)
    obtain ⟨v, hv, hvid, hpurpose'⟩ := h.purposes w hw (hwid ▸ hle)
    exact ⟨v, hv, hvid.trans hwid, hpurpose'.trans hpurpose⟩
  persists v hv hprotect := by
    obtain ⟨w, hw, hid⟩ := h.persists v hv hprotect
    obtain ⟨x, hx, hid'⟩ := h'.persists w hw (h.listedPurpose_eq hv hw hid ▸ hprotect)
    exact ⟨x, hx, hid'.trans hid⟩

instance : Std.Refl (TaskStore.Evolves protect) := ⟨fun s => .refl protect s.tasks⟩

instance : IsTrans TaskStore (TaskStore.Evolves protect) := ⟨fun _ _ _ h h' => h.trans h'⟩

/-- Only rows are lost whose purposes are not protected. -/
lemma TaskTable.evolves_remove (s : TaskTable) {p : ProbeTask → Bool}
    (h : ∀ v ∈ s.table, p v = true → ¬protect v.listedPurpose) : s.Evolves protect (s.remove p) where
  lastID_le := le_rfl
  purposes u hu _ := ⟨u, (KeyedTable.mem_deleteWhere.mp hu).1, rfl, rfl⟩
  persists v hv hprotect := by
    refine ⟨v, KeyedTable.mem_deleteWhere.mpr ⟨hv, ?_⟩, rfl⟩
    exact Bool.eq_false_iff.mpr fun hp => h v hv hp hprotect

/-- Saving a task evolves the table when a task that is replaced has the same purpose. -/
lemma TaskTable.evolves_saveProbeTask (s : TaskTable) (time : CallTime) {task : ProbeTask}
    (h : ∀ old ∈ s.table, old.id = task.id → old.listedPurpose = task.listedPurpose) :
    s.Evolves protect (s.saveProbeTask time task).2 := by
  obtain ⟨hle, ⟨e, -, htable⟩ | ⟨saved, id, created, updated, -, htable, hid⟩⟩ :=
    s.saveProbeTask_cases time task
  · exact ⟨hle, fun u hu _ => ⟨u, htable ▸ hu, rfl, rfl⟩, fun v hv _ => ⟨v, htable ▸ hv, rfl⟩⟩
  · refine ⟨hle, fun u hu hlast => ?_, fun v hv _ => ?_⟩
    · rw [htable, KeyedTable.mem_upsert] at hu
      rcases hu with rfl | ⟨hu, -⟩
      · rcases hid with ⟨-, hlt⟩ | ⟨hid, old, hold, hkey⟩
        · exact absurd hlast (not_le.mpr hlt)
        · exact ⟨old, hold, hkey, (h old hold (hkey.trans hid.symm)).trans
            task.listedPurpose_withDefaults.symm⟩
      · exact ⟨u, hu, rfl, rfl⟩
    · rw [htable]
      by_cases hv' : v.id = id
      · exact ⟨_, KeyedTable.mem_upsert.mpr (Or.inl rfl), hv'.symm⟩
      · exact ⟨v, KeyedTable.mem_upsert.mpr (Or.inr ⟨hv, hv'⟩), rfl⟩

end Evolves

/-! ## Calls -/

/-- A handler whose calls let the tasks evolve, and which ends as `Q` says. -/
abbrev KeepsPurposes {α : Type} (protect : ProbePurpose → Prop) (Q : α → TaskStore → Prop)
    (p : TaskHandler α) (s : TaskStore) : Prop :=
  Orderly answerTaskCall (fun _ => True) (TaskStore.Evolves protect) Q p s

/-- The carriers are answered with one task each. -/
def TaskResponse.CarriersKnown : TaskResponse → Prop
  | .carriers tasks => tasks.map ProbeTask.purpose = carrierDefinitions.map CarrierDefinition.purpose
  | _ => True

/-- Where the carrier probes are protected, the carriers are answered with one task each. -/
def Answered (protect : ProbePurpose → Prop) (response : TaskResponse) (_ : TaskStore) : Prop :=
  (∀ purpose, purpose.isCarrier = true → protect purpose) → response.CarriersKnown

section Calls

variable {protect : ProbePurpose → Prop} {α : Type} {Q : α → TaskStore → Prop} {s : TaskStore}

/-- A call that only reads. -/
lemma keepsPurposes_read {call : TaskCall} {f : call.Answer → TaskHandler α}
    (hread : ∀ fate t, (answerTaskCall fate call t).2 = t)
    (h : ∀ t fate, s.Evolves protect t →
      KeepsPurposes protect Q (f (answerTaskCall fate call t).1) t) :
    KeepsPurposes protect Q (taskCall call >>= f) s := by
  intro t fate _ evolves
  rw [hread]
  exact ⟨⟨trivial, refl_of _ t⟩, h t fate evolves⟩

lemma answerTaskCall_list (fate : CallFate) (t : TaskStore) :
    (answerTaskCall fate .listAllProbeTasks t).2 = t := by
  cases fate <;> rfl

lemma answerTaskCall_getNode (id : String) (fate : CallFate) (t : TaskStore) :
    (answerTaskCall fate (.getNode id) t).2 = t := by
  cases fate <;> rfl

/-- The tasks that are listed are those of the table. -/
lemma listed_of_answer {fate : CallFate} {t : TaskStore} {all : List ProbeTask}
    (h : (answerTaskCall fate .listAllProbeTasks t).1 = .ok all) :
    all = t.tasks.listAllProbeTasks := by
  cases fate with
  | works time => cases h; rfl
  | fails e => cases h
  | worksUnheard time e => cases h

lemma TaskTable.mem_listAllProbeTasks {tasks : TaskTable} {task : ProbeTask} :
    task ∈ tasks.listAllProbeTasks ↔ ∃ row ∈ tasks.table, scanProbeTask row = task := by
  simp [listAllProbeTasks]

/-- A task of the table is listed with its purpose. -/
lemma listed_purpose (row : ProbeTask) : (scanProbeTask row).purpose = row.listedPurpose := rfl

/-- A call that saves a task for the purpose that its number stands for. -/
lemma keepsPurposes_save {task : ProbeTask} {f : Except StoreError ProbeTask → TaskHandler α}
    (hknown : ∀ t, s.Evolves protect t → ∀ old ∈ t.tasks.table, old.id = task.id →
      old.listedPurpose = task.listedPurpose)
    (h : ∀ t fate, s.Evolves protect t →
      t.Evolves protect (answerTaskCall fate (.saveProbeTask task) t).2 →
      KeepsPurposes protect Q (f (answerTaskCall fate (.saveProbeTask task) t).1)
        (answerTaskCall fate (.saveProbeTask task) t).2) :
    KeepsPurposes protect Q (taskCall (.saveProbeTask task) >>= f) s := by
  intro t fate _ evolves
  have hsaved (time : CallTime) : t.Evolves protect (t.answer time (.saveProbeTask task)).2 :=
    t.tasks.evolves_saveProbeTask time (hknown t evolves)
  have hanswer : t.Evolves protect (answerTaskCall fate (.saveProbeTask task) t).2 := by
    cases fate with
    | works time => exact hsaved time
    | fails e => exact refl_of _ t
    | worksUnheard time e => exact hsaved time
  exact ⟨⟨trivial, hanswer⟩, h t fate evolves hanswer⟩

/-- A call that deletes a task which is not protected. -/
lemma keepsPurposes_delete {id : ℤ} {f : Except StoreError Unit → TaskHandler α}
    (hspared : ∀ t, s.Evolves protect t → ∀ row ∈ t.tasks.table, row.id = id →
      ¬protect row.listedPurpose)
    (h : ∀ answer t, KeepsPurposes protect Q (f answer) t) :
    KeepsPurposes protect Q (taskCall (.deleteProbeTask id) >>= f) s := by
  intro t fate _ evolves
  have hdeleted (time : CallTime) : t.Evolves protect (t.answer time (.deleteProbeTask id)).2 := by
    change t.tasks.Evolves protect (t.tasks.deleteProbeTask id).2
    unfold TaskTable.deleteProbeTask
    split
    · refine t.tasks.evolves_remove fun row hrow hid => ?_
      exact hspared t evolves row hrow (of_decide_eq_true hid)
    · exact TaskTable.Evolves.refl protect t.tasks
  refine ⟨⟨trivial, ?_⟩, h _ _⟩
  cases fate with
  | works time => exact hdeleted time
  | fails e => exact refl_of _ t
  | worksUnheard time e => exact hdeleted time

/-- A handler that ends with an answer that is not about the carriers. -/
lemma keepsPurposes_end {response : TaskResponse} (h : response.CarriersKnown) :
    KeepsPurposes protect (Answered protect) (pure response) s :=
  fun _ _ _ _ => h

lemma keepsPurposes_refuse (status : ℕ) (code message : String) :
    KeepsPurposes protect (Answered protect) (refuse status code message) s :=
  keepsPurposes_end trivial

end Calls

/-! ## Handlers -/

section Handlers

variable {P : TaskServices} {protect : ProbePurpose → Prop} {s t : TaskStore}

/-- A task with a number that was given is one that is listed, for the same purpose. -/
lemma TaskStore.Evolves.exists_listed (h : s.Evolves protect t) {old : ProbeTask}
    (hold : old ∈ t.tasks.table) (hid : old.id ≤ s.tasks.lastID) :
    ∃ task ∈ s.tasks.listAllProbeTasks, task.id = old.id ∧ task.purpose = old.listedPurpose := by
  obtain ⟨row, hrow, hrid, hpurpose⟩ := h.purposes old hold hid
  exact ⟨_, TaskTable.mem_listAllProbeTasks.mpr ⟨row, hrow, rfl⟩, hrid, hpurpose⟩

/-- A listed task keeps its purpose. -/
lemma TaskStore.Evolves.purpose_of_listed (h : s.Evolves protect t) {task old : ProbeTask}
    (htask : task ∈ s.tasks.listAllProbeTasks) (hold : old ∈ t.tasks.table)
    (hid : old.id = task.id) : old.listedPurpose = task.purpose := by
  obtain ⟨row, hrow, rfl⟩ := TaskTable.mem_listAllProbeTasks.mp htask
  exact h.listedPurpose_eq hrow hold hid

lemma keepsPurposes_allMonitors (ids : List String) :
    KeepsPurposes protect (fun _ _ => True) (allMonitors ids) s := by
  induction ids generalizing s with
  | nil => exact fun _ _ _ => trivial
  | cons id ids ih =>
    refine keepsPurposes_read (answerTaskCall_getNode id) fun t fate _ => ?_
    cases (answerTaskCall fate (.getNode id) t).1 with
    | error e => exact fun _ _ _ => trivial
    | ok node =>
      change Orderly _ _ _ _ (if _ then _ else _) _
      split
      · exact ih
      · exact fun _ _ _ => trivial

lemma keepsPurposes_saveCustomTask {task : ProbeTask}
    (hknown : ∀ t, s.Evolves protect t → ∀ old ∈ t.tasks.table, old.id = task.id →
      old.listedPurpose = .custom) :
    KeepsPurposes protect (Answered protect) (saveCustomTask P task) s := by
  unfold saveCustomTask
  dsimp only
  split
  · exact keepsPurposes_refuse _ _ _
  · refine Orderly.bind trivial ?_
    refine ((keepsPurposes_allMonitors _).evolved (refl_of _ s)).mono fun known t _ ht => ?_
    split
    · refine keepsPurposes_save (fun u hu => hknown u (ht.2.trans hu)) fun u fate _ _ => ?_
      split
      · exact keepsPurposes_refuse _ _ _
      · exact keepsPurposes_refuse _ _ _
      · exact keepsPurposes_end trivial
    · exact keepsPurposes_refuse _ _ _

/-- There is a task for a purpose. -/
def TaskStore.Holds (s : TaskStore) (purpose : ProbePurpose) : Prop :=
  ∃ row ∈ s.tasks.table, row.listedPurpose = purpose

/-- What is protected stays. -/
lemma TaskStore.Evolves.holds (h : s.Evolves protect t) {purpose : ProbePurpose}
    (hprotect : protect purpose) (hs : s.Holds purpose) : t.Holds purpose := by
  obtain ⟨row, hrow, rfl⟩ := hs
  obtain ⟨row', hrow', hid⟩ := h.persists row hrow hprotect
  exact ⟨row', hrow', h.listedPurpose_eq hrow hrow' hid⟩

/-- The purposes of the carriers. -/
lemma CarrierDefinition.isCarrier {definition : CarrierDefinition}
    (h : definition ∈ carrierDefinitions) : definition.purpose.isCarrier = true := by
  simp only [carrierDefinitions, List.mem_cons, List.not_mem_nil, or_false] at h
  rcases h with rfl | rfl | rfl <;> rfl

/-- A purpose of a carrier is listed as it is stored. -/
lemma ProbeTask.listedPurpose_of_isCarrier {task : ProbeTask} (h : task.purpose.isCarrier = true) :
    task.listedPurpose = task.purpose := by
  refine if_neg fun hunset => ?_
  rw [hunset] at h
  cases h

/-- After a task was saved there is one for its purpose. -/
lemma holds_of_saved {fate : CallFate} {task saved : ProbeTask}
    (h : (answerTaskCall fate (.saveProbeTask task) t).1 = .ok saved) :
    (answerTaskCall fate (.saveProbeTask task) t).2.Holds task.listedPurpose := by
  cases fate with
  | fails e => cases h
  | worksUnheard time e => cases h
  | works time =>
    obtain ⟨-, ⟨e, herror, -⟩ | ⟨_, id, created, updated, -, htable, -⟩⟩ :=
      t.tasks.saveProbeTask_cases time task
    · exact absurd (herror.symm.trans h) (by simp)
    · refine ⟨{ task.withDefaults with id, createdAt := created, updatedAt := updated }, ?_,
        task.listedPurpose_withDefaults⟩
      change _ ∈ (t.tasks.saveProbeTask time task).2.table
      rw [htable]
      exact KeyedTable.mem_upsert.mpr (Or.inl rfl)

/-- Where the carrier probes are protected there is one for each of some carriers. -/
def HoldCarriers (protect : ProbePurpose → Prop) (definitions : List CarrierDefinition)
    (answer : Except StoreError Unit) (t : TaskStore) : Prop :=
  answer = .ok () → (∀ purpose, purpose.isCarrier = true → protect purpose) →
    ∀ definition ∈ definitions, t.Holds definition.purpose

lemma keepsPurposes_saveCarrierTasks {definitions : List CarrierDefinition}
    (h : ∀ definition ∈ definitions, definition ∈ carrierDefinitions) :
    KeepsPurposes protect (HoldCarriers protect definitions) (saveCarrierTasks definitions) s := by
  induction definitions generalizing s with
  | nil => exact fun _ _ _ _ _ _ hmem => absurd hmem List.not_mem_nil
  | cons definition definitions ih =>
    rw [List.forall_mem_cons] at h
    have hcarrier := CarrierDefinition.isCarrier h.1
    refine keepsPurposes_save (fun t _ old hold hid => ?_) fun t fate _ _ => ?_
    · exact absurd hid (t.tasks.id_pos old hold).ne'
    · cases hanswer : (answerTaskCall fate (.saveProbeTask definition.task) t).1 with
      | error e => exact fun _ _ _ hok => by cases hok
      | ok saved =>
        have hholds := holds_of_saved hanswer
        rw [ProbeTask.listedPurpose_of_isCarrier hcarrier] at hholds
        refine ((ih h.2).evolved (refl_of _ _)).mono fun answer u _ hu hok hprotect => ?_
        refine List.forall_mem_cons.mpr ⟨?_, hu.1 hok hprotect⟩
        exact hu.2.holds (hprotect _ hcarrier) hholds

lemma keepsPurposes_ensureCarrierProbeTasks :
    KeepsPurposes protect (HoldCarriers protect carrierDefinitions) ensureCarrierProbeTasks s := by
  refine keepsPurposes_read answerTaskCall_list fun t fate _ => ?_
  cases hlist : (answerTaskCall fate .listAllProbeTasks t).1 with
  | error e => exact fun _ _ _ hok => by cases hok
  | ok tasks =>
    cases listed_of_answer hlist
    refine ((keepsPurposes_saveCarrierTasks fun definition h => List.mem_of_mem_filter h).evolved
      (refl_of _ t)).mono fun answer u _ hu hok hprotect definition hdefinition => ?_
    by_cases hmissing : t.tasks.listAllProbeTasks.all fun task => task.purpose ≠ definition.purpose
    · exact hu.1 hok hprotect definition (List.mem_filter.mpr ⟨hdefinition, hmissing⟩)
    · simp only [List.all_eq_true, decide_eq_true_eq, not_forall, not_not] at hmissing
      obtain ⟨task, htask, hpurpose⟩ := hmissing
      obtain ⟨row, hrow, rfl⟩ := TaskTable.mem_listAllProbeTasks.mp htask
      exact hu.2.holds (hprotect _ (CarrierDefinition.isCarrier hdefinition))
        ⟨row, hrow, hpurpose⟩

/-- Tasks that have one for each carrier show one for each. -/
lemma carriersKnown_of_holds
    (h : ∀ definition ∈ carrierDefinitions, s.Holds definition.purpose) :
    (TaskResponse.carriers (carrierProbeTasks s.tasks.listAllProbeTasks)).CarriersKnown := by
  have hlast (purpose : ProbePurpose) (hholds : s.Holds purpose) :
      ∃ task, (probeTasksByPurpose s.tasks.listAllProbeTasks purpose).getLast? = some task ∧
        task.purpose = purpose := by
    obtain ⟨row, hrow, hpurpose⟩ := hholds
    have hmem : scanProbeTask row ∈ probeTasksByPurpose s.tasks.listAllProbeTasks purpose :=
      List.mem_filter.mpr
        ⟨TaskTable.mem_listAllProbeTasks.mpr ⟨row, hrow, rfl⟩,
          decide_eq_true ((listed_purpose row).trans hpurpose)⟩
    obtain ⟨task, htask⟩ :=
      Option.isSome_iff_exists.mp (List.getLast?_isSome.mpr (List.ne_nil_of_mem hmem))
    exact ⟨task, htask, by simpa using List.of_mem_filter (List.mem_of_getLast? htask)⟩
  simp only [carrierDefinitions, List.forall_mem_cons] at h
  obtain ⟨a, ha, hpa⟩ := hlast _ h.1
  obtain ⟨b, hb, hpb⟩ := hlast _ h.2.1
  obtain ⟨c, hc, hpc⟩ := hlast _ h.2.2.1
  change (carrierProbeTasks _).map _ = _
  simp only [carrierProbeTasks, List.filterMap_cons, ha, hb, hc, List.filterMap_nil, List.map_cons,
    List.map_nil, hpa, hpb, hpc, carrierDefinitions]

lemma keepsPurposes_handleAdminCarrierProbes :
    KeepsPurposes protect (Answered protect) handleAdminCarrierProbes s := by
  refine Orderly.bind trivial (keepsPurposes_ensureCarrierProbeTasks.mono fun answer t _ ht => ?_)
  cases answer with
  | error e => exact keepsPurposes_refuse _ _ _
  | ok _ =>
    refine keepsPurposes_read answerTaskCall_list fun u fate hu => ?_
    cases hlist : (answerTaskCall fate .listAllProbeTasks u).1 with
    | error e => exact keepsPurposes_refuse _ _ _
    | ok tasks =>
      cases listed_of_answer hlist
      intro _ _ _ hprotect
      refine carriersKnown_of_holds fun definition hdefinition => ?_
      exact hu.holds (hprotect _ (CarrierDefinition.isCarrier hdefinition))
        (ht rfl hprotect definition hdefinition)

lemma keepsPurposes_handleAdminSaveCarrierProbe (carrier : String)
    (body : Except String ProbeTask) :
    KeepsPurposes protect (Answered protect) (handleAdminSaveCarrierProbe P carrier body) s := by
  unfold handleAdminSaveCarrierProbe
  split
  · exact keepsPurposes_refuse _ _ _
  next definition hfind =>
    have hdefinition := List.mem_of_find?_eq_some hfind
    refine Orderly.bind trivial
      (keepsPurposes_ensureCarrierProbeTasks.mono fun answer t _ _ => ?_)
    cases answer with
    | error e => exact keepsPurposes_refuse _ _ _
    | ok _ =>
      refine keepsPurposes_read answerTaskCall_list fun u fate _ => ?_
      cases hlist : (answerTaskCall fate .listAllProbeTasks u).1 with
      | error e => exact keepsPurposes_refuse _ _ _
      | ok all =>
        cases listed_of_answer hlist
        dsimp only
        split
        · exact keepsPurposes_refuse _ _ _
        next current hcurrent =>
          have hfound := (Option.filter_eq_some_iff.mp hcurrent).1
          have hpurpose : current.purpose = definition.purpose := by
            simpa using List.find?_some hfound
          cases body with
          | error message => exact keepsPurposes_refuse _ _ _
          | ok update =>
            dsimp only
            split
            · exact keepsPurposes_refuse _ _ _
            · split
              · exact keepsPurposes_refuse _ _ _
              · have hcarrier : (update.asCarrier definition current).purpose.isCarrier = true :=
                  CarrierDefinition.isCarrier hdefinition
                refine keepsPurposes_save (fun v hv old hold hid => ?_) fun v fate _ _ => ?_
                · rw [hv.purpose_of_listed (List.mem_of_find?_eq_some hfound) hold hid, hpurpose]
                  exact (ProbeTask.listedPurpose_of_isCarrier hcarrier).symm
                · split
                  · exact keepsPurposes_refuse _ _ _
                  · exact keepsPurposes_refuse _ _ _
                  · exact keepsPurposes_end trivial

/-- Without a conflict the latency target that is changed was found. -/
lemma exists_of_latencyConflict {task : ProbeTask} {updateFound : Bool} {all : List ProbeTask}
    (h : latencyConflict task updateFound all = none) :
    updateFound = true ∨ ∃ existing ∈ all, existing.id = task.id ∧ existing.purpose = .latency := by
  induction all generalizing updateFound with
  | nil =>
    unfold latencyConflict at h
    split at h
    · exact Or.inl ‹_›
    · cases h
  | cons existing rest ih =>
    unfold latencyConflict at h
    split at h
    · cases h
    split at h
    next hid =>
      split at h
      · cases h
      next hpurpose =>
        exact Or.inr ⟨existing, List.mem_cons_self, hid.2, not_not.mp hpurpose⟩
    · refine (ih h).imp_right ?_
      rintro ⟨other, hother, hsame⟩
      exact ⟨other, List.mem_cons_of_mem _ hother, hsame⟩

lemma keepsPurposes_storeLatencyTask {task : ProbeTask} (hlatency : task.purpose = .latency) :
    KeepsPurposes protect (Answered protect) (storeLatencyTask task) s := by
  refine keepsPurposes_read answerTaskCall_list fun t fate _ => ?_
  cases hlist : (answerTaskCall fate .listAllProbeTasks t).1 with
  | error e => exact keepsPurposes_refuse _ _ _
  | ok all =>
    cases listed_of_answer hlist
    dsimp only
    split
    · exact keepsPurposes_end trivial
    next hconflict =>
      refine keepsPurposes_save (fun u hu old hold hid => ?_) fun u fate _ _ => ?_
      · rcases exists_of_latencyConflict hconflict with hnew | ⟨existing, hmem, hsame, hpurpose⟩
        · have hzero : task.id = 0 := of_decide_eq_true hnew
          exact absurd (hid.trans hzero) (u.tasks.id_pos old hold).ne'
        · rw [hu.purpose_of_listed hmem hold (hid.trans hsame.symm), hpurpose,
            ProbeTask.listedPurpose, hlatency]
          rfl
      · cases (answerTaskCall fate (.saveProbeTask task) u).1 with
        | error e =>
          refine keepsPurposes_read answerTaskCall_list fun v fate _ => ?_
          split
          · exact keepsPurposes_refuse _ _ _
          · exact keepsPurposes_refuse _ _ _
        | ok saved => exact keepsPurposes_end trivial

lemma keepsPurposes_saveLatencyTask (task : ProbeTask) :
    KeepsPurposes protect (Answered protect) (saveLatencyTask P task) s := by
  unfold saveLatencyTask
  dsimp only
  split
  · exact keepsPurposes_refuse _ _ _
  · refine keepsPurposes_read (answerTaskCall_getNode _) fun t fate _ => ?_
    cases (answerTaskCall fate (.getNode task.asLatency.targetNodeID) t).1 with
    | error e => exact keepsPurposes_refuse _ _ _
    | ok target =>
      dsimp only
      split
      · exact keepsPurposes_refuse _ _ _
      · split
        · exact keepsPurposes_refuse _ _ _
        · exact keepsPurposes_storeLatencyTask rfl

lemma keepsPurposes_handleAdminSaveLatencyTarget (request : SaveTask) :
    KeepsPurposes protect (Answered protect) (handleAdminSaveLatencyTarget P request) s := by
  unfold handleAdminSaveLatencyTarget
  split
  · exact keepsPurposes_refuse _ _ _
  · split
    · exact keepsPurposes_saveLatencyTask _
    · split
      · exact keepsPurposes_refuse _ _ _
      · exact keepsPurposes_saveLatencyTask _

lemma keepsPurposes_handleAdminDeleteLatencyTarget (hlatency : ¬protect .latency)
    (pathID : String) :
    KeepsPurposes protect (Answered protect) (handleAdminDeleteLatencyTarget P pathID) s := by
  unfold handleAdminDeleteLatencyTarget
  split
  · exact keepsPurposes_refuse _ _ _
  next id _ =>
    refine keepsPurposes_read answerTaskCall_list fun t fate _ => ?_
    cases hlist : (answerTaskCall fate .listAllProbeTasks t).1 with
    | error e => exact keepsPurposes_refuse _ _ _
    | ok all =>
      cases listed_of_answer hlist
      dsimp only
      split
      next hany =>
        obtain ⟨task, htask, hsame⟩ := List.any_eq_true.mp hany
        obtain ⟨hid, hpurpose⟩ := of_decide_eq_true hsame
        refine keepsPurposes_delete (fun u hu row hrow hrid => ?_) fun answer u => ?_
        · rw [hu.purpose_of_listed htask hrow (hrid.trans hid.symm), hpurpose]
          exact hlatency
        · cases answer with
          | error e => exact keepsPurposes_refuse _ _ _
          | ok _ => exact keepsPurposes_end trivial
      · exact keepsPurposes_refuse _ _ _

/-- The tasks that a request to delete a probe names are not protected. -/
def Spares (P : TaskServices) (protect : ProbePurpose → Prop) (s : TaskStore) (pathID : String) :
    Prop :=
  ∀ id, P.parsePositiveID pathID = some id →
    (∀ purpose, protect purpose → id ≤ s.tasks.lastID) ∧
      ∀ row ∈ s.tasks.table, row.id = id → ¬protect row.listedPurpose

lemma keepsPurposes_handleAdminDeleteProbeTask {pathID : String} (h : Spares P protect s pathID) :
    KeepsPurposes protect (Answered protect) (handleAdminDeleteProbeTask P pathID) s := by
  unfold handleAdminDeleteProbeTask
  split
  · exact keepsPurposes_refuse _ _ _
  next id hid =>
    obtain ⟨hgiven, hspared⟩ := h id hid
    refine keepsPurposes_delete (fun t ht row hrow hrid hprotect => ?_) fun answer t => ?_
    · obtain ⟨v, hv, hvid, hpurpose⟩ := ht.purposes row hrow (hrid ▸ hgiven _ hprotect)
      exact hspared v hv (hvid.trans hrid) (hpurpose ▸ hprotect)
    · split
      · exact keepsPurposes_refuse _ _ _
      · exact keepsPurposes_refuse _ _ _
      · exact keepsPurposes_end trivial

/-- The first call of a request that changes a probe, the list of the tasks, works. -/
def ListWorks (P : TaskServices) (p : TaskHandler TaskResponse) (fate : CallFate) : Prop :=
  ∀ request : SaveTask, request.pathID ≠ "" → p = handleAdminSaveProbeTask P request →
    ∃ time, fate = .works time

/-- A request to save a probe names a new one, or the path names a number that was given before. -/
def NamesGiven (P : TaskServices) (s : TaskStore) (request : SaveTask) : Prop :=
  if request.pathID = "" then ∀ task, request.body = .ok task → task.id ≤ 0
  else ∀ id, P.parsePositiveID request.pathID = some id → id ≤ s.tasks.lastID

lemma keepsPurposes_handleAdminSaveProbeTask {request : SaveTask} (h : NamesGiven P s request) :
    OrderlyIf (ListWorks P) answerTaskCall (fun _ => True) (TaskStore.Evolves protect)
      (Answered protect) (handleAdminSaveProbeTask P request) s := by
  unfold NamesGiven at h
  cases hbody : request.body with
  | error message =>
    rw [handleAdminSaveProbeTask, hbody]
    exact (keepsPurposes_refuse _ _ _).orderlyIf
  | ok task =>
    by_cases hpath : request.pathID = ""
    · rw [if_pos hpath] at h
      rw [handleAdminSaveProbeTask, hbody]
      dsimp only
      rw [if_pos hpath]
      refine (keepsPurposes_saveCustomTask fun t _ old hold hid => ?_).orderlyIf
      exact absurd (hid ▸ h task hbody) (not_le.mpr (t.tasks.id_pos old hold))
    · rw [if_neg hpath] at h
      cases hid : P.parsePositiveID request.pathID with
      | none =>
        rw [handleAdminSaveProbeTask, hbody]
        dsimp only
        rw [if_neg hpath, hid]
        exact (keepsPurposes_refuse _ _ _).orderlyIf
      | some id =>
        have hhandler : handleAdminSaveProbeTask P request =
            .step .listAllProbeTasks fun all =>
              if (all.toOption.getD []).any fun existing =>
                  existing.id = id ∧ existing.purpose ≠ .custom then
                refuse 404 "probe_not_found" "probe task was not found"
              else saveCustomTask P { task with id } := by
          rw [handleAdminSaveProbeTask, hbody]
          dsimp only
          rw [if_neg hpath, hid]
          rfl
        rw [hhandler]
        intro t fate hworks _ ht
        obtain ⟨time, rfl⟩ := hworks request hpath hhandler.symm
        refine ⟨⟨trivial, refl_of _ t⟩, Orderly.orderlyIf ?_⟩
        dsimp only
        split
        · exact keepsPurposes_refuse _ _ _
        next hlisted =>
          refine keepsPurposes_saveCustomTask fun u hu old hold hsame => ?_
          have hgiven : old.id ≤ t.tasks.lastID :=
            hsame.le.trans ((h id hid).trans ht.lastID_le)
          obtain ⟨listed, hmem, hlid, hpurpose⟩ := hu.exists_listed hold hgiven
          rw [← hpurpose]
          by_contra hcustom
          refine hlisted (List.any_eq_true.mpr ⟨listed, hmem, ?_⟩)
          exact decide_eq_true ⟨hlid.trans hsame, hcustom⟩

end Handlers

/-! ## Runs -/

section Runs

variable {P : TaskServices} {protect : ProbePurpose → Prop}

/-- A request that changes a probe names a number that was given before, and can list the tasks; a
request for a new probe names no number; and no request deletes a probe that is protected. -/
def Guarded (P : TaskServices) (protect : ProbePurpose → Prop) (system : TaskSystem) :
    TaskEvent → Prop
  | .start _ (.saveProbe request) => NamesGiven P system.shared request
  | .start _ (.deleteProbe pathID) => Spares P protect system.shared pathID
  | .start _ _ => True
  | .proceed number fate => ∀ p, system.running number = some p → ListWorks P p fate
  | .outside _ => True

/-- A guarded event is one that a pool is orderly with. -/
lemma fits_of_guarded (hprotect : ∀ purpose, protect purpose → purpose.isCarrier = true)
    {system : TaskSystem} {event : TaskEvent} (h : Guarded P protect system event) :
    Pool.Fits answerTaskCall (TaskRequest.handler P) TaskStore.changeNode (ListWorks P)
      (fun _ => True) (TaskStore.Evolves protect) (fun _ => Answered protect) system event := by
  have hlatency : ¬protect .latency := fun hl => by cases hprotect _ hl
  cases event with
  | start number request =>
    intro _
    cases request with
    | listProbes =>
      refine Orderly.orderlyIf (keepsPurposes_read answerTaskCall_list fun t fate _ => ?_)
      cases (answerTaskCall fate .listAllProbeTasks t).1 with
      | error e => exact keepsPurposes_refuse _ _ _
      | ok tasks => exact keepsPurposes_end trivial
    | saveProbe request => exact keepsPurposes_handleAdminSaveProbeTask h
    | deleteProbe pathID => exact (keepsPurposes_handleAdminDeleteProbeTask h).orderlyIf
    | start =>
      refine Orderly.orderlyIf (Orderly.bind trivial ?_)
      exact keepsPurposes_ensureCarrierProbeTasks.mono fun _ _ _ _ _ _ _ _ => trivial
    | listCarriers => exact keepsPurposes_handleAdminCarrierProbes.orderlyIf
    | saveCarrier carrier body =>
      exact (keepsPurposes_handleAdminSaveCarrierProbe carrier body).orderlyIf
    | saveLatency request => exact (keepsPurposes_handleAdminSaveLatencyTarget request).orderlyIf
    | deleteLatency pathID =>
      exact (keepsPurposes_handleAdminDeleteLatencyTarget hlatency pathID).orderlyIf
  | proceed number fate => exact h
  | outside change =>
    intro _
    refine ⟨trivial, ?_⟩
    cases change with
    | write node => exact TaskTable.Evolves.refl protect system.shared.tasks
    | delete id =>
      change system.shared.tasks.Evolves protect (system.shared.deleteNode id).tasks
      unfold TaskStore.deleteNode
      split
      · refine system.shared.tasks.evolves_remove fun row _ hrow hkept => ?_
        simp only [Bool.and_eq_true, beq_iff_eq] at hrow
        rw [ProbeTask.listedPurpose, hrow.1] at hkept
        exact hlatency hkept
      · exact TaskTable.Evolves.refl protect system.shared.tasks

/-- A guarded run is orderly. -/
lemma orderlyPool_run (hprotect : ∀ purpose, protect purpose → purpose.isCarrier = true)
    {system : TaskSystem} (h : Pool.OrderlyPool answerTaskCall (ListWorks P) (fun _ => True)
      (TaskStore.Evolves protect) (fun _ => Answered protect) system) {events : List TaskEvent}
    (guarded : Along (TaskSystem.step P) (Guarded P protect) system events) :
    Pool.OrderlyPool answerTaskCall (ListWorks P) (fun _ => True) (TaskStore.Evolves protect)
        (fun _ => Answered protect) (run (TaskSystem.step P) system events) ∧
      system.shared.Evolves protect (run (TaskSystem.step P) system events).shared :=
  Pool.run_orderly h (Along.of_invariant (I := fun _ => True) (fun _ _ _ _ => trivial)
    (fun _ _ _ hevent => fits_of_guarded hprotect hevent) trivial guarded)

/-- Over a guarded run a number keeps its purpose from the moment it is given, and is not given
again. -/
theorem purposes_kept {s : TaskStore} {before after : List TaskEvent}
    (guarded : Along (TaskSystem.step P) (Guarded P fun _ => False) { shared := s }
      (before ++ after)) :
    (run (TaskSystem.step P) { shared := s } before).shared.Evolves (fun _ => False)
      (run (TaskSystem.step P) { shared := s } (before ++ after)).shared := by
  obtain ⟨hbefore, hafter⟩ := along_append.mp guarded
  have hnone (purpose : ProbePurpose) : False → purpose.isCarrier = true := False.elim
  have hstart := (orderlyPool_run hnone ⟨trivial, fun _ _ h => by cases h⟩ hbefore).1
  rw [run_append]
  exact (orderlyPool_run hnone hstart hafter).2

/-- Over a guarded run in which no carrier probe is deleted, every list of the carrier probes has
one for each carrier, however many requests create them at the same time. -/
theorem carriers_known {s : TaskStore} {events : List TaskEvent}
    (guarded : Along (TaskSystem.step P) (Guarded P fun purpose => purpose.isCarrier = true)
      { shared := s } events) {number : ℕ} {tasks : List ProbeTask}
    (hdone : (run (TaskSystem.step P) { shared := s } events).running number =
      some (.done (.carriers tasks))) :
    tasks.map ProbeTask.purpose = [.carrierTelecom, .carrierUnicom, .carrierMobile] := by
  have hpool := (orderlyPool_run (fun _ h => h) ⟨trivial, fun _ _ h => by cases h⟩ guarded).1
  exact hpool.2 number _ hdone _ trivial (refl_of _ _) fun _ h => h

/-- Two requests for the carrier probes at the same time.  Both see that there are none; the second
one cannot create them any more and fails. -/
def carrierRace : List TaskEvent :=
  .start 0 .listCarriers :: .start 1 .listCarriers :: .proceed 0 (.works {}) ::
    .proceed 1 (.works {}) :: .proceed 0 (.works {}) :: .proceed 1 (.works {}) ::
    List.replicate 3 (.proceed 0 (.works {}))

/-- The race is guarded. -/
lemma guarded_carrierRace : Along (TaskSystem.step plainTaskServices)
    (Guarded plainTaskServices protect) { shared := {} } carrierRace := by
  refine along_iff_split.mpr fun before event after hsplit => ?_
  have hmem : event ∈ carrierRace := hsplit ▸ List.mem_append_right _ List.mem_cons_self
  simp only [carrierRace, List.mem_cons, List.mem_replicate] at hmem
  have hworks (number : ℕ) (system : TaskSystem) :
      Guarded plainTaskServices protect system (.proceed number (.works {})) :=
    fun _ _ _ _ _ => ⟨{}, rfl⟩
  rcases hmem with rfl | rfl | rfl | rfl | rfl | rfl | ⟨-, rfl⟩
  · trivial
  · trivial
  all_goals exact hworks _ _

theorem purposes_kept_carrierRace :
    (run (TaskSystem.step plainTaskServices) { shared := {} } (carrierRace.take 5)).shared.Evolves
      (fun _ => False) (run (TaskSystem.step plainTaskServices) { shared := {} }
        (carrierRace.take 5 ++ carrierRace.drop 5)).shared :=
  purposes_kept (by rw [List.take_append_drop]; exact guarded_carrierRace)

/-- A request for a new probe whose body names the first task. -/
def namingRequest : SaveTask :=
  { body := .ok { id := 1, name := "mine", type := .icmp, target := "1.1.1.1", timeoutSeconds := 5,
                  intervalSeconds := 60, runOn := .monitor } }

/-- It takes the place of a carrier probe. -/
example :
    ((run (TaskSystem.step plainTaskServices) { shared := {} }
      (.start 0 .start :: List.replicate 4 (.proceed 0 (.works {})) ++
        [.start 1 (.saveProbe namingRequest), .proceed 1 (.works {})])).shared.tasks.table.lookup
          1).map ProbeTask.purpose = some .custom := by
  decide +kernel

theorem carriers_known_carrierRace :
    ∃ tasks, (run (TaskSystem.step plainTaskServices) { shared := {} } carrierRace).running 0 =
        some (.done (.carriers tasks)) ∧
      tasks.map ProbeTask.purpose = [.carrierTelecom, .carrierUnicom, .carrierMobile] := by
  have hdone : (run (TaskSystem.step plainTaskServices) { shared := {} } carrierRace).running 0 =
    some (.done (.carriers _)) := rfl
  exact ⟨_, hdone, carriers_known guarded_carrierRace hdone⟩

end Runs

end Hostpin
