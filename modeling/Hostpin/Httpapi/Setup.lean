import Hostpin.Foundation.Runs
import Hostpin.Foundation.SharedTable
import Hostpin.Httpapi.Credentials

/-!
# The first administrator

The setup of the site is open to everybody until it is done.  A request looks whether there is an
administrator, and then `Initialize` counts the administrators again in a transaction, inserts one,
inserts three settings, in the order in which a map gives them, and the default rules, and commits.
At READ COMMITTED the count locks nothing, so that two requests can both find no administrator.

`SetupSystem` runs any number of requests, statement by statement and in any order.  What excludes a
second administrator is the primary key of the settings: a transaction that is ready to commit has
all three settings pending, which no other transaction can have committed
(`SetupSystem.single_administrator`).
-/

namespace Hostpin

open Clock Text Runs

/-! ## Requests -/

/-- A row of the settings. -/
structure Setting where
  key : String
  value : String
  updatedAt : ℤ := 0
deriving DecidableEq

/-- The body of a setup request. -/
structure SetupRequest where
  username : String
  password : String
  enrollmentPIN : String
  siteName : String := ""
  siteDescription : String := ""

/-- What a request draws at random, unless that fails: the hashes with their salts, and the id. -/
structure SetupDraws where
  passwordHash : Option String
  pinHash : Option String
  adminID : Option String
  now : Time := 0

/-- Functions that a request uses: the test for a weak PIN, and the JSON of the first settings,
which have a name, a description and the result of that test. -/
structure SetupServices where
  isWeakPIN : String → Bool
  settingsJSON : String → String → Bool → String

/-- What `Initialize` stores. -/
structure InitializeParams where
  admin : Admin
  enrollmentPINHash : String
  settings : String
  now : Time
deriving DecidableEq

/-- The parameters of `Initialize` that a request gives. -/
def setupParams (services : SetupServices) (request : SetupRequest) (draws : SetupDraws) :
    Except ApiError InitializeParams :=
  let username := trimSpace request.username
  let siteName := trimSpace request.siteName
  if username.utf8ByteSize < 3 ∨ 64 < username.utf8ByteSize then
    .error ⟨400, "invalid_username", "username must contain 3 to 64 characters"⟩
  else if request.password.utf8ByteSize < 12 ∨ 512 < request.password.utf8ByteSize then
    .error ⟨400, "weak_password", "password must contain at least 12 characters"⟩
  else if request.enrollmentPIN.utf8ByteSize < 6 ∨ 64 < request.enrollmentPIN.utf8ByteSize then
    .error ⟨400, "invalid_pin", "enrollment PIN must contain 6 to 64 characters"⟩
  else
    let siteName := if siteName = "" then "Hostpin" else siteName
    match draws.passwordHash, draws.pinHash, draws.adminID with
    | none, _, _ => .error ⟨500, "hash_error", "could not secure administrator password"⟩
    | _, none, _ => .error ⟨500, "hash_error", "could not secure enrollment PIN"⟩
    | _, _, none => .error ⟨500, "identity_error", "could not create administrator identity"⟩
    | some passwordHash, some pinHash, some id =>
      .ok
        { admin := { id, username, passwordHash, createdAt := draws.now, updatedAt := draws.now }
          enrollmentPINHash := pinHash
          settings := services.settingsJSON siteName (trimSpace request.siteDescription)
            (services.isWeakPIN request.enrollmentPIN)
          now := draws.now }

/-- The first settings. -/
def InitializeParams.initialSettings (params : InitializeParams) : List Setting :=
  [⟨"enrollment_pin_hash", params.enrollmentPINHash, unixMilli params.now⟩,
    ⟨"site_settings", params.settings, unixMilli params.now⟩,
    ⟨"setup_complete", "true", unixMilli params.now⟩]

/-- The first rules. -/
def defaultRules : List AlertRule :=
  [{ name := "Node offline", metric := .online, operator := .lt, threshold := 0.5,
     recoveryThreshold := 0.5, durationSeconds := 90, cooldownSeconds := 300,
     severity := "critical", enabled := true },
   { name := "CPU sustained high", metric := .cpu, operator := .gt, threshold := 90,
     recoveryThreshold := 80, durationSeconds := 300, cooldownSeconds := 1800,
     severity := "warning", enabled := true },
   { name := "Memory sustained high", metric := .memory, operator := .gt, threshold := 90,
     recoveryThreshold := 80, durationSeconds := 300, cooldownSeconds := 1800,
     severity := "warning", enabled := true },
   { name := "Disk capacity high", metric := .disk, operator := .gt, threshold := 90,
     recoveryThreshold := 85, durationSeconds := 300, cooldownSeconds := 1800,
     severity := "critical", enabled := true }]

/-! ## The system -/

/-- Why a setup fails. -/
inductive SetupError where
  | alreadySetup
  | store
deriving DecidableEq

/-- Where a setup stands: before the transaction, after the count, while the settings and then the
rules are inserted of which some remain, and at its end. -/
inductive SetupPhase where
  | checked
  | counted
  | settings (remaining : List Setting)
  | rules (remaining : List AlertRule)
  | committed
  | ended (error : SetupError)
deriving DecidableEq

/-- A setup that has come to `Initialize`. -/
structure SetupCall where
  params : InitializeParams
  phase : SetupPhase := .checked

/-- The tables, the sequence of the rule ids, and the setups, which are numbered by their place in
the list. -/
structure SetupSystem where
  admins : SharedTable fun a b : Admin => a.id = b.id ∨ a.username = b.username := .empty
  settings : SharedTable fun a b : Setting => a.key = b.key := .empty
  rules : SharedTable fun a b : AlertRule => a.id = b.id := .empty
  ruleSequence : ℤ := 0
  calls : List SetupCall := []

/-- What can happen.  A call of the store that does not work says so; the setting that is inserted
next is given by its place among those that remain. -/
inductive SetupEvent where
  | request (request : SetupRequest) (draws : SetupDraws) (works : Bool)
  | count (i : ℕ) (works : Bool)
  | insertAdmin (i : ℕ) (works : Bool)
  | insertSetting (i k : ℕ) (works : Bool)
  | insertRule (i : ℕ) (works : Bool)
  | commit (i : ℕ) (works : Bool)

namespace SetupSystem

/-- A setup goes on. -/
def setPhase (s : SetupSystem) (i : ℕ) (call : SetupCall) (phase : SetupPhase) : SetupSystem :=
  { s with calls := s.calls.set i { call with phase } }

/-- A setup fails, and its transaction is rolled back. -/
def fail (s : SetupSystem) (i : ℕ) (call : SetupCall) (error : SetupError) : SetupSystem :=
  { s.setPhase i call (.ended error) with
    admins := s.admins.rollback i
    settings := s.settings.rollback i
    rules := s.rules.rollback i }

/-- A request looks whether the setup is complete, and is checked. -/
def request (services : SetupServices) (s : SetupSystem) (request : SetupRequest)
    (draws : SetupDraws) (works : Bool) : SetupSystem :=
  if !works || 0 < s.admins.committed.length then s
  else
    match setupParams services request draws with
    | .error _ => s
    | .ok params => { s with calls := s.calls ++ [{ params }] }

/-- The transaction begins and counts the administrators. -/
def count (s : SetupSystem) (i : ℕ) (call : SetupCall) (works : Bool) : SetupSystem :=
  if !works then s.fail i call .store
  else if 0 < (s.admins.committed ++ s.admins.writesOf i).length then s.fail i call .alreadySetup
  else s.setPhase i call .counted

/-- The administrator is inserted. -/
def insertAdmin (s : SetupSystem) (i : ℕ) (call : SetupCall) (works : Bool) : SetupSystem :=
  if !works then s.fail i call .store
  else
    match s.admins.insert i call.params.admin with
    | .fails => s.fail i call .store
    | .waits => s
    | .inserted admins =>
      { s.setPhase i call (.settings call.params.initialSettings) with admins }

/-- A setting is inserted; after the last one it is the turn of the rules. -/
def insertSetting (s : SetupSystem) (i : ℕ) (call : SetupCall) (remaining : List Setting) (k : ℕ)
    (works : Bool) : SetupSystem :=
  match remaining[k]? with
  | none => s
  | some setting =>
    if !works then s.fail i call .store
    else
      match s.settings.insert i setting with
      | .fails => s.fail i call .store
      | .waits => s
      | .inserted settings =>
        let phase :=
          if remaining.eraseIdx k = [] then .rules defaultRules
          else .settings (remaining.eraseIdx k)
        { s.setPhase i call phase with settings }

/-- A rule is inserted, with the next id. -/
def insertRule (s : SetupSystem) (i : ℕ) (call : SetupCall) (rule : AlertRule)
    (remaining : List AlertRule) (works : Bool) : SetupSystem :=
  if !works then s.fail i call .store
  else
    match s.rules.insert i { rule with id := s.ruleSequence + 1 } with
    | .fails => s.fail i call .store
    | .waits => s
    | .inserted rules =>
      { s.setPhase i call (.rules remaining) with rules, ruleSequence := s.ruleSequence + 1 }

/-- The transaction commits. -/
def commit (s : SetupSystem) (i : ℕ) (call : SetupCall) (works : Bool) : SetupSystem :=
  if !works then s.fail i call .store
  else
    { s.setPhase i call .committed with
      admins := s.admins.commit i
      settings := s.settings.commit i
      rules := s.rules.commit i }

/-- A setup goes on with an event, if this is what comes next. -/
def proceed (s : SetupSystem) (i : ℕ) (call : SetupCall) : SetupEvent → SetupPhase → SetupSystem
  | .count _ works, .checked => s.count i call works
  | .insertAdmin _ works, .counted => s.insertAdmin i call works
  | .insertSetting _ k works, .settings remaining => s.insertSetting i call remaining k works
  | .insertRule _ works, .rules (rule :: remaining) => s.insertRule i call rule remaining works
  | .commit _ works, .rules [] => s.commit i call works
  | _, _ => s

/-- The system after an event. -/
def step (services : SetupServices) (s : SetupSystem) (event : SetupEvent) : SetupSystem :=
  match event with
  | .request request draws works => s.request services request draws works
  | .count i _ | .insertAdmin i _ | .insertSetting i _ _ | .insertRule i _ | .commit i _ =>
    match s.calls[i]? with
    | none => s
    | some call => s.proceed i call event call.phase

/-! ## What is to be shown -/

/-- Nothing was set up, or one setup has committed and the tables have its rows and no others. -/
def Single (s : SetupSystem) : Prop :=
  ((∀ call ∈ s.calls, call.phase ≠ .committed) ∧ s.admins.committed = [] ∧
      s.settings.committed = [] ∧ s.rules.committed = []) ∨
    ∃ (i : ℕ) (call : SetupCall), s.calls[i]? = some call ∧ call.phase = .committed ∧
      (∀ (j : ℕ) (other : SetupCall), s.calls[j]? = some other → other.phase = .committed → j = i) ∧
      s.admins.committed = [call.params.admin] ∧
      s.settings.committed.Perm call.params.initialSettings ∧
      s.rules.committed.map (fun rule => { rule with id := 0 }) = defaultRules

/-- A setup that has failed has left nothing pending. -/
def Clean (s : SetupSystem) : Prop :=
  ∀ (i : ℕ) (call : SetupCall) (error : SetupError), s.calls[i]? = some call →
    call.phase = .ended error →
    s.admins.writesOf i = [] ∧ s.settings.writesOf i = [] ∧ s.rules.writesOf i = []

/-! ## What an event does -/

variable {services : SetupServices} {s : SetupSystem} {event : SetupEvent}

/-- A request begins a setup, or a setup fails, or it takes its next step. -/
inductive Becomes (s : SetupSystem) : SetupSystem → Prop
  | same : Becomes s s
  | begun (params : InitializeParams) : Becomes s { s with calls := s.calls ++ [{ params }] }
  | failed {i : ℕ} {call error} (found : s.calls[i]? = some call)
      (running : call.phase ≠ .committed) : Becomes s (s.fail i call error)
  | counted {i : ℕ} {call} (found : s.calls[i]? = some call) (phase : call.phase = .checked) :
      Becomes s (s.setPhase i call .counted)
  | admin {i : ℕ} {call admins} (found : s.calls[i]? = some call) (phase : call.phase = .counted)
      (inserted : s.admins.insert i call.params.admin = .inserted admins) :
      Becomes s { s.setPhase i call (.settings call.params.initialSettings) with admins }
  | setting {i : ℕ} {call remaining settings} {k : ℕ} {setting} (found : s.calls[i]? = some call)
      (phase : call.phase = .settings remaining) (next : remaining[k]? = some setting)
      (inserted : s.settings.insert i setting = .inserted settings) :
      Becomes s
        { s.setPhase i call
            (if remaining.eraseIdx k = [] then .rules defaultRules
              else .settings (remaining.eraseIdx k)) with settings }
  | rule {i : ℕ} {call rule remaining rules} (found : s.calls[i]? = some call)
      (phase : call.phase = .rules (rule :: remaining))
      (inserted : s.rules.insert i { rule with id := s.ruleSequence + 1 } = .inserted rules) :
      Becomes s
        { s.setPhase i call (.rules remaining) with rules, ruleSequence := s.ruleSequence + 1 }
  | committed {i : ℕ} {call} (found : s.calls[i]? = some call) (phase : call.phase = .rules []) :
      Becomes s
        { s.setPhase i call .committed with
          admins := s.admins.commit i
          settings := s.settings.commit i
          rules := s.rules.commit i }

lemma becomes_proceed {i : ℕ} {call : SetupCall} (found : s.calls[i]? = some call) :
    Becomes s (s.proceed i call event call.phase) := by
  unfold proceed
  split
  next works phase =>
    have running : call.phase ≠ .committed := by simp [phase]
    unfold count
    split_ifs
    · exact .failed found running
    · exact .failed found running
    · exact .counted found phase
  next works phase =>
    have running : call.phase ≠ .committed := by simp [phase]
    unfold insertAdmin
    split_ifs
    · exact .failed found running
    cases inserted : s.admins.insert i call.params.admin with
    | fails => exact .failed found running
    | waits => exact .same
    | inserted admins => exact .admin found phase inserted
  next k works remaining phase =>
    have running : call.phase ≠ .committed := by simp [phase]
    unfold insertSetting
    cases next : remaining[k]? with
    | none => exact .same
    | some setting =>
      simp only
      by_cases fails : !works
      · rw [if_pos fails]
        exact .failed found running
      rw [if_neg fails]
      cases inserted : s.settings.insert i setting with
      | fails => exact .failed found running
      | waits => exact .same
      | inserted settings => exact .setting found phase next inserted
  next works rule remaining phase =>
    have running : call.phase ≠ .committed := by simp [phase]
    unfold insertRule
    split_ifs
    · exact .failed found running
    cases inserted : s.rules.insert i { rule with id := s.ruleSequence + 1 } with
    | fails => exact .failed found running
    | waits => exact .same
    | inserted rules => exact .rule found phase inserted
  next works phase =>
    have running : call.phase ≠ .committed := by simp [phase]
    unfold commit
    split_ifs
    · exact .failed found running
    · exact .committed found phase
  next => exact .same

lemma becomes_step (services : SetupServices) (s : SetupSystem) (event : SetupEvent) :
    Becomes s (s.step services event) := by
  have ofCall : ∀ i : ℕ, Becomes s
      (match s.calls[i]? with
        | none => s
        | some call => s.proceed i call event call.phase) := by
    intro i
    cases found : s.calls[i]? with
    | none => exact .same
    | some call => exact becomes_proceed found
  cases event with
  | request request draws works =>
    simp only [step, SetupSystem.request]
    split_ifs
    · exact .same
    · cases setupParams services request draws with
      | error error => exact .same
      | ok params => exact .begun params
  | count i works => exact ofCall i
  | insertAdmin i works => exact ofCall i
  | insertSetting i k works => exact ofCall i
  | insertRule i works => exact ofCall i
  | commit i works => exact ofCall i

/-! ## The invariant -/

/-- A setup has pending what it has inserted so far, and nothing before and after its
transaction. -/
def Holds (s : SetupSystem) (i : ℕ) (call : SetupCall) : Prop :=
  match call.phase with
  | .settings remaining =>
    s.admins.writesOf i = [call.params.admin] ∧
      (s.settings.writesOf i ++ remaining).Perm call.params.initialSettings ∧
      s.rules.writesOf i = []
  | .rules remaining =>
    s.admins.writesOf i = [call.params.admin] ∧
      (s.settings.writesOf i).Perm call.params.initialSettings ∧
      (s.rules.writesOf i).map (fun rule => { rule with id := 0 }) ++ remaining = defaultRules
  | _ => s.admins.writesOf i = [] ∧ s.settings.writesOf i = [] ∧ s.rules.writesOf i = []

/-- Each setup has pending what it should, a number without a setup has nothing pending, and at most
one setup has committed. -/
structure Inv (s : SetupSystem) : Prop where
  holds : ∀ (i : ℕ) (call : SetupCall), s.calls[i]? = some call → s.Holds i call
  free : ∀ i : ℕ, s.calls[i]? = none →
    s.admins.writesOf i = [] ∧ s.settings.writesOf i = [] ∧ s.rules.writesOf i = []
  single : s.Single

/-- What a setup has pending depends on its own rows only. -/
lemma Holds.congr {s' : SetupSystem} {i : ℕ} {call : SetupCall} (h : s.Holds i call)
    (admins : s'.admins.writesOf i = s.admins.writesOf i)
    (settings : s'.settings.writesOf i = s.settings.writesOf i)
    (rules : s'.rules.writesOf i = s.rules.writesOf i) : s'.Holds i call := by
  unfold Holds at h ⊢
  rw [admins, settings, rules]
  exact h

/-- A step of a setup that does not commit keeps the invariant, when the rows of the other setups
and the committed rows stay as they are and it has pending what it should. -/
lemma Inv.move (h : s.Inv) {s' : SetupSystem} {i : ℕ} {call : SetupCall} (phase : SetupPhase)
    (found : s.calls[i]? = some call) (running : call.phase ≠ .committed)
    (goesOn : phase ≠ .committed) (calls : s'.calls = s.calls.set i { call with phase })
    (others : ∀ j : ℕ, j ≠ i → s'.admins.writesOf j = s.admins.writesOf j ∧
      s'.settings.writesOf j = s.settings.writesOf j ∧ s'.rules.writesOf j = s.rules.writesOf j)
    (committed : s'.admins.committed = s.admins.committed ∧
      s'.settings.committed = s.settings.committed ∧ s'.rules.committed = s.rules.committed)
    (holds : s'.Holds i { call with phase }) : s'.Inv := by
  have bound := (List.getElem?_eq_some_iff.mp found).1
  obtain ⟨admins, settings, rules⟩ := committed
  refine ⟨fun j other hother => ?_, fun j hnone => ?_, ?_⟩
  · by_cases same : i = j
    · subst same
      rw [calls, List.getElem?_set_self bound] at hother
      cases hother
      exact holds
    · rw [calls, List.getElem?_set_ne same] at hother
      obtain ⟨hadmins, hsettings, hrules⟩ := others j (Ne.symm same)
      exact (h.holds j other hother).congr hadmins hsettings hrules
  · have hne : j ≠ i := by
      rintro rfl
      rw [calls, List.getElem?_set_self bound] at hnone
      cases hnone
    rw [calls, List.getElem?_set_ne (Ne.symm hne)] at hnone
    obtain ⟨hadmins, hsettings, hrules⟩ := others j hne
    rw [hadmins, hsettings, hrules]
    exact h.free j hnone
  · rcases h.single with ⟨none, empty⟩ | ⟨w, winner, hwinner, won, only, rows⟩
    · refine Or.inl ⟨fun other hother => ?_, by rw [admins, settings, rules]; exact empty⟩
      rw [calls] at hother
      rcases List.mem_or_eq_of_mem_set hother with old | rfl
      · exact none other old
      · exact goesOn
    · have hne : i ≠ w := by
        rintro rfl
        rw [found] at hwinner
        cases hwinner
        exact running won
      refine Or.inr ⟨w, winner, by rw [calls, List.getElem?_set_ne hne, hwinner], won,
        fun j other hother hcommitted => ?_, by rw [admins, settings, rules]; exact rows⟩
      by_cases same : i = j
      · subst same
        rw [calls, List.getElem?_set_self bound] at hother
        cases hother
        exact absurd hcommitted goesOn
      · rw [calls, List.getElem?_set_ne same] at hother
        exact only j other hother hcommitted

/-- A setup that begins keeps the invariant. -/
lemma Inv.begun (h : s.Inv) (params : InitializeParams) :
    ({ s with calls := s.calls ++ [{ params }] } : SetupSystem).Inv := by
  have cases_of : ∀ (j : ℕ) (other : SetupCall),
      (s.calls ++ [(⟨params, .checked⟩ : SetupCall)])[j]? = some other →
      s.calls[j]? = some other ∨ (s.calls[j]? = none ∧ other = ⟨params, .checked⟩) := by
    intro j other hother
    rcases lt_or_ge j s.calls.length with lt | ge
    · rw [List.getElem?_append_left lt] at hother
      exact Or.inl hother
    · rw [List.getElem?_append_right ge] at hother
      exact Or.inr ⟨List.getElem?_eq_none ge, List.mem_singleton.mp (List.mem_of_getElem? hother)⟩
  refine ⟨fun j other hother => ?_, fun j hnone => ?_, ?_⟩
  · rcases cases_of j other hother with old | ⟨free, rfl⟩
    · exact h.holds j other old
    · exact h.free j free
  · refine h.free j (List.getElem?_eq_none ?_)
    have := List.getElem?_eq_none_iff.mp hnone
    rw [List.length_append] at this
    omega
  · rcases h.single with ⟨none, empty⟩ | ⟨w, winner, hwinner, won, only, rows⟩
    · refine Or.inl ⟨fun other hother => ?_, empty⟩
      rcases List.mem_append.mp hother with old | new
      · exact none other old
      · rw [List.mem_singleton.mp new]
        exact nofun
    · refine Or.inr ⟨w, winner, ?_, won, fun j other hother hcommitted => ?_, rows⟩
      · rw [List.getElem?_append_left (List.getElem?_eq_some_iff.mp hwinner).1, hwinner]
      · rcases cases_of j other hother with old | ⟨-, rfl⟩
        · exact only j other old hcommitted
        · cases hcommitted

/-- A setup that is ready to commit finds the tables empty: the setting `setup_complete` is among
its pending rows, and no committed row has its key. -/
lemma Inv.committed_eq_nil (h : s.Inv) {i : ℕ} {call : SetupCall} (found : s.calls[i]? = some call)
    (phase : call.phase = .rules []) : (∀ call ∈ s.calls, call.phase ≠ .committed) ∧
      s.admins.committed = [] ∧ s.settings.committed = [] ∧ s.rules.committed = [] := by
  rcases h.single with empty | ⟨w, winner, -, -, -, -, settings, -⟩
  · exact empty
  · have holds := h.holds i call found
    simp only [Holds, phase] at holds
    have mem : ∀ params : InitializeParams, ⟨"setup_complete", "true", unixMilli params.now⟩ ∈
        params.initialSettings := fun params => by simp [InitializeParams.initialSettings]
    have pending := holds.2.1.mem_iff.mpr (mem call.params)
    have committed := settings.mem_iff.mpr (mem winner.params)
    exact (s.settings.not_clash committed pending (Or.inl rfl)).elim

/-- A commit keeps the invariant. -/
lemma Inv.commit (h : s.Inv) {i : ℕ} {call : SetupCall} (found : s.calls[i]? = some call)
    (phase : call.phase = .rules []) :
    ({ s.setPhase i call .committed with
      admins := s.admins.commit i
      settings := s.settings.commit i
      rules := s.rules.commit i } : SetupSystem).Inv := by
  have bound := (List.getElem?_eq_some_iff.mp found).1
  obtain ⟨none, admins, settings, rules⟩ := h.committed_eq_nil found phase
  have holds := h.holds i call found
  simp only [Holds, phase, List.append_nil] at holds
  refine ⟨fun j other hother => ?_, fun j hnone => ?_, ?_⟩
  · by_cases same : i = j
    · subst same
      simp only [setPhase, List.getElem?_set_self bound, Option.some.injEq] at hother
      subst hother
      simp [Holds]
    · simp only [setPhase, List.getElem?_set_ne same] at hother
      exact (h.holds j other hother).congr (by simp [Ne.symm same]) (by simp [Ne.symm same])
        (by simp [Ne.symm same])
  · have hne : j ≠ i := by
      rintro rfl
      simp [setPhase, bound] at hnone
    simp only [setPhase, List.getElem?_set_ne (Ne.symm hne)] at hnone
    simpa [hne] using h.free j hnone
  · refine Or.inr ⟨i, { call with phase := .committed }, ?_, rfl, fun j other hother won => ?_, ?_⟩
    · simp only [setPhase, List.getElem?_set_self bound]
    · by_contra hne
      simp only [setPhase, List.getElem?_set_ne (Ne.symm hne)] at hother
      exact none other (List.mem_of_getElem? hother) won
    · simp only [SharedTable.committed_commit, admins, settings, rules, List.nil_append]
      exact holds

lemma id_of_mem_defaultRules {rule : AlertRule} (h : rule ∈ defaultRules) : rule.id = 0 := by
  simp only [defaultRules, List.mem_cons, List.not_mem_nil, or_false] at h
  rcases h with rfl | rfl | rfl | rfl <;> rfl

/-- Every step keeps the invariant. -/
lemma Inv.step (h : s.Inv) (services : SetupServices) (event : SetupEvent) :
    (s.step services event).Inv := by
  have becomes := becomes_step services s event
  generalize s.step services event = s' at becomes
  cases becomes with
  | same => exact h
  | begun params => exact h.begun params
  | @failed i call error found running =>
    refine h.move (.ended error) found running nofun rfl (fun j hne => ?_)
      ⟨rfl, rfl, rfl⟩ ?_
    · simp [fail, hne]
    · simp [Holds, fail]
  | @counted i call found phase =>
    have holds := h.holds i call found
    simp only [Holds, phase] at holds
    exact h.move .counted found (by simp [phase]) nofun rfl
      (fun j _ => ⟨rfl, rfl, rfl⟩) ⟨rfl, rfl, rfl⟩ holds
  | @admin i call admins found phase inserted =>
    have holds := h.holds i call found
    simp only [Holds, phase] at holds
    obtain ⟨committed, writes⟩ := SharedTable.insert_eq_inserted inserted
    refine h.move (.settings call.params.initialSettings) found (by simp [phase]) nofun rfl
      (fun j hne => ⟨by simp [writes, hne], rfl, rfl⟩) ⟨committed, rfl, rfl⟩ ?_
    refine ⟨?_, ?_, holds.2.2⟩
    · simp [writes, holds.1]
    · simp only [setPhase, holds.2.1, List.nil_append, List.Perm.refl]
  | @setting i call remaining settings k setting found phase next inserted =>
    have holds := h.holds i call found
    simp only [Holds, phase] at holds
    obtain ⟨hadmins, hsettings, hrules⟩ := holds
    obtain ⟨committed, writes⟩ := SharedTable.insert_eq_inserted inserted
    have perm : (settings.writesOf i ++ remaining.eraseIdx k).Perm call.params.initialSettings := by
      refine List.Perm.trans ?_ hsettings
      rw [writes, if_pos rfl, List.append_assoc]
      obtain ⟨bound, rfl⟩ := List.getElem?_eq_some_iff.mp next
      exact List.Perm.append_left _ (List.getElem_cons_eraseIdx_perm bound)
    refine h.move (if remaining.eraseIdx k = [] then .rules defaultRules
        else .settings (remaining.eraseIdx k)) found (by simp [phase])
      (by split_ifs <;> exact nofun) rfl (fun j hne => ⟨rfl, by simp [writes, hne], rfl⟩)
      ⟨rfl, committed, rfl⟩ ?_
    by_cases last : remaining.eraseIdx k = []
    · rw [last, List.append_nil] at perm
      simp only [Holds, last, if_true]
      exact ⟨hadmins, perm, by simp [setPhase, hrules]⟩
    · simp only [Holds, last, if_false]
      exact ⟨hadmins, perm, hrules⟩
  | @rule i call rule remaining rules found phase inserted =>
    have holds := h.holds i call found
    simp only [Holds, phase] at holds
    obtain ⟨hadmins, hsettings, hrules⟩ := holds
    obtain ⟨committed, writes⟩ := SharedTable.insert_eq_inserted inserted
    refine h.move (.rules remaining) found (by simp [phase]) nofun rfl
      (fun j hne => ⟨rfl, rfl, by simp [writes, hne]⟩) ⟨rfl, rfl, committed⟩
      ⟨hadmins, hsettings, ?_⟩
    have id : ({ rule with id := 0 } : AlertRule) = rule := by
      have mem : rule ∈ defaultRules := hrules ▸ by simp
      rw [← id_of_mem_defaultRules mem]
    rw [← hrules, writes, if_pos rfl, List.map_append, List.append_assoc]
    simp [id]
  | committed found phase => exact h.commit found phase

lemma inv_empty : Inv {} :=
  ⟨fun _ _ found => (by simp at found), fun _ _ => ⟨rfl, rfl, rfl⟩,
    Or.inl ⟨fun _ mem => absurd mem List.not_mem_nil, rfl, rfl, rfl⟩⟩

/-- However setup requests interleave, at most one of them commits, there is at most one
administrator, and a request that has failed has left nothing behind. -/
theorem single_administrator (services : SetupServices) (events : List SetupEvent) :
    (run (step services) {} events).admins.committed.length ≤ 1 ∧
      (run (step services) {} events).Single ∧ (run (step services) {} events).Clean := by
  have inv : (run (step services) {} events).Inv :=
    run_keeps (fun _ event h => h.step services event) inv_empty events
  refine ⟨?_, inv.single, fun i call error found ended => ?_⟩
  · rcases inv.single with ⟨-, empty, -⟩ | ⟨i, call, -, -, -, one, -⟩
    · simp [empty]
    · simp [one]
  · have holds := inv.holds i call found
    simpa only [Holds, ended] using holds

end SetupSystem

end Hostpin
