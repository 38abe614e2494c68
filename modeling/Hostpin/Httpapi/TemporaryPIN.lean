import Hostpin.Store.Enrollment

/-!
# Creating and revoking the temporary PIN

The administrator creates temporary PINs, each of which revokes the PINs before it, and revokes the
latest one.  A creation revokes the PINs that its transaction finds unrevoked, and a revocation
reads the PIN with the greatest creation time before it revokes it; other requests take their steps
in between (`TemporaryPINs`).

A revocation succeeds also when the PIN that it has read is revoked already, while another one is
not (`active_afterRevoke`).  It leaves no active PIN exactly when no other PIN is unrevoked, and
this is so as long as the requests are in order (`revoked_noActive`).
-/

namespace Hostpin

open Clock Runs

/-! ## Requests -/

/-- The PIN that a request creates. -/
def newTemporaryPIN (expiresInMinutes : ℤ) (id pinHash : String) (now : Time) :
    Option TemporaryEnrollmentPIN :=
  let minutes := if expiresInMinutes = 0 then 30 else expiresInMinutes
  if minutes < 5 ∨ 24 * 60 < minutes then none
  else
    some
      { id, pinHash, createdAt := unixMilli now, expiresAt := unixMilli (now + minutes * minute) }

/-- Where a revocation stands. -/
inductive RevocationPhase where
  | chosen (id : String)
  | answered (success : Bool)
deriving DecidableEq

/-- The PINs and the requests of the administrator that are under way, which are numbered by their
place in the list. -/
structure TemporaryPINs where
  pins : PINTable := .empty
  creations : List ReplaceCall := []
  revocations : List RevocationPhase := []

/-- What can happen.  A call of the store that does not work says so. -/
inductive TemporaryPINEvent where
  | create (expiresInMinutes : ℤ) (id pinHash : String) (now : Time)
  | commit (i : ℕ) (works : Bool)
  | readLatest (choice : ℕ) (works : Bool)
  | revoke (i : ℕ) (now : Time) (works : Bool)

/-- Whether a PIN authorizes an enrollment, and with which temporary PIN. -/
def authorizeEnrollmentPIN (verifyHash : String → String → Bool) (setting : Option String)
    (temporary : Option TemporaryEnrollmentPIN) (pin : String) : String × Bool :=
  if setting.any (verifyHash · pin) then ("", true)
  else
    match temporary with
    | some temporary =>
      if verifyHash temporary.pinHash pin then (temporary.id, true) else ("", false)
    | none => ("", false)

namespace TemporaryPINs

/-- A creation commits. -/
def commit (s : TemporaryPINs) (i : ℕ) (call : ReplaceCall) : TemporaryPINs :=
  match s.pins.replace call.found call.pin call.now with
  | none => s
  | some pins => { s with pins, creations := s.creations.set i { call with finished := true } }

/-- A revocation reads the latest PIN; without one there is nothing to revoke. -/
def readLatest (s : TemporaryPINs) (choice : ℕ) (works : Bool) : RevocationPhase :=
  if !works then .answered false
  else
    match s.pins.latest choice with
    | none => .answered true
    | some pin => .chosen pin.id

/-- A revocation revokes the PIN that it has read.  A PIN that is not found unrevoked is fine. -/
def revoke (s : TemporaryPINs) (i : ℕ) (id : String) (now : Time) (works : Bool) : TemporaryPINs :=
  if !works then { s with revocations := s.revocations.set i (.answered false) }
  else
    { s with
      pins := (s.pins.revoke id now).getD s.pins
      revocations := s.revocations.set i (.answered true) }

/-- The system after an event. -/
def step (s : TemporaryPINs) : TemporaryPINEvent → TemporaryPINs
  | .create expiresInMinutes id pinHash now =>
    match newTemporaryPIN expiresInMinutes id pinHash now with
    | none => s
    | some pin => { s with creations := s.creations ++ [{ pin, now, found := s.pins.unrevoked }] }
  | .commit i works =>
    match s.creations[i]? with
    | some call => if works ∧ call.finished = false then s.commit i call else s
    | none => s
  | .readLatest choice works =>
    { s with revocations := s.revocations ++ [s.readLatest choice works] }
  | .revoke i now works =>
    match s.revocations[i]? with
    | some (.chosen id) => s.revoke i id now works
    | _ => s

/-- An event makes a revocation answer that it has succeeded. -/
def Succeeds (s : TemporaryPINs) (event : TemporaryPINEvent) : Prop :=
  ∃ i : ℕ, s.revocations[i]? ≠ some (RevocationPhase.answered true) ∧
    (s.step event).revocations[i]? = some (RevocationPhase.answered true)

/-- No PIN is unrevoked other than one with an id. -/
def OnlyUnrevoked (t : PINTable) (id : String) : Prop :=
  ∀ pin ∈ t.rows, pin.revokedAt = none → pin.id = id

instance (t : PINTable) (id : String) : Decidable (OnlyUnrevoked t id) :=
  inferInstanceAs (Decidable (∀ pin ∈ t.rows, pin.revokedAt = none → pin.id = id))

/-- When a revocation revokes the PIN that it has read, no other PIN is unrevoked. -/
def Alone (s : TemporaryPINs) : TemporaryPINEvent → Prop
  | .revoke i _ _ =>
    match s.revocations[i]? with
    | some (.chosen id) => OnlyUnrevoked s.pins id
    | _ => True
  | _ => True

instance (s : TemporaryPINs) (event : TemporaryPINEvent) : Decidable (s.Alone event) :=
  match event with
  | .revoke i _ _ =>
    match h : s.revocations[i]? with
    | some (.chosen id) => decidable_of_iff (OnlyUnrevoked s.pins id) (by simp [Alone, h])
    | some (.answered _) | none => isTrue (by simp [Alone, h])
  | .create .. | .commit .. | .readLatest .. => instDecidableTrue

/-- A creation that commits has found every unrevoked PIN and is later than every PIN, and no
revocation is under way. -/
def InOrder (s : TemporaryPINs) : TemporaryPINEvent → Prop
  | .commit i _ =>
    match s.creations[i]? with
    | some call =>
      (∀ pin ∈ s.pins, pin.revokedAt = none → pin.id ∈ call.found) ∧
        (∀ pin ∈ s.pins, pin.createdAt < call.pin.createdAt) ∧
        ∀ id, .chosen id ∉ s.revocations
    | none => True
  | _ => True

/-! ## The table of PINs -/

/-- No PIN is unrevoked. -/
def AllRevoked (t : PINTable) : Prop := ∀ pin ∈ t, pin.revokedAt ≠ none

variable {t u : PINTable} {id : String} {now : Time} {choice : ℕ}

lemma newest_ne_nil {pins : List TemporaryEnrollmentPIN} (h : pins ≠ []) :
    PINTable.newest pins ≠ [] := by
  obtain ⟨pin, mem, greatest⟩ :=
    pins.toFinset.exists_max_image TemporaryEnrollmentPIN.createdAt (by simpa using h)
  refine List.ne_nil_of_mem (a := pin) (List.mem_filter.mpr ⟨List.mem_toFinset.mp mem, ?_⟩)
  exact List.all_eq_true.mpr fun other hother =>
    decide_eq_true (greatest other (List.mem_toFinset.mpr hother))

/-- The choice among some rows succeeds when there is one. -/
lemma choose_eq_none {pins : List TemporaryEnrollmentPIN} :
    (PINTable.newest pins)[choice % (PINTable.newest pins).length]? = none ↔ pins = [] := by
  constructor
  · intro h
    by_contra hne
    have : 0 < (PINTable.newest pins).length := List.length_pos_iff.mpr (newest_ne_nil hne)
    exact absurd (List.getElem?_eq_none_iff.mp h) (not_le.mpr (Nat.mod_lt _ this))
  · rintro rfl
    rfl

lemma latest_eq_none : t.latest choice = none ↔ t.rows = [] := choose_eq_none

/-- There is no active PIN when every unrevoked PIN has expired. -/
lemma active_eq_none :
    t.active now choice = none ↔
      ∀ pin ∈ t, pin.revokedAt = none → pin.expiresAt ≤ unixMilli now := by
  refine choose_eq_none.trans ?_
  simp [List.filter_eq_nil_iff, PINTable.isActive, KeyedTable.mem_def]

/-- There is no active PIN at any time exactly when all PINs are revoked. -/
lemma active_eq_none_forall : (∀ now choice, t.active now choice = none) ↔ AllRevoked t := by
  simp only [active_eq_none]
  constructor
  · intro h pin mem unrevoked
    have := h (ofUnixMilli (pin.expiresAt - 1)) 0 pin mem unrevoked
    rw [unixMilli_ofUnixMilli] at this
    omega
  · exact fun h now choice pin mem unrevoked => absurd unrevoked (h pin mem)

/-- After a revocation the unrevoked PINs are the old ones with another id. -/
lemma unrevoked_revoke {pin : TemporaryEnrollmentPIN} :
    pin ∈ (t.revoke id now).getD t ∧ pin.revokedAt = none ↔
      (pin ∈ t ∧ pin.revokedAt = none) ∧ pin.id ≠ id := by
  have same (h : ∀ old ∈ t, old.id = id → old.revokedAt ≠ none) :
      pin ∈ t ∧ pin.revokedAt = none ↔ (pin ∈ t ∧ pin.revokedAt = none) ∧ pin.id ≠ id :=
    ⟨fun ⟨mem, unrevoked⟩ => ⟨⟨mem, unrevoked⟩, fun hid => h pin mem hid unrevoked⟩, And.left⟩
  unfold PINTable.revoke
  split
  next missing =>
    exact same fun old mem hid => absurd hid (KeyedTable.lookup_eq_none_iff.mp missing old mem)
  next old found =>
    obtain ⟨hold, hid⟩ := KeyedTable.lookup_eq_some_iff.mp found
    split
    · simp only [Option.getD_some, KeyedTable.mem_updateAll]
      constructor
      · rintro ⟨⟨row, mem, rfl⟩, unrevoked⟩
        by_cases h : row.id = id
        · cases hrevoked : row.revokedAt <;>
            simp [PINTable.onRow, h, TemporaryEnrollmentPIN.revoke, hrevoked] at unrevoked
        · have stays : PINTable.onRow id (.revoke now) row = row := if_neg h
          rw [stays] at unrevoked ⊢
          exact ⟨⟨mem, unrevoked⟩, h⟩
      · rintro ⟨⟨mem, unrevoked⟩, h⟩
        exact ⟨⟨pin, mem, if_neg h⟩, unrevoked⟩
    next revoked =>
      exact same fun row mem h => KeyedTable.eq_of_key_eq mem hold (h.trans hid.symm) ▸ revoked

lemma allRevoked_revoke : AllRevoked ((t.revoke id now).getD t) ↔ OnlyUnrevoked t id := by
  have unrevoked (pin : TemporaryEnrollmentPIN) := @unrevoked_revoke t id now pin
  constructor
  · intro h pin mem hpin
    by_contra hid
    obtain ⟨mem', hpin'⟩ := (unrevoked pin).mpr ⟨⟨mem, hpin⟩, hid⟩
    exact h pin mem' hpin'
  · intro h pin mem hpin
    obtain ⟨⟨mem', hpin'⟩, hid⟩ := (unrevoked pin).mp ⟨mem, hpin⟩
    exact hid (h pin mem' hpin')

lemma revokeAmong_createdAt (ids : List String) (now : Time) (pin : TemporaryEnrollmentPIN) :
    (PINTable.revokeAmong ids now pin).createdAt = pin.createdAt := by
  unfold PINTable.revokeAmong TemporaryEnrollmentPIN.revoke
  split
  · split <;> rfl
  · rfl

/-- A revocation changes neither an id nor a creation time. -/
lemma exists_of_mem_revoke {pin : TemporaryEnrollmentPIN} (mem : pin ∈ (t.revoke id now).getD t) :
    ∃ old ∈ t, old.id = pin.id ∧ old.createdAt = pin.createdAt := by
  unfold PINTable.revoke at mem
  split at mem
  · exact ⟨pin, mem, rfl, rfl⟩
  · split at mem
    · rw [Option.getD_some, KeyedTable.mem_updateAll] at mem
      obtain ⟨old, hold, rfl⟩ := mem
      refine ⟨old, hold, (PINTable.onRow_id (PINTable.revoke_id now) old).symm, ?_⟩
      unfold PINTable.onRow TemporaryEnrollmentPIN.revoke
      split
      · split <;> rfl
      · rfl
    · exact ⟨pin, mem, rfl, rfl⟩

/-- After a replacement that found every unrevoked PIN, only the new one is unrevoked. -/
lemma unrevoked_replace {found : List String} {new : TemporaryEnrollmentPIN}
    (all : ∀ pin ∈ t, pin.revokedAt = none → pin.id ∈ found)
    (replaced : t.replace found new now = some u) :
    ∀ pin ∈ u, pin = new ∨
      pin.revokedAt ≠ none ∧ ∃ old ∈ t, old.id = pin.id ∧ old.createdAt = pin.createdAt := by
  intro pin mem
  rcases ((KeyedTable.insertNew_eq_some replaced).1 pin).mp mem with rfl | mem
  · exact .inl rfl
  · obtain ⟨old, hold, rfl⟩ := KeyedTable.mem_updateAll.mp mem
    refine .inr ⟨?_, old, hold, (PINTable.revokeAmong_id found now old).symm,
      (revokeAmong_createdAt found now old).symm⟩
    unfold PINTable.revokeAmong TemporaryEnrollmentPIN.revoke
    split
    · split
      · exact nofun
      next revoked => simp [revoked]
    next notFound => exact fun unrevoked => notFound (all old hold unrevoked)

/-! ## Steps -/

variable {s : TemporaryPINs} {event : TemporaryPINEvent}

/-- The changes of the table. -/
lemma step_pins (s : TemporaryPINs) (event : TemporaryPINEvent) :
    (s.step event).pins = s.pins ∨
      (∃ i call, event = .commit i true ∧ s.creations[i]? = some call ∧
        s.pins.replace call.found call.pin call.now = some (s.step event).pins) ∨
      ∃ i id now, event = .revoke i now true ∧ s.revocations[i]? = some (.chosen id) ∧
        (s.step event).pins = (s.pins.revoke id now).getD s.pins := by
  cases event with
  | create expiresInMinutes id pinHash now =>
    simp only [step]
    split <;> exact .inl rfl
  | commit i works =>
    simp only [step]
    split
    next call found =>
      split
      next hworks =>
        obtain ⟨rfl, -⟩ := hworks
        unfold commit
        split
        · exact .inl rfl
        next replaced => exact .inr (.inl ⟨i, call, rfl, found, replaced⟩)
      next => exact .inl rfl
    next => exact .inl rfl
  | readLatest choice works => exact .inl rfl
  | revoke i now works =>
    simp only [step]
    split
    next id chosen =>
      cases works with
      | false => exact .inl rfl
      | true => exact .inr (.inr ⟨i, id, now, rfl, chosen, rfl⟩)
    next => exact .inl rfl

/-- The changes of the revocations. -/
lemma step_revocations (s : TemporaryPINs) (event : TemporaryPINEvent) :
    (s.step event).revocations = s.revocations ∨
      (∃ choice works, event = .readLatest choice works ∧
        (s.step event).revocations = s.revocations ++ [s.readLatest choice works]) ∨
      ∃ i now works id, event = .revoke i now works ∧ s.revocations[i]? = some (.chosen id) ∧
        (s.step event).revocations = s.revocations.set i (.answered works) := by
  cases event with
  | create expiresInMinutes id pinHash now =>
    simp only [step]
    split <;> exact .inl rfl
  | commit i works =>
    simp only [step, commit]
    split
    · split
      · split <;> exact .inl rfl
      · exact .inl rfl
    · exact .inl rfl
  | readLatest choice works => exact .inr (.inl ⟨choice, works, rfl, rfl⟩)
  | revoke i now works =>
    simp only [step]
    split
    next id chosen =>
      refine .inr (.inr ⟨i, now, works, id, rfl, chosen, ?_⟩)
      cases works <;> rfl
    next => exact .inl rfl

/-- A revocation that succeeds has found no PIN, or has revoked the one that it has read. -/
lemma succeeds_cases (h : s.Succeeds event) :
    (∃ choice, event = .readLatest choice true ∧ s.pins.rows = []) ∨
      ∃ i id now, event = .revoke i now true ∧ s.revocations[i]? = some (.chosen id) := by
  obtain ⟨j, before, after⟩ := h
  rcases step_revocations s event with same | ⟨choice, works, rfl, appended⟩ |
    ⟨i, now, works, id, rfl, chosen, answered⟩
  · exact absurd (same ▸ after) before
  · rw [appended, List.getElem?_append] at after
    split at after
    · exact absurd after before
    · have read : s.readLatest choice works = .answered true :=
        List.mem_singleton.mp (List.mem_of_getElem? after) ▸ rfl
      unfold readLatest at read
      split at read
      · cases read
      next hworks =>
        split at read
        next missing =>
          obtain rfl : works = true := by simpa using hworks
          exact .inl ⟨choice, rfl, latest_eq_none.mp missing⟩
        next => cases read
  · rw [answered, List.getElem?_set] at after
    split at after
    next same =>
      subst same
      have answer : some (RevocationPhase.answered works) = some (.answered true) := by
        split at after
        · exact after
        · cases after
      cases answer
      exact .inr ⟨i, id, now, rfl, chosen⟩
    next => exact absurd after before

lemma alone_revoke {i : ℕ} {works : Bool} (chosen : s.revocations[i]? = some (.chosen id)) :
    s.Alone (.revoke i now works) ↔ OnlyUnrevoked s.pins id := by
  simp only [Alone, chosen]

lemma Succeeds.allRevoked (h : s.Succeeds event) (alone : s.Alone event) :
    AllRevoked (s.step event).pins := by
  rcases succeeds_cases h with ⟨choice, rfl, empty⟩ | ⟨i, id, now, rfl, chosen⟩
  · intro pin mem
    have : pin ∈ s.pins.rows := mem
    simp [empty] at this
  · rw [alone_revoke chosen] at alone
    simp only [step, chosen]
    exact allRevoked_revoke.mpr alone

lemma allRevoked_step (h : AllRevoked s.pins) (noCommit : ∀ i, event ≠ .commit i true) :
    AllRevoked (s.step event).pins := by
  rcases step_pins s event with same | ⟨i, call, rfl, -, -⟩ | ⟨i, id, now, rfl, -, revoked⟩
  · exact same ▸ h
  · exact absurd rfl (noCommit i)
  · rw [revoked]
    exact allRevoked_revoke.mpr fun pin mem unrevoked => absurd unrevoked (h pin mem)

/-! ## Requests in order -/

/-- An unrevoked PIN is later than the others, and a revocation that is under way has read it. -/
structure Ordered (s : TemporaryPINs) : Prop where
  latest : ∀ pin ∈ s.pins, pin.revokedAt = none → ∀ other ∈ s.pins, other.id ≠ pin.id →
    other.createdAt < pin.createdAt
  chosen : ∀ id, .chosen id ∈ s.revocations → OnlyUnrevoked s.pins id

/-- The latest PIN is the unrevoked one, if there is one. -/
lemma Ordered.latest_alone (h : s.Ordered) {pin : TemporaryEnrollmentPIN}
    (found : s.pins.latest choice = some pin) : OnlyUnrevoked s.pins pin.id := by
  intro other mem unrevoked
  by_contra hid
  obtain ⟨hpin, greatest⟩ := List.mem_filter.mp (List.mem_of_getElem? found)
  have := of_decide_eq_true (List.all_eq_true.mp greatest other mem)
  exact absurd (h.latest other mem unrevoked pin hpin (Ne.symm hid)) (not_lt.mpr this)

/-- No PIN becomes unrevoked except by a creation. -/
lemma unrevoked_step (noCommit : ∀ i, event ≠ .commit i true) {pin : TemporaryEnrollmentPIN}
    (mem : pin ∈ (s.step event).pins) (unrevoked : pin.revokedAt = none) : pin ∈ s.pins := by
  rcases step_pins s event with same | ⟨i, call, rfl, -, -⟩ | ⟨i, id, now, rfl, -, revoked⟩
  · exact same ▸ mem
  · exact absurd rfl (noCommit i)
  · rw [revoked] at mem
    exact (unrevoked_revoke.mp ⟨mem, unrevoked⟩).1.1

lemma inOrder_commit {i : ℕ} {works : Bool} {call : ReplaceCall}
    (found : s.creations[i]? = some call) (h : s.InOrder (.commit i works)) :
    (∀ pin ∈ s.pins, pin.revokedAt = none → pin.id ∈ call.found) ∧
      (∀ pin ∈ s.pins, pin.createdAt < call.pin.createdAt) ∧
      ∀ id, .chosen id ∉ s.revocations := by
  simpa only [InOrder, found] using h

lemma Ordered.latest_step (h : s.Ordered) (inOrder : s.InOrder event) :
    ∀ pin ∈ (s.step event).pins, pin.revokedAt = none → ∀ other ∈ (s.step event).pins,
      other.id ≠ pin.id → other.createdAt < pin.createdAt := by
  rcases step_pins s event with same | ⟨i, call, rfl, found, replaced⟩ |
    ⟨i, id, now, rfl, -, revoked⟩
  · exact same ▸ h.latest
  · obtain ⟨all, later, -⟩ := inOrder_commit found inOrder
    have rows := unrevoked_replace all replaced
    intro pin mem unrevoked other hother hne
    obtain rfl : pin = call.pin := (rows pin mem).resolve_right fun hpin => hpin.1 unrevoked
    rcases rows other hother with rfl | ⟨-, old, hold, -, created⟩
    · exact absurd rfl hne
    · exact created ▸ later old hold
  · rw [revoked]
    intro pin mem unrevoked other hother hne
    obtain ⟨old, hold, hid, created⟩ := exists_of_mem_revoke hother
    rw [← created]
    exact h.latest pin (unrevoked_revoke.mp ⟨mem, unrevoked⟩).1.1 unrevoked old hold (hid ▸ hne)

lemma Ordered.chosen_step (h : s.Ordered) (inOrder : s.InOrder event) {id : String}
    (mem : .chosen id ∈ (s.step event).revocations) : OnlyUnrevoked (s.step event).pins id := by
  have keeps (hid : OnlyUnrevoked s.pins id) (noCommit : ∀ i, event ≠ .commit i true) :
      OnlyUnrevoked (s.step event).pins id :=
    fun pin hpin unrevoked => hid pin (unrevoked_step noCommit hpin unrevoked) unrevoked
  rcases step_revocations s event with same | ⟨choice, works, rfl, appended⟩ |
    ⟨i, now, works, id', rfl, -, answered⟩
  · rw [same] at mem
    rcases step_pins s event with unchanged | ⟨i, call, rfl, found, -⟩ | ⟨i, id', now, rfl, -, -⟩
    · rw [unchanged]
      exact h.chosen id mem
    · exact absurd mem ((inOrder_commit found inOrder).2.2 id)
    · exact keeps (h.chosen id mem) nofun
  · refine keeps ?_ nofun
    rw [appended] at mem
    rcases List.mem_append.mp mem with mem | mem
    · exact h.chosen id mem
    · have read := (List.mem_singleton.mp mem).symm
      unfold readLatest at read
      split at read
      · cases read
      · split at read
        · cases read
        next pin found =>
          cases read
          exact h.latest_alone found
  · refine keeps ?_ nofun
    rw [answered] at mem
    exact h.chosen id ((List.mem_or_eq_of_mem_set mem).resolve_right nofun)

lemma Ordered.step (h : s.Ordered) (inOrder : s.InOrder event) : (s.step event).Ordered :=
  ⟨h.latest_step inOrder, fun _ mem => h.chosen_step inOrder mem⟩

lemma Ordered.alone (h : s.Ordered) (event : TemporaryPINEvent) : s.Alone event := by
  cases event with
  | create | commit | readLatest => trivial
  | revoke i now works =>
    unfold Alone
    dsimp only
    split
    next id chosen => exact h.chosen id (List.mem_of_getElem? chosen)
    next => trivial

/-- After a revocation has succeeded, and as long as no creation commits, no PIN is active at any
time and no temporary PIN authorizes an enrollment, if no other PIN is unrevoked whenever a
revocation revokes the PIN that it has read.  This is the exact condition, and it is met as long as
the requests are in order. -/
theorem revoked_noActive (start : TemporaryPINs) (before after : List TemporaryPINEvent)
    (event : TemporaryPINEvent) :
    (Along step Alone start (before ++ event :: after) → Succeeds (run step start before) event →
      (∀ e ∈ after, ∀ i, e ≠ .commit i true) →
      let s := run step start (before ++ event :: after)
      ∀ now choice, s.pins.active now choice = none ∧
        ∀ verifyHash setting pin,
          authorizeEnrollmentPIN verifyHash setting (s.pins.active now choice) pin =
            ("", setting.any (verifyHash · pin))) ∧
    (∀ (s : TemporaryPINs) (i : ℕ) (id : String) (now : Time),
      s.revocations[i]? = some (.chosen id) →
        ((∀ t choice, (s.step (.revoke i now true)).pins.active t choice = none) ↔
          s.Alone (.revoke i now true))) ∧
    ∀ events, Along step InOrder {} events → Along step Alone {} events := by
  refine ⟨fun alone succeeds noCommit => ?_, fun s i id now chosen => ?_, fun events inOrder => ?_⟩
  · intro s
    have revoked : AllRevoked s.pins := by
      have along := (along_append.mp alone).2
      have first := succeeds.allRevoked along.1
      have rest := run_keeps_along (I := fun u : TemporaryPINs => AllRevoked u.pins)
        (fun _ _ h noCommit => allRevoked_step h noCommit) first (Along.of_forall noCommit _)
      rwa [← run_cons, ← run_append] at rest
    have inactive := active_eq_none_forall.mpr revoked
    refine fun now choice => ⟨inactive now choice, fun verifyHash setting pin => ?_⟩
    rw [inactive now choice]
    unfold authorizeEnrollmentPIN
    split
    next accepted => rw [accepted]
    next refused => simp [refused]
  · rw [alone_revoke chosen, active_eq_none_forall]
    simp only [step, chosen]
    exact allRevoked_revoke
  · refine Along.of_invariant (I := Ordered) (fun _ _ h inOrder => h.step inOrder)
      (fun _ e h _ => h.alone e) ?_ inOrder
    exact ⟨fun pin mem => absurd mem (KeyedTable.notMem_empty pin), fun id mem => absurd mem
      List.not_mem_nil⟩

/-- The clock goes back between two creations, and the PIN is revoked. -/
def steppedBack : List TemporaryPINEvent :=
  [.create 30 "first" "hash-1" (100 * second), .commit 0 true,
    .create 30 "second" "hash-2" (50 * second), .commit 1 true, .readLatest 0 true]

theorem active_afterRevoke :
    ¬ ∀ (start : TemporaryPINs) (before after : List TemporaryPINEvent)
      (event : TemporaryPINEvent), Succeeds (run step start before) event →
      (∀ e ∈ after, ∀ i, e ≠ .commit i true) →
      ∀ now choice, (run step start (before ++ event :: after)).pins.active now choice = none := by
  intro h
  have := h {} steppedBack [] (.revoke 0 (110 * second) true) ⟨0, by decide, by decide⟩ nofun
    (120 * second) 0
  revert this
  decide

/-- Two PINs one after the other, and the PIN is revoked. -/
def oneAfterAnother : List TemporaryPINEvent :=
  [.create 30 "first" "hash-1" (50 * second), .commit 0 true,
    .create 30 "second" "hash-2" (100 * second), .commit 1 true, .readLatest 0 true]

theorem revoked_noActive_oneAfterAnother :
    (run step {} (oneAfterAnother ++ [.revoke 0 (110 * second) true])).pins.active
      (120 * second) 0 = none :=
  ((revoked_noActive {} oneAfterAnother [] (.revoke 0 (110 * second) true)).1 (by decide)
    ⟨0, by decide, by decide⟩ nofun (120 * second) 0).1

end TemporaryPINs

end Hostpin
