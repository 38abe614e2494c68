import Hostpin.Store.Enrollment

/-!
# A temporary PIN is used by one agent

A statement of the store only ever sends a PIN to a PIN that succeeds it
(`TemporaryEnrollmentPIN.Succeeds`): once it is claimed the claim stays, and so does the time of its
first use.  A node that is created with a PIN is committed together with its claim, so that all of
them belong to the agent that holds the claim (`temporaryPIN_oneUse`).
-/

namespace Hostpin

open Clock Runs

/-! ## How a PIN changes -/

/-- What a PIN may become: its claim and the time of its first use stay. -/
structure TemporaryEnrollmentPIN.Succeeds (pin pin' : TemporaryEnrollmentPIN) : Prop where
  id : pin'.id = pin.id
  expiresAt : pin'.expiresAt = pin.expiresAt
  usedAt : ∀ u, pin.usedAt = some u → pin'.usedAt = some u
  claim : pin.claimedInstallID ≠ "" →
    pin'.claimedInstallID = pin.claimedInstallID ∧ pin'.claimedTokenID = pin.claimedTokenID

namespace TemporaryEnrollmentPIN

variable {pin pin' pin'' : TemporaryEnrollmentPIN} {installID tokenID : String} {now : Time}

lemma Succeeds.refl (pin : TemporaryEnrollmentPIN) : pin.Succeeds pin :=
  ⟨rfl, rfl, fun _ h => h, fun _ => ⟨rfl, rfl⟩⟩

lemma Succeeds.trans (h : pin.Succeeds pin') (h' : pin'.Succeeds pin'') : pin.Succeeds pin'' where
  id := h'.id.trans h.id
  expiresAt := h'.expiresAt.trans h.expiresAt
  usedAt u hu := h'.usedAt u (h.usedAt u hu)
  claim hne := by
    obtain ⟨install, token⟩ := h.claim hne
    obtain ⟨install', token'⟩ := h'.claim (install ▸ hne)
    exact ⟨install'.trans install, token'.trans token⟩

lemma succeeds_revoke (now : Time) (pin : TemporaryEnrollmentPIN) :
    pin.Succeeds (pin.revoke now) := by
  unfold revoke
  split
  exacts [⟨rfl, rfl, fun _ h => h, fun _ => ⟨rfl, rfl⟩⟩, Succeeds.refl pin]

lemma claimable_iff : pin.claimable installID tokenID now ↔
    pin.revokedAt = none ∧ unixMilli now < pin.expiresAt ∧
      (pin.claimedInstallID = "" ∨
        pin.claimedInstallID = installID ∧ pin.claimedTokenID = tokenID) := by
  simp [claimable]

lemma succeeds_claimed (h : pin.claimable installID tokenID now) :
    pin.Succeeds (pin.claimed installID tokenID now) where
  id := rfl
  expiresAt := rfl
  usedAt u hu := by simp [claimed, hu]
  claim hne := by
    rcases (claimable_iff.mp h).2.2 with unclaimed | ⟨install, token⟩
    · exact absurd unclaimed hne
    · exact ⟨install.symm, token.symm⟩

end TemporaryEnrollmentPIN

namespace PINTable

open TemporaryEnrollmentPIN

variable {t u v : PINTable}

/-- No row gets lost, and each may only become a row that succeeds it. -/
def Evolves (t u : PINTable) : Prop := ∀ pin ∈ t, ∃ pin' ∈ u, pin.Succeeds pin'

lemma Evolves.refl (t : PINTable) : t.Evolves t := fun pin mem => ⟨pin, mem, .refl pin⟩

lemma Evolves.trans (h : t.Evolves u) (h' : u.Evolves v) : t.Evolves v := by
  intro pin mem
  obtain ⟨pin', mem', succeeds⟩ := h pin mem
  obtain ⟨pin'', mem'', succeeds'⟩ := h' pin' mem'
  exact ⟨pin'', mem'', succeeds.trans succeeds'⟩

lemma evolves_updateAll {f : TemporaryEnrollmentPIN → TemporaryEnrollmentPIN}
    {keeps : ∀ pin, (f pin).id = pin.id} (succeeds : ∀ pin ∈ t, pin.Succeeds (f pin)) :
    t.Evolves (t.updateAll f keeps) :=
  fun pin mem => ⟨f pin, KeyedTable.mem_updateAll.mpr ⟨pin, mem, rfl⟩, succeeds pin mem⟩

lemma evolves_replace {found : List String} {pin : TemporaryEnrollmentPIN} {now : Time}
    (h : t.replace found pin now = some u) : t.Evolves u := by
  have revoked : t.Evolves (t.updateAll (revokeAmong found now) (revokeAmong_id found now)) := by
    refine evolves_updateAll fun old _ => ?_
    unfold revokeAmong
    split
    exacts [succeeds_revoke now old, .refl old]
  refine revoked.trans fun old mem => ⟨old, ?_, .refl old⟩
  exact ((KeyedTable.insertNew_eq_some h).1 old).mpr (.inr mem)

lemma evolves_revoke {id : String} {now : Time} (h : t.revoke id now = some u) : t.Evolves u := by
  unfold revoke at h
  split at h
  · cases h
  · split at h
    · cases h
      refine evolves_updateAll fun old _ => ?_
      unfold onRow
      split
      exacts [succeeds_revoke now old, .refl old]
    · cases h

/-- A claim that succeeds. -/
lemma claim_eq_some {id installID tokenID : String} {now : Time}
    (h : t.claim id installID tokenID now = some u) :
    ∃ pin, t.lookup id = some pin ∧ pin.claimable installID tokenID now ∧
      pin.claimed installID tokenID now ∈ u ∧
      u = t.updateAll (onRow id (.claimed installID tokenID now)) (onRow_id fun _ => rfl) := by
  unfold claim at h
  split at h
  · cases h
  next pin found =>
    split at h
    next claimable =>
      cases h
      obtain ⟨mem, hid⟩ := KeyedTable.lookup_eq_some_iff.mp found
      refine ⟨pin, found, claimable, ?_, rfl⟩
      rw [KeyedTable.mem_updateAll]
      exact ⟨pin, mem, if_pos hid⟩
    next => cases h

lemma evolves_claim {id installID tokenID : String} {now : Time}
    (h : t.claim id installID tokenID now = some u) : t.Evolves u := by
  obtain ⟨pin, found, claimable, -, rfl⟩ := claim_eq_some h
  obtain ⟨mem, hid⟩ := KeyedTable.lookup_eq_some_iff.mp found
  refine evolves_updateAll fun old hold => ?_
  unfold onRow
  split
  next same =>
    rw [KeyedTable.eq_of_key_eq hold mem (same.trans hid.symm)]
    exact succeeds_claimed claimable
  next => exact .refl old

end PINTable

/-- A node that was created with a PIN: the agent holds the claim on it. -/
structure PINCreation.Holds (c : PINCreation) (pins : PINTable) : Prop where
  named : c.params.request.installID ≠ ""
  pinID : c.pin.id = c.params.temporaryPINID
  inTime : c.pin.revokedAt = none ∧ unixMilli c.params.now < c.pin.expiresAt
  claim : ∃ pin ∈ pins, pin.id = c.pin.id ∧ pin.expiresAt = c.pin.expiresAt ∧
    pin.claimedInstallID = c.params.request.installID ∧ pin.claimedTokenID = c.params.tokenID

lemma PINCreation.Holds.evolves {c : PINCreation} {t u : PINTable} (h : c.Holds t)
    (evolves : t.Evolves u) : c.Holds u := by
  obtain ⟨pin, mem, hid, expiry, install, token⟩ := h.claim
  obtain ⟨pin', mem', succeeds⟩ := evolves pin mem
  obtain ⟨install', token'⟩ := succeeds.claim (install ▸ h.named)
  exact
    { h with
      claim := ⟨pin', mem', succeeds.id.trans hid, succeeds.expiresAt.trans expiry,
        install'.trans install, token'.trans token⟩ }

/-! ## What an enrollment claims -/

namespace EnrollmentSystem

variable {s : EnrollmentSystem} {event : EnrollmentEvent}

lemma claim_of_named {store : EnrollmentStore} {params : EnrollParams} {works : Bool}
    {pins : PINTable} (named : params.temporaryPINID ≠ "")
    (h : store.claimFor params works = .ok pins) :
    store.pins.claim params.temporaryPINID params.request.installID params.tokenID params.now =
      some pins := by
  unfold EnrollmentStore.claimFor at h
  rw [if_neg named] at h
  split at h
  · cases h
  · split at h
    · cases h
    next claim =>
      cases h
      exact claim

lemma evolves_claimFor {store : EnrollmentStore} {params : EnrollParams} {works : Bool}
    {pins : PINTable} (h : store.claimFor params works = .ok pins) :
    store.pins.Evolves pins := by
  by_cases named : params.temporaryPINID = ""
  · unfold EnrollmentStore.claimFor at h
    rw [if_pos named] at h
    cases h
    exact .refl _
  · exact PINTable.evolves_claim (claim_of_named named h)

lemma evolves_step (s : EnrollmentSystem) (event : EnrollmentEvent) :
    s.store.pins.Evolves (s.step event).store.pins := by
  have becomes := becomes_step s event
  generalize s.step event = s' at becomes ⊢
  cases becomes with
  | idle | enroll | phase | replacePIN => exact .refl _
  | write _ _ written =>
    obtain ⟨pins, nodes, credentials, configs, claim, -, -, -, rfl⟩ :=
      EnrollmentStore.writeInstall_eq_ok written
    exact evolves_claimFor claim
  | deleteNode deleted =>
    rw [EnrollmentStore.deleteNode_eq_some deleted]
    exact .refl _
  | commitPIN replaced => exact PINTable.evolves_replace replaced
  | revokePIN revoked => exact PINTable.evolves_revoke revoked

lemma evolves_run (s : EnrollmentSystem) (events : List EnrollmentEvent) :
    s.store.pins.Evolves (run step s events).store.pins :=
  run_keeps (I := fun u : EnrollmentSystem => s.store.pins.Evolves u.store.pins)
    (fun u event h => h.trans (evolves_step u event)) (.refl _) events

/-- The parameters of the calls come from the enrollments. -/
lemma step_params {call : EnrollCall} (mem : call ∈ (s.step event).calls) :
    (∃ old ∈ s.calls, old.params = call.params) ∨ event = .enroll call.params := by
  have keeps {i : ℕ} {old : EnrollCall} {phase : EnrollPhase} (found : s.calls[i]? = some old)
      (mem : call ∈ (s.setPhase i old phase).calls) :
      ∃ old ∈ s.calls, old.params = call.params := by
    rcases List.mem_or_eq_of_mem_set mem with mem | rfl
    · exact ⟨call, mem, rfl⟩
    · exact ⟨old, List.mem_of_getElem? found, rfl⟩
  have becomes := becomes_step s event
  generalize s.step event = s' at becomes mem
  cases becomes with
  | idle | deleteNode | replacePIN | commitPIN | revokePIN => exact .inl ⟨call, mem, rfl⟩
  | enroll params =>
    rcases List.mem_append.mp mem with mem | mem
    · exact .inl ⟨call, mem, rfl⟩
    · exact .inr (by rw [List.mem_singleton.mp mem])
  | phase found _ _ => exact .inl (keeps found mem)
  | write found _ _ => exact .inl (keeps found mem)

/-- A node that is created with a PIN is committed with its claim. -/
lemma step_creations {c : PINCreation} (mem : c ∈ (s.step event).creations) :
    c ∈ s.creations ∨
      (∃ call ∈ s.calls, call.params = c.params) ∧ c.pin.id = c.params.temporaryPINID ∧
        c.pin.claimable c.params.request.installID c.params.tokenID c.params.now ∧
        c.pin.claimed c.params.request.installID c.params.tokenID c.params.now ∈
          (s.step event).store.pins := by
  have becomes := becomes_step s event
  generalize s.step event = s' at becomes mem ⊢
  cases becomes with
  | idle | enroll | phase | deleteNode | replacePIN | commitPIN | revokePIN => exact .inl mem
  | @write i call answers store found absent written =>
    rcases List.mem_append.mp mem with old | new
    · exact .inl old
    obtain ⟨pins, nodes, credentials, configs, claim, -, -, -, rfl⟩ :=
      EnrollmentStore.writeInstall_eq_ok written
    unfold creationsOf at new
    split at new
    · cases new
    next named =>
      obtain ⟨pin, found', rfl⟩ := List.mem_map.mp new
      obtain ⟨pin', found'', claimable, claimed, -⟩ :=
        PINTable.claim_eq_some (claim_of_named named claim)
      obtain rfl : pin = pin' := Option.some.inj ((Option.mem_toList.mp found').symm.trans found'')
      have hid := (KeyedTable.lookup_eq_some_iff.mp found'').2
      exact .inr ⟨⟨call, List.mem_of_getElem? found, rfl⟩, hid, claimable, claimed⟩

/-! ## Runs -/

/-- Every agent is named, and every node that was created with a PIN holds the claim on it. -/
structure Used (s : EnrollmentSystem) : Prop where
  named : ∀ call ∈ s.calls, call.params.request.installID ≠ ""
  holds : ∀ c ∈ s.creations, c.Holds s.store.pins

/-- An enrollment names its installation. -/
def NamesInstall : EnrollmentEvent → Prop
  | .enroll params => params.request.installID ≠ ""
  | _ => True

lemma Used.step (h : s.Used) (names : NamesInstall event) : (s.step event).Used where
  named call mem := by
    rcases step_params mem with ⟨old, hold, same⟩ | rfl
    · exact same ▸ h.named old hold
    · exact names
  holds c mem := by
    rcases step_creations mem with mem | ⟨⟨call, hcall, same⟩, hid, claimable, claimed⟩
    · exact (h.holds c mem).evolves (evolves_step s event)
    · obtain ⟨unrevoked, early, -⟩ := TemporaryEnrollmentPIN.claimable_iff.mp claimable
      exact
        { named := same ▸ h.named call hcall
          pinID := hid
          inTime := ⟨unrevoked, early⟩
          claim := ⟨_, claimed, rfl, rfl, rfl, rfl⟩ }

/-- A time whose millisecond is before another is before it. -/
lemma lt_ofUnixMilli {t : Time} {ms : ℤ} (h : unixMilli t < ms) : t < ofUnixMilli ms := by
  have := Int.lt_ediv_add_one_mul_self (t - unixEpoch) (show (0 : ℤ) < millisecond by decide)
  unfold unixMilli at h
  unfold ofUnixMilli
  have step : (((t - unixEpoch) / millisecond) + 1) * millisecond ≤ ms * millisecond :=
    mul_le_mul_of_nonneg_right h (by decide)
  linarith

/-- In every run, all nodes that were created with a temporary PIN belong to the one agent that has
claimed it, each was committed while the PIN was not revoked, with a request from before its expiry,
and the time of its first use never changes. -/
theorem temporaryPIN_oneUse (store : EnrollmentStore) (events : List EnrollmentEvent)
    (named : ∀ event ∈ events, NamesInstall event) :
    let s := run EnrollmentSystem.step { store } events
    (∀ c ∈ s.creations, c.pin.id = c.params.temporaryPINID ∧
      ∃ pin ∈ s.store.pins, pin.id = c.pin.id ∧ pin.expiresAt = c.pin.expiresAt ∧
        pin.claimedInstallID = c.params.request.installID ∧
        pin.claimedTokenID = c.params.tokenID) ∧
    (∀ c ∈ s.creations, ∀ d ∈ s.creations, c.pin.id = d.pin.id →
      c.params.request.installID = d.params.request.installID ∧
        c.params.tokenID = d.params.tokenID) ∧
    (∀ c ∈ s.creations, c.pin.revokedAt = none ∧ c.params.now < ofUnixMilli c.pin.expiresAt) ∧
    ∀ pin ∈ s.store.pins, ∀ u, pin.usedAt = some u → ∀ later,
      ∃ pin' ∈ (run EnrollmentSystem.step s later).store.pins,
        pin'.id = pin.id ∧ pin'.usedAt = some u := by
  intro s
  have start : Used { store } :=
    ⟨fun _ mem => absurd mem List.not_mem_nil, fun _ mem => absurd mem List.not_mem_nil⟩
  have used : s.Used :=
    run_keeps_along (fun _ _ h names => h.step names) start (Along.of_forall named _)
  refine ⟨fun c mem => ⟨(used.holds c mem).pinID, (used.holds c mem).claim⟩, ?_, ?_, ?_⟩
  · intro c hc d hd same
    obtain ⟨pin, hpin, hid, -, install, token⟩ := (used.holds c hc).claim
    obtain ⟨pin', hpin', hid', -, install', token'⟩ := (used.holds d hd).claim
    obtain rfl : pin = pin' :=
      KeyedTable.eq_of_key_eq hpin hpin' (hid.trans (same.trans hid'.symm))
    exact ⟨install.symm.trans install', token.symm.trans token'⟩
  · intro c mem
    obtain ⟨unrevoked, early⟩ := (used.holds c mem).inTime
    exact ⟨unrevoked, lt_ofUnixMilli early⟩
  · intro pin mem u hu later
    obtain ⟨pin', mem', succeeds⟩ := evolves_run s later pin mem
    exact ⟨pin', mem', succeeds.id, succeeds.usedAt u hu⟩

/-- A PIN with which two agents try to enroll. -/
def twoAgents : List EnrollmentEvent :=
  let pin : TemporaryEnrollmentPIN := { id := "pin", expiresAt := unixMilli (hour) }
  let first : EnrollParams :=
    { request := { installID := "install-1" }, nodeID := "node-1", tokenID := "token-1",
      tokenHash := "hash-1", temporaryPINID := "pin" }
  let second : EnrollParams :=
    { request := { installID := "install-2" }, nodeID := "node-2", tokenID := "token-2",
      tokenHash := "hash-2", temporaryPINID := "pin" }
  [.replacePIN pin 0, .commitPIN 0 true, .enroll first, .enroll second, .read 0 true,
    .read 1 true, .write 0 {}, .write 1 {}]

theorem temporaryPIN_oneUse_twoAgents :
    (run EnrollmentSystem.step {} twoAgents).creations.length = 1 ∧
      ∀ c ∈ (run EnrollmentSystem.step {} twoAgents).creations,
        c.pin.revokedAt = none ∧ c.params.now < ofUnixMilli c.pin.expiresAt :=
  ⟨rfl, (temporaryPIN_oneUse {} twoAgents (by simp [twoAgents, NamesInstall])).2.2.1⟩

end EnrollmentSystem

end Hostpin
