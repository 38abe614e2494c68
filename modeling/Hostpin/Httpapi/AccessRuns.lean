import Hostpin.Httpapi.Access

/-!
# What has happened to the credentials

The tables of the store hold the credentials that the history leaves open, and every credential that
was made is justified by what had happened before (`Sound`).  This is kept by every call of the
handlers, as long as a call that makes a credential is entitled to it.
-/

namespace Hostpin

open Clock Ledger Procedure Text

namespace Access

/-! ## Entries -/

section Entries

variable (history facts : History)

@[simp] lemma sessionEntries_append :
    sessionEntries (history ++ facts) = sessionEntries history ++ sessionEntries facts :=
  List.filterMap_append

@[simp] lemma apiKeyEntries_append :
    apiKeyEntries (history ++ facts) = apiKeyEntries history ++ apiKeyEntries facts :=
  List.filterMap_append

@[simp] lemma shareLinkEntries_append :
    shareLinkEntries (history ++ facts) = shareLinkEntries history ++ shareLinkEntries facts :=
  List.filterMap_append

variable {history}

lemma mem_sessionEntries {entry : Ledger.Entry String Session} :
    entry ∈ sessionEntries history ↔ .session entry ∈ history := by
  rw [sessionEntries, List.mem_filterMap]
  constructor
  · rintro ⟨fact, hmem, hfact⟩
    cases fact <;> cases hfact
    exact hmem
  · exact fun hmem => ⟨_, hmem, rfl⟩

lemma mem_apiKeyEntries {entry : Ledger.Entry String APIKeyRecord} :
    entry ∈ apiKeyEntries history ↔ .apiKey entry ∈ history := by
  rw [apiKeyEntries, List.mem_filterMap]
  constructor
  · rintro ⟨fact, hmem, hfact⟩
    cases fact <;> cases hfact
    exact hmem
  · exact fun hmem => ⟨_, hmem, rfl⟩

lemma mem_shareLinkEntries {entry : Ledger.Entry String ShareLinkRecord} :
    entry ∈ shareLinkEntries history ↔ .shareLink entry ∈ history := by
  rw [shareLinkEntries, List.mem_filterMap]
  constructor
  · rintro ⟨fact, hmem, hfact⟩
    cases fact <;> cases hfact
    exact hmem
  · exact fun hmem => ⟨_, hmem, rfl⟩

end Entries

/-! ## Soundness -/

/-- The tables hold what the history leaves open, and every fact is justified by the facts before
it. -/
structure Sound (justified : History → Fact → Prop) (s : State) : Prop where
  sessions : Records Session.tokenHash (sessionEntries s.history) (· ∈ s.store.sessions)
  apiKeys : Records APIKeyRecord.id (apiKeyEntries s.history) (· ∈ s.store.apiKeys)
  shareLinks : Records ShareLinkRecord.id (shareLinkEntries s.history) fun link =>
    link ∈ s.store.shareLinks ∧ link.revokedAt = none
  justified : ∀ before fact, before ++ [fact] <+: s.history → justified before fact

/-- What justifies a fact justifies it later, and only what is made needs a justification. -/
structure Justifies (justified : History → Fact → Prop) : Prop where
  later : ∀ before later fact, before <+: later → justified before fact → justified later fact
  clock : ∀ before reading, justified before (.clock reading)
  login : ∀ before admin, justified before (.login admin)
  setup : ∀ before admin, justified before (.setup admin)
  sessionClosed : ∀ before tokenHash, justified before (.session (.closed tokenHash))
  apiKeyClosed : ∀ before id, justified before (.apiKey (.closed id))
  shareLinkClosed : ∀ before id, justified before (.shareLink (.closed id))

/-- What entitles to a call: what it makes is justified. -/
def Entitled (justified : History → Fact → Prop) (history : History) : Call → Prop
  | .createSession session => justified history (.session (.opened session.stored))
  | .createAPIKey key => justified history (.apiKey (.opened key.stored))
  | .createShareLink link =>
    justified history (.shareLink (.opened link.stored)) ∧ link.revokedAt = none
  | _ => True

section Sound

variable {justified : History → Fact → Prop} {s : State}

/-- Facts that are justified by the history are justified where they are added. -/
lemma justified_append (hj : Justifies justified) {history facts : History}
    (h : ∀ before fact, before ++ [fact] <+: history → justified before fact)
    (hfacts : ∀ fact ∈ facts, justified history fact) :
    ∀ before fact, before ++ [fact] <+: history ++ facts → justified before fact := by
  induction facts using List.reverseRecOn with
  | nil => simpa using h
  | append_singleton facts last ih =>
    intro before fact hprefix
    rw [← List.append_assoc, List.prefix_concat_iff] at hprefix
    rcases hprefix with heq | hprefix
    · obtain ⟨rfl, hlast⟩ := List.append_inj' heq rfl
      cases hlast
      exact hj.later _ _ _ (List.prefix_append _ _)
        (hfacts _ (List.mem_append_right _ (List.mem_singleton_self _)))
    · exact ih (fun fact hmem => hfacts fact (List.mem_append_left _ hmem)) before fact hprefix

/-- The state after some facts, when the tables hold what these leave open. -/
lemma Sound.recorded (hj : Justifies justified) (h : Sound justified s) {store : Store}
    {facts : History}
    (hsessions : Records Session.tokenHash (sessionEntries s.history ++ sessionEntries facts)
      (· ∈ store.sessions))
    (hapiKeys : Records APIKeyRecord.id (apiKeyEntries s.history ++ apiKeyEntries facts)
      (· ∈ store.apiKeys))
    (hshareLinks : Records ShareLinkRecord.id
      (shareLinkEntries s.history ++ shareLinkEntries facts)
      fun link => link ∈ store.shareLinks ∧ link.revokedAt = none)
    (hfacts : ∀ fact ∈ facts, justified s.history fact) :
    Sound justified (s.record store facts) where
  sessions := by rwa [State.record, sessionEntries_append]
  apiKeys := by rwa [State.record, apiKeyEntries_append]
  shareLinks := by rwa [State.record, shareLinkEntries_append]
  justified := justified_append hj h.justified hfacts

/-- Facts that are not about a table leave it. -/
lemma records_of_nil {K V : Type} [DecidableEq K] {key : V → K}
    {entries facts : List (Ledger.Entry K V)}
    {rows : V → Prop} (h : Records key entries rows) (hfacts : facts = []) :
    Records key (entries ++ facts) rows := by
  rwa [hfacts, List.append_nil]

/-- A state in which no credential has changed. -/
lemma Sound.unchanged (hj : Justifies justified) (h : Sound justified s) {store : Store}
    (hsessions : store.sessions = s.store.sessions) (hapiKeys : store.apiKeys = s.store.apiKeys)
    (hshareLinks : store.shareLinks = s.store.shareLinks) {facts : History}
    (hfacts : ∀ fact ∈ facts, justified s.history fact)
    (hnone : sessionEntries facts = [] ∧ apiKeyEntries facts = [] ∧ shareLinkEntries facts = []) :
    Sound justified (s.record store facts) := by
  refine h.recorded hj ?_ ?_ ?_ hfacts
  · rw [hsessions]
    exact records_of_nil h.sessions hnone.1
  · rw [hapiKeys]
    exact records_of_nil h.apiKeys hnone.2.1
  · rw [hshareLinks]
    exact records_of_nil h.shareLinks hnone.2.2

/-- Sessions that are deleted end. -/
lemma Sound.endSessions (hj : Justifies justified) (h : Sound justified s)
    (selects : Session → Bool) : Sound justified (s.endSessions selects) := by
  have hentries (rows : List Session) :
      sessionEntries (rows.map fun session => .session (.closed session.tokenHash)) =
          (rows.map Session.tokenHash).map .closed ∧
        apiKeyEntries (rows.map fun session => .session (.closed session.tokenHash)) = [] ∧
          shareLinkEntries (rows.map fun session => .session (.closed session.tokenHash)) = [] := by
    induction rows with
    | nil => exact ⟨rfl, rfl, rfl⟩
    | cons row rows ih =>
      obtain ⟨hsessions, hapiKeys, hshareLinks⟩ := ih
      refine ⟨?_, hapiKeys, hshareLinks⟩
      rw [List.map_cons, List.map_cons, List.map_cons, ← hsessions]
      rfl
  obtain ⟨hsessions, hapiKeys, hshareLinks⟩ := hentries (s.store.sessions.rows.filter selects)
  refine h.recorded hj ?_ (records_of_nil h.apiKeys hapiKeys)
    (records_of_nil h.shareLinks hshareLinks) fun fact hfact => ?_
  · rw [hsessions]
    refine (h.sessions.closed _).congr fun session => ?_
    rw [KeyedTable.mem_deleteWhere]
    refine and_congr_right fun hsession => ?_
    rw [List.mem_map, ← Bool.not_eq_true, not_iff_not]
    constructor
    · exact fun hselects => ⟨session, List.mem_filter.mpr ⟨hsession, hselects⟩, rfl⟩
    · rintro ⟨other, hother, hkey⟩
      obtain ⟨hmem, hselects⟩ := List.mem_filter.mp hother
      rwa [← KeyedTable.eq_of_key_eq hmem hsession hkey]
  · obtain ⟨session, -, rfl⟩ := List.mem_map.mp hfact
    exact hj.sessionClosed _ _

/-- A session that is inserted is open. -/
lemma Sound.createSession (hj : Justifies justified) (h : Sound justified s) {session : Session}
    (hsession : justified s.history (.session (.opened session.stored))) :
    Sound justified (s.createSession session).2 := by
  unfold State.createSession
  split
  next sessions hinsert =>
    split
    · obtain ⟨hmem, hnew⟩ := KeyedTable.insertNew_eq_some hinsert
      refine h.recorded hj ((h.sessions.opened hnew).congr hmem) (records_of_nil h.apiKeys rfl)
        (records_of_nil h.shareLinks rfl) fun fact hfact => ?_
      rwa [List.mem_singleton.mp hfact]
    · exact h
  · exact h

/-- An API key that is inserted is open. -/
lemma Sound.createAPIKey (hj : Justifies justified) (h : Sound justified s) {key : APIKeyRecord}
    (hkey : justified s.history (.apiKey (.opened key.stored))) :
    Sound justified (s.createAPIKey key).2 := by
  unfold State.createAPIKey
  split
  next apiKeys hinsert =>
    split
    · obtain ⟨hmem, hnew⟩ := KeyedTable.insertNew_eq_some hinsert
      refine h.recorded hj (records_of_nil h.sessions rfl) ((h.apiKeys.opened hnew).congr hmem)
        (records_of_nil h.shareLinks rfl) fun fact hfact => ?_
      rwa [List.mem_singleton.mp hfact]
    · exact h
  · exact h

/-- An API key that is deleted ends. -/
lemma Sound.deleteAPIKey (hj : Justifies justified) (h : Sound justified s) (adminID id : String) :
    Sound justified (s.deleteAPIKey adminID id).2 := by
  unfold State.deleteAPIKey
  split
  next hany =>
    refine h.recorded hj (records_of_nil h.sessions rfl) ?_ (records_of_nil h.shareLinks rfl)
      fun fact hfact => ?_
    · refine (h.apiKeys.closed [id]).congr fun key => ?_
      rw [KeyedTable.mem_deleteWhere]
      refine and_congr_right fun hkey => ?_
      rw [List.mem_singleton, ← Bool.not_eq_true, not_iff_not, Bool.and_eq_true, decide_eq_true_eq,
        decide_eq_true_eq]
      refine ⟨And.left, fun hid => ⟨hid, ?_⟩⟩
      obtain ⟨other, hother, hselected⟩ := List.any_eq_true.mp hany
      rw [Bool.and_eq_true, decide_eq_true_eq, decide_eq_true_eq] at hselected
      rw [KeyedTable.eq_of_key_eq hkey hother (hid.trans hselected.1.symm)]
      exact hselected.2
    · rw [List.mem_singleton.mp hfact]
      exact hj.apiKeyClosed _ _
  · exact h

/-- A share link that is inserted is open. -/
lemma Sound.createShareLink (hj : Justifies justified) (h : Sound justified s)
    {link : ShareLinkRecord} (hlink : justified s.history (.shareLink (.opened link.stored)))
    (hrevoked : link.revokedAt = none) : Sound justified (s.createShareLink link).2 := by
  unfold State.createShareLink
  split
  next shareLinks hinsert =>
    split
    · obtain ⟨hmem, hnew⟩ := KeyedTable.insertNew_eq_some hinsert
      refine h.recorded hj (records_of_nil h.sessions rfl) (records_of_nil h.apiKeys rfl) ?_
        fun fact hfact => ?_
      · refine (h.shareLinks.opened fun other hother => hnew other hother.1).congr fun other => ?_
        rw [hmem]
        constructor
        · rintro ⟨rfl | hother, hnone⟩
          · exact Or.inl rfl
          · exact Or.inr ⟨hother, hnone⟩
        · rintro (rfl | ⟨hother, hnone⟩)
          · exact ⟨Or.inl rfl, hrevoked⟩
          · exact ⟨Or.inr hother, hnone⟩
      · rwa [List.mem_singleton.mp hfact]
    · exact h
  · exact h

/-- A share link that is revoked ends. -/
lemma Sound.revokeShareLink (hj : Justifies justified) (h : Sound justified s) (id : String)
    (now : Time) : Sound justified (s.revokeShareLink id now).2 := by
  unfold State.revokeShareLink
  split
  · refine h.recorded hj (records_of_nil h.sessions rfl) (records_of_nil h.apiKeys rfl) ?_
      fun fact hfact => ?_
    · refine (h.shareLinks.closed [id]).congr fun link => ?_
      rw [KeyedTable.mem_updateAll, List.mem_singleton]
      constructor
      · rintro ⟨⟨other, hother, hlink⟩, hnone⟩
        split at hlink
        next => rw [← hlink] at hnone; cases hnone
        next hkept =>
          subst hlink
          exact ⟨⟨hother, hnone⟩, fun hid => hkept ⟨hid, hnone⟩⟩
      · rintro ⟨⟨hlink, hnone⟩, hid⟩
        exact ⟨⟨link, hlink, if_neg fun hrevoked => hid hrevoked.1⟩, hnone⟩
    · rw [List.mem_singleton.mp hfact]
      exact hj.shareLinkClosed _ _
  · exact h

/-! ## Calls -/

/-- The credentials stay as they are. -/
lemma Sound.record_nil (hj : Justifies justified) (h : Sound justified s) {store : Store}
    (hsessions : store.sessions = s.store.sessions) (hapiKeys : store.apiKeys = s.store.apiKeys)
    (hshareLinks : store.shareLinks = s.store.shareLinks) :
    Sound justified (s.record store []) :=
  h.unchanged hj hsessions hapiKeys hshareLinks (fun _ hfact => absurd hfact List.not_mem_nil)
    ⟨rfl, rfl, rfl⟩

/-- A fact that is about no credential. -/
lemma Sound.record_singleton (hj : Justifies justified) (h : Sound justified s) {store : Store}
    (hsessions : store.sessions = s.store.sessions) (hapiKeys : store.apiKeys = s.store.apiKeys)
    (hshareLinks : store.shareLinks = s.store.shareLinks) {fact : Fact}
    (hfact : justified s.history fact)
    (hnone : sessionEntries [fact] = [] ∧ apiKeyEntries [fact] = [] ∧ shareLinkEntries [fact] = []) :
    Sound justified (s.record store [fact]) :=
  h.unchanged hj hsessions hapiKeys hshareLinks
    (fun _ hmem => by rwa [List.mem_singleton.mp hmem]) hnone

/-- The clock is read. -/
lemma Sound.readClock (hj : Justifies justified) (h : Sound justified s) (clock : Time) :
    Sound justified (s.record s.store [.clock clock]) :=
  h.record_singleton hj rfl rfl rfl (hj.clock _ _) ⟨rfl, rfl, rfl⟩

/-- A call that is entitled to what it makes keeps the tables sound. -/
lemma Sound.answer (hj : Justifies justified) (h : Sound justified s) (clock : Time) {call : Call}
    (hcall : Entitled justified s.history call) : Sound justified (s.answer clock call).2 := by
  cases call with
  | now => exact h.readClock hj clock
  | initializeSite admin =>
    change Sound justified (s.initializeSite admin).2
    unfold State.initializeSite
    split
    · refine h.record_singleton hj ?_ ?_ ?_ (hj.setup _ admin) ⟨rfl, rfl, rfl⟩ <;> rfl
    · exact h
  | getAdminByUsername username =>
    change Sound justified (s.getAdminByUsername username).2
    unfold State.getAdminByUsername
    split
    · exact h
    · exact h.record_singleton hj rfl rfl rfl (hj.login _ _) ⟨rfl, rfl, rfl⟩
  | updateAdmin admin =>
    change Sound justified (s.updateAdmin admin).2
    unfold State.updateAdmin
    split
    · exact h.record_nil hj rfl rfl rfl
    · exact h
  | createSession session => exact h.createSession hj hcall
  | deleteSession tokenHash => exact h.endSessions hj _
  | deleteAdminSessions adminID exceptHash => exact h.endSessions hj _
  | createAPIKey key => exact h.createAPIKey hj hcall
  | deleteAPIKey adminID id => exact h.deleteAPIKey hj adminID id
  | createShareLink link => exact h.createShareLink hj hcall.1 hcall.2
  | revokeShareLink id now => exact h.revokeShareLink hj id now
  | _ => exact h

/-- The history only grows. -/
lemma State.answer_history (s : State) (clock : Time) (call : Call) :
    s.history <+: (s.answer clock call).2.history := by
  have hrecord (store : Store) (facts : History) :
      s.history <+: (s.record store facts).history := List.prefix_append _ _
  cases call with
  | now => exact hrecord _ _
  | initializeSite admin =>
    change _ <+: (s.initializeSite admin).2.history
    unfold State.initializeSite
    split
    · exact hrecord _ _
    · exact List.prefix_rfl
  | getAdminByUsername username =>
    change _ <+: (s.getAdminByUsername username).2.history
    unfold State.getAdminByUsername
    split
    · exact List.prefix_rfl
    · exact hrecord _ _
  | updateAdmin admin =>
    change _ <+: (s.updateAdmin admin).2.history
    unfold State.updateAdmin
    split
    · exact hrecord _ _
    · exact List.prefix_rfl
  | createSession session =>
    change _ <+: (s.createSession session).2.history
    unfold State.createSession
    split
    · split
      · exact hrecord _ _
      · exact List.prefix_rfl
    · exact List.prefix_rfl
  | deleteSession tokenHash => exact hrecord _ _
  | deleteAdminSessions adminID exceptHash => exact hrecord _ _
  | createAPIKey key =>
    change _ <+: (s.createAPIKey key).2.history
    unfold State.createAPIKey
    split
    · split
      · exact hrecord _ _
      · exact List.prefix_rfl
    · exact List.prefix_rfl
  | deleteAPIKey adminID id =>
    change _ <+: (s.deleteAPIKey adminID id).2.history
    unfold State.deleteAPIKey
    split
    · exact hrecord _ _
    · exact List.prefix_rfl
  | createShareLink link =>
    change _ <+: (s.createShareLink link).2.history
    unfold State.createShareLink
    split
    · split
      · exact hrecord _ _
      · exact List.prefix_rfl
    · exact List.prefix_rfl
  | revokeShareLink id now =>
    change _ <+: (s.revokeShareLink id now).2.history
    unfold State.revokeShareLink
    split
    · exact hrecord _ _
    · exact List.prefix_rfl
  | _ => exact List.prefix_rfl

/-- A call that fails changes at most what was read of the clock. -/
lemma State.afterFailure_cases (s : State) (clock : Time) (call : Call) :
    s.afterFailure clock call = s ∨
      s.afterFailure clock call = s.record s.store [.clock clock] := by
  cases call with
  | now => exact Or.inr rfl
  | _ => exact Or.inl rfl

/-- One state comes after another. -/
def State.Precedes (s t : State) : Prop := s.history <+: t.history

instance : Std.Refl State.Precedes := ⟨fun _ => List.prefix_rfl⟩

instance : IsTrans State State.Precedes := ⟨fun _ _ _ h h' => h.trans h'⟩

/-- Under every fate, a call that is entitled to what it makes keeps the tables sound. -/
lemma Sound.answerCall (hj : Justifies justified) (h : Sound justified s) (fate : Fate)
    {call : Call} (hcall : Entitled justified s.history call) :
    Sound justified (answerCall fate call s).2 ∧ s.Precedes (answerCall fate call s).2 := by
  unfold Access.answerCall
  split
  · exact ⟨h.answer hj _ hcall, s.answer_history _ _⟩
  · dsimp only
    rcases s.afterFailure_cases fate.clock call with hafter | hafter <;> rw [hafter]
    · exact ⟨h, List.prefix_rfl⟩
    · exact ⟨h.readClock hj _, List.prefix_append _ _⟩
  · exact ⟨h.answer hj _ hcall, s.answer_history _ _⟩

/-- What changes besides the requests keeps the tables sound. -/
lemma Sound.change (hj : Justifies justified) (h : Sound justified s) (event : Change) :
    Sound justified (s.change event) ∧ s.Precedes (s.change event) := by
  cases event with
  | deleteExpiredSessions now => exact ⟨h.endSessions hj _, List.prefix_append _ _⟩
  | data admins settings nodes metrics latest traffic =>
    exact ⟨h.record_nil hj rfl rfl rfl, List.prefix_append _ _⟩

/-! ## Handlers -/

/-- A handler that makes only what it is entitled to, and ends as `Q` says. -/
abbrev Conducts {α : Type} (justified : History → Fact → Prop) (Q : α → State → Prop)
    (p : Handling α) (s : State) : Prop :=
  Orderly answerCall (Sound justified) State.Precedes Q p s

variable {α : Type} {Q : α → State → Prop}

/-- A call, and what comes after it. -/
lemma conducts_call (hj : Justifies justified) {op : Call} {f : op.Answer → Handling α}
    (hop : ∀ t, s.Precedes t → Entitled justified t.history op)
    (h : ∀ t fate, Sound justified t → s.Precedes t →
      Sound justified (Access.answerCall fate op t).2 → t.Precedes (Access.answerCall fate op t).2 →
      Conducts justified Q (f (Access.answerCall fate op t).1) (Access.answerCall fate op t).2) :
    Conducts justified Q (call op >>= f) s := by
  intro t fate ht hst
  have hkeeps := ht.answerCall hj fate (hop t hst)
  exact ⟨hkeeps, h t fate ht hst hkeeps.1 hkeeps.2⟩

end Sound

end Access

end Hostpin
