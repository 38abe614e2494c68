import Hostpin.Httpapi.AccessRuns

/-!
# By what a request is admitted

A request that is not refused uses a credential (`Uses`): a session, an API key or a share link that
it presents, that was held at a moment after the request had arrived, and that lasted at a time that
was read of a clock since then.  A credential is made only as its `Credential.Given` says: a session
for a login by a password, with a second factor where the administrator has one, or for the setup, and
an API key or a share link for a request that used a credential itself.

The lemmas say of each handler that it makes only what it is entitled to, and what its answer means.
-/

namespace Hostpin

open Clock Ledger Procedure Text

namespace Access

/-! ## Credentials -/

/-- What a request is admitted by. -/
inductive Credential where
  | session (session : Session)
  | apiKey (key : APIKeyRecord)
  | shareLink (link : ShareLinkRecord)

/-- Whether a history leaves a credential open. -/
def Credential.HeldIn (history : History) : Credential → Prop
  | .session row => heldSession history row.tokenHash = some row
  | .apiKey key => heldAPIKey history key.id = some key
  | .shareLink link => heldShareLink history link.id = some link

/-- Whether a credential lasts at a time: a session still does at its end. -/
def Credential.LastsAt (reading : Time) : Credential → Prop
  | .session row => reading ≤ row.expiresAt
  | .apiKey key => ∀ expiresAt ∈ key.expiresAt, reading < expiresAt
  | .shareLink link => reading < link.expiresAt

/-- For which administrator a credential is. -/
def Credential.adminID : Credential → Option String
  | .session row => some row.adminID
  | .apiKey key => some key.adminID
  | .shareLink _ => none

/-- What happens when a credential is made. -/
def Credential.opened : Credential → Fact
  | .session row => .session (.opened row)
  | .apiKey key => .apiKey (.opened key)
  | .shareLink link => .shareLink (.opened link)

/-- A credential was held and lasted at moments between two histories. -/
structure Credential.Valid (past now : History) (c : Credential) : Prop where
  held : Since past now fun moment => c.HeldIn moment
  lasts : ∃ reading, .clock reading ∈ added past now ∧ c.LastsAt reading

/-- A credential that is held was made. -/
lemma Credential.opened_mem {history : History} {c : Credential} (h : c.HeldIn history) :
    c.opened ∈ history := by
  cases c with
  | session row => exact mem_sessionEntries.mp (opened_of_held h)
  | apiKey key => exact mem_apiKeyEntries.mp (opened_of_held h)
  | shareLink link => exact mem_shareLinkEntries.mp (opened_of_held h)

/-- A credential that is held later was held before, or was made in between. -/
lemma Credential.heldIn_or_opened {past now : History} {c : Credential} (hnow : past <+: now)
    (h : c.HeldIn now) : c.HeldIn past ∨ c.opened ∈ added past now := by
  obtain ⟨facts, rfl⟩ := hnow
  rw [added_append]
  cases c with
  | session row =>
    rw [HeldIn, heldSession, sessionEntries_append] at h
    exact (held_or_opened h).imp_right mem_sessionEntries.mp
  | apiKey key =>
    rw [HeldIn, heldAPIKey, apiKeyEntries_append] at h
    exact (held_or_opened h).imp_right mem_apiKeyEntries.mp
  | shareLink link =>
    rw [HeldIn, heldShareLink, shareLinkEntries_append] at h
    exact (held_or_opened h).imp_right mem_shareLinkEntries.mp

/-- What was valid stays so. -/
lemma Credential.Valid.extend {past now later : History} {c : Credential} (h : c.Valid past now)
    (hlater : now <+: later) : c.Valid past later where
  held := h.held.extend hlater
  lasts := by
    obtain ⟨moment, hpast, hnow, -⟩ := h.held
    obtain ⟨reading, hreading, hlasts⟩ := h.lasts
    exact ⟨reading, mem_added_later (hpast.trans hnow) hlater hreading, hlasts⟩

section Specification

variable (P : Services) (started : Request → Prop)

/-- A request presents a credential: the cookie of a session, with its token against forged requests
where something changes, the token of an API key for the administrator, or the token of a share
link. -/
def Presents : Request → Credential → Prop
  | .admin caller action, .session session =>
    (∃ token, caller.sessionCookie = some token ∧ token ≠ "" ∧ session.tokenHash = P.hash token) ∧
      (action.changes = true → caller.csrfHeader ≠ "" ∧
        caller.csrfCookie = some caller.csrfHeader ∧ session.csrfHash = P.hash caller.csrfHeader)
  | .admin caller _, .apiKey key =>
    bearerKey P caller.authorization = some (key.tokenID, key.tokenHash) ∧ "admin" ∈ key.scopes
  | .share token, .shareLink link => link.tokenHash = P.hash token
  | .shareHistory token nodeID _ _, .shareLink link =>
    link.tokenHash = P.hash token ∧ nodeID ∈ link.nodeIDs
  | _, _ => False

/-- A request presents a credential that is valid between two histories. -/
structure Uses (past now : History) (request : Request) (c : Credential) : Prop where
  presents : Presents P request c
  valid : c.Valid past now

/-- The second factor of an administrator: a code that is valid, or a recovery code. -/
def SecondFactor (login : Login) (request : LoginRequest) (admin : Admin) : Prop :=
  admin.totpSecretEnc ≠ "" →
    (∃ secret, P.openSecret admin.totpSecretEnc = some secret ∧
      (login.validTOTP (trimSpace request.totpCode) secret = true ∨
        login.validTOTP request.totpCode secret = true)) ∨
      (consumeRecoveryCode P.recovery admin.recoveryHashes request.recoveryCode).isSome

/-- A login proved to be the administrator's. -/
structure LoginProves (before : History) (login : Login) (request : LoginRequest) (admin : Admin) :
    Prop where
  body : login.body = .ok request
  read : .login admin ∈ before
  username : admin.username = trimSpace request.username
  password : P.verifyHash admin.passwordHash request.password = true
  secondFactor : SecondFactor P login request admin

/-- Somebody has logged in as an administrator, or has set up the site as this administrator. -/
def Proved (before : History) (adminID : String) : Prop :=
  (∃ login request admin, (started (.login login) ∨ started (.komariLogin login)) ∧
    LoginProves P before login request admin ∧ admin.id = adminID) ∨
  ∃ body draws session request params, started (.setup body draws session) ∧ body = .ok request ∧
    setupParams P.setup request draws = .ok params ∧ .setup params.admin ∈ before ∧
      params.admin.id = adminID

/-- What a credential is made for: a login or the setup, or a request that uses a credential. -/
def Credential.Given (before : History) : Credential → Prop
  | .session row =>
    Proved P started before row.adminID ∧
      ∃ reading, .clock reading ∈ before ∧ row.expiresAt = storedTime (reading + sessionLength)
  | .apiKey key =>
    ∃ caller body id drawID drawSecret past maker,
      started (.admin caller (.createAPIKey body id drawID drawSecret)) ∧
        Uses P past before (.admin caller (.createAPIKey body id drawID drawSecret)) maker ∧
          maker.adminID = some key.adminID ∧ key.scopes = ["admin"]
  | .shareLink link =>
    ∃ caller request id drawSecret past maker,
      started (.admin caller (.createShareLink (.ok request) id drawSecret)) ∧
        Uses P past before (.admin caller (.createShareLink (.ok request) id drawSecret)) maker ∧
          (∀ nodeID ∈ link.nodeIDs, nodeID ∈ request.nodeIDs) ∧
            link.expiresAt = storedTime request.expiresAt

/-- A credential that is made is given. -/
def Justified (before : History) (fact : Fact) : Prop :=
  ∀ c : Credential, fact = c.opened → c.Given P started before

/-- The credentials that an answer of a request ends. -/
def Ends (caller : Caller) (adminID : Option String) : Action → Response → Credential → Prop
  | .deleteSession id, .sessionDeleted, .session session => session.tokenHash = id
  | .revokeOtherSessions, .othersRevoked, .session session =>
    adminID = some session.adminID ∧
      (currentHash P caller = "" ∨ session.tokenHash ≠ currentHash P caller)
  | .deleteAPIKey id, .apiKeyDeleted, .apiKey key => key.id = id
  | .revokeShareLink id, .shareLinkRevoked, .shareLink link => link.id = id
  | _, _, _ => False

/-- The credentials that an answer shows. -/
def Response.shown : Response → List Credential
  | .sessions rows => rows.map .session
  | .apiKeys rows => rows.map .apiKey
  | .apiKeyCreated key _ => [.apiKey key.stored]
  | .shareLinks rows => (rows.filter (·.revokedAt.isNone)).map .shareLink
  | .shareLinkCreated link _ => [.shareLink link.stored]
  | _ => []

/-- What the answer to an administrator means, when a credential was used. -/
structure Action.Answered (past now : History) (caller : Caller) (action : Action)
    (response : Response) (adminID : Option String) : Prop where
  ended : ∀ c, Ends P caller adminID action response c →
    Since past now fun moment => ¬c.HeldIn moment
  shown : ∀ c ∈ response.shown, (Since past now fun moment => c.HeldIn moment) ∧
    ∀ id ∈ c.adminID, adminID = some id
  served : ∀ admin, response = .served admin → adminID = some admin.id

end Specification

/-! ## What is given stays given -/

section Given

variable {P : Services} {started : Request → Prop} {past before now later : History}

lemma Uses.extend {request : Request} {c : Credential} (h : Uses P past now request c)
    (hlater : now <+: later) : Uses P past later request c :=
  ⟨h.presents, h.valid.extend hlater⟩

lemma LoginProves.extend {login : Login} {request : LoginRequest} {admin : Admin}
    (h : LoginProves P before login request admin) (hlater : before <+: later) :
    LoginProves P later login request admin :=
  { h with read := hlater.subset h.read }

lemma Proved.extend {adminID : String} (h : Proved P started before adminID)
    (hlater : before <+: later) : Proved P started later adminID := by
  rcases h with ⟨login, request, admin, hstarted, hproves, hid⟩ |
    ⟨body, draws, session, request, params, hstarted, hbody, hparams, hsetup, hid⟩
  · exact Or.inl ⟨login, request, admin, hstarted, hproves.extend hlater, hid⟩
  · exact Or.inr ⟨body, draws, session, request, params, hstarted, hbody, hparams,
      hlater.subset hsetup, hid⟩

lemma Credential.Given.extend {c : Credential} (h : c.Given P started before)
    (hlater : before <+: later) : c.Given P started later := by
  cases c with
  | session row =>
    obtain ⟨hproved, reading, hreading, hexpires⟩ := h
    exact ⟨hproved.extend hlater, reading, hlater.subset hreading, hexpires⟩
  | apiKey key =>
    obtain ⟨caller, body, id, drawID, drawSecret, past, maker, hstarted, huses, hmaker⟩ := h
    exact ⟨caller, body, id, drawID, drawSecret, past, maker, hstarted, huses.extend hlater, hmaker⟩
  | shareLink link =>
    obtain ⟨caller, request, id, drawSecret, past, maker, hstarted, huses, hlink⟩ := h
    exact ⟨caller, request, id, drawSecret, past, maker, hstarted, huses.extend hlater, hlink⟩

/-- Only what is made needs a justification. -/
lemma justified_of_ne {fact : Fact} (h : ∀ c : Credential, fact ≠ c.opened) :
    Justified P started before fact :=
  fun c hfact => absurd hfact (h c)

lemma justifies : Justifies (Justified P started) where
  later _ _ _ hlater h c hfact := (h c hfact).extend hlater
  clock _ _ := justified_of_ne fun c => by cases c <;> exact nofun
  login _ _ := justified_of_ne fun c => by cases c <;> exact nofun
  setup _ _ := justified_of_ne fun c => by cases c <;> exact nofun
  sessionClosed _ _ := justified_of_ne fun c => by cases c <;> exact nofun
  apiKeyClosed _ _ := justified_of_ne fun c => by cases c <;> exact nofun
  shareLinkClosed _ _ := justified_of_ne fun c => by cases c <;> exact nofun

/-- A credential that is given may be made. -/
lemma justified_opened {c : Credential} (h : c.Given P started before) :
    Justified P started before c.opened := by
  intro c' hc
  cases c <;> cases c' <;> cases hc
  · exact h
  · exact h
  · exact h

end Given

/-! ## Calls -/

section Calls

variable {P : Services} {started : Request → Prop} {α : Type} {Q : α → State → Prop} {s t : State}

/-- A call that is answered is answered as the store does, unless it fails. -/
lemma answerCall_cases (fate : Fate) (op : Call) (t : State) :
    answerCall fate op t = t.answer fate.clock op ∨
      ∃ e, (answerCall fate op t).1 = t.failed fate.clock e op := by
  unfold answerCall
  split
  · exact Or.inl rfl
  next e _ => exact Or.inr ⟨e, rfl⟩
  next e _ => exact Or.inr ⟨e, rfl⟩

/-- The clock is read. -/
lemma conducts_now {f : Time → Handling α}
    (h : ∀ t reading, Sound (Justified P started) t → s.Precedes t →
      .clock reading ∈ added s.history t.history →
      Conducts (Justified P started) Q (f reading) t) :
    Conducts (Justified P started) Q (call .now >>= f) s := by
  have hnow (fate : Fate) (t : State) :
      answerCall fate .now t = (fate.clock, t.record t.store [.clock fate.clock]) := by
    unfold answerCall
    split <;> rfl
  refine conducts_call justifies (fun _ _ => trivial) fun t fate _ hst hafter hta => ?_
  rw [hnow] at hafter hta ⊢
  refine h _ _ hafter (hst.trans hta) (mem_added_of_mem_added hst hta ?_)
  dsimp only [State.record]
  rw [added_append]
  exact List.mem_singleton_self _

/-- A call, and what it answers with when it does not fail. -/
lemma conducts_answer {op : Call} {f : op.Answer → Handling α}
    (hop : ∀ t, s.Precedes t → Entitled (Justified P started) t.history op)
    (hfailed : ∀ (t u : State) clock e, Sound (Justified P started) u → s.Precedes u →
      Conducts (Justified P started) Q (f (t.failed clock e op)) u)
    (hanswer : ∀ (t : State) clock, Sound (Justified P started) t → s.Precedes t →
      Sound (Justified P started) (t.answer clock op).2 → s.Precedes (t.answer clock op).2 →
      Conducts (Justified P started) Q (f (t.answer clock op).1) (t.answer clock op).2) :
    Conducts (Justified P started) Q (call op >>= f) s := by
  refine conducts_call justifies hop fun t fate ht hst hafter hta => ?_
  rcases answerCall_cases fate op t with h | ⟨e, h⟩
  · rw [h] at hafter hta ⊢
    exact hanswer t _ ht hst hafter (hst.trans hta)
  · rw [h]
    exact hfailed _ _ _ _ hafter (hst.trans hta)

/-- A call that only reads. -/
lemma conducts_read {op : Call} {f : op.Answer → Handling α}
    (hop : ∀ history, Entitled (Justified P started) history op)
    (hread : ∀ (t : State) clock, (t.answer clock op).2 = t)
    (hfailed : ∀ (t u : State) clock e, Sound (Justified P started) u → s.Precedes u →
      Conducts (Justified P started) Q (f (t.failed clock e op)) u)
    (hanswer : ∀ (t : State) clock, Sound (Justified P started) t → s.Precedes t →
      Conducts (Justified P started) Q (f (t.answer clock op).1) t) :
    Conducts (Justified P started) Q (call op >>= f) s := by
  refine conducts_answer (fun _ _ => hop _) hfailed fun t clock ht hst _ _ => ?_
  rw [hread]
  exact hanswer t clock ht hst

/-- The credentials of a store. -/
def Store.Holds (d : Store) : Credential → Prop
  | .session row => row ∈ d.sessions
  | .apiKey key => key ∈ d.apiKeys
  | .shareLink link => link ∈ d.shareLinks ∧ link.revokedAt = none

/-- The store has the credentials that the history leaves open. -/
lemma Sound.holds_iff {justified : History → Fact → Prop} (h : Sound justified t)
    (c : Credential) : t.store.Holds c ↔ c.HeldIn t.history := by
  cases c with
  | session row => exact h.sessions row
  | apiKey key => exact h.apiKeys key
  | shareLink link => exact h.shareLinks link

variable {clock : Time}

lemma holds_createSession {row : Session} (h : (t.createSession row).1 = .ok ()) :
    (t.createSession row).2.store.Holds (.session row.stored) := by
  unfold State.createSession at h ⊢
  split at h
  next sessions hinsert =>
    split at h
    next hadmin =>
      rw [if_pos hadmin]
      exact ((KeyedTable.insertNew_eq_some hinsert).1 _).mpr (Or.inl rfl)
    · cases h
  · cases h

lemma holds_createAPIKey {key : APIKeyRecord} (h : (t.createAPIKey key).1 = .ok ()) :
    (t.createAPIKey key).2.store.Holds (.apiKey key.stored) := by
  unfold State.createAPIKey at h ⊢
  split at h
  next apiKeys hinsert =>
    split at h
    next hadmin =>
      rw [if_pos hadmin]
      exact ((KeyedTable.insertNew_eq_some hinsert).1 _).mpr (Or.inl rfl)
    · cases h
  · cases h

lemma holds_createShareLink {link : ShareLinkRecord} (hrevoked : link.revokedAt = none)
    (h : (t.createShareLink link).1 = .ok ()) :
    (t.createShareLink link).2.store.Holds (.shareLink link.stored) := by
  unfold State.createShareLink at h ⊢
  split at h
  next shareLinks hinsert =>
    split at h
    next hall =>
      rw [if_pos hall]
      exact ⟨((KeyedTable.insertNew_eq_some hinsert).1 _).mpr (Or.inl rfl), hrevoked⟩
    · cases h
  · cases h

/-- Sessions that are deleted are not there. -/
lemma not_holds_endSessions {selects : Session → Bool} {row : Session} (h : selects row = true) :
    ¬(t.endSessions selects).store.Holds (.session row) := by
  intro hrow
  obtain ⟨-, hkept⟩ := KeyedTable.mem_deleteWhere.mp hrow
  exact absurd h (by simp [hkept])

lemma not_holds_deleteAPIKey {adminID id : String} (h : (t.deleteAPIKey adminID id).1 = .ok ())
    {key : APIKeyRecord} (hid : key.id = id) :
    ¬(t.deleteAPIKey adminID id).2.store.Holds (.apiKey key) := by
  unfold State.deleteAPIKey at h ⊢
  split at h
  next hany =>
    rw [if_pos hany]
    intro hkey
    obtain ⟨hmem, hkept⟩ := KeyedTable.mem_deleteWhere.mp hkey
    obtain ⟨other, hother, hselected⟩ := List.any_eq_true.mp hany
    rw [Bool.and_eq_true, decide_eq_true_eq, decide_eq_true_eq] at hselected
    rw [KeyedTable.eq_of_key_eq hmem hother (hid.trans hselected.1.symm)] at hkept
    simp [hselected] at hkept
  · cases h

lemma not_holds_revokeShareLink {id : String} {now : Time}
    (h : (t.revokeShareLink id now).1 = .ok ()) {link : ShareLinkRecord} (hid : link.id = id) :
    ¬(t.revokeShareLink id now).2.store.Holds (.shareLink link) := by
  unfold State.revokeShareLink at h ⊢
  split at h
  next hany =>
    rw [if_pos hany]
    dsimp only [State.record, Store.Holds]
    rw [KeyedTable.mem_updateAll]
    rintro ⟨⟨other, -, rfl⟩, hnone⟩
    by_cases hselected : other.id = id ∧ other.revokedAt = none
    · rw [if_pos hselected] at hnone
      cases hnone
    · rw [if_neg hselected] at hid hnone
      exact hselected ⟨hid, hnone⟩
  · cases h

end Calls

/-! ## Admission -/

/-- The credential by which a request is admitted. -/
def Identity.credential : Identity → Credential
  | .session _ row => .session row
  | .apiKey _ key => .apiKey key

section Admission

variable {P : Services} {started : Request → Prop} {α : Type} {s : State} {past : History}

/-- A handler that finds nothing. -/
lemma conducts_none {R : α → State → Prop} :
    Conducts (Justified P started) (fun answer t => ∀ a ∈ answer, R a t)
      (pure none : Handling (Option α)) s :=
  Orderly.pure fun _ _ _ _ ha => by cases ha

/-- A session that is found is valid. -/
lemma conducts_getSession (hpast : past <+: s.history) (tokenHash : String) :
    Conducts (Justified P started)
      (fun answer t => ∀ row ∈ answer, row.tokenHash = tokenHash ∧
        (Credential.session row).Valid past t.history)
      (getSession tokenHash) s := by
  unfold getSession
  refine conducts_read (fun _ => trivial) (fun _ _ => rfl) (fun _ _ _ _ _ _ => conducts_none)
    fun t clock ht hst => ?_
  cases hanswer : (t.answer clock (.selectSession tokenHash)).1 with
  | error e => exact conducts_none
  | ok row =>
    obtain ⟨hrow, hkey⟩ := KeyedTable.lookup_eq_some_iff.mp (found_eq_ok hanswer)
    have hheld := (ht.holds_iff (.session row)).mp hrow
    refine conducts_now fun u reading _ htu hreading => ?_
    split
    · exact conducts_call justifies (fun _ _ => trivial) fun _ _ _ _ _ _ => conducts_none
    next hlasts =>
      refine Orderly.pure fun v _ huv row' hrow' => ?_
      cases hrow'
      refine ⟨hkey, ⟨t.history, hpast.trans hst, htu.trans huv, hheld⟩, reading, ?_, not_lt.mp hlasts⟩
      exact mem_added_later ((hpast.trans hst).trans htu) huv
        (mem_added_of_mem_added (hpast.trans hst) htu hreading)

/-- The administrator with an id. -/
lemma conducts_getAdminByID {β : Type} {Q : β → State → Prop} {id : String}
    {f : Except StoreError Admin → Handling β}
    (herror : ∀ t e, Conducts (Justified P started) Q (f (.error e)) t)
    (hok : ∀ t admin, s.Precedes t → admin.id = id →
      Conducts (Justified P started) Q (f (.ok admin)) t) :
    Conducts (Justified P started) Q (call (.getAdminByID id) >>= f) s := by
  refine conducts_read (fun _ => trivial) (fun _ _ => rfl) (fun _ _ _ _ _ _ => herror _ _)
    fun t clock _ hst => ?_
  cases hanswer : (t.answer clock (.getAdminByID id)).1 with
  | error e => exact herror _ _
  | ok admin => exact hok t admin hst (by simpa using List.find?_some (found_eq_ok hanswer))

/-- Who presents a session. -/
lemma conducts_currentAdmin (hs : Sound (Justified P started) s) (hpast : past <+: s.history)
    (caller : Caller) :
    Conducts (Justified P started)
      (fun answer t => ∀ found ∈ answer,
        (∃ token, caller.sessionCookie = some token ∧ token ≠ "" ∧
          found.2.tokenHash = P.hash token) ∧
        (Credential.session found.2).Valid past t.history ∧ found.1.id = found.2.adminID)
      (currentAdmin P caller) s := by
  unfold currentAdmin
  split
  · exact conducts_none
  next token hcookie =>
    split
    · exact conducts_none
    next htoken =>
      refine Orderly.bind hs ((conducts_getSession hpast _).mono fun answer t ht hanswer => ?_)
      cases answer with
      | none => exact conducts_none
      | some row =>
        obtain ⟨hhash, hvalid⟩ := hanswer row rfl
        refine conducts_getAdminByID (fun _ _ => conducts_none) fun u admin htu hid => ?_
        refine Orderly.pure fun v _ huv found hfound => ?_
        cases hfound
        exact ⟨⟨token, hcookie, htoken, hhash⟩, (hvalid.extend htu).extend huv, hid⟩

/-- Who presents an API key. -/
lemma conducts_authenticateAPIKey (hpast : past <+: s.history) (tokenID tokenHash : String)
    {now : Time} (hnow : .clock now ∈ added past s.history) :
    Conducts (Justified P started)
      (fun answer t => ∀ found ∈ answer, found.2.tokenID = tokenID ∧ found.2.tokenHash = tokenHash ∧
        (Credential.apiKey found.2).Valid past t.history ∧ found.1.id = found.2.adminID)
      (authenticateAPIKey tokenID tokenHash now) s := by
  unfold authenticateAPIKey
  refine conducts_read (fun _ => trivial) (fun _ _ => rfl) (fun _ _ _ _ _ _ => conducts_none)
    fun t clock ht hst => ?_
  cases hanswer : (t.answer clock (.selectAPIKey tokenID)).1 with
  | error e => exact conducts_none
  | ok key =>
    have hfind := found_eq_ok hanswer
    have hid : key.tokenID = tokenID := by simpa using List.find?_some hfind
    have hheld := (ht.holds_iff (.apiKey key)).mp (List.mem_of_find?_eq_some hfind)
    dsimp only
    split
    · exact conducts_none
    next hkey =>
      rw [not_or, not_not] at hkey
      refine conducts_getAdminByID (fun _ _ => conducts_none) fun u admin htu hadmin => ?_
      refine Orderly.pure fun v _ huv found hfound => ?_
      cases hfound
      have htv := htu.trans huv
      refine ⟨hid, hkey.1, ⟨⟨t.history, hpast.trans hst, htv, hheld⟩, now, ?_, ?_⟩, hadmin⟩
      · exact mem_added_later hpast (hst.trans htv) hnow
      · intro expiresAt hexpires
        change key.expiresAt = some expiresAt at hexpires
        simpa [hexpires] using hkey.2

/-- The credential of who is admitted is valid, and is for this administrator. -/
def Identity.Holds (P : Services) (past now : History) (caller : Caller) (identity : Identity) :
    Prop :=
  identity.credential.Valid past now ∧ identity.credential.adminID = some identity.admin.id ∧
    match identity with
    | .session _ row =>
      ∃ token, caller.sessionCookie = some token ∧ token ≠ "" ∧ row.tokenHash = P.hash token
    | .apiKey _ key =>
      bearerKey P caller.authorization = some (key.tokenID, key.tokenHash) ∧ "admin" ∈ key.scopes

/-- Who is admitted. -/
lemma conducts_requireAdmin (hs : Sound (Justified P started) s) (hpast : past <+: s.history)
    (caller : Caller) :
    Conducts (Justified P started)
      (fun answer t => ∀ identity ∈ answer, identity.Holds P past t.history caller)
      (requireAdmin P caller) s := by
  unfold requireAdmin
  refine Orderly.bind hs (((conducts_currentAdmin hs hpast caller).evolved (refl_of _ s)).mono
    fun answer t ht hanswer => ?_)
  obtain ⟨hanswer, hst⟩ := hanswer
  cases answer with
  | some found =>
    obtain ⟨admin, row⟩ := found
    obtain ⟨hcookie, hvalid, hid⟩ := hanswer _ rfl
    refine Orderly.pure fun u _ htu identity hidentity => ?_
    cases hidentity
    exact ⟨hvalid.extend htu, congrArg some hid.symm, hcookie⟩
  | none =>
    cases hbearer : bearerKey P caller.authorization with
    | none => exact conducts_none
    | some found =>
      obtain ⟨tokenID, tokenHash⟩ := found
      change Conducts _ _ (call .now >>= _) t
      refine conducts_now fun u now hu htu hnow => ?_
      have hpast' := (hpast.trans hst).trans htu
      refine Orderly.bind hu ((conducts_authenticateAPIKey hpast' tokenID tokenHash
        (mem_added_of_mem_added (hpast.trans hst) htu hnow)).mono fun answer v hv hfound => ?_)
      cases answer with
      | none => exact conducts_none
      | some found =>
        obtain ⟨admin, key⟩ := found
        obtain ⟨rfl, rfl, hvalid, hid⟩ := hfound _ rfl
        change Conducts _ _ (if _ then _ else _) v
        split
        next hscope =>
          refine Orderly.pure fun w _ hvw identity hidentity => ?_
          cases hidentity
          exact ⟨hvalid.extend hvw, congrArg some hid.symm, hbearer, hscope⟩
        · exact conducts_none

/-- Who is admitted, and is not forged, uses the credential. -/
lemma Identity.Holds.uses {now : History} {caller : Caller} {identity : Identity}
    (h : identity.Holds P past now caller) {action : Action}
    (hcsrf : requireCSRF P caller action identity = true) :
    Uses P past now (.admin caller action) identity.credential := by
  obtain ⟨hvalid, -, hpresents⟩ := h
  refine ⟨?_, hvalid⟩
  cases identity with
  | apiKey admin key => exact hpresents
  | session admin row =>
    refine ⟨hpresents, fun hchanges => ?_⟩
    simpa [requireCSRF, hchanges, and_assoc] using hcsrf

end Admission

end Access

end Hostpin
