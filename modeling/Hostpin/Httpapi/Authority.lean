import Hostpin.Httpapi.Admission
import Hostpin.Httpapi.Disclosure

/-!
# What authority goes back to

Every handler makes only credentials that are given, and its answer means what `Request.Explained`
says.  So over every run, in which the calls of the requests interleave in any order and fail in any
way:

* a login answers with a session that was held, and what a request shows is of the credential that it
  used (`answers_explained`);
* a request that is not refused used a credential, and behind this, through whatever API keys and
  share links were made on the way, is somebody who logged in as the administrator or set up the site
  (`authority_proved`);
* what an answered request has ended is not used by a request that arrives later, unless it was made
  again (`ended_not_used`).
-/

namespace Hostpin

open Clock Ledger Procedure Text

namespace Access

/-! ## Explanations -/

/-- An answer with the tokens of a session. -/
def Response.Carries (response : Response) (token csrf : String) : Prop :=
  (∃ status, response = .loggedIn status token csrf) ∨ response = .komariLoggedIn token csrf

/-- What a login answers with is a session that was held. -/
def Response.GivesSession (P : Services) (past now : History) (response : Response) : Prop :=
  ∀ token csrf, response.Carries token csrf →
    ∃ row : Session, row.tokenHash = P.hash token ∧ row.csrfHash = P.hash csrf ∧
      Since past now fun moment => (Credential.session row).HeldIn moment

/-- A visitor sees only nodes of a share link. -/
def Response.Within (response : Response) (link : ShareLinkRecord) : Prop :=
  ∀ name description expiresAt nodes, response = .shared name description expiresAt nodes →
    expiresAt = link.expiresAt ∧ ∀ snapshot ∈ nodes, snapshot.node.id ∈ link.nodeIDs

/-- What the answer of a request means. -/
def Request.Explained (P : Services) (past now : History) (response : Response) : Request → Prop
  | .setup _ _ _ | .login _ | .komariLogin _ => response.GivesSession P past now
  | .logout _ | .komariLogout _ => True
  | .admin caller action =>
    (∃ e, response = .refused e) ∨ ∃ c, Uses P past now (.admin caller action) c ∧
      action.Answered P past now caller response c.adminID
  | .share token =>
    (∃ e, response = .refused e) ∨
      ∃ link, Uses P past now (.share token) (.shareLink link) ∧ response.Within link
  | .shareHistory token nodeID hours points =>
    (∃ e, response = .refused e) ∨
      ∃ link, Uses P past now (.shareHistory token nodeID hours points) (.shareLink link)

section Handlers

variable {P : Services} {started : Request → Prop} {s : State} {past : History}

/-! ## Sessions that are given -/

/-- A session is issued to whoever is proved to be the administrator. -/
lemma conducts_issueSession (hpast : past <+: s.history) {admin : Admin}
    (hproved : Proved P started s.history admin.id) (draws : SessionDraws) :
    Conducts (Justified P started)
      (fun answer t => ∀ found ∈ answer, ∃ row : Session, row.tokenHash = P.hash found.1 ∧
        row.csrfHash = P.hash found.2 ∧
          Since past t.history fun moment => (Credential.session row).HeldIn moment)
      (issueSession P admin draws) s := by
  unfold issueSession
  split
  next token csrf _ _ =>
    refine conducts_now fun t now ht hst hnow => ?_
    refine conducts_answer (fun u htu => ?_) (fun _ _ _ _ _ _ => conducts_none)
      fun u clock _ _ hafter hta => ?_
    · refine justified_opened (c := .session _) ⟨(hproved.extend hst).extend htu, now, ?_, rfl⟩
      exact htu.subset (mem_of_mem_added hnow)
    · cases hcreate : (u.answer clock (.createSession _)).1 with
      | error e => exact conducts_none
      | ok _ =>
        have hheld := (hafter.holds_iff _).mp (holds_createSession hcreate)
        refine Orderly.pure fun v _ hv found hfound => ?_
        cases hfound
        exact ⟨_, rfl, rfl, _, (hpast.trans hst).trans hta, hv, hheld⟩
  · exact conducts_none

/-- An answer that gives no session. -/
lemma conducts_givesNone {response : Response} (hlogin : ∀ status token csrf,
      response ≠ .loggedIn status token csrf)
    (hkomari : ∀ token csrf, response ≠ .komariLoggedIn token csrf) :
    Conducts (Justified P started) (fun response t => response.GivesSession P past t.history)
      (pure response) s := by
  refine Orderly.pure fun t _ _ token csrf hresponse => ?_
  rcases hresponse with ⟨status, hresponse⟩ | hresponse
  · exact absurd hresponse (hlogin _ _ _)
  · exact absurd hresponse (hkomari _ _)

lemma conducts_refuseSession (status : ℕ) (code message : String) :
    Conducts (Justified P started) (fun response t => response.GivesSession P past t.history)
      (refuse status code message) s :=
  conducts_givesNone nofun nofun

/-- A session that is issued is what the answer gives. -/
lemma conducts_issued (hs : Sound (Justified P started) s) (hpast : past <+: s.history)
    {admin : Admin} (hproved : Proved P started s.history admin.id) (draws : SessionDraws)
    {f : Option (String × String) → Handling Response}
    (hnone : ∀ t, Conducts (Justified P started)
      (fun response t => response.GivesSession P past t.history) (f none) t)
    (hsome : ∀ token csrf, ∃ response, f (some (token, csrf)) = pure response ∧
      response.Carries token csrf) :
    Conducts (Justified P started) (fun response t => response.GivesSession P past t.history)
      (issueSession P admin draws >>= f) s := by
  refine Orderly.bind hs ((conducts_issueSession hpast hproved draws).mono fun answer t ht h => ?_)
  cases answer with
  | none => exact hnone t
  | some found =>
    obtain ⟨token, csrf⟩ := found
    obtain ⟨row, hhash, hcsrf, hheld⟩ := h _ rfl
    obtain ⟨response, hresponse, hkind⟩ := hsome token csrf
    rw [hresponse]
    refine Orderly.pure fun u _ htu token' csrf' hresponse' => ?_
    have hsame : token' = token ∧ csrf' = csrf := by
      rcases hkind with ⟨status, rfl⟩ | rfl <;> rcases hresponse' with ⟨status', h⟩ | h <;> cases h
      · exact ⟨rfl, rfl⟩
      · exact ⟨rfl, rfl⟩
    obtain ⟨rfl, rfl⟩ := hsame
    exact ⟨row, hhash, hcsrf, hheld.extend htu⟩

/-- The first administrator is made. -/
lemma setup_mem_initializeSite {t : State} {admin : Admin}
    (h : (t.initializeSite admin).1 = .ok ()) :
    .setup admin ∈ (t.initializeSite admin).2.history := by
  unfold State.initializeSite at h ⊢
  split at h
  next hempty =>
    rw [if_pos hempty]
    exact List.mem_append_right _ (List.mem_singleton_self _)
  · cases h

/-- An administrator is read for a login. -/
lemma login_mem_getAdminByUsername {t : State} {username : String} {admin : Admin}
    (h : (t.getAdminByUsername username).1 = .ok admin) :
    .login admin ∈ (t.getAdminByUsername username).2.history ∧ admin.username = username := by
  unfold State.getAdminByUsername at h ⊢
  split at h
  · cases h
  next hfind =>
    cases h
    exact ⟨List.mem_append_right _ (List.mem_singleton_self _), by simpa using List.find?_some hfind⟩

lemma conducts_handleSetup (hpast : past <+: s.history) {body : Except String SetupRequest}
    {draws : SetupDraws} {session : SessionDraws} (hstarted : started (.setup body draws session)) :
    Conducts (Justified P started) (fun response t => response.GivesSession P past t.history)
      (handleSetup P body draws session) s := by
  unfold handleSetup
  refine conducts_read (fun _ => trivial) (fun _ _ => rfl)
    (fun _ _ _ _ _ _ => conducts_refuseSession _ _ _) fun t clock ht hst => ?_
  cases (t.answer clock .setupComplete).1 with
  | error e => exact conducts_refuseSession _ _ _
  | ok complete =>
    cases complete with
    | true => exact conducts_refuseSession _ _ _
    | false =>
      cases body with
      | error message => exact conducts_refuseSession _ _ _
      | ok request =>
        dsimp only
        cases hparams : setupParams P.setup request draws with
        | error e => exact conducts_givesNone nofun nofun
        | ok params =>
          refine conducts_answer (fun _ _ => trivial)
            (fun _ _ _ _ _ _ => conducts_refuseSession _ _ _) fun u clock' _ _ hafter hta => ?_
          cases hsetup : (u.answer clock' (.initializeSite params.admin)).1 with
          | error e => cases e <;> exact conducts_refuseSession _ _ _
          | ok _ =>
            have hmem := setup_mem_initializeSite hsetup
            refine conducts_issued hafter ((hpast.trans hst).trans hta) (Or.inr ?_) session
              (fun _ => conducts_refuseSession _ _ _) fun token csrf => ?_
            · exact ⟨_, draws, session, request, params, hstarted, rfl, hparams, hmem, rfl⟩
            · exact ⟨_, rfl, Or.inl ⟨201, rfl⟩⟩

/-- A second factor that is passed was proved. -/
lemma conducts_secondFactor (login : Login) (request : LoginRequest) (admin : Admin) :
    Conducts (Justified P started)
      (fun refusal _ => (refusal = none → SecondFactor P login request admin) ∧
        ∀ response ∈ refusal, ∃ e, response = .refused e)
      (secondFactor P login request admin) s := by
  unfold secondFactor
  split
  next hnone => exact Orderly.pure fun _ _ _ => ⟨fun _ hsome => absurd hnone hsome, nofun⟩
  · split
    next hcode =>
      rw [Option.any_eq_true] at hcode
      obtain ⟨secret, hsecret, hvalid⟩ := hcode
      exact Orderly.pure fun _ _ _ =>
        ⟨fun _ _ => Or.inl ⟨secret, hsecret, Or.inl hvalid⟩, nofun⟩
    · split
      · exact Orderly.pure fun _ _ _ => ⟨nofun, fun response h => ⟨_, (Option.some.inj h).symm⟩⟩
      next hcode =>
        refine conducts_now fun t now _ _ _ => ?_
        refine conducts_answer (fun _ _ => trivial) (fun _ _ _ _ _ _ => ?_)
          fun u clock _ _ _ _ => ?_
        · exact Orderly.pure fun _ _ _ => ⟨nofun, fun response h => ⟨_, (Option.some.inj h).symm⟩⟩
        · cases (u.answer clock (.updateAdmin _)).1 with
          | error e =>
            exact Orderly.pure fun _ _ _ => ⟨nofun, fun response h => ⟨_, (Option.some.inj h).symm⟩⟩
          | ok _ =>
            exact Orderly.pure fun _ _ _ => ⟨fun _ _ => Or.inr (by rw [hcode]; rfl), nofun⟩

lemma conducts_handleLogin (hpast : past <+: s.history) {login : Login}
    (hstarted : started (.login login)) :
    Conducts (Justified P started) (fun response t => response.GivesSession P past t.history)
      (handleLogin P login) s := by
  unfold handleLogin
  split
  · exact conducts_refuseSession _ _ _
  next request hbody =>
    refine conducts_answer (fun _ _ => trivial) (fun _ _ _ _ _ _ => conducts_refuseSession _ _ _)
      fun t clock _ _ hafter hst => ?_
    cases hread : (t.answer clock (.getAdminByUsername (trimSpace request.username))).1 with
    | error e => exact conducts_refuseSession _ _ _
    | ok admin =>
      obtain ⟨hmem, husername⟩ := login_mem_getAdminByUsername hread
      dsimp only
      split
      · exact conducts_refuseSession _ _ _
      next hpassword =>
        refine Orderly.bind hafter (((conducts_secondFactor login request admin).evolved
          (refl_of _ _)).mono fun refusal u hu hfactor => ?_)
        obtain ⟨⟨hfactor, hrefusal⟩, htu⟩ := hfactor
        cases refusal with
        | some response =>
          obtain ⟨e, rfl⟩ := hrefusal _ rfl
          exact conducts_givesNone nofun nofun
        | none =>
          have hproves : LoginProves P u.history login request admin :=
            ⟨hbody, htu.subset hmem, husername, Bool.not_eq_false _ ▸ hpassword, hfactor rfl⟩
          refine conducts_issued hu ((hpast.trans hst).trans htu)
            (Or.inl ⟨login, request, admin, Or.inl hstarted, hproves, rfl⟩) login.draws
            (fun _ => conducts_refuseSession _ _ _) fun token csrf => ?_
          exact ⟨_, rfl, Or.inl ⟨200, rfl⟩⟩

lemma conducts_handleKomariLogin (hpast : past <+: s.history) {login : Login}
    (hstarted : started (.komariLogin login)) :
    Conducts (Justified P started) (fun response t => response.GivesSession P past t.history)
      (handleKomariLogin P login) s := by
  unfold handleKomariLogin
  split
  · exact conducts_refuseSession _ _ _
  next request hbody =>
    refine conducts_answer (fun _ _ => trivial)
      (fun _ _ _ _ _ _ => conducts_givesNone nofun nofun) fun t clock _ _ hafter hst => ?_
    cases hread : (t.answer clock (.getAdminByUsername (trimSpace request.username))).1 with
    | error e => exact conducts_givesNone nofun nofun
    | ok admin =>
      obtain ⟨hmem, husername⟩ := login_mem_getAdminByUsername hread
      dsimp only
      split
      · exact conducts_givesNone nofun nofun
      next hpassword =>
        split
        · exact conducts_givesNone nofun nofun
        next hcode =>
          have hfactor : SecondFactor P login request admin := by
            intro hsome
            rw [not_and, Bool.not_eq_false, Option.any_eq_true] at hcode
            obtain ⟨secret, hsecret, hvalid⟩ := hcode hsome
            exact Or.inl ⟨secret, hsecret, Or.inr hvalid⟩
          have hproves : LoginProves P (t.answer clock (.getAdminByUsername _)).2.history login
              request admin :=
            ⟨hbody, hmem, husername, Bool.not_eq_false _ ▸ hpassword, hfactor⟩
          refine conducts_issued hafter (hpast.trans hst)
            (Or.inl ⟨login, request, admin, Or.inr hstarted, hproves, rfl⟩) login.draws
            (fun _ => conducts_givesNone nofun nofun) fun token csrf => ?_
          exact ⟨_, rfl, Or.inr rfl⟩

/-! ## Actions of the administrator -/

section Actions

variable {caller : Caller} {adminID : Option String} {action : Action}

/-- What the answer to an admitted request means. -/
def Settles (P : Services) (past : History) (caller : Caller) (adminID : Option String)
    (action : Action) (response : Response) (t : State) : Prop :=
  (∃ e, response = .refused e) ∨ action.Answered P past t.history caller response adminID

lemma conducts_refuseAction (status : ℕ) (code message : String) :
    Conducts (Justified P started) (Settles P past caller adminID action)
      (refuse status code message) s :=
  Orderly.pure fun _ _ _ => Or.inl ⟨_, rfl⟩

/-- An answer that tells what is held and what is not. -/
lemma conducts_answered (hpast : past <+: s.history) {response : Response}
    (hended : ∀ c, Ends P caller adminID action response c → ¬c.HeldIn s.history)
    (hshown : ∀ c ∈ response.shown, c.HeldIn s.history ∧ ∀ id ∈ c.adminID, adminID = some id)
    (hserved : ∀ admin, response = .served admin → adminID = some admin.id) :
    Conducts (Justified P started) (Settles P past caller adminID action) (pure response) s := by
  refine Orderly.pure fun t _ hst => Or.inr ⟨fun c hc => ?_, fun c hc => ?_, hserved⟩
  · exact ⟨s.history, hpast, hst, hended c hc⟩
  · obtain ⟨hheld, hid⟩ := hshown c hc
    exact ⟨⟨s.history, hpast, hst, hheld⟩, hid⟩

lemma conducts_handleAdminSessions (hpast : past <+: s.history) (admin : Admin) :
    Conducts (Justified P started) (Settles P past caller (some admin.id) .listSessions)
      (handleAdminSessions admin) s := by
  refine conducts_read (fun _ => trivial) (fun _ _ => rfl)
    (fun _ _ _ _ _ _ => conducts_refuseAction _ _ _) fun t clock ht hst => ?_
  refine conducts_answered (hpast.trans hst) (fun _ hends => by cases hends) (fun c hc => ?_) nofun
  obtain ⟨row, hrow, rfl⟩ := List.mem_map.mp hc
  obtain ⟨hmem, howner⟩ := KeyedTable.mem_selectOrdered.mp hrow
  refine ⟨(ht.holds_iff _).mp hmem, fun id hid => ?_⟩
  cases hid
  rw [of_decide_eq_true howner]

lemma conducts_handleAdminDeleteSession (hpast : past <+: s.history) (admin : Admin) (id : String) :
    Conducts (Justified P started) (Settles P past caller (some admin.id) (.deleteSession id))
      (handleAdminDeleteSession admin id) s := by
  refine conducts_read (fun _ => trivial) (fun _ _ => rfl)
    (fun _ _ _ _ _ _ => conducts_refuseAction _ _ _) fun t clock _ hst => ?_
  change Conducts _ _ (if _ then _ else _) t
  split
  · refine conducts_answer (fun _ _ => trivial) (fun _ _ _ _ _ _ => conducts_refuseAction _ _ _)
      fun u clock' _ _ hafter hta => ?_
    refine conducts_answered ((hpast.trans hst).trans hta) (fun c hends hheld => ?_) nofun nofun
    cases c with
    | session row =>
      have hid : row.tokenHash = id := hends
      exact not_holds_endSessions (decide_eq_true hid) ((hafter.holds_iff _).mpr hheld)
    | _ => cases hends
  · exact conducts_refuseAction _ _ _

lemma conducts_handleAdminRevokeOtherSessions (hpast : past <+: s.history) (admin : Admin) :
    Conducts (Justified P started) (Settles P past caller (some admin.id) .revokeOtherSessions)
      (handleAdminRevokeOtherSessions P caller admin) s := by
  refine conducts_answer (fun _ _ => trivial) (fun _ _ _ _ _ _ => conducts_refuseAction _ _ _)
    fun t clock _ _ hafter hst => ?_
  refine conducts_answered (hpast.trans hst) (fun c hends hheld => ?_) nofun nofun
  cases c with
  | session row =>
    obtain ⟨howner, hother⟩ := hends
    refine not_holds_endSessions ?_ ((hafter.holds_iff _).mpr hheld)
    rw [Bool.and_eq_true, Bool.or_eq_true, decide_eq_true_eq, decide_eq_true_eq, decide_eq_true_eq]
    exact ⟨(Option.some.inj howner).symm, hother⟩
  | _ => cases hends

lemma conducts_handleAdminAPIKeys (hpast : past <+: s.history) (admin : Admin) :
    Conducts (Justified P started) (Settles P past caller (some admin.id) .listAPIKeys)
      (handleAdminAPIKeys admin) s := by
  refine conducts_read (fun _ => trivial) (fun _ _ => rfl)
    (fun _ _ _ _ _ _ => conducts_refuseAction _ _ _) fun t clock ht hst => ?_
  refine conducts_answered (hpast.trans hst) (fun _ hends => by cases hends) (fun c hc => ?_) nofun
  obtain ⟨key, hkey, rfl⟩ := List.mem_map.mp hc
  obtain ⟨hmem, howner⟩ := KeyedTable.mem_selectOrdered.mp hkey
  refine ⟨(ht.holds_iff _).mp hmem, fun id hid => ?_⟩
  cases hid
  rw [of_decide_eq_true howner]

lemma conducts_handleAdminCreateAPIKey (hpast : past <+: s.history) {admin : Admin}
    {body : Except String APIKeyRequest} {id : String} {drawID drawSecret : Draw}
    (hstarted : started (.admin caller (.createAPIKey body id drawID drawSecret)))
    {maker : Credential}
    (huses : Uses P past s.history (.admin caller (.createAPIKey body id drawID drawSecret)) maker)
    (hmaker : maker.adminID = some admin.id) :
    Conducts (Justified P started)
      (Settles P past caller (some admin.id) (.createAPIKey body id drawID drawSecret))
      (handleAdminCreateAPIKey P admin body id drawID drawSecret) s := by
  unfold handleAdminCreateAPIKey
  split
  · exact conducts_refuseAction _ _ _
  · dsimp only
    split
    · exact conducts_refuseAction _ _ _
    · split
      · exact conducts_refuseAction _ _ _
      next new _ =>
        refine conducts_now fun t now _ hst _ => ?_
        refine conducts_answer (fun u htu => ?_) (fun _ _ _ _ _ _ => conducts_refuseAction _ _ _)
          fun u clock _ _ hafter hta => ?_
        · refine justified_opened (c := .apiKey _) ?_
          exact ⟨caller, _, id, drawID, drawSecret, past, maker, hstarted,
            huses.extend (hst.trans htu), hmaker, rfl⟩
        · cases hcreate : (u.answer clock (.createAPIKey _)).1 with
          | error e => exact conducts_refuseAction _ _ _
          | ok _ =>
            have hheld := (hafter.holds_iff _).mp (holds_createAPIKey hcreate)
            refine conducts_answered ((hpast.trans hst).trans hta) (fun _ hends => by cases hends)
              (fun c hc => ?_) nofun
            rw [List.mem_singleton.mp hc]
            exact ⟨hheld, fun _ hid => hid⟩

lemma conducts_handleAdminDeleteAPIKey (hpast : past <+: s.history) (admin : Admin) (id : String) :
    Conducts (Justified P started) (Settles P past caller (some admin.id) (.deleteAPIKey id))
      (handleAdminDeleteAPIKey admin id) s := by
  refine conducts_answer (fun _ _ => trivial) (fun _ u _ e _ _ => ?_)
    fun t clock _ _ hafter hst => ?_
  · cases e <;> exact conducts_refuseAction _ _ _
  · cases hdelete : (t.answer clock (.deleteAPIKey admin.id id)).1 with
    | error e => cases e <;> exact conducts_refuseAction _ _ _
    | ok _ =>
      refine conducts_answered (hpast.trans hst) (fun c hends hheld => ?_) nofun nofun
      cases c with
      | apiKey key =>
        exact not_holds_deleteAPIKey hdelete hends ((hafter.holds_iff _).mpr hheld)
      | _ => cases hends

lemma conducts_handleAdminShareLinks (hpast : past <+: s.history) :
    Conducts (Justified P started) (Settles P past caller adminID .listShareLinks)
      handleAdminShareLinks s := by
  refine conducts_read (fun _ => trivial) (fun _ _ => rfl)
    (fun _ _ _ _ _ _ => conducts_refuseAction _ _ _) fun t clock ht hst => ?_
  refine conducts_answered (hpast.trans hst) (fun _ hends => by cases hends) (fun c hc => ?_) nofun
  obtain ⟨link, hlink, rfl⟩ := List.mem_map.mp hc
  obtain ⟨hrow, hrevoked⟩ := List.mem_filter.mp hlink
  have hmem := (KeyedTable.mem_selectOrdered.mp hrow).1
  exact ⟨(ht.holds_iff _).mp ⟨hmem, Option.isNone_iff_eq_none.mp hrevoked⟩, nofun⟩

lemma conducts_allNodes (hs : Sound (Justified P started) s) (ids : List String) :
    Conducts (Justified P started) (fun _ t => s.Precedes t) (allNodes ids) s := by
  refine ((?_ : Conducts (Justified P started) (fun _ _ => True) (allNodes ids) s).evolved
    (refl_of _ s)).mono fun _ _ _ h => h.2
  induction ids generalizing s with
  | nil => exact Orderly.pure fun _ _ _ => trivial
  | cons id ids ih =>
    refine conducts_read (fun _ => trivial) (fun _ _ => rfl)
      (fun _ _ _ _ _ _ => Orderly.pure fun _ _ _ => trivial) fun t clock ht _ => ?_
    cases (t.answer clock (.getNode id)).1 with
    | error e => exact Orderly.pure fun _ _ _ => trivial
    | ok node => exact ih ht

lemma conducts_handleAdminCreateShareLink (hpast : past <+: s.history)
    {body : Except String ShareLinkRequest} {id : String} {drawSecret : Draw}
    (hstarted : started (.admin caller (.createShareLink body id drawSecret)))
    {maker : Credential}
    (huses : Uses P past s.history (.admin caller (.createShareLink body id drawSecret)) maker) :
    Conducts (Justified P started)
      (Settles P past caller adminID (.createShareLink body id drawSecret))
      (handleAdminCreateShareLink P body id drawSecret) s := by
  unfold handleAdminCreateShareLink
  split
  · exact conducts_refuseAction _ _ _
  next request =>
    refine conducts_now fun t now ht hst _ => ?_
    dsimp only
    split
    · exact conducts_refuseAction _ _ _
    · refine Orderly.bind ht ((conducts_allNodes ht _).mono fun known u _ htu => ?_)
      split
      · split
        · exact conducts_refuseAction _ _ _
        next token tokenHash _ =>
          have hsu := hst.trans htu
          refine conducts_answer (fun v huv => ⟨?_, rfl⟩)
            (fun _ _ _ _ _ _ => conducts_refuseAction _ _ _) fun v clock _ _ hafter huv => ?_
          · refine justified_opened (c := .shareLink _) ?_
            refine ⟨caller, request, id, drawSecret, past, maker, hstarted,
              huses.extend (hsu.trans huv), fun nodeID hnode => ?_, rfl⟩
            exact (List.mem_insertionSort _).mp ((List.destutter_sublist _ _).subset hnode)
          · cases hcreate : (v.answer clock (.createShareLink _)).1 with
            | error e => exact conducts_refuseAction _ _ _
            | ok _ =>
              have hheld := (hafter.holds_iff _).mp (holds_createShareLink rfl hcreate)
              refine conducts_answered ((hpast.trans hsu).trans huv)
                (fun _ hends => by cases hends) (fun c hc => ?_) nofun
              rw [List.mem_singleton.mp hc]
              exact ⟨hheld, nofun⟩
      · exact conducts_refuseAction _ _ _

lemma conducts_handleAdminRevokeShareLink (hpast : past <+: s.history) (id : String) :
    Conducts (Justified P started) (Settles P past caller adminID (.revokeShareLink id))
      (handleAdminRevokeShareLink id) s := by
  refine conducts_now fun t now _ hst _ => ?_
  refine conducts_answer (fun _ _ => trivial) (fun _ _ _ e _ _ => ?_)
    fun u clock _ _ hafter htu => ?_
  · cases e <;> exact conducts_refuseAction _ _ _
  · cases hrevoke : (u.answer clock (.revokeShareLink id now)).1 with
    | error e => cases e <;> exact conducts_refuseAction _ _ _
    | ok _ =>
      refine conducts_answered ((hpast.trans hst).trans htu) (fun c hends hheld => ?_) nofun nofun
      cases c with
      | shareLink link =>
        exact not_holds_revokeShareLink hrevoke hends ((hafter.holds_iff _).mpr hheld)
      | _ => cases hends

/-- What an admitted request does. -/
lemma conducts_handleAction (hpast : past <+: s.history) {admin : Admin}
    (hstarted : started (.admin caller action)) {maker : Credential}
    (huses : Uses P past s.history (.admin caller action) maker)
    (hmaker : maker.adminID = some admin.id) :
    Conducts (Justified P started) (Settles P past caller (some admin.id) action)
      (handleAction P caller admin action) s := by
  cases action with
  | listSessions => exact conducts_handleAdminSessions hpast admin
  | deleteSession id => exact conducts_handleAdminDeleteSession hpast admin id
  | revokeOtherSessions => exact conducts_handleAdminRevokeOtherSessions hpast admin
  | listAPIKeys => exact conducts_handleAdminAPIKeys hpast admin
  | createAPIKey body id drawID drawSecret =>
    exact conducts_handleAdminCreateAPIKey hpast hstarted huses hmaker
  | deleteAPIKey id => exact conducts_handleAdminDeleteAPIKey hpast admin id
  | listShareLinks => exact conducts_handleAdminShareLinks hpast
  | createShareLink body id drawSecret =>
    exact conducts_handleAdminCreateShareLink hpast hstarted huses
  | revokeShareLink id => exact conducts_handleAdminRevokeShareLink hpast id
  | other method =>
    refine conducts_answered hpast (fun _ hends => by cases hends) nofun fun served h => ?_
    cases h
    rfl

lemma conducts_handleAdmin (hs : Sound (Justified P started) s) (hpast : past <+: s.history)
    (hstarted : started (.admin caller action)) :
    Conducts (Justified P started)
      (fun response t => (Request.admin caller action).Explained P past t.history response)
      (handleAdmin P caller action) s := by
  refine Orderly.bind hs (((conducts_requireAdmin hs hpast caller).evolved (refl_of _ s)).mono
    fun answer t _ hanswer => ?_)
  obtain ⟨hanswer, hst⟩ := hanswer
  cases answer with
  | none => exact Orderly.pure fun _ _ _ => Or.inl ⟨_, rfl⟩
  | some identity =>
    have hholds := hanswer identity rfl
    change Conducts _ _ (if _ then _ else _) t
    split
    next hcsrf =>
      have huses := hholds.uses hcsrf
      refine ((conducts_handleAction (hpast.trans hst) hstarted huses hholds.2.1).evolved
        (refl_of _ t)).mono fun response u _ hsettles => ?_
      obtain ⟨hsettles, htu⟩ := hsettles
      refine hsettles.imp_right fun hanswered => ⟨_, huses.extend htu, ?_⟩
      rw [hholds.2.1]
      exact hanswered
    · exact Orderly.pure fun _ _ _ => Or.inl ⟨_, rfl⟩

end Actions

/-! ## Share links of visitors -/

/-- A share link that is found is valid. -/
lemma conducts_resolveShare (hpast : past <+: s.history) (token : String) :
    Conducts (Justified P started)
      (fun answer t => ∀ link ∈ answer, link.tokenHash = P.hash token ∧
        (Credential.shareLink link).Valid past t.history)
      (resolveShare P token) s := by
  unfold resolveShare
  split
  · refine conducts_now fun t now _ hst hnow => ?_
    refine conducts_read (fun _ => trivial) (fun _ _ => rfl) (fun _ _ _ _ _ _ => conducts_none)
      fun u clock hu htu => ?_
    cases hanswer : (u.answer clock (.selectShareLink (P.hash token))).1 with
    | error e => exact conducts_none
    | ok link =>
      have hfind := found_eq_ok hanswer
      have hhash : link.tokenHash = P.hash token := by simpa using List.find?_some hfind
      dsimp only
      split
      · exact conducts_none
      next hlink =>
        rw [not_or, not_le, Bool.not_eq_true, Option.isSome_eq_false_iff, Option.isNone_iff_eq_none]
          at hlink
        have hheld := (hu.holds_iff (.shareLink link)).mp
          ⟨List.mem_of_find?_eq_some hfind, hlink.1⟩
        refine Orderly.pure fun v _ huv found hfound => ?_
        cases hfound
        have hsu := hst.trans htu
        refine ⟨hhash, ⟨u.history, hpast.trans hsu, huv, hheld⟩, now, ?_, hlink.2⟩
        exact mem_added_of_mem_added hpast (hsu.trans huv)
          (mem_added_later hst (htu.trans huv) hnow)
  · exact conducts_none

lemma conducts_shareSnapshots (now : Time) (ids : List String) :
    Conducts (Justified P started) (fun snapshots _ => ∀ snapshot ∈ snapshots, snapshot.node.id ∈ ids)
      (shareSnapshots P now ids) s := by
  induction ids generalizing s with
  | nil => exact Orderly.pure fun _ _ _ _ h => absurd h List.not_mem_nil
  | cons id ids ih =>
    refine conducts_read (fun _ => trivial) (fun _ _ => rfl) (fun _ u _ _ _ _ => ?_)
      fun t clock ht _ => ?_
    · exact ih.mono fun _ _ _ h snapshot hsnapshot =>
        List.mem_cons_of_mem _ (h snapshot hsnapshot)
    · cases hanswer : (t.answer clock (.getNode id)).1 with
      | error e =>
        exact ih.mono fun _ _ _ h snapshot hsnapshot =>
          List.mem_cons_of_mem _ (h snapshot hsnapshot)
      | ok node =>
        have hid := NodeTable.id_of_getNode (found_eq_ok hanswer)
        refine conducts_call justifies (fun _ _ => trivial) fun u fate _ _ hafter _ => ?_
        refine Orderly.bind hafter (ih.mono fun snapshots v _ h => ?_)
        refine Orderly.pure fun w _ _ => List.forall_mem_cons.mpr ⟨?_, fun snapshot hsnapshot =>
          List.mem_cons_of_mem _ (h snapshot hsnapshot)⟩
        refine List.mem_cons.mpr (Or.inl ?_)
        dsimp only
        split <;> exact hid

lemma conducts_handlePublicShare (hs : Sound (Justified P started) s) (hpast : past <+: s.history)
    (token : String) :
    Conducts (Justified P started)
      (fun response t => (Request.share token).Explained P past t.history response)
      (handlePublicShare P token) s := by
  refine Orderly.bind hs ((conducts_resolveShare hpast token).mono fun answer t _ hanswer => ?_)
  cases answer with
  | none => exact Orderly.pure fun _ _ _ => Or.inl ⟨_, rfl⟩
  | some link =>
    obtain ⟨hhash, hvalid⟩ := hanswer link rfl
    refine conducts_call justifies (fun _ _ => trivial) fun u fate _ htu hafter hua => ?_
    refine conducts_now fun v now hv hav _ => ?_
    refine Orderly.bind hv (((conducts_shareSnapshots now link.nodeIDs).evolved (refl_of _ v)).mono
      fun snapshots w _ hsnapshots => ?_)
    obtain ⟨hwithin, hvw⟩ := hsnapshots
    refine Orderly.pure fun x _ hwx => Or.inr ⟨link, ⟨hhash, hvalid.extend ?_⟩, ?_⟩
    · exact htu.trans (hua.trans (hav.trans (hvw.trans hwx)))
    · intro name description expiresAt nodes hresponse
      cases hresponse
      exact ⟨rfl, hwithin⟩

lemma conducts_correctAll (nodeID : String) (clock : Time) (samples : List MetricSample) :
    Conducts (Justified P started) (fun _ _ => True) (correctAll nodeID clock samples) s := by
  induction samples generalizing s with
  | nil => exact Orderly.pure fun _ _ _ => trivial
  | cons sample samples ih =>
    refine conducts_call justifies (fun _ _ => trivial) fun t fate _ _ hafter _ => ?_
    exact Orderly.bind hafter (ih.mono fun _ u _ _ => Orderly.pure fun _ _ _ => trivial)

lemma conducts_handlePublicShareHistory (hs : Sound (Justified P started) s)
    (hpast : past <+: s.history) (token nodeID hours points : String) :
    Conducts (Justified P started)
      (fun response t =>
        (Request.shareHistory token nodeID hours points).Explained P past t.history response)
      (handlePublicShareHistory P token nodeID hours points) s := by
  refine Orderly.bind hs ((conducts_resolveShare hpast token).mono fun answer t _ hanswer => ?_)
  cases answer with
  | none => exact Orderly.pure fun _ _ _ => Or.inl ⟨_, rfl⟩
  | some link =>
    obtain ⟨hhash, hvalid⟩ := hanswer link rfl
    change Conducts _ _ (if _ then _ else _) t
    split
    next hnode =>
      dsimp only
      refine conducts_now fun u now _ htu _ => ?_
      refine conducts_read (fun _ => trivial) (fun _ _ => rfl)
        (fun _ _ _ _ _ _ => Orderly.pure fun _ _ _ => Or.inl ⟨_, rfl⟩) fun v clock hv huv => ?_
      cases (v.answer clock (.history _ now)).1 with
      | error e => exact Orderly.pure fun _ _ _ => Or.inl ⟨_, rfl⟩
      | ok samples =>
        refine Orderly.bind hv (((conducts_correctAll nodeID now samples).evolved
          (refl_of _ v)).mono fun _ w _ hw => ?_)
        refine Orderly.pure fun x _ hwx => Or.inr ⟨link, ⟨hhash, hnode⟩, hvalid.extend ?_⟩
        exact htu.trans (huv.trans (hw.2.trans hwx))
    · exact Orderly.pure fun _ _ _ => Or.inl ⟨_, rfl⟩

/-! ## Requests -/

/-- A request makes only credentials that are given, and its answer means what it should. -/
lemma Request.conducts_handler (hs : Sound (Justified P started) s) {request : Request}
    (hstarted : started request) :
    Conducts (Justified P started)
      (fun response t => request.Explained P s.history t.history response)
      (request.handler P) s := by
  cases request with
  | setup body draws session => exact conducts_handleSetup List.prefix_rfl hstarted
  | login login => exact conducts_handleLogin List.prefix_rfl hstarted
  | komariLogin login => exact conducts_handleKomariLogin List.prefix_rfl hstarted
  | logout caller =>
    change Conducts _ _ (handleLogout P caller) s
    unfold handleLogout
    split
    · exact Orderly.pure fun _ _ _ => trivial
    · split
      · exact conducts_call justifies (fun _ _ => trivial) fun _ _ _ _ _ _ =>
          Orderly.pure fun _ _ _ => trivial
      · exact Orderly.pure fun _ _ _ => trivial
  | komariLogout caller =>
    change Conducts _ _ (handleKomariLogout P caller) s
    unfold handleKomariLogout
    split
    · exact Orderly.pure fun _ _ _ => trivial
    · exact conducts_call justifies (fun _ _ => trivial) fun _ _ _ _ _ _ =>
        Orderly.pure fun _ _ _ => trivial
  | admin caller action => exact conducts_handleAdmin hs List.prefix_rfl hstarted
  | share token => exact conducts_handlePublicShare hs List.prefix_rfl token
  | shareHistory token nodeID hours points =>
    exact conducts_handlePublicShareHistory hs List.prefix_rfl token nodeID hours points

end Handlers

/-! ## Runs -/

/-- The requests that are started in a run. -/
def Started (events : List AccessEvent) (request : Request) : Prop :=
  ∃ number, .start number request ∈ events

/-- A state before any credential is made. -/
structure State.Fresh (s : State) : Prop where
  sessions : s.store.sessions = KeyedTable.empty
  apiKeys : s.store.apiKeys = KeyedTable.empty
  shareLinks : s.store.shareLinks = KeyedTable.empty
  history : s.history = []

/-- The system after a run. -/
def run (P : Services) (s : State) (events : List AccessEvent) : AccessSystem :=
  Runs.run (AccessSystem.step P) { shared := s } events

/-- A request that is answered with a session. -/
def Request.LogsIn : Request → Prop
  | .setup _ _ _ | .login _ | .komariLogin _ => True
  | _ => False

/-- A request that only a credential admits. -/
def Request.NeedsCredential : Request → Prop
  | .admin _ _ | .share _ | .shareHistory _ _ _ _ => True
  | _ => False

section Runs

variable {P : Services} {started : Request → Prop} {s : State}

lemma State.Fresh.sound {justified : History → Fact → Prop} (h : s.Fresh) :
    Sound justified s := by
  have hempty {K V : Type} [DecidableEq K] {key : V → K} {entries : List (Ledger.Entry K V)}
      (hentries : entries = []) : Records key entries (· ∈ (KeyedTable.empty : KeyedTable key)) := by
    intro v
    simp [hentries]
  constructor
  · rw [h.sessions]
    exact hempty (by rw [h.history]; rfl)
  · rw [h.apiKeys]
    exact hempty (by rw [h.history]; rfl)
  · rw [h.shareLinks]
    refine (hempty (by rw [h.history]; rfl)).congr fun link => ?_
    simp
  · rw [h.history]
    exact fun before fact hprefix => by simp at hprefix

/-- Behind a credential that is held is somebody who has logged in, or who has set up the site. -/
lemma proved_of_heldIn {history : History} {c : Credential}
    (hjustified : ∀ before fact, before ++ [fact] <+: history → Justified P started before fact)
    (hheld : c.HeldIn history) :
    ∃ adminID, (∀ id ∈ c.adminID, id = adminID) ∧ Proved P started history adminID := by
  induction hlength : history.length using Nat.strong_induction_on generalizing history c with
  | _ length ih =>
    obtain ⟨before, after, rfl⟩ := List.append_of_mem (Credential.opened_mem hheld)
    have hbefore : before <+: before ++ c.opened :: after := List.prefix_append _ _
    have hgiven : c.Given P started before :=
      hjustified before c.opened ⟨after, by simp⟩ c rfl
    -- The credential that was used to make this one was held in a shorter history.
    have hmaker {past : History} {request : Request} {maker : Credential}
        (huses : Uses P past before request maker) :
        ∃ adminID, (∀ id ∈ maker.adminID, id = adminID) ∧
          Proved P started (before ++ c.opened :: after) adminID := by
      obtain ⟨moment, -, hmoment, hheldThen⟩ := huses.valid.held
      have hshorter : moment.length < length := by
        have := hmoment.length_le
        rw [← hlength, List.length_append, List.length_cons]
        omega
      have hprefix := hmoment.trans hbefore
      obtain ⟨adminID, hid, hproved⟩ := ih moment.length hshorter
        (fun l fact hfact => hjustified l fact (hfact.trans hprefix)) hheldThen rfl
      exact ⟨adminID, hid, hproved.extend hprefix⟩
    cases c with
    | session row =>
      exact ⟨row.adminID, fun id hid => (Option.some.inj hid).symm, hgiven.1.extend hbefore⟩
    | apiKey key =>
      obtain ⟨caller, body, id, drawID, drawSecret, past, maker, -, huses, howner, -⟩ := hgiven
      obtain ⟨adminID, hid, hproved⟩ := hmaker huses
      refine ⟨adminID, fun id hkey => ?_, hproved⟩
      cases hkey
      exact hid _ howner
    | shareLink link =>
      obtain ⟨caller, request, id, drawSecret, past, maker, -, huses, -⟩ := hgiven
      obtain ⟨adminID, -, hproved⟩ := hmaker huses
      exact ⟨adminID, nofun, hproved⟩

/-- Every request is handled so. -/
lemma handler_orderly (events : List AccessEvent) (request : Request) (t : State)
    (hstarted : Started events request) (ht : Sound (Justified P (Started events)) t) :
    Orderly answerCall (Sound (Justified P (Started events))) State.Precedes
      (fun response now => request.Explained P t.history now.history response)
      (request.handler P) t :=
  Request.conducts_handler ht hstarted

/-- Over a run the tables stay sound, and the history grows. -/
lemma run_sound (hs : s.Fresh) (before after : List AccessEvent) :
    let started := Started (before ++ after)
    Sound (Justified P started) (run P s before).shared ∧
      Sound (Justified P started) (run P s (before ++ after)).shared ∧
        (run P s before).shared.Precedes (run P s (before ++ after)).shared := by
  intro started
  have outside (event : Change) (t : State) (ht : Sound (Justified P started) t) :=
    ht.change justifies event
  have hfirst : Pool.OrderlyPool answerCall (fun _ _ => True) (Sound (Justified P started))
      State.Precedes (fun _ _ _ => True) ({ shared := s } : AccessSystem) :=
    ⟨hs.sound, fun _ _ h => by cases h⟩
  have hbefore := (Pool.run_keeps (handler_orderly (before ++ after)) outside hfirst
    fun n r hstart => ⟨n, List.mem_append_left _ hstart⟩).1
  have hall := Pool.run_keeps (handler_orderly (before ++ after)) outside hbefore
    fun n r hstart => ⟨n, List.mem_append_right before hstart⟩
  unfold run
  rw [Runs.run_append]
  exact ⟨hbefore.1, hall.1.1, hall.2⟩

/-- What the answer of a request means, over every run. -/
lemma explained_of_done (hs : s.Fresh) {before after : List AccessEvent} {number : ℕ}
    {request : Request} (hafter : ∀ r, .start number r ∉ after) {response : Response}
    (hdone : (run P s (before ++ .start number request :: after)).running number =
      some (.done response)) :
    request.Explained P (run P s before).shared.history
      (run P s (before ++ .start number request :: after)).shared.history response := by
  let events := before ++ .start number request :: after
  have outside (event : Change) (t : State) (ht : Sound (Justified P (Started events)) t) :=
    ht.change justifies event
  exact Pool.run_answered (handler_orderly events) outside hs.sound
    (fun n r hstart => ⟨n, hstart⟩) hafter hdone

/-- Behind a credential that was held is somebody who logged in, or who set up the site. -/
lemma proved_of_since (hs : s.Fresh) (before after : List AccessEvent) {c : Credential}
    (hheld : Since (run P s before).shared.history (run P s (before ++ after)).shared.history
      fun moment => c.HeldIn moment) :
    ∃ adminID, (∀ id ∈ c.adminID, id = adminID) ∧
      Proved P (Started (before ++ after)) (run P s (before ++ after)).shared.history adminID := by
  obtain ⟨moment, -, hmoment, hheld⟩ := hheld
  obtain ⟨-, hsound, -⟩ := run_sound (P := P) hs before after
  obtain ⟨adminID, hid, hproved⟩ := proved_of_heldIn
    (fun l fact hfact => hsound.justified l fact (hfact.trans hmoment)) hheld
  exact ⟨adminID, hid, hproved.extend hmoment⟩

/-- Over every run: the session that a login or the setup answers with was held, for an administrator
who was proved; what an administrator is shown was held, and is of the administrator of the credential
that the request used; and a visitor sees the nodes of the share link that the request used, no
others. -/
theorem answers_explained (hs : s.Fresh) {before after : List AccessEvent} {number : ℕ}
    {request : Request} (hafter : ∀ r, .start number r ∉ after) {response : Response}
    (hdone : (run P s (before ++ .start number request :: after)).running number =
      some (.done response)) :
    let past := (run P s before).shared.history
    let now := (run P s (before ++ .start number request :: after)).shared.history
    (request.LogsIn → ∀ token csrf, response.Carries token csrf →
      ∃ row : Session, row.tokenHash = P.hash token ∧ row.csrfHash = P.hash csrf ∧
        (Since past now fun moment => (Credential.session row).HeldIn moment) ∧
          Proved P (Started (before ++ .start number request :: after)) now row.adminID) ∧
    (∀ caller action, request = .admin caller action → ∀ c ∈ response.shown,
      (Since past now fun moment => c.HeldIn moment) ∧
        ∃ used, Uses P past now request used ∧ ∀ id ∈ c.adminID, used.adminID = some id) ∧
    (∀ token name description expiresAt nodes, request = .share token →
      response = .shared name description expiresAt nodes →
        ∃ link, Uses P past now request (.shareLink link) ∧ expiresAt = link.expiresAt ∧
          ∀ snapshot ∈ nodes, snapshot.node.id ∈ link.nodeIDs) := by
  intro past now
  have hexplained := explained_of_done hs hafter hdone
  refine ⟨fun hlogsIn token csrf hsession => ?_, fun caller action hrequest c hc => ?_,
    fun token name description expiresAt nodes hrequest hresponse => ?_⟩
  · have hgives : response.GivesSession P past now := by
      cases request with
      | setup | login | komariLogin => exact hexplained
      | _ => exact hlogsIn.elim
    obtain ⟨row, hhash, hcsrf, hheld⟩ := hgives token csrf hsession
    obtain ⟨adminID, hid, hproved⟩ := proved_of_since hs before (.start number request :: after) hheld
    obtain rfl := hid row.adminID rfl
    exact ⟨row, hhash, hcsrf, hheld, hproved⟩
  · subst hrequest
    rcases hexplained with ⟨e, rfl⟩ | ⟨used, huses, hanswered⟩
    · exact absurd hc List.not_mem_nil
    · obtain ⟨hheld, hsame⟩ := hanswered.shown c hc
      exact ⟨hheld, used, huses, hsame⟩
  · subst hrequest hresponse
    rcases hexplained with ⟨e, he⟩ | ⟨link, huses, hwithin⟩
    · cases he
    · obtain ⟨hexpires, hnodes⟩ := hwithin name description expiresAt nodes rfl
      exact ⟨link, huses, hexpires, hnodes⟩

/-- Services of which little is asked: the hash of a text is its beginning. -/
def plainServices : Services where
  sum256 bytes := Vector.ofFn fun i => bytes.getD i 0
  equalFold a b := decide (a = b)
  toUpper := id
  verifyHash hash password := decide (hash = password)
  openSecret _ := none
  setup := ⟨fun _ => false, fun _ _ _ => ""⟩
  toInt64 _ := 0
  parseFloat _ := (0, false)
  parseInt _ := (0, false)
  offlineAfter := 0

/-- The administrator of a site. -/
def plainAdmin : Admin := { id := "a", username := "admin", passwordHash := "secret" }

lemma plain_of_mem_empty : ∀ row ∈ (KeyedTable.empty : KeyedTable MetricRow.key), row.Plain := by
  simp

/-- A site to which nobody has logged in. -/
def plainSite : State where
  store :=
    { admins := [plainAdmin]
      metrics := { five_plain := plain_of_mem_empty, hour_plain := plain_of_mem_empty } }

lemma fresh_plainSite : plainSite.Fresh := ⟨rfl, rfl, rfl, rfl⟩

/-- A draw of the same byte again and again. -/
def constantDraw (byte : UInt8) : Draw := fun count => some (Vector.replicate count byte)

/-- A login by the password. -/
def plainLogin (byte : UInt8) : Request :=
  .login
    { body := .ok { username := "admin", password := "secret" }
      draws := ⟨constantDraw byte, constantDraw byte⟩ }

/-- Some calls of a request, which all work. -/
def calls (number count : ℕ) : List AccessEvent := List.replicate count (.proceed number {})

/-- Somebody with the session of the first login. -/
def plainCaller : Caller where
  sessionCookie := some (String.ofList (List.replicate 43 'A'))
  csrfCookie := some (String.ofList (List.replicate 32 'A'))
  csrfHeader := String.ofList (List.replicate 32 'A')

lemma start_notMem_calls (number count : ℕ) (r : Request) : .start number r ∉ calls number count :=
  fun h => by cases List.eq_of_mem_replicate h

theorem answers_explained_login :
    let events := [] ++ .start 0 (plainLogin 0) :: calls 0 3
    ∃ row : Session,
      row.tokenHash = plainServices.hash (String.ofList (List.replicate 43 'A')) ∧
      row.csrfHash = plainServices.hash (String.ofList (List.replicate 32 'A')) ∧
      (Since (run plainServices plainSite []).shared.history
        (run plainServices plainSite events).shared.history
        fun moment => (Credential.session row).HeldIn moment) ∧
      Proved plainServices (Started events) (run plainServices plainSite events).shared.history
        row.adminID := by
  intro events
  have hdone : (run plainServices plainSite events).running 0 =
      some (done (.loggedIn 200 (String.ofList (List.replicate 43 'A'))
        (String.ofList (List.replicate 32 'A')))) := rfl
  exact (answers_explained fresh_plainSite (start_notMem_calls 0 3) hdone).1 (by trivial) _ _
    (Or.inl ⟨200, rfl⟩)

/-- A request that is not refused used a credential. -/
lemma uses_of_explained {past now : History} {request : Request} (hneeds : request.NeedsCredential)
    {response : Response} (hserved : ∀ e, response ≠ .refused e)
    (h : request.Explained P past now response) :
    ∃ c, Uses P past now request c ∧ ∀ caller action, request = .admin caller action →
      action.Answered P past now caller response c.adminID := by
  cases request with
  | admin caller action =>
    rcases h with ⟨e, he⟩ | ⟨c, huses, hanswered⟩
    · exact absurd he (hserved e)
    · refine ⟨c, huses, fun _ _ hrequest => ?_⟩
      cases hrequest
      exact hanswered
  | share token =>
    rcases h with ⟨e, he⟩ | ⟨link, huses, -⟩
    · exact absurd he (hserved e)
    · exact ⟨_, huses, nofun⟩
  | shareHistory token nodeID hours points =>
    rcases h with ⟨e, he⟩ | ⟨link, huses⟩
    · exact absurd he (hserved e)
    · exact ⟨_, huses, nofun⟩
  | _ => exact hneeds.elim

/-- Over every run: a request that is not refused used a credential that was held and lasted since
the request arrived, and behind it, through all API keys and share links on the way, is somebody who
logged in as this administrator, or set up the site as this administrator. -/
theorem authority_proved (hs : s.Fresh) {before after : List AccessEvent} {number : ℕ}
    {request : Request} (hneeds : request.NeedsCredential)
    (hafter : ∀ r, .start number r ∉ after) {response : Response}
    (hserved : ∀ e, response ≠ .refused e)
    (hdone : (run P s (before ++ .start number request :: after)).running number =
      some (.done response)) :
    let past := (run P s before).shared.history
    let now := (run P s (before ++ .start number request :: after)).shared.history
    ∃ c adminID, Uses P past now request c ∧ (∀ id ∈ c.adminID, id = adminID) ∧
      Proved P (Started (before ++ .start number request :: after)) now adminID := by
  intro past now
  obtain ⟨c, huses, -⟩ := uses_of_explained hneeds hserved (explained_of_done hs hafter hdone)
  obtain ⟨adminID, hid, hproved⟩ :=
    proved_of_since hs before (.start number request :: after) huses.valid.held
  exact ⟨c, adminID, huses, hid, hproved⟩

/-- A key for the administrator, made with the session of the first login. -/
def plainKey : Request :=
  .admin plainCaller
    (.createAPIKey (.ok { name := "backup" }) "k" (constantDraw 0) (constantDraw 0))

/-- Somebody with this key. -/
def plainBearer : Caller where
  authorization := "Bearer hp_k_" ++ String.ofList (List.replicate 22 'A') ++ "." ++
    String.ofList (List.replicate 43 'A')

/-- Somebody logs in and makes a key. -/
def plainKeyEvents : List AccessEvent :=
  .start 0 (plainLogin 0) :: calls 0 3 ++ .start 1 plainKey :: calls 1 5

theorem authority_proved_plainKey :
    let events := plainKeyEvents ++ .start 2 (.admin plainBearer (.other "POST")) :: calls 2 3
    ∃ c adminID, Uses plainServices (run plainServices plainSite plainKeyEvents).shared.history
        (run plainServices plainSite events).shared.history (.admin plainBearer (.other "POST")) c ∧
      (∀ id ∈ c.adminID, id = adminID) ∧
        Proved plainServices (Started events) (run plainServices plainSite events).shared.history
          adminID := by
  intro events
  have hdone : (run plainServices plainSite events).running 2 =
      some (done (.served plainAdmin)) := rfl
  exact authority_proved fresh_plainSite trivial (start_notMem_calls 2 3) (by exact nofun) hdone

/-- Over every run: what an answered request has ended is not used by a request that arrives after
the answer, unless it was made again in between. -/
theorem ended_not_used (hs : s.Fresh) {before between after : List AccessEvent} {m n : ℕ}
    {caller : Caller} {action : Action} {request : Request} (hneeds : request.NeedsCredential)
    (hbetween : ∀ r, .start m r ∉ between) (hafter : ∀ r, .start n r ∉ after)
    {ending response : Response} (hended : ∀ e, ending ≠ .refused e)
    (hserved : ∀ e, response ≠ .refused e)
    (hending : (run P s (before ++ .start m (.admin caller action) :: between)).running m =
      some (.done ending))
    (hdone : (run P s (before ++ .start m (.admin caller action) :: between ++
      .start n request :: after)).running n = some (.done response)) :
    let past := (run P s before).shared.history
    let answered := (run P s (before ++ .start m (.admin caller action) :: between)).shared.history
    let now := (run P s (before ++ .start m (.admin caller action) :: between ++
      .start n request :: after)).shared.history
    ∃ used c, Uses P past answered (.admin caller action) used ∧ Uses P answered now request c ∧
      (Ends P caller used.adminID action ending c → c.opened ∈ added past now) := by
  intro past answered now
  obtain ⟨used, hused, hsettled⟩ :=
    uses_of_explained (by trivial) hended (explained_of_done hs hbetween hending)
  obtain ⟨c, huses, -⟩ := uses_of_explained hneeds hserved (explained_of_done hs hafter hdone)
  refine ⟨used, c, hused, huses, fun hends => ?_⟩
  obtain ⟨ended, hpast, hanswered, hnot⟩ := (hsettled caller action rfl).ended c hends
  obtain ⟨moment, hmoment, hnow, hheld⟩ := huses.valid.held
  have hlater := hanswered.trans hmoment
  have hopened := (Credential.heldIn_or_opened hlater hheld).resolve_left hnot
  exact mem_added_later (hpast.trans hlater) hnow (mem_added_of_mem_added hpast hlater hopened)

/-- Somebody logs in twice, and with the first session ends the other one. -/
def plainEndEvents : List AccessEvent :=
  .start 0 (plainLogin 0) :: calls 0 3 ++ .start 1 (plainLogin 1) :: calls 1 3

theorem ended_not_used_plain :
    let ended := plainEndEvents ++ .start 2 (.admin plainCaller .revokeOtherSessions) :: calls 2 4
    let now := ended ++ .start 3 (.admin plainCaller (.other "GET")) :: calls 3 3
    ∃ used c,
      Uses plainServices (run plainServices plainSite plainEndEvents).shared.history
        (run plainServices plainSite ended).shared.history
        (.admin plainCaller .revokeOtherSessions) used ∧
      Uses plainServices (run plainServices plainSite ended).shared.history
        (run plainServices plainSite now).shared.history (.admin plainCaller (.other "GET")) c ∧
      (Ends plainServices plainCaller used.adminID .revokeOtherSessions .othersRevoked c →
        c.opened ∈ added (run plainServices plainSite plainEndEvents).shared.history
          (run plainServices plainSite now).shared.history) := by
  intro ended now
  have hending : (run plainServices plainSite ended).running 2 = some (done .othersRevoked) := rfl
  have hdone : (run plainServices plainSite now).running 3 = some (done (.served plainAdmin)) := rfl
  exact ended_not_used fresh_plainSite (by trivial) (start_notMem_calls 2 4)
    (start_notMem_calls 3 3) (by exact nofun) (by exact nofun) hending hdone

end Runs

end Access

end Hostpin
