import Hostpin.Foundation.Interleaving
import Hostpin.Foundation.Ledger
import Hostpin.Httpapi.Public
import Hostpin.Httpapi.Setup
import Hostpin.Security.Token

/-!
# Sessions, API keys and share links

A request acts for an administrator by a session or by an API key, and a visitor sees nodes by the
token of a share link.  The requests that give, use and revoke these credentials are procedures of
calls of the store, and their calls interleave in any order (`AccessSystem`).  Every call can fail,
and can work although its answer is an error.

The state keeps, besides the tables, the history of what has happened to the credentials.  The
history only grows, and it is what the results about runs speak about.
-/

namespace Hostpin

open Clock Ledger Procedure Text

namespace Access

/-! ## Rows -/

/-- A session. -/
structure Session where
  tokenHash : String
  adminID : String
  csrfHash : String
  createdAt : Time
  expiresAt : Time
deriving DecidableEq

/-- An API key with its owner and its hash. -/
structure APIKeyRecord where
  id : String
  name : String
  scopes : List String
  expiresAt : Option Time
  createdAt : Time
  adminID : String
  tokenID : String
  tokenHash : String
deriving DecidableEq

/-- A share link with its hash. -/
structure ShareLinkRecord where
  id : String
  nodeIDs : List String
  expiresAt : Time
  createdAt : Time
  revokedAt : Option Time := none
  tokenHash : String
deriving DecidableEq

/-- A session as it is stored. -/
def Session.stored (session : Session) : Session :=
  { session with
    createdAt := storedTime session.createdAt, expiresAt := storedTime session.expiresAt }

/-- An API key as it is stored. -/
def APIKeyRecord.stored (key : APIKeyRecord) : APIKeyRecord :=
  { key with createdAt := storedTime key.createdAt, expiresAt := key.expiresAt.map storedTime }

/-- A share link as it is stored. -/
def ShareLinkRecord.stored (link : ShareLinkRecord) : ShareLinkRecord :=
  { link with createdAt := storedTime link.createdAt, expiresAt := storedTime link.expiresAt }

/-- What the handlers share: the tables of the store, the hub and the traffic tracker. -/
structure Store where
  admins : List Admin := []
  sessions : KeyedTable Session.tokenHash := KeyedTable.empty
  apiKeys : KeyedTable APIKeyRecord.id := KeyedTable.empty
  shareLinks : KeyedTable ShareLinkRecord.id := KeyedTable.empty
  settings : StoredSettings := {}
  nodes : NodeTable := KeyedTable.empty
  metrics : MetricStore := {}
  latest : String → Option MetricSample := fun _ => none
  traffic : TrafficTracker := {}

/-! ## Histories -/

/-- What happens to credentials: a clock is read, a login reads an administrator, the first
administrator is made, and a session, an API key or a share link is made or ends. -/
inductive Fact where
  | clock (reading : Time)
  | login (admin : Admin)
  | setup (admin : Admin)
  | session (entry : Ledger.Entry String Session)
  | apiKey (entry : Ledger.Entry String APIKeyRecord)
  | shareLink (entry : Ledger.Entry String ShareLinkRecord)

/-- What has happened, the last fact at the end. -/
abbrev History := List Fact

/-- The entries about sessions. -/
def sessionEntries (history : History) : List (Ledger.Entry String Session) :=
  history.filterMap fun | .session entry => some entry | _ => none

/-- The entries about API keys. -/
def apiKeyEntries (history : History) : List (Ledger.Entry String APIKeyRecord) :=
  history.filterMap fun | .apiKey entry => some entry | _ => none

/-- The entries about share links. -/
def shareLinkEntries (history : History) : List (Ledger.Entry String ShareLinkRecord) :=
  history.filterMap fun | .shareLink entry => some entry | _ => none

/-- The session that a history leaves under the hash of a token. -/
def heldSession (history : History) (tokenHash : String) : Option Session :=
  held Session.tokenHash (sessionEntries history) tokenHash

/-- The API key that a history leaves under an id. -/
def heldAPIKey (history : History) (id : String) : Option APIKeyRecord :=
  held APIKeyRecord.id (apiKeyEntries history) id

/-- The share link that a history leaves under an id. -/
def heldShareLink (history : History) (id : String) : Option ShareLinkRecord :=
  held ShareLinkRecord.id (shareLinkEntries history) id

/-- The store, with what has happened. -/
structure State where
  store : Store := {}
  history : History := []

/-- The state after some facts. -/
def State.record (s : State) (store : Store) (facts : List Fact) : State where
  store := store
  history := s.history ++ facts

/-! ## Calls -/

/-- The calls of the handlers. -/
inductive Call where
  | now
  | setupComplete
  | initializeSite (admin : Admin)
  | getAdminByUsername (username : String)
  | getAdminByID (id : String)
  | updateAdmin (admin : Admin)
  | createSession (session : Session)
  | selectSession (tokenHash : String)
  | deleteSession (tokenHash : String)
  | listSessions (adminID : String)
  | deleteAdminSessions (adminID exceptHash : String)
  | createAPIKey (key : APIKeyRecord)
  | selectAPIKey (tokenID : String)
  | listAPIKeys (adminID : String)
  | deleteAPIKey (adminID id : String)
  | createShareLink (link : ShareLinkRecord)
  | selectShareLink (tokenHash : String)
  | listShareLinks
  | revokeShareLink (id : String) (now : Time)
  | siteSettings
  | getNode (id : String)
  | latest (nodeID : String)
  | history (query : HistoryQuery) (clock : Time)
  | correct (nodeID : String) (sample : MetricSample) (clock : Time)

/-- What a call answers with. -/
@[reducible] def Call.Answer : Call → Type
  | .now => Time
  | .setupComplete => Except StoreError Bool
  | .initializeSite _ => Except SetupError Unit
  | .getAdminByUsername _ | .getAdminByID _ => Except StoreError Admin
  | .updateAdmin _ | .createSession _ | .deleteSession _ => Except StoreError Unit
  | .deleteAdminSessions _ _ | .createAPIKey _ | .deleteAPIKey _ _ => Except StoreError Unit
  | .createShareLink _ | .revokeShareLink _ _ => Except StoreError Unit
  | .selectSession _ => Except StoreError Session
  | .listSessions _ => Except StoreError (List Session)
  | .selectAPIKey _ => Except StoreError APIKeyRecord
  | .listAPIKeys _ => Except StoreError (List APIKeyRecord)
  | .selectShareLink _ => Except StoreError ShareLinkRecord
  | .listShareLinks => Except StoreError (List ShareLinkRecord)
  | .siteSettings => Except StoreError StoredSettings
  | .getNode _ => Except StoreError NodeRow
  | .latest _ => Option MetricSample
  | .history _ _ => Except StoreError (List MetricSample)
  | .correct _ _ _ => MetricSample

/-- A constraint of the schema is violated. -/
def constraintViolated : StoreError := .failure "constraint failed"

/-- Whether there is an administrator with an id. -/
def Store.hasAdmin (d : Store) (id : String) : Bool := d.admins.any (·.id = id)

/-- Insert a session. -/
def State.createSession (s : State) (session : Session) : Except StoreError Unit × State :=
  match s.store.sessions.insertNew session.stored with
  | some sessions =>
    if s.store.hasAdmin session.adminID then
      (.ok (), s.record { s.store with sessions } [.session (.opened session.stored)])
    else (.error constraintViolated, s)
  | none => (.error constraintViolated, s)

/-- Delete the sessions that a statement selects. -/
def State.endSessions (s : State) (selects : Session → Bool) : State :=
  s.record { s.store with sessions := s.store.sessions.deleteWhere selects }
    ((s.store.sessions.rows.filter selects).map fun session =>
      .session (.closed session.tokenHash))

/-- Insert an API key; the ids of tokens are unique. -/
def State.createAPIKey (s : State) (key : APIKeyRecord) : Except StoreError Unit × State :=
  match s.store.apiKeys.insertNew key.stored with
  | some apiKeys =>
    if s.store.hasAdmin key.adminID && s.store.apiKeys.rows.all (·.tokenID ≠ key.tokenID) then
      (.ok (), s.record { s.store with apiKeys } [.apiKey (.opened key.stored)])
    else (.error constraintViolated, s)
  | none => (.error constraintViolated, s)

/-- Delete an API key of an administrator. -/
def State.deleteAPIKey (s : State) (adminID id : String) : Except StoreError Unit × State :=
  if s.store.apiKeys.rows.any fun key => key.id = id && key.adminID = adminID then
    let apiKeys := s.store.apiKeys.deleteWhere fun key => key.id = id && key.adminID = adminID
    (.ok (), s.record { s.store with apiKeys } [.apiKey (.closed id)])
  else (.error .notFound, s)

/-- Insert a share link; the hashes of tokens are unique. -/
def State.createShareLink (s : State) (link : ShareLinkRecord) : Except StoreError Unit × State :=
  match s.store.shareLinks.insertNew link.stored with
  | some shareLinks =>
    if s.store.shareLinks.rows.all (·.tokenHash ≠ link.tokenHash) then
      (.ok (), s.record { s.store with shareLinks } [.shareLink (.opened link.stored)])
    else (.error constraintViolated, s)
  | none => (.error constraintViolated, s)

/-- Mark a share link as revoked that is not revoked yet. -/
def State.revokeShareLink (s : State) (id : String) (now : Time) : Except StoreError Unit × State :=
  if s.store.shareLinks.rows.any fun link => link.id = id && link.revokedAt.isNone then
    let shareLinks := s.store.shareLinks.updateAll
      (fun link => if link.id = id ∧ link.revokedAt = none then
        { link with revokedAt := some (storedTime now) } else link)
      (fun link => by split <;> rfl)
    (.ok (), s.record { s.store with shareLinks } [.shareLink (.closed id)])
  else (.error .notFound, s)

/-- Make the first administrator. -/
def State.initializeSite (s : State) (admin : Admin) : Except SetupError Unit × State :=
  if s.store.admins = [] then
    (.ok (), s.record { s.store with admins := [admin] } [.setup admin])
  else (.error .alreadySetup, s)

/-- Read an administrator for a login. -/
def State.getAdminByUsername (s : State) (username : String) : Except StoreError Admin × State :=
  match s.store.admins.find? (·.username = username) with
  | none => (.error .notFound, s)
  | some admin => (.ok admin, s.record s.store [.login admin])

/-- Write an administrator back. -/
def State.updateAdmin (s : State) (admin : Admin) : Except StoreError Unit × State :=
  if s.store.hasAdmin admin.id then
    (.ok (), s.record { s.store with admins := s.store.admins.map admin.updates } [])
  else (.error .notFound, s)

/-- What a call that reaches the store answers, and what it leaves.  The newest rows are listed
first. -/
def State.answer (s : State) (clock : Time) : (call : Call) → call.Answer × State
  | .now => (clock, s.record s.store [.clock clock])
  | .setupComplete => (.ok !s.store.admins.isEmpty, s)
  | .initializeSite admin => s.initializeSite admin
  | .getAdminByUsername username => s.getAdminByUsername username
  | .getAdminByID id => (found (s.store.admins.find? (·.id = id)), s)
  | .updateAdmin admin => s.updateAdmin admin
  | .createSession session => s.createSession session
  | .selectSession tokenHash => (found (s.store.sessions.lookup tokenHash), s)
  | .deleteSession tokenHash => (.ok (), s.endSessions (·.tokenHash = tokenHash))
  | .listSessions adminID =>
    (.ok (s.store.sessions.selectOrdered (·.adminID = adminID) (- ·.createdAt)), s)
  | .deleteAdminSessions adminID exceptHash =>
    (.ok (), s.endSessions fun session =>
      session.adminID = adminID && (exceptHash = "" || session.tokenHash ≠ exceptHash))
  | .createAPIKey key => s.createAPIKey key
  | .selectAPIKey tokenID => (found (s.store.apiKeys.rows.find? (·.tokenID = tokenID)), s)
  | .listAPIKeys adminID =>
    (.ok (s.store.apiKeys.selectOrdered (·.adminID = adminID) (- ·.createdAt)), s)
  | .deleteAPIKey adminID id => s.deleteAPIKey adminID id
  | .createShareLink link => s.createShareLink link
  | .selectShareLink tokenHash =>
    (found (s.store.shareLinks.rows.find? (·.tokenHash = tokenHash)), s)
  | .listShareLinks =>
    (.ok (s.store.shareLinks.selectOrdered (fun _ => true) (- ·.createdAt)), s)
  | .revokeShareLink id now => s.revokeShareLink id now
  | .siteSettings => (.ok s.store.settings, s)
  | .getNode id => (found (s.store.nodes.getNode id), s)
  | .latest nodeID => (s.store.latest nodeID, s)
  | .history query clock => (.ok (s.store.metrics.historySamples query clock), s)
  | .correct nodeID sample clock => (s.store.traffic.correct nodeID sample clock, s)

/-- What becomes of a call: it works, it fails, or it works and its answer is an error all the
same. -/
inductive Outcome where
  | works
  | fails (e : StoreError)
  | worksUnheard (e : StoreError)

/-- The fate of a call: what the clock says, and what becomes of it. -/
structure Fate where
  clock : Time := unixEpoch
  outcome : Outcome := .works

/-- The answer of a call that fails; what is asked of the clock, the hub and the tracker is always
answered. -/
def State.failed (s : State) (clock : Time) (e : StoreError) : (call : Call) → call.Answer
  | .now => clock
  | .latest nodeID => s.store.latest nodeID
  | .correct nodeID sample clock => s.store.traffic.correct nodeID sample clock
  | .initializeSite _ => .error .store
  | .setupComplete | .getAdminByUsername _ | .getAdminByID _ | .updateAdmin _ | .createSession _
  | .selectSession _ | .deleteSession _ | .listSessions _ | .deleteAdminSessions _ _
  | .createAPIKey _ | .selectAPIKey _ | .listAPIKeys _ | .deleteAPIKey _ _ | .createShareLink _
  | .selectShareLink _ | .listShareLinks | .revokeShareLink _ _ | .siteSettings | .getNode _
  | .history _ _ => .error e

/-- What a call leaves that fails; the clock has been read in any case. -/
def State.afterFailure (s : State) (clock : Time) : Call → State
  | .now => s.record s.store [.clock clock]
  | _ => s

/-- What a call answers and leaves under a fate. -/
def answerCall (fate : Fate) : Handler Call Call.Answer State := fun call s =>
  match fate.outcome with
  | .works => s.answer fate.clock call
  | .fails e => (s.failed fate.clock e call, s.afterFailure fate.clock call)
  | .worksUnheard e => (s.failed fate.clock e call, (s.answer fate.clock call).2)

/-! ## Requests -/

/-- Functions of packages, and values of the program, that the handlers use. -/
structure Services where
  sum256 : Bytes → Vector UInt8 32
  equalFold : String → String → Bool
  toUpper : String → String
  verifyHash : String → String → Bool
  openSecret : String → Option String
  setup : SetupServices
  toInt64 : Float → ℤ
  parseFloat : String → Float × Bool
  parseInt : String → ℤ × Bool
  offlineAfter : ℤ

/-- The hash of a text. -/
abbrev Services.hash (P : Services) (value : String) : String := hashToken P.sum256 value

/-- The cookies and the headers of a request by which it is admitted. -/
structure Caller where
  sessionCookie : Option String := none
  csrfCookie : Option String := none
  csrfHeader : String := ""
  authorization : String := ""

/-- What a request draws for a session. -/
structure SessionDraws where
  token : Draw
  csrf : Draw

/-- The body of a request for an API key. -/
structure APIKeyRequest where
  name : String
  expiresInDays : ℤ := 0

/-- The body of a request for a share link. -/
structure ShareLinkRequest where
  nodeIDs : List String
  expiresAt : Time

/-- What a request of the administrator is for.  A body that cannot be read is its error. -/
inductive Action where
  | listSessions
  | deleteSession (id : String)
  | revokeOtherSessions
  | listAPIKeys
  | createAPIKey (body : Except String APIKeyRequest) (id : String) (drawID drawSecret : Draw)
  | deleteAPIKey (id : String)
  | listShareLinks
  | createShareLink (body : Except String ShareLinkRequest) (id : String) (drawSecret : Draw)
  | revokeShareLink (id : String)
  | other (method : String)

/-- The method of a request. -/
def Action.method : Action → String
  | .listSessions | .listAPIKeys | .listShareLinks => "GET"
  | .revokeOtherSessions | .createAPIKey _ _ _ _ | .createShareLink _ _ _ => "POST"
  | .deleteSession _ | .deleteAPIKey _ | .revokeShareLink _ => "DELETE"
  | .other method => method

/-- Whether a request may change something. -/
def Action.changes (action : Action) : Bool :=
  decide (action.method ∉ ["GET", "HEAD", "OPTIONS"])

/-- A login, with the codes of the second factor that are valid at its time. -/
structure Login where
  body : Except String LoginRequest
  validTOTP : String → String → Bool := fun _ _ => false
  draws : SessionDraws

/-- A request. -/
inductive Request where
  | setup (body : Except String SetupRequest) (draws : SetupDraws) (session : SessionDraws)
  | login (login : Login)
  | komariLogin (login : Login)
  | logout (caller : Caller)
  | komariLogout (caller : Caller)
  | admin (caller : Caller) (action : Action)
  | share (token : String)
  | shareHistory (token nodeID hours maxPoints : String)

/-- What a request answers with. -/
inductive Response where
  | refused (e : ApiError)
  | loggedIn (status : ℕ) (token csrf : String)
  | komariRefused (status : ℕ) (message : String)
  | komariLoggedIn (token csrf : String)
  | loggedOut
  | sessions (rows : List Session)
  | sessionDeleted
  | othersRevoked
  | apiKeys (rows : List APIKeyRecord)
  | apiKeyCreated (key : APIKeyRecord) (token : String)
  | apiKeyDeleted
  | shareLinks (rows : List ShareLinkRecord)
  | shareLinkCreated (link : ShareLinkRecord) (token : String)
  | shareLinkRevoked
  | served (admin : Admin)
  | shared (name description : String) (expiresAt : Time) (nodes : List NodeSnapshot)
  | sharedHistory (samples : List MetricSample)

/-- A handler in its course. -/
abbrev Handling (α : Type) := Procedure Call Call.Answer α

/-- Make a call. -/
def call (op : Call) : Handling op.Answer := perform op

/-- Refuse a request. -/
def refuse (status : ℕ) (code message : String) : Handling Response :=
  return .refused ⟨status, code, message⟩

section Handlers

variable (P : Services)

/-! ## Sessions that are given -/

/-- The functions that deal with recovery codes. -/
def Services.recovery : AdminServices where
  verifyHash := P.verifyHash
  openSecret := P.openSecret
  parsePending := fun _ => none
  hashToken := P.hash
  toUpper := P.toUpper

/-- How long a session lasts. -/
def sessionLength : Duration := 7 * 24 * hour

/-- Issue a session to an administrator: its token and its token against forged requests. -/
def issueSession (admin : Admin) (draws : SessionDraws) : Handling (Option (String × String)) := do
  match randomURLToken 32 draws.token, randomURLToken 24 draws.csrf with
  | some token, some csrf =>
    let now ← call .now
    let session : Session :=
      { tokenHash := P.hash token, adminID := admin.id, csrfHash := P.hash csrf, createdAt := now,
        expiresAt := now + sessionLength }
    match ← call (.createSession session) with
    | .error _ => return none
    | .ok () => return some (token, csrf)
  | _, _ => return none

/-- The setup of the site. -/
def handleSetup (body : Except String SetupRequest) (draws : SetupDraws) (session : SessionDraws) :
    Handling Response := do
  match ← call .setupComplete with
  | .error _ => refuse 500 "store_error" "could not read setup state"
  | .ok true => refuse 409 "already_configured" "Hostpin is already configured"
  | .ok false =>
    match body with
    | .error message => refuse 400 "invalid_request" message
    | .ok request =>
      match setupParams P.setup request draws with
      | .error e => return .refused e
      | .ok params =>
        match ← call (.initializeSite params.admin) with
        | .error .alreadySetup =>
          refuse 409 "already_configured" "Hostpin is already configured"
        | .error _ => refuse 500 "setup_failed" "could not initialize Hostpin"
        | .ok () =>
          match ← issueSession P params.admin session with
          | none =>
            refuse 500 "session_error" "setup completed but login session could not be created"
          | some (token, csrf) => return .loggedIn 201 token csrf

/-- The second factor of a login, when the administrator has one: a code, or a recovery code that is
then consumed. -/
def secondFactor (login : Login) (request : LoginRequest) (admin : Admin) :
    Handling (Option Response) := do
  if admin.totpSecretEnc = "" then return none
  else if (P.openSecret admin.totpSecretEnc).any (login.validTOTP (trimSpace request.totpCode)) then
    return none
  else
    match consumeRecoveryCode P.recovery admin.recoveryHashes request.recoveryCode with
    | none =>
      return some (.refused ⟨401, "totp_required", "a valid two-factor code is required"⟩)
    | some (_, recoveryHashes) =>
      let now ← call .now
      match ← call (.updateAdmin { admin with recoveryHashes, updatedAt := now }) with
      | .error _ =>
        return some (.refused ⟨500, "store_error", "could not consume recovery code"⟩)
      | .ok () => return none

def handleLogin (login : Login) : Handling Response := do
  match login.body with
  | .error message => refuse 400 "invalid_request" message
  | .ok request =>
    match ← call (.getAdminByUsername (trimSpace request.username)) with
    | .error _ => refuse 401 "invalid_credentials" "invalid username or password"
    | .ok admin =>
      if P.verifyHash admin.passwordHash request.password = false then
        refuse 401 "invalid_credentials" "invalid username or password"
      else
        match ← secondFactor P login request admin with
        | some refusal => return refusal
        | none =>
          match ← issueSession P admin login.draws with
          | none => refuse 500 "session_error" "could not create login session"
          | some (token, csrf) => return .loggedIn 200 token csrf

/-- A login by a theme of Komari.  The code of the second factor is taken as it is, and a recovery
code is not. -/
def handleKomariLogin (login : Login) : Handling Response := do
  match login.body with
  | .error message => refuse 400 "invalid_request" message
  | .ok request =>
    match ← call (.getAdminByUsername (trimSpace request.username)) with
    | .error _ => return .komariRefused 401 "invalid credentials"
    | .ok admin =>
      if P.verifyHash admin.passwordHash request.password = false then
        return .komariRefused 401 "invalid credentials"
      else if admin.totpSecretEnc ≠ "" ∧
          (P.openSecret admin.totpSecretEnc).any (login.validTOTP request.totpCode) = false then
        return .komariRefused 401 "2FA required"
      else
        match ← issueSession P admin login.draws with
        | none => return .komariRefused 500 "session error"
        | some (token, csrf) => return .komariLoggedIn token csrf

/-- The end of a session, when the request comes from its pages.  Whether it is deleted is not
asked. -/
def handleLogout (caller : Caller) : Handling Response := do
  match caller.sessionCookie with
  | none => return .loggedOut
  | some token =>
    if caller.csrfCookie = some caller.csrfHeader then
      let _ ← call (.deleteSession (P.hash token))
      return .loggedOut
    else return .loggedOut

/-- The end of a session of a theme of Komari. -/
def handleKomariLogout (caller : Caller) : Handling Response := do
  match caller.sessionCookie with
  | none => return .loggedOut
  | some token =>
    let _ ← call (.deleteSession (P.hash token))
    return .loggedOut

/-! ## Admission -/

/-- The session of a token.  A session that has expired is deleted. -/
def getSession (tokenHash : String) : Handling (Option Session) := do
  match ← call (.selectSession tokenHash) with
  | .error _ => return none
  | .ok session =>
    let now ← call .now
    if session.expiresAt < now then
      let _ ← call (.deleteSession tokenHash)
      return none
    else return some session

/-- The administrator of a session, with the session. -/
def currentAdmin (caller : Caller) : Handling (Option (Admin × Session)) := do
  match caller.sessionCookie with
  | none => return none
  | some token =>
    if token = "" then return none
    else
      match ← getSession (P.hash token) with
      | none => return none
      | some session =>
        match ← call (.getAdminByID session.adminID) with
        | .error _ => return none
        | .ok admin => return some (admin, session)

/-- The id and the hash of an API key in a header. -/
def bearerKey (authorization : String) : Option (String × String) := do
  let (scheme, raw) ← cut ' ' authorization
  if P.equalFold scheme "Bearer" then (parseAPIKeyToken P.sum256 (trimSpace raw)).toOption
  else none

/-- The administrator of an API key, with the key. -/
def authenticateAPIKey (tokenID tokenHash : String) (now : Time) :
    Handling (Option (Admin × APIKeyRecord)) := do
  match ← call (.selectAPIKey tokenID) with
  | .error _ => return none
  | .ok key =>
    if key.tokenHash ≠ tokenHash ∨ key.expiresAt.any (· ≤ now) then return none
    else
      match ← call (.getAdminByID key.adminID) with
      | .error _ => return none
      | .ok admin => return some (admin, key)

/-- By what a request is admitted. -/
inductive Identity where
  | session (admin : Admin) (session : Session)
  | apiKey (admin : Admin) (key : APIKeyRecord)

/-- For whom a request acts. -/
def Identity.admin : Identity → Admin
  | .session admin _ => admin
  | .apiKey admin _ => admin

/-- By what a request is admitted, if it is: by a session, or else by an API key. -/
def requireAdmin (caller : Caller) : Handling (Option Identity) := do
  match ← currentAdmin P caller with
  | some (admin, session) => return some (.session admin session)
  | none =>
    match bearerKey P caller.authorization with
    | none => return none
    | some (tokenID, tokenHash) =>
      let now ← call .now
      match ← authenticateAPIKey tokenID tokenHash now with
      | none => return none
      | some (admin, key) =>
        if "admin" ∈ key.scopes then return some (.apiKey admin key) else return none

/-- Whether a request is not forged, as far as that matters: a request by a session that changes
something has the token that was issued with the session. -/
def requireCSRF (caller : Caller) (action : Action) : Identity → Bool
  | .apiKey _ _ => true
  | .session _ session =>
    !action.changes || (caller.csrfHeader ≠ "" && caller.csrfCookie = some caller.csrfHeader &&
      session.csrfHash = P.hash caller.csrfHeader)

/-! ## Sessions and API keys of the administrator -/

/-- The hash of the session cookie. -/
def currentHash (caller : Caller) : String := (caller.sessionCookie.map P.hash).getD ""

def handleAdminSessions (admin : Admin) : Handling Response := do
  match ← call (.listSessions admin.id) with
  | .error _ => refuse 500 "store_error" "could not list sessions"
  | .ok rows => return .sessions rows

/-- Delete a session of the administrator. -/
def handleAdminDeleteSession (admin : Admin) (id : String) : Handling Response := do
  match ← call (.listSessions admin.id) with
  | .error _ => refuse 500 "store_error" "could not read sessions"
  | .ok rows =>
    if rows.any (·.tokenHash = id) then
      match ← call (.deleteSession id) with
      | .error _ => refuse 500 "store_error" "could not revoke session"
      | .ok () => return .sessionDeleted
    else refuse 404 "session_not_found" "session was not found"

/-- Delete all sessions of the administrator but the one of the request. -/
def handleAdminRevokeOtherSessions (caller : Caller) (admin : Admin) : Handling Response := do
  match ← call (.deleteAdminSessions admin.id (currentHash P caller)) with
  | .error _ => refuse 500 "store_error" "could not revoke sessions"
  | .ok () => return .othersRevoked

def handleAdminAPIKeys (admin : Admin) : Handling Response := do
  match ← call (.listAPIKeys admin.id) with
  | .error _ => refuse 500 "store_error" "could not list API keys"
  | .ok rows => return .apiKeys rows

/-- Make an API key for the administrator. -/
def handleAdminCreateAPIKey (admin : Admin) (body : Except String APIKeyRequest) (id : String)
    (drawID drawSecret : Draw) : Handling Response := do
  match body with
  | .error message => refuse 400 "invalid_request" message
  | .ok request =>
    let name := trimSpace request.name
    if name = "" ∨ 128 < name.utf8ByteSize ∨ request.expiresInDays < 0 ∨
        3650 < request.expiresInDays then
      refuse 400 "invalid_api_key" "name and a valid expiry are required"
    else
      match newAPIKeyToken P.sum256 drawID drawSecret with
      | none => refuse 500 "token_error" "could not generate API key"
      | some new =>
        let now ← call .now
        let key : APIKeyRecord :=
          { id, name, scopes := ["admin"], createdAt := now
            expiresAt :=
              if 0 < request.expiresInDays then some (now + request.expiresInDays * 24 * hour)
              else none
            adminID := admin.id, tokenID := new.tokenID, tokenHash := new.hash }
        match ← call (.createAPIKey key) with
        | .error _ => refuse 500 "store_error" "could not create API key"
        | .ok () => return .apiKeyCreated key new.token

def handleAdminDeleteAPIKey (admin : Admin) (id : String) : Handling Response := do
  match ← call (.deleteAPIKey admin.id id) with
  | .error .notFound => refuse 404 "api_key_not_found" "API key was not found"
  | .error _ => refuse 500 "store_error" "could not revoke API key"
  | .ok () => return .apiKeyDeleted

/-! ## Share links of the administrator -/

def handleAdminShareLinks : Handling Response := do
  match ← call .listShareLinks with
  | .error _ => refuse 500 "store_error" "could not list share links"
  | .ok rows => return .shareLinks rows

/-- Whether all ids are those of nodes. -/
def allNodes : List String → Handling Bool
  | [] => return true
  | id :: ids => do
    match ← call (.getNode id) with
    | .error _ => return false
    | .ok _ => allNodes ids

/-- Make a share link for some nodes. -/
def handleAdminCreateShareLink (body : Except String ShareLinkRequest) (id : String)
    (drawSecret : Draw) : Handling Response := do
  match body with
  | .error message => refuse 400 "invalid_request" message
  | .ok request =>
    let now ← call .now
    if request.nodeIDs = [] ∨ 100 < request.nodeIDs.length ∨ request.expiresAt ≤ now ∨
        now + 365 * 24 * hour < request.expiresAt then
      refuse 400 "invalid_share_link" "choose 1 to 100 nodes and an expiry within one year"
    else
      let nodeIDs := (request.nodeIDs.insertionSort (· ≤ ·)).destutter (· ≠ ·)
      if ← allNodes nodeIDs then
        match newShareToken P.sum256 drawSecret with
        | none => refuse 500 "token_error" "could not create share link"
        | some (token, tokenHash) =>
          let link : ShareLinkRecord :=
            { id, nodeIDs, expiresAt := request.expiresAt, createdAt := now, tokenHash }
          match ← call (.createShareLink link) with
          | .error _ => refuse 500 "store_error" "could not create share link"
          | .ok () => return .shareLinkCreated link token
      else refuse 400 "invalid_node" "share link contains an unknown node"

def handleAdminRevokeShareLink (id : String) : Handling Response := do
  let now ← call .now
  match ← call (.revokeShareLink id now) with
  | .error .notFound => refuse 404 "share_link_not_found" "share link was not found"
  | .error _ => refuse 500 "store_error" "could not revoke share link"
  | .ok () => return .shareLinkRevoked

/-- What an admitted request does. -/
def handleAction (caller : Caller) (admin : Admin) : Action → Handling Response
  | .listSessions => handleAdminSessions admin
  | .deleteSession id => handleAdminDeleteSession admin id
  | .revokeOtherSessions => handleAdminRevokeOtherSessions P caller admin
  | .listAPIKeys => handleAdminAPIKeys admin
  | .createAPIKey body id drawID drawSecret =>
    handleAdminCreateAPIKey P admin body id drawID drawSecret
  | .deleteAPIKey id => handleAdminDeleteAPIKey admin id
  | .listShareLinks => handleAdminShareLinks
  | .createShareLink body id drawSecret => handleAdminCreateShareLink P body id drawSecret
  | .revokeShareLink id => handleAdminRevokeShareLink id
  | .other _ => return .served admin

/-- A request of the administrator. -/
def handleAdmin (caller : Caller) (action : Action) : Handling Response := do
  match ← requireAdmin P caller with
  | none =>
    refuse 401 "authentication_required" "administrator authentication is required"
  | some identity =>
    if requireCSRF P caller action identity then handleAction P caller identity.admin action
    else refuse 403 "csrf_failed" "CSRF validation failed"

/-! ## Share links of visitors -/

/-- The share link of a token. -/
def resolveShare (token : String) : Handling (Option ShareLinkRecord) := do
  if hasShareForm token then
    let now ← call .now
    match ← call (.selectShareLink (P.hash token)) with
    | .error _ => return none
    | .ok link =>
      if link.revokedAt.isSome ∨ link.expiresAt ≤ now then return none else return some link
  else return none

/-- The nodes of a share link that are still there, with their latest samples. -/
def shareSnapshots (now : Time) : List String → Handling (List NodeSnapshot)
  | [] => return []
  | id :: ids => do
    match ← call (.getNode id) with
    | .error _ => shareSnapshots now ids
    | .ok node =>
      let metric ← call (.latest id)
      let shown : PublicNode := match metric with
        | none => node.toPublic
        | some sample =>
          { node.toPublic with
            online := decide (Clock.sub now sample.receivedAt ≤ P.offlineAfter) }
      return ⟨shown, metric⟩ :: (← shareSnapshots now ids)

/-- The answer when a share link cannot be used. -/
def shareLinkInvalid : ApiError :=
  ⟨404, "share_link_invalid", "share link is invalid, revoked, or expired"⟩

def handlePublicShare (token : String) : Handling Response := do
  match ← resolveShare P token with
  | none => return .refused shareLinkInvalid
  | some link =>
    let settings := (← call .siteSettings).toOption.getD {}
    let now ← call .now
    return .shared settings.name settings.description link.expiresAt
      (← shareSnapshots P now link.nodeIDs)

/-- Correct the samples of a node. -/
def correctAll (nodeID : String) (clock : Time) : List MetricSample → Handling (List MetricSample)
  | [] => return []
  | sample :: samples => do
    let corrected ← call (.correct nodeID sample clock)
    return corrected :: (← correctAll nodeID clock samples)

/-- The history of a node of a share link. -/
def handlePublicShareHistory (token nodeID hoursText pointsText : String) : Handling Response := do
  match ← resolveShare P token with
  | none => return .refused shareLinkInvalid
  | some link =>
    if nodeID ∈ link.nodeIDs then
      let hours := (P.parseFloat hoursText).1
      let hours := if hours ≤ 0 || 24 * 365 < hours then 24 else hours
      let points := (P.parseInt pointsText).1
      let maxPoints := if points ≤ 0 ∨ 2000 < points then 500 else points
      let now ← call .now
      let query : HistoryQuery := ⟨nodeID, now - P.toInt64 (hours * 3600000000000), now, maxPoints⟩
      match ← call (.history query now) with
      | .error _ => refuse 500 "store_error" "could not query shared history"
      | .ok samples => return .sharedHistory (← correctAll nodeID now samples)
    else refuse 404 "node_not_shared" "node is not included in this share link"

/-! ## The system -/

/-- The handler of a request. -/
def Request.handler : Request → Handling Response
  | .setup body draws session => handleSetup P body draws session
  | .login attempt => handleLogin P attempt
  | .komariLogin attempt => handleKomariLogin P attempt
  | .logout caller => handleLogout P caller
  | .komariLogout caller => handleKomariLogout P caller
  | .admin caller action => handleAdmin P caller action
  | .share token => handlePublicShare P token
  | .shareHistory token nodeID hours maxPoints =>
    handlePublicShareHistory P token nodeID hours maxPoints

end Handlers

/-- What changes besides the requests: the sessions that have expired are deleted from time to time,
and everything else but the credentials may change in any way. -/
inductive Change where
  | deleteExpiredSessions (now : Time)
  | data (admins : List Admin) (settings : StoredSettings) (nodes : NodeTable)
      (metrics : MetricStore) (latest : String → Option MetricSample) (traffic : TrafficTracker)

/-- The state after a change. -/
def State.change : Change → State → State
  | .deleteExpiredSessions now, s => s.endSessions fun session =>
    session.expiresAt < storedTime now
  | .data admins settings nodes metrics latest traffic, s =>
    s.record { s.store with admins, settings, nodes, metrics, latest, traffic } []

end Access

/-- The state with the requests that are being handled. -/
abbrev AccessSystem := Pool Access.Call Access.Call.Answer Access.Response Access.State

/-- What happens to the system. -/
abbrev AccessEvent := PoolEvent Access.Request Access.Fate Access.Change

/-- The system after an event. -/
def AccessSystem.step (P : Access.Services) (system : AccessSystem) (event : AccessEvent) :
    AccessSystem :=
  Pool.step Access.answerCall (Access.Request.handler P) Access.State.change system event

end Hostpin
