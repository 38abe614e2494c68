import Hostpin.Foundation.Serial
import Hostpin.Foundation.Text
import Hostpin.Store.Metrics

/-!
# Credentials of the administrator

A login with a recovery code, a change of the password, and the confirmation and the end of
two-factor authentication each read the administrator, check something that takes long, and write
the whole row back.  They are requests in the sense of `Serial`, whose plan is what the handler does
with the row.

Nothing tells a handler that the row has changed since it was read, so that two logins with one
recovery code can both succeed (`recoveryCode_usedTwice`).  As long as each request that writes
finds the credentials as it has read them, the requests are served as if one at a time: a recovery
code grants one login, and the password and the second factor are those of the last acknowledged
change (`credentials_serial`).
-/

namespace Hostpin

open Clock Text Runs Serial

/-! ## Data -/

/-- The administrator. -/
structure Admin where
  id : String
  username : String
  passwordHash : String
  totpSecretEnc : String := ""
  recoveryHashes : List String := []
  createdAt : Time := 0
  updatedAt : Time := 0
deriving DecidableEq

/-- The update of a row: it writes all columns but the creation time. -/
def Admin.updates (admin row : Admin) : Admin :=
  if row.id = admin.id then
    { row with
      username := admin.username
      passwordHash := admin.passwordHash
      totpSecretEnc := admin.totpSecretEnc
      recoveryHashes := admin.recoveryHashes
      updatedAt := storedTime admin.updatedAt }
  else row

/-- A second factor that waits for its confirmation. -/
structure PendingTOTP where
  adminID : String
  secret : String
  expireAt : Time

/-- The functions of the security packages. -/
structure AdminServices where
  verifyHash : String → String → Bool
  openSecret : String → Option String
  parsePending : String → Option PendingTOTP
  hashToken : String → String
  toUpper : String → String

/-- How the calls that a request makes turn out, and what they draw at random. -/
structure AdminCalls where
  now : Time := 0
  read : Bool := true
  update : Bool := true
  session : Bool := true
  validTOTP : String → String → Bool := fun _ _ => false
  sealedSecret : Option String := none
  recoveryTokens : Option (Fin 10 → String) := none
  hashedPassword : Option String := none

/-- The body of a login. -/
structure LoginRequest where
  username : String
  password : String
  totpCode : String := ""
  recoveryCode : String := ""

/-- A request.  Except for a login it belongs to the administrator of a session or an API key. -/
inductive AdminRequest where
  | login (calls : AdminCalls) (request : LoginRequest)
  | totpConfirm (calls : AdminCalls) (adminID : Option String) (setupToken code : String)
  | totpDisable (calls : AdminCalls) (adminID : Option String) (password : String)
  | changePassword (calls : AdminCalls) (adminID : Option String) (current new : String)

/-- What a request answers, with what it acknowledges. -/
inductive AdminAnswer where
  | refused (status : ℕ) (code message : String)
  | loggedIn (recoveryHash : Option String)
  | enabled (secret : String) (recoveryHashes : List String)
  | disabled
  | changed (passwordHash : String)
deriving DecidableEq

/-! ## Handlers -/

/-- Write the administrator back and acknowledge it. -/
def save (calls : AdminCalls) (admin : Admin) (acknowledged : AdminAnswer) (failure : String) :
    Plan Admin AdminAnswer :=
  if calls.update then .write { admin with updatedAt := calls.now }.updates acknowledged
  else .answer (.refused 500 "store_error" failure)

/-- The hash of a recovery code that the administrator has, and the hashes that remain. -/
def consumeRecoveryCode (services : AdminServices) (hashes : List String) (code : String) :
    Option (String × List String) :=
  let code := trimSpace code
  let hash := services.hashToken (services.toUpper code)
  if code = "" then none else if hash ∈ hashes then some (hash, hashes.erase hash) else none

/-- The end of a login: a session is issued. -/
def issueSession (calls : AdminCalls) (recoveryHash : Option String) : AdminAnswer :=
  if calls.session then .loggedIn recoveryHash
  else .refused 500 "session_error" "could not create login session"

def handleLogin (services : AdminServices) (calls : AdminCalls) (request : LoginRequest)
    (admin : Admin) : Plan Admin AdminAnswer :=
  if !calls.read || admin.username ≠ trimSpace request.username ||
      !services.verifyHash admin.passwordHash request.password then
    .answer (.refused 401 "invalid_credentials" "invalid username or password")
  else if admin.totpSecretEnc ≠ "" &&
      !(services.openSecret admin.totpSecretEnc).any (calls.validTOTP (trimSpace request.totpCode))
    then
    match consumeRecoveryCode services admin.recoveryHashes request.recoveryCode with
    | none => .answer (.refused 401 "totp_required" "a valid two-factor code is required")
    | some (hash, recoveryHashes) =>
      save calls { admin with recoveryHashes } (issueSession calls (some hash))
        "could not consume recovery code"
  else .answer (issueSession calls none)

/-- Only the administrator of a session or an API key gets through. -/
def requireAdmin (calls : AdminCalls) (adminID : Option String) (admin : Admin)
    (next : Plan Admin AdminAnswer) : Plan Admin AdminAnswer :=
  if calls.read && adminID = some admin.id then next
  else .answer (.refused 401 "authentication_required" "administrator authentication is required")

/-- A recovery code made from a random token. -/
def recoveryCode (services : AdminServices) (token : String) : String :=
  let raw := (services.toUpper
    (token.map fun c => if c = '-' then 'A' else if c = '_' then 'B' else c)).toList
  String.ofList
    (raw.take 4 ++ '-' :: (raw.drop 4).take 4 ++ '-' :: (raw.drop 8).take 4)

/-- The hashes of ten recovery codes. -/
def recoveryHashes (services : AdminServices) (tokens : Fin 10 → String) : List String :=
  (List.ofFn tokens).map fun token => services.hashToken (recoveryCode services token)

def handleAdminTOTPConfirm (services : AdminServices) (calls : AdminCalls)
    (setupToken code : String) (admin : Admin) : Plan Admin AdminAnswer :=
  match services.openSecret setupToken with
  | none => .answer (.refused 400 "invalid_setup_token" "TOTP setup token is invalid")
  | some plaintext =>
    match (services.parsePending plaintext).filter fun pending =>
        pending.adminID = admin.id ∧ calls.now ≤ pending.expireAt ∧
          calls.validTOTP (trimSpace code) pending.secret with
    | none => .answer (.refused 400 "invalid_totp" "TOTP code or setup token is invalid")
    | some _ =>
      match calls.sealedSecret with
      | none => .answer (.refused 500 "encryption_error" "could not protect TOTP secret")
      | some encrypted =>
        match calls.recoveryTokens with
        | none => .answer (.refused 500 "recovery_error" "could not generate recovery codes")
        | some tokens =>
          let hashes := recoveryHashes services tokens
          save calls { admin with totpSecretEnc := encrypted, recoveryHashes := hashes }
            (.enabled encrypted hashes) "could not enable TOTP"

def handleAdminTOTPDisable (services : AdminServices) (calls : AdminCalls) (password : String)
    (admin : Admin) : Plan Admin AdminAnswer :=
  if !services.verifyHash admin.passwordHash password then
    .answer (.refused 401 "invalid_password" "administrator password is invalid")
  else
    save calls { admin with totpSecretEnc := "", recoveryHashes := [] } .disabled
      "could not disable TOTP"

def handleAdminChangePassword (services : AdminServices) (calls : AdminCalls)
    (current new : String) (admin : Admin) : Plan Admin AdminAnswer :=
  if !services.verifyHash admin.passwordHash current then
    .answer (.refused 401 "invalid_password" "current password is invalid")
  else if new.utf8ByteSize < 12 ∨ 512 < new.utf8ByteSize then
    .answer (.refused 400 "weak_password" "new password must contain 12 to 512 characters")
  else
    match calls.hashedPassword with
    | none => .answer (.refused 500 "hash_error" "could not secure new password")
    | some hash =>
      save calls { admin with passwordHash := hash } (.changed hash) "could not change password"

/-- What a request does with the administrator that it has read. -/
def adminPlan (services : AdminServices) : AdminRequest → Admin → Plan Admin AdminAnswer
  | .login calls request, admin => handleLogin services calls request admin
  | .totpConfirm calls adminID setupToken code, admin =>
    requireAdmin calls adminID admin (handleAdminTOTPConfirm services calls setupToken code admin)
  | .totpDisable calls adminID password, admin =>
    requireAdmin calls adminID admin (handleAdminTOTPDisable services calls password admin)
  | .changePassword calls adminID current new, admin =>
    requireAdmin calls adminID admin (handleAdminChangePassword services calls current new admin)

/-! ## One request -/

/-- Two rows have the same credentials. -/
def Admin.SameCredentials (admin other : Admin) : Prop :=
  admin.id = other.id ∧ admin.username = other.username ∧
    admin.passwordHash = other.passwordHash ∧ admin.totpSecretEnc = other.totpSecretEnc ∧
    admin.recoveryHashes = other.recoveryHashes

instance (admin other : Admin) : Decidable (admin.SameCredentials other) :=
  inferInstanceAs (Decidable (_ ∧ _))

/-- What a request does depends on the credentials only. -/
lemma adminPlan_respects (services : AdminServices) (request : AdminRequest) (admin other : Admin)
    (same : admin.SameCredentials other) :
    (adminPlan services request admin).act other =
      (adminPlan services request other).act other := by
  obtain ⟨id, username, passwordHash, totpSecretEnc, hashes, createdAt, updatedAt⟩ := admin
  obtain ⟨rfl, rfl, rfl, rfl, rfl⟩ := same
  cases request <;> rfl

/-- How many logins an answer grants by a recovery code. -/
def AdminAnswer.grants (hash : String) (answer : AdminAnswer) : ℕ :=
  if answer = .loggedIn (some hash) then 1 else 0

/-- How often an answer issues a recovery code. -/
def AdminAnswer.issues (hash : String) : AdminAnswer → ℕ
  | .enabled _ recoveryHashes => recoveryHashes.count hash
  | _ => 0

/-- The password after an answer. -/
def AdminAnswer.password (old : String) : AdminAnswer → String
  | .changed passwordHash => passwordHash
  | _ => old

/-- The second factor after an answer. -/
def AdminAnswer.secret (old : String) : AdminAnswer → String
  | .enabled secret _ => secret
  | .disabled => ""
  | _ => old

/-- What an answer says about the administrator before and after the request. -/
structure AdminAnswer.Effect (before after : Admin) (answer : AdminAnswer) : Prop where
  password : after.passwordHash = answer.password before.passwordHash
  secret : after.totpSecretEnc = answer.secret before.totpSecretEnc
  hashes : ∀ hash, answer.grants hash + after.recoveryHashes.count hash ≤
    before.recoveryHashes.count hash + answer.issues hash

/-- What a plan answers agrees with what it does to the row. -/
def Honest (row : Admin) (plan : Plan Admin AdminAnswer) : Prop :=
  (plan.act row).2.Effect row (plan.act row).1

variable {services : AdminServices} {calls : AdminCalls} {row : Admin}

lemma honest_answer {answer : AdminAnswer} (h : answer.Effect row row) :
    Honest row (.answer answer) := h

lemma honest_refused (status : ℕ) (code message : String) :
    Honest row (.answer (.refused status code message)) :=
  honest_answer ⟨rfl, rfl, fun _ => by simp [AdminAnswer.grants, AdminAnswer.issues]⟩

lemma honest_save {admin : Admin} {acknowledged : AdminAnswer} (failure : String)
    (same : admin.id = row.id) (h : ∀ after : Admin, after.passwordHash = admin.passwordHash →
      after.totpSecretEnc = admin.totpSecretEnc → after.recoveryHashes = admin.recoveryHashes →
      acknowledged.Effect row after) : Honest row (save calls admin acknowledged failure) := by
  unfold save
  split
  · have saved : { admin with updatedAt := calls.now }.updates row = { row with
        username := admin.username
        passwordHash := admin.passwordHash
        totpSecretEnc := admin.totpSecretEnc
        recoveryHashes := admin.recoveryHashes
        updatedAt := storedTime calls.now } := if_pos same.symm
    unfold Honest Plan.act
    dsimp only
    rw [saved]
    exact h _ rfl rfl rfl
  · exact honest_refused _ _ _

lemma honest_requireAdmin {adminID : Option String} {next : Plan Admin AdminAnswer}
    (h : Honest row next) : Honest row (requireAdmin calls adminID row next) := by
  unfold requireAdmin
  split
  exacts [h, honest_refused _ _ _]

/-- A recovery code is taken from the hashes. -/
lemma consumeRecoveryCode_eq_some {hashes rest : List String} {code hash : String}
    (h : consumeRecoveryCode services hashes code = some (hash, rest)) :
    hash ∈ hashes ∧ rest = hashes.erase hash := by
  unfold consumeRecoveryCode at h
  dsimp only at h
  split at h
  · cases h
  · split at h
    next mem =>
      cases h
      exact ⟨mem, rfl⟩
    next => cases h

lemma grants_add_count_erase {hashes : List String} {hash : String} (mem : hash ∈ hashes)
    (other : String) :
    (AdminAnswer.loggedIn (some hash)).grants other + (hashes.erase hash).count other ≤
      hashes.count other := by
  by_cases same : hash = other
  · subst same
    have : 0 < hashes.count hash := List.count_pos_iff.mpr mem
    simp only [AdminAnswer.grants, List.count_erase_self, if_true]
    omega
  · simp [AdminAnswer.grants, List.count_erase_of_ne (Ne.symm same), same]

lemma effect_issueSession {recoveryHash : Option String} {after : Admin}
    (h : (AdminAnswer.loggedIn recoveryHash).Effect row after) :
    (issueSession calls recoveryHash).Effect row after := by
  unfold issueSession
  split
  · exact h
  · refine ⟨h.password, h.secret, fun hash => ?_⟩
    have := h.hashes hash
    simp only [AdminAnswer.grants, AdminAnswer.issues, reduceCtorEq, if_false] at this ⊢
    omega

lemma honest_login (request : LoginRequest) :
    Honest row (handleLogin services calls request row) := by
  unfold handleLogin
  split
  · exact honest_refused _ _ _
  · split
    · split
      · exact honest_refused _ _ _
      next hash rest consumed =>
        obtain ⟨mem, rfl⟩ := consumeRecoveryCode_eq_some consumed
        refine honest_save _ rfl fun after password secret hashes => ?_
        refine effect_issueSession ⟨password, secret, fun other => ?_⟩
        rw [hashes]
        exact grants_add_count_erase mem other
    · refine honest_answer (effect_issueSession ⟨rfl, rfl, fun _ => ?_⟩)
      simp [AdminAnswer.grants, AdminAnswer.issues]

lemma honest_totpConfirm (setupToken code : String) :
    Honest row (handleAdminTOTPConfirm services calls setupToken code row) := by
  unfold handleAdminTOTPConfirm
  split
  · exact honest_refused _ _ _
  · split
    · exact honest_refused _ _ _
    · split
      · exact honest_refused _ _ _
      · split
        · exact honest_refused _ _ _
        · refine honest_save _ rfl fun _ password secret hashes => ⟨password, secret, fun _ => ?_⟩
          simp [hashes, AdminAnswer.grants, AdminAnswer.issues]

lemma honest_totpDisable (password : String) :
    Honest row (handleAdminTOTPDisable services calls password row) := by
  unfold handleAdminTOTPDisable
  split
  · exact honest_refused _ _ _
  · refine honest_save _ rfl fun _ password secret hashes => ⟨password, secret, fun _ => ?_⟩
    simp [hashes, AdminAnswer.grants]

lemma honest_changePassword (current new : String) :
    Honest row (handleAdminChangePassword services calls current new row) := by
  unfold handleAdminChangePassword
  split
  · exact honest_refused _ _ _
  · split
    · exact honest_refused _ _ _
    · split
      · exact honest_refused _ _ _
      · refine honest_save _ rfl fun _ password secret hashes => ⟨password, secret, fun _ => ?_⟩
        simp [hashes, AdminAnswer.grants]

lemma honest_adminPlan (services : AdminServices) (request : AdminRequest) (row : Admin) :
    Honest row (adminPlan services request row) := by
  cases request with
  | login calls request => exact honest_login request
  | totpConfirm calls adminID setupToken code =>
    exact honest_requireAdmin (honest_totpConfirm setupToken code)
  | totpDisable calls adminID password => exact honest_requireAdmin (honest_totpDisable password)
  | changePassword calls adminID current new =>
    exact honest_requireAdmin (honest_changePassword current new)

/-! ## Many requests -/

/-- The logins that a recovery code has granted. -/
def grantsOf (hash : String) (answered : List (AdminRequest × AdminAnswer)) : ℕ :=
  (answered.map fun entry => entry.2.grants hash).sum

/-- How often a recovery code was issued. -/
def issuedOf (hash : String) (answered : List (AdminRequest × AdminAnswer)) : ℕ :=
  (answered.map fun entry => entry.2.issues hash).sum

/-- The password of the last acknowledged change. -/
def lastPassword (initial : String) (answered : List (AdminRequest × AdminAnswer)) : String :=
  answered.foldl (fun old entry => entry.2.password old) initial

/-- The second factor of the last acknowledged change. -/
def lastSecret (initial : String) (answered : List (AdminRequest × AdminAnswer)) : String :=
  answered.foldl (fun old entry => entry.2.secret old) initial

/-- What holds when requests are served one at a time. -/
structure Accounted (start : Admin) (s : Admin × List (AdminRequest × AdminAnswer)) : Prop where
  grants : ∀ hash, grantsOf hash s.2 + s.1.recoveryHashes.count hash ≤
    start.recoveryHashes.count hash + issuedOf hash s.2
  password : s.1.passwordHash = lastPassword start.passwordHash s.2
  secret : s.1.totpSecretEnc = lastSecret start.totpSecretEnc s.2

lemma Accounted.append {start before after : Admin}
    {answered : List (AdminRequest × AdminAnswer)} (h : Accounted start (before, answered))
    (request : AdminRequest) {answer : AdminAnswer} (effect : answer.Effect before after) :
    Accounted start (after, answered ++ [(request, answer)]) where
  grants hash := by
    have old := h.grants hash
    have new := effect.hashes hash
    simp only [grantsOf, issuedOf, List.map_append, List.sum_append, List.map_cons, List.map_nil,
      List.sum_singleton] at old ⊢
    omega
  password := by
    rw [effect.password, h.password]
    simp [lastPassword]
  secret := by
    rw [effect.secret, h.secret]
    simp [lastSecret]

/-- When each request that writes finds the credentials as it has read them, the requests are served
as if one at a time; a recovery code grants no more logins than it was issued, and the password and
the second factor are those of the last acknowledged change. -/
theorem credentials_serial (services : AdminServices) (start : Admin)
    (events : List (Event AdminRequest))
    (unchanged : Along (step (adminPlan services)) (Unchanged Admin.SameCredentials)
      { row := start } events) :
    let s := run (step (adminPlan services)) { row := start } events
    serially (adminPlan services) start (s.answered.map Prod.fst) = (s.row, s.answered) ∧
      (∀ hash, grantsOf hash s.answered + s.row.recoveryHashes.count hash ≤
        start.recoveryHashes.count hash + issuedOf hash s.answered) ∧
      s.row.passwordHash = lastPassword start.passwordHash s.answered ∧
      s.row.totpSecretEnc = lastSecret start.totpSecretEnc s.answered := by
  intro s
  have serial := serially_answered (adminPlan_respects services) start unchanged
  have initial : Accounted start (start, []) := ⟨fun _ => by simp [grantsOf, issuedOf], rfl, rfl⟩
  have accounted : Accounted start (s.row, s.answered) := by
    rw [← serial]
    refine serially_keeps (fun t request h => ?_) initial _
    exact h.append request (honest_adminPlan services request t.1)
  exact ⟨serial, accounted.grants, accounted.password, accounted.secret⟩

/-- Hashes that are the texts themselves. -/
def plainServices : AdminServices where
  verifyHash hash value := hash = value
  openSecret sealedText := some sealedText
  parsePending _ := none
  hashToken value := value
  toUpper value := value

/-- An administrator with a second factor and one recovery code. -/
def oneCode : Admin where
  id := "admin"
  username := "admin"
  passwordHash := "password"
  totpSecretEnc := "secret"
  recoveryHashes := ["code"]

/-- A login with the recovery code. -/
def codeLogin : AdminRequest :=
  .login {} { username := "admin", password := "password", recoveryCode := "code" }

/-- Two logins that overlap can both be granted by one recovery code. -/
theorem recoveryCode_usedTwice :
    ¬ ∀ (services : AdminServices) (start : Admin) (events : List (Event AdminRequest)),
      let s := run (step (adminPlan services)) { row := start } events
      ∀ hash, grantsOf hash s.answered ≤
        start.recoveryHashes.count hash + issuedOf hash s.answered := by
  intro h
  have := h plainServices oneCode [.read codeLogin, .read codeLogin, .write 0, .write 0] "code"
  revert this
  decide

theorem credentials_serial_oneByOne :
    grantsOf "code" (run (step (adminPlan plainServices)) { row := oneCode }
      [.read codeLogin, .write 0, .read codeLogin]).answered ≤ 1 :=
  (Nat.le_add_right _ _).trans ((credentials_serial plainServices oneCode
    [.read codeLogin, .write 0, .read codeLogin] (by decide)).2.1 "code")

end Hostpin
