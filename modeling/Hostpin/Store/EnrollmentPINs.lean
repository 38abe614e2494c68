import Hostpin.Foundation.Clock
import Hostpin.Foundation.KeyedTable

/-!
# Temporary enrollment PINs

The table of temporary PINs and its statements: a replacement, which revokes every PIN and inserts a
new one, a revocation, the latest and the active PIN, and the claim that an enrollment makes on a
PIN. Times are kept in milliseconds.  Where a statement selects the row with the greatest creation
time and several rows have it, the database may take any of them, and the argument `choice` says
which.
-/

namespace Hostpin

open Clock

/-- A temporary PIN as the store keeps it.  It is unclaimed as long as `claimedInstallID` is empty.
-/
structure TemporaryEnrollmentPIN where
  id : String := ""
  pinHash : String := ""
  claimedInstallID : String := ""
  claimedTokenID : String := ""
  createdAt : ℤ := 0
  expiresAt : ℤ := 0
  usedAt : Option ℤ := none
  revokedAt : Option ℤ := none
deriving DecidableEq, Inhabited

/-- The table of temporary PINs. -/
abbrev PINTable := KeyedTable TemporaryEnrollmentPIN.id

/-! ## One row -/

namespace TemporaryEnrollmentPIN

/-- A PIN that is not revoked yet is revoked. -/
def revoke (now : Time) (pin : TemporaryEnrollmentPIN) : TemporaryEnrollmentPIN :=
  match pin.revokedAt with
  | none => { pin with revokedAt := some (unixMilli now) }
  | some _ => pin

/-- A PIN can be claimed: it is neither revoked nor expired, and unclaimed or claimed by the same
agent. -/
def claimable (installID tokenID : String) (now : Time) (pin : TemporaryEnrollmentPIN) : Bool :=
  pin.revokedAt = none ∧ unixMilli now < pin.expiresAt ∧
    (pin.claimedInstallID = "" ∨
      pin.claimedInstallID = installID ∧ pin.claimedTokenID = tokenID)

/-- A claimed PIN.  The time of the first claim stays. -/
def claimed (installID tokenID : String) (now : Time) (pin : TemporaryEnrollmentPIN) :
    TemporaryEnrollmentPIN :=
  { pin with
    claimedInstallID := installID
    claimedTokenID := tokenID
    usedAt := some (pin.usedAt.getD (unixMilli now)) }

end TemporaryEnrollmentPIN

/-! ## Statements -/

namespace PINTable

/-- Change the row with an id. -/
def onRow (id : String) (f : TemporaryEnrollmentPIN → TemporaryEnrollmentPIN)
    (pin : TemporaryEnrollmentPIN) : TemporaryEnrollmentPIN :=
  if pin.id = id then f pin else pin

lemma revoke_id (now : Time) (pin : TemporaryEnrollmentPIN) : (pin.revoke now).id = pin.id := by
  unfold TemporaryEnrollmentPIN.revoke
  split <;> rfl

lemma onRow_id {id : String} {f : TemporaryEnrollmentPIN → TemporaryEnrollmentPIN}
    (keeps : ∀ pin, (f pin).id = pin.id) (pin : TemporaryEnrollmentPIN) :
    (onRow id f pin).id = pin.id := by
  unfold onRow
  split
  exacts [keeps pin, rfl]

/-- The ids of the PINs that are not revoked, which a replacement is about to revoke. -/
def unrevoked (t : PINTable) : List String :=
  (t.rows.filter fun pin => pin.revokedAt = none).map TemporaryEnrollmentPIN.id

/-- Revoke a PIN if it is among the ids and not revoked yet. -/
def revokeAmong (ids : List String) (now : Time) (pin : TemporaryEnrollmentPIN) :
    TemporaryEnrollmentPIN :=
  if pin.id ∈ ids then pin.revoke now else pin

lemma revokeAmong_id (ids : List String) (now : Time) (pin : TemporaryEnrollmentPIN) :
    (revokeAmong ids now pin).id = pin.id := by
  unfold revokeAmong
  split
  exacts [revoke_id now pin, rfl]

/-- The end of a replacement: the PINs that it found unrevoked are revoked, and the new one is
inserted. -/
def replace (t : PINTable) (found : List String) (pin : TemporaryEnrollmentPIN) (now : Time) :
    Option PINTable :=
  (t.updateAll (revokeAmong found now) (revokeAmong_id found now)).insertNew pin

/-- Revoke the PIN with an id, unless it is revoked already. -/
def revoke (t : PINTable) (id : String) (now : Time) : Option PINTable :=
  match t.lookup id with
  | none => none
  | some pin =>
    if pin.revokedAt = none then
      some (t.updateAll (onRow id (.revoke now)) (onRow_id (revoke_id now)))
    else none

/-- Claim the PIN with an id for an agent. -/
def claim (t : PINTable) (id installID tokenID : String) (now : Time) : Option PINTable :=
  match t.lookup id with
  | none => none
  | some pin =>
    if pin.claimable installID tokenID now then
      some (t.updateAll (onRow id (.claimed installID tokenID now)) (onRow_id fun _ => rfl))
    else none

/-- The rows of a list with the greatest creation time. -/
def newest (pins : List TemporaryEnrollmentPIN) : List TemporaryEnrollmentPIN :=
  pins.filter fun pin => pins.all fun other => other.createdAt ≤ pin.createdAt

/-- The PIN with the greatest creation time. -/
def latest (t : PINTable) (choice : ℕ) : Option TemporaryEnrollmentPIN :=
  let pins := newest t.rows
  pins[choice % pins.length]?

/-- Whether a PIN may be offered to an agent. -/
def isActive (now : Time) (pin : TemporaryEnrollmentPIN) : Bool :=
  pin.revokedAt = none ∧ unixMilli now < pin.expiresAt

/-- The active PIN with the greatest creation time. -/
def active (t : PINTable) (now : Time) (choice : ℕ) : Option TemporaryEnrollmentPIN :=
  let pins := newest (t.rows.filter (isActive now))
  pins[choice % pins.length]?

end PINTable

end Hostpin
