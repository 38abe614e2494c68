import Hostpin.Foundation.Calendar
import Hostpin.Model.Types

/-!
# The traffic tracker

The server derives the traffic of a billing period from the counters that the agents report.
`TrafficTracker` keeps the last counters and the totals of every node, `trafficPeriodStart` is the
start of the billing period of an instant and `TrafficTracker.apply` takes one sample in.  At the
start of the server `TrafficTracker.load` fills the tracker with the last samples of the store, and
`TrafficTracker.configureNode` installs the policy of a node that was edited.
-/

namespace Hostpin

open Clock Calendar

/-! ## Billing periods -/

/-- The number of days of a month, read off the day before the first of the next month. -/
def daysInMonth (year month : ℤ) : ℤ := day (ofDate year (month + 1) 0)

/-- The start of the billing period of an instant.  The zero instant stands for the present, which
is the last argument. -/
def trafficPeriodStart (now : Time) (resetDay : ℤ) (clock : Time) : Time :=
  let now := if isZero now then clock else now
  let resetDay := if resetDay < 1 || 31 < resetDay then 1 else resetDay
  let nowYear := year (dayOf now)
  let nowMonth := month (dayOf now)
  let thisMonthDay := min resetDay (daysInMonth nowYear nowMonth)
  let start := midnight (ofDate nowYear nowMonth thisMonthDay)
  if now < start then
    let (startYear, startMonth) :=
      if nowMonth - 1 < 1 then (nowYear - 1, 12) else (nowYear, nowMonth - 1)
    midnight (ofDate startYear startMonth (min resetDay (daysInMonth startYear startMonth)))
  else start

/-! ## State -/

/-- The counters and the totals of a node. -/
structure TrafficState where
  bootID : String
  lastRX : UInt64
  lastTX : UInt64
  monthlyRX : UInt64 := 0
  monthlyTX : UInt64 := 0
  periodStart : Time
deriving DecidableEq

/-- The reset day and the correction of a node. -/
structure TrafficPolicy where
  resetDay : ℤ
  rxCorrection : Int64
  txCorrection : Int64
  periodStart : Option Time
deriving DecidableEq

/-- The states and the policies of the nodes, by node id. -/
structure TrafficTracker where
  states : String → Option TrafficState := fun _ => none
  policies : String → Option TrafficPolicy := fun _ => none

/-- The policy that a node asks for. -/
def policyFromNode (node : Node) : TrafficPolicy where
  resetDay := node.trafficResetDay
  rxCorrection := node.trafficRXCorrection
  txCorrection := node.trafficTXCorrection
  periodStart := node.trafficCorrectionPeriodStart

/-- The sum of two counters, or the greatest counter when it does not fit. -/
def saturatingAdd (left right : UInt64) : UInt64 :=
  let maximum : UInt64 := 18446744073709551615
  if right > maximum - left then maximum else left + right

/-! ## Taking a sample in -/

/-- Take a sample of a node in: the tracker after it, and the sample with the totals of the
billing period.  The policy of a node is the one it had when it was first seen. -/
def TrafficTracker.apply (t : TrafficTracker) (node : Node) (sample : MetricSample)
    (now clock : Time) : TrafficTracker × MetricSample :=
  let policy := (t.policies node.id).getD (policyFromNode node)
  let policies := Function.update t.policies node.id (some policy)
  let period := trafficPeriodStart now policy.resetDay clock
  let baseline : TrafficState :=
    { bootID := sample.bootID, lastRX := sample.netRxBytes, lastTX := sample.netTxBytes,
      periodStart := period }
  match t.states node.id with
  | none =>
    ({ states := Function.update t.states node.id (some baseline), policies },
      { sample with monthlyRxBytes := 0, monthlyTxBytes := 0 })
  | some state =>
    if state.periodStart != period then
      -- a difference across the reset boundary cannot be split between the periods
      ({ states := Function.update t.states node.id (some baseline), policies },
        { sample with monthlyRxBytes := 0, monthlyTxBytes := 0 })
    else
      let monthlyRX := if state.bootID == sample.bootID && state.lastRX ≤ sample.netRxBytes then
        saturatingAdd state.monthlyRX (sample.netRxBytes - state.lastRX) else state.monthlyRX
      let monthlyTX := if state.bootID == sample.bootID && state.lastTX ≤ sample.netTxBytes then
        saturatingAdd state.monthlyTX (sample.netTxBytes - state.lastTX) else state.monthlyTX
      ({ states := Function.update t.states node.id
          (some { baseline with monthlyRX, monthlyTX }), policies },
        { sample with monthlyRxBytes := monthlyRX, monthlyTxBytes := monthlyTX })

/-! ## Loading and configuring -/

/-- Fill a tracker with the last samples of the nodes, each under the policy of its node.  The last
argument is the present. -/
def TrafficTracker.load (t : TrafficTracker) (samples : String → Option MetricSample)
    (nodes : String → Node) (clock : Time) : TrafficTracker where
  states := fun nodeID =>
    match samples nodeID with
    | none => t.states nodeID
    | some sample =>
      some
        { bootID := sample.bootID, lastRX := sample.netRxBytes, lastTX := sample.netTxBytes,
          monthlyRX := sample.monthlyRxBytes, monthlyTX := sample.monthlyTxBytes,
          periodStart := trafficPeriodStart sample.receivedAt (nodes nodeID).trafficResetDay clock }
  policies := fun nodeID =>
    match samples nodeID with
    | none => t.policies nodeID
    | some _ => some (policyFromNode (nodes nodeID))

/-- Install the policy of a node; the counters and the totals stay. -/
def TrafficTracker.configureNode (t : TrafficTracker) (node : Node) : TrafficTracker :=
  { t with policies := Function.update t.policies node.id (some (policyFromNode node)) }

end Hostpin
