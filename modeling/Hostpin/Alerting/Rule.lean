import Hostpin.Foundation.Text
import Hostpin.Model.Types

/-!
# Alert rules

The pure part of `internal/alerting`: the scope test, the value that a rule reads from a metric
sample or a probe result, the comparison with the threshold and the recovery test.  The check that
the administration handler makes before it stores a rule is `validateAlertRule`.
-/

namespace Hostpin

/-! ## Scope -/

/-- Whether a rule with this scope applies to a node. -/
def matchesScope (scope : AlertScope) (node : Node) : Bool :=
  if scope.excluded.contains node.id then false
  else if scope.nodeIDs.length == 0 && scope.groups.length == 0 then true
  else scope.nodeIDs.contains node.id || scope.groups.contains node.group

/-! ## Values -/

/-- A part of a total in percent; an empty total counts as zero percent. -/
def percentage (used total : UInt64) : Float :=
  if total == 0 then 0 else used.toFloat / total.toFloat * 100

/-- The larger of two numbers; not a number as soon as one of them is not. -/
def floatMax (x y : Float) : Float :=
  if x.isNaN || y.isNaN then 0 / 0 else if x < y then y else x

/-- The value of a rule's metric in a sample or a probe result, if it has one.  A probe result
takes precedence, and the metric `online` exists only in the synthetic samples of the lifecycle
sweep, which carry no node id and hold the online bit in the field `cpu`. -/
def metricValue (metric : Metric) (sample : Option MetricSample) (result : Option ProbeResult) :
    Option Float :=
  match result, sample with
  | some result, _ =>
    match metric with
    | .probeSuccess => some (if result.success then 1 else 0)
    | .probeLatency => some result.latencyMS
    | .probeLoss => some result.lossPercent
    | _ => none
  | none, none => none
  | none, some sample =>
    match metric with
    | .online => if sample.nodeID == "" then some sample.cpu else none
    | .cpu => some sample.cpu
    | .memory => some (percentage sample.memoryUsed sample.memoryTotal)
    | .swap => some (percentage sample.swapUsed sample.swapTotal)
    | .load1 => some sample.load1
    | .load5 => some sample.load5
    | .load15 => some sample.load15
    | .disk => some (percentage sample.diskUsed sample.diskTotal)
    | .temperature => some sample.temperature
    | .gpu =>
      if 0 < sample.gpus.length then
        some (sample.gpus.foldl (fun value gpu => floatMax value gpu.utilization) 0)
      else none
    | .trafficSum => some (sample.monthlyRxBytes.toFloat + sample.monthlyTxBytes.toFloat)
    | .trafficUp => some sample.monthlyTxBytes.toFloat
    | .trafficDown => some sample.monthlyRxBytes.toFloat
    | .probeSuccess | .probeLatency | .probeLoss | .other _ => none

/-! ## Comparison -/

/-- Whether a value meets the condition of a rule. -/
def compare (value : Float) (operator : Operator) (threshold : Float) : Bool :=
  match operator with
  | .gt => decide (value > threshold)
  | .ge => decide (value ≥ threshold)
  | .lt => decide (value < threshold)
  | .le => decide (value ≤ threshold)
  | .eq => value == threshold
  | .other _ => false

/-- Whether a value ends an alert of a rule. -/
def recovered (value : Float) (rule : AlertRule) : Bool :=
  match rule.operator with
  | .gt | .ge => decide (value ≤ rule.recoveryThreshold)
  | .lt | .le => decide (value ≥ rule.recoveryThreshold)
  | .eq => value != rule.recoveryThreshold
  | .other _ => true

example : metricValue .memory (some { memoryTotal := 1000, memoryUsed := 925 }) none =
    some 92.5 := by decide

/-! ## Validation -/

/-- The longest duration and cooldown of a rule: thirty days. -/
def maxRuleSeconds : ℤ := 30 * 24 * 3600

/-- The check an alert rule has to pass before it is stored. -/
def validateAlertRule (rule : AlertRule) : Except String Unit :=
  if Text.trimSpace rule.name == "" || 128 < rule.name.utf8ByteSize then
    .error "rule name is required"
  else if rule.metric matches .other _ then
    .error "unsupported alert metric"
  else if rule.operator matches .other _ then
    .error "operator must be >, >=, <, <=, or =="
  else if rule.durationSeconds < 0 || maxRuleSeconds < rule.durationSeconds ||
      rule.cooldownSeconds < 0 || maxRuleSeconds < rule.cooldownSeconds then
    .error "duration and cooldown are out of range"
  else if !(["info", "warning", "critical"].contains rule.severity) then
    .error "severity must be info, warning, or critical"
  else if 1000 < rule.scope.nodeIDs.length || 100 < rule.scope.groups.length ||
      1000 < rule.scope.excluded.length then
    .error "alert scope is too large"
  else if rule.scope.groups.any fun group => 128 < group.utf8ByteSize then
    .error "alert scope group names must not exceed 128 characters"
  else .ok ()

/-- A stored rule has a duration and a cooldown between zero and thirty days. -/
lemma bounds_of_validateAlertRule {rule : AlertRule} (h : validateAlertRule rule = .ok ()) :
    (0 ≤ rule.durationSeconds ∧ rule.durationSeconds ≤ maxRuleSeconds) ∧
      0 ≤ rule.cooldownSeconds ∧ rule.cooldownSeconds ≤ maxRuleSeconds := by
  unfold validateAlertRule at h
  split_ifs at h with h₁ h₂ h₃ h₄
  simp only [Bool.or_eq_true, decide_eq_true_eq, not_or, not_lt] at h₄
  exact ⟨⟨h₄.1.1.1, h₄.1.1.2⟩, h₄.1.2, h₄.2⟩

end Hostpin
