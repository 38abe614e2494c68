import Hostpin.Foundation.Json
import Hostpin.Model.Types

/-!
# Messages between agent and server

An agent sends frames over a stream and reports over HTTP; the server answers with acks.  An ack
carries the configuration of the agent and, when the server has just read it, the list of probe
tasks.  A slice that was not read is absent, which an ack tells from an empty slice, but the member
`tasks` is left out of the JSON object in both cases: `decodeAgentAck_encodeAgentAck` says that an
ack arrives as it was sent except that an empty list of tasks arrives as an absent one.
-/

namespace Hostpin

open Json

/-! ## Data -/

/-- What an agent says about its host. -/
structure AgentIdentity where
  version : String := ""
  os : String := ""
  arch : String := ""
  hostname : String := ""
  cpuName : String := ""
  cpuCores : ℤ := 0
  virtualization : String := ""
  kernelVersion : String := ""
  ipv4 : String := ""
  ipv6 : String := ""
deriving DecidableEq, Inhabited

/-- The configuration of an agent. -/
structure AgentConfig where
  collectIntervalSeconds : ℤ := 0
  persistIntervalSeconds : ℤ := 0
  includeNICs : List String := []
  excludeNICs : List String := []
  includeMountpoints : List String := []
  enableGPU : Bool := false
  autoUpdate : Bool := false
  probeConcurrency : ℤ := 0
  configVersion : ℤ := 0
deriving DecidableEq, Inhabited

/-- The first frame of a stream. -/
structure AgentHello where
  type : String := ""
  protocolVersion : ℤ := 0
  installID : String := ""
  version : String := ""
  configVersion : ℤ := 0
  identity : AgentIdentity := {}
deriving DecidableEq, Inhabited

/-- The kind of a frame. -/
inductive FrameType where
  | hello
  | sample
  | heartbeat
  | probeResult
  | other (name : String)
      (unknown : name ∉ ["hello", "sample", "heartbeat", "probe_result"] := by decide)
deriving DecidableEq, Inhabited

/-- A frame of a stream. -/
structure AgentFrame where
  type : FrameType := .other ""
  sample : Option MetricSample := none
  probeResult : Option ProbeResult := none
  hello : Option AgentHello := none
deriving DecidableEq, Inhabited

/-- A report over HTTP. -/
structure AgentReport where
  identity : AgentIdentity := {}
  sample : Option MetricSample := none
  probeResults : List ProbeResult := []
deriving DecidableEq, Inhabited

/-- The kind of an ack. -/
inductive AckType where
  | hello
  | ack
  | error
  | other (name : String) (unknown : name ∉ ["hello", "ack", "error"] := by decide)
deriving DecidableEq, Inhabited

/-- The answer of the server to a frame or a report. -/
structure AgentAck where
  type : AckType := .other ""
  accepted : Bool := false
  persisted : Bool := false
  serverTime : Time := 0
  nextReportMS : ℤ := 0
  config : AgentConfig := {}
  tasks : Option (List ProbeTask) := none
  error : String := ""
deriving DecidableEq, Inhabited

/-! ## Names -/

/-- The name of a role. -/
def NodeRole.text : NodeRole → String
  | .monitor => "monitor"
  | .probe => "probe"
  | .other name _ => name

/-- The role with a name. -/
def NodeRole.ofText (name : String) : NodeRole :=
  if h : name ∈ ["monitor", "probe"] then (if name = "monitor" then .monitor else .probe)
  else .other name h

/-- The name of a kind of probe. -/
def ProbeType.text : ProbeType → String
  | .icmp => "icmp"
  | .tcp => "tcp"
  | .http => "http"
  | .dns => "dns"
  | .other name _ => name

/-- The kind of probe with a name. -/
def ProbeType.ofText (name : String) : ProbeType :=
  if h : name ∈ ["icmp", "tcp", "http", "dns"] then
    if name = "icmp" then .icmp else if name = "tcp" then .tcp
    else if name = "http" then .http else .dns
  else .other name h

/-- The name of a purpose. -/
def ProbePurpose.text : ProbePurpose → String
  | .custom => "custom"
  | .latency => "latency"
  | .carrierTelecom => "carrier.telecom"
  | .carrierUnicom => "carrier.unicom"
  | .carrierMobile => "carrier.mobile"
  | .other name _ => name

/-- The purpose with a name. -/
def ProbePurpose.ofText (name : String) : ProbePurpose :=
  if h : name ∈ ["custom", "latency", "carrier.telecom", "carrier.unicom", "carrier.mobile"] then
    if name = "custom" then .custom else if name = "latency" then .latency
    else if name = "carrier.telecom" then .carrierTelecom
    else if name = "carrier.unicom" then .carrierUnicom else .carrierMobile
  else .other name h

/-- The name of a kind of ack. -/
def AckType.text : AckType → String
  | .hello => "hello"
  | .ack => "ack"
  | .error => "error"
  | .other name _ => name

/-- The kind of ack with a name. -/
def AckType.ofText (name : String) : AckType :=
  if h : name ∈ ["hello", "ack", "error"] then
    if name = "hello" then .hello else if name = "ack" then .ack else .error
  else .other name h

/-- Roles as texts. -/
def NodeRole.codec : Codec NodeRole :=
  .named text ofText fun role => by
    cases role with
    | other name unknown => exact dif_neg unknown
    | _ => rfl

/-- Kinds of probes as texts. -/
def ProbeType.codec : Codec ProbeType :=
  .named text ofText fun type => by
    cases type with
    | other name unknown => exact dif_neg unknown
    | _ => rfl

/-- Purposes as texts. -/
def ProbePurpose.codec : Codec ProbePurpose :=
  .named text ofText fun purpose => by
    cases purpose with
    | other name unknown => exact dif_neg unknown
    | _ => rfl

/-- Kinds of acks as texts. -/
def AckType.codec : Codec AckType :=
  .named text ofText fun type => by
    cases type with
    | other name unknown => exact dif_neg unknown
    | _ => rfl

/-! ## Probe tasks -/

/-- The members of a probe task. -/
def probeTaskMembers (task : ProbeTask) : List (String × Option Json) :=
  [("id", Codec.int.always task.id), ("name", Codec.text.always task.name),
   ("type", ProbeType.codec.always task.type),
   ("target", Codec.text.always task.target),
   ("interval_seconds", Codec.int.always task.intervalSeconds),
   ("timeout_seconds", Codec.int.always task.timeoutSeconds),
   ("expected_status", Codec.int.omitempty 0 task.expectedStatus),
   ("expected_value", Codec.text.omitempty "" task.expectedValue),
   ("node_ids", Codec.text.list.omitempty [] task.nodeIDs),
   ("purpose", ProbePurpose.codec.omitempty .unset task.purpose),
   ("run_on", NodeRole.codec.omitempty (.other "") task.runOn),
   ("target_node_id", Codec.text.omitempty "" task.targetNodeID),
   ("public", Codec.bool.always task.isPublic), ("samples", Codec.int.always task.samples),
   ("enabled", Codec.bool.always task.enabled), ("created_at", Codec.time.always task.createdAt),
   ("updated_at", Codec.time.always task.updatedAt)]

/-- Read a probe task. -/
def decodeProbeTask (json : Json) : Option ProbeTask := do
  let id ← json.read .int 0 "id"
  let name ← json.read .text "" "name"
  let type ← json.read ProbeType.codec (.other "") "type"
  let target ← json.read .text "" "target"
  let intervalSeconds ← json.read .int 0 "interval_seconds"
  let timeoutSeconds ← json.read .int 0 "timeout_seconds"
  let expectedStatus ← json.read .int 0 "expected_status"
  let expectedValue ← json.read .text "" "expected_value"
  let nodeIDs ← json.read Codec.text.list [] "node_ids"
  let purpose ← json.read ProbePurpose.codec .unset "purpose"
  let runOn ← json.read NodeRole.codec (.other "") "run_on"
  let targetNodeID ← json.read .text "" "target_node_id"
  let isPublic ← json.read .bool false "public"
  let samples ← json.read .int 0 "samples"
  let enabled ← json.read .bool false "enabled"
  let createdAt ← json.read .time 0 "created_at"
  let updatedAt ← json.read .time 0 "updated_at"
  return { id, name, type, target, intervalSeconds, timeoutSeconds, expectedStatus, expectedValue,
           nodeIDs, purpose, runOn, targetNodeID, isPublic, samples, enabled, createdAt, updatedAt }

/-- Probe tasks as objects. -/
def ProbeTask.codec : Codec ProbeTask where
  encode := fun task => ofMembers (probeTaskMembers task)
  decode := decodeProbeTask
  decode_encode := by
    intro task
    have hnodup : ((probeTaskMembers task).map Prod.fst).Nodup := by simp [probeTaskMembers]
    simp only [decodeProbeTask, read_ofMembers hnodup]
    simp [probeTaskMembers, List.lookup]

/-! ## Configurations -/

/-- The members of a configuration. -/
def agentConfigMembers (config : AgentConfig) : List (String × Option Json) :=
  [("collect_interval_seconds", Codec.int.always config.collectIntervalSeconds),
   ("persist_interval_seconds", Codec.int.always config.persistIntervalSeconds),
   ("include_nics", Codec.text.list.omitempty [] config.includeNICs),
   ("exclude_nics", Codec.text.list.omitempty [] config.excludeNICs),
   ("include_mountpoints", Codec.text.list.omitempty [] config.includeMountpoints),
   ("enable_gpu", Codec.bool.always config.enableGPU),
   ("auto_update", Codec.bool.always config.autoUpdate),
   ("probe_concurrency", Codec.int.always config.probeConcurrency),
   ("config_version", Codec.int.always config.configVersion)]

/-- Read a configuration. -/
def decodeAgentConfig (json : Json) : Option AgentConfig := do
  let collectIntervalSeconds ← json.read .int 0 "collect_interval_seconds"
  let persistIntervalSeconds ← json.read .int 0 "persist_interval_seconds"
  let includeNICs ← json.read Codec.text.list [] "include_nics"
  let excludeNICs ← json.read Codec.text.list [] "exclude_nics"
  let includeMountpoints ← json.read Codec.text.list [] "include_mountpoints"
  let enableGPU ← json.read .bool false "enable_gpu"
  let autoUpdate ← json.read .bool false "auto_update"
  let probeConcurrency ← json.read .int 0 "probe_concurrency"
  let configVersion ← json.read .int 0 "config_version"
  return { collectIntervalSeconds, persistIntervalSeconds, includeNICs, excludeNICs,
           includeMountpoints, enableGPU, autoUpdate, probeConcurrency, configVersion }

/-- Configurations as objects. -/
def AgentConfig.codec : Codec AgentConfig where
  encode := fun config => ofMembers (agentConfigMembers config)
  decode := decodeAgentConfig
  decode_encode := by
    intro config
    have hnodup : ((agentConfigMembers config).map Prod.fst).Nodup := by simp [agentConfigMembers]
    simp only [decodeAgentConfig, read_ofMembers hnodup]
    simp [agentConfigMembers, List.lookup]

/-! ## Acks -/

/-- The members of an ack. -/
def agentAckMembers (ack : AgentAck) : List (String × Option Json) :=
  [("type", AckType.codec.always ack.type), ("accepted", Codec.bool.always ack.accepted),
   ("persisted", Codec.bool.always ack.persisted),
   ("server_time", Codec.time.always ack.serverTime),
   ("next_report_ms", Codec.int.omitempty 0 ack.nextReportMS),
   ("config", AgentConfig.codec.always ack.config),
   ("tasks", ProbeTask.codec.list.omitempty [] (ack.tasks.getD [])),
   ("error", Codec.text.omitempty "" ack.error)]

/-- Write an ack. -/
def encodeAgentAck (ack : AgentAck) : Json := ofMembers (agentAckMembers ack)

/-- Read an ack. -/
def decodeAgentAck (json : Json) : Option AgentAck := do
  let type ← json.read AckType.codec (.other "") "type"
  let accepted ← json.read .bool false "accepted"
  let persisted ← json.read .bool false "persisted"
  let serverTime ← json.read .time 0 "server_time"
  let nextReportMS ← json.read .int 0 "next_report_ms"
  let config ← json.read AgentConfig.codec {} "config"
  let tasks ← json.readOptional ProbeTask.codec.list "tasks"
  let error ← json.read .text "" "error"
  return { type, accepted, persisted, serverTime, nextReportMS, config, tasks, error }

/-- The tasks of an ack as they arrive: the empty list is left out. -/
def AgentAck.arrivingTasks (ack : AgentAck) : Option (List ProbeTask) :=
  if ack.tasks.getD [] = [] then none else some (ack.tasks.getD [])

/-- An ack arrives as it was sent, except that an empty list of tasks is left out. -/
theorem decodeAgentAck_encodeAgentAck (ack : AgentAck) :
    decodeAgentAck (encodeAgentAck ack) = some { ack with tasks := ack.arrivingTasks } := by
  have hnodup : ((agentAckMembers ack).map Prod.fst).Nodup := by simp [agentAckMembers]
  have htasks : (ofMembers (agentAckMembers ack)).readOptional ProbeTask.codec.list "tasks" =
      some ack.arrivingTasks := by
    have hmember : (ofMembers (agentAckMembers ack)).member? "tasks" =
        ProbeTask.codec.list.omitempty [] (ack.tasks.getD []) := by
      rw [member?_ofMembers hnodup]
      simp [agentAckMembers, List.lookup]
    rw [readOptional, hmember, Codec.omitempty, AgentAck.arrivingTasks]
    split_ifs
    · rfl
    · simp only [Codec.decode_encode, Option.map_some]
  simp only [decodeAgentAck, encodeAgentAck, read_ofMembers hnodup, htasks]
  simp [agentAckMembers, List.lookup]

end Hostpin
