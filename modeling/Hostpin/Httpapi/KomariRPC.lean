import Hostpin.Httpapi.KomariMetrics

/-!
# Remote procedure calls

The calls that themes make, one by one, in a batch or over a WebSocket.  `callRPC` is the call
itself and `dispatchRPC` what stands in front of it: on a private site only a few methods are open
to everybody.
-/

namespace Hostpin

open Clock Procedure Text

/-! ## Methods -/

/-- The methods. -/
inductive RPCMethod where
  | ping
  | version
  | methods
  | getNodes
  | getPublicInfo
  | getVersion
  | getMe
  | getNodesLatestStatus
  | getNodeRecentStatus
  | getRecords
  | publicGetMe
  | publicGetNodesInformation
  | publicGetNodesLatestStatus
  | publicGetPublicSettings
  | publicGetVersion
  | publicGetClientRecentRecords
  | publicGetRecordsByUUID
  | publicGetPingRecords
  | publicGetPublicPingTasks
  | publicListMetricDefinitions
  | publicQueryMetrics
  | publicGetPingMetricStats
deriving DecidableEq

namespace RPCMethod

/-- The methods with their names. -/
def table : List (RPCMethod × String) :=
  [(.ping, "rpc.ping"), (.version, "rpc.version"), (.methods, "rpc.methods"),
   (.getNodes, "common:getNodes"), (.getPublicInfo, "common:getPublicInfo"),
   (.getVersion, "common:getVersion"), (.getMe, "common:getMe"),
   (.getNodesLatestStatus, "common:getNodesLatestStatus"),
   (.getNodeRecentStatus, "common:getNodeRecentStatus"), (.getRecords, "common:getRecords"),
   (.publicGetMe, "public:getMe"), (.publicGetNodesInformation, "public:getNodesInformation"),
   (.publicGetNodesLatestStatus, "public:getNodesLatestStatus"),
   (.publicGetPublicSettings, "public:getPublicSettings"),
   (.publicGetVersion, "public:getVersion"),
   (.publicGetClientRecentRecords, "public:getClientRecentRecords"),
   (.publicGetRecordsByUUID, "public:getRecordsByUUID"),
   (.publicGetPingRecords, "public:getPingRecords"),
   (.publicGetPublicPingTasks, "public:getPublicPingTasks"),
   (.publicListMetricDefinitions, "public:listMetricDefinitions"),
   (.publicQueryMetrics, "public:queryMetrics"),
   (.publicGetPingMetricStats, "public:getPingMetricStats")]

/-- The method with a name. -/
def ofName (name : String) : Option RPCMethod :=
  (table.find? fun entry => entry.2 = name).map (·.1)

/-- The names of the positional parameters. -/
def positionalKeys : RPCMethod → List String
  | .getNodes | .getNodeRecentStatus | .publicGetClientRecentRecords => ["uuid"]
  | .publicGetRecordsByUUID => ["uuid", "load_type", "hours"]
  | .publicGetPingRecords => ["uuid", "task_id", "hours"]
  | _ => []

end RPCMethod

/-- The names of the methods. -/
def supportedRPCMethods : List String := RPCMethod.table.map (·.2)

/-- The methods that a private site offers to everybody. -/
def loginMethods : List String :=
  ["rpc.ping", "rpc.version", "public:getMe", "public:getPublicSettings", "public:getVersion",
   "common:getPublicInfo", "common:getVersion", "common:getMe"]

/-! ## Calls -/

/-- The result of a call. -/
inductive RPCResult where
  | pong
  | rpcVersion
  | methods (names : List String)
  | publicSettings (data : KomariPublicSettings)
  | version (version hash : String)
  | me (username : String) (loggedIn : Bool)
  | node (data : KomariNode)
  | nodes (data : List KomariNode)
  | nodeMap (data : List (String × KomariNode))
  | status (data : KomariLatest)
  | statuses (data : List (String × KomariLatest))
  | recent (records : List KomariStatus)
  | countedRecent (records : List KomariStatus)
  | load (data : LoadRecords)
  | ping (data : KomariProbeRecords)
  | tasks (data : List KomariTask)
  | definitions (data : List KomariMetricDefinition)
  | metrics (data : MetricAnswer)
  | pingStats (data : PingStatsAnswer)

/-- Why there is no result. -/
inductive RPCFailure where
  | methodNotFound
  | message (text : String)
deriving DecidableEq

/-- What a call returns. -/
abbrev RPCReturn := Except RPCFailure RPCResult

/-- A result or what was wrong with the request. -/
def complain {α : Type} (result : α → RPCResult) : Except Complaint α → RPCReturn
  | .ok data => .ok (result data)
  | .error text => .error (.message text)

/-- A result or why the store failed. -/
def failing {α : Type} (result : α → RPCReturn) : Except StoreError α → RPCReturn
  | .ok data => result data
  | .error e => .error (.message e.text)

/-- The node that was asked for. -/
def nodeFound (result : Option RPCResult) : RPCReturn :=
  match result with
  | some result => .ok result
  | none => .error (.message "node not found")

section Calls

variable (P : Platform) (clock : Time)

/-- The parameters of a call; positional ones get their names. -/
def rpcParams (method : RPCMethod) : Param → Params
  | .object members => members
  | .array values => method.positionalKeys.zip values
  | _ => []

/-- The settings. -/
def rpcPublicSettings : Serve RPCReturn := do
  match ← call .siteSettings with
  | .error e => return .error (.message e.text)
  | .ok settings => return .ok (.publicSettings (← komariPublicSettings settings))

/-- The nodes that a call returns. -/
def rpcNodesResult (params : Params) (information : Bool) (nodes : List KomariNode) : RPCReturn :=
  let nodes := if information then nodes.map fun node => { node with secrets := none } else nodes
  let nodeID := stringParam P params "uuid"
  if nodeID ≠ "" then nodeFound ((nodes.find? (·.uuid = nodeID)).map .node)
  else if information then .ok (.nodes nodes)
  else .ok (.nodeMap (nodes.map fun node => (node.uuid, node)))

/-- The nodes. -/
def rpcNodes (params : Params) (authenticated information : Bool) : Serve RPCReturn := do
  return failing (rpcNodesResult P params information) (← komariNodes P authenticated)

/-- The states that a call returns. -/
def rpcStatusesResult (params : Params) (statuses : List (String × KomariLatest)) : RPCReturn :=
  let nodeID := firstNonEmpty [stringParam P params "uuid", stringParam P params "entity_id"]
  let requested := stringSliceParam P params "uuids"
  if nodeID ≠ "" then nodeFound ((statuses.lookup nodeID).map .status)
  else if requested ≠ [] then
    .ok (.statuses (requested.eraseDups.filterMap fun id =>
      (statuses.lookup id).map fun status => (id, status)))
  else .ok (.statuses statuses)

/-- The latest states. -/
def rpcStatuses (params : Params) (authenticated : Bool) : Serve RPCReturn := do
  return failing (rpcStatusesResult P params) (← komariLatest P clock authenticated)

/-- The states of a node in the last minute. -/
def rpcRecent (params : Params) (authenticated : Bool)
    (result : List KomariStatus → RPCResult) : Serve RPCReturn := do
  let nodeID := stringParam P params "uuid"
  match ← ensureVisibleNode nodeID authenticated with
  | .error e => return .error (.message e)
  | .ok () =>
    match ← call (.recentMetrics nodeID (clock - minute)) with
    | .error e => return .error (.message e.text)
    | .ok records => return .ok (result (records.map (komariStatus P · true)))

/-- The states of a node over some hours. -/
def rpcLoadRecords (params : Params) (authenticated : Bool) (hours : Float) (maxPoints : ℤ) :
    Serve RPCReturn := do
  return complain .load (← komariLoadRecords P clock authenticated (stringParam P params "uuid")
    (numberParam P params "hours" hours) maxPoints)

/-- The query for the results of probes. -/
def probeRecordsQuery (params : Params) : ProbeQuery where
  nodeID := stringParam P params "uuid"
  taskID := P.toInt64 (numberParam P params "task_id" 0)
  start := hoursBefore P clock (numberParam P params "hours" 4)
  endAt := clock
  limit := P.toInt64 (numberParam P params "maxCount" 4000)

/-- The results of the probes of a node, or of all nodes when no node is named. -/
def rpcProbeRecords (params : Params) (authenticated : Bool) : Serve RPCReturn := do
  let nodeID := stringParam P params "uuid"
  match ← (if nodeID = "" then pure (.ok ()) else ensureVisibleNode nodeID authenticated) with
  | .error e => return .error (.message e)
  | .ok () =>
    match ← call (.probeHistory (probeRecordsQuery P clock params)) with
    | .error e => return .error (.message e.text)
    | .ok records =>
      match ← filterVisibleProbeRecords records authenticated with
      | .error e => return .error (.message e.text)
      | .ok records => return .ok (.ping (← komariProbeRecords P records authenticated))

/-- The tasks. -/
def rpcPingTasks (authenticated : Bool) : Serve RPCReturn := do
  return failing (fun tasks => .ok (.tasks (komariTaskList tasks))) (← visibleTasks authenticated)

/-- A call of a method. -/
def callMethod (method : RPCMethod) (params : Params) (authenticated : Bool) : Serve RPCReturn :=
  match method with
  | .ping => return .ok .pong
  | .version => return .ok .rpcVersion
  | .methods => return .ok (.methods supportedRPCMethods)
  | .getPublicInfo | .publicGetPublicSettings => rpcPublicSettings
  | .getVersion | .publicGetVersion => return .ok (.version P.version P.commit)
  | .getMe | .publicGetMe =>
    return .ok (if authenticated then .me "admin" true else .me "Guest" false)
  | .getNodes => rpcNodes P params authenticated false
  | .publicGetNodesInformation => rpcNodes P params authenticated true
  | .getNodesLatestStatus | .publicGetNodesLatestStatus => rpcStatuses P clock params authenticated
  | .getNodeRecentStatus => rpcRecent P clock params authenticated .countedRecent
  | .publicGetClientRecentRecords => rpcRecent P clock params authenticated .recent
  | .getRecords =>
    if stringParam P params "type" = "ping" then rpcProbeRecords P clock params authenticated
    else rpcLoadRecords P clock params authenticated 1
      (P.toInt64 (numberParam P params "maxCount" 4000))
  | .publicGetRecordsByUUID => rpcLoadRecords P clock params authenticated 4 4000
  | .publicGetPingRecords => rpcProbeRecords P clock params authenticated
  | .publicGetPublicPingTasks => rpcPingTasks authenticated
  | .publicListMetricDefinitions => return .ok (.definitions komariMetricDefinitions)
  | .publicQueryMetrics => do
    return complain .metrics (← rpcQueryMetrics P params clock authenticated)
  | .publicGetPingMetricStats => do
    return complain .pingStats (← rpcPingStats P params clock authenticated)

/-- A call of the method with a name. -/
def callRPC (method : String) (raw : Param) (authenticated : Bool) : Serve RPCReturn :=
  match RPCMethod.ofName method with
  | none => return .error .methodNotFound
  | some method => callMethod P clock method (rpcParams method raw) authenticated

end Calls

/-! ## Dispatch -/

/-- A request. -/
structure RPCRequest where
  jsonrpc : String := "2.0"
  id : Param := .null
  method : String
  params : Param := .null

/-- The answer to a request: a result, or the code and the message of an error. -/
inductive RPCResponse where
  | result (id : Param) (data : RPCResult)
  | error (id : Param) (code : ℤ) (message : String)

/-- What a call returns as an answer. -/
def RPCReturn.response (id : Param) : RPCReturn → RPCResponse
  | .ok result => .result id result
  | .error .methodNotFound => .error id (-32601) "Method not found"
  | .error (.message text) => .error id (-32602) text

/-- The answer to a request. -/
def dispatchRPC (P : Platform) (cookie : Option String) (clock : Time) (request : RPCRequest) :
    Serve RPCResponse := do
  if request.jsonrpc ≠ "2.0" ∨ request.method = "" then
    return .error request.id (-32600) "Invalid Request"
  else
    let access ← komariAccess P cookie clock
    -- The error of the second read is dropped; the settings are the zero value then.
    let settings := (← call .siteSettings).toOption.getD {}
    if !access.toOption.isSome && settings.isPrivate && request.method ∉ loginMethods then
      return .error request.id 403 "Private site enabled, please login first"
    else
      let returned ← callRPC P clock request.method request.params (access.toOption.getD false)
      return RPCReturn.response request.id returned

/-- The answers to some requests, each at its time: the ones of a batch, or the messages of a
WebSocket. -/
def dispatchAll (P : Platform) (cookie : Option String) (requests : List (Time × RPCRequest)) :
    Serve (List RPCResponse) :=
  each (fun request => dispatchRPC P cookie request.1 request.2) requests

/-- What a client sends: something that is no JSON, JSON that is no request, one request, a batch,
or the messages of a WebSocket, where those that are no requests are skipped. -/
inductive RPCBody where
  | malformed
  | invalid
  | single (clock : Time) (request : RPCRequest)
  | batch (requests : List (Time × RPCRequest))
  | webSocket (messages : List (Option (Time × RPCRequest)))

/-- The answers to what a client sends. -/
def handleRPC2 (P : Platform) (cookie : Option String) : RPCBody → Serve (List RPCResponse)
  | .malformed => return [.error .null (-32700) "Parse error"]
  | .invalid => return [.error .null (-32600) "Invalid Request"]
  | .single clock request => dispatchAll P cookie [(clock, request)]
  | .batch [] => return [.error .null (-32600) "Invalid Request"]
  | .batch requests => dispatchAll P cookie requests
  | .webSocket messages => dispatchAll P cookie (messages.filterMap id)

end Hostpin
