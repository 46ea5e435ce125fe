import CodexMustWork.McpArguments

/-!
# Dispatching MCP requests

`scripts/mcp_dispatch.py`, with the results of `scripts/mcp_server_tools.py` and
the launcher of `scripts/notification_setup.py`: one line of the client, handled
by a server around the resident service, the activation tickets, the threshold
settings and the setup page.

Handling keeps a list of what was performed: the daemon operations and the setup
starts that were called, the tickets that were consumed and the settings that
were written.
-/

namespace CodexMustWork

/-! ### Results -/

/-- The text of a result: its payload rendered, or a message. -/
inductive ToolContent where
  | payload (values : JsonObject)
  | message (text : String)

structure ToolAnswer where
  content : ToolContent
  structuredContent : JsonObject
  isError : Bool

def jsonText (text : String) : Json := .text (some text)

def SessionStatus.value : SessionStatus → String
  | .active => "active"
  | .degraded => "degraded"
  | .unavailable => "unavailable"
  | .inactive => "inactive"
  | .stopped => "stopped"
  | .completed => "completed"

/-- A successful answer with a payload. -/
def payloadAnswer (payload : JsonObject) : ToolAnswer := ⟨.payload payload, payload, false⟩

/-- Serialize a daemon result without exposing private state. -/
def toolSuccess (result : ToolResult) : ToolAnswer :=
  payloadAnswer <|
    [("session_id", jsonText result.sessionId), ("status", jsonText result.status.value),
      ("enabled", .bool result.enabled)] ++
      (result.reused.map fun reused => ("reused", Json.bool reused)).toList

/-- Serialize one public daemon failure for MCP clients. -/
def toolError (message : String) : ToolAnswer :=
  ⟨.message message, [("error", jsonText message)], true⟩

/-- The public result of one local setup page. -/
structure NotificationSetupLaunch where
  setupUrl : String
  expiresInSeconds : Nat
deriving DecidableEq, Repr

/-- Serialize only the temporary loopback URL and its lifetime. -/
def notificationSetupSuccess (launch : NotificationSetupLaunch) : ToolAnswer :=
  payloadAnswer [("status", jsonText "ready"), ("setup_url", jsonText launch.setupUrl),
    ("expires_in_seconds", .integer launch.expiresInSeconds),
    ("restart_recommended_after_save", .bool true)]

/-- Serialize one secret-free threshold selection. -/
def thresholdSettingsSuccess (selected : ThresholdSettingsSnapshot) : ToolAnswer :=
  payloadAnswer [("status", jsonText "ready"), ("mode", jsonText selected.mode.value),
    ("warning_after_ms", .integer selected.pair.warningAfterMs),
    ("critical_after_ms", .integer selected.pair.criticalAfterMs)]

def stateUnavailable : String := "monitoring_state_unavailable"

/-! ### Exceptions -/

/-- The exceptions that meet an `except` arm of the dispatcher, or none. -/
inductive Raised where
  | jsonRpc (error : JsonRpcError)
  | service (error : ServiceError)
  | ticket (error : TicketError)
  | settings (error : ThresholdSettingsError)
  | storage (failure : StorageFailure)
  | recursionError
  | typeError
  | assertionError

/-- The reason of a `DaemonServiceError`; the other exceptions of the service have none. -/
def ServiceError.reasonCode : ServiceError → Option String
  | .monitoringStateUnavailable => some stateUnavailable
  | .daemonClosed => some "daemon_closed"
  | .monitoringReconfigurationRequiresWorkOff =>
      some "monitoring_reconfiguration_requires_work_off"
  | .transcriptPathInvalid => some "transcript_path_invalid"
  | .schedulerUnavailable | .sinkRaised | .recursionError => none

/-- The reason of an `ActivationTicketError`; the other exceptions of a store have none. -/
def TicketError.reasonCode : TicketError → Option String
  | .required => some "work_on_authorization_required"
  | .expired => some "work_on_authorization_expired"
  | .mismatch => some "work_on_authorization_mismatch"
  | .invalid => some "work_on_authorization_state_invalid"
  | .controlSessionInvalid | .nonAsciiComparison => none

/-- The `try` statement of `_call_control`. -/
def controlAnswer : Except Raised ToolResult → Except Raised ToolAnswer
  | .ok result => .ok (toolSuccess result)
  | .error (.service error) =>
      match error.reasonCode with
      | some reason => .ok (toolError reason)
      | none => .error (.service error)
  | .error (.ticket error) =>
      match error.reasonCode with
      | some reason => .ok (toolError reason)
      | none => .error (.ticket error)
  | .error raised => .error raised

/-- The `try` statement of `call_threshold_settings`. -/
def settingsAnswer : Except Raised ThresholdSettingsSnapshot → Except Raised ToolAnswer
  | .ok selected => .ok (thresholdSettingsSuccess selected)
  | .error (.settings error) => .ok (toolError error.reasonCode)
  | .error (.storage .stateError) => .ok (toolError stateUnavailable)
  | .error raised => .error raised

/-- The `try` statement of `_call_notification_setup`. -/
def setupAnswer : Except StorageFailure NotificationSetupLaunch → Except Raised ToolAnswer
  | .ok launch => .ok (notificationSetupSuccess launch)
  | .error _ => .ok (toolError stateUnavailable)

/-! ### The server -/

/-- The temporary listener: its page and its deadline. -/
structure NotificationSetupCoordinator where
  launch : Option NotificationSetupLaunch := none
  deadline : Int := 0

/-- What one setup start meets: the clock, whether the thread of the current page is
    alive, the address of a new page, and an exception of its listener. -/
structure SetupEnvironment where
  now : Int := 0
  alive : Bool := false
  setupUrl : String := ""
  listener : Option StorageFailure := none

def setupTtlSeconds : Nat := 300

/-- Start or reuse the one active setup page. -/
def NotificationSetupCoordinator.start (env : SetupEnvironment)
    (setup : NotificationSetupCoordinator) :
    NotificationSetupCoordinator × Except StorageFailure NotificationSetupLaunch :=
  match (if env.alive ∧ env.now < setup.deadline then setup.launch else none) with
  | some launch => (setup, .ok launch)
  | none =>
      match env.listener with
      | some failure => (setup, .error failure)
      | none =>
          let launch := ⟨env.setupUrl, setupTtlSeconds⟩
          (⟨some launch, env.now + setupTtlSeconds⟩, .ok launch)

/-- The dispatcher and what it controls. -/
structure McpServer where
  service : NotificationDaemon
  tickets : ActivationTicketStore
  settings : ThresholdSettingsFiles
  notificationSetup : Option NotificationSetupCoordinator
  initializeReceived : Bool := false
  ready : Bool := false

/-- An operation with an effect. -/
inductive Operation where
  | start (request : StartRequest)
  | stop (sessionId : String)
  | complete (sessionId : String)
  | consume (identity : ActivationIdentity)
  | writeSettings (selected : ThresholdSettingsSnapshot)
  | startSetup

/-- The server while it handles a line, with what was performed. -/
structure Handling where
  server : McpServer
  performed : List Operation

/-- What handling one line meets below the dispatcher. -/
structure LineEnvironment where
  wallTime : Int
  start : StartFaults
  mark : MutationFaults
  remove : RemoveFaults
  tick : TickEnvironment
  ticketTime : Int
  tickets : TicketFaults
  settings : SettingsFaults
  setup : SetupEnvironment

/-- The parts of the interpreter the dispatcher uses: `json.loads`, and `str(Path(text))`. -/
structure PythonLibrary where
  parseJson : String → JsonText
  renderPath : String → String

/-- What a dispatched request returns. -/
inductive McpResult where
  | empty
  | initialized (protocol : String)
  | tools (includeNotificationSetup : Bool)
  | tool (answer : ToolAnswer)

namespace McpServer

variable (library : PythonLibrary) (H : Digest) (key : ControlKey) (env : LineEnvironment)

/-! #### Operations -/

/-- Call one operation of the service. -/
def onService (operation : Operation)
    (call : NotificationDaemon → NotificationDaemon × Except ServiceError ToolResult)
    (handling : Handling) : Handling × Except Raised ToolResult :=
  let (service, outcome) := call handling.server.service
  (⟨{ handling.server with service }, handling.performed ++ [operation]⟩,
    outcome.mapError .service)

def serviceStart (request : StartRequest) : Handling → Handling × Except Raised ToolResult :=
  onService (.start request) fun service => service.start H env.start env.wallTime request

def serviceStop (sessionId : String) : Handling → Handling × Except Raised ToolResult :=
  onService (.stop sessionId) fun service => service.stop H env.remove sessionId

def serviceComplete (sessionId : String) : Handling → Handling × Except Raised ToolResult :=
  onService (.complete sessionId) fun service =>
    let (service, _, outcome) := service.complete H ⟨env.mark, env.remove⟩ env.tick sessionId
    (service, outcome)

def serviceStatus (sessionId : String) (handling : Handling) :
    Handling × Except Raised ToolResult :=
  (handling, (handling.server.service.status H sessionId).mapError .service)

/-- A ticket was consumed when its file is another one, whatever the call raised then. -/
def consumed (H : Digest) (identity : ActivationIdentity) (before after : ActivationTicketStore) :
    List Operation :=
  if after (ticketName H identity.sessionId) = before (ticketName H identity.sessionId) then []
  else [.consume identity]

/-- `self._activation_tickets.consume`. -/
def consumeTicket (identity : ActivationIdentity) (capability : String) (handling : Handling) :
    Handling × Except Raised Unit :=
  let (tickets, outcome) := ActivationTicketStore.consume H key env.tickets env.ticketTime
    handling.server.tickets identity capability
  (⟨{ handling.server with tickets },
    handling.performed ++ consumed H identity handling.server.tickets tickets⟩,
    outcome.mapError .ticket)

def raisedBySettings : SettingsFailure → Raised
  | .settings error => .settings error
  | .storage failure _ => .storage failure

/-- The write of a set operation that raised. -/
def writtenBySettings : SettingsFailure → List Operation
  | .settings _ => []
  | .storage _ saved => (saved.map .writeSettings).toList

/-- Call one set operation of the settings store. -/
def onSettings
    (call : ThresholdSettingsFiles →
      ThresholdSettingsFiles × Except SettingsFailure ThresholdSettingsSnapshot)
    (handling : Handling) : Handling × Except Raised ThresholdSettingsSnapshot :=
  let (settings, outcome) := call handling.server.settings
  let server := { handling.server with settings }
  match outcome with
  | .error failure =>
      (⟨server, handling.performed ++ writtenBySettings failure⟩,
        .error (raisedBySettings failure))
  | .ok selected => (⟨server, handling.performed ++ [.writeSettings selected]⟩, .ok selected)

/-- `settings.load`. -/
def showSettings (handling : Handling) : Handling × Except Raised ThresholdSettingsSnapshot :=
  (handling,
    (ThresholdSettingsStore.load env.settings handling.server.settings).mapError raisedBySettings)

/-! #### Tools -/

/-- The body of the `try` statement of `_call_control`. -/
def control (name : String) (arguments : JsonObject) (request : JsonRpcRequest)
    (authorized : AuthorizedSession) (handling : Handling) :
    Handling × Except Raised ToolResult :=
  if name = "cmw.work_on" then
    match parseStartRequest arguments request.requestId library.renderPath with
    | .error error => (handling, .error (.jsonRpc error))
    | .ok parsed =>
        match consumeTicket H key env
            ⟨authorized.sessionId, parsed.activationTurnId, parsed.request.transcriptPath⟩
            authorized.capability handling with
        | (handling, .error raised) => (handling, .error raised)
        | (handling, .ok _) => serviceStart H env parsed.request handling
  else if name = "cmw.stop" then
    match parseSessionRequest arguments request.requestId with
    | .error error => (handling, .error (.jsonRpc error))
    | .ok sessionId => serviceStop H env sessionId.val handling
  else if name = "cmw.status" then
    match parseSessionRequest arguments request.requestId with
    | .error error => (handling, .error (.jsonRpc error))
    | .ok sessionId => serviceStatus H sessionId.val handling
  else if name = "cmw.complete" then
    match parseSessionRequest arguments request.requestId with
    | .error error => (handling, .error (.jsonRpc error))
    | .ok sessionId => serviceComplete H env sessionId.val handling
  else (handling, .error .assertionError)

/-- `_call_control`. -/
def callControl (name : String) (arguments : JsonObject) (request : JsonRpcRequest)
    (authorized : AuthorizedSession) (handling : Handling) :
    Handling × Except Raised ToolAnswer :=
  let (handling, outcome) := control library H key env name arguments request authorized handling
  (handling, controlAnswer outcome)

/-- `_apply_threshold_action`. -/
def applyThresholdAction (action : SettingsAction) (arguments : JsonObject)
    (requestId : Option JsonRpcId) (handling : Handling) :
    Handling × Except Raised ThresholdSettingsSnapshot :=
  match action with
  | .show => showSettings env handling
  | .default => onSettings (ThresholdSettingsStore.setDefault env.settings) handling
  | .recommended => onSettings (ThresholdSettingsStore.setRecommended env.settings) handling
  | .custom =>
      match settingsInteger arguments requestId "warning_after_ms" with
      | .error error => (handling, .error (.jsonRpc error))
      | .ok warning =>
          match settingsInteger arguments requestId "critical_after_ms" with
          | .error error => (handling, .error (.jsonRpc error))
          | .ok critical =>
              onSettings (fun files => ThresholdSettingsStore.setCustom env.settings files
                warning.val critical.val) handling

/-- `call_threshold_settings`. -/
def callThresholdSettings (arguments : JsonObject) (requestId : Option JsonRpcId)
    (handling : Handling) : Handling × Except Raised ToolAnswer :=
  match validateSettings arguments requestId with
  | .error error => (handling, .error (.jsonRpc error))
  | .ok action =>
      let (handling, outcome) := applyThresholdAction env action arguments requestId handling
      (handling, settingsAnswer outcome)

/-- `self._notification_setup.start`. -/
def startSetup (setup : NotificationSetupCoordinator) (handling : Handling) :
    Handling × Except Raised ToolAnswer :=
  let (setup, outcome) := setup.start env.setup
  (⟨{ handling.server with notificationSetup := some setup },
    handling.performed ++ [.startSetup]⟩, setupAnswer outcome)

/-- `_call_notification_setup`. -/
def callNotificationSetup (arguments : JsonObject) (request : JsonRpcRequest)
    (handling : Handling) : Handling × Except Raised ToolAnswer :=
  if !membersAmong arguments sessionKeys then
    (handling, .error (.jsonRpc (invalidParams request.requestId)))
  else
    match handling.server.notificationSetup with
    | none => (handling, .error (.jsonRpc (invalidRequest request.requestId)))
    | some setup => startSetup env setup handling

/-- The name and the arguments `_call_tool` accepts. -/
def toolOfParams (request : JsonRpcRequest) : Except JsonRpcError (String × JsonObject) :=
  match getMember request.params "name",
      (getMember request.params "arguments").getD (.object []) with
  | some (.text (some name)), .object arguments =>
      if name ∈ controlTools then .ok (name, arguments)
      else .error (invalidRequest request.requestId)
  | _, _ => .error (invalidRequest request.requestId)

/-- `_call_tool`. -/
def callTool (request : JsonRpcRequest) (handling : Handling) :
    Handling × Except Raised ToolAnswer :=
  match toolOfParams request with
  | .error error => (handling, .error (.jsonRpc error))
  | .ok (name, arguments) =>
      match requireAuthorized arguments request.requestId key with
      | .error error => (handling, .error (.jsonRpc error))
      | .ok authorized =>
          if name = "cmw.notifications.setup" then
            callNotificationSetup env arguments request handling
          else if name = "cmw.settings" then
            callThresholdSettings env arguments request.requestId handling
          else callControl library H key env name arguments request authorized handling

/-! #### Requests -/

/-- `_initialize`. -/
def initializeSession (request : JsonRpcRequest) (handling : Handling) :
    Handling × Except Raised McpResult :=
  if request.isNotification ∨ request.requestId = none then
    (handling, .error (.jsonRpc ⟨-32600, "Initialize must be a request", none, none⟩))
  else if handling.server.initializeReceived then
    (handling, .error (.jsonRpc ⟨-32600, "Already initialized", request.requestId, none⟩))
  else
    match getMember request.params "protocolVersion" with
    | some (.text (some requested)) =>
        if requested = "" then (handling, .error (.jsonRpc (invalidParams request.requestId)))
        else
          ({ handling with server := { handling.server with initializeReceived := true } },
            .ok (.initialized (negotiateProtocol requested)))
    | _ => (handling, .error (.jsonRpc (invalidParams request.requestId)))

def notInitialized (requestId : Option JsonRpcId := none) : JsonRpcError :=
  { code := -32002, message := "Server not initialized", requestId }

/-- `_dispatch`. -/
def dispatch (request : JsonRpcRequest) (handling : Handling) :
    Handling × Except Raised McpResult :=
  if request.method = "initialize" then initializeSession request handling
  else if request.method = "notifications/initialized" then
    if !handling.server.initializeReceived then (handling, .error (.jsonRpc notInitialized))
    else ({ handling with server := { handling.server with ready := true } }, .ok .empty)
  else if request.method = "ping" then (handling, .ok .empty)
  else if !handling.server.ready then
    (handling, .error (.jsonRpc (notInitialized request.requestId)))
  else if request.method = "tools/list" then
    (handling, .ok (.tools handling.server.notificationSetup.isSome))
  else if request.method = "tools/call" then
    let (handling, outcome) := callTool library H key env request handling
    (handling, outcome.map .tool)
  else (handling, .error (.jsonRpc (invalidRequest request.requestId)))

/-- The answer to a dispatched request. -/
def answer (request : JsonRpcRequest) :
    Except Raised McpResult → Except Raised (Option (JsonRpcResponse McpResult))
  | .ok result =>
      if request.isNotification then .ok none
      else
        match request.requestId with
        | none => .ok (some (errorResponse invalidRequest))
        | some requestId => .ok (some (.success requestId result))
  | .error (.jsonRpc error) =>
      if request.isNotification then .ok none else .ok (some (errorResponse error))
  | .error raised => .error raised

/-- Handle one line and respond only when JSON-RPC requires it. -/
def handleLine (rawLine : Option String) (server : McpServer) :
    Handling × Except Raised (Option (JsonRpcResponse McpResult)) :=
  let handling : Handling := ⟨server, []⟩
  match decodeRequest library.parseJson rawLine with
  | .error (.jsonRpc error) => (handling, .ok (some (errorResponse error)))
  | .error .recursionError => (handling, .error .recursionError)
  | .error .typeError => (handling, .error .typeError)
  | .ok request =>
      let (handling, outcome) := dispatch library H key env request handling
      (handling, answer request outcome)

end McpServer

end CodexMustWork
