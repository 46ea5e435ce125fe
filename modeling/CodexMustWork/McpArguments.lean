import CodexMustWork.ActivationTickets
import CodexMustWork.McpProtocol
import CodexMustWork.NotificationDaemon
import CodexMustWork.ThresholdSettings

/-!
# The arguments of a tool call

`scripts/mcp_arguments.py`, the validation in `scripts/mcp_threshold_settings.py`
and `require_authorized`.  Each parser reads the untrusted object of one call
and returns what it admitted, or raises the JSON-RPC error of the request.
-/

namespace CodexMustWork

def maxToolTextChars : Nat := 65536

def maxThresholdMs : Nat := 604800000

/-- A text within the advertised bounds. -/
abbrev ToolText := { text : String // text ≠ "" ∧ text.length ≤ maxToolTextChars }

/-- A duration within the advertised bounds. -/
abbrev ToolDuration := { duration : Nat // 0 < duration ∧ duration ≤ maxThresholdMs }

def legacyRestartKeys : List String :=
  ["auto_restart", "goal_companion", "message_preset", "observe_only", "permission_mode",
    "restart_after_ms"]

def startKeys : List String :=
  ["session_id", "transcript_path", "activation_turn_id", "warning_after_ms", "critical_after_ms"]

def sessionKeys : List String := ["session_id"]

def settingsKeys : List String := ["session_id", "action", "warning_after_ms", "critical_after_ms"]

/-- `key in values`. -/
def hasMember (values : JsonObject) (key : String) : Bool := (getMember values key).isSome

/-- `set(values).issubset(allowed)`. -/
def membersAmong (values : JsonObject) (allowed : List String) : Bool :=
  values.all fun member => decide (member.1 ∈ allowed)

section Parsers

variable (values : JsonObject) (requestId : Option JsonRpcId)

/-- `_required_text`. -/
def requiredText (key : String) : Except JsonRpcError ToolText :=
  let value := getMember values key
  let reason := if (value.getD .null).truthy then key ++ "_invalid" else key ++ "_missing"
  match value with
  | some (.text (some text)) =>
      if hbounds : text ≠ "" ∧ text.length ≤ maxToolTextChars then .ok ⟨text, hbounds⟩
      else .error (invalidParams requestId (some reason))
  | _ => .error (invalidParams requestId (some reason))

/-- `_reject_unknown`. -/
def rejectUnknown (allowed : List String) : Except JsonRpcError Unit :=
  if membersAmong values allowed then .ok ()
  else .error (invalidParams requestId (some "unexpected_argument_unsupported"))

/-- A duration that is an integer within the bounds. -/
def boundedDuration (key : String) (value : Option Json) : Except JsonRpcError ToolDuration :=
  match value with
  | some (.integer number) =>
      if hbounds : 0 < number.toNat ∧ number.toNat ≤ maxThresholdMs then .ok ⟨_, hbounds⟩
      else .error (invalidParams requestId (some (key ++ "_invalid")))
  | _ => .error (invalidParams requestId (some (key ++ "_invalid")))

/-- `_positive_int`. -/
def positiveInt (key : String) (default : Nat) : Except JsonRpcError ToolDuration :=
  boundedDuration requestId key (some ((getMember values key).getD (.integer default)))

/-- `_settings_integer`. -/
def settingsInteger (key : String) : Except JsonRpcError ToolDuration :=
  boundedDuration requestId key (getMember values key)

/-- The daemon request and its one-time activation turn. -/
structure ParsedStartRequest where
  request : StartRequest
  activationTurnId : String

/-- The text of `ThresholdOrderError`. -/
def thresholdOrderText (warning critical : Nat) : String :=
  "restart threshold must be later than warning threshold: warning=" ++ toString warning ++
    ", restart=" ++ toString critical

/-- Parse untrusted MCP activation arguments into the daemon model.  `renderPath` is
    `str(Path(text))`, which is never empty. -/
def parseStartRequest (renderPath : String → String) : Except JsonRpcError ParsedStartRequest := do
  if legacyRestartKeys.any (hasMember values) then
    throw (invalidParams requestId (some "legacy_restart_option_unsupported"))
  rejectUnknown values requestId startKeys
  let sessionId ← requiredText values requestId "session_id"
  let transcript ← requiredText values requestId "transcript_path"
  let warning ← positiveInt values requestId "warning_after_ms" defaultWarningMs
  let critical ← positiveInt values requestId "critical_after_ms" defaultCriticalMs
  if hordered : warning.val < critical.val then
    let activationTurnId ← requiredText values requestId "activation_turn_id"
    return {
      request := {
        sessionId := sessionId.val
        transcriptPath := renderPath transcript.val
        warningAfterMs := warning.val
        criticalAfterMs := critical.val
        sessionId_nonempty := sessionId.property.1
        warning_pos := warning.property.1
        ordered := hordered }
      activationTurnId := activationTurnId.val }
  else throw (invalidParams requestId (some (thresholdOrderText warning.val critical.val)))

/-- Parse untrusted MCP session arguments into the daemon model. -/
def parseSessionRequest : Except JsonRpcError ToolText := do
  rejectUnknown values requestId sessionKeys
  requiredText values requestId "session_id"

/-- The supported mutations of one threshold selection. -/
inductive SettingsAction where
  | show
  | default
  | recommended
  | custom
deriving DecidableEq, Repr

def SettingsAction.value : SettingsAction → String
  | .show => "show"
  | .default => "default"
  | .recommended => "recommended"
  | .custom => "custom"

/-- `_threshold_action`. -/
def thresholdAction : Except JsonRpcError SettingsAction :=
  match (getMember values "action").getD (.text (some SettingsAction.show.value)) with
  | .text (some text) =>
      match [SettingsAction.show, .default, .recommended, .custom].find?
          fun action => action.value = text with
      | some action => .ok action
      | none => .error (invalidParams requestId)
  | _ => .error (invalidParams requestId)

/-- The checks of `call_threshold_settings` before it touches the store. -/
def validateSettings : Except JsonRpcError SettingsAction := do
  if !membersAmong values settingsKeys then throw (invalidParams requestId)
  let _ ← requiredText values requestId "session_id"
  let action ← thresholdAction values requestId
  if action ≠ .custom ∧
      (hasMember values "warning_after_ms" || hasMember values "critical_after_ms") = true then
    throw (invalidParams requestId)
  return action

/-- The verified identity needed by authorization-bound controls. -/
structure AuthorizedSession where
  sessionId : String
  capability : String

def unauthorized : JsonRpcError where
  code := -32001
  message := "Unauthorized"
  requestId
  data := some (.object [("code", .text (some "cmw_unauthorized"))])

/-- Derive the private capability inside the trusted MCP process. -/
def requireAuthorized (key : ControlKey) : Except JsonRpcError AuthorizedSession :=
  match getMember values "session_id" with
  | some (.text (some sessionId)) =>
      if sessionId = "" then .error (unauthorized requestId)
      else
        match deriveControlCapability key sessionId with
        | .error _ => .error (unauthorized requestId)
        | .ok capability => .ok ⟨sessionId, capability⟩
  | _ => .error (unauthorized requestId)

end Parsers

end CodexMustWork
