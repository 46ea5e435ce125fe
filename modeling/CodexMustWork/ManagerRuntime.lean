import CodexMustWork.HookState

/-!
# The runtime document of a resident manager

`scripts/manager_runtime.py`, `scripts/manager_runtime_values.py`, `scripts/manager_failure.py`
and `scripts/session_shutdown.py`: what a manager reads of a runtime document, and what each
of its updates makes of it.  The updates run under the lock of the document; one that raises
leaves the document as it is.
-/

namespace CodexMustWork.ManagedTurns

open HookState

/-! ### Failures -/

/-- `ManagerRuntimeError`, `DaemonServiceError` and `GoalControlError` with their reasons,
`AppServerProtocolError`, and the failures of the state files. -/
inductive TurnFailure where
  | manager (reasonCode : String)
  | service (reasonCode : String)
  | goal (reasonCode : String)
  | protocol
  | state (failure : Failure)
deriving DecidableEq, Repr

/-- `CorruptStateError(path, CorruptReason.INVALID_VALUE)`. -/
def corrupt (path : String) : TurnFailure := .state (invalidValue path)

/-- A failure of the hook state, as one of an update. -/
def fromHooks {α : Type} : Except Failure α → Except TurnFailure α
  | .ok value => .ok value
  | .error failure => .error (.state failure)

/-! ### Values -/

/-- `value is None`, a missing member counting as `None`. -/
def isNone : Option PyValue → Bool
  | none | some .none => true
  | _ => false

section Reading

variable (path : String)

/-- `string_value`. -/
def stringValue (values : PyDict) (key : String) : Except TurnFailure PyText :=
  match values.find key with
  | some (.str text) => if text = [] then .error (corrupt path) else .ok text
  | _ => .error (corrupt path)

/-- `optional_string`. -/
def optionalString (values : PyDict) (key : String) : Except TurnFailure (Option PyText) :=
  match values.find key with
  | none | some .none => .ok none
  | some (.str text) => .ok (some text)
  | some _ => .error (corrupt path)

/-- `bool_value`. -/
def boolValue (values : PyDict) (key : String) : Except TurnFailure Bool :=
  match values.find key with
  | some (.bool flag) => .ok flag
  | _ => .error (corrupt path)

/-- `int_value`. -/
def intValue (values : PyDict) (key : String) (minimum : ℤ) : Except TurnFailure ℤ :=
  match values.find key with
  | some (.int number) => if number < minimum then .error (corrupt path) else .ok number
  | _ => .error (corrupt path)

/-- `optional_int_value`. -/
def optionalIntValue (values : PyDict) (key : String) (minimum : ℤ) :
    Except TurnFailure (Option ℤ) :=
  match values.find key with
  | none | some .none => .ok none
  | some (.int number) =>
      if number < minimum then .error (corrupt path) else .ok (some number)
  | some _ => .error (corrupt path)

/-- `_optional_nonnegative_float`. -/
def optionalNonnegativeFloat (values : PyDict) (key : String) :
    Except TurnFailure (Option PyFloat) :=
  match values.find key with
  | none | some .none => .ok none
  | some (.int number) =>
      if number < 0 then .error (corrupt path) else .ok (some (.finite number))
  | some (.float (.finite number)) =>
      if number < 0 then .error (corrupt path) else .ok (some (.finite number))
  | some (.float (.infinite true)) => .error (corrupt path)
  | some (.float number) => .ok (some number)
  | some _ => .error (corrupt path)

/-- What `datetime.fromisoformat` makes of a text: nothing, a time without a zone, or the
instant of a time with one. -/
inductive ParsedTime where
  | invalid
  | naive
  | instant (microseconds : ℤ)
deriving DecidableEq, Repr

/-- `_optional_datetime`. -/
def optionalDatetime (fromisoformat : PyText → ParsedTime) (values : PyDict) (key : String) :
    Except TurnFailure (Option ℤ) :=
  match values.find key with
  | none | some .none => .ok none
  | some (.str text) =>
      match fromisoformat text with
      | .instant microseconds => .ok (some microseconds)
      | _ => .error (corrupt path)
  | some _ => .error (corrupt path)

/-- `bump_revision`. -/
def bumpRevision (values : PyDict) : Except TurnFailure PyDict :=
  match (values.find "revision").getD (.int 0) with
  | .int revision =>
      if revision < 0 then .error (corrupt path)
      else .ok (values.put "revision" (.int (revision + 1)))
  | _ => .error (corrupt path)

/-- `require_managed`. -/
def requireManaged (values : PyDict) : Except TurnFailure Unit :=
  if isTrue (values.find "enabled") && isTrue (values.find "managed_mode") then do
    let _ ← boolValue path values "manager_ready"
    return ()
  else .error (.manager "managed_mode_not_enabled")

/-- `start_managed_parent`. -/
def startManagedParent (values : PyDict) (turnId now identity : PyText) :
    Except TurnFailure PyDict := do
  let children ← fromHooks (childrenOf path values)
  let working ← fromHooks (startParent path now identity turnId ⟨values, children⟩)
  return working.values.put "children" (.dict working.children)

/-- `mark_target_terminal`, for the parent. -/
def markParentTerminal (values : PyDict) : Except TurnFailure PyDict :=
  match values.find "parent" with
  | some (.dict members) =>
      let monitor : PyDict := members
      if isText (monitor.find "status") (pyText "terminal") then .ok values
      else if isText (monitor.find "status") (pyText "running") then
        .ok (values.put "parent" (.dict (monitor.put "status" (.str (pyText "terminal")))))
      else .error (corrupt path)
  | _ => .error (corrupt path)

/-! ### Loading -/

/-- `RestartRequest`. -/
structure RestartRequest where
  requestId : PyText
  turnId : PyText
  targetId : Option PyText
  targetGeneration : ℤ
  progressEpoch : ℤ
  turnActivityEpoch : ℤ
deriving DecidableEq

/-- `restart_request_from_values`. -/
def restartRequestFromValues (values : PyDict) : Except TurnFailure (Option RestartRequest) :=
  match values.find "restart_request" with
  | none | some .none => .ok none
  | some (.dict members) => do
      let request : PyDict := members
      if (request.find "target_id").isNone then .error (corrupt path)
      else
        let activity ←
          match (request.find "turn_activity_epoch").getD (.int 0) with
          | .int epoch => if epoch < 0 then .error (corrupt path) else pure epoch
          | _ => .error (corrupt path)
        let requestId ← stringValue path request "request_id"
        let turnId ← stringValue path request "turn_id"
        let targetId ← optionalString path request "target_id"
        let generation ← intValue path request "target_generation" 1
        let progress ← intValue path request "progress_epoch" 0
        return some ⟨requestId, turnId, targetId, generation, progress, activity⟩
  | some _ => .error (corrupt path)

/-- `GoalIdentityFingerprint`. -/
structure GoalIdentityFingerprint where
  threadId : PyText
  createdAt : ℤ
  objectiveSha256 : PyText
  tokenBudget : Option ℤ
deriving DecidableEq

/-- `parse_goal_identity_fingerprint`. -/
def parseGoalIdentityFingerprint (values : PyDict) :
    Except TurnFailure (Option GoalIdentityFingerprint) :=
  match values.find "goal_identity_fingerprint" with
  | none | some .none => .ok none
  | some (.dict members) => do
      let value : PyDict := members
      let threadId ← stringValue path value "thread_id"
      let createdAt ← intValue path value "created_at" 0
      let objective ← stringValue path value "objective_sha256"
      if objective.length = 64 ∧ objective.all (pyText "0123456789abcdef").contains then
        let budget ← optionalIntValue path value "token_budget" 0
        return some ⟨threadId, createdAt, objective, budget⟩
      else .error (corrupt path)
  | some _ => .error (corrupt path)

/-- `ManagerView`. -/
structure ManagerView where
  enabled : Bool
  handoffRequested : Bool
  managedTurnId : Option PyText
  restartRequestTurnId : Option PyText
  goalCompanion : Bool
deriving DecidableEq

/-- `ManagerRuntime`. -/
structure ManagerRuntime where
  rolloutFile : PyText
  sessionId : PyText
  messagePreset : PyText
  executableSha256 : PyText
  restartRequest : Option RestartRequest
  restartClaimed : Bool
  restartClaimedAt : Option ℤ
  view : ManagerView
  managerReady : Bool
  managerPid : Option ℤ
  shutdownRequested : Bool
  shutdownInterrupt : Bool
  managerError : Option PyText
  parentTurnId : Option PyText
  goalIdentityFingerprint : Option GoalIdentityFingerprint
  pendingTurnId : Option PyText
  pendingTurnTimedOutAt : Option PyFloat

/-- What `load_manager_runtime` asks about names: whether a session has this document, where a
transcript resolves to, and how a time is read. -/
structure RuntimeNames where
  ownsPath : PyText → Bool
  resolveRolloutPath : PyText → Except TurnFailure PyText
  fromisoformat : PyText → ParsedTime

/-- `load_manager_runtime`, of a document that is there. -/
def loadManagerRuntime (names : RuntimeNames) (values : PyDict) :
    Except TurnFailure ManagerRuntime := do
  let sessionId ← stringValue path values "session_id"
  if !names.ownsPath sessionId then .error (corrupt path)
  else
    let preset ← stringValue path values "message_preset"
    if preset ≠ pyText "continue" ∧ preset ≠ pyText "cleanup" then .error (corrupt path)
    else
      let request ← restartRequestFromValues path values
      let managed ← boolValue path values "managed_mode"
      let transcript ← stringValue path values "transcript_path"
      let rollout ← names.resolveRolloutPath transcript
      match (values.find "goal_companion").getD (.bool false) with
      | .bool goalCompanion =>
          let executable ← stringValue path values "executable_sha256"
          let claimed ← boolValue path values "restart_claimed"
          let claimedAt ← optionalDatetime path names.fromisoformat values "restart_claimed_at"
          let enabled ← boolValue path values "enabled"
          let handoff ← boolValue path values "handoff_requested"
          let managedTurn ← optionalString path values "managed_turn_id"
          let ready ← boolValue path values "manager_ready"
          let pid ← optionalIntValue path values "manager_pid" 1
          let shutdown ← boolValue path values "shutdown_requested"
          let interrupt ← boolValue path values "shutdown_interrupt"
          let error ← optionalString path values "manager_error"
          let parentTurn ← optionalString path values "parent_turn_id"
          let fingerprint ← parseGoalIdentityFingerprint path values
          let pendingTurn ← optionalString path values "pending_turn_id"
          let timedOutAt ← optionalNonnegativeFloat path values "pending_turn_timed_out_at"
          return {
            rolloutFile := rollout
            sessionId := sessionId
            messagePreset := preset
            executableSha256 := executable
            restartRequest := request
            restartClaimed := claimed
            restartClaimedAt := claimedAt
            view := {
              enabled := enabled && managed
              handoffRequested := handoff
              managedTurnId := managedTurn
              restartRequestTurnId := request.map RestartRequest.turnId
              goalCompanion := goalCompanion }
            managerReady := ready
            managerPid := pid
            shutdownRequested := shutdown
            shutdownInterrupt := interrupt
            managerError := error
            parentTurnId := parentTurn
            goalIdentityFingerprint := fingerprint
            pendingTurnId := pendingTurn
            pendingTurnTimedOutAt := timedOutAt }
      | _ => .error (corrupt path)

/-! ### Updates of the manager -/

/-- `mark_manager_ready`. -/
def markManagerReady (pid : ℤ) (values : PyDict) : Except TurnFailure (PyDict × Unit) :=
  if pid < 1 then .error (.manager "manager_pid_invalid")
  else do
    requireManaged path values
    let bumped ← bumpRevision path (((values.put "manager_ready" (.bool true)).put
      "manager_pid" (.int pid)).put "manager_error" .none)
    return (bumped, ())

/-- `mark_manager_stopped`. -/
def markManagerStopped (values : PyDict) : Except TurnFailure (PyDict × Unit) := do
  let bumped ← bumpRevision path ((values.put "manager_ready" (.bool false)).put
    "manager_pid" .none)
  return (bumped, ())

/-- `request_manager_startup_cancel`. -/
def requestManagerStartupCancel (values : PyDict) : Except TurnFailure (PyDict × Unit) := do
  requireManaged path values
  if isTrue (values.find "manager_ready") then return (values, ())
  else
    let bumped ← bumpRevision path (((values.put "shutdown_requested" (.bool true)).put
      "shutdown_interrupt" (.bool false)).put "handoff_requested" (.bool false))
    return (bumped, ())

/-- The members that say that no restart is requested. -/
def withoutRestart (values : PyDict) : PyDict :=
  ((values.put "restart_request" .none).put "restart_claimed" (.bool false)).put
    "restart_claimed_at" .none

/-- The members that say that no turn is pending. -/
def withoutPending (values : PyDict) : PyDict :=
  (values.put "pending_turn_id" .none).put "pending_turn_timed_out_at" .none

/-- `record_turn_started`. -/
def recordTurnStarted (turnId now identity : PyText) (values : PyDict) :
    Except TurnFailure (PyDict × Unit) :=
  if turnId = [] then .error (.manager "managed_turn_id_missing")
  else do
    requireManaged path values
    if !isTrue (values.find "handoff_requested") || !isNone (values.find "managed_turn_id") then
      .error (.manager "handoff_state_changed")
    else if !isNone (values.find "pending_turn_id") &&
        !isText (values.find "pending_turn_id") turnId then
      .error (.manager "handoff_state_changed")
    else
      let owned := withoutRestart (((withoutPending values).put "managed_turn_id"
        (.str turnId)).put "handoff_requested" (.bool false))
      let started ← startManagedParent path owned turnId now identity
      let bumped ← bumpRevision path started
      return (bumped, ())

/-- `record_pending_turn`. -/
def recordPendingTurn (turnId : PyText) (values : PyDict) : Except TurnFailure (PyDict × Unit) :=
  if turnId = [] then .error (.manager "managed_turn_id_missing")
  else do
    requireManaged path values
    if !isTrue (values.find "handoff_requested") || !isNone (values.find "managed_turn_id") ||
        !isNone (values.find "pending_turn_id") then
      .error (.manager "handoff_state_changed")
    else
      let bumped ← bumpRevision path ((values.put "pending_turn_id" (.str turnId)).put
        "pending_turn_timed_out_at" .none)
      return (bumped, ())

/-- `mark_pending_turn_timed_out`. -/
def markPendingTurnTimedOut (turnId : PyText) (timedOutAt : ℚ) (values : PyDict) :
    Except TurnFailure (PyDict × Unit) :=
  if timedOutAt < 0 then .error (.manager "handoff_state_changed")
  else do
    requireManaged path values
    if isText (values.find "pending_turn_id") turnId then
      let bumped ← bumpRevision path
        (values.put "pending_turn_timed_out_at" (.float (.finite timedOutAt)))
      return (bumped, ())
    else .error (.manager "handoff_state_changed")

/-- `clear_pending_turn`. -/
def clearPendingTurn (turnId : PyText) (values : PyDict) : Except TurnFailure (PyDict × Bool) :=
  if isText (values.find "pending_turn_id") turnId then do
    let bumped ← bumpRevision path (withoutPending values)
    return (bumped, true)
  else .ok (values, false)

/-- `_finish_turn`. -/
def finishTurn (values : PyDict) : Except TurnFailure PyDict :=
  bumpRevision path ((withoutRestart ((withoutPending values).put "managed_turn_id" .none)).put
    "handoff_requested" (.bool true))

/-- `record_turn_finished`. -/
def recordTurnFinished (turnId : PyText) (values : PyDict) : Except TurnFailure (PyDict × Unit) :=
  if isText (values.find "managed_turn_id") turnId then do
    let finished ← finishTurn path values
    return (finished, ())
  else .error (.manager "completed_turn_not_owned")

/-- `_RESTART_CLAIM_TTL`, in microseconds. -/
def restartClaimTtl : ℤ := 60 * 1000000

/-- `restart_claim_is_current`. -/
def restartClaimIsCurrent (claimedAt now : ℤ) : Bool :=
  decide (0 ≤ now - claimedAt) && decide (now - claimedAt ≤ restartClaimTtl)

/-- `record_restart_performed`. -/
def recordRestartPerformed (fromisoformat : PyText → ParsedTime) (turnId : PyText) (now : ℤ)
    (values : PyDict) : Except TurnFailure (PyDict × PyText) :=
  match values.find "restart_request" with
  | some (.dict members) =>
      let request : PyDict := members
      if !isText (request.find "turn_id") turnId then .error (.manager "restart_request_changed")
      else if !isText (values.find "managed_turn_id") turnId then
        .error (.manager "restart_turn_not_owned")
      else if !isTrue (values.find "restart_claimed") then
        .error (.manager "restart_request_not_claimed")
      else do
        match ← optionalDatetime path fromisoformat values "restart_claimed_at" with
        | none => .error (.manager "interrupt_claim_expired")
        | some claimedAt =>
            if !restartClaimIsCurrent claimedAt now then
              .error (.manager "interrupt_claim_expired")
            else
              let count ← intValue path values "restart_count" 0
              let counted := values.put "restart_count" (.int (count + 1))
              let sessionId ← stringValue path counted "session_id"
              let finished ← finishTurn path counted
              return (finished, sessionId)
  | _ => .error (.manager "restart_request_changed")

/-! ### Other writers -/

/-- `_ALLOWED`. -/
def allowedFailures : List String :=
  ["activation_turn_aborted", "activation_turn_superseded", "active_turn_mismatch",
    "app_server_failed", "goal_not_resumable", "goal_identity_changed", "goal_identity_invalid",
    "goal_identity_missing", "goal_handoff_changed", "goal_missing", "goal_resume_timeout",
    "goal_status_invalid", "goal_status_mismatch", "goal_turn_source_unverified",
    "interrupt_timeout", "interrupt_claim_expired", "interrupt_claim_mismatch", "turn_failed",
    "turn_status_invalid", "turn_interrupted_external", "goal_blocked", "goal_usage_limited",
    "goal_budget_limited", "goal_companion_atomic_update_unavailable", "restart_turn_not_owned",
    "server_request_unhandled", "start_timeout", "completed_turn_not_owned",
    "handoff_state_changed", "managed_mode_not_enabled", "manager_pid_invalid",
    "managed_turn_id_missing", "restart_request_changed", "restart_request_not_claimed",
    "runtime_name_invalid", "trusted_codex_executable_changed",
    "trusted_codex_executable_missing", "trusted_codex_home_invalid", "unexpected_active_turn"]

/-- `record_manager_failure`. -/
def recordManagerFailure (reasonCode : String) (values : PyDict) :
    Except TurnFailure (PyDict × PyText) :=
  if reasonCode ∈ allowedFailures then do
    let failed := ((values.put "manager_ready" (.bool false)).put "manager_pid" .none).put
      "manager_error" (.str (pyText reasonCode))
    let sessionId ← stringValue path failed "session_id"
    let bumped ← bumpRevision path failed
    return (bumped, sessionId)
  else .error (.manager "manager_failure_reason_invalid")

/-- `_mark_stopped_if_owned`. -/
def markStoppedIfOwned (pid : ℤ) (values : PyDict) : Except TurnFailure (PyDict × Unit) :=
  if (values.find "manager_pid").any fun value => value.eq (.int pid) then
    markManagerStopped path values
  else .ok (values, ())

/-- The update of `acquire_recovery_manager_lease`. -/
def claimRecovery (generation : ℤ) (sessionId transcriptPath : PyText) (values : PyDict) :
    Except TurnFailure (PyDict × Bool) :=
  match values.find "revision" with
  | some (.int revision) =>
      if revision ≠ generation ∨ !isText (values.find "session_id") sessionId ∨
          !isText (values.find "transcript_path") transcriptPath then .ok (values, false)
      else .ok (values.put "revision" (.int (revision + 1)), true)
  | _ => .ok (values, false)

/-- The members of a recorded Goal identity. -/
def GoalIdentityFingerprint.members (fingerprint : GoalIdentityFingerprint) : PyDict :=
  [(pyText "thread_id", .str fingerprint.threadId),
    (pyText "created_at", .int fingerprint.createdAt),
    (pyText "objective_sha256", .str fingerprint.objectiveSha256),
    (pyText "token_budget", (fingerprint.tokenBudget.map PyValue.int).getD .none)]

/-- `record_goal_identity_fingerprint`. -/
def recordGoalIdentityFingerprint (fingerprint : GoalIdentityFingerprint) (values : PyDict) :
    Except TurnFailure (PyDict × Unit) := do
  requireManaged path values
  let captured ← parseGoalIdentityFingerprint path values
  if captured ≠ none ∧ captured ≠ some fingerprint then
    .error (.manager "goal_identity_changed")
  else
    let bumped ← bumpRevision path
      (values.put "goal_identity_fingerprint" (.dict fingerprint.members))
    return (bumped, ())

/-- The update of `defer_session_shutdown`. -/
def deferSessionShutdown (interruptActive : Bool) (values : PyDict) :
    Except TurnFailure (PyDict × Bool) :=
  match isTrue (values.find "managed_mode") && isTrue (values.find "manager_ready"),
      values.find "managed_turn_id" with
  | true, some (.str _) => do
      let deferred := withoutRestart (((values.put "shutdown_requested" (.bool true)).put
        "shutdown_interrupt" (.bool interruptActive)).put "handoff_requested" (.bool false))
      let bumped ← bumpRevision path deferred
      return (bumped, true)
  | _, _ => .ok (values, false)

/-- The update of `DaemonActivationFences.bind`. -/
def bindActivation (turnId now identity : PyText) (values : PyDict) :
    Except TurnFailure (PyDict × Unit) := do
  let started ← startManagedParent path values turnId now identity
  let bumped ← bumpRevision path started
  return (bumped, ())

/-- The update of `DaemonActivationFences.complete`. -/
def completeActivation (turnId : PyText) (values : PyDict) : Except TurnFailure (PyDict × Unit) :=
  if !isText (values.find "parent_turn_id") turnId then
    .error (.service "activation_turn_ownership_changed")
  else if !isNone (values.find "managed_turn_id") then
    .error (.service "activation_turn_ownership_changed")
  else do
    let marked ← markParentTerminal path values
    let bumped ← bumpRevision path ((marked.put "handoff_requested" (.bool true)).put
      "parent_complete" (.bool false))
    return (bumped, ())

/-- The update of `DaemonActivationFences.adopt_started`. -/
def adoptStarted (turnId now identity : PyText) (values : PyDict) :
    Except TurnFailure (PyDict × Bool) :=
  if !isTrue (values.find "enabled") || !isTrue (values.find "managed_mode") ||
      isTrue (values.find "goal_companion") || isTrue (values.find "shutdown_requested") ||
      !isTrue (values.find "handoff_requested") || !isNone (values.find "managed_turn_id") ||
      !isNone (values.find "pending_turn_id") then .ok (values, false)
  else do
    let started ← startManagedParent path values turnId now identity
    let advanced ← fromHooks (advanceTurnActivityEpoch path started)
    let bumped ← bumpRevision path (advanced.put "handoff_requested" (.bool false))
    return (bumped, true)

/-- The update of `process_hook`, where `transcriptMatches` says that the event names no
transcript or the one of the session. -/
def processHook (call : HookCall) (transcriptMatches : Bool) (values : PyDict) :
    Except TurnFailure (PyDict × Option Bool) :=
  if !isTrue (values.find "enabled") then .ok (values, none)
  else
    match (values.find "revision").getD (.int 0) with
    | .int revision =>
        if revision < 0 then .error (corrupt path)
        else if !transcriptMatches then .ok (values, none)
        else do
          let (applied, shouldLaunch) ← fromHooks (applyHookEvent call values)
          return (applied.put "revision" (.int (revision + 1)), some shouldLaunch)
    | _ => .error (corrupt path)

end Reading

/-! ### Activation -/

/-- What `enable_session` reads of a request and of the capabilities. -/
structure EnableRequest where
  sessionId : PyText
  observeOnly : Bool
  permissionMode : Option PyText
  goalCompanion : Bool
  warningAfterMs : ℤ
  restartAfterMs : ℤ
  autoRestartRequestedByUser : Bool
  messagePreset : PyText
  autoRestartReady : Bool
  evidenceFingerprint : PyText
  transcriptPath : PyText

/-- `effective_auto_restart`. -/
def EnableRequest.effectiveAutoRestart (request : EnableRequest) : Bool :=
  request.autoRestartRequestedByUser && request.autoRestartReady && !request.observeOnly

/-- `runtime_values`. -/
def runtimeValues (request : EnableRequest) : PyDict :=
  [(pyText "session_id", .str request.sessionId),
    (pyText "enabled", .bool true),
    (pyText "observe_only", .bool request.observeOnly),
    (pyText "permission_mode", (request.permissionMode.map PyValue.str).getD .none),
    (pyText "managed_mode", .bool request.effectiveAutoRestart),
    (pyText "goal_companion", .bool request.goalCompanion),
    (pyText "goal_identity_fingerprint", .none),
    (pyText "warning_after_ms", .int request.warningAfterMs),
    (pyText "restart_after_ms", .int request.restartAfterMs),
    (pyText "auto_restart_requested_by_user", .bool request.autoRestartRequestedByUser),
    (pyText "message_preset", .str request.messagePreset),
    (pyText "executable_sha256", .str request.evidenceFingerprint),
    (pyText "manager_ready", .bool false),
    (pyText "manager_pid", .none),
    (pyText "manager_error", .none),
    (pyText "handoff_requested", .bool false),
    (pyText "managed_turn_id", .none),
    (pyText "restart_request", .none),
    (pyText "restart_claimed", .bool false),
    (pyText "restart_claimed_at", .none),
    (pyText "restart_count", .int 0),
    (pyText "turn_activity_epoch", .int 0),
    (pyText "shutdown_requested", .bool false),
    (pyText "shutdown_interrupt", .bool false),
    (pyText "parent_turn_id", .none),
    (pyText "parent_complete", .bool false),
    (pyText "parent", .none),
    (pyText "revision", .int 0),
    (pyText "completion_event_id", .none),
    (pyText "transcript_path", .str request.transcriptPath),
    (pyText "children", .dict [])]

end CodexMustWork.ManagedTurns
