import CodexMustWork.WatcherRuntime

/-!
# Sessions and the resident service

`scripts/notification_session.py` and `scripts/notification_daemon.py`: the
controls of the MCP process.  Every control runs under the lock of the service,
so the service is a state and one function for each control; the faults of the
file system are arguments of the control that meets them.
-/

namespace CodexMustWork

/-- The stable reasons of `DaemonServiceError`, and the exceptions the controls let
    through. -/
inductive ServiceError where
  | monitoringStateUnavailable
  | daemonClosed
  | monitoringReconfigurationRequiresWorkOff
  | transcriptPathInvalid
  | schedulerUnavailable
  | sinkRaised
  | recursionError
deriving DecidableEq, Repr

/-- An activation request, as `parse_start_request` admits it. -/
structure StartRequest where
  sessionId : String
  transcriptPath : String
  warningAfterMs : Nat
  criticalAfterMs : Nat
  sessionId_nonempty : sessionId ≠ ""
  warning_pos : 0 < warningAfterMs
  ordered : warningAfterMs < criticalAfterMs

/-- A file below CODEX_HOME, by its relative path: what `_relative_transcript`
    returns, which is never CODEX_HOME itself. -/
structure RelativeTranscript where
  path : String
  path_nonempty : path ≠ ""

def sampleTranscript : RelativeTranscript := ⟨"t", by decide⟩

/-! ### Sessions -/

/-- `_new_monitor`. -/
def newMonitor (now : Int) : MonitorValues where
  status := .value .running
  generation := .value 1
  openToolCount := .value 0
  waitingForApproval := .value false
  waitingForUser := .value false
  progressEpoch := .value 0
  silenceStartedAt := .value now

/-- The document of a fresh activation. -/
def newSession (request : StartRequest) (transcript : RelativeTranscript) (now : Int) :
    RuntimeValues where
  enabled := .value true
  sessionId := .value request.sessionId
  transcriptPath := .value transcript.path
  parentTurnId := .null
  parentComplete := .value false
  warningAfterMs := .value request.warningAfterMs
  criticalAfterMs := .value request.criticalAfterMs
  restartAfterMs := .absent
  turnActivityEpoch := .value 0
  revision := .value 0
  completionEventId := .null
  parent := .value (newMonitor now)
  children := .value ∅

/-- `_matches`. -/
def sessionMatches (values : RuntimeValues) (request : StartRequest)
    (transcript : RelativeTranscript) : Bool :=
  decide (values.enabled = .value true) && decide (values.sessionId = .value request.sessionId) &&
    decide (values.transcriptPath = .value transcript.path) &&
    decide (values.warningAfterMs = .value request.warningAfterMs) &&
    decide (values.criticalValue = .value request.criticalAfterMs)

/-- What the file system does to one start: the transcript, when
    `_relative_transcript` accepts it, the save, and what comes behind the replacement of
    the document, the release of its lock. -/
structure StartFaults where
  transcript : Option RelativeTranscript
  save : Option Failure := none
  release : Option Failure := none

/-- Create one passive monitor and report whether an exact session was reused. -/
def startNotificationSession (H : Digest) (faults : StartFaults) (root : StateRoot)
    (request : StartRequest) (now : Int) : StateRoot × Except ServiceError Bool :=
  let path := sessionFilename H request.sessionId
  match faults.transcript with
  | none => (root, .error .transcriptPathInvalid)
  | some transcript =>
      match root.runtime.lookup path with
      | some (.error _) => (root, .error .monitoringStateUnavailable)
      | some (.ok values) =>
          if sessionMatches values request transcript then (root, .ok true)
          else (root, .error .monitoringReconfigurationRequiresWorkOff)
      | none =>
          match faults.save with
          | some _ => (root, .error .monitoringStateUnavailable)
          | none =>
              (root.setRuntime path (newSession request transcript now),
                match faults.release with
                | some _ => .error .monitoringStateUnavailable
                | none => .ok false)

/-- Whether the exact hashed runtime is currently enabled. -/
def notificationSessionActive (H : Digest) (root : StateRoot) (sessionId : String) :
    Except Failure Bool :=
  match root.runtime.lookup (sessionFilename H sessionId) with
  | none => .ok false
  | some (.error failure) => .error failure
  | some (.ok values) => .ok (decide (values.enabled = .value true))

/-- The inner `complete`. -/
def completeValues (path : String) (values : RuntimeValues) :
    Except Failure (RuntimeValues × Bool) :=
  if values.enabled ≠ .value true then .ok (values, false)
  else do
    let revision ← optionalIntegerField values.revision path 0
    return ({ values with parentComplete := .value true, revision := .value (revision + 1) }, true)

/-- Mark an active monitor complete so the watcher emits its final transition. -/
def markNotificationSessionComplete (H : Digest) (faults : MutationFaults) (root : StateRoot)
    (sessionId : String) : StateRoot × Except Failure Bool :=
  let path := sessionFilename H sessionId
  let marked := mutateExistingState faults root path ()
    (fun memory values => (memory, completeValues path values)) noCommit
  (marked.root, marked.result.map fun result => decide (result = some true))

/-- Which of the two removals raises. -/
structure RemoveFaults where
  runtime : Option Failure := none
  cursor : Option Failure := none

/-- Remove only one monitor's runtime and rollout cursor. -/
def removeNotificationSession (H : Digest) (faults : RemoveFaults) (root : StateRoot)
    (sessionId : String) : StateRoot × Except Failure Unit :=
  let path := sessionFilename H sessionId
  match faults.runtime with
  | some failure => (root, .error failure)
  | none =>
      let root := { root with runtime := root.runtime.erase path }
      match faults.cursor with
      | some failure => (root, .error failure)
      | none => ({ root with cursors := root.cursors.erase path }, .ok ())

/-! ### The service -/

inductive SchedulerHealth where
  | healthy
  | degraded
  | fatal
deriving DecidableEq, Repr

/-- What a status answer says. -/
inductive SessionStatus where
  | active
  | degraded
  | unavailable
  | inactive
  | stopped
  | completed
deriving DecidableEq, Repr

structure ToolResult where
  sessionId : String
  status : SessionStatus
  enabled : Bool
  reused : Option Bool := none
deriving DecidableEq, Repr

/-- The service with its state root.  `scheduled` says whether the scheduler holds a
    live entry for the tick. -/
structure NotificationDaemon where
  root : StateRoot
  engine : WatcherEngine
  closed : Bool := false
  health : SchedulerHealth := .healthy
  scheduled : Bool := false

/-- `NotificationDaemonService.__init__`. -/
def NotificationDaemon.create (root : StateRoot) (log : DiagnosticLog) : NotificationDaemon where
  root
  engine := WatcherEngine.fresh log
  scheduled := !(discoverRuntimeFiles root).isEmpty

/-- The exceptions the controls turn into `monitoring_state_unavailable`. -/
def serviceError : Failure → ServiceError
  | .sinkError => .sinkRaised
  | .recursionError => .recursionError
  | _ => .monitoringStateUnavailable

namespace NotificationDaemon

/-- `_schedule_tick`: a scheduler that is fatal or closed refuses. -/
def scheduleTick (service : NotificationDaemon) : NotificationDaemon × Except ServiceError Unit :=
  match service.health with
  | .fatal => (service, .error .schedulerUnavailable)
  | _ => ({ service with scheduled := true }, .ok ())

/-- Create or exactly reuse one passive notification session. -/
def start (H : Digest) (faults : StartFaults) (now : Int) (request : StartRequest)
    (service : NotificationDaemon) : NotificationDaemon × Except ServiceError ToolResult :=
  if service.closed then (service, .error .daemonClosed)
  else
    match startNotificationSession H faults service.root request now with
    | (root, .error failure) => ({ service with root }, .error failure)
    | (root, .ok reused) =>
        match scheduleTick { service with root } with
        | (service, .error failure) => (service, .error failure)
        | (service, .ok _) =>
            (service, .ok ⟨request.sessionId, .active, true, some reused⟩)

/-- Stop one passive monitor without interrupting the Codex task. -/
def stop (H : Digest) (faults : RemoveFaults) (sessionId : String)
    (service : NotificationDaemon) : NotificationDaemon × Except ServiceError ToolResult :=
  if service.closed then (service, .error .daemonClosed)
  else
    match removeNotificationSession H faults service.root sessionId with
    | (root, .error failure) => ({ service with root }, .error (serviceError failure))
    | (root, .ok _) => ({ service with root }, .ok ⟨sessionId, .stopped, false, none⟩)

/-- Let the engine tick on the state root of the service. -/
def tickEngine (H : Digest) (env : TickEnvironment) (service : NotificationDaemon) :
    NotificationDaemon × List PendingNotification × Except Failure Bool :=
  let outcome := service.engine.tick H env service.root
  ({ service with root := outcome.root, engine := outcome.engine }, outcome.queued,
    outcome.result)

/-- The faults of one completion. -/
structure CompleteFaults where
  mark : MutationFaults := {}
  remove : RemoveFaults := {}

/-- Emit verified completion once, then remove the passive monitor.  The second
    component is what the tick of the completion queued. -/
def complete (H : Digest) (faults : CompleteFaults) (env : TickEnvironment) (sessionId : String)
    (service : NotificationDaemon) :
    NotificationDaemon × List PendingNotification × Except ServiceError ToolResult :=
  if service.closed then (service, [], .error .daemonClosed)
  else
    match markNotificationSessionComplete H faults.mark service.root sessionId with
    | (root, .error failure) => ({ service with root }, [], .error (serviceError failure))
    | (root, .ok marked) =>
        let service := { service with root }
        let (service, queued, ticked) :=
          if marked then tickEngine H env service else (service, [], .ok false)
        match ticked with
        | .error failure => (service, queued, .error (serviceError failure))
        | .ok _ =>
            match removeNotificationSession H faults.remove service.root sessionId with
            | (root, .error failure) =>
                ({ service with root }, queued, .error (serviceError failure))
            | (root, .ok _) =>
                ({ service with root }, queued, .ok ⟨sessionId, .completed, false, none⟩)

/-- Whether one passive notification session is active. -/
def status (H : Digest) (sessionId : String) (service : NotificationDaemon) :
    Except ServiceError ToolResult :=
  if service.closed then .error .daemonClosed
  else
    match notificationSessionActive H service.root sessionId with
    | .error failure => .error (serviceError failure)
    | .ok false => .ok ⟨sessionId, .inactive, false, none⟩
    | .ok true =>
        match service.health with
        | .healthy => .ok ⟨sessionId, .active, true, none⟩
        | .degraded => .ok ⟨sessionId, .degraded, true, none⟩
        | .fatal => .ok ⟨sessionId, .unavailable, true, none⟩

/-- Process one explicit rollout snapshot. -/
def observe (H : Digest) (env : TickEnvironment) (service : NotificationDaemon) :
    NotificationDaemon × List PendingNotification × Except ServiceError Bool :=
  if service.closed then (service, [], .error .daemonClosed)
  else
    let (service, queued, ticked) := tickEngine H env service
    (service, queued, ticked.mapError serviceError)

/-- The scheduler hands its live entry to `_reconcile` and records how it ended. -/
def reconcile (H : Digest) (env : TickEnvironment) (service : NotificationDaemon) :
    NotificationDaemon × List PendingNotification :=
  let service := { service with scheduled := false }
  if service.closed then
    ({ service with health := if service.health = .degraded then .healthy else service.health }, [])
  else
    let (service, queued, ticked) := tickEngine H env service
    let active := match ticked with
      | .ok active => active
      | .error _ => true
    let service := if active then (scheduleTick service).1 else service
    let health := match ticked, service.health with
      | .error _, .healthy => .degraded
      | .ok _, .degraded => .healthy
      | _, health => health
    ({ service with health }, queued)

end NotificationDaemon

end CodexMustWork
