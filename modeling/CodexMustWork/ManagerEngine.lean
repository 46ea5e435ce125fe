import CodexMustWork.Library.DisturbedRuns
import CodexMustWork.TurnHandshake

/-!
# Ticks of the resident manager

`scripts/manager_engine.py`, with `manager_decision.py`, `manager_outcome.py`,
`manager_shutdown.py` and the parts of `manager_interrupt.py` that interrupt an accepted turn.

A tick reads the runtime document, asks the app server and writes the document again, and the
other writers of the document, the app server and the clocks go on in between.  The policy for
goals refuses a session with one before a guard is made, so the engine has no guard throughout.
-/

namespace CodexMustWork.ManagedTurns

open DisturbedRuns HookState

/-! ### Decisions -/

inductive ManagerAction where
  | stop
  | wait
  | start
  | resumeGoal
  | interrupt
  | failClosed
deriving DecidableEq, Repr

structure ManagerDecision where
  action : ManagerAction
  turnId : Option PyText := none
  reasonCode : Option String := none
deriving DecidableEq

/-- `_restart_decision`. -/
def restartDecision (view : ManagerView) (activeTurnId : Option PyText) : ManagerDecision :=
  if view.restartRequestTurnId ≠ view.managedTurnId then
    { action := .failClosed, reasonCode := some "restart_turn_not_owned" }
  else if activeTurnId = none then { action := .wait }
  else if activeTurnId ≠ view.restartRequestTurnId then
    { action := .failClosed, reasonCode := some "active_turn_mismatch" }
  else { action := .interrupt, turnId := view.restartRequestTurnId }

/-- `_handoff_decision`. -/
def handoffDecision (goalCompanion : Bool) (activeTurnId : Option PyText) : ManagerDecision :=
  if goalCompanion then
    if activeTurnId = none then { action := .resumeGoal }
    else { action := .failClosed, reasonCode := some "unexpected_active_turn" }
  else if activeTurnId ≠ none then { action := .wait }
  else { action := .start }

/-- `decide_manager_action`. -/
def decideManagerAction (view : ManagerView) (activeTurnId : Option PyText) : ManagerDecision :=
  if !view.enabled then { action := .stop }
  else if view.restartRequestTurnId ≠ none then restartDecision view activeTurnId
  else if view.handoffRequested ∧ view.managedTurnId = none then
    handoffDecision view.goalCompanion activeTurnId
  else { action := .wait }

/-! ### The world of a tick -/

inductive TurnOutcome where
  | completed
  | interrupted
  | failed
  | inProgress
  | invalid
deriving DecidableEq, Repr

/-- The requests that a tick makes. -/
inductive Request where
  | resumeThread (threadId : PyText)
  | startTurn (threadId text : PyText)
  | interruptTurn (threadId turnId : PyText)
  | cleanTerminals (threadId : PyText)
deriving DecidableEq

/-- What the connection to the app server knows and answers at the moment. -/
structure ServerView where
  pendingServerRequest : Option PyText
  activeTurn : PyText → Option PyText
  turnOutcome : PyText → Option TurnOutcome
  startResult : PyDict
  turnStarted : PyText → PyText → Bool
  turnCompleted : PyText → Bool

/-- The memory of the engine and of its interrupt controller. -/
structure EngineMemory where
  threadLoaded : Bool
  restartPromptPending : Bool
  acceptedInterruptClaims : List (PyText × PyText)
deriving DecidableEq

/-- What has happened: a document as a tick has read or left it, a change of the document that
a tick has written, a request made, a turn that the app server has accepted. -/
inductive Event where
  | saw (values : Option PyDict)
  | wrote (values after : PyDict)
  | asked (request : Request)
  | accepted (threadId turnId : PyText)

/-- The document, the app server, the clocks, the memory of the engine, and the history. -/
structure World where
  values : Option PyDict
  server : ServerView
  monotonic : ℚ
  now : ℤ
  timestamp : PyText
  identity : PyText
  memory : EngineMemory
  history : List Event

/-- The places of a tick at which something else can happen. -/
inductive Place where
  | load
  | reload
  | serverRequest
  | outcome (turnId : PyText)
  | active
  | clock
  | waitStarted
  | waitCompleted
  | answer (request : Request)
  | write (update : String)
  | written (update : String)
  | diagnostic
  | complete
  | disable
  | launchWatcher
deriving DecidableEq

abbrev Tick := Run Place World TurnFailure

def World.note (event : Event) (world : World) : World :=
  { world with history := world.history ++ [event] }

/-- A change of the memory of the engine. -/
def remember (step : EngineMemory → EngineMemory) : Tick Unit :=
  Run.change fun world => { world with memory := step world.memory }

def engineMemory : Tick EngineMemory := fun _ world => .returned world.memory world

section Operations

variable (path : String) (names : RuntimeNames)

/-- `load_manager_runtime`. -/
def loadRuntime (place : Place) : Tick (Option ManagerRuntime) :=
  Run.operation place fun world =>
    match world.values with
    | none => .ok (none, world.note (.saw none))
    | some values =>
        match loadManagerRuntime path names values with
        | .error failure => .error failure
        | .ok runtime => .ok (some runtime, world.note (.saw (some values)))

/-- What an update under the lock of the document makes of the world. -/
def mutated {α : Type} (update : PyDict → Except TurnFailure (PyDict × α)) (world : World) :
    Except TurnFailure (Option α × World) :=
  match world.values with
  | none => .ok (none, world.note (.saw none))
  | some values =>
      match update values with
      | .error failure => .error failure
      | .ok (after, result) =>
          if PyValue.eq (.dict after) (.dict values) then
            .ok (some result, world.note (.saw (some values)))
          else
            .ok (some result, ({ world with values := some after }.note
              (.wrote values after)).note (.saw (some after)))

/-- `mutate_existing_state`: it can fail before the document is replaced, or after. -/
def mutateRuntime {α : Type} (name : String)
    (update : World → PyDict → Except TurnFailure (PyDict × α)) : Tick (Option α) := do
  let result ← Run.operation (.write name) fun world => mutated (update world) world
  Run.act (.written name) .ok
  return result

/-- `client.request`: the request is made, and then answered or not. -/
def ask (request : Request) : Tick Unit := do
  Run.change (World.note (.asked request))
  Run.act (.answer request) .ok

/-- `disable_session`. -/
def disableSession : Tick Unit :=
  Run.act .disable fun world => .ok { world with values := none }

/-- `append_diagnostic`. -/
def appendDiagnostic : Tick Unit := Run.act .diagnostic .ok

/-- `complete_session`. -/
def completeSession : Tick Unit := do
  let present ← Run.look .complete fun world => .ok world.values.isSome
  if present then do
    appendDiagnostic
    disableSession
  else return ()

/-- `record_manager_failure`. -/
def recordFailure (reasonCode : String) : Tick Unit :=
  if reasonCode ∈ allowedFailures then do
    let session ← mutateRuntime "failure" fun _ => recordManagerFailure path reasonCode
    if session.isSome then appendDiagnostic else return ()
  else Run.raise (.manager "manager_failure_reason_invalid")

/-- `_fail`. -/
def failManager (reasonCode : String) : Tick Bool := do
  recordFailure path reasonCode
  return false

/-! ### Starting a turn -/

/-- `continuation_prompt`. -/
def continuationPrompt (preset : PyText) (restarted : Bool) : PyText :=
  (if restarted then pyText
    "The previous managed turn had no observable progress and was interrupted. " else []) ++
  (if preset = pyText "cleanup" then pyText
    "Check whether task-owned runtime processes are merely left open, clean them up safely, "
    else []) ++
  pyText "continue the same opted-in task until every success criterion is verified. " ++
  pyText "When it is genuinely complete, invoke $work-off as a verified-completion shutdown " ++
  pyText "before the final answer."

/-- `result_turn_id`. -/
def resultTurnId (result : PyDict) : Option PyText :=
  match result.find "turn" with
  | some (.dict members) =>
      let turn : PyDict := members
      match turn.find "id" with
      | some (.str text) => if text = [] then none else some text
      | _ => none
  | _ => none

/-- `_load_thread`. -/
def loadThread (runtime : ManagerRuntime) : Tick Unit := do
  let memory ← engineMemory
  if memory.threadLoaded then return ()
  else do
    ask (.resumeThread runtime.sessionId)
    remember fun memory => { memory with threadLoaded := true }

/-- The request for a turn, and the turn the answer names. -/
def askStart (runtime : ManagerRuntime) (text : PyText) : Tick (Option PyText) := do
  Run.change (World.note (.asked (.startTurn runtime.sessionId text)))
  Run.operation (.answer (.startTurn runtime.sessionId text)) fun world =>
    match resultTurnId world.server.startResult with
    | none => .ok (none, world)
    | some turnId => .ok (some turnId, world.note (.accepted runtime.sessionId turnId))

/-- `interrupt_unowned_accepted`. -/
def interruptUnownedAccepted (runtime : ManagerRuntime) (turnId : PyText) : Tick Unit := do
  let memory ← engineMemory
  if (runtime.sessionId, turnId) ∈ memory.acceptedInterruptClaims then return ()
  else do
    remember fun memory => { memory with
      acceptedInterruptClaims := (runtime.sessionId, turnId) :: memory.acceptedInterruptClaims }
    ask (.interruptTurn runtime.sessionId turnId)

/-- Whether a document is the durable owner of an accepted turn. -/
def durablyOwns (persisted : Option ManagerRuntime) (turnId : PyText) : Bool :=
  persisted.any fun runtime =>
    runtime.pendingTurnId == some turnId || runtime.view.managedTurnId == some turnId

/-- `_recover_accepted_turn`. -/
def recoverAcceptedTurn (runtime : ManagerRuntime) (turnId : PyText) : Tick Unit := do
  let durableOwner ← Run.attempt
    (do
      let persisted ← loadRuntime path names .reload
      return durablyOwns persisted turnId)
    fun error => do
      interruptUnownedAccepted runtime turnId
      Run.raise error
  if durableOwner then return () else interruptUnownedAccepted runtime turnId

/-- `_persist_accepted_turn`. -/
def persistAcceptedTurn (runtime : ManagerRuntime) (turnId : PyText) : Tick Unit :=
  Run.attempt
    (do
      let _ ← mutateRuntime "pending" fun _ => recordPendingTurn path turnId
      return ())
    fun original => do
      Run.attempt (recoverAcceptedTurn path names runtime turnId) fun _ => return ()
      Run.raise original

/-- `_record_turn_started`. -/
def recordStarted (turnId : PyText) : Tick Unit := do
  let _ ← mutateRuntime "started" fun world =>
    recordTurnStarted path turnId world.timestamp world.identity
  Run.act .launchWatcher .ok

/-- `_start_turn`. -/
def startTurn (runtime : ManagerRuntime) : Tick Bool := do
  loadThread runtime
  let memory ← engineMemory
  let turnId ← askStart runtime
    (continuationPrompt runtime.messagePreset memory.restartPromptPending)
  match turnId with
  | none => failManager path "start_timeout"
  | some turnId => do
      persistAcceptedTurn path names runtime turnId
      let started ← Run.look .waitStarted fun world =>
        .ok (world.server.turnStarted runtime.sessionId turnId)
      if started then do
        recordStarted path turnId
        remember fun memory => { memory with restartPromptPending := false }
        return true
      else do
        let _ ← mutateRuntime "timed out" fun world =>
          markPendingTurnTimedOut path turnId world.monotonic
        return true

/-! ### A pending turn -/

/-- `_PENDING_RECONCILIATION_GRACE_SECONDS`. -/
def pendingReconciliationGraceSeconds : ℚ := 60

/-- `timed_out_at is not None and time.monotonic() - timed_out_at > 60`. -/
def pendingExpired (timedOutAt : Option PyFloat) (monotonic : ℚ) : Bool :=
  match timedOutAt with
  | some (.finite number) => decide (pendingReconciliationGraceSeconds < monotonic - number)
  | some (.infinite negative) => negative
  | _ => false

/-- `expire_pending`. -/
def expirePending (runtime : ManagerRuntime) (turnId : PyText) : Tick Unit := do
  let cleared ← mutateRuntime "expired" fun _ => clearPendingTurn path turnId
  if cleared = some true then ask (.interruptTurn runtime.sessionId turnId) else return ()

/-- `_reconcile_pending_turn`. -/
def reconcilePendingTurn (runtime : ManagerRuntime) (turnId : PyText) : Tick Bool := do
  let expired ← Run.look .clock fun world =>
    .ok (pendingExpired runtime.pendingTurnTimedOutAt world.monotonic)
  if expired then do
    expirePending path runtime turnId
    failManager path "start_timeout"
  else do
    let active ← Run.look .active fun world =>
      .ok (world.server.activeTurn runtime.sessionId == some turnId)
    let seen ← (if active then pure true
      else Run.look (.outcome turnId) fun world => .ok (world.server.turnOutcome turnId).isSome)
    if seen then do
      recordStarted path turnId
      remember fun memory => { memory with restartPromptPending := false }
      return true
    else return true

/-! ### The outcome of a turn -/

/-- `TurnResolution`. -/
structure TurnResolution where
  keepRunning : Bool
  restartPromptPending : Bool := false
  failureReason : Option String := none
deriving DecidableEq

inductive InterruptClaimState where
  | matched
  | unclaimed
  | expired
  | mismatch
deriving DecidableEq, Repr

/-- `classify_interrupt_claim`. -/
def classifyInterruptClaim (runtime : ManagerRuntime) (turnId : PyText) (now : ℤ) :
    InterruptClaimState :=
  if !runtime.restartClaimed then .unclaimed
  else
    match runtime.restartRequest, runtime.restartClaimedAt with
    | some request, some claimedAt =>
        if request.turnId ≠ turnId then .mismatch
        else if restartClaimIsCurrent claimedAt now then .matched else .expired
    | _, _ => .mismatch

/-- `record_turn_finished`. -/
def recordFinished (turnId : PyText) : Tick Unit := do
  let _ ← mutateRuntime "finished" fun _ => recordTurnFinished path turnId
  return ()

/-- `record_restart_performed`. -/
def recordRestart (turnId : PyText) (now : ℤ) : Tick Unit := do
  let session ← mutateRuntime "restart" fun _ =>
    recordRestartPerformed path names.fromisoformat turnId now
  if session.isSome then appendDiagnostic else return ()

/-- `_resolve_completed`, without a guard. -/
def resolveCompleted (runtime : ManagerRuntime) (turnId : PyText) : Tick TurnResolution :=
  if runtime.view.goalCompanion then
    return { keepRunning := false, failureReason := some "goal_identity_missing" }
  else do
    recordFinished path turnId
    return { keepRunning := true }

/-- `_resolve_interrupted`. -/
def resolveInterrupted (runtime : ManagerRuntime) (turnId : PyText) : Tick TurnResolution := do
  let now ← Run.look .clock fun world => .ok world.now
  match classifyInterruptClaim runtime turnId now with
  | .matched => do
      recordRestart path names turnId now
      return { keepRunning := true, restartPromptPending := true }
  | .unclaimed =>
      if runtime.view.goalCompanion then
        return { keepRunning := false, failureReason := some "turn_interrupted_external" }
      else if runtime.shutdownRequested then do
        disableSession
        return { keepRunning := false }
      else do
        recordFinished path turnId
        return { keepRunning := true }
  | .expired => return { keepRunning := false, failureReason := some "interrupt_claim_expired" }
  | .mismatch => return { keepRunning := false, failureReason := some "interrupt_claim_mismatch" }

/-- `resolve_turn_outcome`. -/
def resolveTurnOutcome (runtime : ManagerRuntime) (turnId : PyText) (outcome : TurnOutcome) :
    Tick TurnResolution :=
  match outcome with
  | .completed =>
      if runtime.shutdownRequested then do
        (if runtime.shutdownInterrupt then disableSession else completeSession)
        return { keepRunning := false }
      else resolveCompleted path runtime turnId
  | .interrupted => resolveInterrupted path names runtime turnId
  | .failed => return { keepRunning := false, failureReason := some "turn_failed" }
  | .inProgress | .invalid =>
      return { keepRunning := false, failureReason := some "turn_status_invalid" }

/-! ### Shutdown -/

/-- What a shutdown does once the exact turn is the active one. -/
def interruptForShutdown (runtime : ManagerRuntime) (turnId : PyText) : Tick Bool := do
  ask (.interruptTurn runtime.sessionId turnId)
  let completed ← Run.look .waitCompleted fun world => .ok (world.server.turnCompleted turnId)
  if completed then do
    (if runtime.messagePreset = pyText "cleanup" then ask (.cleanTerminals runtime.sessionId)
      else pure ())
    disableSession
    return false
  else failManager path "interrupt_timeout"

/-- `handle_shutdown`, without a guard. -/
def handleShutdown (runtime : ManagerRuntime) : Tick Bool :=
  match runtime.view.managedTurnId with
  | none => do
      disableSession
      return false
  | some turnId =>
      if !runtime.shutdownInterrupt then return true
      else do
        let active ← Run.look .active fun world =>
          .ok (world.server.activeTurn runtime.sessionId)
        if active ≠ some turnId then failManager path "active_turn_mismatch"
        else if runtime.view.goalCompanion then failManager path "goal_identity_missing"
        else interruptForShutdown path runtime turnId

/-! ### The tick -/

/-- `_execute_decision`; `interruptTurn` is the interrupt of a turn whose restart is requested,
and `_resume_goal` fails for want of a guard. -/
def executeDecision (interruptTurn : ManagerRuntime → PyText → Tick Bool)
    (runtime : ManagerRuntime) : Tick Bool := do
  let active ← Run.look .active fun world => .ok (world.server.activeTurn runtime.sessionId)
  let decision := decideManagerAction runtime.view active
  match decision.action with
  | .start => startTurn path names runtime
  | .resumeGoal => Run.raise (.goal "goal_identity_missing")
  | .interrupt =>
      match decision.turnId with
      | none => failManager path "app_server_failed"
      | some turnId => interruptTurn runtime turnId
  | .failClosed => failManager path (decision.reasonCode.getD "app_server_failed")
  | .wait => return true
  | .stop => return false

/-- The outcome of the managed turn, where there is one. -/
def managedOutcome (runtime : ManagerRuntime) : Tick (Option (PyText × TurnOutcome)) :=
  match runtime.view.managedTurnId with
  | none => return none
  | some turnId => do
      let outcome ← Run.look (.outcome turnId) fun world => .ok (world.server.turnOutcome turnId)
      return outcome.map fun outcome => (turnId, outcome)

/-- The `try` of `_tick_runtime`. -/
def tickBody (interruptTurn : ManagerRuntime → PyText → Tick Bool) (runtime : ManagerRuntime) :
    Tick Bool := do
  let request ← Run.look .serverRequest fun world => .ok world.server.pendingServerRequest
  if request.isSome then failManager path "server_request_unhandled"
  else
    match runtime.pendingTurnId with
    | some turnId => reconcilePendingTurn path runtime turnId
    | none => do
        let ended ← managedOutcome runtime
        match ended with
        | some (turnId, outcome) => do
            let resolution ← resolveTurnOutcome path names runtime turnId outcome
            match resolution.failureReason with
            | some reasonCode => failManager path reasonCode
            | none => do
                remember fun memory =>
                  { memory with restartPromptPending := resolution.restartPromptPending }
                return resolution.keepRunning
        | none =>
            if runtime.shutdownRequested then handleShutdown path runtime
            else executeDecision path names interruptTurn runtime

/-- `_tick_runtime`. -/
def tickRuntime (interruptTurn : ManagerRuntime → PyText → Tick Bool)
    (runtime : ManagerRuntime) : Tick Bool :=
  Run.attempt (tickBody path names interruptTurn runtime) fun error =>
    match error with
    | .goal reasonCode =>
        if reasonCode = "goal_complete" then do
          disableSession
          return false
        else failManager path reasonCode
    | other => Run.raise other

/-- `tick`. -/
def tick (interruptTurn : ManagerRuntime → PyText → Tick Bool) : Tick Bool := do
  let runtime ← loadRuntime path names .load
  match runtime with
  | none => return false
  | some runtime => tickRuntime path names interruptTurn runtime

/-- Ticks one after another, each under what happens around it, until the process dies. -/
def ticks (interruptTurn : ManagerRuntime → PyText → Tick Bool) :
    List (Disturbance Place World TurnFailure) → World → Outcome World TurnFailure Unit
  | [], world => .returned () world
  | weather :: rest, world =>
      match tick path names interruptTurn weather world with
      | .returned _ next => ticks interruptTurn rest next
      | .raised _ next => ticks interruptTurn rest next
      | .crashed next => .crashed next

end Operations

end CodexMustWork.ManagedTurns
