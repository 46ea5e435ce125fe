import CodexMustWork.McpAnswers

/-!
# Failures below a tool call

Which exceptions of the operations below a validated tool call reach the client
as a tool error.  Each tool translates exceptions on its own; two of them escape:
an `OSError` of the settings or calibration files, and the `SchedulerError` of a
scheduler that is fatal.
-/

namespace CodexMustWork

/-- An exception of an operation below a tool: a file operation, or the scheduler. -/
inductive OperationFailure where
  | storage (failure : StorageFailure)
  | scheduler
deriving DecidableEq, Repr

/-- The class of an exception of the watcher, when it is one of storage. -/
def Failure.storage : Failure → Option StorageFailure
  | .corruptState .. | .futureSchema _ | .stateLockTimeout _ => some .stateError
  | .unsafeRolloutPath | .osError => some .osError
  | .sinkError | .valueError | .recursionError => none

theorem serviceError_of_storage {failure : Failure} {kind : StorageFailure}
    (hkind : failure.storage = some kind) :
    serviceError failure = .monitoringStateUnavailable := by
  cases failure <;> first | rfl | cases hkind

/-- An operation of one ticket consumption raises: those before the record is read, the
    reading, the replacement of the record, and the release of the lock. -/
inductive TicketFails (H : Digest) (key : ControlKey) (faults : TicketFaults) (now : Int)
    (store : ActivationTicketStore) (identity : ActivationIdentity) (capability : String) : Prop
  | prepare {fault : FileFault} (valid : activationIdentityIsValid identity = true)
      (raised : faults.prepare = some fault)
  | read (valid : activationIdentityIsValid identity = true) (reached : faults.prepare = none)
      (raised : store (ticketName H identity.sessionId) = .unreadable)
  | write {ticket : ActivationTicketRecord} {fault : FileFault}
      (valid : activationIdentityIsValid identity = true) (reached : faults.prepare = none)
      (held : store (ticketName H identity.sessionId) = .holds ticket)
      (live : ticket.consumed = false)
      (accepted : rejectionReason key now ticket identity capability = .ok none)
      (raised : faults.write = some fault)
  | release {fault : FileFault} (valid : activationIdentityIsValid identity = true)
      (reached : faults.prepare = none) (raised : faults.release = some fault)

theorem consumeError_reasonCode (fault : FileFault) :
    (ActivationTicketStore.consumeError fault).reasonCode.isSome = true := by
  cases fault <;> rfl

/-- A consumption with a failing operation raises an `ActivationTicketError`. -/
theorem consume_of_fails {H : Digest} {key : ControlKey} {faults : TicketFaults} {now : Int}
    {store : ActivationTicketStore} {identity : ActivationIdentity} {capability : String}
    (hfails : TicketFails H key faults now store identity capability) :
    ∃ error, (ActivationTicketStore.consume H key faults now store identity capability).2 =
      .error error ∧ error.reasonCode.isSome = true := by
  -- A release that raises hides what was raised under the lock.
  have hlocked : activationIdentityIsValid identity = true → faults.prepare = none →
      (∃ error, (ActivationTicketStore.consumeLocked H key faults now store identity
        capability).2 = .error error ∧ error.reasonCode.isSome = true) →
      ∃ error, (ActivationTicketStore.consume H key faults now store identity capability).2 =
        .error error ∧ error.reasonCode.isSome = true := by
    intro valid reached hbody
    unfold ActivationTicketStore.consume
    simp only [valid, reached]
    cases faults.release with
    | none => exact hbody
    | some fault => exact ⟨_, rfl, consumeError_reasonCode fault⟩
  cases hfails with
  | @prepare fault valid raised =>
      refine ⟨_, ?_, consumeError_reasonCode fault⟩
      simp [ActivationTicketStore.consume, valid, raised]
  | read valid reached raised =>
      exact hlocked valid reached
        ⟨.invalid, by simp [ActivationTicketStore.consumeLocked, raised], rfl⟩
  | @write ticket fault valid reached held live accepted raised =>
      refine hlocked valid reached ⟨_, ?_, consumeError_reasonCode fault⟩
      simp [ActivationTicketStore.consumeLocked, held, live, accepted, raised,
        ActivationTicketStore.writeTicket]
  | @release fault valid reached raised =>
      refine ⟨_, ?_, consumeError_reasonCode fault⟩
      simp [ActivationTicketStore.consume, valid, reached, raised]

namespace McpServer

/-- An operation below the validated call raises. -/
inductive Fails (H : Digest) (key : ControlKey) (env : LineEnvironment) (server : McpServer) :
    ToolCall → OperationFailure → Prop
  | ticket {parsed : ParsedStartRequest} {authorized : AuthorizedSession}
      (failure : StorageFailure)
      (raised : TicketFails H key env.tickets env.ticketTime server.tickets
        ⟨authorized.sessionId, parsed.activationTurnId, parsed.request.transcriptPath⟩
        authorized.capability) :
      Fails H key env server (.workOn parsed authorized) (.storage failure)
  | readSession {parsed : ParsedStartRequest} {authorized : AuthorizedSession}
      {transcript : RelativeTranscript} {failure : Failure} {kind : StorageFailure}
      (accepted : ticketOutcome H key env server parsed authorized = .ok ())
      (isOpen : server.service.closed = false) (found : env.start.transcript = some transcript)
      (raised : server.service.root.runtime.lookup
        (sessionFilename H parsed.request.sessionId) = some (.error failure))
      (ofKind : failure.storage = some kind) :
      Fails H key env server (.workOn parsed authorized) (.storage kind)
  | saveSession {parsed : ParsedStartRequest} {authorized : AuthorizedSession}
      {transcript : RelativeTranscript} {failure : Failure} {kind : StorageFailure}
      (accepted : ticketOutcome H key env server parsed authorized = .ok ())
      (isOpen : server.service.closed = false) (found : env.start.transcript = some transcript)
      (fresh : server.service.root.runtime.lookup
        (sessionFilename H parsed.request.sessionId) = none)
      (raised : env.start.save = some failure) (ofKind : failure.storage = some kind) :
      Fails H key env server (.workOn parsed authorized) (.storage kind)
  | releaseSession {parsed : ParsedStartRequest} {authorized : AuthorizedSession}
      {transcript : RelativeTranscript} {failure : Failure} {kind : StorageFailure}
      (accepted : ticketOutcome H key env server parsed authorized = .ok ())
      (isOpen : server.service.closed = false) (found : env.start.transcript = some transcript)
      (fresh : server.service.root.runtime.lookup
        (sessionFilename H parsed.request.sessionId) = none) (saved : env.start.save = none)
      (raised : env.start.release = some failure) (ofKind : failure.storage = some kind) :
      Fails H key env server (.workOn parsed authorized) (.storage kind)
  | schedule {parsed : ParsedStartRequest} {authorized : AuthorizedSession} {root : StateRoot}
      {reused : Bool} (accepted : ticketOutcome H key env server parsed authorized = .ok ())
      (isOpen : server.service.closed = false)
      (started : startNotificationSession H env.start server.service.root parsed.request
        env.wallTime = (root, .ok reused))
      (raised : server.service.health = .fatal) :
      Fails H key env server (.workOn parsed authorized) .scheduler
  | removeStopped {sessionId : ToolText} {failure : Failure} {kind : StorageFailure}
      (isOpen : server.service.closed = false)
      (raised : (removeNotificationSession H env.remove server.service.root sessionId.val).2 =
        .error failure)
      (ofKind : failure.storage = some kind) :
      Fails H key env server (.stop sessionId) (.storage kind)
  | readStatus {sessionId : ToolText} {failure : Failure} {kind : StorageFailure}
      (isOpen : server.service.closed = false)
      (raised : notificationSessionActive H server.service.root sessionId.val = .error failure)
      (ofKind : failure.storage = some kind) :
      Fails H key env server (.status sessionId) (.storage kind)
  | mark {sessionId : ToolText} {failure : Failure} {kind : StorageFailure}
      (isOpen : server.service.closed = false)
      (raised : (markNotificationSessionComplete H env.mark server.service.root
        sessionId.val).2 = .error failure)
      (ofKind : failure.storage = some kind) :
      Fails H key env server (.complete sessionId) (.storage kind)
  | tick {sessionId : ToolText} {root : StateRoot} {failure : Failure} {kind : StorageFailure}
      (isOpen : server.service.closed = false)
      (marked : markNotificationSessionComplete H env.mark server.service.root sessionId.val =
        (root, .ok true))
      (raised : (({ server.service with root }).tickEngine H env.tick).2.2 = .error failure)
      (ofKind : failure.storage = some kind) :
      Fails H key env server (.complete sessionId) (.storage kind)
  | removeTicked {sessionId : ToolText} {root : StateRoot} {active : Bool} {failure : Failure}
      {kind : StorageFailure} (isOpen : server.service.closed = false)
      (marked : markNotificationSessionComplete H env.mark server.service.root sessionId.val =
        (root, .ok true))
      (ticked : (({ server.service with root }).tickEngine H env.tick).2.2 = .ok active)
      (raised : (removeNotificationSession H env.remove
        (({ server.service with root }).tickEngine H env.tick).1.root sessionId.val).2 =
          .error failure)
      (ofKind : failure.storage = some kind) :
      Fails H key env server (.complete sessionId) (.storage kind)
  | removeUnmarked {sessionId : ToolText} {root : StateRoot} {failure : Failure}
      {kind : StorageFailure} (isOpen : server.service.closed = false)
      (marked : markNotificationSessionComplete H env.mark server.service.root sessionId.val =
        (root, .ok false))
      (raised : (removeNotificationSession H env.remove root sessionId.val).2 = .error failure)
      (ofKind : failure.storage = some kind) :
      Fails H key env server (.complete sessionId) (.storage kind)
  | showSettings {failure : StorageFailure}
      (raised : ThresholdSettingsStore.load env.settings server.settings =
        .error (.storage failure)) :
      Fails H key env server (.settings .show) (.storage failure)
  | setSettings {call : SettingsCall}
      {operation : ThresholdSettingsFiles →
        ThresholdSettingsFiles × Except SettingsFailure ThresholdSettingsSnapshot}
      {failure : StorageFailure} {saved : Option ThresholdSettingsSnapshot}
      (sets : setOperation env.settings call = some operation)
      (raised : (operation server.settings).2 = .error (.storage failure saved)) :
      Fails H key env server (.settings call) (.storage failure)
  | startSetup {setup : NotificationSetupCoordinator} {failure : StorageFailure}
      (raised : (setup.start env.setup).2 = .error failure) :
      Fails H key env server (.setup setup) (.storage failure)

/-- The failures no `except` arm of the tool names. -/
def escapes : ToolCall → OperationFailure → Bool
  | .settings _, .storage .osError => true
  | .workOn .., .scheduler => true
  | _, _ => false

section Outcomes

variable {H : Digest} {key : ControlKey} {env : LineEnvironment} {server : McpServer}

/-- The tool answers, and says that it failed. -/
def Reports (outcome : Except Raised ToolAnswer) : Prop :=
  ∃ answer, outcome = .ok answer ∧ answer.isError = true

theorem controlAnswer_reports {error : ServiceError} (hreason : error.reasonCode.isSome = true) :
    Reports (controlAnswer (Except.mapError .service (.error error))) := by
  obtain ⟨reason, hreason⟩ := Option.isSome_iff_exists.mp hreason
  exact ⟨toolError reason, by simp [controlAnswer, Except.mapError, hreason], rfl⟩

theorem controlAnswer_escapes {error : ServiceError} (hreason : error.reasonCode = none) :
    ∃ raised, controlAnswer (Except.mapError .service (.error error)) = .error raised :=
  ⟨.service error, by simp [controlAnswer, Except.mapError, hreason]⟩

/-- With its ticket accepted, a start is what the service makes of it. -/
theorem workOn_of_authorized {parsed : ParsedStartRequest} {authorized : AuthorizedSession}
    (haccepted : ticketOutcome H key env server parsed authorized = .ok ()) :
    (runToolCall H key env ⟨server, []⟩ (.workOn parsed authorized)).2 =
      controlAnswer
        ((server.service.start H env.start env.wallTime parsed.request).2.mapError .service) := by
  obtain ⟨handling, hservice, -, hrun⟩ := runWorkOn_of_accepted haccepted
  change (answered controlAnswer (runWorkOn H key env parsed authorized ⟨server, []⟩)).2 = _
  rw [hrun, ← hservice]
  rfl

theorem start_of_error {request : StartRequest} {error : ServiceError}
    (hopen : server.service.closed = false)
    (hstart : (startNotificationSession H env.start server.service.root request
      env.wallTime).2 = .error error) :
    (server.service.start H env.start env.wallTime request).2 = .error error := by
  unfold NotificationDaemon.start
  cases hsession : startNotificationSession H env.start server.service.root request env.wallTime with
  | mk root outcome =>
      rw [hsession] at hstart
      dsimp only at hstart
      subst hstart
      simp [hopen]

theorem start_of_fatal {request : StartRequest} {root : StateRoot} {reused : Bool}
    (hopen : server.service.closed = false)
    (hstart : startNotificationSession H env.start server.service.root request env.wallTime =
      (root, .ok reused))
    (hfatal : server.service.health = .fatal) :
    (server.service.start H env.start env.wallTime request).2 = .error .schedulerUnavailable := by
  simp [NotificationDaemon.start, hopen, hstart, NotificationDaemon.scheduleTick, hfatal]

theorem complete_of_mark {sessionId : String} {failure : Failure}
    (hopen : server.service.closed = false)
    (hmark : (markNotificationSessionComplete H env.mark server.service.root sessionId).2 =
      .error failure) :
    (server.service.complete H ⟨env.mark, env.remove⟩ env.tick sessionId).2.2 =
      .error (serviceError failure) := by
  unfold NotificationDaemon.complete
  cases hmarked : markNotificationSessionComplete H env.mark server.service.root sessionId with
  | mk root outcome =>
      rw [hmarked] at hmark
      dsimp only at hmark
      subst hmark
      simp [hopen]

/-- A marked completion is what its tick and its removal make of it. -/
theorem complete_of_marked {sessionId : String} {root : StateRoot}
    (hopen : server.service.closed = false)
    (hmarked : markNotificationSessionComplete H env.mark server.service.root sessionId =
      (root, .ok true)) :
    (server.service.complete H ⟨env.mark, env.remove⟩ env.tick sessionId).2.2 =
      match (({ server.service with root }).tickEngine H env.tick).2.2 with
      | .error failure => .error (serviceError failure)
      | .ok _ =>
          match (removeNotificationSession H env.remove
            (({ server.service with root }).tickEngine H env.tick).1.root sessionId).2 with
          | .error failure => .error (serviceError failure)
          | .ok _ => .ok ⟨sessionId, .completed, false, none⟩ := by
  unfold NotificationDaemon.complete
  rw [if_neg (by simp [hopen]), hmarked]
  dsimp only
  rw [if_pos rfl]
  cases htick : ({ server.service with root }).tickEngine H env.tick with
  | mk service rest =>
      obtain ⟨queued, outcome⟩ := rest
      cases outcome with
      | error failure => rfl
      | ok active =>
          dsimp only
          cases removeNotificationSession H env.remove service.root sessionId with
          | mk removed outcome => cases outcome <;> rfl

theorem complete_of_unmarked {sessionId : String} {root : StateRoot} {failure : Failure}
    (hopen : server.service.closed = false)
    (hmarked : markNotificationSessionComplete H env.mark server.service.root sessionId =
      (root, .ok false))
    (hremove : (removeNotificationSession H env.remove root sessionId).2 = .error failure) :
    (server.service.complete H ⟨env.mark, env.remove⟩ env.tick sessionId).2.2 =
      .error (serviceError failure) := by
  unfold NotificationDaemon.complete
  rw [if_neg (by simp [hopen]), hmarked]
  dsimp only
  rw [if_neg (by decide)]
  cases hremoved : removeNotificationSession H env.remove root sessionId with
  | mk removed outcome =>
      rw [hremoved] at hremove
      dsimp only at hremove
      subst hremove
      rfl

theorem stop_of_error {sessionId : String} {failure : Failure}
    (hopen : server.service.closed = false)
    (hremove : (removeNotificationSession H env.remove server.service.root sessionId).2 =
      .error failure) :
    (server.service.stop H env.remove sessionId).2 = .error (serviceError failure) := by
  unfold NotificationDaemon.stop
  cases hremoved : removeNotificationSession H env.remove server.service.root sessionId with
  | mk removed outcome =>
      rw [hremoved] at hremove
      dsimp only at hremove
      subst hremove
      simp [hopen]

/-- A control that ends with a storage failure is answered with a tool error. -/
theorem control_reports {outcome : Except ServiceError ToolResult} {failure : Failure}
    {kind : StorageFailure} (houtcome : outcome = .error (serviceError failure))
    (hkind : failure.storage = some kind) :
    Reports (controlAnswer (outcome.mapError .service)) := by
  rw [houtcome, serviceError_of_storage hkind]
  exact controlAnswer_reports rfl

/-- **Translation.**  A failing operation is reported by the tool, unless it escapes. -/
theorem run_of_fails {call : ToolCall} {failure : OperationFailure}
    (hfails : Fails H key env server call failure) :
    (escapes call failure = false → Reports (runToolCall H key env ⟨server, []⟩ call).2) ∧
      (escapes call failure = true →
        ∃ raised, (runToolCall H key env ⟨server, []⟩ call).2 = .error raised) := by
  cases hfails with
  | @ticket parsed authorized kind raised =>
      refine ⟨fun _ => ?_, by rintro ⟨⟩⟩
      obtain ⟨error, herror, hreason⟩ := consume_of_fails raised
      obtain ⟨reason, hreason⟩ := Option.isSome_iff_exists.mp hreason
      have houtcome : (runWorkOn H key env parsed authorized ⟨server, []⟩).2 = .error (.ticket error) :=
        (runWorkOn_of_refused herror).1
      refine ⟨toolError reason, ?_, rfl⟩
      change controlAnswer (runWorkOn H key env parsed authorized ⟨server, []⟩).2 = _
      rw [houtcome]
      simp [controlAnswer, hreason]
  | @readSession parsed authorized transcript failure kind accepted isOpen found raised ofKind =>
      refine ⟨fun _ => ?_, by rintro ⟨⟩⟩
      have hstart : (startNotificationSession H env.start server.service.root parsed.request
          env.wallTime).2 = .error .monitoringStateUnavailable := by
        simp [startNotificationSession, found, raised]
      rw [workOn_of_authorized accepted, start_of_error isOpen hstart]
      exact controlAnswer_reports rfl
  | @saveSession parsed authorized transcript failure kind accepted isOpen found fresh raised ofKind =>
      refine ⟨fun _ => ?_, by rintro ⟨⟩⟩
      have hstart : (startNotificationSession H env.start server.service.root parsed.request
          env.wallTime).2 = .error .monitoringStateUnavailable := by
        simp [startNotificationSession, found, fresh, raised]
      rw [workOn_of_authorized accepted, start_of_error isOpen hstart]
      exact controlAnswer_reports rfl
  | @releaseSession parsed authorized transcript failure kind accepted isOpen found fresh saved
      raised ofKind =>
      refine ⟨fun _ => ?_, by rintro ⟨⟩⟩
      have hstart : (startNotificationSession H env.start server.service.root parsed.request
          env.wallTime).2 = .error .monitoringStateUnavailable := by
        simp [startNotificationSession, found, fresh, saved, raised]
      rw [workOn_of_authorized accepted, start_of_error isOpen hstart]
      exact controlAnswer_reports rfl
  | @schedule parsed authorized root reused accepted isOpen started raised =>
      refine ⟨by rintro ⟨⟩, fun _ => ?_⟩
      rw [workOn_of_authorized accepted, start_of_fatal isOpen started raised]
      exact controlAnswer_escapes rfl
  | @removeStopped sessionId failure kind isOpen raised ofKind =>
      exact ⟨fun _ => control_reports (stop_of_error isOpen raised) ofKind,
        by rintro ⟨⟩⟩
  | @readStatus sessionId failure kind isOpen raised ofKind =>
      refine ⟨fun _ => control_reports ?_ ofKind, by rintro ⟨⟩⟩
      change server.service.status H sessionId.val = _
      simp [NotificationDaemon.status, isOpen, raised]
  | @mark sessionId failure kind isOpen raised ofKind =>
      exact ⟨fun _ => control_reports (complete_of_mark isOpen raised) ofKind,
        by rintro ⟨⟩⟩
  | @tick sessionId root failure kind isOpen marked raised ofKind =>
      refine ⟨fun _ => control_reports ?_ ofKind, by rintro ⟨⟩⟩
      change (server.service.complete H ⟨env.mark, env.remove⟩ env.tick sessionId.val).2.2 = _
      rw [complete_of_marked isOpen marked, raised]
  | @removeTicked sessionId root active failure kind isOpen marked ticked raised ofKind =>
      refine ⟨fun _ => control_reports ?_ ofKind, by rintro ⟨⟩⟩
      change (server.service.complete H ⟨env.mark, env.remove⟩ env.tick sessionId.val).2.2 = _
      rw [complete_of_marked isOpen marked, ticked]
      dsimp only
      rw [raised]
  | @removeUnmarked sessionId root failure kind isOpen marked raised ofKind =>
      exact ⟨fun _ => control_reports (complete_of_unmarked isOpen marked raised) ofKind,
        by rintro ⟨⟩⟩
  | @showSettings kind raised =>
      have houtcome : (runToolCall H key env ⟨server, []⟩ (.settings .show)).2 =
          settingsAnswer (.error (.storage kind)) := by
        change settingsAnswer ((ThresholdSettingsStore.load env.settings server.settings).mapError
          raisedBySettings) = _
        rw [raised]
        rfl
      rw [houtcome]
      cases kind with
      | osError => exact ⟨by rintro ⟨⟩, fun _ => ⟨_, rfl⟩⟩
      | stateError => exact ⟨fun _ => ⟨_, rfl, rfl⟩, by rintro ⟨⟩⟩
  | @setSettings settingsCall operation kind saved sets raised =>
      have houtcome : (runToolCall H key env ⟨server, []⟩ (.settings settingsCall)).2 =
          settingsAnswer (.error (.storage kind)) := by
        change settingsAnswer (runSettings env ⟨server, []⟩ settingsCall).2 = _
        unfold runSettings
        rw [sets]
        rcases onSettings_cases operation ⟨server, []⟩ with
          ⟨selected, hreturned, _⟩ | ⟨failure, hfailed, hsame, _⟩
        · rw [raised] at hreturned
          cases hreturned
        · rw [raised] at hfailed
          cases hfailed
          exact congrArg settingsAnswer hsame
      rw [houtcome]
      cases kind with
      | osError => exact ⟨by rintro ⟨⟩, fun _ => ⟨_, rfl⟩⟩
      | stateError => exact ⟨fun _ => ⟨_, rfl, rfl⟩, by rintro ⟨⟩⟩
  | @startSetup setup kind raised =>
      refine ⟨fun _ => ⟨toolError stateUnavailable, ?_, rfl⟩, by rintro ⟨⟩⟩
      change setupAnswer (setup.start env.setup).2 = _
      rw [raised]
      rfl

end Outcomes

/-! ### Serving -/

/-- One line of the client with what its handling meets. -/
structure Frame where
  env : LineEnvironment
  rawLine : Option String
  framingError : Bool := false

section Serving

variable (library : PythonLibrary) (H : Digest) (key : ControlKey)

/-- `serve_lines`, on an output that takes every answer: the answers, and the exception that
    ended the loop before the end of the input. -/
def serveLines : List Frame → McpServer → List (JsonRpcResponse McpResult) × Option Raised
  | [], _ => ([], none)
  | frame :: rest, server =>
      if frame.framingError then
        let later := serveLines rest server
        (errorResponse invalidRequest :: later.1, later.2)
      else
        match handleLine library H key frame.env frame.rawLine server with
        | (_, .error raised) => ([], some raised)
        | (handling, .ok response) =>
            let later := serveLines rest handling.server
            (response.toList ++ later.1, later.2)

/-- The line is answered with a tool error, and the loop goes on with the next one. -/
def ReportsAndServes (env : LineEnvironment) (rawLine : Option String) (server : McpServer)
    (requestId : JsonRpcId) : Prop :=
  ∃ handling answer, handleLine library H key env rawLine server =
      (handling, .ok (some (.success requestId (.tool answer)))) ∧ answer.isError = true ∧
    ∀ rest, serveLines library H key (⟨env, rawLine, false⟩ :: rest) server =
      (.success requestId (.tool answer) :: (serveLines library H key rest handling.server).1,
        (serveLines library H key rest handling.server).2)

end Serving

section Lines

variable {library : PythonLibrary} {H : Digest} {key : ControlKey} {env : LineEnvironment}
  {server : McpServer}

/-- **Failures below a tool call.**  A validated call with an identity, below which an
    operation fails, is answered with a tool error, exactly when the failure does not
    escape its tool. -/
theorem failure_reported_iff {rawLine : Option String} {request : JsonRpcRequest}
    {requestId : JsonRpcId} {call : ToolCall} {failure : OperationFailure}
    (hready : server.ready = true)
    (hdecoded : decodeRequest library.parseJson rawLine = .ok request)
    (hmethod : request.method = "tools/call") (hidentity : request.requestId = some requestId)
    (hparsed : parseToolCall library key server.notificationSetup request = .ok call)
    (hfails : Fails H key env server call failure) :
    ReportsAndServes library H key env rawLine server requestId ↔
      escapes call failure = false := by
  obtain ⟨hreports, hraises⟩ := run_of_fails hfails
  have hrequest := decodeRequest_identity hdecoded hidentity
  have hhandled : handleLine library H key env rawLine server =
      ((runToolCall H key env ⟨server, []⟩ call).1,
        answer request ((runToolCall H key env ⟨server, []⟩ call).2.map .tool)) := by
    rw [handleLine_of_decoded hdecoded, dispatch_toolsCall hready hmethod, hparsed]
    rfl
  constructor
  · rintro ⟨handling, toolAnswer, hline, _, _⟩
    cases hescapes : escapes call failure with
    | false => rfl
    | true =>
        obtain ⟨raised, hraised⟩ := hraises hescapes
        have hother : ∀ error, raised ≠ .jsonRpc error := by
          rintro error rfl
          exact (runToolCall_runAs call).1 error hraised
        rw [hhandled, hraised, Except.map, answer_of_raised hother] at hline
        cases congrArg Prod.snd hline
  · intro hescapes
    obtain ⟨toolAnswer, hanswer, herror⟩ := hreports hescapes
    rw [hanswer] at hhandled
    simp only [Except.map, answer, hrequest, hidentity, Bool.false_eq_true, if_false] at hhandled
    refine ⟨_, toolAnswer, hhandled, herror, ?_⟩
    intro rest
    simp [serveLines, hhandled]

end Lines

/-! ### A failure that escapes, and one that does not -/

/-- An environment in which the settings file cannot be read. -/
def unreadableSettings : LineEnvironment :=
  { sampleEnvironment with settings := { settings := some .osError } }

/-- Showing settings that cannot be read raises the `OSError` out of the server. -/
theorem settings_osError_escapes :
    Fails .transparent sampleKey unreadableSettings sampleServer (.settings .show)
        (.storage .osError) ∧
      (handleLine (sampleLibrary (sampleLine "1" "cmw.settings")
          (sampleCall (.integer 1) "cmw.settings")) .transparent sampleKey unreadableSettings
          (some (sampleLine "1" "cmw.settings")) sampleServer).2 =
        .error (.storage .osError) := by
  have hhooked : (sampleCall (.integer 1) "cmw.settings").hooked =
      .ok (sampleValue (.integer 1) "cmw.settings") := rfl
  have hrequest : requestOfJson (sampleValue (.integer 1) "cmw.settings") =
      .ok (sampleToolRequest (some (.number 1)) "cmw.settings") := rfl
  have hsize : (sampleLine "1" "cmw.settings").utf8ByteSize ≤ maxRawLineBytes := by
    decide +kernel
  refine ⟨.showSettings rfl, ?_⟩
  rw [handleLine_of_decoded (decodeRequest_sample hsize hhooked hrequest)]
  rfl

/-- An environment in which the runtime file cannot be removed. -/
def unremovableSession : LineEnvironment :=
  { sampleEnvironment with remove := { runtime := some .osError } }

/-- A stop whose removal fails is answered with a tool error. -/
theorem failure_reported_iff_sample :
    ReportsAndServes (sampleLibrary (sampleLine "1" "cmw.stop")
        (sampleCall (.integer 1) "cmw.stop")) .transparent sampleKey unremovableSession
        (some (sampleLine "1" "cmw.stop")) sampleServer (.number 1) ↔
      escapes (.stop ⟨"s", by decide⟩) (.storage .osError) = false := by
  have hhooked : (sampleCall (.integer 1) "cmw.stop").hooked =
      .ok (sampleValue (.integer 1) "cmw.stop") := rfl
  have hrequest : requestOfJson (sampleValue (.integer 1) "cmw.stop") =
      .ok (sampleToolRequest (some (.number 1)) "cmw.stop") := rfl
  have hsize : (sampleLine "1" "cmw.stop").utf8ByteSize ≤ maxRawLineBytes := by decide +kernel
  exact failure_reported_iff rfl (decodeRequest_sample hsize hhooked hrequest) rfl rfl rfl
    (.removeStopped rfl rfl rfl)

end McpServer

end CodexMustWork
