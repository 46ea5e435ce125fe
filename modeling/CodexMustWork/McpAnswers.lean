import CodexMustWork.McpDispatch

/-!
# Error answers

A tool call is validated before anything is performed: `parseToolCall` makes the
checks spread over `_call_tool` and its callees, and `runToolCall` performs what
it admits.  A request with the identity `null` is validated like any other, and
is answered with an error only after it was performed.
-/

namespace CodexMustWork

/-- A validated settings request. -/
inductive SettingsCall where
  | show
  | default
  | recommended
  | custom (warning critical : ToolDuration)

/-- A validated and authorized tool call. -/
inductive ToolCall where
  | workOn (parsed : ParsedStartRequest) (authorized : AuthorizedSession)
  | stop (sessionId : ToolText)
  | status (sessionId : ToolText)
  | complete (sessionId : ToolText)
  | settings (call : SettingsCall)
  | setup (setup : NotificationSetupCoordinator)

namespace McpServer

variable (library : PythonLibrary) (H : Digest) (key : ControlKey) (env : LineEnvironment)

/-! ### Validation -/

def parseSettingsCall (arguments : JsonObject) (requestId : Option JsonRpcId) :
    Except JsonRpcError SettingsCall :=
  match validateSettings arguments requestId with
  | .error error => .error error
  | .ok .show => .ok .show
  | .ok .default => .ok .default
  | .ok .recommended => .ok .recommended
  | .ok .custom =>
      match settingsInteger arguments requestId "warning_after_ms" with
      | .error error => .error error
      | .ok warning => (settingsInteger arguments requestId "critical_after_ms").map (.custom warning)

def parseControl (name : String) (arguments : JsonObject) (requestId : Option JsonRpcId)
    (authorized : AuthorizedSession) : Except JsonRpcError ToolCall :=
  if name = "cmw.work_on" then
    (parseStartRequest arguments requestId library.renderPath).map (.workOn · authorized)
  else if name = "cmw.stop" then (parseSessionRequest arguments requestId).map .stop
  else if name = "cmw.status" then (parseSessionRequest arguments requestId).map .status
  else (parseSessionRequest arguments requestId).map .complete

def parseSetup (setup : Option NotificationSetupCoordinator) (arguments : JsonObject)
    (requestId : Option JsonRpcId) : Except JsonRpcError ToolCall :=
  if !membersAmong arguments sessionKeys then .error (invalidParams requestId)
  else
    match setup with
    | none => .error (invalidRequest requestId)
    | some setup => .ok (.setup setup)

/-- Every check a tool call goes through. -/
def parseToolCall (setup : Option NotificationSetupCoordinator) (request : JsonRpcRequest) :
    Except JsonRpcError ToolCall :=
  match toolOfParams request with
  | .error error => .error error
  | .ok (name, arguments) =>
      match requireAuthorized arguments request.requestId key with
      | .error error => .error error
      | .ok authorized =>
          if name = "cmw.notifications.setup" then parseSetup setup arguments request.requestId
          else if name = "cmw.settings" then
            (parseSettingsCall arguments request.requestId).map .settings
          else parseControl library name arguments request.requestId authorized

/-! ### Performance -/

def runWorkOn (parsed : ParsedStartRequest) (authorized : AuthorizedSession)
    (handling : Handling) : Handling × Except Raised ToolResult :=
  match consumeTicket H key env
      ⟨authorized.sessionId, parsed.activationTurnId, parsed.request.transcriptPath⟩
      authorized.capability handling with
  | (handling, .error raised) => (handling, .error raised)
  | (handling, .ok _) => serviceStart H env parsed.request handling

/-- The set operation of a settings request, if it is one. -/
def setOperation (faults : SettingsFaults) :
    SettingsCall → Option (ThresholdSettingsFiles →
      ThresholdSettingsFiles × Except SettingsFailure ThresholdSettingsSnapshot)
  | .show => none
  | .default => some (ThresholdSettingsStore.setDefault faults)
  | .recommended => some (ThresholdSettingsStore.setRecommended faults)
  | .custom warning critical =>
      some fun files => ThresholdSettingsStore.setCustom faults files warning.val critical.val

def runSettings (handling : Handling) (call : SettingsCall) :
    Handling × Except Raised ThresholdSettingsSnapshot :=
  match setOperation env.settings call with
  | none => showSettings env handling
  | some operation => onSettings operation handling

/-- Answer a control with its outcome. -/
def answered {α : Type} (answer : Except Raised α → Except Raised ToolAnswer)
    (outcome : Handling × Except Raised α) : Handling × Except Raised ToolAnswer :=
  (outcome.1, answer outcome.2)

/-- Perform a validated call. -/
def runToolCall (handling : Handling) : ToolCall → Handling × Except Raised ToolAnswer
  | .workOn parsed authorized =>
      answered controlAnswer (runWorkOn H key env parsed authorized handling)
  | .stop sessionId => answered controlAnswer (serviceStop H env sessionId.val handling)
  | .status sessionId => answered controlAnswer (serviceStatus H sessionId.val handling)
  | .complete sessionId => answered controlAnswer (serviceComplete H env sessionId.val handling)
  | .settings call => answered settingsAnswer (runSettings env handling call)
  | .setup setup => startSetup env setup handling

/-! ### Validation comes first -/

section First

variable {library : PythonLibrary} {H : Digest} {key : ControlKey} {env : LineEnvironment}

/-- What a tool does with the outcome of its validation. -/
def afterParsing (handling : Handling) (parsed : Except JsonRpcError ToolCall) :
    Handling × Except Raised ToolAnswer :=
  match parsed with
  | .error error => (handling, .error (.jsonRpc error))
  | .ok call => runToolCall H key env handling call

theorem callThresholdSettings_eq (arguments : JsonObject) (requestId : Option JsonRpcId)
    (handling : Handling) :
    callThresholdSettings env arguments requestId handling =
      @afterParsing H key env handling
        ((parseSettingsCall arguments requestId).map .settings) := by
  unfold callThresholdSettings parseSettingsCall
  cases validateSettings arguments requestId with
  | error error => rfl
  | ok action =>
      cases action with
      | «show» => rfl
      | default => rfl
      | recommended => rfl
      | custom =>
          dsimp only [applyThresholdAction]
          cases settingsInteger arguments requestId "warning_after_ms" with
          | error error => rfl
          | ok warning =>
              cases settingsInteger arguments requestId "critical_after_ms" with
              | error error => rfl
              | ok critical => rfl

theorem callNotificationSetup_eq (arguments : JsonObject) (request : JsonRpcRequest)
    (handling : Handling) :
    callNotificationSetup env arguments request handling =
      @afterParsing H key env handling
        (parseSetup handling.server.notificationSetup arguments request.requestId) := by
  unfold callNotificationSetup parseSetup
  split_ifs
  · rfl
  · cases handling.server.notificationSetup with
    | none => rfl
    | some setup => rfl

theorem callControl_eq {name : String} (arguments : JsonObject) (request : JsonRpcRequest)
    (authorized : AuthorizedSession) (handling : Handling)
    (hname : name = "cmw.work_on" ∨ name = "cmw.stop" ∨ name = "cmw.status" ∨
      name = "cmw.complete") :
    callControl library H key env name arguments request authorized handling =
      @afterParsing H key env handling
        (parseControl library name arguments request.requestId authorized) := by
  unfold callControl control parseControl
  rcases hname with rfl | rfl | rfl | rfl
  · rw [if_pos rfl, if_pos rfl]
    cases parseStartRequest arguments request.requestId library.renderPath with
    | error error => rfl
    | ok parsed => rfl
  · rw [if_neg (by decide), if_pos rfl, if_neg (by decide), if_pos rfl]
    cases parseSessionRequest arguments request.requestId with
    | error error => rfl
    | ok sessionId => rfl
  · rw [if_neg (by decide), if_neg (by decide), if_pos rfl, if_neg (by decide),
      if_neg (by decide), if_pos rfl]
    cases parseSessionRequest arguments request.requestId with
    | error error => rfl
    | ok sessionId => rfl
  · rw [if_neg (by decide), if_neg (by decide), if_neg (by decide), if_pos rfl,
      if_neg (by decide), if_neg (by decide), if_neg (by decide)]
    cases parseSessionRequest arguments request.requestId with
    | error error => rfl
    | ok sessionId => rfl

/-- The tool of an accepted request is known. -/
theorem toolOfParams_mem {request : JsonRpcRequest} {name : String} {arguments : JsonObject}
    (htool : toolOfParams request = .ok (name, arguments)) : name ∈ controlTools := by
  unfold toolOfParams at htool
  split at htool
  · split_ifs at htool with hmem
    cases htool
    exact hmem
  · cases htool

/-- **Validation first.**  A tool call raises the error of its validation with nothing
    performed, or it performs the validated call. -/
theorem callTool_eq (request : JsonRpcRequest) (handling : Handling) :
    callTool library H key env request handling =
      @afterParsing H key env handling
        (parseToolCall library key handling.server.notificationSetup request) := by
  unfold callTool parseToolCall
  cases htool : toolOfParams request with
  | error error => rfl
  | ok tool =>
      obtain ⟨name, arguments⟩ := tool
      have hmem := toolOfParams_mem htool
      dsimp only
      cases requireAuthorized arguments request.requestId key with
      | error error => rfl
      | ok authorized =>
          dsimp only
          split_ifs with hsetup hsettings
          · exact callNotificationSetup_eq arguments request handling
          · exact callThresholdSettings_eq arguments request.requestId handling
          · have hname : name = "cmw.work_on" ∨ name = "cmw.stop" ∨ name = "cmw.status" ∨
                name = "cmw.complete" := by
              simpa [controlTools, hsetup, hsettings] using hmem
            exact callControl_eq arguments request authorized handling hname

/-! ### What a validated call performs -/

/-- What the ticket store makes of a start. -/
def ticketOutcome (H : Digest) (key : ControlKey) (env : LineEnvironment) (server : McpServer)
    (parsed : ParsedStartRequest) (authorized : AuthorizedSession) : Except TicketError Unit :=
  (ActivationTicketStore.consume H key env.tickets env.ticketTime server.tickets
    ⟨authorized.sessionId, parsed.activationTurnId, parsed.request.transcriptPath⟩
    authorized.capability).2

/-- The ticket store after a start. -/
def ticketsAfter (H : Digest) (key : ControlKey) (env : LineEnvironment) (server : McpServer)
    (parsed : ParsedStartRequest) (authorized : AuthorizedSession) : ActivationTicketStore :=
  (ActivationTicketStore.consume H key env.tickets env.ticketTime server.tickets
    ⟨authorized.sessionId, parsed.activationTurnId, parsed.request.transcriptPath⟩
    authorized.capability).1

/-- The ticket was used up, and then the call raised with a public reason. -/
def UsedUp (H : Digest) (key : ControlKey) (env : LineEnvironment) (server : McpServer)
    (parsed : ParsedStartRequest) (authorized : AuthorizedSession) : Prop :=
  (∃ error, ticketOutcome H key env server parsed authorized = .error error ∧
    error.reasonCode.isSome = true) ∧
  ticketsAfter H key env server parsed authorized (ticketName H authorized.sessionId) ≠
    server.tickets (ticketName H authorized.sessionId)

/-- A control whose exceptions all have a public reason. -/
def Answers (outcome : Except ServiceError ToolResult) : Prop :=
  ∀ error, outcome = .error error → error.reasonCode.isSome = true

/-- The call performs an operation, and no exception leaves it. -/
def Acts (H : Digest) (key : ControlKey) (env : LineEnvironment) (server : McpServer) :
    ToolCall → Prop
  | .workOn parsed authorized =>
      (ticketOutcome H key env server parsed authorized = .ok () ∧
        Answers (server.service.start H env.start env.wallTime parsed.request).2) ∨
      UsedUp H key env server parsed authorized
  | .stop sessionId => Answers (server.service.stop H env.remove sessionId.val).2
  | .status _ => False
  | .complete sessionId =>
      Answers (server.service.complete H ⟨env.mark, env.remove⟩ env.tick sessionId.val).2.2
  | .settings call =>
      ∃ operation selected, setOperation env.settings call = some operation ∧
        ((operation server.settings).2 = .ok selected ∨
          (operation server.settings).2 = .error (.storage .stateError selected))
  | .setup _ => True

theorem controlAnswer_isOk {outcome : Except ServiceError ToolResult} :
    (∃ answer, controlAnswer (outcome.mapError .service) = .ok answer) ↔ Answers outcome := by
  cases outcome with
  | ok result => simp [controlAnswer, Except.mapError, Answers]
  | error error =>
      cases hreason : error.reasonCode with
      | none => simp [controlAnswer, Except.mapError, Answers, hreason]
      | some reason => simp [controlAnswer, Except.mapError, Answers, hreason]

theorem controlAnswer_ne_jsonRpc (outcome : Except ServiceError ToolResult)
    (error : JsonRpcError) :
    controlAnswer (outcome.mapError .service) ≠ .error (.jsonRpc error) := by
  intro hraised
  cases outcome with
  | ok result => cases hraised
  | error failure =>
      cases hreason : failure.reasonCode <;>
        simp [controlAnswer, Except.mapError, hreason] at hraised

/-- What is known of a call that was run: it raised no JSON-RPC error, and it returned
    after it performed something exactly when it acts. -/
def RunAs (acts : Prop) (run : Handling × Except Raised ToolAnswer) : Prop :=
  (∀ error, run.2 ≠ .error (.jsonRpc error)) ∧
    ((∃ answer, run.2 = .ok answer) ∧ run.1.performed ≠ [] ↔ acts)

variable {server : McpServer}

theorem onService_runAs (operation : Operation)
    (call : NotificationDaemon → NotificationDaemon × Except ServiceError ToolResult)
    (handling : Handling) :
    RunAs (Answers (call handling.server.service).2)
      (answered controlAnswer (onService operation call handling)) := by
  refine ⟨fun error => controlAnswer_ne_jsonRpc _ error, ?_⟩
  have hperformed : (answered controlAnswer (onService operation call handling)).1.performed =
      handling.performed ++ [operation] := rfl
  rw [hperformed]
  constructor
  · rintro ⟨hanswer, _⟩
    exact controlAnswer_isOk.mp hanswer
  · intro hanswers
    exact ⟨controlAnswer_isOk.mpr hanswers, by simp⟩

/-- An accepted ticket is used up. -/
theorem consumed_of_accepted {parsed : ParsedStartRequest} {authorized : AuthorizedSession}
    (haccepted : ticketOutcome H key env server parsed authorized = .ok ()) :
    consumed H ⟨authorized.sessionId, parsed.activationTurnId, parsed.request.transcriptPath⟩
        server.tickets (ticketsAfter H key env server parsed authorized) =
      [.consume
        ⟨authorized.sessionId, parsed.activationTurnId, parsed.request.transcriptPath⟩] := by
  unfold ticketOutcome at haccepted
  unfold consumed ticketsAfter
  rcases @consume_cases H key env.tickets env.ticketTime server.tickets
      ⟨authorized.sessionId, parsed.activationTurnId, parsed.request.transcriptPath⟩
      authorized.capability with
    ⟨-, error, hrefused⟩ | ⟨ticket, hfile, hlive, -, -, -, hmarked, -⟩
  · rw [hrefused] at haccepted
    cases haccepted
  · rw [hmarked, Function.update_self, hfile, if_neg ?_]
    intro hsame
    injection hsame with hsame
    have hconsumed := congrArg ActivationTicketRecord.consumed hsame
    rw [hlive] at hconsumed
    cases hconsumed

/-- A start with an accepted ticket reaches the service. -/
theorem runWorkOn_of_accepted {parsed : ParsedStartRequest} {authorized : AuthorizedSession}
    (haccepted : ticketOutcome H key env server parsed authorized = .ok ()) :
    ∃ handling, handling.server.service = server.service ∧
      handling.performed = [.consume
        ⟨authorized.sessionId, parsed.activationTurnId, parsed.request.transcriptPath⟩] ∧
      runWorkOn H key env parsed authorized ⟨server, []⟩ =
        serviceStart H env parsed.request handling := by
  have hused := consumed_of_accepted haccepted
  unfold ticketOutcome at haccepted
  unfold ticketsAfter at hused
  unfold runWorkOn consumeTicket
  dsimp only
  cases hconsumed : ActivationTicketStore.consume H key env.tickets env.ticketTime server.tickets
      ⟨authorized.sessionId, parsed.activationTurnId, parsed.request.transcriptPath⟩
      authorized.capability with
  | mk tickets outcome =>
      rw [hconsumed] at haccepted hused
      dsimp only at haccepted
      subst haccepted
      exact ⟨⟨{ server with tickets }, _⟩, rfl, hused, rfl⟩

/-- A start with a refused ticket performs at most that its ticket is used up. -/
theorem runWorkOn_of_refused {parsed : ParsedStartRequest} {authorized : AuthorizedSession}
    {error : TicketError} (hrefused : ticketOutcome H key env server parsed authorized = .error error) :
    (runWorkOn H key env parsed authorized ⟨server, []⟩).2 = .error (.ticket error) ∧
      (runWorkOn H key env parsed authorized ⟨server, []⟩).1.performed =
        consumed H
          ⟨authorized.sessionId, parsed.activationTurnId, parsed.request.transcriptPath⟩
          server.tickets (ticketsAfter H key env server parsed authorized) := by
  unfold ticketOutcome at hrefused
  unfold runWorkOn consumeTicket ticketsAfter
  dsimp only
  cases hconsumed : ActivationTicketStore.consume H key env.tickets env.ticketTime server.tickets
      ⟨authorized.sessionId, parsed.activationTurnId, parsed.request.transcriptPath⟩
      authorized.capability with
  | mk tickets outcome =>
      rw [hconsumed] at hrefused
      dsimp only at hrefused
      subst hrefused
      exact ⟨rfl, rfl⟩

theorem workOn_runAs (parsed : ParsedStartRequest) (authorized : AuthorizedSession) :
    RunAs (Acts H key env server (.workOn parsed authorized))
      (runToolCall H key env ⟨server, []⟩ (.workOn parsed authorized)) := by
  change RunAs ((ticketOutcome H key env server parsed authorized = .ok () ∧
      Answers (server.service.start H env.start env.wallTime parsed.request).2) ∨
      UsedUp H key env server parsed authorized)
    (answered controlAnswer (runWorkOn H key env parsed authorized ⟨server, []⟩))
  cases hticket : ticketOutcome H key env server parsed authorized with
  | ok done =>
      obtain ⟨handling, hservice, -, hrun⟩ := runWorkOn_of_accepted hticket
      obtain ⟨hraised, hanswered⟩ := onService_runAs (.start parsed.request)
        (fun service => service.start H env.start env.wallTime parsed.request) handling
      rw [hrun, ← hservice]
      refine ⟨hraised, hanswered.trans ⟨fun hanswers => Or.inl ⟨rfl, hanswers⟩, ?_⟩⟩
      rintro (⟨-, hanswers⟩ | ⟨⟨error, hrefused, -⟩, -⟩)
      · exact hanswers
      · rw [hticket] at hrefused
        cases hrefused
  | error error =>
      obtain ⟨houtcome, hperformed⟩ := runWorkOn_of_refused hticket
      refine ⟨?_, ?_⟩
      · intro fault hfault
        rw [answered, houtcome] at hfault
        cases hreason : error.reasonCode <;> simp [controlAnswer, hreason] at hfault
      · rw [answered, houtcome, hperformed]
        constructor
        · rintro ⟨⟨answer, hanswer⟩, hperforms⟩
          refine Or.inr ⟨⟨error, hticket, ?_⟩, fun hsame => hperforms (if_pos hsame)⟩
          cases hreason : error.reasonCode with
          | none => simp [controlAnswer, hreason] at hanswer
          | some reason => rfl
        · rintro (⟨hok, -⟩ | ⟨⟨other, hother, hreason⟩, hchanged⟩)
          · cases hok
          · rw [hticket] at hother
            cases hother
            obtain ⟨reason, hreason⟩ := Option.isSome_iff_exists.mp hreason
            refine ⟨⟨toolError reason, by simp [controlAnswer, hreason]⟩, ?_⟩
            rw [consumed, if_neg hchanged]
            exact List.cons_ne_nil _ _

theorem settingsAnswer_ne_jsonRpc
    (outcome : Except SettingsFailure ThresholdSettingsSnapshot) (error : JsonRpcError) :
    settingsAnswer (outcome.mapError raisedBySettings) ≠ .error (.jsonRpc error) := by
  intro hraised
  cases outcome with
  | ok selected => cases hraised
  | error failure =>
      cases failure with
      | settings error => cases hraised
      | storage failure => cases failure <;> cases hraised

/-- A set operation performs its write, or raises, before its write or behind it. -/
theorem onSettings_cases
    (operation : ThresholdSettingsFiles →
      ThresholdSettingsFiles × Except SettingsFailure ThresholdSettingsSnapshot)
    (handling : Handling) :
    (∃ selected, (operation handling.server.settings).2 = .ok selected ∧
      (onSettings operation handling).2 = .ok selected ∧
      (onSettings operation handling).1.performed =
        handling.performed ++ [.writeSettings selected]) ∨
    ∃ failure, (operation handling.server.settings).2 = .error failure ∧
      (onSettings operation handling).2 = .error (raisedBySettings failure) ∧
      (onSettings operation handling).1.performed =
        handling.performed ++ writtenBySettings failure := by
  unfold onSettings
  cases operation handling.server.settings with
  | mk settings outcome =>
      cases outcome with
      | ok selected => exact Or.inl ⟨selected, rfl, rfl, rfl⟩
      | error failure => exact Or.inr ⟨failure, rfl, rfl, rfl⟩

/-- A failure is answered after a write exactly when it is a state error behind the write. -/
theorem settingsAnswer_written (failure : SettingsFailure) :
    (∃ answer, settingsAnswer (.error (raisedBySettings failure)) = .ok answer) ∧
        writtenBySettings failure ≠ [] ↔
      ∃ selected, failure = .storage .stateError (some selected) := by
  constructor
  · rintro ⟨⟨answer, hanswer⟩, hwritten⟩
    cases failure with
    | settings error => exact absurd rfl hwritten
    | storage failure saved =>
        cases saved with
        | none => exact absurd rfl hwritten
        | some selected =>
            cases failure with
            | osError => cases hanswer
            | stateError => exact ⟨selected, rfl⟩
  · rintro ⟨selected, rfl⟩
    exact ⟨⟨_, rfl⟩, List.cons_ne_nil _ _⟩

theorem settings_runAs (call : SettingsCall) :
    RunAs (Acts H key env server (.settings call))
      (runToolCall H key env ⟨server, []⟩ (.settings call)) := by
  change RunAs (∃ operation selected, setOperation env.settings call = some operation ∧
    ((operation server.settings).2 = .ok selected ∨
      (operation server.settings).2 = .error (.storage .stateError selected)))
    (answered settingsAnswer (runSettings env ⟨server, []⟩ call))
  unfold runSettings
  cases setOperation env.settings call with
  | none =>
      refine ⟨fun error => settingsAnswer_ne_jsonRpc _ error, ?_⟩
      constructor
      · rintro ⟨_, hperformed⟩
        exact absurd rfl hperformed
      · rintro ⟨operation, selected, hnone, _⟩
        cases hnone
  | some operation =>
      rcases onSettings_cases operation ⟨server, []⟩ with
        ⟨selected, hoperation, houtcome, hperformed⟩ | ⟨failure, hoperation, houtcome, hperformed⟩
      · refine ⟨?_, ?_⟩
        · intro error hraised
          simp [answered, houtcome, settingsAnswer] at hraised
        · constructor
          · intro _
            exact ⟨operation, selected, rfl, Or.inl hoperation⟩
          · intro _
            refine ⟨⟨thresholdSettingsSuccess selected, ?_⟩, ?_⟩
            · simp [answered, houtcome, settingsAnswer]
            · simp [answered, hperformed]
      · refine ⟨?_, ?_⟩
        · intro error hraised
          rw [answered, houtcome] at hraised
          exact settingsAnswer_ne_jsonRpc (.error failure) error hraised
        · rw [answered, houtcome, hperformed, List.nil_append, settingsAnswer_written]
          constructor
          · rintro ⟨selected, rfl⟩
            exact ⟨operation, selected, rfl, Or.inr hoperation⟩
          · rintro ⟨other, selected, hsame, hwritten⟩
            cases hsame
            rw [hoperation] at hwritten
            rcases hwritten with hok | hraised
            · cases hok
            · exact ⟨selected, Except.error.inj hraised⟩

theorem setup_runAs (setup : NotificationSetupCoordinator) :
    RunAs (Acts H key env server (.setup setup))
      (runToolCall H key env ⟨server, []⟩ (.setup setup)) := by
  have hanswer : ∃ answer, (runToolCall H key env ⟨server, []⟩ (.setup setup)).2 = .ok answer := by
    change ∃ answer, setupAnswer (setup.start env.setup).2 = .ok answer
    cases (setup.start env.setup).2 with
    | ok launch => exact ⟨_, rfl⟩
    | error failure => exact ⟨_, rfl⟩
  have hperformed : (runToolCall H key env ⟨server, []⟩ (.setup setup)).1.performed =
      [.startSetup] := rfl
  refine ⟨?_, ?_⟩
  · intro error hraised
    obtain ⟨answer, hok⟩ := hanswer
    rw [hok] at hraised
    cases hraised
  · rw [hperformed]
    exact ⟨fun _ => trivial, fun _ => ⟨hanswer, by simp⟩⟩

theorem runToolCall_runAs (call : ToolCall) :
    RunAs (Acts H key env server call) (runToolCall H key env ⟨server, []⟩ call) := by
  cases call with
  | workOn parsed authorized => exact workOn_runAs parsed authorized
  | stop sessionId => exact onService_runAs _ _ _
  | status sessionId =>
      refine ⟨fun error => controlAnswer_ne_jsonRpc _ error, ?_⟩
      exact ⟨fun hboth => absurd rfl hboth.2, False.elim⟩
  | complete sessionId => exact onService_runAs _ _ _
  | settings call => exact settings_runAs call
  | setup setup => exact setup_runAs setup

/-! ### Lines -/

/-- Only a tool call of a ready server performs something. -/
theorem dispatch_performed {request : JsonRpcRequest}
    (hother : server.ready = false ∨ request.method ≠ "tools/call") :
    (dispatch library H key env request ⟨server, []⟩).1.performed = [] := by
  unfold dispatch initializeSession
  split_ifs with hinit hstart hagain hdone hreceived hping hready hlist hcall
  · rfl
  · rfl
  · split
    · split_ifs <;> rfl
    · rfl
  · rfl
  · rfl
  · rfl
  · rfl
  · rfl
  · rcases hother with hnot | hnot
    · rw [hnot] at hready
      exact absurd rfl hready
    · exact absurd hcall hnot
  · rfl

/-- A tool call of a ready server is validated and performed. -/
theorem dispatch_toolsCall {request : JsonRpcRequest} (hready : server.ready = true)
    (hmethod : request.method = "tools/call") :
    dispatch library H key env request ⟨server, []⟩ =
      let run := @afterParsing H key env ⟨server, []⟩
        (parseToolCall library key server.notificationSetup request)
      (run.1, run.2.map .tool) := by
  unfold dispatch
  rw [hmethod, if_neg (by decide), if_neg (by decide), if_neg (by decide), hready,
    if_neg (by decide), if_neg (by decide), if_pos rfl, callTool_eq]

theorem handleLine_of_decoded {rawLine : Option String} {request : JsonRpcRequest}
    (hdecoded : decodeRequest library.parseJson rawLine = .ok request) :
    handleLine library H key env rawLine server =
      ((dispatch library H key env request ⟨server, []⟩).1,
        answer request (dispatch library H key env request ⟨server, []⟩).2) := by
  unfold handleLine
  rw [hdecoded]

/-- Only a JSON-RPC error is caught. -/
theorem answer_of_raised {request : JsonRpcRequest} {raised : Raised}
    (hother : ∀ error, raised ≠ .jsonRpc error) :
    answer request (.error raised) = .error raised := by
  cases raised with
  | jsonRpc error => exact absurd rfl (hother error)
  | service error => rfl
  | ticket error => rfl
  | settings error => rfl
  | storage failure => rfl
  | recursionError => rfl
  | typeError => rfl
  | assertionError => rfl

/-- The answer to a request is an error object: its identity is `null`, or the dispatcher
    raised a JSON-RPC error. -/
theorem answer_isError {request : JsonRpcRequest} {outcome : Except Raised McpResult}
    {response : JsonRpcResponse McpResult}
    (hanswer : answer request outcome = .ok (some response)) (herror : response.isError = true) :
    request.isNotification = false ∧
      ((∃ error, outcome = .error (.jsonRpc error)) ∨
        request.requestId = none ∧ ∃ result, outcome = .ok result) := by
  cases hnotification : request.isNotification with
  | true =>
      unfold answer at hanswer
      rw [hnotification] at hanswer
      split at hanswer <;> cases hanswer
  | false =>
      refine ⟨rfl, ?_⟩
      cases outcome with
      | ok result =>
          cases hidentity : request.requestId with
          | none => exact Or.inr ⟨rfl, result, rfl⟩
          | some requestId =>
              simp only [answer, hnotification, hidentity, Bool.false_eq_true, if_false,
                Except.ok.injEq, Option.some.injEq] at hanswer
              subst hanswer
              cases herror
      | error raised =>
          by_cases hother : ∀ error, raised ≠ .jsonRpc error
          · rw [answer_of_raised hother] at hanswer
            cases hanswer
          · push Not at hother
            obtain ⟨error, rfl⟩ := hother
            exact Or.inl ⟨error, rfl⟩

/-- The line is a tool call with the identity `null` that performs something. -/
def ActsWithoutIdentity (library : PythonLibrary) (H : Digest) (key : ControlKey)
    (env : LineEnvironment) (rawLine : Option String) (server : McpServer) : Prop :=
  ∃ request call, decodeRequest library.parseJson rawLine = .ok request ∧
    request.isNotification = false ∧ request.requestId = none ∧ server.ready = true ∧
    request.method = "tools/call" ∧
    parseToolCall library key server.notificationSetup request = .ok call ∧
    Acts H key env server call

/-- **Error answers.**  A line that is answered with a JSON-RPC error performed nothing,
    exactly when it is no acting tool call with the identity `null`. -/
theorem errorAnswer_performs_nothing_iff {rawLine : Option String} :
    (∀ handling response, handleLine library H key env rawLine server =
        (handling, .ok (some response)) → response.isError = true → handling.performed = []) ↔
      ¬ ActsWithoutIdentity library H key env rawLine server := by
  constructor
  · rintro hnothing ⟨request, call, hdecoded, hrequest, hidentity, hready, hmethod, hparsed, hacts⟩
    obtain ⟨_, hacting⟩ := @runToolCall_runAs H key env server call
    obtain ⟨⟨toolAnswer, hok⟩, hperformed⟩ := hacting.mpr hacts
    refine hperformed (hnothing _ (errorResponse invalidRequest) ?_ rfl)
    rw [handleLine_of_decoded hdecoded, dispatch_toolsCall hready hmethod, hparsed]
    simp [afterParsing, hok, Except.map, answer, hrequest, hidentity]
  · intro hnot handling response hhandled herror
    by_contra hperformed
    cases hdecoded : decodeRequest library.parseJson rawLine with
    | error failure =>
        unfold handleLine at hhandled
        rw [hdecoded] at hhandled
        cases failure <;> cases hhandled
        exact hperformed rfl
    | ok request =>
        rw [handleLine_of_decoded hdecoded] at hhandled
        obtain ⟨hstate, hanswer⟩ := Prod.mk.inj hhandled
        by_cases hother : server.ready = false ∨ request.method ≠ "tools/call"
        · exact hperformed (hstate ▸ dispatch_performed hother)
        · rw [not_or, not_not] at hother
          have hready : server.ready = true := by simpa using hother.1
          rw [dispatch_toolsCall hready hother.2] at hstate hanswer
          obtain ⟨hrequest, houtcome⟩ := answer_isError hanswer herror
          cases hparsed : parseToolCall library key server.notificationSetup request with
          | error error =>
              rw [hparsed] at hstate
              exact hperformed (hstate ▸ rfl)
          | ok call =>
              rw [hparsed] at hstate houtcome
              obtain ⟨hraised, hacting⟩ := @runToolCall_runAs H key env server call
              simp only [afterParsing] at hstate houtcome
              cases hrun : (runToolCall H key env ⟨server, []⟩ call).2 with
              | error raised =>
                  rw [hrun] at houtcome
                  rcases houtcome with ⟨error, hsame⟩ | ⟨_, result, hsame⟩
                  · cases hsame
                    exact hraised error hrun
                  · cases hsame
              | ok toolAnswer =>
                  rw [hrun] at houtcome
                  rcases houtcome with ⟨error, hsame⟩ | ⟨hidentity, _⟩
                  · cases hsame
                  · refine hnot ⟨request, call, hdecoded, hrequest, hidentity, hready, hother.2,
                      hparsed, hacting.mp ⟨⟨toolAnswer, hrun⟩, ?_⟩⟩
                    rw [hstate]
                    exact hperformed

end First

/-! ### A stop with the identity `null` -/

/-- A tool call for one session, as it is read. -/
def sampleCall (identity : RawJson) (name : String) : RawJson :=
  .object [(some "jsonrpc", .text (some "2.0")), (some "id", identity),
    (some "method", .text (some "tools/call")),
    (some "params", .object [(some "name", .text (some name)),
      (some "arguments", .object [(some "session_id", .text (some "s"))])])]

/-- The value of that call. -/
def sampleValue (identity : Json) (name : String) : Json :=
  .object [("jsonrpc", jsonText "2.0"), ("id", identity), ("method", jsonText "tools/call"),
    ("params", .object [("name", jsonText name),
      ("arguments", .object [("session_id", jsonText "s")])])]

/-- The request of that call. -/
def sampleToolRequest (requestId : Option JsonRpcId) (name : String) : JsonRpcRequest where
  method := "tools/call"
  params := [("name", jsonText name), ("arguments", .object [("session_id", jsonText "s")])]
  requestId
  isNotification := false

/-- An interpreter that can read one line. -/
def sampleLibrary (line : String) (json : RawJson) : PythonLibrary where
  parseJson text := if text = line then .value json else .malformed [] "Expecting value"
  renderPath := id

/-- The line of a tool call for one session. -/
def sampleLine (identity name : String) : String :=
  String.push ("\x7b\"jsonrpc\":\"2.0\",\"id\":" ++ identity ++
    ",\"method\":\"tools/call\",\"params\":\x7b\"name\":\"" ++ name ++
      "\",\"arguments\":\x7b\"session_id\":\"s\"\x7d\x7d") '\x7d'

theorem decodeRequest_sample {identity name : String} {json : RawJson} {value : Json}
    {request : JsonRpcRequest}
    (hsize : (sampleLine identity name).utf8ByteSize ≤ maxRawLineBytes)
    (hhooked : json.hooked = .ok value) (hrequest : requestOfJson value = .ok request) :
    decodeRequest (sampleLibrary (sampleLine identity name) json).parseJson
      (some (sampleLine identity name)) = .ok request := by
  have hline : removeSuffix '\r' (removeSuffix '\n' (sampleLine identity name)) =
      sampleLine identity name := by
    unfold sampleLine
    rw [removeSuffix_push (by decide), removeSuffix_push (by decide)]
  unfold decodeRequest
  dsimp only
  rw [hline, if_neg (Nat.not_lt.mpr hsize), loadJson]
  simp [sampleLibrary, hhooked, Except.mapError, hrequest]

def sampleKey : ControlKey := ⟨id, id⟩

/-- Nothing raises, and nothing was sampled yet. -/
def sampleEnvironment : LineEnvironment where
  wallTime := 0
  start := { transcript := some sampleTranscript }
  mark := {}
  remove := {}
  tick := .delivering ⟨0, 0⟩ []
  ticketTime := 0
  tickets := {}
  settings := {}
  setup := {}

/-- A server that is ready, without a session. -/
def sampleServer : McpServer where
  service := .create .empty []
  tickets := .empty
  settings := {}
  notificationSetup := none
  initializeReceived := true
  ready := true

/-- The identity `null` is no notification: the request stops the session, and the answer
    says that the request is invalid. -/
theorem nullIdentity_stops :
    ∃ handling,
      handleLine (sampleLibrary (sampleLine "null" "cmw.stop") (sampleCall .null "cmw.stop"))
          .transparent sampleKey sampleEnvironment (some (sampleLine "null" "cmw.stop"))
          sampleServer = (handling, .ok (some (errorResponse invalidRequest))) ∧
        handling.performed = [.stop "s"] := by
  have hhooked : (sampleCall .null "cmw.stop").hooked = .ok (sampleValue .null "cmw.stop") := rfl
  have hrequest : requestOfJson (sampleValue .null "cmw.stop") =
      .ok (sampleToolRequest none "cmw.stop") := rfl
  have hsize : (sampleLine "null" "cmw.stop").utf8ByteSize ≤ maxRawLineBytes := by decide +kernel
  refine ⟨_, handleLine_of_decoded (decodeRequest_sample hsize hhooked hrequest), ?_⟩
  rfl

end McpServer

end CodexMustWork
