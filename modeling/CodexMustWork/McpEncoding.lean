import CodexMustWork.McpLimits

/-!
# A line cannot stop the server

Every answer is built of the texts of the program, of texts that were admitted and of
records with valid texts, so UTF-8 encodes it.  With the limits this settles what a line
can do: it is answered within them, or it is one of those that escape the reading.
-/

namespace CodexMustWork

/-! ### Encoding -/

mutual

/-- Whether UTF-8 encodes all the texts of a value. -/
def Json.encodable : Json → Bool
  | .text content => content.isSome
  | .list items => itemsEncodable items
  | .object members => membersEncodable members
  | _ => true

def itemsEncodable : List Json → Bool
  | [] => true
  | item :: rest => item.encodable && itemsEncodable rest

def membersEncodable : List (String × Json) → Bool
  | [] => true
  | (_, value) :: rest => value.encodable && membersEncodable rest

end

def JsonRpcError.Encodable (fault : JsonRpcError) : Prop :=
  ∀ value, fault.data = some value → value.encodable = true

def ToolContent.encodable : ToolContent → Bool
  | .payload values => membersEncodable values
  | .message _ => true

def ToolAnswer.Encodable (answer : ToolAnswer) : Prop :=
  answer.content.encodable = true ∧ membersEncodable answer.structuredContent = true

def McpResult.Encodable : McpResult → Prop
  | .tool answer => answer.Encodable
  | _ => True

/-- UTF-8 encodes the message of a response. -/
def JsonRpcResponse.Encodable : JsonRpcResponse McpResult → Prop
  | .success _ result => result.Encodable
  | .failure _ _ _ data => ∀ value, data = some value → value.encodable = true

/-- What is raised can be answered. -/
def Encodes {α : Type} (outcome : Except JsonRpcError α) : Prop :=
  ∀ error, outcome = .error error → error.Encodable

section Outcomes

variable {α β : Type}

theorem encodes_ok (value : α) : Encodes (.ok value) := by
  intro error herror
  cases herror

theorem encodes_error {error : JsonRpcError} (hencodable : error.Encodable) :
    Encodes (.error error : Except JsonRpcError α) := by
  intro found hfound
  cases hfound
  exact hencodable

theorem Encodes.bind {outcome : Except JsonRpcError α} {next : α → Except JsonRpcError β}
    (houtcome : Encodes outcome) (hnext : ∀ value, Encodes (next value)) :
    Encodes (outcome >>= next) := by
  cases outcome with
  | ok value => exact hnext value
  | error error => exact encodes_error (houtcome error rfl)

theorem Encodes.map {outcome : Except JsonRpcError α} (convert : α → β)
    (houtcome : Encodes outcome) : Encodes (outcome.map convert) := by
  cases outcome with
  | ok value => exact encodes_ok _
  | error error => exact encodes_error (houtcome error rfl)

end Outcomes

/-! ### What the parsers raise -/

variable (values : JsonObject) (requestId : Option JsonRpcId)

theorem invalidRequest_encodable : (invalidRequest requestId).Encodable := by
  intro value hvalue
  cases hvalue

theorem invalidParams_encodable (reason : Option String) :
    (invalidParams requestId reason).Encodable := by
  intro value hvalue
  cases reason with
  | none => cases hvalue
  | some text =>
    cases hvalue
    rfl

theorem unauthorized_encodable : (unauthorized requestId).Encodable := by
  intro value hvalue
  cases hvalue
  rfl

theorem requiredText_encodes (key : String) : Encodes (requiredText values requestId key) := by
  unfold requiredText
  simp only
  split
  · split_ifs
    · exact encodes_ok _
    · exact encodes_error (invalidParams_encodable _ _)
    · exact encodes_error (invalidParams_encodable _ _)
  · exact encodes_error (invalidParams_encodable _ _)

theorem rejectUnknown_encodes (allowed : List String) :
    Encodes (rejectUnknown values requestId allowed) := by
  unfold rejectUnknown
  split_ifs
  · exact encodes_ok _
  · exact encodes_error (invalidParams_encodable _ _)

theorem boundedDuration_encodes (key : String) (value : Option Json) :
    Encodes (boundedDuration requestId key value) := by
  unfold boundedDuration
  split
  · split_ifs
    · exact encodes_ok _
    · exact encodes_error (invalidParams_encodable _ _)
  · exact encodes_error (invalidParams_encodable _ _)

theorem parseStartRequest_encodes (renderPath : String → String) :
    Encodes (parseStartRequest values requestId renderPath) := by
  unfold parseStartRequest
  split_ifs
  · exact encodes_error (invalidParams_encodable _ _)
  · refine (rejectUnknown_encodes values requestId _).bind fun _ => ?_
    refine (requiredText_encodes values requestId _).bind fun sessionId => ?_
    refine (requiredText_encodes values requestId _).bind fun transcript => ?_
    refine (boundedDuration_encodes requestId _ _).bind fun warning => ?_
    refine (boundedDuration_encodes requestId _ _).bind fun critical => ?_
    split_ifs
    · refine (requiredText_encodes values requestId _).bind fun turn => ?_
      exact encodes_ok _
    · exact encodes_error (invalidParams_encodable _ _)

theorem parseSessionRequest_encodes : Encodes (parseSessionRequest values requestId) :=
  (rejectUnknown_encodes values requestId _).bind fun _ =>
    requiredText_encodes values requestId _

theorem thresholdAction_encodes : Encodes (thresholdAction values requestId) := by
  unfold thresholdAction
  split
  · split
    · exact encodes_ok _
    · exact encodes_error (invalidParams_encodable _ _)
  · exact encodes_error (invalidParams_encodable _ _)

theorem validateSettings_encodes : Encodes (validateSettings values requestId) := by
  unfold validateSettings
  split_ifs
  · exact encodes_error (invalidParams_encodable _ _)
  · refine (requiredText_encodes values requestId _).bind fun _ => ?_
    refine (thresholdAction_encodes values requestId).bind fun action => ?_
    split_ifs
    · exact encodes_error (invalidParams_encodable _ _)
    · exact encodes_ok _

theorem requireAuthorized_encodes (key : ControlKey) :
    Encodes (requireAuthorized values requestId key) := by
  unfold requireAuthorized
  split
  · split_ifs
    · exact encodes_error (unauthorized_encodable _)
    · split
      · exact encodes_error (unauthorized_encodable _)
      · exact encodes_ok _
  · exact encodes_error (unauthorized_encodable _)

theorem decodeRequestId_encodes : Encodes (decodeRequestId values) := by
  unfold decodeRequestId
  split
  · exact encodes_ok _
  · exact encodes_ok _
  · exact encodes_ok _
  · split_ifs
    · exact encodes_error (invalidRequest_encodable _)
    · exact encodes_ok _
  · exact encodes_error (invalidRequest_encodable _)

theorem requestOfValues_encodes : Encodes (requestOfValues values) := by
  unfold requestOfValues
  split
  · next error herror => exact encodes_error (decodeRequestId_encodes values error herror)
  · split_ifs
    · exact encodes_error (invalidRequest_encodable _)
    · split
      · split_ifs
        · exact encodes_error (invalidRequest_encodable _)
        · split
          · exact encodes_ok _
          · exact encodes_error (invalidRequest_encodable _)
      · exact encodes_error (invalidRequest_encodable _)

theorem limitFailure_encodable {limit : LimitError} {error : JsonRpcError}
    (hlimit : limitFailure limit = .jsonRpc error) : error.Encodable := by
  cases limit <;>
    · cases hlimit
      intro value hvalue
      cases hvalue

theorem decodeRequest_encodable {parse : String → JsonText} {rawLine : Option String}
    {error : JsonRpcError} (herror : decodeRequest parse rawLine = .error (.jsonRpc error)) :
    error.Encodable := by
  unfold decodeRequest at herror
  split at herror
  · cases herror
    intro value hvalue
    cases hvalue
  · simp only at herror
    split_ifs at herror
    · cases herror
      exact invalidRequest_encodable _
    · split at herror
      · next failure hload =>
        cases herror
        unfold loadJson at hload
        split at hload
        · next json _ =>
          cases hhooked : json.hooked with
          | ok value => simp [hhooked, Except.mapError] at hload
          | error limit =>
            simp only [hhooked, Except.mapError, Except.error.injEq] at hload
            exact limitFailure_encodable hload
        · split at hload
          · exact limitFailure_encodable (Except.error.inj hload)
          · cases hload
            intro value hvalue
            cases hvalue
            rfl
        · split at hload
          · exact limitFailure_encodable (Except.error.inj hload)
          · cases hload
      · next json _ =>
        unfold requestOfJson at herror
        split at herror
        · next found _ =>
          split at herror
          · cases herror
          · split_ifs at herror
            · cases herror
              exact invalidRequest_encodable _
            · cases hrequest : requestOfValues found with
              | ok request =>
                rw [hrequest] at herror
                cases herror
              | error fault =>
                rw [hrequest] at herror
                cases herror
                exact requestOfValues_encodes found error hrequest
        · cases herror
          exact invalidRequest_encodable _

/-! ### What the tools answer -/

/-- What is returned can be answered. -/
def Returns (outcome : Except Raised ToolAnswer) : Prop :=
  ∀ answer, outcome = .ok answer → answer.Encodable

theorem toolError_encodable (message : String) : (toolError message).Encodable := ⟨rfl, rfl⟩

theorem toolSuccess_encodable (result : ToolResult) : (toolSuccess result).Encodable := by
  obtain ⟨sessionId, status, enabled, reused⟩ := result
  cases reused with
  | none => exact ⟨rfl, rfl⟩
  | some reused => exact ⟨rfl, rfl⟩

theorem controlAnswer_returns (outcome : Except Raised ToolResult) :
    Returns (controlAnswer outcome) := by
  intro answer hanswer
  unfold controlAnswer at hanswer
  split at hanswer
  · cases hanswer
    exact toolSuccess_encodable _
  · split at hanswer <;> cases hanswer
    exact toolError_encodable _
  · split at hanswer <;> cases hanswer
    exact toolError_encodable _
  · cases hanswer

theorem settingsAnswer_returns (outcome : Except Raised ThresholdSettingsSnapshot) :
    Returns (settingsAnswer outcome) := by
  intro answer hanswer
  unfold settingsAnswer at hanswer
  split at hanswer <;> cases hanswer
  · exact ⟨rfl, rfl⟩
  · exact toolError_encodable _
  · exact toolError_encodable _

theorem setupAnswer_returns (outcome : Except StorageFailure NotificationSetupLaunch) :
    Returns (setupAnswer outcome) := by
  intro answer hanswer
  unfold setupAnswer at hanswer
  split at hanswer <;> cases hanswer
  · exact ⟨rfl, rfl⟩
  · exact toolError_encodable _

namespace McpServer

variable {library : PythonLibrary} {H : Digest} {key : ControlKey} {env : LineEnvironment}
  {server : McpServer}

theorem runToolCall_returns (handling : Handling) (call : ToolCall) :
    Returns (runToolCall H key env handling call).2 := by
  cases call with
  | workOn parsed authorized => exact controlAnswer_returns _
  | stop sessionId => exact controlAnswer_returns _
  | status sessionId => exact controlAnswer_returns _
  | complete sessionId => exact controlAnswer_returns _
  | settings call => exact settingsAnswer_returns _
  | setup setup => exact setupAnswer_returns _

theorem toolOfParams_encodes (request : JsonRpcRequest) : Encodes (toolOfParams request) := by
  unfold toolOfParams
  split
  · split_ifs
    · exact encodes_ok _
    · exact encodes_error (invalidRequest_encodable _)
  · exact encodes_error (invalidRequest_encodable _)

theorem parseSettingsCall_encodes (arguments : JsonObject) (requestId : Option JsonRpcId) :
    Encodes (parseSettingsCall arguments requestId) := by
  unfold parseSettingsCall
  split
  · next error herror => exact encodes_error (validateSettings_encodes _ _ error herror)
  · exact encodes_ok _
  · exact encodes_ok _
  · exact encodes_ok _
  · split
    · next error herror => exact encodes_error (boundedDuration_encodes _ _ _ error herror)
    · exact (boundedDuration_encodes _ _ _).map _

theorem parseControl_encodes (name : String) (arguments : JsonObject)
    (requestId : Option JsonRpcId) (authorized : AuthorizedSession) :
    Encodes (parseControl library name arguments requestId authorized) := by
  unfold parseControl
  split_ifs
  · exact (parseStartRequest_encodes _ _ _).map _
  · exact (parseSessionRequest_encodes _ _).map _
  · exact (parseSessionRequest_encodes _ _).map _
  · exact (parseSessionRequest_encodes _ _).map _

theorem parseSetup_encodes (setup : Option NotificationSetupCoordinator) (arguments : JsonObject)
    (requestId : Option JsonRpcId) : Encodes (parseSetup setup arguments requestId) := by
  unfold parseSetup
  split_ifs
  · exact encodes_error (invalidParams_encodable _ _)
  · split
    · exact encodes_error (invalidRequest_encodable _)
    · exact encodes_ok _

theorem parseToolCall_encodes (setup : Option NotificationSetupCoordinator)
    (request : JsonRpcRequest) : Encodes (parseToolCall library key setup request) := by
  unfold parseToolCall
  split
  · next error herror => exact encodes_error (toolOfParams_encodes request error herror)
  · split
    · next error herror => exact encodes_error (requireAuthorized_encodes _ _ _ error herror)
    · split_ifs
      · exact parseSetup_encodes _ _ _
      · exact (parseSettingsCall_encodes _ _).map _
      · exact parseControl_encodes _ _ _ _

/-! ### What a line is answered -/

/-- A tool call raises errors and returns answers that UTF-8 encodes. -/
theorem callTool_encodable (request : JsonRpcRequest) :
    (∀ error, (callTool library H key env request ⟨server, []⟩).2 = .error (.jsonRpc error) →
      error.Encodable) ∧ Returns (callTool library H key env request ⟨server, []⟩).2 := by
  rw [callTool_eq]
  cases hparsed : parseToolCall library key server.notificationSetup request with
  | error error =>
    refine ⟨?_, ?_⟩
    · intro found hfound
      cases hfound
      exact parseToolCall_encodes _ request error hparsed
    · intro answer hanswer
      cases hanswer
  | ok call =>
    refine ⟨?_, runToolCall_returns _ call⟩
    intro error herror
    exact absurd herror ((runToolCall_runAs call).1 error)

theorem initializeSession_encodable (request : JsonRpcRequest) (handling : Handling) :
    (∀ error, (initializeSession request handling).2 = .error (.jsonRpc error) →
      error.Encodable) ∧
      ∀ result, (initializeSession request handling).2 = .ok result → result.Encodable := by
  unfold initializeSession
  split_ifs
  · refine ⟨?_, fun result hresult => by cases hresult⟩
    intro error herror value hvalue
    cases herror
    cases hvalue
  · refine ⟨?_, fun result hresult => by cases hresult⟩
    intro error herror value hvalue
    cases herror
    cases hvalue
  · split
    · split_ifs
      · refine ⟨?_, fun result hresult => by cases hresult⟩
        intro error herror
        cases herror
        exact invalidParams_encodable _ _
      · refine ⟨fun error herror => (by cases herror), ?_⟩
        intro result hresult
        cases hresult
        trivial
    · refine ⟨?_, fun result hresult => by cases hresult⟩
      intro error herror
      cases herror
      exact invalidParams_encodable _ _

/-- What is dispatched raises errors and returns results that UTF-8 encodes. -/
theorem dispatch_encodable (request : JsonRpcRequest) :
    (∀ error, (dispatch library H key env request ⟨server, []⟩).2 = .error (.jsonRpc error) →
      error.Encodable) ∧
      ∀ result, (dispatch library H key env request ⟨server, []⟩).2 = .ok result →
        result.Encodable := by
  have hnone : (notInitialized none).Encodable := fun value hvalue => by cases hvalue
  have hnot : (notInitialized request.requestId).Encodable := fun value hvalue => by cases hvalue
  unfold dispatch
  split_ifs
  · exact initializeSession_encodable request _
  · refine ⟨?_, fun result hresult => by cases hresult⟩
    intro error herror
    cases herror
    exact hnone
  · refine ⟨fun error herror => (by cases herror), ?_⟩
    intro result hresult
    cases hresult
    trivial
  · refine ⟨fun error herror => (by cases herror), ?_⟩
    intro result hresult
    cases hresult
    trivial
  · refine ⟨?_, fun result hresult => by cases hresult⟩
    intro error herror
    cases herror
    exact hnot
  · refine ⟨fun error herror => (by cases herror), ?_⟩
    intro result hresult
    cases hresult
    trivial
  · obtain ⟨herrors, hanswers⟩ :=
      @callTool_encodable library H key env server request
    cases houtcome : (callTool library H key env request ⟨server, []⟩).2 with
    | error raised =>
      refine ⟨?_, fun result hresult => by simp [houtcome, Except.map] at hresult⟩
      intro error herror
      simp only [houtcome, Except.map, Except.error.injEq] at herror
      exact herrors error (houtcome.trans (congrArg Except.error herror))
    | ok answer =>
      refine ⟨fun error herror => by simp [houtcome, Except.map] at herror, ?_⟩
      intro result hresult
      simp only [houtcome, Except.map, Except.ok.injEq] at hresult
      rw [← hresult]
      exact hanswers answer houtcome
  · refine ⟨?_, fun result hresult => by cases hresult⟩
    intro error herror
    cases herror
    exact invalidRequest_encodable _

/-- What a line is answered, UTF-8 encodes. -/
theorem handleLine_encodable {rawLine : Option String} {response : JsonRpcResponse McpResult}
    (hanswered : (handleLine library H key env rawLine server).2 = .ok (some response)) :
    response.Encodable := by
  cases hdecoded : decodeRequest library.parseJson rawLine with
  | error failure =>
    unfold handleLine at hanswered
    rw [hdecoded] at hanswered
    cases failure with
    | jsonRpc error =>
      cases hanswered
      exact decodeRequest_encodable hdecoded
    | recursionError => cases hanswered
    | typeError => cases hanswered
  | ok request =>
    rw [handleLine_of_decoded hdecoded] at hanswered
    obtain ⟨herrors, hresults⟩ := @dispatch_encodable library H key env server request
    cases houtcome : (dispatch library H key env request ⟨server, []⟩).2 with
    | ok result =>
      rw [houtcome] at hanswered
      simp only [answer] at hanswered
      split_ifs at hanswered
      · cases hanswered
      · split at hanswered <;> cases hanswered
        · exact invalidRequest_encodable _
        · exact hresults result houtcome
    | error raised =>
      rw [houtcome] at hanswered
      cases raised with
      | jsonRpc error =>
        simp only [answer] at hanswered
        split_ifs at hanswered <;> cases hanswered
        exact herrors error houtcome
      | _ => cases hanswered

/-! ### What a line can do -/

/-- The line is decoded or refused, what is decoded is within the limits, and every answer
    is encoded. -/
def Survives (library : PythonLibrary) (rawLine : Option String) : Prop :=
  (∀ failure, decodeRequest library.parseJson rawLine = .error failure →
    ∃ error, failure = .jsonRpc error) ∧
  (∀ request, decodeRequest library.parseJson rawLine = .ok request → ∃ raw json,
    rawLine = some raw ∧ lineValue library.parseJson raw = .value json ∧ json.WithinLimits) ∧
  ∀ H key env server response,
    (handleLine library H key env rawLine server).2 = .ok (some response) → response.Encodable

/-- **Lines and the server.**  A line is decoded within the limits or refused by a protocol
    failure, with an answer that is encoded, exactly when it does not escape: it is not
    nested beyond the limit of the interpreter, and calls no tool by an array or an object. -/
theorem survives_iff {rawLine : Option String} :
    Survives library rawLine ↔ ¬ Escapes library.parseJson rawLine := by
  rw [← decodeRequest_escapes_iff]
  constructor
  · rintro ⟨hrefused, -⟩ ⟨failure, hfailure, hescapes⟩
    obtain ⟨error, herror⟩ := hrefused failure hfailure
    exact hescapes error herror
  · intro hnot
    refine ⟨?_, ?_, ?_⟩
    · intro failure hfailure
      by_contra hnone
      exact hnot ⟨failure, hfailure, fun error herror => hnone ⟨error, herror⟩⟩
    · intro request hrequest
      cases rawLine with
      | none => cases hrequest
      | some raw =>
        obtain ⟨json, hjson, hlimits⟩ := decodeRequest_withinLimits hrequest
        exact ⟨raw, json, rfl, hjson, hlimits⟩
    · intro H key env server response hanswered
      exact handleLine_encodable hanswered

/-- The line of a call by an empty array. -/
def arrayCallLine : String :=
  "\x7b\"jsonrpc\":\"2.0\",\"id\":1,\"method\":\"tools/call\",\"params\":\x7b\"name\":[]\x7d\x7d"

/-- That call, as it is read. -/
def arrayCall : RawJson :=
  .object [(some "jsonrpc", .text (some "2.0")), (some "id", .integer 1),
    (some "method", .text (some "tools/call")), (some "params", .object [(some "name", .list [])])]

theorem arrayCallLine_escapes :
    Escapes (sampleLibrary arrayCallLine arrayCall).parseJson (some arrayCallLine) := by
  have hline : removeSuffix '\r' (removeSuffix '\n' arrayCallLine) = arrayCallLine := by
    decide +kernel
  have hcalls : CallsByUnhashable
      [("jsonrpc", jsonText "2.0"), ("id", .integer 1), ("method", jsonText "tools/call"),
        ("params", .object [("name", .list [])])] :=
    ⟨by decide +kernel, [("name", .list [])], .list [], rfl, rfl, Or.inl ⟨[], rfl⟩⟩
  refine ⟨arrayCallLine, rfl, ?_, Or.inr ⟨arrayCall, _, ?_, rfl, hcalls⟩⟩
  · rw [hline]
    decide +kernel
  · rw [lineValue, hline]
    simp only [sampleLibrary, if_true]

/-- A call of a tool by an array raises `TypeError` out of `decode_request`. -/
theorem arrayCall_escapes :
    ¬ Survives (sampleLibrary arrayCallLine arrayCall) (some arrayCallLine) := by
  rintro ⟨hrefused, -⟩
  obtain ⟨failure, hfailure, hescapes⟩ := decodeRequest_escapes_iff.mpr arrayCallLine_escapes
  obtain ⟨error, herror⟩ := hrefused failure hfailure
  exact hescapes error herror

end McpServer

end CodexMustWork
