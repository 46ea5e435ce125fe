import CodexMustWork.Library.Machine
import CodexMustWork.Library.OrderedTable
import CodexMustWork.PythonValues
import Mathlib.Algebra.Order.Field.Rat
import Mathlib.Data.Finset.Basic

/-!
# The events of an app-server connection

`AppServerEventState` of `scripts/app_server_protocol.py`: what is retained of the messages
of one connection, and which thread a turn belongs to.  Each call comes with the reading of
the clock that it makes if it makes one.
-/

namespace CodexMustWork.AppServerEvents

/-! ### Messages -/

inductive TurnOutcome where
  | completed
  | interrupted
  | failed
  | inProgress
  | invalid
deriving DecidableEq, Repr

/-- `TurnOutcome(status)`, where it does not raise. -/
def TurnOutcome.ofStatus (status : PyText) : Option TurnOutcome :=
  if status = pyText "completed" then some .completed
  else if status = pyText "interrupted" then some .interrupted
  else if status = pyText "failed" then some .failed
  else if status = pyText "inProgress" then some .inProgress
  else if status = pyText "invalid" then some .invalid
  else none

/-- `_string`. -/
def string (values : PyDict) (key : String) : Option PyText :=
  match values.find key with
  | some (.str text) => if text = [] then none else some text
  | _ => none

/-- The member of a dictionary, if it is one itself. -/
def object (values : PyDict) (key : String) : Option PyDict :=
  match values.find key with
  | some (.dict members) => some members
  | _ => none

/-- `_thread_id`. -/
def threadId (params : PyDict) : Option PyText :=
  (string params "threadId" <|> string params "conversationId") <|>
  ((object params "thread").bind fun thread => string thread "id") <|>
  ((object params "turn").bind fun turn => string turn "threadId" <|> string turn "conversationId")

/-- `_turn_id`. -/
def turnId (params : PyDict) : Option PyText :=
  string params "turnId" <|> ((object params "turn").bind fun turn => string turn "id")

/-- `_turn_outcome`. -/
def turnOutcome (params : PyDict) : TurnOutcome :=
  (((object params "turn").bind fun turn => string turn "status").bind TurnOutcome.ofStatus).getD
    .invalid

/-! ### The state -/

/-- `_TurnCorrelation`. -/
structure TurnCorrelation where
  threadId : PyText
  observedAt : ℚ
  live : Bool
deriving DecidableEq

structure AppServerEventState where
  responses : OrderedTable PyText PyDict
  activeTurns : OrderedTable PyText PyText
  latestStartedTurns : OrderedTable PyText PyText
  startedTurns : Finset PyText
  turnOutcomes : OrderedTable PyText TurnOutcome
  completedTurns : List PyText
  turnCorrelations : OrderedTable PyText TurnCorrelation
  pendingServerRequest : Option PyText

def AppServerEventState.initial : AppServerEventState :=
  ⟨.empty, .empty, .empty, ∅, .empty, [], .empty, none⟩

/-- `_MAX_RETAINED_TURN_OUTCOMES`. -/
def maxRetainedTurnOutcomes : ℕ := 512

/-- `_MAX_TURN_CORRELATIONS`. -/
def maxTurnCorrelations : ℕ := 2048

/-- `_CORRELATION_EXPIRY_SECONDS`. -/
def correlationExpirySeconds : ℚ := 600

/-- What a call returns or raises. -/
inductive Reply where
  | done
  | bound (known : Bool)
  | owner (thread : Option PyText)
  | raised (message : String)
deriving DecidableEq

/-- The correlation has expired. -/
def TurnCorrelation.isExpired (correlation : TurnCorrelation) (now : ℚ) : Bool :=
  !correlation.live && decide (correlationExpirySeconds < now - correlation.observedAt)

namespace AppServerEventState

variable (state : AppServerEventState)

/-! ### Correlations -/

/-- One turn of the loop of `_expire_correlations`. -/
def forget (state : AppServerEventState) (turn : PyText) : AppServerEventState :=
  match state.turnCorrelations.get turn with
  | none => state
  | some correlation =>
      { state with
        turnCorrelations := state.turnCorrelations.erase turn
        startedTurns := state.startedTurns.erase turn
        latestStartedTurns :=
          if state.latestStartedTurns.get correlation.threadId = some turn then
            state.latestStartedTurns.erase correlation.threadId
          else state.latestStartedTurns }

def expired (now : ℚ) : List PyText :=
  (state.turnCorrelations.entries.filter fun entry => entry.2.isExpired now).map Prod.fst

/-- `_expire_correlations`. -/
def expireCorrelations (now : ℚ) : AppServerEventState :=
  (state.expired now).foldl forget state

/-- A turn that is not in the table finds no place there. -/
def isFull (turn : PyText) : Bool :=
  (state.turnCorrelations.get turn).isNone &&
    decide (maxTurnCorrelations ≤ state.turnCorrelations.size)

/-- `correlate_turn`, with the message of what it raises. -/
def correlateTurn (thread turn : PyText) (now : ℚ) : AppServerEventState × Option String :=
  let swept := state.expireCorrelations now
  if swept.isFull turn then (swept, some "app_server_correlation_capacity")
  else
    ({ swept with turnCorrelations := swept.turnCorrelations.set turn ⟨thread, now, true⟩ }, none)

/-- `thread_for_turn`. -/
def threadForTurn (turn : PyText) (now : ℚ) : AppServerEventState × Reply :=
  let swept := state.expireCorrelations now
  (swept, .owner ((swept.turnCorrelations.get turn).map TurnCorrelation.threadId))

/-- The turn is the active one and the latest of the thread. -/
def activate (thread turn : PyText) : AppServerEventState :=
  { state with
    activeTurns := state.activeTurns.set thread turn
    latestStartedTurns := state.latestStartedTurns.set thread turn }

/-- `bind_started_turn`. -/
def bindStartedTurn (thread turn : PyText) (now : ℚ) : AppServerEventState × Reply :=
  match state.correlateTurn thread turn now with
  | (correlated, some message) => (correlated, .raised message)
  | (correlated, none) =>
      if (correlated.turnOutcomes.get turn).isSome then (correlated, .bound true)
      else if turn ∈ correlated.startedTurns then (correlated.activate thread turn, .bound true)
      else (correlated, .bound false)

/-! ### Messages of turns -/

/-- `turn/started` in `record`. -/
def recordStarted (thread : Option PyText) (turn : PyText) (now : ℚ) :
    AppServerEventState × Reply :=
  let started := { state with startedTurns := insert turn state.startedTurns }
  match thread with
  | none => (started, .done)
  | some thread =>
      match started.correlateTurn thread turn now with
      | (correlated, some message) => (correlated, .raised message)
      | (correlated, none) => (correlated.activate thread turn, .done)

/-- `_remember_outcome`. -/
def rememberOutcome (turn : PyText) (outcome : TurnOutcome) : AppServerEventState :=
  if (state.turnOutcomes.get turn).isSome then state
  else
    let remembered :=
      { state with
        turnOutcomes := state.turnOutcomes.set turn outcome
        completedTurns := state.completedTurns ++ [turn] }
    if maxRetainedTurnOutcomes < remembered.completedTurns.length then
      match remembered.completedTurns with
      | [] => remembered
      | expiredTurn :: rest =>
          { remembered with
            completedTurns := rest
            turnOutcomes := remembered.turnOutcomes.erase expiredTurn
            startedTurns := remembered.startedTurns.erase expiredTurn }
    else remembered

/-- The active turns without one that completed. -/
def deactivated (thread : Option PyText) (turn : PyText) : OrderedTable PyText PyText :=
  match thread with
  | some thread =>
      if state.activeTurns.get thread = some turn then state.activeTurns.erase thread
      else state.activeTurns
  | none => state.activeTurns.filter fun _ activeTurn => decide (activeTurn ≠ turn)

/-- The correlation of a turn that completed is not live any more. -/
def completedCorrelations (turn : PyText) (now : ℚ) : OrderedTable PyText TurnCorrelation :=
  match state.turnCorrelations.get turn with
  | some correlation => state.turnCorrelations.set turn ⟨correlation.threadId, now, false⟩
  | none => state.turnCorrelations

/-- `turn/completed` in `record`. -/
def recordCompleted (thread : Option PyText) (turn : PyText) (outcome : TurnOutcome) (now : ℚ) :
    AppServerEventState :=
  { state with
    activeTurns := state.deactivated thread turn
    turnCorrelations := state.completedCorrelations turn now }.rememberOutcome turn outcome

/-- The notifications in `record`. -/
def recordNotification (method : PyText) (params : PyDict) (now : ℚ) :
    AppServerEventState × Reply :=
  match turnId params with
  | some turn =>
      if method = pyText "turn/started" then state.recordStarted (threadId params) turn now
      else if method = pyText "turn/completed" then
        (state.recordCompleted (threadId params) turn (turnOutcome params) now, .done)
      else (state, .done)
  | none => (state, .done)

/-- `record`. -/
def record (message : PyDict) (now : ℚ) : AppServerEventState × Reply :=
  match string message "id", string message "method" with
  | some messageId, method =>
      if (message.find "result").isSome || (message.find "error").isSome then
        ({ state with responses := state.responses.set messageId message }, .done)
      else
        match method with
        | some method => ({ state with pendingServerRequest := some method }, .done)
        | none => (state, .done)
  | none, some method =>
      match object message "params" with
      | some params => state.recordNotification method params now
      | none => (state, .done)
  | none, none => (state, .done)

end AppServerEventState

/-! ### Calls -/

inductive Call where
  | record (message : PyDict)
  | bindStartedTurn (thread turn : PyText)
  | correlateTurn (thread turn : PyText)
  | threadForTurn (turn : PyText)

/-- A call and the clock. -/
structure Step where
  now : ℚ
  call : Call

def AppServerEventState.step (state : AppServerEventState) (input : Step) :
    AppServerEventState × Reply :=
  match input.call with
  | .record message => state.record message input.now
  | .bindStartedTurn thread turn => state.bindStartedTurn thread turn input.now
  | .correlateTurn thread turn =>
      match state.correlateTurn thread turn input.now with
      | (correlated, some message) => (correlated, .raised message)
      | (correlated, none) => (correlated, .done)
  | .threadForTurn turn => state.threadForTurn turn input.now

/-- The state of one connection. -/
def eventState : Machine AppServerEventState Step Reply := ⟨AppServerEventState.step⟩

end CodexMustWork.AppServerEvents
