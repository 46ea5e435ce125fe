import CodexMustWork.Library.Machine
import CodexMustWork.PythonValues
import CodexMustWork.RuntimeDocument

/-!
# Hook events

`scripts/hook_state.py` and `scripts/activity_epoch.py`: what one hook event makes of a
runtime document, on dictionaries as the source keeps them.

An event works on the document and on a copy of its children, which is put back at the
end.  Every monitor it creates gets the identity that the event brings along.
-/

namespace CodexMustWork

namespace HookState

/-! ### Payloads -/

/-- Hook events whose metadata can change monitor state. -/
inductive HookEvent where
  | sessionStart
  | userPromptSubmit
  | subagentStart
  | subagentStop
  | preToolUse
  | postToolUse
  | permissionRequest
  | stop
deriving DecidableEq, Repr

/-- The fields of a payload that an event reads. -/
structure HookPayload where
  event : HookEvent
  turnId : Option PyText
  agentId : Option PyText

/-- One application of an event: its payload, the time, and what `uuid4().hex` returns. -/
structure HookCall where
  payload : HookPayload
  now : PyText
  identity : PyText
  path : String

/-! ### Monitors -/

/-- The document and the copy of its children. -/
structure Working where
  values : PyDict
  children : PyDict

/-- What is stored for a target, the parent being `none`. -/
def Working.stored (working : Working) : Option PyText → Option PyValue
  | none => working.values.find "parent"
  | some child => working.children.get child

/-- `_save_monitor`. -/
def Working.save (working : Working) (target : Option PyText) (monitor : PyDict) : Working :=
  match target with
  | none => { working with values := working.values.put "parent" (.dict monitor) }
  | some child => { working with children := working.children.set child (.dict monitor) }

/-- `(None, *tuple(children))`. -/
def Working.targets (working : Working) : List (Option PyText) :=
  none :: working.children.map fun child => some child.1

/-- `value is True`. -/
def isTrue : Option PyValue → Bool
  | some (.bool flag) => flag
  | _ => false

/-- `value == text`. -/
def isText (value : Option PyValue) (text : PyText) : Bool :=
  match value with
  | some (.str found) => decide (found = text)
  | _ => false

section Functions

variable (path : String)

/-- `_children`. -/
def childrenOf (values : PyDict) : Except Failure PyDict :=
  match values.find "children" with
  | some (.dict children) => .ok children
  | _ => .error (invalidValue path)

/-- `_monitor`. -/
def monitorOf (working : Working) (target : Option PyText) : Except Failure (Option PyDict) :=
  match working.stored target with
  | none | some .none => .ok none
  | some (.dict monitor) => .ok (some monitor)
  | some _ => .error (invalidValue path)

/-- A counter under a key, zero when it is missing. -/
def counterOf (values : PyDict) (key : String) : Except Failure ℕ :=
  match (values.find key).getD (.int 0) with
  | .int number => if number < 0 then .error (invalidValue path) else .ok number.toNat
  | _ => .error (invalidValue path)

/-- `advance_turn_activity_epoch`. -/
def advanceTurnActivityEpoch (values : PyDict) : Except Failure PyDict := do
  let epoch ← counterOf path values "turn_activity_epoch"
  return values.put "turn_activity_epoch" (.int (epoch + 1))

/-- Advance one monitor generation after hook-observed progress. -/
def advanceMonitorProgressEpoch (monitor : PyDict) : Except Failure PyDict := do
  let epoch ← counterOf path monitor "progress_epoch"
  return monitor.put "progress_epoch" (.int (epoch + 1))

/-- The generation of a monitor, when it is a positive integer. -/
def generationOf (monitor : PyDict) : Option ℤ :=
  match monitor.find "generation" with
  | some (.int generation) => if 0 < generation then some generation else none
  | _ => none

/-- `_next_generation`. -/
def nextGeneration : Option PyDict → ℤ
  | none => 1
  | some previous =>
      let current := (generationOf previous).getD 1
      if isText (previous.find "status") (pyText "terminal") then current + 1 else current

/-- `_next_parent_generation`. -/
def nextParentGeneration : Option PyDict → ℤ
  | none => 1
  | some previous =>
      match generationOf previous with
      | some generation => generation + 1
      | none => 2

/-- `_new_monitor`. -/
def newMonitor (now identity : PyText) (generation : ℤ) : PyDict :=
  [(pyText "status", .str (pyText "running")),
    (pyText "generation", .int generation),
    (pyText "last_item_at", .none),
    (pyText "last_delta_at", .none),
    (pyText "last_tool_result_at", .none),
    (pyText "silence_started_at", .str now),
    (pyText "open_tool_count", .int 0),
    (pyText "waiting_for_approval", .bool false),
    (pyText "waiting_for_user", .bool false),
    (pyText "silence_id", .str identity),
    (pyText "warning_sent", .bool false),
    (pyText "restart_count", .int 0),
    (pyText "progress_epoch", .int 0)]

/-- Change the monitor of a target, if it has one. -/
def changeMonitor (change : PyDict → Except Failure PyDict) (working : Working)
    (target : Option PyText) : Except Failure Working := do
  match ← monitorOf path working target with
  | none => return working
  | some monitor => return working.save target (← change monitor)

/-- What `_clear_waits` does to one monitor. -/
def waitsCleared (monitor : PyDict) : Except Failure PyDict :=
  .ok ((monitor.put "waiting_for_user" (.bool false)).put "waiting_for_approval" (.bool false))

/-- `_clear_waits`. -/
def clearWaits (working : Working) : Except Failure Working :=
  working.targets.foldlM (changeMonitor path waitsCleared) working

/-- `_tool_started`. -/
def toolStarted : Working → Option PyText → Except Failure Working :=
  changeMonitor path fun monitor =>
    let count := match monitor.find "open_tool_count" with
      | some (.int count) => count + 1
      | _ => 1
    advanceMonitorProgressEpoch path
      ((monitor.put "open_tool_count" (.int count)).put "waiting_for_approval" (.bool false))

/-- `_tool_finished`. -/
def toolFinished (now : PyText) : Working → Option PyText → Except Failure Working :=
  changeMonitor path fun monitor =>
    let count := match monitor.find "open_tool_count" with
      | some (.int count) => max 0 (count - 1)
      | _ => 0
    advanceMonitorProgressEpoch path
      (((monitor.put "open_tool_count" (.int count)).put "last_tool_result_at" (.str now)).put
        "waiting_for_approval" (.bool false))

/-- `_mark_monitor_terminal`. -/
def markMonitorTerminal : Working → Option PyText → Except Failure Working :=
  changeMonitor path fun monitor => .ok (monitor.put "status" (.str (pyText "terminal")))

/-- `_mark_approval_wait`. -/
def markApprovalWait : Working → Option PyText → Except Failure Working :=
  changeMonitor path fun monitor => .ok (monitor.put "waiting_for_approval" (.bool true))

/-- `_start_parent`. -/
def startParent (now identity turnId : PyText) (working : Working) : Except Failure Working := do
  let previous ← monitorOf path working none
  let started :=
    if !isText (working.values.find "parent_turn_id") turnId || previous.isNone then
      working.save none (newMonitor now identity (nextParentGeneration previous))
    else working
  return { started with
    values := (started.values.put "parent_turn_id" (.str turnId)).put "parent_complete"
      (.bool false) }

/-- Whether some target has a monitor that is not terminal, looked at in order. -/
def anyNonterminal (working : Working) : List (Option PyText) → Except Failure Bool
  | [] => .ok false
  | target :: rest => do
      match ← monitorOf path working target with
      | some monitor =>
          if isText (monitor.find "status") (pyText "terminal") then anyNonterminal working rest
          else return true
      | none => anyNonterminal working rest

/-- `_start_child`. -/
def startChild (now identity : PyText) (working : Working) (child : Option PyText) :
    Except Failure (Working × Bool) := do
  match child with
  | none => return (working, false)
  | some child =>
      let hadNonterminal ← anyNonterminal path working working.targets
      let previous ← monitorOf path working (some child)
      let started := working.save (some child)
        (newMonitor now identity (nextGeneration previous))
      return ({ started with values := started.values.put "parent_complete" (.bool false) },
        !hadNonterminal)

/-- `_stop_parent`. -/
def stopParent (working : Working) : Except Failure (Working × Bool) := do
  if isTrue (working.values.find "managed_mode") then
    let stopped ← working.targets.foldlM (markMonitorTerminal path) working
    let handoff := !isTrue (stopped.values.find "shutdown_requested")
    return ({ stopped with
      values := (stopped.values.put "handoff_requested" (.bool handoff)).put "parent_complete"
        (.bool false) }, false)
  else if !isTrue (working.values.find "observe_only") then return (working, false)
  else
    let stopped ← markMonitorTerminal path working none
    return ({ stopped with values := stopped.values.put "parent_complete" (.bool true) }, true)

end Functions

/-- `_apply_event`. -/
def applyEvent (call : HookCall) (working : Working) : Except Failure (Working × Bool) := do
  let path := call.path
  match call.payload.event with
  | .sessionStart => return (working, false)
  | .userPromptSubmit =>
      match call.payload.turnId with
      | none => return (working, false)
      | some turnId =>
          let previousTurn := working.values.find "parent_turn_id"
          let previousParent ← monitorOf path working none
          let started ← startParent path call.now call.identity turnId working
          let cleared ← clearWaits path started
          return (cleared, !isText previousTurn turnId || previousParent.isNone)
  | .subagentStart => startChild path call.now call.identity working call.payload.agentId
  | .subagentStop => return (← markMonitorTerminal path working call.payload.agentId, false)
  | .preToolUse => return (← toolStarted path working call.payload.agentId, false)
  | .postToolUse => return (← toolFinished path call.now working call.payload.agentId, false)
  | .permissionRequest => return (← markApprovalWait path working call.payload.agentId, false)
  | .stop => stopParent path working

/-- Whether the parent, the children, the turn of the parent or its completion differ. -/
def differs (before after : PyDict) (children children' : PyDict) : Bool :=
  !(memberEq (after.find "parent") (before.find "parent") &&
    PyValue.eq (.dict children') (.dict children) &&
    memberEq (after.find "parent_turn_id") (before.find "parent_turn_id") &&
    memberEq (after.find "parent_complete") (before.find "parent_complete"))

/-- Mutate runtime values and return whether the first watcher must launch. -/
def applyHookEvent (call : HookCall) (values : PyDict) : Except Failure (PyDict × Bool) := do
  let children ← childrenOf call.path values
  let (working, shouldLaunch) ← applyEvent call ⟨values, children⟩
  let advanced ←
    if differs values working.values children working.children then
      advanceTurnActivityEpoch call.path working.values
    else pure working.values
  return (advanced.put "children" (.dict working.children), shouldLaunch)

/-- The documents along a list of events; an event that raises leaves its document. -/
def hookMachine : Machine PyDict HookCall (Except Failure Bool) where
  step values call :=
    match applyHookEvent call values with
    | .ok (applied, shouldLaunch) => (applied, .ok shouldLaunch)
    | .error failure => (values, .error failure)

end HookState

end CodexMustWork
