import CodexMustWork.RuntimeDocument
import Mathlib.Data.Finset.Card

/-!
# Rollout events applied to one detector

`scripts/watcher_events.py`, over the part of `ObservedEvent` it reads.  The
open calls of a target are the `Finset` behind the source's `set[str]`.
-/

namespace CodexMustWork

/-- Event categories of `scripts/event_source.py`. -/
inductive EventKind where
  | sessionMetadata
  | turnStarted
  | turnCompleted
  | turnAborted
  | item
  | delta
  | toolStarted
  | toolResult
deriving DecidableEq, Repr

structure ObservedEvent where
  kind : EventKind
  occurredAt : Int
  turnId : Option String := none
  itemId : Option String := none
  childId : Option String := none
  callId : Option String := none
  terminal : Bool := false
  fallbackToolResult : Bool := false
deriving DecidableEq, Repr

/-- Binds one rollout batch to its observation clock and parent turn. -/
structure TargetEventContext where
  events : List ObservedEvent
  now : Int
  parentTurnId : Option String

/-- `event.call_id or event.item_id`: Python's `or` passes over `None` and `""`. -/
def ObservedEvent.callKey (event : ObservedEvent) : Option String :=
  match event.callId with
  | some call => if call = "" then event.itemId else some call
  | none => event.itemId

/-- `_event_matches_target`. -/
def eventMatchesTarget (event : ObservedEvent) (target : MonitorTarget)
    (parentTurnId : Option String) : Bool :=
  if target.startedAt.any fun started => decide (event.occurredAt < started) then false
  else if target.targetId.isNone && event.childId.isSome then true
  else if event.childId ≠ target.targetId then false
  else
    !(target.targetId.isNone && event.turnId.isSome && parentTurnId.isSome &&
      decide (event.turnId ≠ parentTurnId))

/-- `_terminal_matches`. -/
def terminalMatches (event : ObservedEvent) (target : MonitorTarget)
    (parentTurnId : Option String) : Bool :=
  event.terminal &&
    (target.targetId.isSome || (parentTurnId.isSome && decide (event.turnId = parentTurnId)))

/-- `_tool_started`: an empty identity opens nothing. -/
def toolStarted (openCalls : Finset String) (state : SilenceState) (event : ObservedEvent)
    (now : Int) : Finset String × SilenceState :=
  let openCalls :=
    match event.callKey with
    | some call => if call = "" then openCalls else insert call openCalls
    | none => openCalls
  (openCalls, recordProgress state .item now)

/-- `_tool_result`: a result without identity closes the only open call. -/
def toolResult (openCalls : Finset String) (state : SilenceState) (event : ObservedEvent)
    (now : Int) : Finset String × SilenceState :=
  let openCalls :=
    match event.callKey with
    | some call => openCalls.erase call
    | none => if event.fallbackToolResult && openCalls.card == 1 then ∅ else openCalls
  (openCalls, recordProgress state .toolResult now)

/-- The `match` of `apply_target_events` on one matching event. -/
def applyEvent (openCalls : Finset String) (state : SilenceState) (event : ObservedEvent)
    (now : Int) : Finset String × SilenceState :=
  match event.kind with
  | .item | .turnStarted => (openCalls, recordProgress state .item now)
  | .delta => (openCalls, recordProgress state .delta now)
  | .toolStarted => toolStarted openCalls state event now
  | .toolResult => toolResult openCalls state event now
  | .turnCompleted | .turnAborted => (openCalls, recordProgress state .item now)
  | .sessionMetadata => (openCalls, state)

/-- What the loop of `apply_target_events` carries from event to event. -/
structure EventProgress where
  openCalls : Finset String
  state : SilenceState
  terminal : Bool

/-- One round of the loop of `apply_target_events`. -/
def applyTargetEvent (target : MonitorTarget) (now : Int) (parentTurnId : Option String)
    (progress : EventProgress) (event : ObservedEvent) : EventProgress :=
  if eventMatchesTarget event target parentTurnId then
    let (openCalls, state) := applyEvent progress.openCalls progress.state event now
    ⟨openCalls, state, progress.terminal || terminalMatches event target parentTurnId⟩
  else progress

/-- Apply fresh progress and report whether the target became terminal. -/
def applyTargetEvents (openCalls : Finset String) (target : MonitorTarget)
    (state : SilenceState) (context : TargetEventContext) : EventProgress :=
  context.events.foldl (applyTargetEvent target context.now context.parentTurnId)
    ⟨openCalls, state, false⟩

/-- Successful completion of the locked parent turn. -/
def parentCompleted (target : RuntimeTarget) (events : List ObservedEvent) : Bool :=
  events.any fun event =>
    event.kind == .turnCompleted && event.childId.isNone && target.parentTurnId.isSome &&
      decide (event.turnId = target.parentTurnId)

/-! ### What a batch does

The two halves of a batch do not meet: the open calls depend on the events
alone, and the detector only on how many of them count. -/

/-- The effect of one event on the open calls, whatever the detector is. -/
def applyOpenCall (openCalls : Finset String) (event : ObservedEvent) : Finset String :=
  match event.kind with
  | .toolStarted =>
      match event.callKey with
      | some call => if call = "" then openCalls else insert call openCalls
      | none => openCalls
  | .toolResult =>
      match event.callKey with
      | some call => openCalls.erase call
      | none => if event.fallbackToolResult && openCalls.card == 1 then ∅ else openCalls
  | _ => openCalls

/-- The open calls left by a sequence of events. -/
def openCallsAfter (openCalls : Finset String) (events : List ObservedEvent) : Finset String :=
  events.foldl applyOpenCall openCalls

@[simp] theorem openCallsAfter_nil (openCalls : Finset String) :
    openCallsAfter openCalls [] = openCalls := rfl

@[simp] theorem openCallsAfter_cons (openCalls : Finset String) (event : ObservedEvent)
    (events : List ObservedEvent) :
    openCallsAfter openCalls (event :: events) =
      openCallsAfter (applyOpenCall openCalls event) events := rfl

theorem openCallsAfter_append (openCalls : Finset String) (first second : List ObservedEvent) :
    openCallsAfter openCalls (first ++ second) =
      openCallsAfter (openCallsAfter openCalls first) second := by
  simp [openCallsAfter]

/-- The events a target observes: those the filter lets through. -/
def matchedEvents (target : MonitorTarget) (parentTurnId : Option String)
    (events : List ObservedEvent) : List ObservedEvent :=
  events.filter fun event => eventMatchesTarget event target parentTurnId

/-- Every kind but session metadata is progress. -/
def EventKind.isProgress : EventKind → Bool
  | .sessionMetadata => false
  | _ => true

/-- The events of a batch that count as progress of a target. -/
def countedEvents (target : MonitorTarget) (parentTurnId : Option String)
    (events : List ObservedEvent) : List ObservedEvent :=
  (matchedEvents target parentTurnId events).filter fun event => event.kind.isProgress

/-- The timestamp an event of each kind moves. -/
def EventKind.progressKind : EventKind → ProgressKind
  | .delta => .delta
  | .toolResult => .toolResult
  | _ => .item

theorem applyEvent_openCalls (openCalls : Finset String) (state : SilenceState)
    (event : ObservedEvent) (now : Int) :
    (applyEvent openCalls state event now).1 = applyOpenCall openCalls event := by
  unfold applyEvent applyOpenCall
  cases event.kind <;> rfl

theorem applyEvent_state (openCalls : Finset String) (state : SilenceState)
    (event : ObservedEvent) (now : Int) :
    (applyEvent openCalls state event now).2 =
      if event.kind.isProgress then recordProgress state event.kind.progressKind now
      else state := by
  unfold applyEvent
  cases event.kind <;> rfl

/-- `after` is `before` advanced by `count` counted events at one clock reading. -/
structure AdvancedBy (before after : SilenceState) (count : Nat) (now : Int) : Prop where
  sequence : after.silenceSequence = before.silenceSequence + count
  waits : after.waits = before.waits
  unchanged : count = 0 → after = before
  latest : 0 < count → latestProgressAt after = now
  warningEmitted : 0 < count → after.warningEmitted = false
  criticalEmitted : 0 < count → after.criticalEmitted = false

theorem AdvancedBy.refl (state : SilenceState) (now : Int) : AdvancedBy state state 0 now :=
  ⟨rfl, rfl, fun _ => rfl, fun h => absurd h (lt_irrefl 0), fun h => absurd h (lt_irrefl 0),
    fun h => absurd h (lt_irrefl 0)⟩

theorem AdvancedBy.trans {first second third : SilenceState} {m n : Nat} {now : Int}
    (h₁ : AdvancedBy first second m now) (h₂ : AdvancedBy second third n now) :
    AdvancedBy first third (m + n) now := by
  have hseq : third.silenceSequence = first.silenceSequence + (m + n) := by
    rw [h₂.sequence, h₁.sequence, Nat.add_assoc]
  rcases Nat.eq_zero_or_pos n with hn | hn
  · -- the second half changed nothing, so the first half decides
    subst hn
    have hsame := h₂.unchanged rfl
    subst hsame
    exact h₁
  · refine ⟨hseq, h₂.waits.trans h₁.waits, fun hzero => ?_, fun _ => h₂.latest hn,
      fun _ => h₂.warningEmitted hn, fun _ => h₂.criticalEmitted hn⟩
    omega

theorem AdvancedBy.counts {before after : SilenceState} {count : Nat} {now : Int}
    (h : AdvancedBy before after count now) (hcounts : before.Counts now) :
    after.Counts now := by
  refine ⟨by rw [h.waits]; exact hcounts.1, ?_⟩
  rcases Nat.eq_zero_or_pos count with hzero | hpos
  · rw [h.unchanged hzero]
    exact hcounts.2
  · exact le_of_eq (h.latest hpos)

theorem recordProgress_advancedBy {state : SilenceState} {now : Int} (h : state.Counts now)
    (kind : ProgressKind) : AdvancedBy state (recordProgress state kind now) 1 now := by
  obtain ⟨hlatest, hsequence, hwaits, hwarning, hcritical⟩ := recordProgress_of_counts h kind
  exact ⟨hsequence, hwaits, fun hzero => absurd hzero one_ne_zero, fun _ => hlatest,
    fun _ => hwarning, fun _ => hcritical⟩

theorem applyEvent_advancedBy (openCalls : Finset String) {state : SilenceState}
    (event : ObservedEvent) {now : Int} (h : state.Counts now) :
    AdvancedBy state (applyEvent openCalls state event now).2
      (if event.kind.isProgress then 1 else 0) now := by
  rw [applyEvent_state]
  split_ifs
  · exact recordProgress_advancedBy h _
  · exact AdvancedBy.refl state now

section Batch

variable (openCalls : Finset String) (target : MonitorTarget) (state : SilenceState)
  (context : TargetEventContext)

/-- The loop skips what the filter refuses. -/
theorem applyTargetEvents_eq_foldl :
    applyTargetEvents openCalls target state context =
      (matchedEvents target context.parentTurnId context.events).foldl
        (fun progress event =>
          ⟨(applyEvent progress.openCalls progress.state event context.now).1,
            (applyEvent progress.openCalls progress.state event context.now).2,
            progress.terminal || terminalMatches event target context.parentTurnId⟩)
        ⟨openCalls, state, false⟩ := by
  rw [matchedEvents, List.foldl_filter]
  rfl

/-- The open calls after a batch are those of its matching events, whatever the
    detector does with them. -/
theorem applyTargetEvents_openCalls :
    (applyTargetEvents openCalls target state context).openCalls =
      openCallsAfter openCalls
        (matchedEvents target context.parentTurnId context.events) := by
  rw [applyTargetEvents_eq_foldl]
  generalize false = terminal
  induction matchedEvents target context.parentTurnId context.events
    generalizing openCalls state terminal with
  | nil => rfl
  | cons event rest ih => rw [List.foldl_cons, ih, applyEvent_openCalls, openCallsAfter_cons]

theorem applyTargetEvents_terminal :
    (applyTargetEvents openCalls target state context).terminal =
      (matchedEvents target context.parentTurnId context.events).any
        fun event => terminalMatches event target context.parentTurnId := by
  have hloop : ∀ (events : List ObservedEvent) (progress : EventProgress),
      (events.foldl (fun progress event =>
          (⟨(applyEvent progress.openCalls progress.state event context.now).1,
            (applyEvent progress.openCalls progress.state event context.now).2,
            progress.terminal ||
              terminalMatches event target context.parentTurnId⟩ : EventProgress))
          progress).terminal =
        (progress.terminal ||
          events.any fun event => terminalMatches event target context.parentTurnId) := by
    intro events
    induction events with
    | nil => simp
    | cons event rest ih =>
        intro progress
        rw [List.foldl_cons, ih, List.any_cons, Bool.or_assoc]
  rw [applyTargetEvents_eq_foldl, hloop, Bool.false_or]

/-- A detector that no longer counts ignores every event of the batch. -/
theorem applyTargetEvents_state_of_not_counts (h : ¬ state.Counts context.now) :
    (applyTargetEvents openCalls target state context).state = state := by
  rw [applyTargetEvents_eq_foldl]
  generalize false = terminal
  induction matchedEvents target context.parentTurnId context.events
    generalizing openCalls terminal with
  | nil => rfl
  | cons event rest ih =>
      have hstate : (applyEvent openCalls state event context.now).2 = state := by
        rw [applyEvent_state, recordProgress_of_not_counts h, ite_self]
      rw [List.foldl_cons, hstate]
      exact ih _ _

/-- A detector that counts is advanced once for each counted event. -/
theorem applyTargetEvents_advancedBy (h : state.Counts context.now) :
    AdvancedBy state (applyTargetEvents openCalls target state context).state
      (countedEvents target context.parentTurnId context.events).length context.now := by
  rw [applyTargetEvents_eq_foldl, countedEvents]
  generalize false = terminal
  induction matchedEvents target context.parentTurnId context.events
    generalizing openCalls state terminal with
  | nil => exact AdvancedBy.refl state context.now
  | cons event rest ih =>
      have hstep := applyEvent_advancedBy openCalls event h
      have hrest := hstep.trans (ih (applyEvent openCalls state event context.now).1 _
        (hstep.counts h) (terminal || terminalMatches event target context.parentTurnId))
      have htotal : ((event :: rest).filter fun event => event.kind.isProgress).length =
          (if event.kind.isProgress then 1 else 0) +
            (rest.filter fun event => event.kind.isProgress).length := by
        cases hkind : event.kind.isProgress <;> simp [hkind, Nat.add_comm]
      rw [htotal, List.foldl_cons]
      exact hrest

end Batch

end CodexMustWork
