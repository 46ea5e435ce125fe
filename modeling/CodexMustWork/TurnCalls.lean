import CodexMustWork.SessionHistory

/-!
# Open calls and turns

A target waits while it has open calls.  A call is opened by its start and
closed by its result; the events that begin and end a turn close nothing.  So a
call left unanswered when its turn ends stays open, and the target waits in
every later turn.
-/

namespace CodexMustWork

/-! ### The calls of a turn -/

/-- The events that begin or end a turn. -/
def EventKind.boundsTurn : EventKind → Bool
  | .turnStarted => true
  | .turnCompleted => true
  | .turnAborted => true
  | _ => false

/-- The calls of the current turn that wait for a result: what a call does, and a turn that
    begins or ends leaves none. -/
def applyTurnCall (calls : Finset String) (event : ObservedEvent) : Finset String :=
  if event.kind.boundsTurn then ∅ else applyOpenCall calls event

def turnCallsAfter (calls : Finset String) (events : List ObservedEvent) : Finset String :=
  events.foldl applyTurnCall calls

theorem turnCallsAfter_concat (calls : Finset String) (events : List ObservedEvent)
    (event : ObservedEvent) :
    turnCallsAfter calls (events ++ [event]) =
      applyTurnCall (turnCallsAfter calls events) event := by
  simp [turnCallsAfter]

theorem openCallsAfter_concat (calls : Finset String) (events : List ObservedEvent)
    (event : ObservedEvent) :
    openCallsAfter calls (events ++ [event]) =
      applyOpenCall (openCallsAfter calls events) event := by
  simp [openCallsAfter]

/-- A turn that begins or ends changes no open call. -/
theorem applyOpenCall_of_boundsTurn {event : ObservedEvent} (hbounds : event.kind.boundsTurn = true)
    (calls : Finset String) : applyOpenCall calls event = calls := by
  unfold applyOpenCall
  cases hkind : event.kind <;> rw [hkind] at hbounds <;> first | rfl | cases hbounds

theorem applyOpenCall_mono {calls more : Finset String} (hsub : calls ⊆ more)
    (event : ObservedEvent) : applyOpenCall calls event ⊆ applyOpenCall more event := by
  unfold applyOpenCall
  cases event.kind with
  | toolStarted =>
      cases event.callKey with
      | none => exact hsub
      | some call =>
          dsimp only
          split_ifs
          · exact hsub
          · exact Finset.insert_subset_insert call hsub
  | toolResult =>
      cases event.callKey with
      | some call => exact Finset.erase_subset_erase call hsub
      | none =>
          dsimp only
          split_ifs with hfew hmany hmany
          · exact Finset.Subset.refl _
          · exact Finset.empty_subset _
          · -- the larger set is one call, and the smaller one is not
            rw [Bool.and_eq_true, beq_iff_eq] at hmany
            rw [Bool.and_eq_true, beq_iff_eq, not_and] at hfew
            have hcard := Finset.card_le_card hsub
            have hnone : calls.card = 0 := by
              have hne := hfew hmany.1
              omega
            rw [Finset.card_eq_zero.mp hnone]
          · exact hsub
  | sessionMetadata => exact hsub
  | turnStarted => exact hsub
  | turnCompleted => exact hsub
  | turnAborted => exact hsub
  | item => exact hsub
  | delta => exact hsub

/-- The open calls contain those of the turn. -/
theorem turnCallsAfter_subset (events : List ObservedEvent) :
    turnCallsAfter ∅ events ⊆ openCallsAfter ∅ events := by
  induction events using List.reverseRecOn with
  | nil => exact Finset.Subset.refl _
  | append_singleton past event ih =>
      rw [turnCallsAfter_concat, openCallsAfter_concat]
      unfold applyTurnCall
      split_ifs
      · exact Finset.empty_subset _
      · exact applyOpenCall_mono ih event

/-- No turn begins or ends while a call of it is open. -/
def AnsweredInTurn (past : List ObservedEvent) (event : ObservedEvent) : Prop :=
  event.kind.boundsTurn = true → turnCallsAfter ∅ past = ∅

theorem openCallsAfter_eq_turnCallsAfter {events : List ObservedEvent}
    (hanswered : Along AnsweredInTurn events) :
    openCallsAfter ∅ events = turnCallsAfter ∅ events := by
  induction events using List.reverseRecOn with
  | nil => rfl
  | append_singleton past event ih =>
      obtain ⟨hpast, hlast⟩ := Along.of_concat hanswered
      rw [turnCallsAfter_concat, openCallsAfter_concat, ih hpast]
      unfold applyTurnCall
      split_ifs with hbounds
      · rw [applyOpenCall_of_boundsTurn hbounds, hlast hbounds]
      · rfl

/-- The event starts the call. -/
def StartsCall (call : String) (event : ObservedEvent) : Prop :=
  event.kind = .toolStarted ∧ event.callKey = some call

/-- The event neither answers the call nor bounds a turn. -/
def LeavesCall (call : String) (event : ObservedEvent) : Prop :=
  event.kind.boundsTurn = false ∧ ¬ (event.kind = .toolResult ∧ event.callKey = some call)

/-- Calls with identities, spelled out: a call of the turn is open when it was started and
    neither its result nor the bound of a turn came after. -/
theorem mem_turnCallsAfter_iff {events : List ObservedEvent}
    (hidentified : ∀ event ∈ events, event.kind = .toolResult → event.callKey.isSome = true)
    {call : String} (hcall : call ≠ "") :
    call ∈ turnCallsAfter ∅ events ↔ Since (StartsCall call) (LeavesCall call) events := by
  induction events using List.reverseRecOn with
  | nil =>
      exact ⟨fun hmem => absurd hmem (Finset.notMem_empty _),
        fun hsince => (Since.not_nil hsince).elim⟩
  | append_singleton past event ih =>
      have hlast := hidentified event (List.mem_append_right _ (List.mem_singleton_self _))
      rw [Since.concat_iff, turnCallsAfter_concat,
        ← ih fun other hother => hidentified other (List.mem_append_left _ hother)]
      unfold applyTurnCall applyOpenCall StartsCall LeavesCall
      cases hkind : event.kind with
      | toolStarted =>
          cases hkey : event.callKey with
          | none => simp [EventKind.boundsTurn]
          | some other =>
              by_cases hempty : other = ""
              · have hne : other ≠ call := fun heq => hcall (heq ▸ hempty)
                simp [EventKind.boundsTurn, hempty, hempty ▸ hne]
              · simp [EventKind.boundsTurn, hempty, Finset.mem_insert, eq_comm]
      | toolResult =>
          obtain ⟨other, hkey⟩ := Option.isSome_iff_exists.mp (hlast hkind)
          rw [hkey]
          simp [EventKind.boundsTurn, Finset.mem_erase, eq_comm, and_comm]
      | sessionMetadata => simp [EventKind.boundsTurn]
      | turnStarted => simp [EventKind.boundsTurn]
      | turnCompleted => simp [EventKind.boundsTurn]
      | turnAborted => simp [EventKind.boundsTurn]
      | item => simp [EventKind.boundsTurn]
      | delta => simp [EventKind.boundsTurn]

/-! ### One target, tick after tick -/

/-- One run of `_prepare_monitor` for a target, with everything but its open calls: the
    rest of the engine's memory and the document are whatever they are at that tick. -/
structure Preparation where
  context : PreparationContext
  monitor : MonitorTarget
  values : RuntimeValues
  memory : WatcherState

namespace Preparation

variable (tick : Preparation)

def key : DetectorKey := detectorKey tick.context.target tick.monitor

/-- The memory of the engine, with the open calls the target was left with. -/
def withCalls (calls : Finset String) : WatcherState :=
  { tick.memory with openCalls := Function.update tick.memory.openCalls tick.key calls }

/-- The events of the batch that are the target's. -/
def observed : List ObservedEvent :=
  matchedEvents tick.monitor tick.context.target.parentTurnId tick.context.events

end Preparation

/-- The open calls of one target along its ticks, with the waits each tick leaves. -/
def callsMachine (H : Digest) : Machine (Finset String) Preparation (Except Failure WaitState) where
  step calls tick :=
    let (watcher, result) :=
      prepareMonitor H tick.context tick.monitor (tick.withCalls calls) tick.values
    (watcher.openCalls tick.key, result.map fun output => output.2.state.waits)

section Ticks

variable {H : Digest}

/-- The target waits for its calls exactly when the turn has an unanswered one, at every
    tick of every run of one target whose observed events are among these. -/
def WaitsWithTurn (H : Digest) (events : List ObservedEvent) : Prop :=
  ∀ (key : DetectorKey) (ticks : List Preparation) (last : Preparation),
    (∀ tick ∈ ticks ++ [last], tick.key = key) → last.monitor.openToolCount = 0 →
    (ticks ++ [last]).flatMap Preparation.observed <+: events →
      ∀ waits, ((callsMachine H).step ((callsMachine H).after ∅ ticks) last).2 = .ok waits →
        (0 < waits.openToolCount ↔
          (turnCallsAfter ∅ ((ticks ++ [last]).flatMap Preparation.observed)).Nonempty)

/-- What a preparation does to the open calls, whether it returns or raises. -/
theorem prepareMonitor_openCalls (context : PreparationContext) (monitor : MonitorTarget)
    (watcher : WatcherState) (values : RuntimeValues) :
    (prepareMonitor H context monitor watcher values).1.openCalls
        (detectorKey context.target monitor) =
      openCallsAfter (watcher.openCalls (detectorKey context.target monitor))
        (matchedEvents monitor context.target.parentTurnId context.events) := by
  unfold prepareMonitor
  dsimp only
  generalize happlied : applyTargetEvents _ _ _ _ = applied
  have hopen : applied.openCalls =
      openCallsAfter (watcher.openCalls (detectorKey context.target monitor))
        (matchedEvents monitor context.target.parentTurnId context.events) := by
    rw [← happlied, applyTargetEvents_openCalls, recordStarted_openCalls]
  generalize decide (_ < applied.state.silenceSequence) = progressed
  generalize (if progressed = true then advanceTargetProgressEpoch _ _ _ _
    else Except.ok values) = advanced
  rw [← hopen]
  cases advanced with
  | error failure => exact Function.update_self ..
  | ok values =>
      dsimp only
      generalize (if applied.terminal = true then Except.map Prod.snd _
        else Except.ok values) = marked
      cases marked with
      | error failure =>
          dsimp only
          split_ifs <;> exact Function.update_self ..
      | ok values =>
          dsimp only
          split_ifs <;> exact Function.update_self ..

/-- The waits of a preparation that returns. -/
theorem prepareMonitor_waits {context : PreparationContext} {monitor : MonitorTarget}
    {watcher after : WatcherState} {values output : RuntimeValues} {progress : MonitorProgress}
    (hprepared : prepareMonitor H context monitor watcher values =
      (after, .ok (output, progress))) :
    progress.state.waits.openToolCount = max monitor.openToolCount
      (openCallsAfter (watcher.openCalls (detectorKey context.target monitor))
        (matchedEvents monitor context.target.parentTurnId context.events)).card := by
  unfold prepareMonitor at hprepared
  dsimp only at hprepared
  generalize happlied : applyTargetEvents _ _ _ _ = applied at hprepared
  have hopen : applied.openCalls =
      openCallsAfter (watcher.openCalls (detectorKey context.target monitor))
        (matchedEvents monitor context.target.parentTurnId context.events) := by
    rw [← happlied, applyTargetEvents_openCalls, recordStarted_openCalls]
  generalize decide (_ < applied.state.silenceSequence) = progressed at hprepared
  generalize (if progressed = true then advanceTargetProgressEpoch _ _ _ _
    else Except.ok values) = advanced at hprepared
  rw [← hopen]
  cases advanced with
  | error failure => simp at hprepared
  | ok values =>
      dsimp only at hprepared
      generalize (if applied.terminal = true then Except.map Prod.snd _
        else Except.ok values) = marked at hprepared
      cases marked with
      | error failure => simp at hprepared
      | ok values =>
          simp only [Prod.mk.injEq, Except.ok.injEq] at hprepared
          obtain ⟨_, _, rfl⟩ := hprepared
          dsimp only
          rw [setWaitState_waits]
          rfl

theorem callsMachine_calls (calls : Finset String) (tick : Preparation) :
    ((callsMachine H).step calls tick).1 = openCallsAfter calls tick.observed := by
  have hcalls := @prepareMonitor_openCalls H tick.context tick.monitor (tick.withCalls calls)
    tick.values
  have hheld : (tick.withCalls calls).openCalls (detectorKey tick.context.target tick.monitor) =
      calls := Function.update_self ..
  rw [hheld] at hcalls
  exact hcalls

theorem callsMachine_waits {calls : Finset String} {tick : Preparation} {waits : WaitState}
    (hwaits : ((callsMachine H).step calls tick).2 = .ok waits) :
    waits.openToolCount =
      max tick.monitor.openToolCount (openCallsAfter calls tick.observed).card := by
  have hheld : (tick.withCalls calls).openCalls (detectorKey tick.context.target tick.monitor) =
      calls := Function.update_self ..
  change ((prepareMonitor H tick.context tick.monitor (tick.withCalls calls) tick.values).2.map
    fun output => output.2.state.waits) = .ok waits at hwaits
  cases hprepared : prepareMonitor H tick.context tick.monitor (tick.withCalls calls)
      tick.values with
  | mk after result =>
      rw [hprepared] at hwaits
      cases result with
      | error failure => cases hwaits
      | ok output =>
          have hcount := prepareMonitor_waits hprepared
          rw [hheld] at hcount
          obtain rfl := Except.ok.inj hwaits
          exact hcount

/-- The open calls after a run are those of the events observed in it. -/
theorem callsMachine_after (calls : Finset String) (ticks : List Preparation) :
    (callsMachine H).after calls ticks =
      openCallsAfter calls (ticks.flatMap Preparation.observed) := by
  induction ticks generalizing calls with
  | nil => rfl
  | cons tick rest ih =>
      rw [Machine.after_cons, ih, callsMachine_calls, List.flatMap_cons, openCallsAfter_append]

/-- The wait a run ends with. -/
theorem callsMachine_last_waits {ticks : List Preparation} {last : Preparation} {waits : WaitState}
    (hcount : last.monitor.openToolCount = 0)
    (hwaits : ((callsMachine H).step ((callsMachine H).after ∅ ticks) last).2 = .ok waits) :
    0 < waits.openToolCount ↔
      (openCallsAfter ∅ ((ticks ++ [last]).flatMap Preparation.observed)).Nonempty := by
  rw [callsMachine_waits hwaits, hcount, Nat.zero_max, callsMachine_after, ← openCallsAfter_append,
    List.flatMap_append, List.flatMap_singleton, Finset.card_pos]

/-- Some instant is before every event. -/
theorem exists_before (events : List ObservedEvent) :
    ∃ instant : Int, ∀ event ∈ events, instant ≤ event.occurredAt := by
  induction events with
  | nil => exact ⟨0, fun event hmem => absurd hmem List.not_mem_nil⟩
  | cons event rest ih =>
      obtain ⟨instant, hrest⟩ := ih
      refine ⟨min instant event.occurredAt, ?_⟩
      intro other hmem
      rcases List.mem_cons.mp hmem with rfl | hmem
      · exact min_le_right _ _
      · exact (min_le_left _ _).trans (hrest other hmem)

/-- A session's first tick on a batch. -/
def firstTick (H : Digest) (doc : SessionDocument) (events : List ObservedEvent) : Preparation where
  context := sessionContext H doc "" ⟨events, 0, 0⟩
  monitor := doc.monitor
  values := doc.values
  memory := .fresh []

theorem firstTick_key (H : Digest) (doc : SessionDocument) (events : List ObservedEvent) :
    (firstTick H doc events).key = doc.key := rfl

def sampleDocument (start : Int) : SessionDocument :=
  SessionDocument.started sampleRequest sampleTranscript start

/-- A session that starts before all events observes them in one tick, and waits for the
    calls they leave open. -/
theorem firstTick_waits {doc : SessionDocument} {events : List ObservedEvent}
    (hstart : ∀ event ∈ events, doc.silenceStartedAt ≤ event.occurredAt) :
    (firstTick H doc events).observed = events ∧
      ∃ waits, ((callsMachine H).step ∅ (firstTick H doc events)).2 = .ok waits := by
  refine ⟨?_, ?_⟩
  · have hmatched := matchedEvents_monitor H doc (.fresh []) events
    refine hmatched.trans (List.filter_eq_self.mpr ?_)
    intro event hmem
    exact decide_eq_true (hstart event hmem)
  · have hprepared := prepareMonitor_session H doc "" ((firstTick H doc events).withCalls ∅)
      ⟨events, 0, 0⟩
    have hresult : ((callsMachine H).step ∅ (firstTick H doc events)).2 =
        (prepareMonitor H (sessionContext H doc "" ⟨events, 0, 0⟩) doc.monitor
          ((firstTick H doc events).withCalls ∅) doc.values).2.map
            fun output => output.2.state.waits := rfl
    rw [hresult, hprepared]
    exact ⟨_, rfl⟩

/-- **A wait ends with its turn** on every run over these events exactly when no turn of
    them begins or ends while a call of it is open. -/
theorem waitsWithTurn_iff (H : Digest) (events : List ObservedEvent) :
    WaitsWithTurn H events ↔ Along AnsweredInTurn events := by
  constructor
  · intro hwaits past event hextends hbounds
    obtain ⟨start, hstart⟩ := exists_before (past ++ [event])
    obtain ⟨hobserved, waits, hok⟩ := @firstTick_waits H (sampleDocument start) (past ++ [event])
      hstart
    have hkey : ∀ tick ∈ [] ++ [firstTick H (sampleDocument start) (past ++ [event])],
        tick.key = (sampleDocument start).key := by
      intro tick hmem
      rw [List.mem_singleton.mp hmem]
      exact firstTick_key H _ _
    have hseen : ([] ++ [firstTick H (sampleDocument start) (past ++ [event])]).flatMap
        Preparation.observed <+: events := by
      rw [List.nil_append, List.flatMap_singleton, hobserved]
      exact hextends
    have hrun : ((callsMachine H).step ((callsMachine H).after ∅ [])
        (firstTick H (sampleDocument start) (past ++ [event]))).2 = .ok waits := by
      rw [Machine.after_nil]
      exact hok
    have hspec := hwaits _ [] (firstTick H (sampleDocument start) (past ++ [event])) hkey rfl hseen
      waits hrun
    rw [callsMachine_last_waits rfl hrun, List.nil_append, List.flatMap_singleton, hobserved,
      openCallsAfter_concat, turnCallsAfter_concat, applyOpenCall_of_boundsTurn hbounds,
      applyTurnCall, if_pos hbounds] at hspec
    have hnone : openCallsAfter ∅ past = ∅ := by
      by_contra hsome
      exact Finset.not_nonempty_empty (hspec.mp (Finset.nonempty_iff_ne_empty.mpr hsome))
    have hsub := turnCallsAfter_subset past
    rw [hnone] at hsub
    exact Finset.subset_empty.mp hsub
  · intro hanswered key ticks last _ hcount hextends waits hok
    have hseen : Along AnsweredInTurn ((ticks ++ [last]).flatMap Preparation.observed) :=
      fun past event hearlier => hanswered past event (hearlier.trans hextends)
    rw [callsMachine_last_waits hcount hok, openCallsAfter_eq_turnCallsAfter hseen]

end Ticks

/-! ### A call left unanswered -/

/-- A call that its turn never answers. -/
def unansweredCall : List ObservedEvent :=
  [{ kind := .toolStarted, occurredAt := 100, callId := some "c" },
    { kind := .turnCompleted, occurredAt := 200 }]

/-- The session waits after the turn of the call, in the next turn, and however long it is
    silent: nothing is queued for it. -/
theorem unansweredCall_waits :
    ¬ WaitsWithTurn .transparent unansweredCall ∧
      (serviceMachine .transparent "s").outputs (NotificationDaemon.create .empty [])
        [sampleOpen 0, sampleTick 200 unansweredCall,
          sampleTick 400 [{ kind := .turnStarted, occurredAt := 300 }], sampleTick 90000 []] =
            [[], [], [], []] := by
  refine ⟨?_, by decide⟩
  intro hwaits
  have hkey : ∀ tick ∈ [] ++ [firstTick .transparent (sampleDocument 0) unansweredCall],
      tick.key = (sampleDocument 0).key := by
    intro tick hmem
    rw [List.mem_singleton.mp hmem]
    exact firstTick_key _ _ _
  have hrun := hwaits _ [] _ hkey rfl (by decide) { openToolCount := 1 } rfl
  have hnone : turnCallsAfter ∅ (([] ++ [firstTick .transparent (sampleDocument 0)
      unansweredCall]).flatMap Preparation.observed) = ∅ := by
    decide
  rw [hnone] at hrun
  exact Finset.not_nonempty_empty (hrun.mp (by decide))

end CodexMustWork
