import CodexMustWork.WatcherDiagnostics
import CodexMustWork.WatcherEvents
import Mathlib.Logic.Function.Basic

/-!
# One locked run of the watcher over one target

`scripts/watcher_progress.py`, `scripts/watcher_recovery.py`,
`scripts/watcher_completion.py`, `scripts/watcher_actions.py`,
`scripts/watcher_heartbeat.py` and the per-target half of
`scripts/watcher_engine.py`: the processor a tick runs on the locked values of
one session.

The source mutates two things, the values (a local copy that is written only
when the processor returns) and the memory of the engine together with the
diagnostic log, which keep what was done to them when an exception is raised.
So a step here returns the `WatcherState` always and the values only on success.
-/

namespace CodexMustWork

/-- Detectors are keyed by session, target and generation. -/
abbrev DetectorKey := String × Option String × Nat

/-- The memory of one `WatcherEngine` and the recorder it writes through. -/
structure WatcherState where
  recorder : Recorder
  detectors : DetectorKey → Option SilenceState
  openCalls : DetectorKey → Finset String
  started : DetectorKey → Bool
  heartbeatAt : String → Option Int

/-- `WatcherEngine.__init__` over the log of a state root. -/
def WatcherState.fresh (log : DiagnosticLog) : WatcherState where
  recorder := ⟨log, []⟩
  detectors _ := none
  openCalls _ := ∅
  started _ := false
  heartbeatAt _ := none

/-- One monotonic detector time and its wall clock. -/
structure TickContext where
  now : Int
  wallTime : Int
deriving DecidableEq, Repr

def detectorKey (target : RuntimeTarget) (monitor : MonitorTarget) : DetectorKey :=
  (target.sessionId, monitor.targetId, monitor.generation)

/-! ### Recovery -/

/-- Anchor a fresh process to the persisted start of observable silence. -/
def recoveredDetectorState (context : TickContext) (monitor : MonitorTarget) : SilenceState :=
  match monitor.startedAt with
  | none => initialState context.now
  | some started => initialState (context.now - max 0 (context.wallTime - started))

/-- Restore a persisted first-stage transition without emitting it again. -/
def restoreSuspectedTransition (state : SilenceState) : SilenceState :=
  { state with phase := .silentWarned, warningEmitted := true }

/-! ### Progress -/

structure PreparationContext where
  target : RuntimeTarget
  events : List ObservedEvent
  tick : TickContext
  parentTerminal : Bool

structure MonitorProgress where
  state : SilenceState
  activityObserved : Bool

def recordStarted (H : Digest) (context : PreparationContext) (monitor : MonitorTarget)
    (watcher : WatcherState) : WatcherState :=
  let key := detectorKey context.target monitor
  if watcher.started key || monitor.terminal then watcher
  else
    { watcher with
      recorder := {
        watcher.recorder with
        log := appendTargetDiagnostic H watcher.recorder.log context.target {
          occurredAt := context.tick.wallTime, code := .watcherStarted
          target := some monitor } }
      started := Function.update watcher.started key true }

/-- The detector a tick starts from: the remembered one, or one recovered from the
    persisted anchor. -/
def priorState (watcher : WatcherState) (context : PreparationContext)
    (monitor : MonitorTarget) : SilenceState :=
  (watcher.detectors (detectorKey context.target monitor)).getD
    (recoveredDetectorState context.tick monitor)

/-- The waits of a target once a batch is applied. -/
def observedWaits (context : PreparationContext) (monitor : MonitorTarget)
    (openCalls : Finset String) (eventTerminal : Bool) : WaitState where
  openToolCount := max monitor.openToolCount openCalls.card
  waitingForApproval := monitor.waitingForApproval
  waitingForUser := monitor.waitingForUser
  childTerminal := monitor.terminal || eventTerminal
  parentComplete := context.parentTerminal

/-- `_prepare_monitor`: apply one batch to one monitor. -/
def prepareMonitor (H : Digest) (context : PreparationContext) (monitor : MonitorTarget)
    (watcher : WatcherState) (values : RuntimeValues) :
    WatcherState × Except Failure (RuntimeValues × MonitorProgress) :=
  let target := context.target
  let key := detectorKey target monitor
  let prior := priorState watcher context monitor
  let warned := watcher.recorder.warningWasEmitted H target monitor prior
  let entered := if warned && !prior.warningEmitted then restoreSuspectedTransition prior else prior
  let watcher := recordStarted H context monitor watcher
  let applied := applyTargetEvents (watcher.openCalls key) monitor entered
    ⟨context.events, context.tick.now, target.parentTurnId⟩
  let watcher :=
    { watcher with openCalls := Function.update watcher.openCalls key applied.openCalls }
  let progressed := decide (prior.silenceSequence < applied.state.silenceSequence)
  let advanced :=
    if progressed then
      advanceTargetProgressEpoch values monitor.targetId target.runtimeFile
        context.tick.wallTime
    else .ok values
  match advanced with
  | .error failure => (watcher, .error failure)
  | .ok values =>
      let watcher :=
        if progressed && warned then
          { watcher with
            recorder := watcher.recorder.recordRecovery H target monitor context.tick.wallTime }
        else watcher
      let marked :=
        if applied.terminal then
          (markTargetTerminal values monitor.targetId target.runtimeFile).map Prod.snd
        else .ok values
      match marked with
      | .error failure => (watcher, .error failure)
      | .ok values =>
          let waits := observedWaits context monitor applied.openCalls applied.terminal
          (watcher, .ok (values,
            ⟨setWaitState applied.state waits (!waits.paused), progressed || applied.terminal⟩))

/-- The loop of `prepare` over the monitors, in the order of `targets`. -/
def prepareMonitors (H : Digest) (context : PreparationContext) :
    List MonitorTarget → WatcherState → RuntimeValues →
      WatcherState × Except Failure (RuntimeValues × List (MonitorTarget × MonitorProgress))
  | [], watcher, values => (watcher, .ok (values, []))
  | monitor :: rest, watcher, values =>
      match prepareMonitor H context monitor watcher values with
      | (watcher, .error failure) => (watcher, .error failure)
      | (watcher, .ok (values, progress)) =>
          match prepareMonitors H context rest watcher values with
          | (watcher, .error failure) => (watcher, .error failure)
          | (watcher, .ok (values, progresses)) =>
              (watcher, .ok (values, (monitor, progress) :: progresses))

/-- Prepared detector states and target-level activity signals. -/
structure TargetProgress where
  states : List (MonitorTarget × SilenceState)
  activityObserved : Bool
  parentTerminal : Bool

/-- `TargetProgressPreparer.prepare`. -/
def prepare (H : Digest) (target : RuntimeTarget) (values : RuntimeValues)
    (events : List ObservedEvent) (tick : TickContext) (watcher : WatcherState) :
    WatcherState × Except Failure (RuntimeValues × TargetProgress) :=
  let terminal := parentCompleted target events
  let marked :=
    if terminal then (markParentComplete values target.runtimeFile).map Prod.snd
    else .ok values
  match marked with
  | .error failure => (watcher, .error failure)
  | .ok values =>
      match prepareMonitors H ⟨target, events, tick, terminal⟩ target.targets watcher values with
      | (watcher, .error failure) => (watcher, .error failure)
      | (watcher, .ok (values, progresses)) =>
          (watcher, .ok (values, {
            states := progresses.map fun progress => (progress.1, progress.2.state)
            activityObserved := progresses.any fun progress => progress.2.activityObserved
            parentTerminal := terminal }))

/-! ### Completion -/

/-- Mark every monitor of a target terminal. -/
def markTargetsTerminal (path : String) :
    List MonitorTarget → RuntimeValues → Except Failure RuntimeValues
  | [], values => .ok values
  | monitor :: rest, values =>
      match markTargetTerminal values monitor.targetId path with
      | .error failure => .error failure
      | .ok (_, values) => markTargetsTerminal path rest values

/-- Terminalize the in-memory detector of one monitor. -/
def terminalizeDetector (target : RuntimeTarget) (now : Int) (watcher : WatcherState)
    (monitor : MonitorTarget) : WatcherState :=
  let key := detectorKey target monitor
  let prior := (watcher.detectors key).getD (initialState now)
  { watcher with
    detectors := Function.update watcher.detectors key
      (some (setWaitState prior { childTerminal := true } false)) }

/-- Record one parent-turn completion and terminalize its detectors. -/
def completeTarget (H : Digest) (target : RuntimeTarget) (values : RuntimeValues)
    (clock : TickContext) (watcher : WatcherState) :
    WatcherState × Except Failure RuntimeValues :=
  let eventId := completionEventId H target
  let claimed := do
    let values ← markTargetsTerminal target.runtimeFile target.targets values
    claimCompletion values eventId target.runtimeFile
  match claimed with
  | .error failure => (watcher, .error failure)
  | .ok (isNew, values) =>
      let watcher :=
        if isNew then
          { watcher with
            recorder := watcher.recorder.record H target {
              occurredAt := clock.wallTime, code := .watcherCompleted
              state := .completed, eventId := some eventId } }
        else watcher
      (target.targets.foldl (terminalizeDetector target clock.now) watcher, .ok values)

/-- `finish_if_terminal`: finish a completed target, stop an empty one, or ask for
    evaluation (`none`). -/
def finishIfTerminal (H : Digest) (target : RuntimeTarget) (values : RuntimeValues)
    (clock : TickContext) (watcher : WatcherState) :
    WatcherState × Except Failure (RuntimeValues × Option Bool) :=
  if target.parentComplete then
    match completeTarget H target values clock watcher with
    | (watcher, .error failure) => (watcher, .error failure)
    | (watcher, .ok values) => (watcher, .ok (values, some false))
  else if target.hasRunning then (watcher, .ok (values, none))
  else (watcher, .ok (values, some false))

/-! ### Evaluation -/

/-- The fixed diagnostic of one actionable detector transition. -/
def diagnosticForAction (H : Digest) (action : Action) (runtime : RuntimeTarget)
    (target : MonitorTarget) (state : SilenceState) (context : TickContext) :
    Option TargetDiagnostic :=
  let code : Option DiagnosticCode :=
    match action with
    | .warning => some .observableProgressSilence
    | .critical => some .bottleneckCritical
    | _ => none
  code.map fun code => {
    occurredAt := context.wallTime, code, target := some target
    elapsedMs := some ((context.now - latestProgressAt state) / 1000).toNat
    eventId := some (lifecycleEventId H code runtime target) }

structure EvaluationProgress where
  watcher : WatcherState
  active : Bool
  actionable : Bool

/-- One round of the evaluation loop of `_evaluate_target`. -/
def evaluateMonitor (H : Digest) (target : RuntimeTarget) (context : TickContext)
    (progress : EvaluationProgress) (prepared : MonitorTarget × SilenceState) :
    EvaluationProgress :=
  let monitor := prepared.1
  let result := evaluate prepared.2 context.now target.thresholds
  let watcher :=
    { progress.watcher with
      detectors := Function.update progress.watcher.detectors (detectorKey target monitor)
        (some result.state) }
  let active := progress.active || !result.state.waits.terminal
  match diagnosticForAction H result.action target monitor result.state context with
  | none => ⟨watcher, active, progress.actionable⟩
  | some diagnostic =>
      ⟨{ watcher with recorder := watcher.recorder.record H target diagnostic }, active, true⟩

/-- Emit one bounded heartbeat only after the warning interval of the runtime. -/
def recordHeartbeat (H : Digest) (context : TickContext) (target : RuntimeTarget)
    (states : List (MonitorTarget × SilenceState)) (actionable : Bool)
    (watcher : WatcherState) : WatcherState :=
  let previous := (watcher.heartbeatAt target.sessionId).getD context.now
  let remember (instant : Int) (watcher : WatcherState) : WatcherState :=
    { watcher with
      heartbeatAt := Function.update watcher.heartbeatAt target.sessionId (some instant) }
  if actionable then remember context.now watcher
  else
    match states with
    | [] => remember previous watcher
    | first :: rest =>
        if context.now - previous < target.thresholds.warning then remember previous watcher
        else
          let latest := rest.foldl (fun latest state => max latest (latestProgressAt state.2))
            (latestProgressAt first.2)
          let monitorState : MonitorState :=
            if states.all fun state => state.2.waits.paused then .paused else .active
          remember context.now
            { watcher with
              recorder := {
                watcher.recorder with
                log := appendTargetDiagnostic H watcher.recorder.log target {
                  occurredAt := context.wallTime, code := .heartbeatActive
                  state := monitorState
                  elapsedMs := some ((context.now - latest) / 1000).toNat } } }

/-- `_evaluate_target`. -/
def evaluateTarget (H : Digest) (target : RuntimeTarget) (values : RuntimeValues)
    (events : List ObservedEvent) (context : TickContext) (watcher : WatcherState) :
    WatcherState × Except Failure (RuntimeValues × Bool) :=
  match prepare H target values events context watcher with
  | (watcher, .error failure) => (watcher, .error failure)
  | (watcher, .ok (values, progress)) =>
      match persistTurnActivity values target.runtimeFile
          (progress.activityObserved || progress.parentTerminal) with
      | .error failure => (watcher, .error failure)
      | .ok values =>
          if progress.parentTerminal then
            match completeTarget H target values context watcher with
            | (watcher, .error failure) => (watcher, .error failure)
            | (watcher, .ok values) => (watcher, .ok (values, false))
          else
            let evaluated := progress.states.foldl (evaluateMonitor H target context)
              ⟨watcher, false, false⟩
            (recordHeartbeat H context target progress.states evaluated.actionable
              evaluated.watcher, .ok (values, evaluated.active))

/-- `_tick_target`: the processor a tick runs under the state lock. -/
def tickTarget (H : Digest) (context : TickContext) (target : RuntimeTarget)
    (values : RuntimeValues) (events : List ObservedEvent) (watcher : WatcherState) :
    WatcherState × Except Failure (RuntimeValues × Bool) :=
  match finishIfTerminal H target values context watcher with
  | (watcher, .error failure) => (watcher, .error failure)
  | (watcher, .ok (values, some finished)) => (watcher, .ok (values, finished))
  | (watcher, .ok (values, none)) => evaluateTarget H target values events context watcher

end CodexMustWork
