import CodexMustWork.WatcherEngine
import CodexMustWork.Library.TwoRuns

/-!
# What a run over one target reads and writes

The processor of a tick works on the memory of the engine and on the log that
all sessions share.  Whatever the target is and however the run ends, it reads
and writes the memory of its own session only, asks the log only for its own
identities, and appends and queues only events of its own.  So two runs over
one target do the same as long as these things are alike.
-/

namespace CodexMustWork

open TwoRuns

/-- The codes of lifecycle identities. -/
def lifecycleCodes : List DiagnosticCode :=
  [.observableProgressSilence, .bottleneckCritical, .progressRecovered]

/-- The event identities a target can record. -/
def TargetIdentity (H : Digest) (target : RuntimeTarget) (eventId : String) : Prop :=
  eventId = completionEventId H target ∨
    ∃ code ∈ lifecycleCodes, ∃ monitor ∈ target.targets,
      eventId = lifecycleEventId H code target monitor

/-! ### The writes of a run -/

/-- One write of a run over a target. -/
inductive Write where
  | detector (monitor : MonitorTarget) (state : SilenceState)
  | openCalls (monitor : MonitorTarget) (calls : Finset String)
  | started (monitor : MonitorTarget)
  | heartbeat (instant : Int)
  | note (diagnostic : TargetDiagnostic)
  | report (diagnostic : TargetDiagnostic)

def WatcherState.write (H : Digest) (target : RuntimeTarget) (watcher : WatcherState) :
    Write → WatcherState
  | .detector monitor state =>
      { watcher with
        detectors := Function.update watcher.detectors (detectorKey target monitor) (some state) }
  | .openCalls monitor calls =>
      { watcher with
        openCalls := Function.update watcher.openCalls (detectorKey target monitor) calls }
  | .started monitor =>
      { watcher with
        started := Function.update watcher.started (detectorKey target monitor) true }
  | .heartbeat instant =>
      { watcher with
        heartbeatAt := Function.update watcher.heartbeatAt target.sessionId (some instant) }
  | .note diagnostic =>
      { watcher with
        recorder := {
          watcher.recorder with
          log := appendTargetDiagnostic H watcher.recorder.log target diagnostic } }
  | .report diagnostic =>
      { watcher with recorder := watcher.recorder.record H target diagnostic }

/-- A note has no identity; a report has one of the target's, and is queued when that
    is new. -/
def Write.Own (H : Digest) (target : RuntimeTarget) : Write → Prop
  | .note diagnostic => diagnostic.eventId = none
  | .report diagnostic =>
      (∃ eventId, diagnostic.eventId = some eventId ∧ TargetIdentity H target eventId) ∧
        (notificationKind diagnostic.code).isSome
  | _ => True

/-- The two watchers are alike in everything a run over the target reads. -/
structure AlikeFor (H : Digest) (target : RuntimeTarget) (left right : WatcherState) : Prop where
  detectors : ∀ key, key.1 = target.sessionId → left.detectors key = right.detectors key
  openCalls : ∀ key, key.1 = target.sessionId → left.openCalls key = right.openCalls key
  started : ∀ key, key.1 = target.sessionId → left.started key = right.started key
  heartbeat : left.heartbeatAt target.sessionId = right.heartbeatAt target.sessionId
  recorded : ∀ eventId, TargetIdentity H target eventId →
    left.recorder.log.hasEvent eventId = right.recorder.log.hasEvent eventId

theorem appendTargetDiagnostic_hasEvent (H : Digest) (log : DiagnosticLog) (target : RuntimeTarget)
    (diagnostic : TargetDiagnostic) (eventId : String) :
    (appendTargetDiagnostic H log target diagnostic).hasEvent eventId =
      (log.hasEvent eventId || decide (diagnostic.eventId = some eventId)) :=
  appendDiagnosticOnce_hasEvent log _ eventId

section Frame

variable (H : Digest) (target : RuntimeTarget)

theorem alikeFor_write {left right : WatcherState} {write : Write}
    (halike : AlikeFor H target left right) :
    AlikeFor H target (left.write H target write) (right.write H target write) := by
  obtain ⟨hdetectors, hcalls, hstarted, hheartbeat, hrecorded⟩ := halike
  cases write with
  | detector monitor state =>
      refine ⟨?_, hcalls, hstarted, hheartbeat, hrecorded⟩
      intro key hkey
      simp only [WatcherState.write, Function.update_apply, hdetectors key hkey]
  | openCalls monitor calls =>
      refine ⟨hdetectors, ?_, hstarted, hheartbeat, hrecorded⟩
      intro key hkey
      simp only [WatcherState.write, Function.update_apply, hcalls key hkey]
  | started monitor =>
      refine ⟨hdetectors, hcalls, ?_, hheartbeat, hrecorded⟩
      intro key hkey
      simp only [WatcherState.write, Function.update_apply, hstarted key hkey]
  | heartbeat instant =>
      refine ⟨hdetectors, hcalls, hstarted, ?_, hrecorded⟩
      simp only [WatcherState.write, Function.update_self]
  | note diagnostic =>
      refine ⟨hdetectors, hcalls, hstarted, hheartbeat, ?_⟩
      intro eventId hid
      simp only [WatcherState.write, appendTargetDiagnostic_hasEvent, hrecorded eventId hid]
  | report diagnostic =>
      refine ⟨hdetectors, hcalls, hstarted, hheartbeat, ?_⟩
      intro eventId hid
      simp only [WatcherState.write, Recorder.record_hasEvent, hrecorded eventId hid]

/-- Runs over one target. -/
def targetFrame : Frame WatcherState Write where
  apply := WatcherState.write H target
  Allowed := Write.Own H target
  Alike := AlikeFor H target
  refl _ := ⟨fun _ _ => rfl, fun _ _ => rfl, fun _ _ => rfl, rfl, fun _ _ => rfl⟩
  keeps _ halike := alikeFor_write H target halike

end Frame

/-! ### Every part of the processor runs in the frame -/

section Uniform

variable {H : Digest} {target : RuntimeTarget}

theorem own_report {diagnostic : TargetDiagnostic} {eventId : String} {kind : NotificationKind}
    (hid : diagnostic.eventId = some eventId) (hidentity : TargetIdentity H target eventId)
    (hkind : notificationKind diagnostic.code = some kind) :
    Write.Own H target (.report diagnostic) :=
  ⟨⟨eventId, hid, hidentity⟩, Option.isSome_of_eq_some hkind⟩

theorem lifecycle_identity {code : DiagnosticCode} {monitor : MonitorTarget}
    (hcode : code ∈ lifecycleCodes) (hmonitor : monitor ∈ target.targets) :
    TargetIdentity H target (lifecycleEventId H code target monitor) :=
  Or.inr ⟨code, hcode, monitor, hmonitor, rfl⟩

theorem lockstep_own (write : Write) (hown : write.Own H target) (left right : WatcherState) :
    (targetFrame H target).Lockstep left right (left.write H target write)
      (right.write H target write) :=
  @Frame.Lockstep.of_write _ _ (targetFrame H target) write hown left right

theorem steps_own (write : Write) (hown : write.Own H target) :
    (targetFrame H target).Steps fun watcher => watcher.write H target write :=
  fun left right _ => ⟨rfl, lockstep_own write hown left right⟩

theorem steps_recordStarted {context : PreparationContext} (htarget : context.target = target)
    (monitor : MonitorTarget) :
    (targetFrame H target).Steps (recordStarted H context monitor) := by
  subst htarget
  let diagnostic : TargetDiagnostic :=
    { occurredAt := context.tick.wallTime, code := .watcherStarted, target := some monitor }
  have hnote : (targetFrame H context.target).Steps fun watcher =>
      watcher.write H context.target (.note diagnostic) := steps_own _ rfl
  have hstart : (targetFrame H context.target).Steps fun watcher =>
      watcher.write H context.target (.started monitor) := steps_own _ trivial
  refine Frame.Uniform.read
    (fun watcher : WatcherState => watcher.started (detectorKey context.target monitor))
    (fun seen watcher =>
      (if seen || monitor.terminal then watcher
      else (watcher.write H context.target (.note diagnostic)).write H context.target
        (.started monitor), ()))
    (fun _ => rfl) (fun _ _ halike => halike.started _ rfl) ?_
  exact fun seen => Frame.steps_ite Frame.steps_id (Frame.Steps.comp hnote hstart)

/-- What a preparation reads before it writes. -/
theorem AlikeFor.prior {left right : WatcherState} (halike : AlikeFor H target left right)
    {context : PreparationContext} (htarget : context.target = target) (monitor : MonitorTarget) :
    priorState left context monitor = priorState right context monitor := by
  unfold priorState
  rw [halike.detectors]
  exact congrArg RuntimeTarget.sessionId htarget

theorem AlikeFor.warned {left right : WatcherState} (halike : AlikeFor H target left right)
    {monitor : MonitorTarget} (hmonitor : monitor ∈ target.targets) (state : SilenceState) :
    left.recorder.warningWasEmitted H target monitor state =
      right.recorder.warningWasEmitted H target monitor state := by
  unfold Recorder.warningWasEmitted
  rw [halike.recorded _ (lifecycle_identity (by decide) hmonitor)]

theorem uniform_prepareMonitor {context : PreparationContext} (htarget : context.target = target)
    {monitor : MonitorTarget} (hmonitor : monitor ∈ target.targets) (values : RuntimeValues) :
    (targetFrame H target).Uniform fun watcher =>
      prepareMonitor H context monitor watcher values := by
  subst htarget
  have hstarted : (targetFrame H context.target).Steps (recordStarted H context monitor) :=
    steps_recordStarted rfl monitor
  intro left right halike
  have hprior := halike.prior rfl monitor
  have hwarned := halike.warned hmonitor (priorState right context monitor)
  obtain ⟨_, hstart⟩ := hstarted left right halike
  have hcalls := (hstart.alike halike).openCalls (detectorKey context.target monitor) rfl
  unfold prepareMonitor
  dsimp only at hcalls hstart ⊢
  rw [hprior, hwarned, hcalls]
  generalize applyTargetEvents _ _ _ _ = applied
  generalize decide (_ < applied.state.silenceSequence) = progressed
  generalize Recorder.warningWasEmitted H _ _ _ _ = warned
  generalize (if progressed = true then advanceTargetProgressEpoch _ _ _ _
    else Except.ok values) = advanced
  -- the open calls are written on every path, the recovery on some
  have hopened := hstart.trans
    (lockstep_own (.openCalls monitor applied.openCalls) trivial _ _)
  have hrecovered := hopened.trans
    (lockstep_own (.report {
        occurredAt := context.tick.wallTime, code := .progressRecovered, target := some monitor
        eventId := some (lifecycleEventId H .progressRecovered context.target monitor) })
      (own_report rfl (lifecycle_identity (by decide) hmonitor) rfl) _ _)
  cases advanced with
  | error failure => exact ⟨rfl, hopened⟩
  | ok values =>
      dsimp only
      generalize (if applied.terminal = true then Except.map Prod.snd _
        else Except.ok values) = marked
      cases marked with
      | error failure =>
          dsimp only
          split_ifs
          · exact ⟨rfl, hrecovered⟩
          · exact ⟨rfl, hopened⟩
      | ok values =>
          dsimp only
          split_ifs
          · exact ⟨rfl, hrecovered⟩
          · exact ⟨rfl, hopened⟩

/-- The continuation of a run that raised or returned. -/
def onOk {α β : Type} (next : α → WatcherState → WatcherState × Except Failure β) :
    Except Failure α → WatcherState → WatcherState × Except Failure β
  | .error failure, watcher => (watcher, .error failure)
  | .ok output, watcher => next output watcher

@[simp] theorem onOk_ok {α β : Type} (next : α → WatcherState → WatcherState × Except Failure β)
    (output : α) : onOk next (.ok output) = next output := rfl

@[simp] theorem onOk_error {α β : Type}
    (next : α → WatcherState → WatcherState × Except Failure β) (failure : Failure) :
    onOk next (.error failure) = fun watcher => (watcher, .error failure) := rfl

theorem uniform_onOk {α β : Type} {next : α → WatcherState → WatcherState × Except Failure β}
    (hnext : ∀ output, (targetFrame H target).Uniform (next output))
    (result : Except Failure α) : (targetFrame H target).Uniform (onOk next result) := by
  cases result with
  | error failure => exact Frame.uniform_pure _
  | ok output => exact hnext output

/-- `prepareMonitors` behind its first monitor. -/
def preparedRest (H : Digest) (context : PreparationContext) (monitor : MonitorTarget)
    (rest : List MonitorTarget) (first : RuntimeValues × MonitorProgress)
    (watcher : WatcherState) :
    WatcherState × Except Failure (RuntimeValues × List (MonitorTarget × MonitorProgress)) :=
  match prepareMonitors H context rest watcher first.1 with
  | (watcher, .error failure) => (watcher, .error failure)
  | (watcher, .ok (values, progresses)) =>
      (watcher, .ok (values, (monitor, first.2) :: progresses))

theorem uniform_prepareMonitors {context : PreparationContext} (htarget : context.target = target)
    {monitors : List MonitorTarget} (hmonitors : ∀ monitor ∈ monitors, monitor ∈ target.targets)
    (values : RuntimeValues) :
    (targetFrame H target).Uniform fun watcher =>
      prepareMonitors H context monitors watcher values := by
  induction monitors generalizing values with
  | nil => exact Frame.uniform_pure _
  | cons monitor rest ih =>
      have hrest : ∀ other ∈ rest, other ∈ target.targets :=
        fun other hother => hmonitors other (List.mem_cons_of_mem _ hother)
      refine (uniform_prepareMonitor htarget (hmonitors monitor (List.mem_cons_self ..))
        values).bind (onOk (preparedRest H context monitor rest)) ?_ ?_
      · intro watcher
        rw [prepareMonitors]
        cases prepareMonitor H context monitor watcher values with
        | mk after result => cases result <;> rfl
      · apply uniform_onOk
        intro first
        refine (ih hrest first.1).bind (onOk fun more watcher =>
          (watcher, .ok (more.1, (monitor, first.2) :: more.2))) ?_ ?_
        · intro watcher
          rw [preparedRest]
          cases prepareMonitors H context rest watcher first.1 with
          | mk after result => cases result <;> rfl
        · exact uniform_onOk fun more => Frame.uniform_pure _

variable (H target)

theorem uniform_prepare (values : RuntimeValues) (events : List ObservedEvent)
    (tick : TickContext) :
    (targetFrame H target).Uniform fun watcher =>
      prepare H target values events tick watcher := by
  unfold prepare
  dsimp only
  generalize (if parentCompleted target events = true then Except.map Prod.snd _
    else Except.ok values) = marked
  cases marked with
  | error failure => exact Frame.uniform_pure _
  | ok values =>
      have hmonitors : (targetFrame H target).Uniform fun watcher =>
          prepareMonitors H ⟨target, events, tick, parentCompleted target events⟩ target.targets
            watcher values :=
        @uniform_prepareMonitors H target ⟨target, events, tick, parentCompleted target events⟩ rfl
          target.targets (fun _ => id) values
      refine hmonitors.bind (onOk fun output watcher => (watcher, .ok (output.1, {
        states := output.2.map fun progress => (progress.1, progress.2.state)
        activityObserved := output.2.any fun progress => progress.2.activityObserved
        parentTerminal := parentCompleted target events }))) ?_ ?_
      · intro watcher
        dsimp only
        cases prepareMonitors H ⟨target, events, tick, parentCompleted target events⟩
          target.targets watcher values with
        | mk after result => cases result <;> rfl
      · exact uniform_onOk fun output => Frame.uniform_pure _

theorem steps_terminalizeDetector (now : Int) (monitor : MonitorTarget) :
    (targetFrame H target).Steps fun watcher =>
      terminalizeDetector target now watcher monitor := by
  refine Frame.Uniform.read
    (fun watcher : WatcherState => watcher.detectors (detectorKey target monitor))
    (fun detector watcher => (watcher.write H target (.detector monitor
      (setWaitState (detector.getD (initialState now)) { childTerminal := true } false)), ()))
    (fun _ => rfl) (fun _ _ halike => halike.detectors _ rfl) ?_
  exact fun detector => steps_own _ trivial

theorem uniform_completeTarget (values : RuntimeValues) (clock : TickContext) :
    (targetFrame H target).Uniform fun watcher =>
      completeTarget H target values clock watcher := by
  have hterminalize : (targetFrame H target).Steps fun watcher =>
      target.targets.foldl (terminalizeDetector target clock.now) watcher :=
    Frame.steps_foldl fun monitor _ => steps_terminalizeDetector H target clock.now monitor
  unfold completeTarget
  dsimp only
  generalize (markTargetsTerminal target.runtimeFile target.targets values >>= _) = claimed
  cases claimed with
  | error failure => exact Frame.uniform_pure _
  | ok output =>
      obtain ⟨isNew, values⟩ := output
      let completion : TargetDiagnostic :=
        { occurredAt := clock.wallTime, code := .watcherCompleted, state := .completed
          eventId := some (completionEventId H target) }
      have hreport : (targetFrame H target).Steps fun watcher =>
          watcher.write H target (.report completion) :=
        steps_own _ (own_report rfl (Or.inl rfl) rfl)
      have hrecord : (targetFrame H target).Steps fun watcher =>
          if isNew = true then watcher.write H target (.report completion) else watcher :=
        Frame.steps_ite hreport Frame.steps_id
      exact Frame.Steps.then hrecord (Frame.Steps.then hterminalize
        (Frame.uniform_pure _))

theorem uniform_finishIfTerminal (values : RuntimeValues) (clock : TickContext) :
    (targetFrame H target).Uniform fun watcher =>
      finishIfTerminal H target values clock watcher := by
  unfold finishIfTerminal
  split_ifs
  · refine (uniform_completeTarget H target values clock).bind
      (onOk fun values watcher => (watcher, .ok (values, some false))) ?_ ?_
    · intro watcher
      cases completeTarget H target values clock watcher with
      | mk after result => cases result <;> rfl
    · exact uniform_onOk fun values => Frame.uniform_pure _
  · exact Frame.uniform_pure _
  · exact Frame.uniform_pure _

theorem own_diagnosticForAction {action : Action} {monitor : MonitorTarget}
    {state : SilenceState} {context : TickContext} {diagnostic : TargetDiagnostic}
    (hmonitor : monitor ∈ target.targets)
    (hdiagnostic : diagnosticForAction H action target monitor state context = some diagnostic) :
    Write.Own H target (.report diagnostic) := by
  unfold diagnosticForAction at hdiagnostic
  obtain ⟨code, hcode, rfl⟩ := Option.map_eq_some_iff.mp hdiagnostic
  cases action with
  | warning =>
      obtain rfl := Option.some.inj hcode
      exact own_report rfl (lifecycle_identity (by decide) hmonitor) rfl
  | critical =>
      obtain rfl := Option.some.inj hcode
      exact own_report rfl (lifecycle_identity (by decide) hmonitor) rfl
  | none => cases hcode
  | stop => cases hcode

theorem uniform_evaluateMonitor (context : TickContext) (active actionable : Bool)
    {prepared : MonitorTarget × SilenceState} (hmonitor : prepared.1 ∈ target.targets) :
    (targetFrame H target).Uniform fun watcher =>
      ((evaluateMonitor H target context ⟨watcher, active, actionable⟩ prepared).watcher,
        (evaluateMonitor H target context ⟨watcher, active, actionable⟩ prepared).active,
        (evaluateMonitor H target context ⟨watcher, active, actionable⟩ prepared).actionable) := by
  have hdetector : (targetFrame H target).Steps fun watcher => watcher.write H target
      (.detector prepared.1 (evaluate prepared.2 context.now target.thresholds).state) :=
    steps_own _ trivial
  unfold evaluateMonitor
  dsimp only
  cases hdiagnostic : diagnosticForAction H (evaluate prepared.2 context.now
      target.thresholds).action target prepared.1
      (evaluate prepared.2 context.now target.thresholds).state context with
  | none =>
      dsimp only
      exact Frame.Steps.then hdetector (Frame.uniform_pure _)
  | some diagnostic =>
      have hreport : (targetFrame H target).Steps fun watcher =>
          watcher.write H target (.report diagnostic) :=
        steps_own _ (own_diagnosticForAction H target hmonitor hdiagnostic)
      dsimp only
      exact Frame.Steps.then hdetector (Frame.Steps.then hreport (Frame.uniform_pure _))

theorem uniform_evaluateMonitors (context : TickContext)
    {states : List (MonitorTarget × SilenceState)}
    (hmonitors : ∀ prepared ∈ states, prepared.1 ∈ target.targets) (active actionable : Bool) :
    (targetFrame H target).Uniform fun watcher =>
      ((states.foldl (evaluateMonitor H target context) ⟨watcher, active, actionable⟩).watcher,
        (states.foldl (evaluateMonitor H target context) ⟨watcher, active, actionable⟩).active,
        (states.foldl (evaluateMonitor H target context)
          ⟨watcher, active, actionable⟩).actionable) := by
  induction states generalizing active actionable with
  | nil => exact Frame.uniform_pure (active, actionable)
  | cons prepared rest ih =>
      have hrest : ∀ other ∈ rest, other.1 ∈ target.targets :=
        fun other hother => hmonitors other (List.mem_cons_of_mem _ hother)
      refine (uniform_evaluateMonitor H target context active actionable
        (hmonitors prepared (List.mem_cons_self ..))).bind
        (fun flags watcher =>
          ((rest.foldl (evaluateMonitor H target context) ⟨watcher, flags.1, flags.2⟩).watcher,
            (rest.foldl (evaluateMonitor H target context) ⟨watcher, flags.1, flags.2⟩).active,
            (rest.foldl (evaluateMonitor H target context)
              ⟨watcher, flags.1, flags.2⟩).actionable)) (fun _ => rfl) ?_
      exact fun flags => ih hrest flags.1 flags.2

theorem steps_recordHeartbeat (context : TickContext)
    (states : List (MonitorTarget × SilenceState)) (actionable : Bool) :
    (targetFrame H target).Steps fun watcher =>
      recordHeartbeat H context target states actionable watcher := by
  have hremember : ∀ instant, (targetFrame H target).Steps fun watcher =>
      watcher.write H target (.heartbeat instant) := fun instant => steps_own _ trivial
  cases actionable with
  | true => exact hremember context.now
  | false =>
      cases states with
      | nil =>
          refine Frame.Uniform.read (fun watcher : WatcherState => watcher.heartbeatAt target.sessionId)
            (fun seen watcher => (watcher.write H target (.heartbeat (seen.getD context.now)), ()))
            (fun _ => rfl) (fun _ _ halike => halike.heartbeat) ?_
          exact fun seen => hremember _
      | cons first rest =>
          let heartbeat : TargetDiagnostic :=
            { occurredAt := context.wallTime, code := .heartbeatActive
              state := if (first :: rest).all fun state => state.2.waits.paused then .paused
                else .active
              elapsedMs := some ((context.now - rest.foldl
                (fun latest state => max latest (latestProgressAt state.2))
                (latestProgressAt first.2)) / 1000).toNat }
          have hnote : (targetFrame H target).Steps fun watcher =>
              watcher.write H target (.note heartbeat) := steps_own _ rfl
          refine Frame.Uniform.read (fun watcher : WatcherState => watcher.heartbeatAt target.sessionId)
            (fun seen watcher =>
              (if context.now - seen.getD context.now < target.thresholds.warning then
                watcher.write H target (.heartbeat (seen.getD context.now))
              else (watcher.write H target (.note heartbeat)).write H target
                (.heartbeat context.now), ()))
            (fun _ => rfl) (fun _ _ halike => halike.heartbeat) ?_
          exact fun seen => Frame.steps_ite (hremember _) (Frame.Steps.comp hnote (hremember _))

/-- The monitors a preparation returns are the target's. -/
theorem prepareMonitors_monitors {context : PreparationContext} {monitors : List MonitorTarget}
    (watcher : WatcherState) {values after : RuntimeValues}
    {progresses : List (MonitorTarget × MonitorProgress)} {prepared : WatcherState}
    (hprepared : prepareMonitors H context monitors watcher values =
      (prepared, .ok (after, progresses))) :
    progresses.map Prod.fst = monitors := by
  induction monitors generalizing watcher values progresses prepared after with
  | nil =>
      simp only [prepareMonitors, Prod.mk.injEq, Except.ok.injEq] at hprepared
      obtain ⟨_, _, rfl⟩ := hprepared
      rfl
  | cons monitor rest ih =>
      unfold prepareMonitors at hprepared
      cases hfirst : prepareMonitor H context monitor watcher values with
      | mk first result =>
          cases result with
          | error failure => simp [hfirst] at hprepared
          | ok output =>
              obtain ⟨middle, progress⟩ := output
              simp only [hfirst] at hprepared
              cases htail : prepareMonitors H context rest first middle with
              | mk last result =>
                  cases result with
                  | error failure => simp [htail] at hprepared
                  | ok output =>
                      obtain ⟨final, more⟩ := output
                      simp only [htail, Prod.mk.injEq, Except.ok.injEq] at hprepared
                      obtain ⟨_, _, rfl⟩ := hprepared
                      rw [List.map_cons, ih first htail]

theorem prepare_monitors {context : TickContext} {values after : RuntimeValues}
    {events : List ObservedEvent} {watcher prepared : WatcherState} {progress : TargetProgress}
    (hprepared : prepare H target values events context watcher =
      (prepared, .ok (after, progress))) :
    ∀ item ∈ progress.states, item.1 ∈ target.targets := by
  intro item hitem
  unfold prepare at hprepared
  dsimp only at hprepared
  revert hprepared
  generalize (if parentCompleted target events = true then Except.map Prod.snd _
    else Except.ok values) = marked
  intro hprepared
  cases marked with
  | error failure => cases hprepared
  | ok marked =>
      dsimp only at hprepared
      cases hall : prepareMonitors H ⟨target, events, context, parentCompleted target events⟩
          target.targets watcher marked with
      | mk last result =>
          rw [hall] at hprepared
          cases result with
          | error failure => cases hprepared
          | ok output =>
              cases hprepared
              obtain ⟨source, hsource, rfl⟩ := List.mem_map.mp hitem
              rw [← prepareMonitors_monitors H watcher hall]
              exact List.mem_map_of_mem hsource

/-- `evaluateTarget` behind the preparation. -/
def evaluatedAfter (H : Digest) (target : RuntimeTarget) (context : TickContext)
    (output : RuntimeValues × TargetProgress) (watcher : WatcherState) :
    WatcherState × Except Failure (RuntimeValues × Bool) :=
  match persistTurnActivity output.1 target.runtimeFile
      (output.2.activityObserved || output.2.parentTerminal) with
  | .error failure => (watcher, .error failure)
  | .ok values =>
      if output.2.parentTerminal then
        match completeTarget H target values context watcher with
        | (watcher, .error failure) => (watcher, .error failure)
        | (watcher, .ok values) => (watcher, .ok (values, false))
      else
        let evaluated := output.2.states.foldl (evaluateMonitor H target context)
          ⟨watcher, false, false⟩
        (recordHeartbeat H context target output.2.states evaluated.actionable
          evaluated.watcher, .ok (values, evaluated.active))

theorem uniform_evaluateTarget (values : RuntimeValues) (events : List ObservedEvent)
    (context : TickContext) :
    (targetFrame H target).Uniform fun watcher =>
      evaluateTarget H target values events context watcher := by
  refine (uniform_prepare H target values events context).bind_of_range
    (onOk (evaluatedAfter H target context)) ?_ ?_
  · intro watcher
    rw [evaluateTarget]
    cases prepare H target values events context watcher with
    | mk after result => cases result <;> rfl
  · intro watcher
    cases hprepared : prepare H target values events context watcher with
    | mk prepared result =>
        cases result with
        | error failure =>
            rw [onOk_error]
            exact Frame.uniform_pure _
        | ok output =>
            obtain ⟨after, progress⟩ := output
            have hmonitors := prepare_monitors H target hprepared
            dsimp only
            rw [onOk_ok]
            unfold evaluatedAfter
            dsimp only
            cases persistTurnActivity after target.runtimeFile
                (progress.activityObserved || progress.parentTerminal) with
            | error failure => exact Frame.uniform_pure _
            | ok persisted =>
                cases progress.parentTerminal with
                | true =>
                    refine (uniform_completeTarget H target persisted context).bind
                      (onOk fun values watcher => (watcher, .ok (values, false))) ?_ ?_
                    · intro watcher
                      dsimp only
                      rw [if_pos rfl]
                      cases completeTarget H target persisted context watcher with
                      | mk completed result => cases result <;> rfl
                    · exact uniform_onOk fun values => Frame.uniform_pure _
                | false =>
                    refine (uniform_evaluateMonitors H target context hmonitors false false).bind
                      (fun flags watcher =>
                        (recordHeartbeat H context target progress.states flags.2 watcher,
                          .ok (persisted, flags.1))) (fun _ => rfl) ?_
                    exact fun flags => Frame.Steps.then
                      (steps_recordHeartbeat H target context progress.states flags.2)
                      (Frame.uniform_pure _)

/-- **Two runs.**  From alike watchers the processor returns the same and writes the same,
    and all it writes is the target's own. -/
theorem uniform_tickTarget (context : TickContext) (values : RuntimeValues)
    (events : List ObservedEvent) :
    (targetFrame H target).Uniform fun watcher =>
      tickTarget H context target values events watcher := by
  refine (uniform_finishIfTerminal H target values context).bind
    (onOk fun output watcher =>
      match output.2 with
      | some finished => (watcher, .ok (output.1, finished))
      | none => evaluateTarget H target output.1 events context watcher) ?_ ?_
  · intro watcher
    rw [tickTarget]
    cases finishIfTerminal H target values context watcher with
    | mk after result =>
        cases result with
        | error failure => rfl
        | ok output =>
            obtain ⟨after, decision⟩ := output
            cases decision <;> rfl
  · apply uniform_onOk
    rintro ⟨after, decision⟩
    cases decision with
    | some finished => exact Frame.uniform_pure _
    | none => exact uniform_evaluateTarget H target after events context

end Uniform

/-- `after` is `before` with writes of one target's own. -/
structure OwnWrites (H : Digest) (target : RuntimeTarget) (before after : WatcherState) :
    Prop where
  detectors : ∀ key, key.1 ≠ target.sessionId → after.detectors key = before.detectors key
  openCalls : ∀ key, key.1 ≠ target.sessionId → after.openCalls key = before.openCalls key
  started : ∀ key, key.1 ≠ target.sessionId → after.started key = before.started key
  heartbeat : ∀ sessionId, sessionId ≠ target.sessionId →
    after.heartbeatAt sessionId = before.heartbeatAt sessionId
  log : ∃ more, after.recorder.log = before.recorder.log ++ more ∧
    ∀ event ∈ more, ∀ eventId, event.eventId = some eventId → TargetIdentity H target eventId
  pending : ∃ more, after.recorder.pending = before.recorder.pending ++ more ∧
    ∀ notification ∈ more, notification.event.sessionId = target.sessionId

namespace OwnWrites

variable {H : Digest} {target : RuntimeTarget}

theorem refl (watcher : WatcherState) : OwnWrites H target watcher watcher := by
  refine ⟨fun _ _ => rfl, fun _ _ => rfl, fun _ _ => rfl, fun _ _ => rfl, ⟨[], ?_, ?_⟩,
    ⟨[], ?_, ?_⟩⟩
  · simp
  · intro event hmem
    exact absurd hmem List.not_mem_nil
  · simp
  · intro notification hmem
    exact absurd hmem List.not_mem_nil

theorem trans {first second third : WatcherState} (h₁ : OwnWrites H target first second)
    (h₂ : OwnWrites H target second third) : OwnWrites H target first third := by
  obtain ⟨log₁, hlog₁, hids₁⟩ := h₁.log
  obtain ⟨log₂, hlog₂, hids₂⟩ := h₂.log
  obtain ⟨queue₁, hqueue₁, hown₁⟩ := h₁.pending
  obtain ⟨queue₂, hqueue₂, hown₂⟩ := h₂.pending
  refine ⟨?_, ?_, ?_, ?_, ⟨log₁ ++ log₂, ?_, ?_⟩, ⟨queue₁ ++ queue₂, ?_, ?_⟩⟩
  · intro key hkey
    rw [h₂.detectors key hkey, h₁.detectors key hkey]
  · intro key hkey
    rw [h₂.openCalls key hkey, h₁.openCalls key hkey]
  · intro key hkey
    rw [h₂.started key hkey, h₁.started key hkey]
  · intro sessionId hsession
    rw [h₂.heartbeat sessionId hsession, h₁.heartbeat sessionId hsession]
  · rw [hlog₂, hlog₁, List.append_assoc]
  · intro event hmem
    rcases List.mem_append.mp hmem with hmem | hmem
    · exact hids₁ event hmem
    · exact hids₂ event hmem
  · rw [hqueue₂, hqueue₁, List.append_assoc]
  · intro notification hmem
    rcases List.mem_append.mp hmem with hmem | hmem
    · exact hown₁ notification hmem
    · exact hown₂ notification hmem

end OwnWrites

/-! ### What a run leaves alone -/

section Own

variable {H : Digest} {target : RuntimeTarget}

theorem appendTargetDiagnosticOnce_log {diagnostic : TargetDiagnostic}
    (hown : ∀ eventId, diagnostic.eventId = some eventId → TargetIdentity H target eventId)
    (log : DiagnosticLog) :
    ∃ more, (appendTargetDiagnosticOnce H log target diagnostic).2 = log ++ more ∧
      ∀ event ∈ more, ∀ eventId, event.eventId = some eventId →
        TargetIdentity H target eventId := by
  unfold appendTargetDiagnosticOnce appendDiagnosticOnce
  split_ifs
  · refine ⟨[], by simp, ?_⟩
    intro event hmem
    exact absurd hmem List.not_mem_nil
  · refine ⟨[diagnosticEvent H target diagnostic], rfl, ?_⟩
    intro event hmem eventId hid
    obtain rfl := List.mem_singleton.mp hmem
    exact hown eventId hid

theorem ownWrites_write (watcher : WatcherState) {write : Write} (hown : write.Own H target) :
    OwnWrites H target watcher (watcher.write H target write) := by
  have hrefl : OwnWrites H target watcher watcher := OwnWrites.refl watcher
  cases write with
  | detector monitor state =>
      refine { hrefl with detectors := ?_ }
      intro key hkey
      apply Function.update_of_ne
      rintro rfl
      exact hkey rfl
  | openCalls monitor calls =>
      refine { hrefl with openCalls := ?_ }
      intro key hkey
      apply Function.update_of_ne
      rintro rfl
      exact hkey rfl
  | started monitor =>
      refine { hrefl with started := ?_ }
      intro key hkey
      apply Function.update_of_ne
      rintro rfl
      exact hkey rfl
  | heartbeat instant =>
      refine { hrefl with heartbeat := ?_ }
      intro sessionId hsession
      exact Function.update_of_ne hsession _ _
  | note diagnostic =>
      refine { hrefl with log := ?_ }
      apply appendTargetDiagnosticOnce_log
      intro eventId hid
      rw [show diagnostic.eventId = none from hown] at hid
      cases hid
  | report diagnostic =>
      obtain ⟨⟨eventId, hsome, hidentity⟩, _⟩ := hown
      refine { hrefl with log := ?_, pending := ?_ }
      · have hlog := @appendTargetDiagnosticOnce_log H target diagnostic (by
          intro other hother
          rw [hsome, Option.some_inj] at hother
          exact hother ▸ hidentity) watcher.recorder.log
        unfold WatcherState.write Recorder.record
        dsimp only
        split <;> exact hlog
      · unfold WatcherState.write Recorder.record
        dsimp only
        split
        · exact ⟨[_], rfl, by simp⟩
        · exact hrefl.pending

theorem ownWrites_note (watcher : WatcherState) {diagnostic : TargetDiagnostic}
    (hnone : diagnostic.eventId = none) :
    OwnWrites H target watcher
      { watcher with
        recorder := {
          watcher.recorder with
          log := appendTargetDiagnostic H watcher.recorder.log target diagnostic } } := by
  have hown : Write.Own H target (.note diagnostic) := hnone
  exact ownWrites_write watcher hown

theorem ownWrites_applyAll {writes : List Write} (hown : ∀ write ∈ writes, write.Own H target)
    (watcher : WatcherState) :
    OwnWrites H target watcher ((targetFrame H target).applyAll watcher writes) := by
  induction writes generalizing watcher with
  | nil => exact OwnWrites.refl watcher
  | cons write rest ih =>
      exact (ownWrites_write watcher (hown write (List.mem_cons_self ..))).trans
        (ih (fun other hother => hown other (List.mem_cons_of_mem _ hother)) _)

/-- **Frame.**  Processing a target writes only what is its own. -/
theorem ownWrites_tickTarget (H : Digest) (target : RuntimeTarget) (watcher : WatcherState)
    (values : RuntimeValues) (events : List ObservedEvent) (context : TickContext) :
    OwnWrites H target watcher (tickTarget H context target values events watcher).1 := by
  obtain ⟨writes, hown, hrun⟩ := (uniform_tickTarget H target context values events).writes watcher
  rw [hrun]
  exact ownWrites_applyAll hown watcher

end Own

end CodexMustWork
