import CodexMustWork.SessionDocument
import CodexMustWork.TargetView

/-!
# A tick of a session refines a tick of its view

The processor of one tick, run on the document of a session and on the memory
of an engine, does to the document, the detector, the open calls and the log
exactly what `TargetView.next` does to the view of the session, and queues
exactly the marks `TargetView.queued` lists.
-/

namespace CodexMustWork

/-! ### Marks in the log and in the queue -/

def Transition.code : Transition → DiagnosticCode
  | .suspected => .observableProgressSilence
  | .critical => .bottleneckCritical
  | .recovered => .progressRecovered

def Transition.notificationKind : Transition → NotificationKind
  | .suspected => .bottleneckSuspected
  | .critical => .bottleneckCritical
  | .recovered => .progressRecovered

theorem Transition.code_injective : Function.Injective Transition.code := by
  intro left right heq
  cases left <;> cases right <;> first | rfl | cases heq

/-- The event identity of a mark of a session's only monitor. -/
def markEventId (H : Digest) (sessionId : String) (mark : Mark) : String :=
  H.hash (lifecycleIdentity mark.kind.code sessionId "" "" 1 mark.epoch)

/-- The event identity of the completion of a session. -/
def sessionCompletionId (H : Digest) (sessionId : String) : String :=
  H.hash (completionIdentity sessionId "")

theorem markEventId_inj (H : Digest) (sessionId : String) {left right : Mark} :
    markEventId H sessionId left = markEventId H sessionId right ↔ left = right := by
  obtain ⟨kind, epoch⟩ := left
  obtain ⟨kind', epoch'⟩ := right
  simp only [markEventId, H.hash_injective.eq_iff, lifecycleIdentity_inj_of_target, true_and,
    Transition.code_injective.eq_iff, Mark.mk.injEq]

theorem markEventId_ne_completion (H : Digest) (sessionId : String) (mark : Mark) :
    markEventId H sessionId mark ≠ sessionCompletionId H sessionId := by
  intro heq
  have hidentity := H.hash_injective heq
  refine lifecycleIdentity_ne_of_code (free_code .watcherCompleted) ?_ _ hidentity
  intro hcode
  have hsame := DiagnosticCode.value_injective hcode
  cases hkind : mark.kind <;> simp [hkind, Transition.code] at hsame

/-- The mark a queued notification announces; a completion announces none. -/
def notificationMark (notification : PendingNotification) : Option Mark :=
  let epoch := (notification.diagnostic.target.map MonitorTarget.progressEpoch).getD 0
  match notification.event.kind with
  | .bottleneckSuspected => some ⟨.suspected, epoch⟩
  | .bottleneckCritical => some ⟨.critical, epoch⟩
  | .progressRecovered => some ⟨.recovered, epoch⟩
  | .completed => none

/-- What recording a list of marks of one session does to a recorder. -/
structure Recorder.Records (H : Digest) (sessionId : String) (before after : Recorder)
    (marks : List Mark) : Prop where
  recorded : ∀ mark, after.log.hasEvent (markEventId H sessionId mark) =
    (before.log.hasEvent (markEventId H sessionId mark) || decide (mark ∈ marks))
  completion : after.log.hasEvent (sessionCompletionId H sessionId) =
    before.log.hasEvent (sessionCompletionId H sessionId)
  queued : ∃ more, after.pending = before.pending ++ more ∧
    more.map notificationMark =
      (marks.filter fun mark => !before.log.hasEvent (markEventId H sessionId mark)).map some ∧
    ∀ notification ∈ more, notification.event.sessionId = sessionId

namespace Recorder

variable {H : Digest} {sessionId : String}

theorem Records.refl (recorder : Recorder) : Records H sessionId recorder recorder [] := by
  refine ⟨fun mark => ?_, rfl, [], ?_, rfl, ?_⟩
  · simp
  · simp
  · intro notification hmem
    exact absurd hmem List.not_mem_nil

theorem Records.trans {first second third : Recorder} {marks more : List Mark}
    (h₁ : Records H sessionId first second marks) (h₂ : Records H sessionId second third more)
    (hdisjoint : ∀ mark ∈ more, mark ∉ marks) :
    Records H sessionId first third (marks ++ more) := by
  obtain ⟨queued₁, hpending₁, hmarks₁, hsession₁⟩ := h₁.queued
  obtain ⟨queued₂, hpending₂, hmarks₂, hsession₂⟩ := h₂.queued
  refine ⟨fun mark => ?_, h₂.completion.trans h₁.completion, queued₁ ++ queued₂, ?_, ?_, ?_⟩
  · rw [h₂.recorded, h₁.recorded, Bool.or_assoc]
    simp only [List.mem_append, Bool.decide_or]
  · rw [hpending₂, hpending₁, List.append_assoc]
  · -- what the first half recorded is no mark of the second
    have hfilter : (more.filter fun mark =>
          !second.log.hasEvent (markEventId H sessionId mark)) =
        more.filter fun mark => !first.log.hasEvent (markEventId H sessionId mark) := by
      apply List.filter_congr
      intro mark hmem
      rw [h₁.recorded, decide_eq_false (hdisjoint mark hmem), Bool.or_false]
    rw [List.map_append, hmarks₁, hmarks₂, hfilter, List.filter_append, List.map_append]
  · intro notification hmem
    rcases List.mem_append.mp hmem with hmem | hmem
    · exact hsession₁ notification hmem
    · exact hsession₂ notification hmem

/-- A diagnostic without identity changes nothing a mark can see. -/
theorem records_anonymous (recorder : Recorder) (target : RuntimeTarget)
    {diagnostic : TargetDiagnostic} (hanonymous : diagnostic.eventId = none) :
    Records H sessionId recorder
      { recorder with log := appendTargetDiagnostic H recorder.log target diagnostic } [] := by
  have hkeep : ∀ eventId, (appendTargetDiagnostic H recorder.log target diagnostic).hasEvent
      eventId = recorder.log.hasEvent eventId := by
    intro eventId
    have hnone : (diagnosticEvent H target diagnostic).eventId = none := hanonymous
    rw [appendTargetDiagnostic, appendTargetDiagnosticOnce, appendDiagnosticOnce_hasEvent, hnone]
    simp
  refine ⟨fun mark => ?_, hkeep _, [], ?_, rfl, ?_⟩
  · simp [hkeep]
  · simp
  · intro notification hmem
    exact absurd hmem List.not_mem_nil

/-- Recording the diagnostic of a mark records it, and queues it when it is new. -/
theorem records_mark (recorder : Recorder) {target : RuntimeTarget}
    {diagnostic : TargetDiagnostic} {mark : Mark} {monitor : MonitorTarget}
    (hsession : target.sessionId = sessionId) (hcode : diagnostic.code = mark.kind.code)
    (hmonitor : diagnostic.target = some monitor) (hepoch : monitor.progressEpoch = mark.epoch)
    (hidentity : diagnostic.eventId = some (markEventId H sessionId mark)) :
    Records H sessionId recorder (recorder.record H target diagnostic) [mark] := by
  have hkind : notificationKind diagnostic.code = some mark.kind.notificationKind := by
    rw [hcode]
    cases mark.kind <;> rfl
  obtain ⟨notification, hpending, hdiagnostic, hannounced, htarget⟩ :=
    recorder.record_pending H target diagnostic hkind hidentity
  refine ⟨fun other => ?_, ?_, ?_⟩
  · rw [record_hasEvent, hidentity]
    congr 1
    rw [decide_eq_decide, Option.some_inj, markEventId_inj, List.mem_singleton]
    exact eq_comm
  · rw [record_hasEvent, hidentity]
    have hne : ¬ some (markEventId H sessionId mark) = some (sessionCompletionId H sessionId) :=
      fun heq => markEventId_ne_completion H sessionId mark (Option.some_inj.mp heq)
    rw [decide_eq_false hne, Bool.or_false]
  · have hmark : notificationMark notification = some mark := by
      unfold notificationMark
      rw [hannounced, hdiagnostic, hmonitor]
      obtain ⟨kind, epoch⟩ := mark
      cases kind <;> simp [Transition.notificationKind, hepoch]
    refine ⟨_, hpending, ?_, ?_⟩
    · cases hseen : recorder.log.hasEvent (markEventId H sessionId mark) with
      | true => simp [hseen]
      | false => simp [hseen, hmark]
    · intro queued hmem
      split_ifs at hmem
      · exact absurd hmem List.not_mem_nil
      · obtain rfl := List.mem_singleton.mp hmem
        exact htarget.trans hsession

end Recorder

/-! ### Views -/

def detectorView (state : SilenceState) : DetectorView :=
  ⟨latestProgressAt state, state.warningEmitted, state.criticalEmitted, state.waits.paused,
    state.waits.terminal⟩

/-- The view of a session: its document, its part of an engine's memory, and the log. -/
def sessionView (H : Digest) (doc : SessionDocument) (watcher : WatcherState) : TargetView where
  epoch := doc.progressEpoch
  anchor := doc.silenceStartedAt
  detector := (watcher.detectors doc.key).map detectorView
  openCalls := watcher.openCalls doc.key
  recorded mark := watcher.recorder.log.hasEvent (markEventId H doc.sessionId mark)

/-- The transition an action of the detector announces. -/
def Action.transition : Action → Option Transition
  | .warning => some .suspected
  | .critical => some .critical
  | .none | .stop => Option.none

/-- Evaluating a live detector emits what is due in its view. -/
theorem evaluate_transition {state : SilenceState} (hlive : state.waits.terminal = false)
    (now : Int) (thresholds : Thresholds) :
    (evaluate state now thresholds).action.transition =
      (detectorView state).due thresholds now := by
  unfold evaluate DetectorView.due detectorView
  dsimp only
  split_ifs <;> simp_all [Action.transition]

theorem evaluate_view {state : SilenceState} (hlive : state.waits.terminal = false)
    (now : Int) (thresholds : Thresholds) :
    detectorView (evaluate state now thresholds).state =
      (detectorView state).emit ((detectorView state).due thresholds now) := by
  rw [← evaluate_transition hlive]
  unfold DetectorView.emit detectorView
  simp only [evaluate_latest, evaluate_waits, evaluate_warningEmitted, evaluate_criticalEmitted]
  cases (evaluate state now thresholds).action <;> simp [Action.transition]

theorem recordHeartbeat_memory (H : Digest) (context : TickContext) (target : RuntimeTarget)
    (states : List (MonitorTarget × SilenceState)) (actionable : Bool) (watcher : WatcherState) :
    (recordHeartbeat H context target states actionable watcher).detectors = watcher.detectors ∧
      (recordHeartbeat H context target states actionable watcher).openCalls =
        watcher.openCalls := by
  unfold recordHeartbeat
  cases states with
  | nil =>
      dsimp only
      split_ifs <;> exact ⟨rfl, rfl⟩
  | cons first rest =>
      dsimp only
      split_ifs <;> exact ⟨rfl, rfl⟩

theorem recordHeartbeat_records (H : Digest) (sessionId : String) (context : TickContext)
    (target : RuntimeTarget) (states : List (MonitorTarget × SilenceState)) (actionable : Bool)
    (watcher : WatcherState) :
    Recorder.Records H sessionId watcher.recorder
      (recordHeartbeat H context target states actionable watcher).recorder [] := by
  unfold recordHeartbeat
  cases states with
  | nil =>
      dsimp only
      split_ifs <;> exact Recorder.Records.refl _
  | cons first rest =>
      dsimp only
      split_ifs
      · exact Recorder.Records.refl _
      · exact Recorder.Records.refl _
      · exact Recorder.records_anonymous _ _ rfl
      · exact Recorder.records_anonymous _ _ rfl

section Session

variable (H : Digest) (doc : SessionDocument) (rollout : String) (watcher : WatcherState)
  (input : TickInput)

/-- The clocks of a tick. -/
def TickInput.context (input : TickInput) : TickContext := ⟨input.now, input.wallTime⟩

/-- The preparation context of the session. -/
def sessionContext : PreparationContext :=
  ⟨doc.target H rollout, input.events, input.context, false⟩

theorem eventMatchesTarget_monitor (event : ObservedEvent) :
    eventMatchesTarget event doc.monitor none = decide (doc.silenceStartedAt ≤ event.occurredAt) := by
  have hstarted : (doc.monitor.startedAt.any fun started => decide (event.occurredAt < started)) =
      decide (event.occurredAt < doc.silenceStartedAt) := rfl
  have htarget : doc.monitor.targetId = none := rfl
  unfold eventMatchesTarget
  rw [hstarted, htarget]
  by_cases hold : event.occurredAt < doc.silenceStartedAt
  · have hnot : ¬ doc.silenceStartedAt ≤ event.occurredAt := not_le.mpr hold
    simp [hold, hnot]
  · have hle : doc.silenceStartedAt ≤ event.occurredAt := not_lt.mp hold
    cases hchild : event.childId <;> simp [hold, hle]

theorem matchedEvents_monitor (events : List ObservedEvent) :
    matchedEvents doc.monitor none events = (sessionView H doc watcher).observed events := by
  unfold matchedEvents TargetView.observed
  apply List.filter_congr
  intro event _
  exact eventMatchesTarget_monitor doc event

theorem countedEvents_monitor (events : List ObservedEvent) :
    countedEvents doc.monitor none events = (sessionView H doc watcher).progress events := by
  rw [countedEvents, matchedEvents_monitor H doc watcher, TargetView.progress]

theorem priorState_view :
    detectorView (priorState watcher (sessionContext H doc rollout input) doc.monitor) =
      (sessionView H doc watcher).prior input.now input.wallTime := by
  have hkey : detectorKey (sessionContext H doc rollout input).target doc.monitor = doc.key := rfl
  unfold priorState TargetView.prior
  rw [hkey]
  change _ = ((watcher.detectors doc.key).map detectorView).getD _
  cases hdetector : watcher.detectors doc.key with
  | some state => rfl
  | none =>
      change detectorView (initialState _) = _
      simp only [detectorView, latestProgressAt_initialState]
      rfl

theorem warningWasEmitted_view :
    watcher.recorder.warningWasEmitted H (doc.target H rollout) doc.monitor
        (priorState watcher (sessionContext H doc rollout input) doc.monitor) =
      (sessionView H doc watcher).warned input := by
  have hprior := congrArg DetectorView.warned (priorState_view H doc rollout watcher input)
  unfold Recorder.warningWasEmitted TargetView.warned
  rw [← hprior]
  rfl

/-- The detector a session's events are applied to. -/
def enteredState : SilenceState :=
  let prior := priorState watcher (sessionContext H doc rollout input) doc.monitor
  if (sessionView H doc watcher).warned input && !prior.warningEmitted then
    restoreSuspectedTransition prior
  else prior

theorem enteredState_sequence :
    (enteredState H doc rollout watcher input).silenceSequence =
      (priorState watcher (sessionContext H doc rollout input) doc.monitor).silenceSequence := by
  unfold enteredState
  dsimp only
  split_ifs <;> rfl

theorem enteredState_view :
    detectorView (enteredState H doc rollout watcher input) =
      { (sessionView H doc watcher).prior input.now input.wallTime with
        warned := (sessionView H doc watcher).warned input } := by
  rw [← priorState_view H doc rollout watcher input]
  have hwarned : (priorState watcher (sessionContext H doc rollout input)
      doc.monitor).warningEmitted = true → (sessionView H doc watcher).warned input = true := by
    intro hprior
    rw [← warningWasEmitted_view H doc rollout watcher input, Recorder.warningWasEmitted, hprior,
      Bool.true_or]
  unfold enteredState
  dsimp only
  split_ifs with hrestore
  · rw [Bool.and_eq_true] at hrestore
    rw [hrestore.1]
    rfl
  · cases hprior : (priorState watcher (sessionContext H doc rollout input)
      doc.monitor).warningEmitted with
    | true => simp only [detectorView, hprior, hwarned hprior]
    | false =>
        have hnot : (sessionView H doc watcher).warned input = false := by
          simpa [hprior] using hrestore
        simp only [detectorView, hprior, hnot]

/-- The events of a tick applied to the session's monitor. -/
def appliedEvents : EventProgress :=
  applyTargetEvents (watcher.openCalls doc.key) doc.monitor
    (enteredState H doc rollout watcher input) ⟨input.events, input.now, none⟩

theorem appliedEvents_openCalls :
    (appliedEvents H doc rollout watcher input).openCalls =
      (sessionView H doc watcher).callsAfter input := by
  rw [appliedEvents, applyTargetEvents_openCalls, matchedEvents_monitor H doc watcher]
  rfl

theorem appliedEvents_terminal :
    (appliedEvents H doc rollout watcher input).terminal = false := by
  rw [appliedEvents, applyTargetEvents_terminal, List.any_eq_false]
  intro event _
  simp [terminalMatches, SessionDocument.monitor]

theorem enteredState_counts_iff :
    (enteredState H doc rollout watcher input).Counts input.now ↔
      ((sessionView H doc watcher).prior input.now input.wallTime).terminal = false ∧
        ((sessionView H doc watcher).prior input.now input.wallTime).latest ≤ input.now := by
  have hview := enteredState_view H doc rollout watcher input
  have hterminal := congrArg DetectorView.terminal hview
  have hlatest := congrArg DetectorView.latest hview
  change (enteredState H doc rollout watcher input).waits.terminal = _ at hterminal
  change latestProgressAt (enteredState H doc rollout watcher input) = _ at hlatest
  rw [SilenceState.Counts, hterminal, hlatest]

theorem progresses_iff :
    (sessionView H doc watcher).progresses input = true ↔
      (enteredState H doc rollout watcher input).Counts input.now ∧
        0 < (countedEvents doc.monitor none input.events).length := by
  rw [enteredState_counts_iff, countedEvents_monitor H doc watcher, TargetView.progresses]
  simp only [Bool.and_eq_true, Bool.not_eq_true', decide_eq_true_eq, List.isEmpty_eq_false_iff,
    List.length_pos_iff]

/-- The sequence moves exactly when the view progresses. -/
theorem appliedEvents_progressed :
    decide ((priorState watcher (sessionContext H doc rollout input) doc.monitor).silenceSequence <
        (appliedEvents H doc rollout watcher input).state.silenceSequence) =
      (sessionView H doc watcher).progresses input := by
  rw [Bool.eq_iff_iff, decide_eq_true_eq, progresses_iff H doc rollout watcher input,
    ← enteredState_sequence H doc rollout watcher input]
  by_cases hcounts : (enteredState H doc rollout watcher input).Counts input.now
  · have hadvanced := applyTargetEvents_advancedBy (watcher.openCalls doc.key) doc.monitor
      (enteredState H doc rollout watcher input) ⟨input.events, input.now, none⟩ hcounts
    have hsequence := hadvanced.sequence
    change (appliedEvents H doc rollout watcher input).state.silenceSequence = _ at hsequence
    rw [hsequence]
    simp only [hcounts, true_and]
    omega
  · have hsame := applyTargetEvents_state_of_not_counts (watcher.openCalls doc.key) doc.monitor
      (enteredState H doc rollout watcher input) ⟨input.events, input.now, none⟩ hcounts
    change (appliedEvents H doc rollout watcher input).state = _ at hsame
    rw [hsame]
    simp [hcounts]

/-- The waits the tick computes for the session's monitor. -/
def sessionWaits : WaitState where
  openToolCount := ((sessionView H doc watcher).callsAfter input).card

/-- The detector a tick evaluates. -/
def preparedState : SilenceState :=
  setWaitState (appliedEvents H doc rollout watcher input).state (sessionWaits H doc watcher input)
    (!(sessionWaits H doc watcher input).paused)

theorem sessionWaits_paused :
    (sessionWaits H doc watcher input).paused =
      decide (0 < ((sessionView H doc watcher).callsAfter input).card) := by
  simp [sessionWaits, WaitState.paused, WaitState.terminal]

theorem preparedState_waits :
    (preparedState H doc rollout watcher input).waits = sessionWaits H doc watcher input :=
  setWaitState_waits _ _

theorem preparedState_view :
    detectorView (preparedState H doc rollout watcher input) =
      (sessionView H doc watcher).counted input := by
  have hwaits := preparedState_waits H doc rollout watcher input
  have hshape : detectorView (preparedState H doc rollout watcher input) =
      { detectorView (appliedEvents H doc rollout watcher input).state with
        paused := (sessionView H doc watcher).waiting input
        terminal := false } := by
    unfold detectorView
    rw [hwaits, sessionWaits_paused]
    unfold preparedState
    simp only [setWaitState_latest, setWaitState_warningEmitted, setWaitState_criticalEmitted]
    rfl
  rw [hshape, TargetView.counted]
  by_cases hcounts : (enteredState H doc rollout watcher input).Counts input.now
  · have hadvanced := applyTargetEvents_advancedBy (watcher.openCalls doc.key) doc.monitor
      (enteredState H doc rollout watcher input) ⟨input.events, input.now, none⟩ hcounts
    rcases Nat.eq_zero_or_pos (countedEvents doc.monitor none input.events).length with
      hzero | hpos
    · have hnot : ¬ (sessionView H doc watcher).progresses input = true := by
        rw [progresses_iff H doc rollout watcher input]
        omega
      have hsame := hadvanced.unchanged hzero
      change (appliedEvents H doc rollout watcher input).state = _ at hsame
      rw [if_neg hnot, hsame, enteredState_view]
    · have hprogress : (sessionView H doc watcher).progresses input = true :=
        (progresses_iff H doc rollout watcher input).mpr ⟨hcounts, hpos⟩
      have hlatest := hadvanced.latest hpos
      have hwarning := hadvanced.warningEmitted hpos
      have hcritical := hadvanced.criticalEmitted hpos
      change latestProgressAt (appliedEvents H doc rollout watcher input).state = _ at hlatest
      change (appliedEvents H doc rollout watcher input).state.warningEmitted = _ at hwarning
      change (appliedEvents H doc rollout watcher input).state.criticalEmitted = _ at hcritical
      rw [if_pos hprogress]
      simp only [detectorView, hlatest, hwarning, hcritical]
  · have hnot : ¬ (sessionView H doc watcher).progresses input = true := by
      rw [progresses_iff H doc rollout watcher input]
      exact fun hprogress => hcounts hprogress.1
    have hsame := applyTargetEvents_state_of_not_counts (watcher.openCalls doc.key) doc.monitor
      (enteredState H doc rollout watcher input) ⟨input.events, input.now, none⟩ hcounts
    change (appliedEvents H doc rollout watcher input).state = _ at hsame
    rw [if_neg hnot, hsame, enteredState_view]

/-! ### The prepared monitor -/

theorem recordStarted_openCalls (context : PreparationContext) (monitor : MonitorTarget) :
    (recordStarted H context monitor watcher).openCalls = watcher.openCalls := by
  unfold recordStarted
  dsimp only
  split_ifs <;> rfl

theorem recordStarted_detectors (context : PreparationContext) (monitor : MonitorTarget) :
    (recordStarted H context monitor watcher).detectors = watcher.detectors := by
  unfold recordStarted
  dsimp only
  split_ifs <;> rfl

theorem recordStarted_records (context : PreparationContext) (monitor : MonitorTarget)
    (sessionId : String) :
    Recorder.Records H sessionId watcher.recorder
      (recordStarted H context monitor watcher).recorder [] := by
  unfold recordStarted
  dsimp only
  split_ifs
  · exact Recorder.Records.refl _
  · exact Recorder.records_anonymous _ _ rfl

/-- The memory once the session's monitor is prepared. -/
def preparedWatcher : WatcherState :=
  let started := recordStarted H (sessionContext H doc rollout input) doc.monitor watcher
  { started with
    openCalls := Function.update watcher.openCalls doc.key
      ((sessionView H doc watcher).callsAfter input)
    recorder :=
      if (sessionView H doc watcher).progresses input && (sessionView H doc watcher).warned input then
        started.recorder.recordRecovery H (doc.target H rollout) doc.monitor input.wallTime
      else started.recorder }

/-- The document once the session's monitor is prepared. -/
def preparedDocument : SessionDocument :=
  if (sessionView H doc watcher).progresses input then doc.advance input.wallTime else doc

theorem prepareMonitor_session :
    prepareMonitor H (sessionContext H doc rollout input) doc.monitor watcher doc.values =
      (preparedWatcher H doc rollout watcher input,
        .ok ((preparedDocument H doc watcher input).values,
          ⟨preparedState H doc rollout watcher input,
            (sessionView H doc watcher).progresses input⟩)) := by
  have hwarned : watcher.recorder.warningWasEmitted H
      (sessionContext H doc rollout input).target doc.monitor
      (priorState watcher (sessionContext H doc rollout input) doc.monitor) =
        (sessionView H doc watcher).warned input :=
    warningWasEmitted_view H doc rollout watcher input
  have hkey : detectorKey (sessionContext H doc rollout input).target doc.monitor = doc.key := rfl
  have hstarted : (recordStarted H (sessionContext H doc rollout input) doc.monitor
      watcher).openCalls = watcher.openCalls := recordStarted_openCalls H watcher _ _
  have happlied : applyTargetEvents (watcher.openCalls doc.key) doc.monitor
      (enteredState H doc rollout watcher input)
      ⟨(sessionContext H doc rollout input).events, (sessionContext H doc rollout input).tick.now,
        (sessionContext H doc rollout input).target.parentTurnId⟩ =
        appliedEvents H doc rollout watcher input := rfl
  have hentered : (if ((sessionView H doc watcher).warned input &&
      !(priorState watcher (sessionContext H doc rollout input) doc.monitor).warningEmitted) = true
      then restoreSuspectedTransition
        (priorState watcher (sessionContext H doc rollout input) doc.monitor)
      else priorState watcher (sessionContext H doc rollout input) doc.monitor) =
        enteredState H doc rollout watcher input := rfl
  have hprogressed := appliedEvents_progressed H doc rollout watcher input
  have hterminal := appliedEvents_terminal H doc rollout watcher input
  have hcalls := appliedEvents_openCalls H doc rollout watcher input
  have hwaits : observedWaits (sessionContext H doc rollout input) doc.monitor
      (appliedEvents H doc rollout watcher input).openCalls
      (appliedEvents H doc rollout watcher input).terminal =
        sessionWaits H doc watcher input := by
    rw [hcalls, hterminal]
    simp [observedWaits, sessionWaits, SessionDocument.monitor, sessionContext]
  have hadvance : (if (sessionView H doc watcher).progresses input = true then
      advanceTargetProgressEpoch doc.values doc.monitor.targetId
        (sessionContext H doc rollout input).target.runtimeFile
        (sessionContext H doc rollout input).tick.wallTime
      else .ok doc.values) = .ok (preparedDocument H doc watcher input).values := by
    unfold preparedDocument
    split_ifs
    · exact doc.advanceTargetProgressEpoch_values _ _
    · rfl
  unfold prepareMonitor
  simp only [hkey, hwarned, hstarted, hentered, happlied, hprogressed, hterminal, hcalls, hadvance,
    Bool.false_eq_true, if_false, Bool.or_false]
  rw [hterminal, hcalls] at hwaits
  rw [hwaits]
  unfold preparedWatcher preparedState
  congr 1
  split_ifs <;> rfl

theorem preparedWatcher_records :
    Recorder.Records H doc.sessionId watcher.recorder
      (preparedWatcher H doc rollout watcher input).recorder
      (if (sessionView H doc watcher).progresses input &&
          (sessionView H doc watcher).warned input then
        [⟨.recovered, doc.progressEpoch⟩] else []) := by
  have hstarted := recordStarted_records H watcher (sessionContext H doc rollout input) doc.monitor
    doc.sessionId
  unfold preparedWatcher
  dsimp only
  split_ifs
  · have hrecovery : Recorder.Records H doc.sessionId
        (recordStarted H (sessionContext H doc rollout input) doc.monitor watcher).recorder
        ((recordStarted H (sessionContext H doc rollout input) doc.monitor
          watcher).recorder.recordRecovery H (doc.target H rollout) doc.monitor input.wallTime)
        [⟨.recovered, doc.progressEpoch⟩] :=
      Recorder.records_mark _ rfl rfl rfl rfl rfl
    exact hstarted.trans hrecovery fun mark _ => List.not_mem_nil
  · exact hstarted

/-! ### The evaluated monitor -/

/-- What the evaluation loop leaves of the prepared memory. -/
def evaluatedProgress : EvaluationProgress :=
  evaluateMonitor H (doc.target H rollout) input.context
    ⟨preparedWatcher H doc rollout watcher input, false, false⟩
    (doc.monitor, preparedState H doc rollout watcher input)

theorem preparedState_live :
    (preparedState H doc rollout watcher input).waits.terminal = false := by
  rw [preparedState_waits]
  rfl

theorem preparedState_transition :
    (evaluate (preparedState H doc rollout watcher input) input.now
        doc.thresholds).action.transition =
      (sessionView H doc watcher).due doc.thresholds input := by
  rw [evaluate_transition (preparedState_live H doc rollout watcher input), preparedState_view]
  rfl

theorem evaluatedProgress_active :
    (evaluatedProgress H doc rollout watcher input).active = true := by
  have hlive : (evaluate (preparedState H doc rollout watcher input) input.context.now
      (doc.target H rollout).thresholds).state.waits.terminal = false := by
    rw [evaluate_waits]
    exact preparedState_live H doc rollout watcher input
  unfold evaluatedProgress evaluateMonitor
  dsimp only
  split
  · rw [hlive]
    rfl
  · rw [hlive]
    rfl

theorem evaluatedProgress_memory :
    (evaluatedProgress H doc rollout watcher input).watcher.detectors =
        Function.update watcher.detectors doc.key
          (some (evaluate (preparedState H doc rollout watcher input) input.now
            doc.thresholds).state) ∧
      (evaluatedProgress H doc rollout watcher input).watcher.openCalls =
        Function.update watcher.openCalls doc.key
          ((sessionView H doc watcher).callsAfter input) := by
  have hdetectors : (preparedWatcher H doc rollout watcher input).detectors =
      watcher.detectors := recordStarted_detectors H watcher _ _
  have hkey : detectorKey (doc.target H rollout) doc.monitor = doc.key := rfl
  unfold evaluatedProgress evaluateMonitor
  dsimp only
  rw [hdetectors, hkey]
  split <;> exact ⟨rfl, rfl⟩

theorem evaluatedProgress_records :
    Recorder.Records H doc.sessionId (preparedWatcher H doc rollout watcher input).recorder
      (evaluatedProgress H doc rollout watcher input).watcher.recorder
      (((sessionView H doc watcher).due doc.thresholds input).toList.map
        fun kind => ⟨kind, doc.progressEpoch⟩) := by
  rw [← preparedState_transition H doc rollout watcher input]
  change Recorder.Records H doc.sessionId _ _
    ((evaluate (preparedState H doc rollout watcher input) input.context.now
      (doc.target H rollout).thresholds).action.transition.toList.map _)
  unfold evaluatedProgress evaluateMonitor
  dsimp only
  cases (evaluate (preparedState H doc rollout watcher input) input.context.now
    (doc.target H rollout).thresholds).action with
  | none => exact Recorder.Records.refl _
  | stop => exact Recorder.Records.refl _
  | warning => exact Recorder.records_mark _ rfl rfl rfl rfl rfl
  | critical => exact Recorder.records_mark _ rfl rfl rfl rfl rfl

/-! ### The whole tick -/

/-- The document the processor leaves; the commit counts its revision. -/
def processedDocument : SessionDocument :=
  if (sessionView H doc watcher).progresses input then
    (doc.advance input.wallTime).observeActivity
  else doc

/-- The memory the processor leaves. -/
def tickedWatcher : WatcherState :=
  recordHeartbeat H input.context (doc.target H rollout)
    [(doc.monitor, preparedState H doc rollout watcher input)]
    (evaluatedProgress H doc rollout watcher input).actionable
    (evaluatedProgress H doc rollout watcher input).watcher

theorem tickTarget_session :
    tickTarget H input.context (doc.target H rollout) doc.values input.events watcher =
      (tickedWatcher H doc rollout watcher input,
        .ok ((processedDocument H doc watcher input).values, true)) := by
  have hparent : parentCompleted (doc.target H rollout) input.events = false := by
    have hturn : (doc.target H rollout).parentTurnId.isSome = false := rfl
    unfold parentCompleted
    rw [hturn]
    simp
  have hfinish : finishIfTerminal H (doc.target H rollout) doc.values input.context watcher =
      (watcher, .ok (doc.values, none)) := rfl
  have hmonitors : prepareMonitors H
      ⟨doc.target H rollout, input.events, input.context, false⟩ (doc.target H rollout).targets
      watcher doc.values =
        (preparedWatcher H doc rollout watcher input,
          .ok ((preparedDocument H doc watcher input).values,
            [(doc.monitor, ⟨preparedState H doc rollout watcher input,
              (sessionView H doc watcher).progresses input⟩)])) := by
    have hmonitor := prepareMonitor_session H doc rollout watcher input
    unfold sessionContext at hmonitor
    rw [doc.targets_target, prepareMonitors, hmonitor]
    rfl
  have hprepare : prepare H (doc.target H rollout) doc.values input.events input.context watcher =
      (preparedWatcher H doc rollout watcher input,
        .ok ((preparedDocument H doc watcher input).values,
          ⟨[(doc.monitor, preparedState H doc rollout watcher input)],
            (sessionView H doc watcher).progresses input, false⟩)) := by
    unfold prepare
    simp only [hparent, Bool.false_eq_true, if_false, hmonitors]
    simp
  have hactivity : persistTurnActivity (preparedDocument H doc watcher input).values
      (doc.target H rollout).runtimeFile ((sessionView H doc watcher).progresses input || false) =
        .ok (processedDocument H doc watcher input).values := by
    rw [Bool.or_false, SessionDocument.persistTurnActivity_values]
    unfold processedDocument preparedDocument
    split_ifs <;> rfl
  have hactive := evaluatedProgress_active H doc rollout watcher input
  unfold tickTarget evaluateTarget
  simp only [hfinish, hprepare, hactivity, Bool.false_eq_true, if_false]
  unfold tickedWatcher
  unfold evaluatedProgress at hactive ⊢
  simp only [List.foldl_cons, List.foldl_nil, hactive]

theorem tickedWatcher_records :
    Recorder.Records H doc.sessionId watcher.recorder
      (tickedWatcher H doc rollout watcher input).recorder
      ((sessionView H doc watcher).marks doc.thresholds input) := by
  have hprepared := preparedWatcher_records H doc rollout watcher input
  have hevaluated := evaluatedProgress_records H doc rollout watcher input
  have hheartbeat := recordHeartbeat_records H doc.sessionId input.context (doc.target H rollout)
    [(doc.monitor, preparedState H doc rollout watcher input)]
    (evaluatedProgress H doc rollout watcher input).actionable
    (evaluatedProgress H doc rollout watcher input).watcher
  have hboth := hprepared.trans hevaluated (by
    intro mark hmark hrecovered
    obtain ⟨kind, hkind, rfl⟩ := List.mem_map.mp hmark
    split_ifs at hrecovered with hprogress
    · rw [Bool.and_eq_true] at hprogress
      rw [TargetView.due_of_progresses hprogress.1] at hkind
      exact absurd hkind (by simp)
    · exact absurd hrecovered List.not_mem_nil)
  have hall := hboth.trans hheartbeat fun mark hmark => absurd hmark List.not_mem_nil
  rw [List.append_nil] at hall
  exact hall

theorem processedDocument_key : (processedDocument H doc watcher input).key = doc.key := by
  unfold processedDocument
  split_ifs <;> rfl

theorem processedDocument_sessionId :
    (processedDocument H doc watcher input).sessionId = doc.sessionId := by
  unfold processedDocument
  split_ifs <;> rfl

theorem processedDocument_epoch :
    (processedDocument H doc watcher input).progressEpoch =
      ((sessionView H doc watcher).next doc.thresholds input).epoch := by
  unfold processedDocument
  rw [TargetView.next_epoch]
  split_ifs <;> rfl

theorem processedDocument_anchor :
    (processedDocument H doc watcher input).silenceStartedAt =
      ((sessionView H doc watcher).next doc.thresholds input).anchor := by
  unfold processedDocument
  rw [TargetView.next_anchor]
  split_ifs <;> rfl

/-- **Refinement.**  The view of the document and memory a tick leaves is the next view. -/
theorem sessionView_tickedWatcher :
    sessionView H (processedDocument H doc watcher input)
        (tickedWatcher H doc rollout watcher input) =
      (sessionView H doc watcher).next doc.thresholds input := by
  obtain ⟨hdetectors, hcalls⟩ := evaluatedProgress_memory H doc rollout watcher input
  obtain ⟨hheartDetectors, hheartCalls⟩ := recordHeartbeat_memory H input.context
    (doc.target H rollout) [(doc.monitor, preparedState H doc rollout watcher input)]
    (evaluatedProgress H doc rollout watcher input).actionable
    (evaluatedProgress H doc rollout watcher input).watcher
  have hdetector : (tickedWatcher H doc rollout watcher input).detectors doc.key =
      some (evaluate (preparedState H doc rollout watcher input) input.now
        doc.thresholds).state := by
    unfold tickedWatcher
    rw [hheartDetectors, hdetectors, Function.update_self]
  have hopen : (tickedWatcher H doc rollout watcher input).openCalls doc.key =
      (sessionView H doc watcher).callsAfter input := by
    unfold tickedWatcher
    rw [hheartCalls, hcalls, Function.update_self]
  have hrecords := (tickedWatcher_records H doc rollout watcher input).recorded
  apply TargetView.ext
  · exact processedDocument_epoch H doc watcher input
  · exact processedDocument_anchor H doc watcher input
  · change ((tickedWatcher H doc rollout watcher input).detectors
      (processedDocument H doc watcher input).key).map detectorView = _
    rw [processedDocument_key, hdetector, Option.map_some, TargetView.next_detector,
      evaluate_view (preparedState_live H doc rollout watcher input), preparedState_view]
    rfl
  · change (tickedWatcher H doc rollout watcher input).openCalls
      (processedDocument H doc watcher input).key = _
    rw [processedDocument_key, hopen]
    rfl
  · funext mark
    change (tickedWatcher H doc rollout watcher input).recorder.log.hasEvent
      (markEventId H (processedDocument H doc watcher input).sessionId mark) = _
    rw [processedDocument_sessionId, hrecords]
    rfl

end Session

end CodexMustWork
