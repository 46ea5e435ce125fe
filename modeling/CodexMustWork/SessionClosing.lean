import CodexMustWork.SessionModel
import CodexMustWork.SessionTick

/-!
# Completing a session

The document of a session once `parent_complete` is set: before and after a tick
has claimed the completion.  A tick on such a document announces the completion
when the claim and the record are new, and makes the detector terminal.
-/

namespace CodexMustWork

/-- What a queued notification announces. -/
def notificationNotice (notification : PendingNotification) : Notice :=
  match notificationMark notification with
  | some mark => .mark mark
  | none => .completed

/-- Notifications of marks are notices of these marks. -/
theorem map_notificationNotice {queued : List PendingNotification} {marks : List Mark}
    (hmarks : queued.map notificationMark = marks.map some) :
    queued.map notificationNotice = marks.map Notice.mark := by
  let announce : Option Mark → Notice := fun mark => mark.elim .completed .mark
  have hannounce : ∀ notification, notificationNotice notification =
      announce (notificationMark notification) := by
    intro notification
    unfold notificationNotice
    cases notificationMark notification <;> rfl
  calc queued.map notificationNotice
      = (queued.map notificationMark).map announce := by
        rw [List.map_map]
        exact List.map_congr_left fun notification _ => hannounce notification
    _ = marks.map Notice.mark := by
        rw [hmarks, List.map_map]
        rfl

/-- What an engine and the log keep of a session whose document is gone. -/
def sessionMemory (H : Digest) (sessionId : String) (watcher : WatcherState) : SessionMemory where
  detector := (watcher.detectors (sessionId, none, 1)).map detectorView
  openCalls := watcher.openCalls (sessionId, none, 1)
  recorded mark := watcher.recorder.log.hasEvent (markEventId H sessionId mark)
  completed := watcher.recorder.log.hasEvent (sessionCompletionId H sessionId)

theorem sessionView_eq_view (H : Digest) (doc : SessionDocument) (watcher : WatcherState) :
    sessionView H doc watcher =
      (sessionMemory H doc.sessionId watcher).view doc.progressEpoch doc.silenceStartedAt := rfl

/-! ### Documents -/

namespace SessionDocument

variable (doc : SessionDocument)

def bump : SessionDocument := { doc with revision := doc.revision + 1 }

/-- The document of a completed session. -/
def closing (H : Digest) (claimed : Bool) : RuntimeValues :=
  if claimed then doc.valuesWith true .terminal (.value (sessionCompletionId H doc.sessionId))
  else doc.valuesWith true .running .null

def closingTarget (H : Digest) (claimed : Bool) (rollout : String) : RuntimeTarget :=
  doc.targetWith H true (if claimed then .terminal else .running) rollout

/-- The monitor of a completed session. -/
def closingMonitor (claimed : Bool) : MonitorTarget := { doc.monitor with terminal := claimed }

theorem runtimeTargetFromValues_closing (H : Digest)
    (resolve : String → Except Failure String) (claimed : Bool) :
    runtimeTargetFromValues H resolve (doc.path H) (doc.closing H claimed) =
      (resolve doc.transcript.path).map (doc.closingTarget H claimed) := by
  cases claimed <;> exact doc.runtimeTargetFromValues_valuesWith H resolve true _ _

theorem targets_closingTarget (H : Digest) (claimed : Bool) (rollout : String) :
    (doc.closingTarget H claimed rollout).targets = [doc.closingMonitor claimed] := by
  cases claimed <;> rfl

/-- Completing a running session sets the flag and counts the revision. -/
theorem completeValues_values (H : Digest) (path : String) :
    completeValues path doc.values = .ok (doc.bump.closing H false, true) := by
  have henabled : ¬ doc.values.enabled ≠ .value true := fun hne => hne rfl
  have hrevision : optionalIntegerField doc.values.revision path 0 = .ok doc.revision :=
    optionalIntegerField_value _ _ _
  unfold completeValues
  rw [if_neg henabled, hrevision]
  rfl

theorem completeValues_closing (H : Digest) (path : String) (claimed : Bool) :
    completeValues path (doc.closing H claimed) = .ok (doc.bump.closing H claimed, true) := by
  have henabled : ¬ (doc.closing H claimed).enabled ≠ .value true := by
    cases claimed <;> exact fun hne => hne rfl
  have hrevision : optionalIntegerField (doc.closing H claimed).revision path 0 =
      .ok doc.revision := by
    cases claimed <;> exact optionalIntegerField_value _ _ _
  unfold completeValues
  rw [if_neg henabled, hrevision]
  cases claimed <;> rfl

theorem closing_ne_of_revision {other : SessionDocument} (H : Digest) (claimed claimed' : Bool)
    (hne : other.revision ≠ doc.revision) : other.closing H claimed ≠ doc.closing H claimed' := by
  intro heq
  have hrevision : ∀ (some : SessionDocument) (flag : Bool),
      (some.closing H flag).revision = .value some.revision := by
    intro some flag
    cases flag <;> rfl
  have hsame := congrArg RuntimeValues.revision heq
  rw [hrevision, hrevision] at hsame
  have hcast : (other.revision : Int) = doc.revision := Field.value.inj hsame
  exact hne (by exact_mod_cast hcast)

theorem bump_closing_ne_values (H : Digest) : doc.bump.closing H false ≠ doc.values := by
  intro heq
  have hrevision : Field.value ((doc.revision + 1 : Nat) : Int) = .value doc.revision :=
    congrArg RuntimeValues.revision heq
  have hcast : ((doc.revision + 1 : Nat) : Int) = doc.revision := Field.value.inj hrevision
  omega

theorem closing_true_ne_false (H : Digest) : doc.closing H true ≠ doc.closing H false := by
  intro heq
  have hclaim : Field.value (sessionCompletionId H doc.sessionId) = Field.null :=
    congrArg RuntimeValues.completionEventId heq
  cases hclaim

end SessionDocument

/-! ### The processor -/

section Processor

variable (H : Digest) (doc : SessionDocument) (claimed : Bool) (rollout : String)
  (watcher : WatcherState) (clock : TickContext)

/-- The diagnostic of a completion. -/
def completionDiagnostic : TargetDiagnostic where
  occurredAt := clock.wallTime
  code := .watcherCompleted
  state := .completed
  eventId := some (sessionCompletionId H doc.sessionId)

/-- The memory a tick of a completed session leaves. -/
def closedWatcher : WatcherState :=
  terminalizeDetector (doc.closingTarget H claimed rollout) clock.now
    (if claimed then watcher
      else
        { watcher with
          recorder := watcher.recorder.record H (doc.closingTarget H claimed rollout)
            (completionDiagnostic H doc clock) })
    (doc.closingMonitor claimed)

theorem completeTarget_closing :
    completeTarget H (doc.closingTarget H claimed rollout) (doc.closing H claimed) clock watcher =
      (closedWatcher H doc claimed rollout watcher clock, .ok (doc.closing H true)) := by
  unfold completeTarget closedWatcher
  rw [doc.targets_closingTarget]
  cases claimed with
  | true =>
      have hclaim : (markTargetsTerminal (doc.closingTarget H true rollout).runtimeFile
          [doc.closingMonitor true] (doc.closing H true) >>= fun values =>
            claimCompletion values (completionEventId H (doc.closingTarget H true rollout))
              (doc.closingTarget H true rollout).runtimeFile) =
          .ok (false, doc.closing H true) := if_pos rfl
      dsimp only
      rw [hclaim]
      rfl
  | false => rfl

theorem tickTarget_closing (events : List ObservedEvent) :
    tickTarget H clock (doc.closingTarget H claimed rollout) (doc.closing H claimed) events watcher =
      (closedWatcher H doc claimed rollout watcher clock, .ok (doc.closing H true, false)) := by
  have hcomplete : (doc.closingTarget H claimed rollout).parentComplete = true := rfl
  unfold tickTarget finishIfTerminal
  rw [if_pos hcomplete, completeTarget_closing]

theorem detectorView_terminalized (state : SilenceState) :
    detectorView (setWaitState state { childTerminal := true } false) =
      { detectorView state with paused := false, terminal := true } := rfl

/-- What the memory of the session is after such a tick. -/
theorem sessionMemory_closedWatcher :
    sessionMemory H doc.sessionId (closedWatcher H doc claimed rollout watcher clock) =
      { (sessionMemory H doc.sessionId watcher).terminate clock.now with
        completed := (sessionMemory H doc.sessionId watcher).completed || !claimed } := by
  have hdetector : ((closedWatcher H doc claimed rollout watcher clock).detectors
      doc.key).map detectorView =
        some (DetectorView.terminate (sessionMemory H doc.sessionId watcher).detector
          clock.now) := by
    have hbase : ∀ base : WatcherState, base.detectors = watcher.detectors →
        ((terminalizeDetector (doc.closingTarget H claimed rollout) clock.now base
          (doc.closingMonitor claimed)).detectors doc.key).map detectorView =
            some (DetectorView.terminate (sessionMemory H doc.sessionId watcher).detector
              clock.now) := by
      intro base hsame
      have hkey : detectorKey (doc.closingTarget H claimed rollout) (doc.closingMonitor claimed) =
          doc.key := rfl
      unfold terminalizeDetector
      dsimp only
      rw [hkey, Function.update_self, hsame, Option.map_some, detectorView_terminalized]
      have hmemory : (sessionMemory H doc.sessionId watcher).detector =
          (watcher.detectors doc.key).map detectorView := rfl
      rw [hmemory]
      cases watcher.detectors doc.key with
      | some state => rfl
      | none =>
          rw [Option.getD_none, detectorView, latestProgressAt_initialState]
          rfl
    unfold closedWatcher
    apply hbase
    split_ifs <;> rfl
  have hlog : ∀ eventId, (closedWatcher H doc claimed rollout watcher clock).recorder.log.hasEvent
      eventId = (watcher.recorder.log.hasEvent eventId ||
        (!claimed && decide (sessionCompletionId H doc.sessionId = eventId))) := by
    intro eventId
    unfold closedWatcher terminalizeDetector
    cases claimed with
    | true => simp
    | false =>
        dsimp only
        rw [if_neg Bool.false_ne_true, Recorder.record_hasEvent]
        simp [completionDiagnostic]
  have hcalls : (closedWatcher H doc claimed rollout watcher clock).openCalls =
      watcher.openCalls := by
    unfold closedWatcher terminalizeDetector
    split_ifs <;> rfl
  unfold sessionMemory SessionMemory.terminate
  congr 1
  · exact congrFun hcalls _
  · funext mark
    rw [hlog, decide_eq_false (markEventId_ne_completion H doc.sessionId mark).symm, Bool.and_false,
      Bool.or_false]
  · rw [hlog, decide_eq_true rfl, Bool.and_true]

/-- A completion is queued when neither the document nor the record has it. -/
theorem closedWatcher_pending :
    ∃ more, (closedWatcher H doc claimed rollout watcher clock).recorder.pending =
        watcher.recorder.pending ++ more ∧
      more.map notificationNotice =
        (if claimed then [] else (sessionMemory H doc.sessionId watcher).completionNotice) ∧
      ∀ notification ∈ more, notification.event.sessionId = doc.sessionId := by
  unfold closedWatcher terminalizeDetector
  cases claimed with
  | true => exact ⟨[], by simp⟩
  | false =>
      obtain ⟨notification, hpending, _, hkind, hsession⟩ :=
        watcher.recorder.record_pending H (doc.closingTarget H false rollout)
          (completionDiagnostic H doc clock) rfl rfl
      have hnotice : notificationNotice notification = .completed := by
        unfold notificationNotice notificationMark
        rw [hkind]
      refine ⟨_, hpending, ?_, ?_⟩
      · rw [if_neg Bool.false_ne_true]
        unfold SessionMemory.completionNotice sessionMemory
        dsimp only
        split_ifs
        · rfl
        · rw [List.map_singleton, hnotice]
      · intro queued hmem
        split_ifs at hmem
        · exact absurd hmem List.not_mem_nil
        · obtain rfl := List.mem_singleton.mp hmem
          exact hsession

end Processor

/-! ### The commit -/

section Commit

variable {H : Digest} {env : TickEnvironment} {root : StateRoot} {engine : WatcherEngine}
  {doc : SessionDocument} {claimed : Bool}

/-- The document of the completed session is in its file. -/
def StateRoot.HoldsClosing (H : Digest) (root : StateRoot) (doc : SessionDocument)
    (claimed : Bool) : Prop :=
  root.runtime.lookup (doc.path H) = some (.ok (doc.closing H claimed))

/-- The document once a tick has claimed the completion. -/
def claimedDocument (doc : SessionDocument) (claimed : Bool) : SessionDocument :=
  if claimed then doc else doc.bump

theorem claimedDocument_sessionId (doc : SessionDocument) (claimed : Bool) :
    (claimedDocument doc claimed).sessionId = doc.sessionId := by
  cases claimed <;> rfl

theorem processSnapshot_closing {resolve : String → Except Failure String} {rollout : String}
    (hresolve : resolve doc.transcript.path = .ok rollout) (clock : TickContext) :
    processSnapshot H resolve (doc.closingTarget H claimed rollout) [] (engineProcessor H clock)
        engine (doc.closing H claimed) =
      ({ engine with watcher := closedWatcher H doc claimed rollout engine.watcher clock },
        .ok ((claimedDocument doc claimed).closing H true, ⟨true, false⟩)) := by
  have henabled : ¬ (doc.closing H claimed).enabled ≠ .value true := by
    cases claimed <;> exact fun hne => hne rfl
  have hpath : (doc.closingTarget H claimed rollout).runtimeFile = doc.path H := rfl
  have htarget := doc.runtimeTargetFromValues_closing H resolve claimed
  rw [hresolve] at htarget
  have hrevision : ¬ (doc.closingTarget H claimed rollout).revision ≠
      (doc.closingTarget H claimed rollout).revision := fun hne => hne rfl
  have hprocessor : engineProcessor H clock (doc.closingTarget H claimed rollout)
      (doc.closing H claimed) [] engine =
        ({ engine with watcher := closedWatcher H doc claimed rollout engine.watcher clock },
          .ok (doc.closing H true, false)) := by
    unfold engineProcessor
    rw [tickTarget_closing]
  unfold processSnapshot
  rw [if_neg henabled, hpath, htarget]
  simp only [Except.map, hrevision, if_false, hprocessor]
  cases claimed with
  | true =>
      simp only [if_true]
      rfl
  | false =>
      simp only [if_neg (doc.closing_true_ne_false H)]
      rfl

/-- What a tick of a completed session leaves. -/
structure Closed (H : Digest) (env : TickEnvironment) (root : StateRoot) (engine : WatcherEngine)
    (doc : SessionDocument) (claimed : Bool) (after : StateRoot) (engine' : WatcherEngine) :
    Prop where
  holds : after.HoldsClosing H (claimedDocument doc claimed) true
  names : ∀ path ∈ after.runtime, path ∈ root.runtime
  failedSessions : engine'.failedSessions = engine.failedSessions
  memory : sessionMemory H doc.sessionId engine'.watcher =
    { (sessionMemory H doc.sessionId engine.watcher).terminate env.context.now with
      completed := (sessionMemory H doc.sessionId engine.watcher).completed || !claimed }
  queued : ∃ more, engine'.watcher.recorder.pending = engine.watcher.recorder.pending ++ more ∧
    more.map notificationNotice =
      (if claimed then [] else (sessionMemory H doc.sessionId engine.watcher).completionNotice) ∧
    ∀ notification ∈ more, notification.event.sessionId = doc.sessionId

/-- Nothing the tick meets keeps a completion from being committed. -/
structure TickEnvironment.Closes (env : TickEnvironment) (H : Digest) (doc : SessionDocument) :
    Prop where
  resolve : ∃ rollout, env.resolve doc.transcript.path = .ok rollout
  snapshotLock : (env.snapshotFaults (doc.path H)).lock = none
  snapshotRelease : (env.snapshotFaults (doc.path H)).release = none
  commitLock : (env.commitFaults (doc.path H)).lock = none
  write : (env.commitFaults (doc.path H)).write = none
  commitRelease : (env.commitFaults (doc.path H)).release = none

theorem snapshotTarget_closing (hholds : root.HoldsClosing H doc claimed) {rollout : String}
    (hresolve : env.resolve doc.transcript.path = .ok rollout)
    (hlock : (env.snapshotFaults (doc.path H)).lock = none)
    (hrelease : (env.snapshotFaults (doc.path H)).release = none) :
    snapshotTarget H env root (doc.path H) = .ok (some (doc.closingTarget H claimed rollout)) := by
  have henabled : ¬ (doc.closing H claimed).enabled ≠ .value true := by
    cases claimed <;> exact fun hne => hne rfl
  have hlookup : root.runtime.lookup (doc.path H) = some (.ok (doc.closing H claimed)) := hholds
  rw [snapshotTarget_eq, hlookup, hlock]
  dsimp only
  rw [if_neg henabled, doc.runtimeTargetFromValues_closing, hresolve]
  exact MutationFaults.leave_of_released hrelease _

theorem tickFile_closing (hholds : root.HoldsClosing H doc claimed)
    (hlive : doc.sessionId ∉ engine.failedSessions) (hcloses : env.Closes H doc) :
    Closed H env root engine doc claimed (tickFile H env root engine (doc.path H)).root
        (tickFile H env root engine (doc.path H)).memory ∧
      (tickFile H env root engine (doc.path H)).result = .ok false := by
  obtain ⟨⟨rollout, hresolve⟩, hsnapshot, hreleased, hlock, hwrite, hrelease⟩ := hcloses
  have hsession : (doc.closingTarget H claimed rollout).sessionId = doc.sessionId := rfl
  have hcomplete : (doc.closingTarget H claimed rollout).parentComplete = true := rfl
  have hpath : (doc.closingTarget H claimed rollout).runtimeFile = doc.path H := rfl
  have hprocess := @processSnapshot_closing H engine doc claimed env.resolve rollout hresolve
    env.context
  have hfile : tickFile H env root engine (doc.path H) =
      commitTick H env root (doc.closingTarget H claimed rollout) none engine := by
    unfold tickFile
    rw [snapshotTarget_closing hholds hresolve hsnapshot hreleased]
    dsimp only
    rw [hsession, if_neg hlive, if_pos hcomplete]
  have hreturned := @mutateExistingState_of_returned _ _ _ _ _ _ _
    (commitBatch H (env.commitFaults (doc.path H)).cursor (doc.closingTarget H claimed rollout)
      none) _ _ _ _ hlock hwrite hholds hprocess
  rw [MutationFaults.leave_of_released hrelease] at hreturned
  have hcommit : commitTick H env root (doc.closingTarget H claimed rollout) none engine =
      ⟨if (claimedDocument doc claimed).closing H true = doc.closing H claimed then root
          else root.setRuntime (doc.path H) ((claimedDocument doc claimed).closing H true),
        { engine with
          watcher := closedWatcher H doc claimed rollout engine.watcher env.context },
        .ok false⟩ := by
    unfold commitTick commitRuntimeSnapshot
    rw [hpath]
    exact congrArg (fun commit : Mutation WatcherEngine (Option CommitResult) =>
      (⟨commit.root, commit.memory, commit.result.map CommitResult.isActive⟩ :
        Mutation WatcherEngine Bool)) hreturned
  rw [hfile, hcommit]
  refine ⟨⟨?_, ?_, rfl, ?_, ?_⟩, rfl⟩
  · have hpaths : (claimedDocument doc claimed).path H = doc.path H := by cases claimed <;> rfl
    change AList.lookup _ _ = _
    rw [hpaths]
    dsimp only
    split_ifs with hsame
    · rw [hsame]
      exact hholds
    · exact root.setRuntime_lookup _ _
  · intro path hmem
    dsimp only at hmem
    split_ifs at hmem
    · exact hmem
    · rcases (AList.mem_insert _).mp hmem with rfl | hold
      · apply AList.lookup_isSome.mp
        have hlookup : root.runtime.lookup (doc.path H) = some (.ok (doc.closing H claimed)) :=
          hholds
        rw [hlookup]
        rfl
      · exact hold
  · exact sessionMemory_closedWatcher H doc claimed rollout engine.watcher env.context
  · exact closedWatcher_pending H doc claimed rollout engine.watcher env.context

/-- Delivering the queue changes nothing the session remembers. -/
theorem sessionMemory_flush (sessionId : String) (watcher : WatcherState)
    (sink : LifecycleNotification → Delivery) :
    sessionMemory H sessionId { watcher with recorder := (watcher.recorder.flush H sink).1 } =
      sessionMemory H sessionId watcher := by
  unfold sessionMemory
  congr 1
  · funext mark
    exact flushAll_hasEvent H sink
      (fun source => notificationFailureEventId_ne_mark H source sessionId mark) _ _
  · exact flushAll_hasEvent H sink
      (fun source => notificationFailureEventId_ne_completion H source sessionId) _ _

/-- What a session remembers is not touched by what happens apart from it. -/
theorem Apart.memory {root' : StateRoot} {engine' : WatcherEngine}
    (hapart : Apart H doc root engine root' engine') :
    sessionMemory H doc.sessionId engine'.watcher =
      sessionMemory H doc.sessionId engine.watcher := by
  have hview := hapart.view doc rfl
  rw [sessionView_eq_view, sessionView_eq_view] at hview
  apply SessionMemory.ext
  · exact congrArg TargetView.detector hview
  · exact congrArg TargetView.openCalls hview
  · exact congrArg TargetView.recorded hview
  · exact hapart.completion

theorem Apart.holdsClosing {root' : StateRoot} {engine' : WatcherEngine}
    (hapart : Apart H doc root engine root' engine') {other : SessionDocument}
    (hsession : other.sessionId = doc.sessionId) :
    root'.HoldsClosing H other claimed ↔ root.HoldsClosing H other claimed := by
  have hpath : other.path H = sessionFilename H doc.sessionId := by
    unfold SessionDocument.path
    rw [hsession]
  unfold StateRoot.HoldsClosing
  rw [hpath, hapart.runtime]

/-- What a tick of the engine leaves of a completed session. -/
structure ClosedTick (H : Digest) (env : TickEnvironment) (engine : WatcherEngine)
    (doc : SessionDocument) (claimed : Bool) (outcome : TickOutcome) : Prop where
  holds : outcome.root.HoldsClosing H (claimedDocument doc claimed) true
  unfailed : doc.sessionId ∉ outcome.engine.failedSessions
  memory : sessionMemory H doc.sessionId outcome.engine.watcher =
    { (sessionMemory H doc.sessionId engine.watcher).terminate env.context.now with
      completed := (sessionMemory H doc.sessionId engine.watcher).completed || !claimed }
  queued : (ofSession doc.sessionId outcome.queued).map notificationNotice =
    if claimed then [] else (sessionMemory H doc.sessionId engine.watcher).completionNotice

/-- Between files of others, the completed session was processed. -/
theorem closedTick_of_closed (hpending : engine.watcher.recorder.pending = [])
    {root₁ root₂ : StateRoot} {engine₁ engine₂ : WatcherEngine}
    (hbefore : Apart H doc root engine root₁ engine₁)
    (hlive : doc.sessionId ∉ engine₁.failedSessions)
    (hclosed : Closed H env root₁ engine₁ doc claimed root₂ engine₂)
    (hafter : Apart H doc root₂ engine₂ (tickLoop H env root engine).root
      (tickLoop H env root engine).memory) :
    ClosedTick H env engine doc claimed (engine.tick H env root) := by
  obtain ⟨hroot, hqueued, hengine⟩ := tick_loop H env root engine
  obtain ⟨first, hfirst, hfirstOther⟩ := hbefore.pending
  obtain ⟨last, hlast, hlastOther⟩ := hafter.pending
  obtain ⟨hholds, _, hfailed, hmemory, own, hown, hnotices, hownSession⟩ := hclosed
  rw [hbefore.memory] at hmemory hnotices
  refine ⟨?_, ?_, ?_, ?_⟩
  · rw [hroot]
    exact (hafter.holdsClosing (claimedDocument_sessionId doc claimed)).mpr hholds
  · rw [hengine]
    intro hmem
    apply hlive
    rw [← hfailed]
    exact hafter.failed.mp hmem
  · rw [hengine]
    exact (sessionMemory_flush doc.sessionId _ env.sink).trans (hafter.memory.trans hmemory)
  · rw [hqueued, hlast, hown, hfirst, hpending, List.nil_append, ofSession_append,
      ofSession_append, ofSession_of_other hfirstOther, ofSession_of_other hlastOther,
      ofSession_of_own hownSession, List.nil_append, List.append_nil, hnotices]

/-- A tick of a completed session that is alone. -/
theorem tick_closes (hholds : root.HoldsClosing H doc claimed)
    (halone : Alone H root doc.sessionId) (hpending : engine.watcher.recorder.pending = [])
    (hlive : doc.sessionId ∉ engine.failedSessions) (hcloses : env.Closes H doc) :
    ClosedTick H env engine doc claimed (engine.tick H env root) ∧
      Alone H (engine.tick H env root).root doc.sessionId ∧
      (engine.tick H env root).engine.watcher.recorder.pending = [] ∧
      (∀ delivery, env.sink = (fun _ => delivery) →
        (engine.tick H env root).result =
          if delivery = .raised ∧ ofSession doc.sessionId (engine.tick H env root).queued ≠ []
          then .error .sinkError else .ok false) := by
  have hmem : doc.path H ∈ root.runtime := by
    apply AList.lookup_isSome.mp
    have hlookup : root.runtime.lookup (doc.path H) = some (.ok (doc.closing H claimed)) := hholds
    rw [hlookup]
    rfl
  obtain ⟨hclosed, hresult⟩ := tickFile_closing hholds hlive hcloses
  have hloop : tickLoop H env root engine = tickFile H env root engine (doc.path H) := by
    unfold tickLoop
    rw [discoverRuntimeFiles_of_only hmem halone]
    unfold tickFiles
    cases hfile : tickFile H env root engine (doc.path H) with
    | mk root' engine' result =>
        rw [hfile] at hresult
        change result = .ok false at hresult
        subst hresult
        rfl
  have htick : ClosedTick H env engine doc claimed (engine.tick H env root) := by
    refine closedTick_of_closed hpending Apart.refl hlive hclosed ?_
    rw [hloop]
    exact Apart.refl
  obtain ⟨hroot, hqueued, hengine⟩ := tick_loop H env root engine
  rw [hloop] at hroot hqueued hengine
  obtain ⟨more, hmore, _, hown⟩ := hclosed.queued
  rw [hpending, List.nil_append] at hmore
  have hofSession : ofSession doc.sessionId (engine.tick H env root).queued = more := by
    rw [hqueued, hmore]
    exact ofSession_of_own hown
  refine ⟨htick, ?_, ?_, ?_⟩
  · rw [hroot]
    exact fun path hpath => halone path (hclosed.names path hpath)
  · rw [hengine]
    rfl
  · intro delivery hsink
    have hflush := flushAll_const H delivery
      (tickFile H env root engine (doc.path H)).memory.watcher.recorder.log more
    rw [tick_result, hloop, hmore, hsink, hflush, hofSession, hresult]
    split_ifs <;> rfl

end Commit

end CodexMustWork
