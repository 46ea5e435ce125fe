import CodexMustWork.SessionFrame
import CodexMustWork.SessionRefinement

/-!
# Engine ticks, seen from one session

`WatcherEngine.tick` on a state root that holds the document of a session among
any other files.  Whatever the environment does, short of losing the write of
the document, such a tick either leaves the view of the session as it is and
queues nothing for it, or is one tick of the view on the batch that was read.

The log is shared, and its identities join fields with a separator; `Separate`
is what keeps the identities of other sessions away from this one's.
-/

namespace CodexMustWork

/-- The document of the session is in its file. -/
def StateRoot.Holds (H : Digest) (root : StateRoot) (doc : SessionDocument) : Prop :=
  root.runtime.lookup (doc.path H) = some (.ok doc.values)

/-- The state root has no runtime file of another session. -/
def Alone (H : Digest) (root : StateRoot) (sessionId : String) : Prop :=
  ∀ path ∈ root.runtime, path = sessionFilename H sessionId

/-- Other sessions cannot record identities of this one: there are none, or the
    session identifier contains no separator. -/
def Separate (H : Digest) (root : StateRoot) (sessionId : String) : Prop :=
  Alone H root sessionId ∨ JoinedFields.Free nul sessionId

theorem discoverRuntimeFiles_of_only {root : StateRoot} {path : String}
    (hmem : path ∈ root.runtime) (honly : ∀ other ∈ root.runtime, other = path) :
    discoverRuntimeFiles root = [path] := by
  have hnodup := nodup_discoverRuntimeFiles root
  have hall : ∀ other ∈ discoverRuntimeFiles root, other = path := by
    intro other hother
    exact honly other (mem_discoverRuntimeFiles.mp hother)
  have hpath : path ∈ discoverRuntimeFiles root := mem_discoverRuntimeFiles.mpr hmem
  cases hfiles : discoverRuntimeFiles root with
  | nil =>
      rw [hfiles] at hpath
      exact absurd hpath List.not_mem_nil
  | cons first rest =>
      rw [hfiles] at hnodup hall
      have hfirst := hall first (List.mem_cons_self ..)
      cases rest with
      | nil => rw [hfirst]
      | cons second more =>
          have hsecond := hall second (by simp)
          rw [hfirst, hsecond] at hnodup
          simp at hnodup

theorem sampleRoot_alone : Alone .transparent sampleRoot "s" := by
  intro path hmem
  rcases (AList.mem_insert _).mp hmem with rfl | hmem
  · rfl
  · exact absurd hmem (AList.notMem_empty _)

namespace StateRoot.Holds

variable {H : Digest} {root : StateRoot} {doc : SessionDocument}

theorem mem (hholds : root.Holds H doc) : doc.path H ∈ root.runtime := by
  apply AList.lookup_isSome.mp
  rw [hholds]
  rfl

/-- Replacing the document. -/
theorem setRuntime {next : SessionDocument} (hrequest : next.request = doc.request) :
    (root.setRuntime (doc.path H) next.values).Holds H next := by
  have hpath : next.path H = doc.path H := by
    unfold SessionDocument.path SessionDocument.sessionId
    rw [hrequest]
  unfold Holds
  rw [hpath]
  exact root.setRuntime_lookup _ _

end StateRoot.Holds

/-! ### Flushing -/

theorem notificationFailureEventId_ne_mark (H : Digest) (eventId sessionId : String)
    (mark : Mark) : notificationFailureEventId H eventId ≠ markEventId H sessionId mark := by
  intro heq
  have hidentity := (H.hash_injective heq).symm
  refine lifecycleIdentity_ne_of_code (free_code .discordNotificationFailed) ?_ _ hidentity
  intro hcode
  have hsame := DiagnosticCode.value_injective hcode
  cases hkind : mark.kind <;> simp [hkind, Transition.code] at hsame

theorem notificationFailureEventId_ne_completion (H : Digest) (eventId sessionId : String) :
    notificationFailureEventId H eventId ≠ sessionCompletionId H sessionId := by
  intro heq
  have hidentity := H.hash_injective heq
  have hcode := ((JoinedFields.join_left_inj (free_code .discordNotificationFailed)
    (free_code .watcherCompleted)).mp hidentity).1
  exact absurd (DiagnosticCode.value_injective hcode) (by decide)

/-- Delivering the queue leaves every identity but those of delivery failures. -/
theorem flushAll_hasEvent (H : Digest) (sink : LifecycleNotification → Delivery)
    {eventId : String} (hother : ∀ source, notificationFailureEventId H source ≠ eventId)
    (log : DiagnosticLog) (pending : List PendingNotification) :
    (flushAll H sink log pending).1.hasEvent eventId = log.hasEvent eventId := by
  induction pending generalizing log with
  | nil => rfl
  | cons item rest ih =>
      unfold flushAll
      cases sink item.event with
      | delivered => exact ih log
      | raised => rfl
      | deliveryError =>
          dsimp only
          rw [ih, appendTargetDiagnostic, appendTargetDiagnosticOnce,
            appendDiagnosticOnce_hasEvent]
          have hne : ¬ some (notificationFailureEventId H item.event.eventId) = some eventId :=
            fun heq => hother _ (Option.some_inj.mp heq)
          change (log.hasEvent eventId || decide (some _ = some eventId)) = _
          rw [decide_eq_false hne, Bool.or_false]

/-- A sink that always answers the same raises on the first notification or never. -/
theorem flushAll_const (H : Digest) (delivery : Delivery) (log : DiagnosticLog)
    (pending : List PendingNotification) :
    (flushAll H (fun _ => delivery) log pending).2 =
      if delivery = .raised ∧ pending ≠ [] then .error .sinkError else .ok () := by
  induction pending generalizing log with
  | nil => simp [flushAll]
  | cons item rest ih =>
      unfold flushAll
      cases delivery with
      | delivered => simpa using ih log
      | raised => simp
      | deliveryError => simpa using ih _

section Tick

variable (H : Digest) (env : TickEnvironment) (root : StateRoot) (engine : WatcherEngine)
  (doc : SessionDocument)

/-- What a tick of the view reads when the environment delivers a batch. -/
def TickEnvironment.input (env : TickEnvironment) (batch : TargetBatch) : TickInput :=
  ⟨batch.events, env.context.now, env.context.wallTime⟩

/-- The document a committed tick leaves. -/
def committedDocument (input : TickInput) : SessionDocument :=
  doc.afterTick ((sessionView H doc engine.watcher).progresses input) input.wallTime

theorem committedDocument_request (input : TickInput) :
    (committedDocument H engine doc input).request = doc.request := by
  unfold committedDocument SessionDocument.afterTick
  split_ifs <;> rfl

theorem committedDocument_sessionId (input : TickInput) :
    (committedDocument H engine doc input).sessionId = doc.sessionId :=
  congrArg StartRequest.sessionId (committedDocument_request H engine doc input)

theorem committedDocument_thresholds (input : TickInput) :
    (committedDocument H engine doc input).thresholds = doc.thresholds := by
  unfold committedDocument SessionDocument.afterTick
  split_ifs <;> rfl

theorem processSnapshot_session {resolve : String → Except Failure String} {rollout : String}
    (hresolve : resolve doc.transcript.path = .ok rollout) (input : TickInput) :
    processSnapshot H resolve (doc.target H rollout) input.events
        (engineProcessor H input.context) engine doc.values =
      ({ engine with watcher := tickedWatcher H doc rollout engine.watcher input },
        .ok ((committedDocument H engine doc input).values, ⟨true, true⟩)) := by
  have henabled : ¬ doc.values.enabled ≠ .value true := fun hne => hne rfl
  have hpath : (doc.target H rollout).runtimeFile = doc.path H := rfl
  have htarget := doc.runtimeTargetFromValues_values H resolve
  rw [hresolve] at htarget
  have hrevision : ¬ (doc.target H rollout).revision ≠ (doc.target H rollout).revision :=
    fun hne => hne rfl
  have hprocessor : engineProcessor H input.context (doc.target H rollout) doc.values
      input.events engine =
        ({ engine with watcher := tickedWatcher H doc rollout engine.watcher input },
          .ok ((processedDocument H doc engine.watcher input).values, true)) := by
    unfold engineProcessor
    rw [tickTarget_session]
  unfold processSnapshot
  rw [if_neg henabled, hpath, htarget]
  simp only [Except.map, hrevision, if_false, hprocessor]
  congr 4
  unfold committedDocument SessionDocument.afterTick processedDocument
  by_cases hprogress : (sessionView H doc engine.watcher).progresses input = true
  · have hchanged : ((doc.advance input.wallTime).observeActivity).values ≠ doc.values := by
      apply doc.values_ne_of_progressEpoch
      exact Nat.succ_ne_self doc.progressEpoch
    simp only [hprogress, if_true, if_neg hchanged]
    rfl
  · simp only [hprogress, Bool.false_eq_true, if_false, if_true]

/-- What a tick that reached the processor leaves. -/
structure Committed (batch : TargetBatch) (after : StateRoot) (engine' : WatcherEngine) :
    Prop where
  holds : after.Holds H (committedDocument H engine doc (env.input batch))
  names : ∀ path ∈ after.runtime, path ∈ root.runtime
  failedSessions : engine'.failedSessions = engine.failedSessions
  view : sessionView H (committedDocument H engine doc (env.input batch)) engine'.watcher =
    (sessionView H doc engine.watcher).next doc.thresholds (env.input batch)
  records : Recorder.Records H doc.sessionId engine.watcher.recorder engine'.watcher.recorder
    ((sessionView H doc engine.watcher).marks doc.thresholds (env.input batch))

variable {H env root engine doc}

theorem sessionView_committedDocument (watcher : WatcherState) (input : TickInput) :
    sessionView H (committedDocument H engine doc input) watcher =
      sessionView H (processedDocument H doc engine.watcher input) watcher := by
  unfold committedDocument SessionDocument.afterTick processedDocument
  split_ifs <;> rfl

theorem commitTick_of_lock (hholds : root.Holds H doc) {rollout : String} {failure : Failure}
    (hlock : (env.commitFaults (doc.path H)).lock = some failure) (batch : Option TargetBatch) :
    commitTick H env root (doc.target H rollout) batch engine =
      ⟨root, engine, .error failure⟩ := by
  have hpath : (doc.target H rollout).runtimeFile = doc.path H := rfl
  unfold commitTick commitRuntimeSnapshot
  rw [hpath, mutateExistingState_of_lock hholds hlock]
  rfl

/-- A commit that gets the lock and does not lose its write commits. -/
theorem commitTick_session (hholds : root.Holds H doc) {rollout : String}
    (hresolve : env.resolve doc.transcript.path = .ok rollout)
    (hlock : (env.commitFaults (doc.path H)).lock = none)
    (hwrite : (env.commitFaults (doc.path H)).write = none) (batch : TargetBatch) :
    Committed H env root engine doc batch
      (commitTick H env root (doc.target H rollout) (some batch) engine).root
      (commitTick H env root (doc.target H rollout) (some batch) engine).memory := by
  have hpath : (doc.target H rollout).runtimeFile = doc.path H := rfl
  have hrequest := committedDocument_request H engine doc (env.input batch)
  have hprocess := processSnapshot_session H engine doc hresolve (env.input batch)
  obtain ⟨hmemory, hroot⟩ := @mutateExistingState_returned _ _ _ _ _ _ _
    (commitBatch H (env.commitFaults (doc.path H)).cursor (doc.target H rollout) (some batch))
    _ _ _ _ hlock hwrite hholds hprocess
  have hruntime : (commitTick H env root (doc.target H rollout) (some batch)
      engine).root.runtime =
        (if (committedDocument H engine doc (env.input batch)).values = doc.values then root
          else root.setRuntime (doc.path H)
            (committedDocument H engine doc (env.input batch)).values).runtime := by
    change (mutateExistingState _ _ _ _ _ _).root.runtime = _
    rw [hpath]
    exact (congrArg StateRoot.runtime hroot).trans (commitBatch_runtime H _ _ _ _ _)
  have hengine : (commitTick H env root (doc.target H rollout) (some batch) engine).memory =
      { engine with
        watcher := tickedWatcher H doc rollout engine.watcher (env.input batch) } := hmemory
  refine ⟨?_, ?_, ?_, ?_, ?_⟩
  · change AList.lookup _ _ = _
    rw [hruntime]
    split_ifs with hsame
    · have hdoc : (committedDocument H engine doc (env.input batch)).path H = doc.path H := by
        unfold SessionDocument.path SessionDocument.sessionId
        rw [hrequest]
      rw [hdoc, hsame]
      exact hholds
    · exact StateRoot.Holds.setRuntime hrequest
  · rw [hruntime]
    intro path hmem
    split_ifs at hmem
    · exact hmem
    · rcases (AList.mem_insert _).mp hmem with rfl | hold
      · exact hholds.mem
      · exact hold
  · rw [hengine]
  · rw [hengine, sessionView_committedDocument]
    exact sessionView_tickedWatcher H doc rollout engine.watcher (env.input batch)
  · rw [hengine]
    exact tickedWatcher_records H doc rollout engine.watcher (env.input batch)

/-- What a tick that did not reach the processor leaves. -/
structure Idle (H : Digest) (engine : WatcherEngine) (doc : SessionDocument) (root after : StateRoot)
    (engine' : WatcherEngine) : Prop where
  root : after = root
  detectors : engine'.watcher.detectors = engine.watcher.detectors
  openCalls : engine'.watcher.openCalls = engine.watcher.openCalls
  records : Recorder.Records H doc.sessionId engine.watcher.recorder engine'.watcher.recorder []

theorem Idle.refl : Idle H engine doc root root engine :=
  ⟨rfl, rfl, rfl, Recorder.Records.refl _⟩

theorem Idle.view {after : StateRoot} {engine' : WatcherEngine}
    (hidle : Idle H engine doc root after engine') :
    sessionView H doc engine'.watcher = sessionView H doc engine.watcher := by
  apply TargetView.ext
  · rfl
  · rfl
  · change (engine'.watcher.detectors doc.key).map detectorView = _
    rw [hidle.detectors]
    rfl
  · change engine'.watcher.openCalls doc.key = _
    rw [hidle.openCalls]
    rfl
  · funext mark
    change engine'.watcher.recorder.log.hasEvent (markEventId H doc.sessionId mark) = _
    rw [hidle.records.recorded]
    simp only [List.not_mem_nil, decide_false, Bool.or_false]
    rfl

theorem snapshotTarget_session (hholds : root.Holds H doc) :
    snapshotTarget H env root (doc.path H) =
      match (env.snapshotFaults (doc.path H)).lock with
      | some failure => .error failure
      | none =>
          (env.snapshotFaults (doc.path H)).leave
            ((env.resolve doc.transcript.path).map fun rollout => some (doc.target H rollout)) := by
  have henabled : ¬ doc.values.enabled ≠ .value true := fun hne => hne rfl
  have htarget := doc.runtimeTargetFromValues_values H env.resolve
  unfold snapshotTarget
  cases hlock : (env.snapshotFaults (doc.path H)).lock with
  | some failure =>
      rw [mutateExistingState_of_lock hholds hlock]
      rfl
  | none =>
      cases hresolve : env.resolve doc.transcript.path with
      | error failure =>
          rw [hresolve] at htarget
          rw [mutateExistingState_of_raised hlock hholds (by
            rw [if_neg henabled, htarget]
            rfl)]
          exact (MutationFaults.leave_error _ _).symm
      | ok rollout =>
          rw [hresolve] at htarget
          rw [mutateExistingState_noCommit_of_unchanged hlock hholds (by
            rw [if_neg henabled, htarget]
            rfl), MutationFaults.map_leave]
          rfl

/-- Quarantining a session appends one line and remembers the session. -/
theorem failTick_of_unlocked (hholds : root.Holds H doc) {rollout : String}
    (hresolve : env.resolve doc.transcript.path = .ok rollout)
    (hlock : (env.commitFaults (doc.path H)).lock = none) (code : DiagnosticCode) :
    failTick H env root (doc.target H rollout) code engine =
      ⟨root,
        { watcher := {
            engine.watcher with
            recorder := {
              engine.watcher.recorder with
              log := appendTargetDiagnostic H engine.watcher.recorder.log (doc.target H rollout) {
                occurredAt := env.context.wallTime, code, state := .failedClosed } } }
          failedSessions := insert doc.sessionId engine.failedSessions },
        (env.commitFaults (doc.path H)).leave (.ok false)⟩ := by
  have hpath : (doc.target H rollout).runtimeFile = doc.path H := rfl
  have henabled : ¬ doc.values.enabled ≠ .value true := fun hne => hne rfl
  have hrevision : ¬ (doc.target H rollout).revision ≠ (doc.target H rollout).revision :=
    fun hne => hne rfl
  have htarget := doc.runtimeTargetFromValues_values H env.resolve
  rw [hresolve] at htarget
  unfold failTick recordRolloutFailure
  rw [hpath, mutateExistingState_noCommit_of_unchanged hlock hholds (by
    rw [if_neg henabled, htarget]
    simp only [Except.map, if_neg hrevision]
    rfl)]
  dsimp only
  rw [MutationFaults.map_leave]
  rfl

/-- Quarantining a session leaves its view alone. -/
theorem failTick_session (hholds : root.Holds H doc) {rollout : String}
    (hresolve : env.resolve doc.transcript.path = .ok rollout) (code : DiagnosticCode) :
    Idle H engine doc root (failTick H env root (doc.target H rollout) code engine).root
        (failTick H env root (doc.target H rollout) code engine).memory ∧
      (failTick H env root (doc.target H rollout) code engine).memory.failedSessions =
        (if (env.commitFaults (doc.path H)).lock = none then
          insert doc.sessionId engine.failedSessions else engine.failedSessions) := by
  have hpath : (doc.target H rollout).runtimeFile = doc.path H := rfl
  cases hlock : (env.commitFaults (doc.path H)).lock with
  | some failure =>
      unfold failTick recordRolloutFailure
      rw [hpath, mutateExistingState_of_lock hholds hlock]
      exact ⟨Idle.refl, rfl⟩
  | none =>
      rw [failTick_of_unlocked hholds hresolve hlock]
      exact ⟨⟨rfl, rfl, rfl, Recorder.records_anonymous _ _ rfl⟩, rfl⟩

/-- The loop body on the document of a session. -/
theorem tickFile_session (hholds : root.Holds H doc)
    (hwrite : (env.commitFaults (doc.path H)).write = none) :
    Idle H engine doc root (tickFile H env root engine (doc.path H)).root
        (tickFile H env root engine (doc.path H)).memory ∨
      ∃ batch, doc.sessionId ∉ engine.failedSessions ∧
        (∃ rollout, env.read root (doc.target H rollout) = .ok batch) ∧
        Committed H env root engine doc batch (tickFile H env root engine (doc.path H)).root
          (tickFile H env root engine (doc.path H)).memory := by
  have hsnapshot := @snapshotTarget_session H env root doc hholds
  unfold tickFile
  cases hlock : (env.snapshotFaults (doc.path H)).lock with
  | some failure =>
      rw [hsnapshot, hlock]
      exact Or.inl Idle.refl
  | none =>
      rw [hlock] at hsnapshot
      cases hrelease : (env.snapshotFaults (doc.path H)).release with
      | some failure =>
          rw [hsnapshot, MutationFaults.leave, hrelease]
          exact Or.inl Idle.refl
      | none =>
          rw [hsnapshot, MutationFaults.leave_of_released hrelease]
          cases hresolve : env.resolve doc.transcript.path with
          | error failure => exact Or.inl Idle.refl
          | ok rollout =>
              have hsession : (doc.target H rollout).sessionId = doc.sessionId := rfl
              have hcomplete : (doc.target H rollout).parentComplete = false := rfl
              have hrunning : (!(doc.target H rollout).hasRunning) = false := rfl
              simp only [Except.map, hsession, hcomplete, hrunning, Bool.false_eq_true, if_false]
              by_cases hfailed : doc.sessionId ∈ engine.failedSessions
              · rw [if_pos hfailed]
                exact Or.inl Idle.refl
              · rw [if_neg hfailed]
                cases hread : env.read root (doc.target H rollout) with
                | ok batch =>
                    cases hcommit : (env.commitFaults (doc.path H)).lock with
                    | some failure =>
                        left
                        change Idle H engine doc root (commitTick ..).root (commitTick ..).memory
                        rw [commitTick_of_lock hholds hcommit]
                        exact Idle.refl
                    | none =>
                        exact Or.inr ⟨batch, hfailed, ⟨rollout, hread⟩,
                          commitTick_session hholds hresolve hcommit hwrite batch⟩
                | error failure =>
                    left
                    cases failure with
                    | rolloutCorrupt reason => exact (failTick_session hholds hresolve _).1
                    | rolloutRotated => exact (failTick_session hholds hresolve _).1
                    | raised failure => exact Idle.refl

/-- Nothing the tick meets keeps the session's batch from being committed. -/
structure TickEnvironment.Delivers (env : TickEnvironment) (H : Digest) (root : StateRoot)
    (doc : SessionDocument) (batch : TargetBatch) : Prop where
  read : ∃ rollout, env.resolve doc.transcript.path = .ok rollout ∧
    env.read root (doc.target H rollout) = .ok batch
  snapshotLock : (env.snapshotFaults (doc.path H)).lock = none
  snapshotRelease : (env.snapshotFaults (doc.path H)).release = none
  commitLock : (env.commitFaults (doc.path H)).lock = none
  write : (env.commitFaults (doc.path H)).write = none

theorem delivering_delivers (context : TickContext) (events : List ObservedEvent) :
    (TickEnvironment.delivering context events).Delivers H root doc ⟨none, ⟨0, 0, 0⟩, events⟩ :=
  ⟨⟨doc.transcript.path, rfl, rfl⟩, rfl, rfl, rfl, rfl⟩

theorem tickFile_delivers {batch : TargetBatch} (hholds : root.Holds H doc)
    (hlive : doc.sessionId ∉ engine.failedSessions) (hdelivers : env.Delivers H root doc batch) :
    Committed H env root engine doc batch (tickFile H env root engine (doc.path H)).root
      (tickFile H env root engine (doc.path H)).memory := by
  obtain ⟨⟨rollout, hresolve, hread⟩, hsnapshot, hrelease, hlock, hwrite⟩ := hdelivers
  have hsession : (doc.target H rollout).sessionId = doc.sessionId := rfl
  have hcomplete : (doc.target H rollout).parentComplete = false := rfl
  have hrunning : (!(doc.target H rollout).hasRunning) = false := rfl
  unfold tickFile
  rw [snapshotTarget_session hholds, hsnapshot, hresolve, MutationFaults.leave_of_released hrelease]
  simp only [Except.map, hsession, if_neg hlive, hcomplete, hrunning, Bool.false_eq_true, if_false,
    hread]
  exact commitTick_session hholds hresolve hlock hwrite batch

/-- Two states that agree on everything the session can see. -/
structure Apart (H : Digest) (doc : SessionDocument) (root : StateRoot) (engine : WatcherEngine)
    (root' : StateRoot) (engine' : WatcherEngine) : Prop where
  runtime : root'.runtime.lookup (sessionFilename H doc.sessionId) =
    root.runtime.lookup (sessionFilename H doc.sessionId)
  names : ∀ path ∈ root'.runtime, path ∈ root.runtime ∨ JoinedFields.Free nul doc.sessionId
  failed : doc.sessionId ∈ engine'.failedSessions ↔ doc.sessionId ∈ engine.failedSessions
  view : ∀ other : SessionDocument, other.sessionId = doc.sessionId →
    sessionView H other engine'.watcher = sessionView H other engine.watcher
  completion : engine'.watcher.recorder.log.hasEvent (sessionCompletionId H doc.sessionId) =
    engine.watcher.recorder.log.hasEvent (sessionCompletionId H doc.sessionId)
  pending : ∃ more, engine'.watcher.recorder.pending = engine.watcher.recorder.pending ++ more ∧
    ∀ notification ∈ more, notification.event.sessionId ≠ doc.sessionId

theorem Apart.refl : Apart H doc root engine root engine := by
  refine ⟨rfl, fun _ hmem => Or.inl hmem, Iff.rfl, fun _ _ => rfl, rfl, [], ?_, ?_⟩
  · simp
  · intro notification hmem
    exact absurd hmem List.not_mem_nil

theorem Apart.trans {root₂ root₃ : StateRoot} {engine₂ engine₃ : WatcherEngine}
    (h₁ : Apart H doc root engine root₂ engine₂) (h₂ : Apart H doc root₂ engine₂ root₃ engine₃) :
    Apart H doc root engine root₃ engine₃ := by
  obtain ⟨queue₁, hqueue₁, hother₁⟩ := h₁.pending
  obtain ⟨queue₂, hqueue₂, hother₂⟩ := h₂.pending
  refine ⟨h₂.runtime.trans h₁.runtime, ?_, h₂.failed.trans h₁.failed, ?_,
    h₂.completion.trans h₁.completion, queue₁ ++ queue₂, ?_, ?_⟩
  · intro path hmem
    rcases h₂.names path hmem with hmem | hfree
    · exact h₁.names path hmem
    · exact Or.inr hfree
  · intro other hsession
    exact (h₂.view other hsession).trans (h₁.view other hsession)
  · rw [hqueue₂, hqueue₁, List.append_assoc]
  · intro notification hmem
    rcases List.mem_append.mp hmem with hmem | hmem
    · exact hother₁ notification hmem
    · exact hother₂ notification hmem

theorem Apart.holds {root' : StateRoot} {engine' : WatcherEngine}
    (hapart : Apart H doc root engine root' engine') (other : SessionDocument)
    (hsession : other.sessionId = doc.sessionId) : root'.Holds H other ↔ root.Holds H other := by
  have hpath : other.path H = sessionFilename H doc.sessionId := by
    unfold SessionDocument.path
    rw [hsession]
  unfold StateRoot.Holds
  rw [hpath, hapart.runtime]

theorem Apart.separate {root' : StateRoot} {engine' : WatcherEngine}
    (hapart : Apart H doc root engine root' engine')
    (hseparate : Separate H root doc.sessionId) : Separate H root' doc.sessionId := by
  rcases hseparate with honly | hfree
  · by_cases hfree : JoinedFields.Free nul doc.sessionId
    · exact Or.inr hfree
    · left
      intro path hmem
      rcases hapart.names path hmem with hold | hcontra
      · exact honly path hold
      · exact absurd hcontra hfree
  · exact Or.inr hfree

/-- Identities are this session's only when they join to its fields. -/
theorem targetIdentity_ne_of_fields {sessionId eventId : String} {target : RuntimeTarget}
    (hcompletion : JoinedFields.join nul sessionId "" ≠
      JoinedFields.join nul target.sessionId (target.parentTurnId.getD ""))
    (hlifecycle : ∀ monitor ∈ target.targets,
      JoinedFields.join nul sessionId (JoinedFields.join nul "" "") ≠
        JoinedFields.join nul target.sessionId
          (JoinedFields.join nul (target.parentTurnId.getD "") (monitor.targetId.getD "")))
    (hidentity : TargetIdentity H target eventId) :
    (∀ mark, eventId ≠ markEventId H sessionId mark) ∧
      eventId ≠ sessionCompletionId H sessionId := by
  rcases hidentity with rfl | ⟨code, hcode, monitor, hmonitor, rfl⟩
  · refine ⟨fun mark heq => ?_, fun heq => ?_⟩
    · refine lifecycleIdentity_ne_of_code (free_code .watcherCompleted) ?_ _
        (H.hash_injective heq).symm
      intro hsame
      have hkind := DiagnosticCode.value_injective hsame
      cases hmark : mark.kind <;> simp [hmark, Transition.code] at hkind
    · have hjoin := ((JoinedFields.join_left_inj (free_code .watcherCompleted)
        (free_code .watcherCompleted)).mp (H.hash_injective heq)).2
      exact hcompletion hjoin.symm
  · refine ⟨fun mark heq => ?_, fun heq => ?_⟩
    · obtain ⟨_, _, _, hjoin⟩ := lifecycleIdentity_inj.mp (H.hash_injective heq)
      exact hlifecycle monitor hmonitor hjoin.symm
    · refine lifecycleIdentity_ne_of_code (free_code .watcherCompleted) ?_ _
        (H.hash_injective heq)
      intro hsame
      have hcompleted := DiagnosticCode.value_injective hsame
      rw [hcompleted] at hcode
      exact absurd hcode (by decide)

/-- The identities of another session are none of this one's. -/
theorem targetIdentity_ne {sessionId eventId : String} {target : RuntimeTarget}
    (hfree : JoinedFields.Free nul sessionId) (hother : target.sessionId ≠ sessionId)
    (hidentity : TargetIdentity H target eventId) :
    (∀ mark, eventId ≠ markEventId H sessionId mark) ∧
      eventId ≠ sessionCompletionId H sessionId := by
  have hempty : JoinedFields.Free nul "" := by decide
  refine targetIdentity_ne_of_fields ?_ ?_ hidentity
  · intro heq
    exact hother ((JoinedFields.join_inj_of_free hfree hempty).mp heq).1.symm
  · intro monitor _ heq
    exact hother ((JoinedFields.join_join_inj_of_free hfree hempty hempty).mp heq).1.symm

/-- Writes that keep the memory of the session and none of whose identities are its own. -/
theorem Apart.of_frame {root' : StateRoot} {engine' : WatcherEngine} {more : DiagnosticLog}
    (hruntime : root'.runtime.lookup (sessionFilename H doc.sessionId) =
      root.runtime.lookup (sessionFilename H doc.sessionId))
    (hnames : ∀ path ∈ root'.runtime, path ∈ root.runtime ∨ JoinedFields.Free nul doc.sessionId)
    (hfailed : doc.sessionId ∈ engine'.failedSessions ↔ doc.sessionId ∈ engine.failedSessions)
    (hdetectors : ∀ key, key.1 = doc.sessionId →
      engine'.watcher.detectors key = engine.watcher.detectors key)
    (hcalls : ∀ key, key.1 = doc.sessionId →
      engine'.watcher.openCalls key = engine.watcher.openCalls key)
    (hlog : engine'.watcher.recorder.log = engine.watcher.recorder.log ++ more)
    (hids : ∀ event ∈ more, ∀ eventId, event.eventId = some eventId →
      (∀ mark, eventId ≠ markEventId H doc.sessionId mark) ∧
        eventId ≠ sessionCompletionId H doc.sessionId)
    (hpending : ∃ queue, engine'.watcher.recorder.pending =
        engine.watcher.recorder.pending ++ queue ∧
      ∀ notification ∈ queue, notification.event.sessionId ≠ doc.sessionId) :
    Apart H doc root engine root' engine' := by
  have hkeep : ∀ eventId, (∀ event ∈ more, event.eventId ≠ some eventId) →
      engine'.watcher.recorder.log.hasEvent eventId =
        engine.watcher.recorder.log.hasEvent eventId := by
    intro eventId hnone
    rw [hlog]
    exact DiagnosticLog.hasEvent_append_of_notMem hnone
  refine ⟨hruntime, hnames, hfailed, ?_, ?_, hpending⟩
  · intro other hsession
    have hkey : other.key.1 = doc.sessionId := hsession
    apply TargetView.ext
    · rfl
    · rfl
    · change (engine'.watcher.detectors other.key).map detectorView = _
      rw [hdetectors other.key hkey]
      rfl
    · change engine'.watcher.openCalls other.key = _
      rw [hcalls other.key hkey]
      rfl
    · funext mark
      change engine'.watcher.recorder.log.hasEvent (markEventId H other.sessionId mark) = _
      rw [hkeep]
      · rfl
      · intro event hmem hid
        rw [hsession] at hid
        exact (hids event hmem _ hid).1 mark rfl
  · apply hkeep
    intro event hmem hid
    exact (hids event hmem _ hid).2 rfl

theorem Beside.apart (hfree : JoinedFields.Free nul doc.sessionId) {root' : StateRoot}
    {engine' : WatcherEngine} (hbeside : Beside H doc.sessionId root engine root' engine') :
    Apart H doc root engine root' engine' := by
  obtain ⟨more, hlog, hids⟩ := hbeside.log
  refine Apart.of_frame hbeside.runtime (fun _ _ => Or.inr hfree) hbeside.failed
    hbeside.detectors hbeside.openCalls hlog ?_ hbeside.pending
  intro event hmem eventId hid
  obtain ⟨target, hother, hidentity⟩ := hids event hmem eventId hid
  exact targetIdentity_ne hfree hother hidentity

/-- The loop of a tick: others, perhaps the session's own file, others. -/
theorem tickFiles_session (hmem : doc.path H ∈ root.runtime)
    (hseparate : Separate H root doc.sessionId) :
    Apart H doc root engine
        (tickFiles H env (discoverRuntimeFiles root) root engine false).root
        (tickFiles H env (discoverRuntimeFiles root) root engine false).memory ∨
      ∃ root' engine', Apart H doc root engine root' engine' ∧
        Apart H doc (tickFile H env root' engine' (doc.path H)).root
          (tickFile H env root' engine' (doc.path H)).memory
          (tickFiles H env (discoverRuntimeFiles root) root engine false).root
          (tickFiles H env (discoverRuntimeFiles root) root engine false).memory := by
  rcases hseparate with honly | hfree
  · right
    refine ⟨root, engine, Apart.refl, ?_⟩
    rw [discoverRuntimeFiles_of_only hmem honly]
    unfold tickFiles
    cases tickFile H env root engine (doc.path H) with
    | mk root' engine' result => cases result <;> exact Apart.refl
  · rcases @tickFiles_split H doc.sessionId env root engine _ (nodup_discoverRuntimeFiles root)
      false with hall | ⟨root', engine', hbefore, hafter⟩
    · exact Or.inl (hall.apart hfree)
    · exact Or.inr ⟨root', engine', hbefore.apart hfree, hafter.apart hfree⟩

/-- The notifications of one session. -/
def ofSession (sessionId : String) (queued : List PendingNotification) :
    List PendingNotification :=
  queued.filter fun notification => decide (notification.event.sessionId = sessionId)

theorem ofSession_of_other {sessionId : String} {queued : List PendingNotification}
    (hother : ∀ notification ∈ queued, notification.event.sessionId ≠ sessionId) :
    ofSession sessionId queued = [] := by
  apply List.filter_eq_nil_iff.mpr
  intro notification hmem
  simpa using hother notification hmem

theorem ofSession_of_own {sessionId : String} {queued : List PendingNotification}
    (hown : ∀ notification ∈ queued, notification.event.sessionId = sessionId) :
    ofSession sessionId queued = queued := by
  apply List.filter_eq_self.mpr
  intro notification hmem
  simpa using hown notification hmem

theorem ofSession_append (sessionId : String) (first second : List PendingNotification) :
    ofSession sessionId (first ++ second) =
      ofSession sessionId first ++ ofSession sessionId second :=
  List.filter_append _ _

/-- What a tick of the engine leaves when it did not reach the session's processor. -/
structure QuietTick (H : Digest) (engine : WatcherEngine) (doc : SessionDocument)
    (outcome : TickOutcome) : Prop where
  holds : outcome.root.Holds H doc
  view : sessionView H doc outcome.engine.watcher = sessionView H doc engine.watcher
  completion : outcome.engine.watcher.recorder.log.hasEvent
      (sessionCompletionId H doc.sessionId) =
    engine.watcher.recorder.log.hasEvent (sessionCompletionId H doc.sessionId)
  queued : ofSession doc.sessionId outcome.queued = []

/-- What a tick of the engine leaves when the session's processor ran on a batch. -/
structure ProcessedTick (H : Digest) (env : TickEnvironment) (engine : WatcherEngine)
    (doc : SessionDocument) (batch : TargetBatch) (outcome : TickOutcome) : Prop where
  holds : outcome.root.Holds H (committedDocument H engine doc (env.input batch))
  failed : doc.sessionId ∉ outcome.engine.failedSessions
  view : sessionView H (committedDocument H engine doc (env.input batch))
      outcome.engine.watcher =
    (sessionView H doc engine.watcher).next doc.thresholds (env.input batch)
  completion : outcome.engine.watcher.recorder.log.hasEvent
      (sessionCompletionId H doc.sessionId) =
    engine.watcher.recorder.log.hasEvent (sessionCompletionId H doc.sessionId)
  queued : (ofSession doc.sessionId outcome.queued).map notificationMark =
    ((sessionView H doc engine.watcher).queued doc.thresholds (env.input batch)).map some

theorem committedDocument_congr {other : WatcherEngine} (input : TickInput)
    (hview : sessionView H doc other.watcher = sessionView H doc engine.watcher) :
    committedDocument H other doc input = committedDocument H engine doc input := by
  unfold committedDocument
  rw [hview]

/-- Flushing hides nothing of a session but its queue. -/
theorem flush_view (watcher : WatcherState) (other : SessionDocument)
    (sink : LifecycleNotification → Delivery) :
    sessionView H other { watcher with recorder := (watcher.recorder.flush H sink).1 } =
        sessionView H other watcher ∧
      (watcher.recorder.flush H sink).1.log.hasEvent (sessionCompletionId H other.sessionId) =
        watcher.recorder.log.hasEvent (sessionCompletionId H other.sessionId) := by
  refine ⟨?_, ?_⟩
  · apply TargetView.ext
    · rfl
    · rfl
    · rfl
    · rfl
    · funext mark
      exact flushAll_hasEvent H sink
        (fun source => notificationFailureEventId_ne_mark H source other.sessionId mark) _ _
  · exact flushAll_hasEvent H sink
      (fun source => notificationFailureEventId_ne_completion H source other.sessionId) _ _

variable (H env root engine)

/-- The loop of a tick, before the flush. -/
def tickLoop : Mutation WatcherEngine Bool :=
  tickFiles H env (discoverRuntimeFiles root) root engine false

theorem tick_loop :
    (engine.tick H env root).root = (tickLoop H env root engine).root ∧
      (engine.tick H env root).queued =
        (tickLoop H env root engine).memory.watcher.recorder.pending ∧
      (engine.tick H env root).engine =
        { (tickLoop H env root engine).memory with
          watcher := { (tickLoop H env root engine).memory.watcher with
            recorder :=
              ((tickLoop H env root engine).memory.watcher.recorder.flush H env.sink).1 } } :=
  ⟨rfl, rfl, rfl⟩

theorem tick_result : (engine.tick H env root).result =
    match (flushAll H env.sink (tickLoop H env root engine).memory.watcher.recorder.log
      (tickLoop H env root engine).memory.watcher.recorder.pending).2 with
    | .error failure => .error failure
    | .ok _ => (tickLoop H env root engine).result :=
  rfl

variable {H env root engine}

theorem quietTick_of_loop (hholds : (tickLoop H env root engine).root.Holds H doc)
    (hview : sessionView H doc (tickLoop H env root engine).memory.watcher =
      sessionView H doc engine.watcher)
    (hcompletion : (tickLoop H env root engine).memory.watcher.recorder.log.hasEvent
        (sessionCompletionId H doc.sessionId) =
      engine.watcher.recorder.log.hasEvent (sessionCompletionId H doc.sessionId))
    (hqueue : ∀ notification ∈ (tickLoop H env root engine).memory.watcher.recorder.pending,
      notification.event.sessionId ≠ doc.sessionId) :
    QuietTick H engine doc (engine.tick H env root) := by
  obtain ⟨hroot, hqueued, hengine⟩ := tick_loop H env root engine
  obtain ⟨hflushView, hflushCompletion⟩ :=
    @flush_view H (tickLoop H env root engine).memory.watcher doc env.sink
  refine ⟨?_, ?_, ?_, ?_⟩
  · rw [hroot]
    exact hholds
  · rw [hengine]
    exact hflushView.trans hview
  · rw [hengine]
    exact hflushCompletion.trans hcompletion
  · rw [hqueued]
    exact ofSession_of_other hqueue

/-- Between files of others, the session's own file did not reach its processor. -/
theorem quietTick_of_idle (hholds : root.Holds H doc) (hpending : engine.watcher.recorder.pending = [])
    {root₁ root₂ : StateRoot} {engine₁ engine₂ : WatcherEngine}
    (hbefore : Apart H doc root engine root₁ engine₁) (hidle : Idle H engine₁ doc root₁ root₂ engine₂)
    (hafter : Apart H doc root₂ engine₂ (tickLoop H env root engine).root
      (tickLoop H env root engine).memory) :
    QuietTick H engine doc (engine.tick H env root) := by
  obtain ⟨first, hfirst, hfirstOther⟩ := hbefore.pending
  obtain ⟨last, hlast, hlastOther⟩ := hafter.pending
  obtain ⟨own, hown, hnone, _⟩ := hidle.records.queued
  obtain rfl : own = [] := List.map_eq_nil_iff.mp hnone
  apply quietTick_of_loop
  · apply (hafter.holds doc rfl).mpr
    rw [hidle.root]
    exact (hbefore.holds doc rfl).mpr hholds
  · rw [hafter.view doc rfl, hidle.view, hbefore.view doc rfl]
  · rw [hafter.completion, hidle.records.completion, hbefore.completion]
  · rw [hlast, hown, hfirst, hpending, List.append_nil, List.nil_append]
    intro notification hmem
    rcases List.mem_append.mp hmem with hmem | hmem
    · exact hfirstOther notification hmem
    · exact hlastOther notification hmem

/-- Between files of others, the session's own file was processed. -/
theorem processedTick_of_committed (hpending : engine.watcher.recorder.pending = [])
    {root₁ root₂ : StateRoot} {engine₁ engine₂ : WatcherEngine} {batch : TargetBatch}
    (hbefore : Apart H doc root engine root₁ engine₁)
    (hlive : doc.sessionId ∉ engine₁.failedSessions)
    (hcommitted : Committed H env root₁ engine₁ doc batch root₂ engine₂)
    (hafter : Apart H doc root₂ engine₂ (tickLoop H env root engine).root
      (tickLoop H env root engine).memory) :
    ProcessedTick H env engine doc batch (engine.tick H env root) := by
  obtain ⟨hroot, hqueued, hengine⟩ := tick_loop H env root engine
  obtain ⟨first, hfirst, hfirstOther⟩ := hbefore.pending
  obtain ⟨last, hlast, hlastOther⟩ := hafter.pending
  have hbeforeView := hbefore.view doc rfl
  have hdocument := committedDocument_congr (env.input batch) hbeforeView
  obtain ⟨hholds, hnames, hfailed, hview, hrecords⟩ := hcommitted
  obtain ⟨own, hown, hqueue, hownSession⟩ := hrecords.queued
  have hsession := committedDocument_sessionId H engine doc (env.input batch)
  rw [hdocument] at hholds hview
  rw [hbeforeView] at hview hqueue
  refine ⟨?_, ?_, ?_, ?_, ?_⟩
  · rw [hroot]
    exact (hafter.holds _ hsession).mpr hholds
  · rw [hengine]
    intro hmem
    apply hlive
    rw [← hfailed]
    exact hafter.failed.mp hmem
  · rw [hengine]
    exact (flush_view _ _ env.sink).1.trans ((hafter.view _ hsession).trans hview)
  · rw [hengine]
    refine (flush_view _ doc env.sink).2.trans ?_
    rw [hafter.completion, hrecords.completion, hbefore.completion]
  · rw [hqueued, hlast, hown, hfirst, hpending, List.nil_append, ofSession_append,
      ofSession_append, ofSession_of_other hfirstOther, ofSession_of_other hlastOther,
      ofSession_of_own hownSession, List.nil_append, List.append_nil, hqueue]
    unfold TargetView.queued
    congr 2
    funext mark
    rw [← hbeforeView]
    rfl

/-- **One engine tick**, seen from a session, is quiet or is one tick of its view. -/
theorem tick_session (hholds : root.Holds H doc) (hseparate : Separate H root doc.sessionId)
    (hpending : engine.watcher.recorder.pending = [])
    (hwrite : (env.commitFaults (doc.path H)).write = none) :
    (engine.tick H env root).engine.watcher.recorder.pending = [] ∧
      Separate H (engine.tick H env root).root doc.sessionId ∧
      (QuietTick H engine doc (engine.tick H env root) ∨
        ∃ batch, ProcessedTick H env engine doc batch (engine.tick H env root)) := by
  obtain ⟨hroot, hqueued, hengine⟩ := tick_loop H env root engine
  refine ⟨?_, ?_⟩
  · rw [hengine]
    rfl
  rw [hroot]
  rcases tickFiles_session hholds.mem hseparate with hall | ⟨root₁, engine₁, hbefore, hafter⟩
  · exact ⟨hall.separate hseparate,
      Or.inl (quietTick_of_idle hholds hpending Apart.refl Idle.refl hall)⟩
  · have hseparate₁ := hbefore.separate hseparate
    have hholds₁ := (hbefore.holds doc rfl).mpr hholds
    have hfile := @tickFile_session H env root₁ engine₁ doc hholds₁ hwrite
    generalize (tickFile H env root₁ engine₁ (doc.path H)).root = root₂ at hfile hafter
    generalize (tickFile H env root₁ engine₁ (doc.path H)).memory = engine₂ at hfile hafter
    rcases hfile with hidle | ⟨batch, hlive, _, hcommitted⟩
    · obtain rfl := hidle.root
      exact ⟨hafter.separate hseparate₁,
        Or.inl (quietTick_of_idle hholds hpending hbefore hidle hafter)⟩
    · refine ⟨hafter.separate ?_,
        Or.inr ⟨batch, processedTick_of_committed hpending hbefore hlive hcommitted hafter⟩⟩
      rcases hseparate₁ with honly | hfree
      · exact Or.inl fun path hmem => honly path (hcommitted.names path hmem)
      · exact Or.inr hfree

/-- A tick that delivers a batch to the only session processes it. -/
theorem tick_delivers {batch : TargetBatch} (hholds : root.Holds H doc)
    (halone : Alone H root doc.sessionId) (hpending : engine.watcher.recorder.pending = [])
    (hlive : doc.sessionId ∉ engine.failedSessions) (hdelivers : env.Delivers H root doc batch) :
    ProcessedTick H env engine doc batch (engine.tick H env root) ∧
      Alone H (engine.tick H env root).root doc.sessionId ∧
      (engine.tick H env root).engine.watcher.recorder.pending = [] := by
  obtain ⟨hroot, _, hengine⟩ := tick_loop H env root engine
  have hcommitted := tickFile_delivers hholds hlive hdelivers
  have hloop : (tickLoop H env root engine).root =
        (tickFile H env root engine (doc.path H)).root ∧
      (tickLoop H env root engine).memory =
        (tickFile H env root engine (doc.path H)).memory := by
    unfold tickLoop
    rw [discoverRuntimeFiles_of_only hholds.mem halone]
    unfold tickFiles
    cases tickFile H env root engine (doc.path H) with
    | mk root' engine' result => cases result <;> exact ⟨rfl, rfl⟩
  have hafter : Apart H doc (tickFile H env root engine (doc.path H)).root
      (tickFile H env root engine (doc.path H)).memory (tickLoop H env root engine).root
      (tickLoop H env root engine).memory := by
    rw [hloop.1, hloop.2]
    exact Apart.refl
  refine ⟨processedTick_of_committed hpending Apart.refl hlive hcommitted hafter, ?_, ?_⟩
  · rw [hroot, hloop.1]
    exact fun path hmem => halone path (hcommitted.names path hmem)
  · rw [hengine]
    rfl

end Tick

end CodexMustWork
