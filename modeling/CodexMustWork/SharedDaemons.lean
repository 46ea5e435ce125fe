import CodexMustWork.NotificationStream
import CodexMustWork.SharedSessions
import CodexMustWork.SharedTarget

/-!
# Several daemons on one state root

Each Codex task has a daemon of its own, and all of them watch the same files.
The documents, the cursors and the diagnostic log are shared; a daemon's
detectors and open calls are not.  The steps are the locked snapshot, the
unlocked read and the locked commit of a tick (which saves the cursor under the
same lock), the delivery of what a tick queued, and a daemon that starts anew,
in any order.

The state remembers who is overtaken and when progress was counted, so that a
run can say whether a suspicion came too early.
-/

namespace CodexMustWork

/-! ### Steps -/

/-- A state root with its log and the daemons that watch one session of it. -/
structure DaemonsState where
  files : SharedState
  log : DiagnosticLog
  overtaken : Nat → Bool
  progressedAt : List Int

inductive DaemonStep where
  | snapshot (process : Nat) (env : TickEnvironment)
  | read (process : Nat) (rollout : String → Except Failure RolloutFile)
  | commit (process : Nat) (env : TickEnvironment)
  | flush (process : Nat) (sink : LifecycleNotification → Delivery)
  | crash (process : Nat)

/-- The start of the silence of a parent monitor, as its runtime document has it. -/
def persistedSilenceStart (H : Digest) (root : StateRoot) (sessionId : String) : Int :=
  match root.runtime.lookup (sessionFilename H sessionId) with
  | some (.ok values) =>
      match values.parent with
      | .value monitor =>
          match monitor.silenceStartedAt with
          | .value instant => instant
          | _ => 0
      | _ => 0
  | _ => 0

theorem persistedSilenceStart_of_holds {H : Digest} {root : StateRoot} {doc : SessionDocument}
    (hholds : root.Holds H doc) :
    persistedSilenceStart H root doc.sessionId = doc.silenceStartedAt := by
  have hlookup : root.runtime.lookup (sessionFilename H doc.sessionId) = some (.ok doc.values) :=
    hholds
  unfold persistedSilenceStart
  rw [hlookup]
  rfl

namespace DaemonsState

variable {ρ : Type} (H : Digest) (format : RecordFormat ρ) (sessionId : String)
  (state : DaemonsState)

/-- No daemon has done anything. -/
def initial (root : StateRoot) (log : DiagnosticLog) : DaemonsState :=
  ⟨SharedState.initial root, log, fun _ => false, []⟩

def engine (process : Nat) : WatcherEngine := (state.files.process process).engine

/-- The engine of a daemon over the log as it is now. -/
def lentEngine (process : Nat) : WatcherEngine :=
  { state.engine process with
    watcher := { (state.engine process).watcher with
      recorder := { (state.engine process).watcher.recorder with log := state.log } } }

def lend (process : Nat) : SharedState :=
  state.files.setProcess process
    { state.files.process process with engine := state.lentEngine process }

/-- What the daemons share of the session, and what each of them remembers of it. -/
def shared : SharedTarget where
  epoch := persistedEpoch H state.files.root sessionId
  anchor := persistedSilenceStart H state.files.root sessionId
  recorded mark := state.log.hasEvent (markEventId H sessionId mark)
  detector process :=
    ((state.engine process).watcher.detectors (sessionId, none, 1)).map detectorView
  openCalls process := (state.engine process).watcher.openCalls (sessionId, none, 1)

/-- The locked end of a tick, with what it queued. -/
def commit (process : Nat) (env : TickEnvironment) : DaemonsState × List PendingNotification :=
  let files := (state.lend process).commit H sessionId process env
  let after := (files.process process).engine.watcher.recorder
  let progressed := decide (persistedEpoch H state.files.root sessionId <
    persistedEpoch H files.root sessionId)
  ({ files
     log := after.log
     overtaken := SharedTarget.overtake process progressed
       ((state.shared H sessionId).detector process).isSome state.overtaken
     progressedAt :=
       if progressed then env.context.now :: state.progressedAt else state.progressedAt },
    after.pending.drop (state.engine process).watcher.recorder.pending.length)

/-- The end of a tick: what was queued is delivered. -/
def flush (process : Nat) (sink : LifecycleNotification → Delivery) : DaemonsState :=
  let recorder := ((state.lentEngine process).watcher.recorder.flush H sink).1
  { state with
    files := state.files.setProcess process
      { state.files.process process with
        engine := { state.engine process with
          watcher := { (state.engine process).watcher with recorder } } }
    log := recorder.log }

def step : DaemonStep → DaemonsState × List PendingNotification
  | .snapshot process env =>
      ({ state with files := state.files.snapshot H sessionId process env }, [])
  | .read process rollout => ({ state with files := state.files.read H format process rollout }, [])
  | .commit process env => state.commit H sessionId process env
  | .flush process sink => (state.flush H process sink, [])
  | .crash process => ({ state with files := state.files.crash process state.log }, [])

end DaemonsState

/-- The daemons, one step at a time. -/
def daemonsMachine {ρ : Type} (H : Digest) (format : RecordFormat ρ) (sessionId : String) :
    Machine DaemonsState DaemonStep (List PendingNotification) :=
  ⟨DaemonsState.step H format sessionId⟩

/-- The marks of what the steps of a run queued. -/
def queuedMarks (outputs : List (List PendingNotification)) : List Mark :=
  outputs.flatten.filterMap notificationMark

/-! ### What must hold, and when -/

section Conditions

variable {ρ : Type} (H : Digest) (format : RecordFormat ρ) (sessionId : String)

/-- The wall clock of all daemons is `offset` ahead of their monotonic clock. -/
def DaemonStep.ClocksAgree (offset : Int) : DaemonStep → Prop
  | .commit _ env => env.context.wallTime = env.context.now + offset
  | _ => True

/-- The commit does not lose the write of the document. -/
def DaemonStep.Writes : DaemonStep → Prop
  | .commit _ env => (env.commitFaults (sessionFilename H sessionId)).write = none
  | _ => True

/-- A suspicion is recorded only by a commit, and only when no progress was counted within the
    warning time before it. -/
def SuspectsSilence (warning : Int) (state : DaemonsState) (step : DaemonStep) : Prop :=
  ∀ epoch, state.log.hasEvent (markEventId H sessionId ⟨.suspected, epoch⟩) = false →
    (state.step H format sessionId step).1.log.hasEvent
        (markEventId H sessionId ⟨.suspected, epoch⟩) = true →
    match step with
    | .commit _ env => ∀ instant ∈ state.progressedAt, instant + warning ≤ env.context.now
    | _ => False

/-- A commit that processes a batch has a clock that is not before the silence start of the
    document; and where the daemon is overtaken, what it remembers decides nothing. -/
def Informed (thresholds : Thresholds) (state : DaemonsState) : DaemonStep → Prop
  | .commit process env => ∀ target activation batch origin,
      (state.files.process process).phase = .taken target activation (some batch) origin →
      (env.commitFaults target.runtimeFile).lock = none →
      RevisionCurrent H env.resolve state.files.root target →
      persistedSilenceStart H state.files.root sessionId ≤ env.context.wallTime ∧
        (state.overtaken process = true →
          ((state.shared H sessionId).view process).MemoryUnused thresholds (env.input batch))
  | _ => True

end Conditions

/-! ### Commits of a snapshot -/

section Commits

variable {H : Digest} {root : StateRoot} {target : RuntimeTarget}

/-- Of its snapshot a commit uses the file, the revision and the session. -/
theorem commitTick_congr {env : TickEnvironment} {other : RuntimeTarget}
    (hfile : target.runtimeFile = other.runtimeFile) (hrevision : target.revision = other.revision)
    (hsession : target.sessionId = other.sessionId) (batch : Option TargetBatch)
    (engine : WatcherEngine) :
    commitTick H env root target batch engine = commitTick H env root other batch engine := by
  have hprocess : ∀ processor : TargetProcessor WatcherEngine,
      processSnapshot H env.resolve target ((batch.map TargetBatch.events).getD []) processor =
        processSnapshot H env.resolve other ((batch.map TargetBatch.events).getD [])
          processor := by
    intro processor
    funext memory values
    unfold processSnapshot
    rw [hfile, hrevision]
  have hcommit : ∀ fault : Option Failure,
      commitBatch H fault target batch = commitBatch H fault other batch := by
    intro fault
    funext root result
    unfold commitBatch commitTargetCursor
    rw [hsession]
  unfold commitTick commitRuntimeSnapshot
  rw [hprocess, hcommit, hfile]

/-- The quarantine uses the file and the revision. -/
theorem recordRolloutFailure_congr {env : TickEnvironment} {other : RuntimeTarget}
    (hfile : target.runtimeFile = other.runtimeFile) (hrevision : target.revision = other.revision)
    (code : DiagnosticCode) (engine : WatcherEngine) :
    recordRolloutFailure H env root target code engine =
      recordRolloutFailure H env root other code engine := by
  unfold recordRolloutFailure
  rw [hfile, hrevision]

/-- A quarantine whose snapshot has another revision changes nothing. -/
theorem recordRolloutFailure_unchanged {env : TickEnvironment} {code : DiagnosticCode}
    {engine : WatcherEngine} (hstale : ¬ RevisionCurrent H env.resolve root target) :
    (recordRolloutFailure H env root target code engine).root = root ∧
      (recordRolloutFailure H env root target code engine).memory = engine := by
  unfold recordRolloutFailure
  cases hfile : root.runtime.lookup target.runtimeFile with
  | none =>
      rw [mutateExistingState_of_absent hfile]
      exact ⟨rfl, rfl⟩
  | some file =>
      cases hlock : (env.commitFaults target.runtimeFile).lock with
      | some failure =>
          rw [mutateExistingState_of_lock hfile hlock]
          exact ⟨rfl, rfl⟩
      | none =>
          cases file with
          | error failure =>
              rw [mutateExistingState_of_unreadable hlock hfile]
              exact ⟨rfl, rfl⟩
          | ok values =>
              by_cases henabled : values.enabled = .value true
              · cases hvalid : runtimeTargetFromValues H env.resolve target.runtimeFile values with
                | error failure =>
                    rw [mutateExistingState_of_raised hlock hfile (by
                      rw [if_neg (not_not.mpr henabled), hvalid])]
                    exact ⟨rfl, rfl⟩
                | ok current =>
                    have hother : current.revision ≠ target.revision :=
                      fun hsame => hstale ⟨values, current, hfile, henabled, hvalid, hsame⟩
                    rw [mutateExistingState_noCommit_of_unchanged hlock hfile (by
                      rw [if_neg (not_not.mpr henabled), hvalid]
                      dsimp only
                      rw [if_pos hother])]
                    exact ⟨rfl, rfl⟩
              · rw [mutateExistingState_noCommit_of_unchanged hlock hfile (by
                  rw [if_pos henabled])]
                exact ⟨rfl, rfl⟩

end Commits

/-! ### What the steps do to what is shared -/

section Refinement

variable {ρ : Type} {H : Digest} {format : RecordFormat ρ} {doc : SessionDocument}
  {state : DaemonsState} {process : Nat} {env : TickEnvironment}

theorem filterMap_of_map_eq {α β : Type} {f : α → Option β} {items : List α} {values : List β}
    (hmap : items.map f = values.map some) : items.filterMap f = values := by
  have hall := congrArg (List.filterMap id) hmap
  simpa [List.filterMap_map] using hall

/-- What a daemon sees of the target is the view of the session over the log as it is now. -/
theorem view_shared (hholds : state.files.root.Holds H doc) :
    (state.shared H doc.sessionId).view process =
      sessionView H doc (state.lentEngine process).watcher := by
  unfold DaemonsState.shared SharedTarget.view
  rw [persistedEpoch_of_holds hholds, persistedSilenceStart_of_holds hholds]
  rfl

/-- A snapshot of the session's document that is current is that of the document but for
    where the rollout is. -/
theorem revisionCurrent_of_holds {resolve : String → Except Failure String} {root : StateRoot}
    {target : RuntimeTarget} (hholds : root.Holds H doc) (hfile : target.runtimeFile = doc.path H)
    (hcurrent : RevisionCurrent H resolve root target) :
    ∃ rollout, resolve doc.transcript.path = .ok rollout ∧ target.revision = doc.revision := by
  obtain ⟨values, current, hlookup, _, hvalid, hrevision⟩ := hcurrent
  rw [hfile, hholds] at hlookup
  obtain rfl := Except.ok.inj (Option.some.inj hlookup)
  rw [hfile, doc.runtimeTargetFromValues_values] at hvalid
  cases hresolve : resolve doc.transcript.path with
  | error failure =>
      rw [hresolve] at hvalid
      cases hvalid
  | ok rollout =>
      rw [hresolve] at hvalid
      obtain rfl := Except.ok.inj hvalid
      exact ⟨rollout, rfl, hrevision.symm⟩

/-- What a daemon holds between two steps is of the session, and it has read a batch. -/
def TickPhase.OfSession (H : Digest) (sessionId : String) : TickPhase → Prop
  | .idle => True
  | .snapped target _ =>
      target.sessionId = sessionId ∧ target.runtimeFile = sessionFilename H sessionId
  | .taken target _ batch _ =>
      target.sessionId = sessionId ∧ target.runtimeFile = sessionFilename H sessionId ∧
        batch ≠ none
  | .failed target _ =>
      target.sessionId = sessionId ∧ target.runtimeFile = sessionFilename H sessionId

theorem lend_process : (state.lend process).process process =
    { state.files.process process with engine := state.lentEngine process } :=
  SharedState.setProcess_process ..

/-- The files after a commit of what a daemon has read. -/
theorem commit_taken {sessionId : String} {target : RuntimeTarget} {activation origin : Nat}
    {batch : Option TargetBatch}
    (hphase : (state.files.process process).phase = .taken target activation batch origin) :
    (state.commit H sessionId process env).1.files.root =
        (commitTick H env state.files.root target batch (state.lentEngine process)).root ∧
      (state.commit H sessionId process env).1.files.process =
        Function.update state.files.process process
          { state.files.process process with
            engine :=
              (commitTick H env state.files.root target batch (state.lentEngine process)).memory
            phase := .idle } := by
  obtain ⟨hroot, hmemory⟩ := commitBatchOf_eq_commitTick (H := H) (state.lend process) process env
    target batch
  have hold : (state.lend process).process = Function.update state.files.process process
      { state.files.process process with engine := state.lentEngine process } := rfl
  rw [lend_process] at hroot hmemory
  unfold DaemonsState.commit SharedState.commit
  rw [lend_process, hphase]
  refine ⟨hroot, ?_⟩
  dsimp only
  unfold SharedState.setProcess
  rw [hold, Function.update_idem, hmemory]
  rfl

/-- A commit of a batch by a daemon whose snapshot is current. -/
theorem commit_current {target : RuntimeTarget} {activation origin : Nat} {batch : TargetBatch}
    (hholds : state.files.root.Holds H doc)
    (hphase : (state.files.process process).phase = .taken target activation (some batch) origin)
    (hsession : target.sessionId = doc.sessionId) (hfile : target.runtimeFile = doc.path H)
    (hlock : (env.commitFaults (doc.path H)).lock = none)
    (hwrite : (env.commitFaults (doc.path H)).write = none)
    (hcurrent : RevisionCurrent H env.resolve state.files.root target) :
    Committed H env state.files.root (state.lentEngine process) doc batch
      (state.commit H doc.sessionId process env).1.files.root
      ((state.commit H doc.sessionId process env).1.engine process) := by
  obtain ⟨hroot, hprocess⟩ := @commit_taken H state process env doc.sessionId target activation
    origin (some batch) hphase
  obtain ⟨rollout, hresolve, hrevision⟩ := revisionCurrent_of_holds hholds hfile hcurrent
  unfold DaemonsState.engine
  rw [hroot, hprocess, Function.update_self,
    @commitTick_congr H state.files.root target env (doc.target H rollout) hfile hrevision hsession]
  exact commitTick_session hholds hresolve hlock hwrite batch

/-- A commit that does not get the lock, or whose snapshot is not current. -/
theorem commit_unchanged {sessionId : String} {target : RuntimeTarget} {activation origin : Nat}
    {batch : Option TargetBatch}
    (hphase : (state.files.process process).phase = .taken target activation batch origin)
    (hidle : (env.commitFaults target.runtimeFile).lock ≠ none ∨
      ¬ RevisionCurrent H env.resolve state.files.root target) :
    (state.commit H sessionId process env).1.files.root = state.files.root ∧
      (state.commit H sessionId process env).1.engine process = state.lentEngine process := by
  obtain ⟨hroot, hprocess⟩ := @commit_taken H state process env sessionId target activation
    origin batch hphase
  obtain ⟨hsame, hmemory⟩ := @commitRuntimeSnapshot_unchanged H _ state.files.root target
    env.resolve (env.commitFaults target.runtimeFile) batch (engineProcessor H env.context)
    (state.lentEngine process) hidle
  unfold DaemonsState.engine
  rw [hroot, hprocess, Function.update_self]
  exact ⟨hsame, hmemory⟩

/-- A quarantine leaves the session's view alone. -/
theorem commit_failed {target : RuntimeTarget} {code : DiagnosticCode}
    (hholds : state.files.root.Holds H doc)
    (hphase : (state.files.process process).phase = .failed target code)
    (hfile : target.runtimeFile = doc.path H) :
    Idle H (state.lentEngine process) doc state.files.root
      (state.commit H doc.sessionId process env).1.files.root
      ((state.commit H doc.sessionId process env).1.engine process) := by
  have hcommit : (state.commit H doc.sessionId process env).1.files.root =
        (recordRolloutFailure H env state.files.root target code (state.lentEngine process)).root ∧
      (state.commit H doc.sessionId process env).1.engine process =
        (recordRolloutFailure H env state.files.root target code
          (state.lentEngine process)).memory := by
    unfold DaemonsState.commit SharedState.commit DaemonsState.engine
    rw [lend_process, hphase]
    dsimp only
    rw [SharedState.setProcess_process]
    exact ⟨rfl, rfl⟩
  rw [hcommit.1, hcommit.2]
  by_cases hcurrent : RevisionCurrent H env.resolve state.files.root target
  · obtain ⟨rollout, hresolve, hrevision⟩ := revisionCurrent_of_holds hholds hfile hcurrent
    rw [@recordRolloutFailure_congr H state.files.root target env (doc.target H rollout) hfile
      hrevision]
    exact (failTick_session hholds hresolve code).1
  · obtain ⟨hroot, hmemory⟩ := @recordRolloutFailure_unchanged H state.files.root target env code
      (state.lentEngine process) hcurrent
    rw [hroot, hmemory]
    exact Idle.refl

/-- A commit that processes nothing leaves the session's view alone. -/
theorem commit_idle (hholds : state.files.root.Holds H doc)
    (hof : (state.files.process process).phase.OfSession H doc.sessionId)
    (hidle : ∀ target activation batch origin,
      (state.files.process process).phase = .taken target activation (some batch) origin →
      (env.commitFaults target.runtimeFile).lock ≠ none ∨
        ¬ RevisionCurrent H env.resolve state.files.root target) :
    Idle H (state.lentEngine process) doc state.files.root
      (state.commit H doc.sessionId process env).1.files.root
      ((state.commit H doc.sessionId process env).1.engine process) := by
  cases hphase : (state.files.process process).phase with
  | failed target code =>
      rw [hphase] at hof
      exact commit_failed hholds hphase hof.2
  | taken target activation batch origin =>
      rw [hphase] at hof
      obtain ⟨taken, rfl⟩ := Option.ne_none_iff_exists'.mp hof.2.2
      obtain ⟨hroot, hengine⟩ := @commit_unchanged H state process env doc.sessionId target
        activation origin (some taken) hphase (hidle target activation taken origin hphase)
      rw [hroot, hengine]
      exact Idle.refl
  | idle =>
      have hcommit : (state.lend process).commit H doc.sessionId process env =
          state.lend process := by
        unfold SharedState.commit
        rw [lend_process, hphase]
      unfold DaemonsState.commit DaemonsState.engine
      rw [hcommit, lend_process]
      exact Idle.refl
  | snapped target activation =>
      have hcommit : (state.lend process).commit H doc.sessionId process env =
          state.lend process := by
        unfold SharedState.commit
        rw [lend_process, hphase]
      unfold DaemonsState.commit DaemonsState.engine
      rw [hcommit, lend_process]
      exact Idle.refl

/-- A commit changes nothing of the other daemons, and its daemon is then idle or where it
    was. -/
theorem commit_process (sessionId : String) :
    (∀ other, other ≠ process → (state.commit H sessionId process env).1.files.process other =
      state.files.process other) ∧
      (((state.commit H sessionId process env).1.files.process process).phase = .idle ∨
        ((state.commit H sessionId process env).1.files.process process).phase =
          (state.files.process process).phase) := by
  have hothers : ∀ other, other ≠ process →
      (state.lend process).process other = state.files.process other :=
    fun other hne => Function.update_of_ne hne _ _
  unfold DaemonsState.commit SharedState.commit
  rw [lend_process]
  dsimp only
  cases hphase : (state.files.process process).phase with
  | idle =>
      dsimp only
      exact ⟨hothers, Or.inr ((congrArg SharedProcess.phase lend_process).trans hphase)⟩
  | snapped target activation =>
      dsimp only
      exact ⟨hothers, Or.inr ((congrArg SharedProcess.phase lend_process).trans hphase)⟩
  | taken target activation batch origin =>
      dsimp only
      refine ⟨fun other hne => ?_, Or.inl ?_⟩
      · exact (Function.update_of_ne hne _ _).trans (hothers other hne)
      · rw [SharedState.setProcess_process]
  | failed target code =>
      dsimp only
      refine ⟨fun other hne => ?_, Or.inl ?_⟩
      · exact (Function.update_of_ne hne _ _).trans (hothers other hne)
      · rw [SharedState.setProcess_process]

/-! ### The invariant -/

/-- The marks a list of notifications announces, when there are none. -/
theorem Idle.queued {root after : StateRoot} {before next : WatcherEngine}
    (hidle : Idle H before doc root after next) :
    next.watcher.recorder.pending = before.watcher.recorder.pending := by
  obtain ⟨more, hpending, hmarks, _⟩ := hidle.records.queued
  rw [List.filter_nil, List.map_nil, List.map_eq_nil_iff] at hmarks
  rw [hpending, hmarks, List.append_nil]

end Refinement

/-- What holds in every state: the session's document is there, nobody holds anything of
    another session, and what is shared is consistent. -/
structure DaemonsInv (H : Digest) (sessionId : String) (thresholds : Thresholds) (offset : Int)
    (queued : List Mark) (state : DaemonsState) : Prop where
  holds : ∃ doc : SessionDocument, doc.sessionId = sessionId ∧ doc.thresholds = thresholds ∧
    state.files.root.Holds H doc
  phases : ∀ process, (state.files.process process).phase.OfSession H sessionId
  consistent : SharedTarget.Consistent offset (state.shared H sessionId) state.overtaken
    state.progressedAt queued

section Invariant

variable {ρ : Type} {H : Digest} {format : RecordFormat ρ} {sessionId : String}
  {thresholds : Thresholds} {offset : Int} {queued : List Mark} {state : DaemonsState}
  {process : Nat}
  {env : TickEnvironment}

/-- Progress of the session is seen in its document. -/
theorem progressed_of_committed {doc : SessionDocument} {batch : TargetBatch}
    {after : StateRoot} {engine : WatcherEngine} (hholds : state.files.root.Holds H doc)
    (hcommitted : Committed H env state.files.root (state.lentEngine process) doc batch after
      engine) :
    decide (persistedEpoch H state.files.root doc.sessionId <
      persistedEpoch H after doc.sessionId) =
        ((state.shared H doc.sessionId).view process).progresses (env.input batch) := by
  have hafter := persistedEpoch_of_holds hcommitted.holds
  rw [committedDocument_sessionId] at hafter
  have hepoch := congrArg TargetView.epoch hcommitted.view
  rw [TargetView.next_epoch] at hepoch
  rw [view_shared hholds, persistedEpoch_of_holds hholds, hafter]
  change (committedDocument H (state.lentEngine process) doc (env.input batch)).progressEpoch = _
    at hepoch
  rw [hepoch]
  cases (sessionView H doc (state.lentEngine process).watcher).progresses (env.input batch) with
  | true => exact decide_eq_true (Nat.lt_succ_self _)
  | false => exact decide_eq_false (Nat.lt_irrefl _)

/-- What is shared depends on the files, the marks of the log and what is remembered. -/
theorem shared_congr {sessionId : String} {next : DaemonsState}
    (hroot : next.files.root = state.files.root)
    (hmarks : ∀ mark, next.log.hasEvent (markEventId H sessionId mark) =
      state.log.hasEvent (markEventId H sessionId mark))
    (hmemory : ∀ process,
      (next.engine process).watcher.detectors = (state.engine process).watcher.detectors ∧
        (next.engine process).watcher.openCalls = (state.engine process).watcher.openCalls) :
    next.shared H sessionId = state.shared H sessionId := by
  unfold DaemonsState.shared
  simp only [hroot, hmarks, hmemory]

/-- What a commit notes, by whether the document's epoch moved. -/
theorem commit_notes {sessionId : String} {progressed : Bool}
    (hprogressed : decide (persistedEpoch H state.files.root sessionId <
      persistedEpoch H (state.commit H sessionId process env).1.files.root sessionId) =
        progressed) :
    (state.commit H sessionId process env).1.overtaken =
        SharedTarget.overtake process progressed
          ((state.shared H sessionId).detector process).isSome state.overtaken ∧
      (state.commit H sessionId process env).1.progressedAt =
        if progressed then env.context.now :: state.progressedAt else state.progressedAt := by
  subst hprogressed
  exact ⟨rfl, rfl⟩

/-- A commit that processes nothing leaves what is shared, and queues nothing. -/
theorem shared_commit_idle {doc : SessionDocument}
    (hidle : Idle H (state.lentEngine process) doc state.files.root
      (state.commit H doc.sessionId process env).1.files.root
      ((state.commit H doc.sessionId process env).1.engine process)) :
    (state.commit H doc.sessionId process env).1.shared H doc.sessionId =
        state.shared H doc.sessionId ∧
      (state.commit H doc.sessionId process env).2 = [] := by
  obtain ⟨hothers, _⟩ := @commit_process H state process env doc.sessionId
  refine ⟨shared_congr hidle.root ?_ ?_, ?_⟩
  · intro mark
    have hrecorded := hidle.records.recorded mark
    rw [decide_eq_false List.not_mem_nil, Bool.or_false] at hrecorded
    exact hrecorded
  · intro other
    by_cases hother : other = process
    · subst hother
      exact ⟨hidle.detectors, hidle.openCalls⟩
    · unfold DaemonsState.engine
      rw [hothers other hother]
      exact ⟨rfl, rfl⟩
  · have hpending := hidle.queued
    change List.drop _ ((state.commit H doc.sessionId process env).1.engine
      process).watcher.recorder.pending = []
    rw [hpending]
    exact List.drop_length

/-- **Commits refine ticks.**  A commit that processes a batch is a tick of its daemon. -/
theorem shared_commit_committed {doc : SessionDocument} {batch : TargetBatch}
    (hholds : state.files.root.Holds H doc)
    (hcommitted : Committed H env state.files.root (state.lentEngine process) doc batch
      (state.commit H doc.sessionId process env).1.files.root
      ((state.commit H doc.sessionId process env).1.engine process)) :
    (state.commit H doc.sessionId process env).1.shared H doc.sessionId =
        (state.shared H doc.sessionId).tick doc.thresholds process (env.input batch) ∧
      (state.commit H doc.sessionId process env).2.filterMap notificationMark =
        ((state.shared H doc.sessionId).view process).queued doc.thresholds (env.input batch) := by
  obtain ⟨hothers, _⟩ := @commit_process H state process env doc.sessionId
  have hview := @view_shared H doc state process hholds
  constructor
  · refine SharedTarget.eq_tick ?_ ?_
    · rw [hview, ← hcommitted.view]
      have hnext := @view_shared H (committedDocument H (state.lentEngine process) doc
        (env.input batch)) (state.commit H doc.sessionId process env).1 process hcommitted.holds
      rw [committedDocument_sessionId] at hnext
      exact hnext
    · intro other hother
      unfold DaemonsState.shared DaemonsState.engine
      dsimp only
      rw [hothers other hother]
      exact ⟨rfl, rfl⟩
  · obtain ⟨more, hpending, hmarks, _⟩ := hcommitted.records.queued
    change List.filterMap _ (List.drop _ ((state.commit H doc.sessionId process env).1.engine
      process).watcher.recorder.pending) = _
    rw [hpending]
    have hdrop : ((state.lentEngine process).watcher.recorder.pending ++ more).drop
        (state.engine process).watcher.recorder.pending.length = more :=
      List.drop_left
    rw [hdrop, filterMap_of_map_eq hmarks, hview]
    rfl

/-- **Commits.**  A commit that is informed suspects a silence, and keeps the invariant. -/
theorem daemonsInv_commit (hinv : DaemonsInv H sessionId thresholds offset queued state)
    (hclocks : env.context.wallTime = env.context.now + offset)
    (hwrite : (env.commitFaults (sessionFilename H sessionId)).write = none)
    (hinformed : Informed H sessionId thresholds state (.commit process env)) :
    SuspectsSilence H format sessionId thresholds.warning state
        (.commit process env) ∧
      DaemonsInv H sessionId thresholds offset
        (queued ++ (state.commit H sessionId process env).2.filterMap notificationMark)
        (state.commit H sessionId process env).1 := by
  obtain ⟨⟨doc, rfl, rfl, hholds⟩, hphases, hconsistent⟩ := hinv
  obtain ⟨hothers, hphase⟩ := @commit_process H state process env doc.sessionId
  have hphases' : ∀ other, ((state.commit H doc.sessionId process env).1.files.process
      other).phase.OfSession H doc.sessionId := by
    intro other
    by_cases hother : other = process
    · subst hother
      rcases hphase with hidle | hsame
      · rw [hidle]
        trivial
      · rw [hsame]
        exact hphases other
    · rw [hothers other hother]
      exact hphases other
  by_cases hprocesses : ∃ target activation batch origin,
      (state.files.process process).phase = .taken target activation (some batch) origin ∧
        (env.commitFaults target.runtimeFile).lock = none ∧
        RevisionCurrent H env.resolve state.files.root target
  · obtain ⟨target, activation, batch, origin, htaken, hlock, hcurrent⟩ := hprocesses
    obtain ⟨hanchor, hunused⟩ := hinformed target activation batch origin htaken hlock hcurrent
    have hof := hphases process
    rw [htaken] at hof
    obtain ⟨hsession, hfile, _⟩ := hof
    rw [hfile] at hlock
    have hcommitted := commit_current hholds htaken hsession hfile hlock hwrite hcurrent
    obtain ⟨hshared, hqueued⟩ := shared_commit_committed hholds hcommitted
    obtain ⟨hovertaken, hprogressed⟩ := commit_notes (progressed_of_committed hholds hcommitted)
    constructor
    · intro epoch hbefore hafter
      have hmark : ⟨.suspected, epoch⟩ ∈ ((state.shared H doc.sessionId).view process).marks
          doc.thresholds (env.input batch) := by
        have hrecorded : ((state.commit H doc.sessionId process env).1.shared H
            doc.sessionId).recorded ⟨.suspected, epoch⟩ = true := hafter
        rw [hshared, SharedTarget.Consistent.recorded_tick] at hrecorded
        refine hrecorded.resolve_left fun hold => ?_
        change state.log.hasEvent _ = true at hold
        rw [hbefore] at hold
        cases hold
      exact hconsistent.silence hunused hclocks hanchor hmark
    · refine ⟨⟨_, committedDocument_sessionId H _ _ _, committedDocument_thresholds H _ _ _,
        hcommitted.holds⟩, hphases', ?_⟩
      rw [hshared, hqueued, hovertaken, hprogressed]
      exact hconsistent.tick hunused hclocks hanchor
  · have hidle := @commit_idle H doc state process env hholds (hphases process) (by
      intro target activation batch origin htaken
      by_cases hlock : (env.commitFaults target.runtimeFile).lock = none
      · exact Or.inr fun hcurrent =>
          hprocesses ⟨target, activation, batch, origin, htaken, hlock, hcurrent⟩
      · exact Or.inl hlock)
    obtain ⟨hshared, hqueued⟩ := shared_commit_idle hidle
    obtain ⟨hovertaken, hprogressed⟩ := @commit_notes H state process env doc.sessionId false (by
      rw [hidle.root]
      exact decide_eq_false (Nat.lt_irrefl _))
    constructor
    · intro epoch hbefore hafter
      have hrecorded : ((state.commit H doc.sessionId process env).1.shared H
          doc.sessionId).recorded ⟨.suspected, epoch⟩ = true := hafter
      rw [hshared] at hrecorded
      change state.log.hasEvent _ = true at hrecorded
      rw [hbefore] at hrecorded
      cases hrecorded
    · refine ⟨⟨doc, rfl, rfl, ?_⟩, hphases', ?_⟩
      · rw [hidle.root]
        exact hholds
      · rw [hshared, hqueued, hovertaken, hprogressed, List.filterMap_nil, List.append_nil]
        exact hconsistent.unmark process

/-- A step that leaves what is shared and the files, and lets a daemon hold what is of the
    session, keeps the invariant. -/
theorem DaemonsInv.kept {next : DaemonsState}
    (hinv : DaemonsInv H sessionId thresholds offset queued state)
    (hroot : next.files.root = state.files.root)
    (hphases : ∀ process, (next.files.process process).phase.OfSession H sessionId)
    (hshared : next.shared H sessionId = state.shared H sessionId)
    (hnotes : next.overtaken = state.overtaken ∧ next.progressedAt = state.progressedAt) :
    DaemonsInv H sessionId thresholds offset queued next := by
  obtain ⟨⟨doc, hsession, hthresholds, hholds⟩, _, hconsistent⟩ := hinv
  refine ⟨⟨doc, hsession, hthresholds, ?_⟩, hphases, ?_⟩
  · rw [hroot]
    exact hholds
  · rw [hshared, hnotes.1, hnotes.2]
    exact hconsistent

/-- Only one daemon's phase changes. -/
theorem phases_setPhase {sessionId : String}
    (hphases : ∀ process, (state.files.process process).phase.OfSession H sessionId)
    {phase : TickPhase} (hphase : phase.OfSession H sessionId) (other : Nat) :
    ((state.files.setPhase process phase).process other).phase.OfSession H sessionId := by
  by_cases hother : other = process
  · subst hother
    rw [SharedState.setPhase_process]
    exact hphase
  · unfold SharedState.setPhase SharedState.setProcess
    dsimp only
    rw [Function.update_of_ne hother]
    exact hphases other

theorem engine_setPhase (phase : TickPhase) (other : Nat) :
    ((state.files.setPhase process phase).process other).engine = state.engine other := by
  unfold DaemonsState.engine
  by_cases hother : other = process
  · subst hother
    rw [SharedState.setPhase_process]
  · unfold SharedState.setPhase SharedState.setProcess
    dsimp only
    rw [Function.update_of_ne hother]

/-- Setting the phase of a daemon keeps the invariant. -/
theorem DaemonsInv.setPhase {phase : TickPhase}
    (hinv : DaemonsInv H sessionId thresholds offset queued state)
    (hphase : phase.OfSession H sessionId) :
    DaemonsInv H sessionId thresholds offset queued
      { state with files := state.files.setPhase process phase } := by
  refine hinv.kept rfl (phases_setPhase hinv.phases hphase) (shared_congr rfl (fun _ => rfl) ?_)
    ⟨rfl, rfl⟩
  intro other
  change ((state.files.setPhase process phase).process other).engine.watcher.detectors = _ ∧
    ((state.files.setPhase process phase).process other).engine.watcher.openCalls = _
  rw [engine_setPhase]
  exact ⟨rfl, rfl⟩

theorem daemonsInv_snapshot (hinv : DaemonsInv H sessionId thresholds offset queued state) :
    DaemonsInv H sessionId thresholds offset queued
      { state with files := state.files.snapshot H sessionId process env } := by
  obtain ⟨doc, rfl, _, hholds⟩ := hinv.holds
  unfold SharedState.snapshot
  refine hinv.setPhase ?_
  cases hsnapshot : snapshotTarget H env state.files.root
      (sessionFilename H doc.sessionId) with
  | error failure => trivial
  | ok found =>
      cases found with
      | none => trivial
      | some target =>
          obtain ⟨values, hlookup, _, hvalid⟩ := snapshotTarget_eq_some hsnapshot
          obtain ⟨hfile, hnamed⟩ := runtimeTargetFromValues_eq_ok hvalid
          have hsession := sessionFilename_injective H hnamed
          have hheld : state.files.root.runtime.lookup (sessionFilename H doc.sessionId) =
              some (.ok doc.values) := hholds
          rw [hheld] at hlookup
          obtain rfl := Except.ok.inj (Option.some.inj hlookup)
          have hcomplete : target.parentComplete = false := by
            change runtimeTargetFromValues H env.resolve (doc.path H) doc.values = _ at hvalid
            rw [doc.runtimeTargetFromValues_values] at hvalid
            cases hresolve : env.resolve doc.transcript.path with
            | error failure =>
                rw [hresolve] at hvalid
                cases hvalid
            | ok rollout =>
                rw [hresolve] at hvalid
                obtain rfl := Except.ok.inj hvalid
                rfl
          dsimp only
          split_ifs with hfailed hdone hrunning
          · trivial
          · rw [hcomplete] at hdone
            cases hdone
          · trivial
          · exact ⟨hsession, hfile⟩

theorem daemonsInv_read (hinv : DaemonsInv H sessionId thresholds offset queued state)
    (rollout : String → Except Failure RolloutFile) :
    DaemonsInv H sessionId thresholds offset queued
      { state with files := state.files.read H format process rollout } := by
  unfold SharedState.read
  split
  · next target activation hphase =>
      have hof := hinv.phases process
      rw [hphase] at hof
      refine hinv.setPhase ?_
      cases hread : readTargetBatch H format rollout state.files.root target with
      | error failure =>
          cases failure with
          | rolloutCorrupt reason => exact hof
          | rolloutRotated => exact hof
          | raised failure => trivial
      | ok batch => exact ⟨hof.1, hof.2, Option.some_ne_none batch⟩
  · exact hinv

/-- Delivering what was queued records no mark. -/
theorem daemonsInv_flush (hinv : DaemonsInv H sessionId thresholds offset queued state)
    (sink : LifecycleNotification → Delivery) :
    (∀ mark, (state.flush H process sink).log.hasEvent (markEventId H sessionId mark) =
      state.log.hasEvent (markEventId H sessionId mark)) ∧
      DaemonsInv H sessionId thresholds offset queued (state.flush H process sink) := by
  have hmarks : ∀ mark, (state.flush H process sink).log.hasEvent
      (markEventId H sessionId mark) =
        state.log.hasEvent (markEventId H sessionId mark) := fun mark =>
    flushAll_hasEvent H sink
      (fun source => notificationFailureEventId_ne_mark H source sessionId mark) _ _
  have hprocess : ∀ other, ((state.flush H process sink).files.process other).phase =
        (state.files.process other).phase ∧
      ((state.flush H process sink).engine other).watcher.detectors =
        (state.engine other).watcher.detectors ∧
      ((state.flush H process sink).engine other).watcher.openCalls =
        (state.engine other).watcher.openCalls := by
    intro other
    unfold DaemonsState.flush DaemonsState.engine SharedState.setProcess
    by_cases hother : other = process
    · subst hother
      dsimp only
      rw [Function.update_self]
      exact ⟨rfl, rfl, rfl⟩
    · dsimp only
      rw [Function.update_of_ne hother]
      exact ⟨rfl, rfl, rfl⟩
  refine ⟨hmarks, hinv.kept rfl (fun other => ?_)
    (shared_congr rfl hmarks fun other => (hprocess other).2) ⟨rfl, rfl⟩⟩
  rw [(hprocess other).1]
  exact hinv.phases other

/-- A daemon that starts anew remembers nothing. -/
theorem daemonsInv_crash (hinv : DaemonsInv H sessionId thresholds offset queued state) :
    DaemonsInv H sessionId thresholds offset queued
      { state with files := state.files.crash process state.log } := by
  obtain ⟨hholds, hphases, hconsistent⟩ := hinv
  refine ⟨hholds, fun other => ?_, hconsistent.forget process ?_⟩
  · unfold SharedState.crash SharedState.setProcess
    by_cases hother : other = process
    · subst hother
      dsimp only
      rw [Function.update_self]
      trivial
    · dsimp only
      rw [Function.update_of_ne hother]
      exact hphases other
  · unfold DaemonsState.shared DaemonsState.engine SharedState.crash SharedState.setProcess
    ext1
    · rfl
    · rfl
    · rfl
    · funext other
      by_cases hother : other = process
      · subst hother
        simp only [Function.update_self]
        rfl
      · simp only [Function.update_of_ne hother]
    · funext other
      by_cases hother : other = process
      · subst hother
        simp only [Function.update_self]
        rfl
      · simp only [Function.update_of_ne hother]

/-- **One step.**  An informed step suspects silences only, and keeps the invariant. -/
theorem daemonsInv_step {step : DaemonStep}
    (hinv : DaemonsInv H sessionId thresholds offset queued state)
    (hclocks : step.ClocksAgree offset) (hwrite : step.Writes H sessionId)
    (hinformed : Informed H sessionId thresholds state step) :
    SuspectsSilence H format sessionId thresholds.warning state step ∧
      DaemonsInv H sessionId thresholds offset
        (queued ++ (state.step H format sessionId step).2.filterMap notificationMark)
        (state.step H format sessionId step).1 := by
  -- a step that leaves the marks of the log suspects nothing
  have hnothing : ∀ {step : DaemonStep}, (∀ mark,
      (state.step H format sessionId step).1.log.hasEvent (markEventId H sessionId mark) =
        state.log.hasEvent (markEventId H sessionId mark)) →
      SuspectsSilence H format sessionId thresholds.warning state step := by
    intro step hmarks epoch hbefore hafter
    rw [hmarks, hbefore] at hafter
    cases hafter
  cases step with
  | commit process env => exact daemonsInv_commit hinv hclocks hwrite hinformed
  | snapshot process env =>
      refine ⟨hnothing fun _ => rfl, ?_⟩
      rw [DaemonsState.step, List.filterMap_nil, List.append_nil]
      exact daemonsInv_snapshot hinv
  | read process rollout =>
      refine ⟨hnothing fun _ => rfl, ?_⟩
      rw [DaemonsState.step, List.filterMap_nil, List.append_nil]
      exact daemonsInv_read hinv rollout
  | flush process sink =>
      obtain ⟨hmarks, hkept⟩ := @daemonsInv_flush H _ _ _ _ _ process hinv sink
      refine ⟨hnothing hmarks, ?_⟩
      rw [DaemonsState.step, List.filterMap_nil, List.append_nil]
      exact hkept
  | crash process =>
      refine ⟨hnothing fun _ => rfl, ?_⟩
      rw [DaemonsState.step, List.filterMap_nil, List.append_nil]
      exact daemonsInv_crash hinv

theorem queuedMarks_cons (first : List PendingNotification)
    (rest : List (List PendingNotification)) :
    queuedMarks (first :: rest) = first.filterMap notificationMark ++ queuedMarks rest := by
  unfold queuedMarks
  rw [List.flatten_cons, List.filterMap_append]

/-- **Runs.**  In a run of informed steps every step suspects silences only, and the invariant
    holds in every state it reaches. -/
theorem daemonsInv_run {steps : List DaemonStep}
    (hstart : DaemonsInv H sessionId thresholds offset queued state)
    (hclocks : ∀ step ∈ steps, step.ClocksAgree offset)
    (hwrite : ∀ step ∈ steps, step.Writes H sessionId)
    (hinformed : (daemonsMachine H format sessionId).Guarded (Informed H sessionId thresholds)
      state steps) :
    (daemonsMachine H format sessionId).Guarded
        (SuspectsSilence H format sessionId thresholds.warning) state steps ∧
      ∀ past, past <+: steps → DaemonsInv H sessionId thresholds offset
        (queued ++ queuedMarks ((daemonsMachine H format sessionId).outputs state past))
        ((daemonsMachine H format sessionId).after state past) := by
  have hnil : queued ++ queuedMarks [] = queued := List.append_nil queued
  induction steps generalizing state queued with
  | nil =>
      refine ⟨trivial, fun past hpast => ?_⟩
      rw [List.prefix_nil.mp hpast, Machine.outputs_nil, hnil]
      exact hstart
  | cons step rest ih =>
      obtain ⟨hhere, hrest⟩ := hinformed
      obtain ⟨hsilence, hnext⟩ := @daemonsInv_step _ H format _ _ _ _ _ _ hstart
        (hclocks step List.mem_cons_self) (hwrite step List.mem_cons_self) hhere
      obtain ⟨hguarded, hreached⟩ := ih hnext
        (fun later hlater => hclocks later (List.mem_cons_of_mem _ hlater))
        (fun later hlater => hwrite later (List.mem_cons_of_mem _ hlater)) hrest
        (List.append_nil _)
      refine ⟨⟨hsilence, hguarded⟩, fun past hpast => ?_⟩
      cases past with
      | nil =>
          rw [Machine.outputs_nil, hnil]
          exact hstart
      | cons first later =>
          obtain ⟨rfl, hlater⟩ := List.cons_prefix_cons.mp hpast
          have hthen := hreached later hlater
          rw [List.append_assoc] at hthen
          rw [Machine.outputs_cons, queuedMarks_cons]
          exact hthen

end Invariant

/-- Once each: of what a run queued, the recoveries are those of the suspected epochs that are
    over. -/
def RecoversOnce (H : Digest) (sessionId : String) (state : DaemonsState) (queued : List Mark) :
    Prop :=
  ∀ epoch, queued.count ⟨.recovered, epoch⟩ =
    if state.log.hasEvent (markEventId H sessionId ⟨.suspected, epoch⟩) = true ∧
        epoch < persistedEpoch H state.files.root sessionId then 1 else 0

theorem DaemonsInv.recoversOnce {H : Digest} {sessionId : String} {thresholds : Thresholds}
    {offset : Int} {queued : List Mark} {state : DaemonsState}
    (hinv : DaemonsInv H sessionId thresholds offset queued state) :
    RecoversOnce H sessionId state queued := by
  intro epoch
  rw [hinv.consistent.nodup.count]
  exact if_congr ((hinv.consistent.listed _).trans (hinv.consistent.recovered epoch)) rfl rfl

/-- Whether a commit of what a daemon has read would be informed. -/
def DaemonsState.informedCommit (H : Digest) (sessionId : String) (thresholds : Thresholds)
    (state : DaemonsState) (process : Nat) (env : TickEnvironment) : Bool :=
  match (state.files.process process).phase with
  | .taken _ _ (some batch) _ =>
      decide (persistedSilenceStart H state.files.root sessionId ≤ env.context.wallTime) &&
        (!state.overtaken process ||
          decide (((state.shared H sessionId).view process).MemoryUnused thresholds
            (env.input batch)))
  | _ => true

theorem informed_commit {H : Digest} {sessionId : String} {thresholds : Thresholds}
    {state : DaemonsState} {process : Nat} {env : TickEnvironment}
    (hinformed : state.informedCommit H sessionId thresholds process env = true) :
    Informed H sessionId thresholds state (.commit process env) := by
  intro target activation batch origin hphase _ _
  unfold DaemonsState.informedCommit at hinformed
  rw [hphase] at hinformed
  obtain ⟨hanchor, hmemory⟩ := Bool.and_eq_true_iff.mp hinformed
  refine ⟨of_decide_eq_true hanchor, fun hovertaken => ?_⟩
  rw [hovertaken, Bool.not_true, Bool.false_or] at hmemory
  exact of_decide_eq_true hmemory

/-- Every line is an item, at the instant that is a hundred times the line's length. -/
def lengthFormat : RecordFormat Nat where
  loadLine line := .ok (some line.length)
  parseRolloutEvent length := some { kind := .item, occurredAt := 100 * length }

/-- The line of an item. -/
def lineOf (length : Nat) : List UInt8 := List.replicate (length - 1) 48 ++ [newline]

/-- The steps of one tick, with nothing between them. -/
def tickSteps (process : Nat) (instant : Int) (content : List UInt8) : List DaemonStep :=
  [.snapshot process (.delivering ⟨instant, instant⟩ []),
    .read process fun _ => .ok ⟨0, 0, content⟩,
    .commit process (.delivering ⟨instant, instant⟩ []), .flush process fun _ => .delivered]

theorem tickSteps_delivering (H : Digest) (sessionId : String) (process : Nat) (instant : Int)
    (content : List UInt8) : ∀ step ∈ tickSteps process instant content,
      step.ClocksAgree 0 ∧ step.Writes H sessionId := by
  intro step hmem
  simp only [tickSteps, List.mem_cons, List.not_mem_nil, or_false] at hmem
  rcases hmem with rfl | rfl | rfl | rfl
  · exact ⟨trivial, trivial⟩
  · exact ⟨trivial, trivial⟩
  · exact ⟨(Int.add_zero instant).symm, rfl⟩
  · exact ⟨trivial, trivial⟩

/-- One daemon ticks before and after the other counts progress, and each of them suspects or
    finds suspected the silence after it. -/
def orderlyTicks : List DaemonStep :=
  tickSteps 0 0 [] ++ tickSteps 1 900 (lineOf 9) ++ tickSteps 0 950 (lineOf 9) ++
    tickSteps 1 1900 (lineOf 9) ++ tickSteps 0 1950 (lineOf 9) ++
      tickSteps 1 2000 (lineOf 9 ++ lineOf 20)

theorem orderlyTicks_informed :
    (daemonsMachine .transparent lengthFormat "s").Guarded
      (Informed .transparent "s" sampleRequest.thresholds) (DaemonsState.initial sampleRoot [])
      orderlyTicks := by
  refine ⟨trivial, trivial, informed_commit ?_, trivial, trivial, trivial, informed_commit ?_,
    trivial, trivial, trivial, informed_commit ?_, trivial, trivial, trivial, informed_commit ?_,
    trivial, trivial, trivial, informed_commit ?_, trivial, trivial, trivial, informed_commit ?_,
    trivial, trivial⟩ <;> decide +kernel

/-- **Daemons on one root.**  A session is started and nothing of it is in the log.  Any number
    of daemons snapshot, read, commit, deliver and start anew in any order.  If every commit is
    informed, a suspicion is recorded only when no progress was counted within the warning time
    before it, and in every state every suspected epoch that is over was recovered once. -/
theorem daemons_suspectSilence {ρ : Type} {H : Digest} {format : RecordFormat ρ}
    {request : StartRequest} {faults : StartFaults} {root root' : StateRoot}
    {wallTime offset : Int} {log : DiagnosticLog} {steps : List DaemonStep}
    (hstart : startNotificationSession H faults root request wallTime = (root', .ok false))
    (hlog : ∀ mark, log.hasEvent (markEventId H request.sessionId mark) = false)
    (hclocks : ∀ step ∈ steps, step.ClocksAgree offset)
    (hwrite : ∀ step ∈ steps, step.Writes H request.sessionId)
    (hinformed : (daemonsMachine H format request.sessionId).Guarded
      (Informed H request.sessionId request.thresholds) (DaemonsState.initial root' log) steps) :
    (daemonsMachine H format request.sessionId).Guarded
        (SuspectsSilence H format request.sessionId request.thresholds.warning)
        (DaemonsState.initial root' log) steps ∧
      ∀ past, past <+: steps → RecoversOnce H request.sessionId
        ((daemonsMachine H format request.sessionId).after (DaemonsState.initial root' log) past)
        (queuedMarks ((daemonsMachine H format request.sessionId).outputs
          (DaemonsState.initial root' log) past)) := by
  obtain ⟨transcript, _, _, rfl⟩ := startNotificationSession_fresh hstart
  have hinit : DaemonsInv H request.sessionId request.thresholds offset []
      (DaemonsState.initial (root.setRuntime (sessionFilename H request.sessionId)
        (SessionDocument.started request transcript wallTime).values) log) :=
    ⟨⟨SessionDocument.started request transcript wallTime, rfl, rfl, root.setRuntime_lookup _ _⟩,
      fun _ => trivial, SharedTarget.Consistent.initial (fun _ => rfl) hlog⟩
  obtain ⟨hsilence, hreached⟩ := daemonsInv_run hinit hclocks hwrite hinformed
  exact ⟨hsilence, fun past hpast => (hreached past hpast).recoversOnce⟩

/-- Two daemons that take turns: one counts progress, and the silence after it is suspected and
    recovered. -/
theorem daemons_suspectSilence_sample :
    (daemonsMachine .transparent lengthFormat "s").Guarded
        (SuspectsSilence .transparent lengthFormat "s" sampleRequest.thresholds.warning)
        (DaemonsState.initial sampleRoot []) orderlyTicks ∧
      ∀ past, past <+: orderlyTicks → RecoversOnce .transparent "s"
        ((daemonsMachine .transparent lengthFormat "s").after (DaemonsState.initial sampleRoot [])
          past)
        (queuedMarks ((daemonsMachine .transparent lengthFormat "s").outputs
          (DaemonsState.initial sampleRoot []) past)) := by
  have htick : ∀ step ∈ orderlyTicks, step.ClocksAgree 0 ∧ step.Writes .transparent "s" := by
    unfold orderlyTicks
    simp only [List.forall_mem_append]
    have hticks := tickSteps_delivering .transparent "s"
    exact ⟨⟨⟨⟨⟨hticks _ _ _, hticks _ _ _⟩, hticks _ _ _⟩, hticks _ _ _⟩, hticks _ _ _⟩,
      hticks _ _ _⟩
  exact @daemons_suspectSilence _ .transparent lengthFormat sampleRequest sampleStart .empty
    sampleRoot 0 0 [] orderlyTicks rfl (fun _ => rfl) (fun step hmem => (htick step hmem).1)
    (fun step hmem => (htick step hmem).2) orderlyTicks_informed

/-- One daemon's silence is counted from its own last progress, although the other has counted
    progress since; and what it remembers of a warning recovers an epoch that nobody
    suspected. -/
theorem daemons_inventStalls :
    (¬ (daemonsMachine .transparent lengthFormat "s").Guarded
        (SuspectsSilence .transparent lengthFormat "s" sampleRequest.thresholds.warning)
        (DaemonsState.initial sampleRoot [])
        (tickSteps 0 0 [] ++ tickSteps 1 900 (lineOf 9) ++ tickSteps 0 1000 (lineOf 9))) ∧
      ¬ RecoversOnce .transparent "s"
        ((daemonsMachine .transparent lengthFormat "s").after (DaemonsState.initial sampleRoot [])
          (tickSteps 0 0 [] ++ tickSteps 0 1000 [] ++ tickSteps 1 1500 (lineOf 15) ++
            tickSteps 0 1600 (lineOf 15 ++ lineOf 16)))
        (queuedMarks ((daemonsMachine .transparent lengthFormat "s").outputs
          (DaemonsState.initial sampleRoot [])
          (tickSteps 0 0 [] ++ tickSteps 0 1000 [] ++ tickSteps 1 1500 (lineOf 15) ++
            tickSteps 0 1600 (lineOf 15 ++ lineOf 16)))) := by
  constructor
  · intro hguarded
    have hsilence := @Machine.Guarded.at_prefix _ _ _ (daemonsMachine .transparent lengthFormat "s")
      _ _ _ (tickSteps 0 0 [] ++ tickSteps 1 900 (lineOf 9) ++
        (tickSteps 0 1000 (lineOf 9)).take 2) _ hguarded ⟨_, rfl⟩
    have hlate := hsilence 1 (by decide +kernel) (by decide +kernel) 900 (by decide +kernel)
    exact absurd hlate (by decide)
  · intro honce
    exact absurd (honce 1) (by decide +kernel)

end CodexMustWork
