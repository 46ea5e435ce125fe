import CodexMustWork.Library.Machine
import CodexMustWork.SessionDocument

/-!
# One session among several processes

Each Codex task starts its own MCP process, and nothing makes a state root
exclusive.  The steps here are the pieces between which processes interleave: a
start, a mark, the two unlinks of a removal, and the locked snapshot, the
unlocked read and the locked commit of a tick.  A process can crash between any
two of them.

The state counts the activations of the session and remembers in which of them
the stored cursor was created, so that a run can say when a cursor or a batch of
one activation reaches another.
-/

namespace CodexMustWork

/-! ### Steps -/

section Recording

variable {σ : Type}

/-- A processor that also remembers that it ran. -/
def recordingProcessor (processor : TargetProcessor σ) : TargetProcessor (σ × Bool) :=
  fun target values events memory =>
    let (left, result) := processor target values events memory.1
    ((left, true), result)

end Recording

/-- What a process holds of the session between two steps of a tick.  The numbers are
    activations: that of the snapshot, and that in which the cursor of the batch was
    created. -/
inductive TickPhase where
  | idle
  | snapped (target : RuntimeTarget) (activation : Nat)
  | taken (target : RuntimeTarget) (activation : Nat) (batch : Option TargetBatch) (origin : Nat)
  | failed (target : RuntimeTarget) (code : DiagnosticCode)

/-- One MCP process: its engine, its tick, and whether it is between the two unlinks. -/
structure SharedProcess where
  engine : WatcherEngine
  phase : TickPhase
  removing : Bool

def SharedProcess.fresh : SharedProcess := ⟨WatcherEngine.fresh [], .idle, false⟩

/-- A state root shared by processes. -/
structure SharedState where
  root : StateRoot
  activation : Nat
  cursorOrigin : Nat
  process : Nat → SharedProcess

inductive SharedStep (sessionId : String) where
  | start (faults : StartFaults) (now : Int) (request : StartRequest)
      (own : request.sessionId = sessionId)
  | mark (faults : MutationFaults)
  | unlinkRuntime (process : Nat) (fault : Option Failure)
  | unlinkCursor (process : Nat) (fault : Option Failure)
  | snapshot (process : Nat) (env : TickEnvironment)
  | read (process : Nat) (rollout : String → Except Failure RolloutFile)
  | commit (process : Nat) (env : TickEnvironment)
  | crash (process : Nat) (log : DiagnosticLog)

namespace SharedState

variable {ρ : Type} (H : Digest) (format : RecordFormat ρ) (sessionId : String)
  (state : SharedState)

/-- Nothing has happened yet: what the files hold is activation 0. -/
def initial (root : StateRoot) : SharedState := ⟨root, 0, 0, fun _ => .fresh⟩

def setProcess (process : Nat) (next : SharedProcess) : SharedState :=
  { state with process := Function.update state.process process next }

def setPhase (process : Nat) (phase : TickPhase) : SharedState :=
  state.setProcess process { state.process process with phase }

@[simp] theorem setProcess_process (process : Nat) (next : SharedProcess) :
    (state.setProcess process next).process process = next := by
  simp [setProcess]

@[simp] theorem setProcess_root (process : Nat) (next : SharedProcess) :
    (state.setProcess process next).root = state.root := rfl

@[simp] theorem setPhase_process (process : Nat) (phase : TickPhase) :
    (state.setPhase process phase).process process = { state.process process with phase } := by
  simp [setPhase]

@[simp] theorem setPhase_root (process : Nat) (phase : TickPhase) :
    (state.setPhase process phase).root = state.root := rfl

@[simp] theorem setPhase_activation (process : Nat) (phase : TickPhase) :
    (state.setPhase process phase).activation = state.activation := rfl

@[simp] theorem setPhase_cursorOrigin (process : Nat) (phase : TickPhase) :
    (state.setPhase process phase).cursorOrigin = state.cursorOrigin := rfl

/-- A start that creates the document begins an activation. -/
def start (faults : StartFaults) (now : Int) (request : StartRequest) : SharedState :=
  match startNotificationSession H faults state.root request now with
  | (root, .ok false) => { state with root, activation := state.activation + 1 }
  | (root, _) => { state with root }

def mark (faults : MutationFaults) : SharedState :=
  { state with root := (markNotificationSessionComplete H faults state.root sessionId).1 }

/-- The first `unlink` of `remove_notification_session`. -/
def unlinkRuntime (process : Nat) (fault : Option Failure) : SharedState :=
  match fault with
  | some _ => state
  | none =>
      { state with
        root := { state.root with
          runtime := state.root.runtime.erase (sessionFilename H sessionId) }
      }.setProcess process { state.process process with removing := true }

/-- The second, which comes only if the first did not raise. -/
def unlinkCursor (process : Nat) (fault : Option Failure) : SharedState :=
  if (state.process process).removing then
    match fault with
    | some _ => state.setProcess process { state.process process with removing := false }
    | none =>
        { state with
          root := { state.root with
            cursors := state.root.cursors.erase (sessionFilename H sessionId) }
        }.setProcess process { state.process process with removing := false }
  else state

/-- The tick of a process comes to the session's file. -/
def snapshot (process : Nat) (env : TickEnvironment) : SharedState :=
  state.setPhase process
    (match snapshotTarget H env state.root (sessionFilename H sessionId) with
    | .error _ => .idle
    | .ok none => .idle
    | .ok (some target) =>
        if target.sessionId ∈ (state.process process).engine.failedSessions then .idle
        else if target.parentComplete then .taken target state.activation none state.activation
        else if !target.hasRunning then .idle
        else .snapped target state.activation)

/-- The unlocked read.  Without a stored cursor the batch has one created now. -/
def read (process : Nat) (rollout : String → Except Failure RolloutFile) : SharedState :=
  match (state.process process).phase with
  | .snapped target activation =>
      state.setPhase process
        (match readTargetBatch H format rollout state.root target with
        | .error (.rolloutCorrupt _) => .failed target .rolloutCorrupt
        | .error .rolloutRotated => .failed target .rolloutRotated
        | .error (.raised _) => .idle
        | .ok batch => .taken target activation (some batch)
            (if batch.previousCursor = none then state.activation else state.cursorOrigin))
  | _ => state

/-- The commit of a batch, by a processor that remembers that it ran. -/
def commitBatchOf (process : Nat) (env : TickEnvironment) (target : RuntimeTarget)
    (batch : Option TargetBatch) : Mutation (WatcherEngine × Bool) (Option CommitResult) :=
  commitRuntimeSnapshot H env.resolve (env.commitFaults target.runtimeFile) state.root target
    batch (recordingProcessor (engineProcessor H env.context))
    ((state.process process).engine, false)

/-- The locked end of a tick: the commit, or the quarantine of a rollout that failed. -/
def commit (process : Nat) (env : TickEnvironment) : SharedState :=
  match (state.process process).phase with
  | .taken target _ batch origin =>
      let committed := state.commitBatchOf H process env target batch
      { state with
        root := committed.root
        cursorOrigin :=
          if committed.root.cursors.lookup (sessionFilename H sessionId) =
            state.root.cursors.lookup (sessionFilename H sessionId) then state.cursorOrigin
          else origin
      }.setProcess process
        { state.process process with engine := committed.memory.1, phase := .idle }
  | .failed target code =>
      let failed := recordRolloutFailure H env state.root target code
        (state.process process).engine
      { state with root := failed.root }.setProcess process
        { state.process process with engine := failed.memory, phase := .idle }
  | _ => state

/-- A process that starts again remembers nothing. -/
def crash (process : Nat) (log : DiagnosticLog) : SharedState :=
  state.setProcess process ⟨WatcherEngine.fresh log, .idle, false⟩

def step (state : SharedState) : SharedStep sessionId → SharedState
  | .start faults now request _ => state.start H faults now request
  | .mark faults => state.mark H sessionId faults
  | .unlinkRuntime process fault => state.unlinkRuntime H sessionId process fault
  | .unlinkCursor process fault => state.unlinkCursor H sessionId process fault
  | .snapshot process env => state.snapshot H sessionId process env
  | .read process rollout => state.read H format process rollout
  | .commit process env => state.commit H sessionId process env
  | .crash process log => state.crash process log

end SharedState

/-- The processes of a session, one step at a time. -/
def sharedMachine {ρ : Type} (H : Digest) (format : RecordFormat ρ) (sessionId : String) :
    Machine SharedState (SharedStep sessionId) Unit :=
  ⟨fun state input => (state.step H format sessionId input, ())⟩

/-! ### Steps that nothing comes between -/

section Uninterrupted

variable {ρ : Type} {H : Digest} {format : RecordFormat ρ} {sessionId : String}
  (state : SharedState) (process : Nat)

/-- The recorded commit is the commit of a tick. -/
theorem commitBatchOf_eq_commitTick (env : TickEnvironment) (target : RuntimeTarget)
    (batch : Option TargetBatch) :
    (state.commitBatchOf H process env target batch).root =
        (commitTick H env state.root target batch (state.process process).engine).root ∧
      (state.commitBatchOf H process env target batch).memory.1 =
        (commitTick H env state.root target batch (state.process process).engine).memory := by
  unfold SharedState.commitBatchOf commitTick commitRuntimeSnapshot
  refine (fun hview => ⟨(mutateExistingState_map Prod.fst hview).1,
    (mutateExistingState_map Prod.fst hview).2.1⟩) ?_
  intro values
  unfold processSnapshot
  dsimp only [recordingProcessor]
  split_ifs
  · rfl
  · cases runtimeTargetFromValues H env.resolve target.runtimeFile values with
    | error failure => rfl
    | ok current =>
        dsimp only
        split_ifs
        · rfl
        · cases engineProcessor H env.context current values
            ((batch.map TargetBatch.events).getD []) (state.process process).engine with
          | mk left outcome => cases outcome <;> rfl

/-- **One tick.**  The three steps of a tick that nothing comes between are the tick of the
    session's file. -/
theorem uninterrupted_tick (env : TickEnvironment)
    (rollout : String → Except Failure RolloutFile)
    (hreads : env.read = readTargetBatch H format rollout) :
    (((state.snapshot H sessionId process env).read H format process rollout).commit H sessionId
        process env).root =
        (tickFile H env state.root (state.process process).engine
          (sessionFilename H sessionId)).root ∧
      ((((state.snapshot H sessionId process env).read H format process rollout).commit H
        sessionId process env).process process).engine =
        (tickFile H env state.root (state.process process).engine
          (sessionFilename H sessionId)).memory := by
  unfold tickFile SharedState.snapshot
  cases hsnapshot : snapshotTarget H env state.root (sessionFilename H sessionId) with
  | error failure => simp [SharedState.read, SharedState.commit]
  | ok found =>
      cases found with
      | none => simp [SharedState.read, SharedState.commit]
      | some target =>
          obtain ⟨values, _, _, hvalid⟩ := snapshotTarget_eq_some hsnapshot
          dsimp only
          split_ifs with hfailed hcomplete hidle
          · simp [SharedState.read, SharedState.commit]
          · simpa [SharedState.read, SharedState.commit] using
              commitBatchOf_eq_commitTick (H := H) (state.setPhase process
                (.taken target state.activation none state.activation)) process env target none
          · simp [SharedState.read, SharedState.commit]
          · rw [hreads]
            cases hread : readTargetBatch H format rollout state.root target with
            | error failure =>
                cases failure with
                | rolloutCorrupt reason => simp [SharedState.read, SharedState.commit, hread, failTick]
                | rolloutRotated => simp [SharedState.read, SharedState.commit, hread, failTick]
                | raised failure => simp [SharedState.read, SharedState.commit, hread]
            | ok batch =>
                simpa [SharedState.read, SharedState.commit, hread] using
                  commitBatchOf_eq_commitTick (H := H) ((state.setPhase process
                    (.snapped target state.activation)).setPhase process
                      (.taken target state.activation (some batch)
                        (if batch.previousCursor = none then state.activation
                          else state.cursorOrigin))) process env target (some batch)

/-- The two unlinks of a removal that nothing comes between. -/
theorem uninterrupted_removal (faults : RemoveFaults)
    (hidle : (state.process process).removing = false) :
    ((state.unlinkRuntime H sessionId process faults.runtime).unlinkCursor H sessionId process
        faults.cursor).root =
      (removeNotificationSession H faults state.root sessionId).1 := by
  unfold SharedState.unlinkRuntime SharedState.unlinkCursor removeNotificationSession
  cases faults.runtime with
  | some failure =>
      dsimp only
      rw [hidle, if_neg Bool.false_ne_true]
  | none =>
      simp only [SharedState.setProcess_process, if_true]
      cases faults.cursor with
      | some failure => rfl
      | none => rfl

end Uninterrupted

/-! ### What must hold, and when -/

section Conditions

variable (H : Digest) (sessionId : String)

/-- The revision of the snapshot is that of the enabled session the file holds now. -/
def RevisionCurrent (resolve : String → Except Failure String) (root : StateRoot)
    (target : RuntimeTarget) : Prop :=
  ∃ values current, root.runtime.lookup target.runtimeFile = some (.ok values) ∧
    values.enabled = .value true ∧
    runtimeTargetFromValues H resolve target.runtimeFile values = .ok current ∧
    current.revision = target.revision

/-- A read uses only a cursor created in the activation of its snapshot; a commit runs the
    processor or saves a cursor only in the activation of its snapshot and of its batch. -/
def WithinActivation (state : SharedState) : SharedStep sessionId → Prop
  | .read process _ => ∀ target activation cursor,
      (state.process process).phase = .snapped target activation →
      loadCursor H state.root target.sessionId = .ok (some cursor) →
      state.cursorOrigin = activation
  | .commit process env => ∀ target activation batch origin,
      (state.process process).phase = .taken target activation batch origin →
      ((state.commitBatchOf H process env target batch).memory.2 = true ∨
        (state.commitBatchOf H process env target batch).root.cursors.lookup
            (sessionFilename H sessionId) ≠
          state.root.cursors.lookup (sessionFilename H sessionId)) →
      activation = state.activation ∧ origin = state.activation
  | _ => True

/-- A start finds no cursor of before; a read whose snapshot is of an earlier activation
    finds none either; a commit whose snapshot is of an earlier activation finds another
    revision. -/
def ActivationsApart (state : SharedState) : SharedStep sessionId → Prop
  | .start faults now request _ =>
      (startNotificationSession H faults state.root request now).2 = .ok false →
      state.root.cursors.lookup (sessionFilename H sessionId) = none
  | .read process _ => ∀ target activation,
      (state.process process).phase = .snapped target activation →
      activation = state.activation ∨
        state.root.cursors.lookup (sessionFilename H sessionId) = none
  | .commit process env => ∀ target activation batch origin,
      (state.process process).phase = .taken target activation batch origin →
      activation = state.activation ∨ ¬ RevisionCurrent H env.resolve state.root target
  | _ => True

end Conditions

/-! ### The invariant -/

/-- What a process holds is of the session, of an activation that has begun, and of a
    cursor no older than its snapshot. -/
def TickPhase.Within (H : Digest) (sessionId : String) (activation : Nat) : TickPhase → Prop
  | .snapped target begun =>
      target.sessionId = sessionId ∧ target.runtimeFile = sessionFilename H sessionId ∧
        begun ≤ activation
  | .taken target begun _ origin =>
      target.sessionId = sessionId ∧ target.runtimeFile = sessionFilename H sessionId ∧
        begun ≤ origin ∧ origin ≤ activation
  | _ => True

theorem TickPhase.Within.mono {H : Digest} {sessionId : String} {activation later : Nat}
    {phase : TickPhase} (hwithin : phase.Within H sessionId activation)
    (hle : activation ≤ later) : phase.Within H sessionId later := by
  cases phase with
  | idle => trivial
  | snapped target begun => exact ⟨hwithin.1, hwithin.2.1, hwithin.2.2.trans hle⟩
  | taken target begun batch origin =>
      exact ⟨hwithin.1, hwithin.2.1, hwithin.2.2.1, hwithin.2.2.2.trans hle⟩
  | failed target code => trivial

/-- A stored cursor was created in the latest activation. -/
structure CursorCurrent (H : Digest) (sessionId : String) (state : SharedState) : Prop where
  stored : state.root.cursors.lookup (sessionFilename H sessionId) ≠ none →
    state.cursorOrigin = state.activation
  phases : ∀ process, (state.process process).phase.Within H sessionId state.activation

section Invariant

variable {ρ : Type} {H : Digest} {format : RecordFormat ρ} {sessionId : String}
  {state : SharedState}

theorem cursorCurrent_initial (root : StateRoot) :
    CursorCurrent H sessionId (SharedState.initial root) :=
  ⟨fun _ => rfl, fun _ => trivial⟩

/-- One process changes, and what it then holds is within. -/
theorem CursorCurrent.setProcess (hcurrent : CursorCurrent H sessionId state) (process : Nat)
    {next : SharedProcess} (hnext : next.phase.Within H sessionId state.activation) :
    CursorCurrent H sessionId (state.setProcess process next) := by
  refine ⟨hcurrent.stored, ?_⟩
  intro other
  by_cases hsame : other = process
  · subst hsame
    simpa [SharedState.setProcess] using hnext
  · simpa [SharedState.setProcess, hsame] using hcurrent.phases other

/-- The files change, but not the cursor of the session. -/
theorem CursorCurrent.setRoot (hcurrent : CursorCurrent H sessionId state) {root : StateRoot}
    (hcursors : root.cursors.lookup (sessionFilename H sessionId) =
      state.root.cursors.lookup (sessionFilename H sessionId)) :
    CursorCurrent H sessionId { state with root } :=
  ⟨fun hsome => hcurrent.stored (hcursors ▸ hsome), hcurrent.phases⟩

theorem startNotificationSession_cursors (faults : StartFaults) (root : StateRoot)
    (request : StartRequest) (now : Int) :
    (startNotificationSession H faults root request now).1.cursors = root.cursors := by
  unfold startNotificationSession
  dsimp only
  split
  · rfl
  · split
    · rfl
    · split_ifs <;> rfl
    · split <;> rfl

theorem cursorCurrent_start (hcurrent : CursorCurrent H sessionId state) {faults : StartFaults}
    {now : Int} {request : StartRequest}
    (hfree : (startNotificationSession H faults state.root request now).2 = .ok false →
      state.root.cursors.lookup (sessionFilename H sessionId) = none) :
    CursorCurrent H sessionId (state.start H faults now request) := by
  have hcursors := startNotificationSession_cursors (H := H) faults state.root request now
  unfold SharedState.start
  cases hstart : startNotificationSession H faults state.root request now with
  | mk root result =>
      rw [hstart] at hfree hcursors
      dsimp only at hfree hcursors
      have hsame : root.cursors.lookup (sessionFilename H sessionId) =
          state.root.cursors.lookup (sessionFilename H sessionId) := by rw [hcursors]
      rcases result with failure | reused
      · exact hcurrent.setRoot hsame
      · cases reused with
        | true => exact hcurrent.setRoot hsame
        | false =>
            refine ⟨fun hsome => absurd (hsame.trans (hfree rfl)) hsome, ?_⟩
            intro process
            exact (hcurrent.phases process).mono (Nat.le_succ _)

theorem cursorCurrent_mark (hcurrent : CursorCurrent H sessionId state) (faults : MutationFaults) :
    CursorCurrent H sessionId (state.mark H sessionId faults) := by
  refine hcurrent.setRoot ?_
  unfold markNotificationSessionComplete
  dsimp only
  rw [mutateExistingState_noCommit_cursors]

theorem cursorCurrent_unlinkRuntime (hcurrent : CursorCurrent H sessionId state) (process : Nat)
    (fault : Option Failure) :
    CursorCurrent H sessionId (state.unlinkRuntime H sessionId process fault) := by
  unfold SharedState.unlinkRuntime
  cases fault with
  | some failure => exact hcurrent
  | none =>
      refine CursorCurrent.setProcess ?_ process (hcurrent.phases process)
      exact hcurrent.setRoot rfl

theorem cursorCurrent_unlinkCursor (hcurrent : CursorCurrent H sessionId state) (process : Nat)
    (fault : Option Failure) :
    CursorCurrent H sessionId (state.unlinkCursor H sessionId process fault) := by
  unfold SharedState.unlinkCursor
  split_ifs
  · cases fault with
    | some failure => exact hcurrent.setProcess process (hcurrent.phases process)
    | none =>
        refine CursorCurrent.setProcess ?_ process (hcurrent.phases process)
        exact ⟨fun hsome => absurd (AList.lookup_erase _ _) hsome, hcurrent.phases⟩
  · exact hcurrent

theorem cursorCurrent_snapshot (hcurrent : CursorCurrent H sessionId state) (process : Nat)
    (env : TickEnvironment) :
    CursorCurrent H sessionId (state.snapshot H sessionId process env) := by
  unfold SharedState.snapshot SharedState.setPhase
  refine hcurrent.setProcess process ?_
  dsimp only
  cases hsnapshot : snapshotTarget H env state.root (sessionFilename H sessionId) with
  | error failure => trivial
  | ok found =>
      cases found with
      | none => trivial
      | some target =>
          obtain ⟨values, _, _, hvalid⟩ := snapshotTarget_eq_some hsnapshot
          obtain ⟨hfile, hnamed⟩ := runtimeTargetFromValues_eq_ok hvalid
          have hsession := sessionFilename_injective H hnamed
          dsimp only
          split_ifs
          · trivial
          · exact ⟨hsession, hfile, le_rfl, le_rfl⟩
          · trivial
          · exact ⟨hsession, hfile, le_rfl⟩

theorem loadCursor_eq_some {root : StateRoot} {cursor : RolloutCursor}
    (hload : loadCursor H root sessionId = .ok (some cursor)) :
    root.cursors.lookup (sessionFilename H sessionId) ≠ none := by
  intro hnone
  unfold loadCursor at hload
  simp [hnone] at hload

/-- The batch of a read starts from the stored cursor. -/
theorem readTargetBatch_previousCursor {root : StateRoot} {target : RuntimeTarget}
    {rollout : String → Except Failure RolloutFile} {batch : TargetBatch}
    (hread : readTargetBatch H format rollout root target = .ok batch) :
    loadCursor H root target.sessionId = .ok batch.previousCursor := by
  unfold readTargetBatch at hread
  cases hload : loadCursor H root target.sessionId with
  | error failure => simp [hload] at hread
  | ok stored =>
      rw [hload] at hread
      dsimp only at hread
      split at hread
      · cases hread
      · split at hread
        · cases hread
          rfl
        · split at hread
          · cases hread
          · cases hread
            rfl

theorem cursorCurrent_read (hcurrent : CursorCurrent H sessionId state) (process : Nat)
    (rollout : String → Except Failure RolloutFile) :
    CursorCurrent H sessionId (state.read H format process rollout) := by
  unfold SharedState.read
  split
  · next target activation hphase =>
      have hwithin := hcurrent.phases process
      rw [hphase] at hwithin
      obtain ⟨rfl, hfile, hle⟩ := hwithin
      refine hcurrent.setProcess process ?_
      dsimp only
      cases hread : readTargetBatch H format rollout state.root target with
      | error failure => cases failure <;> trivial
      | ok batch =>
          have hload := readTargetBatch_previousCursor hread
          refine ⟨rfl, hfile, ?_⟩
          split_ifs with hnone
          · exact ⟨hle, le_rfl⟩
          · obtain ⟨cursor, hcursor⟩ := Option.ne_none_iff_exists'.mp hnone
            rw [hcursor] at hload
            rw [hcurrent.stored (loadCursor_eq_some hload)]
            exact ⟨hle, le_rfl⟩
  · exact hcurrent

/-! ### Commits -/

/-- A commit that does not get the lock, or whose snapshot has another revision, changes
    nothing. -/
theorem commitRuntimeSnapshot_unchanged {σ : Type} {root : StateRoot} {target : RuntimeTarget}
    {resolve : String → Except Failure String} {faults : MutationFaults}
    {batch : Option TargetBatch} {processor : TargetProcessor σ}
    {memory : σ} (hidle : faults.lock ≠ none ∨ ¬ RevisionCurrent H resolve root target) :
    (commitRuntimeSnapshot H resolve faults root target batch processor memory).root = root ∧
      (commitRuntimeSnapshot H resolve faults root target batch processor memory).memory =
        memory := by
  generalize hout : commitRuntimeSnapshot H resolve faults root target batch processor memory = out
  unfold commitRuntimeSnapshot at hout
  by_cases hlock : faults.lock = none
  · have hstale := hidle.resolve_left (not_not.mpr hlock)
    rcases mutateExistingState_cases hout with ⟨_, rfl⟩ | ⟨hroot, _, hmemory⟩ |
        ⟨original, values, result, hfile, hmutator, hroot, _⟩
    · exact ⟨rfl, rfl⟩
    · refine ⟨hroot, ?_⟩
      rcases hmemory with hsame | ⟨original, hfile, hsame⟩
      · exact hsame
      · rcases processSnapshot_memory H resolve target ((batch.map TargetBatch.events).getD [])
          processor memory original with hkept | ⟨henabled, current, hvalid, hrevision⟩
        · exact hsame.trans hkept
        · exact absurd ⟨original, current, hfile, henabled, hvalid, hrevision⟩ hstale
    · rcases processSnapshot_cases H resolve hmutator with
        ⟨hrejected, hsame, hkept, _⟩ | ⟨henabled, current, _, hvalid, hrevision, _⟩
      · rw [commitBatch_rejected _ _ _ _ _ hrejected] at hroot
        exact ⟨by rw [hroot, if_pos hsame], hkept⟩
      · exact absurd ⟨original, current, hfile, henabled, hvalid, hrevision⟩ hstale
  · obtain ⟨failure, hfailure⟩ := Option.ne_none_iff_exists'.mp hlock
    subst hout
    cases hfile : root.runtime.lookup target.runtimeFile with
    | none =>
        rw [mutateExistingState_of_absent hfile]
        exact ⟨rfl, rfl⟩
    | some file =>
        rw [mutateExistingState_of_lock hfile hfailure]
        exact ⟨rfl, rfl⟩

/-- A commit whose snapshot has another revision runs no processor and saves no cursor. -/
theorem commitBatchOf_stale {process : Nat} {env : TickEnvironment} {target : RuntimeTarget}
    {batch : Option TargetBatch}
    (hstale : ¬ RevisionCurrent H env.resolve state.root target) :
    (state.commitBatchOf H process env target batch).memory.2 = false ∧
      (state.commitBatchOf H process env target batch).root.cursors = state.root.cursors := by
  obtain ⟨hroot, hmemory⟩ := @commitRuntimeSnapshot_unchanged H _ state.root target env.resolve
    (env.commitFaults target.runtimeFile) batch (recordingProcessor (engineProcessor H env.context))
    ((state.process process).engine, false) (Or.inr hstale)
  unfold SharedState.commitBatchOf
  rw [hroot, hmemory]
  exact ⟨rfl, rfl⟩

theorem withinActivation_commit (hcurrent : CursorCurrent H sessionId state) {process : Nat}
    {env : TickEnvironment}
    (hapart : ActivationsApart H sessionId state (.commit process env)) :
    WithinActivation H sessionId state (.commit process env) := by
  intro target activation batch origin hphase htouched
  have hwithin := hcurrent.phases process
  rw [hphase] at hwithin
  obtain ⟨_, _, htaken, horigin⟩ := hwithin
  rcases hapart target activation batch origin hphase with rfl | hstale
  · exact ⟨rfl, le_antisymm horigin htaken⟩
  · obtain ⟨hran, hcursors⟩ := @commitBatchOf_stale H state process env target batch hstale
    rcases htouched with htouched | htouched
    · rw [hran] at htouched
      cases htouched
    · exact absurd (by rw [hcursors]) htouched

theorem cursorCurrent_commit (hcurrent : CursorCurrent H sessionId state) {process : Nat}
    {env : TickEnvironment}
    (hwithin : WithinActivation H sessionId state (.commit process env)) :
    CursorCurrent H sessionId (state.commit H sessionId process env) := by
  unfold SharedState.commit
  split
  · next target activation batch origin hphase =>
      apply CursorCurrent.setProcess
      · refine ⟨?_, hcurrent.phases⟩
        intro hsome
        dsimp only at hsome ⊢
        split_ifs with hsame
        · rw [hsame] at hsome
          exact hcurrent.stored hsome
        · exact (hwithin target activation batch origin hphase (Or.inr hsame)).2
      · trivial
  · next target code hphase =>
      apply CursorCurrent.setProcess
      · refine hcurrent.setRoot ?_
        unfold recordRolloutFailure
        rw [mutateExistingState_noCommit_cursors]
      · trivial
  · exact hcurrent

theorem withinActivation_read (hcurrent : CursorCurrent H sessionId state) {process : Nat}
    {rollout : String → Except Failure RolloutFile}
    (hapart : ActivationsApart H sessionId state (.read process rollout)) :
    WithinActivation H sessionId state (.read process rollout) := by
  intro target activation cursor hphase hload
  have hwithin := hcurrent.phases process
  rw [hphase] at hwithin
  obtain ⟨rfl, _, _⟩ := hwithin
  have hsome := loadCursor_eq_some hload
  rcases hapart target activation hphase with rfl | hnone
  · exact hcurrent.stored hsome
  · exact absurd hnone hsome

/-- **One step.**  A step that keeps activations apart stays within its activation, and
    keeps the stored cursor current. -/
theorem cursorCurrent_step (state : SharedState) (step : SharedStep sessionId)
    (hcurrent : CursorCurrent H sessionId state) (hapart : ActivationsApart H sessionId state step) :
    WithinActivation H sessionId state step ∧
      CursorCurrent H sessionId ((sharedMachine H format sessionId).step state step).1 := by
  cases step with
  | start faults now request own => exact ⟨trivial, cursorCurrent_start hcurrent hapart⟩
  | mark faults => exact ⟨trivial, cursorCurrent_mark hcurrent faults⟩
  | unlinkRuntime process fault =>
      exact ⟨trivial, cursorCurrent_unlinkRuntime hcurrent process fault⟩
  | unlinkCursor process fault =>
      exact ⟨trivial, cursorCurrent_unlinkCursor hcurrent process fault⟩
  | snapshot process env => exact ⟨trivial, cursorCurrent_snapshot hcurrent process env⟩
  | read process rollout =>
      exact ⟨withinActivation_read hcurrent hapart, cursorCurrent_read hcurrent process rollout⟩
  | commit process env =>
      have hwithin := withinActivation_commit hcurrent hapart
      exact ⟨hwithin, cursorCurrent_commit hcurrent hwithin⟩
  | crash process log => exact ⟨trivial, hcurrent.setProcess process trivial⟩

end Invariant

/-! ### Samples -/

/-- Nothing is ever decoded: the rollout stays empty. -/
def emptyRolloutFormat : RecordFormat Unit := ⟨fun _ => .ok (some ()), fun _ => none⟩

def emptyRollout : String → Except Failure RolloutFile := fun _ => .ok ⟨0, 0, []⟩

def quietTick : TickEnvironment := .delivering ⟨0, 0⟩ []

/-- Whether the snapshot a process holds, if it holds one, is of the current activation. -/
def SharedState.holdsCurrent (state : SharedState) (process : Nat) : Bool :=
  match (state.process process).phase with
  | .snapped _ activation => decide (activation = state.activation)
  | .taken _ activation _ _ => decide (activation = state.activation)
  | _ => true

theorem activationsApart_read {H : Digest} {sessionId : String} {state : SharedState}
    {process : Nat} {rollout : String → Except Failure RolloutFile}
    (hcurrent : state.holdsCurrent process = true) :
    ActivationsApart H sessionId state (.read process rollout) := by
  intro target activation hphase
  unfold SharedState.holdsCurrent at hcurrent
  rw [hphase] at hcurrent
  exact Or.inl (of_decide_eq_true hcurrent)

theorem activationsApart_commit {H : Digest} {sessionId : String} {state : SharedState}
    {process : Nat} {env : TickEnvironment} (hcurrent : state.holdsCurrent process = true) :
    ActivationsApart H sessionId state (.commit process env) := by
  intro target activation batch origin hphase
  unfold SharedState.holdsCurrent at hcurrent
  rw [hphase] at hcurrent
  exact Or.inl (of_decide_eq_true hcurrent)

/-- Two ticks of one process and a stop by another. -/
def orderlySteps : List (SharedStep "s") :=
  [.start sampleStart 0 sampleRequest rfl, .snapshot 0 quietTick, .read 0 emptyRollout,
    .commit 0 quietTick, .snapshot 0 quietTick, .read 0 emptyRollout, .commit 0 quietTick,
    .unlinkRuntime 1 none, .unlinkCursor 1 none]

/-- **Activations.**  In a run of any number of processes whose steps keep activations apart,
    from any files, every read and every commit stays within one activation. -/
theorem sharedSteps_withinActivation {ρ : Type} (H : Digest) (format : RecordFormat ρ)
    (sessionId : String) (root : StateRoot) (steps : List (SharedStep sessionId))
    (hapart : (sharedMachine H format sessionId).Guarded (ActivationsApart H sessionId)
      (SharedState.initial root) steps) :
    (sharedMachine H format sessionId).Guarded (WithinActivation H sessionId)
      (SharedState.initial root) steps :=
  Machine.Guarded.imp_of_invariant _ cursorCurrent_step (cursorCurrent_initial root) hapart

theorem sharedSteps_withinActivation_sample :
    (sharedMachine .transparent emptyRolloutFormat "s").Guarded
      (WithinActivation .transparent "s") (SharedState.initial .empty) orderlySteps := by
  refine sharedSteps_withinActivation .transparent emptyRolloutFormat "s" .empty orderlySteps
    ⟨fun _ => rfl, trivial, activationsApart_read ?_, activationsApart_commit ?_, trivial,
      activationsApart_read ?_, activationsApart_commit ?_, trivial, trivial, trivial⟩ <;>
    decide +kernel

/-! ### Histories that cross -/

/-- Whether a read by this process would use a cursor of another activation. -/
def SharedState.readsForeign (H : Digest) (state : SharedState) (process : Nat) : Bool :=
  match (state.process process).phase with
  | .snapped target activation =>
      match loadCursor H state.root target.sessionId with
      | .ok (some _) => decide (state.cursorOrigin ≠ activation)
      | _ => false
  | _ => false

theorem not_withinActivation_read {H : Digest} {sessionId : String} {state : SharedState}
    {process : Nat} {rollout : String → Except Failure RolloutFile}
    (hforeign : state.readsForeign H process = true) :
    ¬ WithinActivation H sessionId state (.read process rollout) := by
  intro hwithin
  unfold SharedState.readsForeign at hforeign
  split at hforeign
  · next target activation hphase =>
      split at hforeign
      · next cursor hload =>
          exact of_decide_eq_true hforeign (hwithin target activation cursor hphase hload)
      · cases hforeign
  · cases hforeign

/-- Whether a commit by this process would run the processor for a snapshot of another
    activation. -/
def SharedState.commitsForeign (H : Digest) (state : SharedState) (process : Nat)
    (env : TickEnvironment) : Bool :=
  match (state.process process).phase with
  | .taken target activation batch _ =>
      (state.commitBatchOf H process env target batch).memory.2 &&
        decide (activation ≠ state.activation)
  | _ => false

theorem not_withinActivation_commit {H : Digest} {sessionId : String} {state : SharedState}
    {process : Nat} {env : TickEnvironment}
    (hforeign : state.commitsForeign H process env = true) :
    ¬ WithinActivation H sessionId state (.commit process env) := by
  intro hwithin
  unfold SharedState.commitsForeign at hforeign
  split at hforeign
  · next target activation batch origin hphase =>
      obtain ⟨hran, hother⟩ := Bool.and_eq_true_iff.mp hforeign
      exact of_decide_eq_true hother
        (hwithin target activation batch origin hphase (Or.inl hran)).1
  · cases hforeign

/-- A process crashes between the two unlinks of a stop, and the next activation reads from
    the cursor that is left. -/
def crashedStop : List (SharedStep "s") :=
  [.start sampleStart 0 sampleRequest rfl, .snapshot 0 quietTick, .read 0 emptyRollout,
    .commit 0 quietTick, .unlinkRuntime 0 none, .crash 0 [],
    .start sampleStart 1 sampleRequest rfl, .snapshot 0 quietTick]

/-- One process stops and starts the session between the read and the commit of another,
    and the revision is zero again. -/
def restartedRevision : List (SharedStep "s") :=
  [.start sampleStart 0 sampleRequest rfl, .snapshot 0 quietTick, .read 0 emptyRollout,
    .unlinkRuntime 1 none, .unlinkCursor 1 none, .start sampleStart 1 sampleRequest rfl]

theorem activations_cross :
    (¬ (sharedMachine .transparent emptyRolloutFormat "s").Guarded
        (WithinActivation .transparent "s") (SharedState.initial .empty)
        (crashedStop ++ [.read 0 emptyRollout])) ∧
      ¬ (sharedMachine .transparent emptyRolloutFormat "s").Guarded
        (WithinActivation .transparent "s") (SharedState.initial .empty)
        (restartedRevision ++ [.commit 0 quietTick]) := by
  constructor
  · intro hguarded
    refine not_withinActivation_read ?_ (Machine.Guarded.at_prefix _ hguarded (List.prefix_refl _))
    decide +kernel
  · intro hguarded
    refine not_withinActivation_commit ?_ (Machine.Guarded.at_prefix _ hguarded (List.prefix_refl _))
    decide +kernel

end CodexMustWork
