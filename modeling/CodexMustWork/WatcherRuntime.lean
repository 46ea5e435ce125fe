import CodexMustWork.WatcherEngine
import CodexMustWork.WatcherSource

/-!
# Ticks over the runtime files of a state root

`scripts/watcher_commit.py`, `scripts/watcher_failure.py`,
`scripts/watcher_runtime.py` and `WatcherEngine.tick`: discovery, the locked
snapshot of each file, the unlocked read, the revalidated commit, and the
notifications flushed at the end.
-/

namespace CodexMustWork

/-- The processor a commit runs on the locked values, with its own memory. -/
abbrev TargetProcessor (σ : Type) :=
  RuntimeTarget → RuntimeValues → List ObservedEvent → σ →
    σ × Except Failure (RuntimeValues × Bool)

/-! ### Committing a snapshot -/

structure CommitResult where
  accepted : Bool
  active : Bool
deriving DecidableEq, Repr

section Commit

variable {σ : Type} (H : Digest) (resolve : String → Except Failure String)

/-- The inner `process`: revalidate the snapshot, run the processor, and count the
    revision when the values changed. -/
def processSnapshot (snapshot : RuntimeTarget) (events : List ObservedEvent)
    (processor : TargetProcessor σ) (memory : σ) (values : RuntimeValues) :
    σ × Except Failure (RuntimeValues × CommitResult) :=
  if values.enabled ≠ .value true then (memory, .ok (values, ⟨false, false⟩))
  else
    match runtimeTargetFromValues H resolve snapshot.runtimeFile values with
    | .error failure => (memory, .error failure)
    | .ok target =>
        if target.revision ≠ snapshot.revision then
          (memory, .ok (values, ⟨false, target.parentComplete || target.hasRunning⟩))
        else
          match processor target values events memory with
          | (memory, .error failure) => (memory, .error failure)
          | (memory, .ok (after, active)) =>
              let after :=
                if after = values then after
                else { after with revision := .value (target.revision + 1) }
              (memory, .ok (after, ⟨true, active⟩))

/-- What `process` returns: the values as they were when the snapshot is stale, or what
    the processor made of them under the revision that follows. -/
theorem processSnapshot_cases {snapshot : RuntimeTarget} {events : List ObservedEvent}
    {processor : TargetProcessor σ} {memory left : σ} {values persisted : RuntimeValues}
    {result : CommitResult}
    (hprocess : processSnapshot H resolve snapshot events processor memory values =
      (left, .ok (persisted, result))) :
    (result.accepted = false ∧ persisted = values ∧ left = memory ∧
        (values.enabled = .value true → ∃ target,
          runtimeTargetFromValues H resolve snapshot.runtimeFile values = .ok target ∧
          target.revision ≠ snapshot.revision)) ∨
      (values.enabled = .value true ∧ ∃ target after,
        runtimeTargetFromValues H resolve snapshot.runtimeFile values = .ok target ∧
        target.revision = snapshot.revision ∧ result.accepted = true ∧
        processor target values events memory = (left, .ok (after, result.active)) ∧
        persisted = if after = values then after
          else { after with revision := .value (target.revision + 1) }) := by
  unfold processSnapshot at hprocess
  by_cases henabled : values.enabled = .value true
  · rw [if_neg (not_not.mpr henabled)] at hprocess
    cases hvalid : runtimeTargetFromValues H resolve snapshot.runtimeFile values with
    | error failure => simp [hvalid] at hprocess
    | ok target =>
        simp only [hvalid] at hprocess
        by_cases hrevision : target.revision = snapshot.revision
        · rw [if_neg (not_not.mpr hrevision)] at hprocess
          cases hrun : processor target values events memory with
          | mk after outcome =>
              cases outcome with
              | error failure => simp [hrun] at hprocess
              | ok output =>
                  simp only [hrun, Prod.mk.injEq, Except.ok.injEq] at hprocess
                  obtain ⟨rfl, hpersisted, rfl⟩ := hprocess
                  exact Or.inr ⟨henabled, target, output.1, rfl, hrevision, rfl, hrun,
                    hpersisted.symm⟩
        · rw [if_pos hrevision] at hprocess
          simp only [Prod.mk.injEq, Except.ok.injEq] at hprocess
          obtain ⟨rfl, rfl, rfl⟩ := hprocess
          exact Or.inl ⟨rfl, rfl, rfl, fun _ => ⟨target, rfl, hrevision⟩⟩
  · rw [if_pos henabled] at hprocess
    simp only [Prod.mk.injEq, Except.ok.injEq] at hprocess
    obtain ⟨rfl, rfl, rfl⟩ := hprocess
    exact Or.inl ⟨rfl, rfl, rfl, fun heq => absurd heq henabled⟩

/-- The processor runs only on an enabled document whose revision is that of the snapshot. -/
theorem processSnapshot_memory (snapshot : RuntimeTarget) (events : List ObservedEvent)
    (processor : TargetProcessor σ) (memory : σ) (values : RuntimeValues) :
    (processSnapshot H resolve snapshot events processor memory values).1 = memory ∨
      (values.enabled = .value true ∧ ∃ target,
        runtimeTargetFromValues H resolve snapshot.runtimeFile values = .ok target ∧
        target.revision = snapshot.revision) := by
  unfold processSnapshot
  by_cases henabled : values.enabled = .value true
  · rw [if_neg (not_not.mpr henabled)]
    cases hvalid : runtimeTargetFromValues H resolve snapshot.runtimeFile values with
    | error failure => exact Or.inl rfl
    | ok target =>
        dsimp only
        by_cases hrevision : target.revision = snapshot.revision
        · exact Or.inr ⟨henabled, target, rfl, hrevision⟩
        · rw [if_pos hrevision]
          exact Or.inl rfl
  · rw [if_pos henabled]
    exact Or.inl rfl

/-- The inner `commit_batch`. -/
def commitBatch (fault : Option Failure) (snapshot : RuntimeTarget) (batch : Option TargetBatch)
    (root : StateRoot) (result : CommitResult) : StateRoot × Except Failure Unit :=
  match result.accepted, batch with
  | true, some batch => commitTargetCursor H fault root snapshot batch
  | _, _ => (root, .ok ())

theorem commitBatch_rejected (fault : Option Failure) (snapshot : RuntimeTarget)
    (batch : Option TargetBatch) (root : StateRoot) {result : CommitResult}
    (hrejected : result.accepted = false) :
    commitBatch H fault snapshot batch root result = (root, .ok ()) := by
  unfold commitBatch
  rw [hrejected]

@[simp] theorem commitBatch_runtime (fault : Option Failure) (snapshot : RuntimeTarget)
    (batch : Option TargetBatch) (root : StateRoot) (result : CommitResult) :
    (commitBatch H fault snapshot batch root result).1.runtime = root.runtime := by
  unfold commitBatch commitTargetCursor saveCursor
  split
  · split_ifs
    · rfl
    · dsimp only
      split <;> rfl
  · rfl

/-- Commit runtime changes before its rollout cursor under one state lock. -/
def commitRuntimeSnapshot (faults : MutationFaults) (root : StateRoot) (snapshot : RuntimeTarget)
    (batch : Option TargetBatch) (processor : TargetProcessor σ) (memory : σ) :
    Mutation σ (Option CommitResult) :=
  mutateExistingState faults root snapshot.runtimeFile memory
    (processSnapshot H resolve snapshot ((batch.map TargetBatch.events).getD []) processor)
    (commitBatch H faults.cursor snapshot batch)

end Commit

/-- What `commit_runtime_snapshot` returns to its caller: `... is True`. -/
def CommitResult.isActive (result : Option CommitResult) : Bool :=
  result.any CommitResult.active

/-! ### Engines -/

/-- A `WatcherEngine` with the quarantine of its `RuntimeFileMonitor`. -/
structure WatcherEngine where
  watcher : WatcherState
  failedSessions : Finset String

def WatcherEngine.fresh (log : DiagnosticLog) : WatcherEngine := ⟨WatcherState.fresh log, ∅⟩

/-- Everything outside the program during one tick: the clocks, how paths resolve,
    what reading a rollout gives, which file operations raise, and the sink. -/
structure TickEnvironment where
  context : TickContext
  resolve : String → Except Failure String
  read : StateRoot → RuntimeTarget → Except ReadFailure TargetBatch
  snapshotFaults : String → MutationFaults := fun _ => {}
  commitFaults : String → MutationFaults := fun _ => {}
  sink : LifecycleNotification → Delivery := fun _ => .delivered

/-- Nothing raises, and every rollout read gives the same events. -/
def TickEnvironment.delivering (context : TickContext) (events : List ObservedEvent) :
    TickEnvironment where
  context
  resolve := .ok
  read _ _ := .ok ⟨none, ⟨0, 0, 0⟩, events⟩

/-- `record_rollout_failure`: quarantine a session unless its snapshot is stale. -/
def recordRolloutFailure (H : Digest) (env : TickEnvironment) (root : StateRoot)
    (snapshot : RuntimeTarget) (code : DiagnosticCode) (engine : WatcherEngine) :
    Mutation WatcherEngine (Option Unit) :=
  mutateExistingState (env.commitFaults snapshot.runtimeFile) root snapshot.runtimeFile engine
    (fun engine values =>
      if values.enabled ≠ .value true then (engine, .ok (values, ()))
      else
        match runtimeTargetFromValues H env.resolve snapshot.runtimeFile values with
        | .error failure => (engine, .error failure)
        | .ok target =>
            if target.revision ≠ snapshot.revision then (engine, .ok (values, ()))
            else
              ({ watcher := {
                  engine.watcher with
                  recorder := {
                    engine.watcher.recorder with
                    log := appendTargetDiagnostic H engine.watcher.recorder.log target {
                      occurredAt := env.context.wallTime, code, state := .failedClosed } } }
                 failedSessions := insert target.sessionId engine.failedSessions },
                .ok (values, ())))
    noCommit

/-- The locked snapshot of one runtime file; `none` when it is gone or disabled. -/
def snapshotTarget (H : Digest) (env : TickEnvironment) (root : StateRoot) (path : String) :
    Except Failure (Option RuntimeTarget) :=
  (mutateExistingState (env.snapshotFaults path) root path ()
    (fun memory values =>
      (memory,
        if values.enabled ≠ .value true then .ok (values, none)
        else (runtimeTargetFromValues H env.resolve path values).map fun target =>
          (values, some target)))
    noCommit).result.map Option.join

/-- A snapshot never writes: it is a validation behind a lock. -/
theorem snapshotTarget_eq (H : Digest) (env : TickEnvironment) (root : StateRoot) (path : String) :
    snapshotTarget H env root path =
      match root.runtime.lookup path with
      | none => .ok none
      | some file =>
          match (env.snapshotFaults path).lock with
          | some failure => .error failure
          | none =>
              (env.snapshotFaults path).leave (match file with
                | .error failure => .error failure
                | .ok values =>
                    if values.enabled ≠ .value true then .ok none
                    else (runtimeTargetFromValues H env.resolve path values).map some) := by
  unfold snapshotTarget
  cases hfile : root.runtime.lookup path with
  | none =>
      rw [mutateExistingState_of_absent hfile]
      rfl
  | some file =>
      cases hlock : (env.snapshotFaults path).lock with
      | some failure =>
          rw [mutateExistingState_of_lock hfile hlock]
          rfl
      | none =>
          cases file with
          | error failure =>
              rw [mutateExistingState_of_unreadable hlock hfile]
              simp only [MutationFaults.leave_error]
              rfl
          | ok values =>
              by_cases henabled : values.enabled ≠ .value true
              · rw [mutateExistingState_noCommit_of_unchanged hlock hfile (by
                  rw [if_pos henabled]), MutationFaults.map_leave]
                simp only [if_pos henabled]
                rfl
              · cases htarget : runtimeTargetFromValues H env.resolve path values with
                | error failure =>
                    rw [mutateExistingState_of_raised hlock hfile (by
                      rw [if_neg henabled, htarget]
                      rfl)]
                    simp only [if_neg henabled, htarget]
                    exact (MutationFaults.leave_error _ _).symm
                | ok target =>
                    rw [mutateExistingState_noCommit_of_unchanged hlock hfile (by
                      rw [if_neg henabled, htarget]
                      rfl), MutationFaults.map_leave]
                    simp only [if_neg henabled, htarget]
                    rfl

/-- A snapshot that gives a target validated the document of its file. -/
theorem snapshotTarget_eq_some {H : Digest} {env : TickEnvironment} {root : StateRoot}
    {path : String} {target : RuntimeTarget}
    (hsnapshot : snapshotTarget H env root path = .ok (some target)) :
    ∃ values, root.runtime.lookup path = some (.ok values) ∧ values.enabled = .value true ∧
      runtimeTargetFromValues H env.resolve path values = .ok target := by
  rw [snapshotTarget_eq] at hsnapshot
  cases hfile : root.runtime.lookup path with
  | none => simp [hfile] at hsnapshot
  | some file =>
      cases hlock : (env.snapshotFaults path).lock with
      | some failure => simp [hfile, hlock] at hsnapshot
      | none =>
          simp only [hfile, hlock] at hsnapshot
          obtain ⟨_, hfound⟩ := MutationFaults.leave_eq_ok.mp hsnapshot
          cases file with
          | error failure => cases hfound
          | ok values =>
              dsimp only at hfound
              split_ifs at hfound with henabled
              · cases hfound
              · cases htarget : runtimeTargetFromValues H env.resolve path values with
                | error failure => simp [htarget, Except.map] at hfound
                | ok current =>
                    simp only [htarget, Except.map, Except.ok.injEq, Option.some_inj] at hfound
                    subst hfound
                    exact ⟨values, rfl, not_not.mp henabled, htarget⟩

/-- A snapshot that gives none found no enabled document. -/
theorem snapshotTarget_eq_none {H : Digest} {env : TickEnvironment} {root : StateRoot}
    {path : String} {values : RuntimeValues}
    (hsnapshot : snapshotTarget H env root path = .ok none)
    (hfile : root.runtime.lookup path = some (.ok values)) : values.enabled ≠ .value true := by
  intro henabled
  rw [snapshotTarget_eq] at hsnapshot
  simp only [hfile] at hsnapshot
  cases hlock : (env.snapshotFaults path).lock with
  | some failure => simp [hlock] at hsnapshot
  | none =>
      simp only [hlock, henabled, ne_eq, not_true_eq_false, if_false] at hsnapshot
      obtain ⟨_, hfound⟩ := MutationFaults.leave_eq_ok.mp hsnapshot
      cases htarget : runtimeTargetFromValues H env.resolve path values with
      | error failure => simp [htarget, Except.map] at hfound
      | ok target => simp [htarget, Except.map] at hfound

/-- The processor of `WatcherEngine.tick`, on the memory of the whole engine. -/
def engineProcessor (H : Digest) (context : TickContext) : TargetProcessor WatcherEngine :=
  fun target values events engine =>
    let (watcher, result) := tickTarget H context target values events engine.watcher
    ({ engine with watcher }, result)

/-- A commit on behalf of a tick. -/
def commitTick (H : Digest) (env : TickEnvironment) (root : StateRoot) (target : RuntimeTarget)
    (batch : Option TargetBatch) (engine : WatcherEngine) : Mutation WatcherEngine Bool :=
  let commit := commitRuntimeSnapshot H env.resolve (env.commitFaults target.runtimeFile) root
    target batch (engineProcessor H env.context) engine
  ⟨commit.root, commit.memory, commit.result.map CommitResult.isActive⟩

/-- Quarantining on behalf of a tick. -/
def failTick (H : Digest) (env : TickEnvironment) (root : StateRoot) (target : RuntimeTarget)
    (code : DiagnosticCode) (engine : WatcherEngine) : Mutation WatcherEngine Bool :=
  let failed := recordRolloutFailure H env root target code engine
  ⟨failed.root, failed.memory, failed.result.map fun _ => false⟩

/-- The body of the loop of `RuntimeFileMonitor.tick`. -/
def tickFile (H : Digest) (env : TickEnvironment) (root : StateRoot) (engine : WatcherEngine)
    (path : String) : Mutation WatcherEngine Bool :=
  match snapshotTarget H env root path with
  | .error failure => ⟨root, engine, .error failure⟩
  | .ok none => ⟨root, engine, .ok false⟩
  | .ok (some target) =>
      if target.sessionId ∈ engine.failedSessions then ⟨root, engine, .ok false⟩
      else if target.parentComplete then commitTick H env root target none engine
      else if !target.hasRunning then ⟨root, engine, .ok false⟩
      else
        match env.read root target with
        | .error (.rolloutCorrupt _) => failTick H env root target .rolloutCorrupt engine
        | .error .rolloutRotated => failTick H env root target .rolloutRotated engine
        | .error (.raised failure) => ⟨root, engine, .error failure⟩
        | .ok batch => commitTick H env root target (some batch) engine

/-- The loop of `RuntimeFileMonitor.tick`: a file that raises ends it. -/
def tickFiles (H : Digest) (env : TickEnvironment) :
    List String → StateRoot → WatcherEngine → Bool → Mutation WatcherEngine Bool
  | [], root, engine, active => ⟨root, engine, .ok active⟩
  | path :: rest, root, engine, active =>
      match tickFile H env root engine path with
      | ⟨root, engine, .error failure⟩ => ⟨root, engine, .error failure⟩
      | ⟨root, engine, .ok fileActive⟩ => tickFiles H env rest root engine (fileActive || active)

/-- What one tick leaves, with the notifications it queued. -/
structure TickOutcome where
  root : StateRoot
  engine : WatcherEngine
  queued : List PendingNotification
  result : Except Failure Bool

/-- `WatcherEngine.tick`: the queue is flushed whatever the loop raised, and an
    exception of the sink replaces the loop's own. -/
def WatcherEngine.tick (H : Digest) (env : TickEnvironment) (root : StateRoot)
    (engine : WatcherEngine) : TickOutcome :=
  let loop := tickFiles H env (discoverRuntimeFiles root) root engine false
  let (recorder, flushed) := loop.memory.watcher.recorder.flush H env.sink
  { root := loop.root
    engine := { loop.memory with watcher := { loop.memory.watcher with recorder } }
    queued := loop.memory.watcher.recorder.pending
    result :=
      match flushed with
      | .error failure => .error failure
      | .ok _ => loop.result }

end CodexMustWork
