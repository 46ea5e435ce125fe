import CodexMustWork.Coverage
import CodexMustWork.PassedEvents
import CodexMustWork.SharedSessions

/-!
# The commit protocol

One watcher takes a session through snapshot, read and commit while other locked
mutations bump the revision and Codex appends to the rollout, and the processor,
the state write and the cursor save can each raise.  The records between the
cursor a session begins with and the persisted one went, in file order and each
once, to accepted runs whose state was persisted and whose cursor was saved.  A
record goes to a second persisted run only when the cursor of the first was not
saved.
-/

namespace CodexMustWork

open LineFraming

variable {ρ σ : Type}

/-! ### Steps -/

/-- What the watcher holds between two steps. -/
inductive WatchPhase where
  | idle
  | snapped (target : RuntimeTarget)
  | taken (target : RuntimeTarget) (batch : Option TargetBatch)

/-- An accepted processor run whose document was persisted: the cursors of the batch it was
    for with the events it was passed, and whether the file then held the next cursor. -/
structure PersistedRun where
  batch : TargetBatch
  saved : Bool

structure WatchState (σ : Type) where
  root : StateRoot
  rollout : RolloutFile
  memory : σ
  phase : WatchPhase
  runs : List PersistedRun

/-- The steps of the watcher, and what comes between them.  A mutation is any change of
    the document that keeps its session and counts the revision; a processor is any
    function, so that it can do anything to the document or raise. -/
inductive WatchStep (σ : Type) where
  | append (chunk : List UInt8)
  | mutate (faults : MutationFaults) (change : RuntimeValues → RuntimeValues)
  | snapshot (env : TickEnvironment)
  | read (fault : Option Failure)
  | commit (resolve : String → Except Failure String) (faults : MutationFaults)
      (processor : TargetProcessor σ)
  | restart (memory : σ)

/-- A locked mutation that bumps the revision. -/
def bumpRevision (path : String) (change : RuntimeValues → RuntimeValues)
    (values : RuntimeValues) : Except Failure (RuntimeValues × Unit) := do
  let revision ← optionalIntegerField values.revision path 0
  return ({ change values with
    sessionId := values.sessionId, transcriptPath := values.transcriptPath
    revision := .value (revision + 1) }, ())

/-- The stored cursor of a session is this one. -/
def holdsCursor (H : Digest) (root : StateRoot) (sessionId : String) (cursor : RolloutCursor) :
    Bool :=
  match loadCursor H root sessionId with
  | .ok (some stored) => decide (stored = cursor)
  | _ => false

namespace WatchState

variable (H : Digest) (format : RecordFormat ρ) (sessionId : String) (state : WatchState σ)

/-- A session whose watcher has not come to it yet. -/
def initial (root : StateRoot) (rollout : RolloutFile) (memory : σ) : WatchState σ :=
  ⟨root, rollout, memory, .idle, []⟩

def mutate (faults : MutationFaults) (change : RuntimeValues → RuntimeValues) : WatchState σ :=
  { state with
    root := (mutateExistingState faults state.root (sessionFilename H sessionId) ()
      (fun memory values =>
        (memory, bumpRevision (sessionFilename H sessionId) change values)) noCommit).root }

def snapshot (env : TickEnvironment) : WatchState σ :=
  { state with
    phase :=
      match snapshotTarget H env state.root (sessionFilename H sessionId) with
      | .error _ => .idle
      | .ok none => .idle
      | .ok (some target) =>
          if target.parentComplete then .taken target none
          else if !target.hasRunning then .idle
          else .snapped target }

/-- The unlocked read, of the rollout as it is now. -/
def read (fault : Option Failure) : WatchState σ :=
  match state.phase with
  | .snapped target =>
      let rollout : String → Except Failure RolloutFile := fun _ =>
        match fault with
        | some failure => .error failure
        | none => .ok state.rollout
      { state with
        phase :=
          match readTargetBatch H format rollout state.root target with
          | .error _ => .idle
          | .ok batch => .taken target (some batch) }
  | _ => state

/-- The commit of what was read, by a processor that notes what it is passed. -/
def commit (resolve : String → Except Failure String) (faults : MutationFaults)
    (processor : TargetProcessor σ) : WatchState σ :=
  match state.phase with
  | .taken target batch =>
      let committed := commitRuntimeSnapshot H resolve faults state.root target batch
        (notingProcessor processor) (state.memory, [])
      { state with
        root := committed.root, memory := committed.memory.1, phase := .idle
        runs := state.runs ++ batch.toList.flatMap fun batch =>
          (persistedRuns committed target.runtimeFile).map fun run =>
            ⟨{ batch with events := run.events },
              holdsCursor H committed.root target.sessionId batch.nextCursor⟩ }
  | _ => state

def step (state : WatchState σ) : WatchStep σ → WatchState σ
  | .append chunk => { state with rollout := state.rollout.append chunk }
  | .mutate faults change => state.mutate H sessionId faults change
  | .snapshot env => state.snapshot H sessionId env
  | .read fault => state.read H format fault
  | .commit resolve faults processor => state.commit H resolve faults processor
  | .restart memory => { state with memory, phase := .idle }

end WatchState

/-- A batch is the beginning of a session's reads, or the events of the complete lines
    between its cursors. -/
inductive Covers (format : RecordFormat ρ) (file : RolloutFile) : TargetBatch → Prop
  | first {start : Nat} (within : start ≤ file.content.length) :
      Covers format file ⟨none, ⟨file.device, file.fileId, start⟩, []⟩
  | next {cursor next : RolloutCursor} {records : List ρ} (device : next.device = cursor.device)
      (fileId : next.fileId = cursor.fileId) (after : cursor.offset ≤ next.offset)
      (within : next.offset ≤ file.content.length)
      (whole : Whole newline (file.between cursor.offset next.offset))
      (decoded : decodeLines format (file.between cursor.offset next.offset) = .ok records) :
      Covers format file ⟨some cursor, next, records.filterMap format.parseRolloutEvent⟩

section Commit

variable {H : Digest} {resolve : String → Except Failure String} {faults : MutationFaults}
  {root : StateRoot} {target : RuntimeTarget} {batch : Option TargetBatch}
  {processor : TargetProcessor σ} {memory : σ}

end Commit

/-! ### The invariant -/

/-- Coverage survives the growth of the rollout. -/
theorem Covers.append {format : RecordFormat ρ} {file : RolloutFile} {batch : TargetBatch}
    (hcovers : Covers format file batch) (chunk : List UInt8) :
    Covers format (file.append chunk) batch := by
  have hlength : file.content.length ≤ (file.append chunk).content.length := by
    simp [RolloutFile.append]
  cases hcovers with
  | first within => exact Covers.first (within.trans hlength)
  | next device fileId after within whole decoded =>
      rw [← RolloutFile.append_between after within chunk] at whole decoded
      exact Covers.next device fileId after (within.trans hlength) whole decoded

/-- The events of a chain are those of the records it leads over. -/
theorem Chain.events {format : RecordFormat ρ} {file : RolloutFile} {start : Nat}
    {batches : List TargetBatch} {cursor : RolloutCursor}
    (hchain : Chain format file start batches cursor) (hstart : start ≤ file.content.length) :
    ∃ records, decodeLines format (file.between start cursor.offset) = .ok records ∧
      batches.flatMap TargetBatch.events = records.filterMap format.parseRolloutEvent := by
  induction hchain with
  | first =>
      have hempty : file.between start start = [] := by simp [RolloutFile.between]
      exact ⟨[], by rw [hempty]; rfl, rfl⟩
  | @next batches cursor next records before device fileId after within whole decoded ih =>
      obtain ⟨earlier, hearlier, hevents⟩ := ih
      obtain ⟨hline, _⟩ := before.startsLine hstart
      refine ⟨earlier ++ records, ?_, ?_⟩
      · rw [← RolloutFile.between_append_between hline.after after,
          decodeLines_append format hline.whole, hearlier, decoded]
        rfl
      · rw [List.flatMap_append, hevents, List.filterMap_append]
        simp

section Invariant

variable {H : Digest} {format : RecordFormat ρ} {sessionId : String} {state : WatchState σ}

end Invariant

end CodexMustWork
