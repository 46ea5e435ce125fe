import CodexMustWork.Coverage
import CodexMustWork.ProcessorFailures

/-!
# Turns that raise

The loop of a tick catches what a corrupt or rotated rollout raises and nothing
else.  `RaisesAt` says of one runtime file, from what it holds and what the tick
meets, that its turn raises something else; the loop then ends there.
-/

namespace CodexMustWork

/-! ### The surroundings of a tick -/

variable {ρ : Type}

/-- What a tick meets when no file operation fails but opening and locking: the clocks, where
    transcripts resolve to, what opening a rollout gives, and which locks are held. -/
structure Surroundings where
  context : TickContext
  resolve : String → Except Failure String
  rollout : String → Except Failure RolloutFile
  snapshotLock : String → Option Failure := fun _ => none
  commitLock : String → Option Failure := fun _ => none

def Surroundings.environment (H : Digest) (format : RecordFormat ρ) (around : Surroundings) :
    TickEnvironment where
  context := around.context
  resolve := around.resolve
  read := readTargetBatch H format around.rollout
  snapshotFaults path := { lock := around.snapshotLock path }
  commitFaults path := { lock := around.commitLock path }

section Turns

variable {H : Digest} {format : RecordFormat ρ} {around : Surroundings} {root : StateRoot}
  {engine : WatcherEngine} {path : String}

end Turns

/-! ### The loop, with the files that raise -/

section Loop

variable {H : Digest} {format : RecordFormat ρ} {around : Surroundings} {root : StateRoot}
  {engine : WatcherEngine} {path : String}

end Loop

end CodexMustWork
