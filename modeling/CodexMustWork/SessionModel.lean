import CodexMustWork.TargetView

/-!
# One session, abstractly

The whole life of one session: it is started, observed, completed, stopped and
started again, possibly across restarts of the process.  What a session is made
of lives in two places with different life times.  The runtime document exists
from a start to the removal after a stop or a completion; the memory of the
engine and the record of transitions stay.
-/

namespace CodexMustWork

/-- What one session has in its runtime document. -/
inductive SessionFile where
  | absent
  | running (thresholds : Thresholds) (epoch : Nat) (anchor : Int)
  | closing

/-- What outlives the document: the engine's memory, and what the log records. -/
@[ext] structure SessionMemory where
  detector : Option DetectorView
  openCalls : Finset String
  recorded : Mark → Bool
  completed : Bool

structure SessionModel where
  file : SessionFile
  memory : SessionMemory

/-- What a session can be notified of. -/
inductive Notice where
  | mark (mark : Mark)
  | completed
deriving DecidableEq, Repr

/-- What happens to one session. -/
inductive SessionStep where
  | start (thresholds : Thresholds) (wallTime : Int)
  | tick (input : TickInput)
  | stop
  | complete (now : Int) (raises : Bool)
  | restart

/-- A completed monitor's detector is terminal and waits for nothing. -/
def DetectorView.terminate (detector : Option DetectorView) (now : Int) : DetectorView :=
  { detector.getD ⟨now, false, false, false, false⟩ with paused := false, terminal := true }

namespace SessionMemory

def view (memory : SessionMemory) (epoch : Nat) (anchor : Int) : TargetView :=
  ⟨epoch, anchor, memory.detector, memory.openCalls, memory.recorded⟩

/-- The memory a tick of a running session leaves. -/
def ofView (memory : SessionMemory) (view : TargetView) : SessionMemory :=
  ⟨view.detector, view.openCalls, view.recorded, memory.completed⟩

/-- The memory a tick of a completed session leaves. -/
def terminate (memory : SessionMemory) (now : Int) : SessionMemory :=
  { memory with detector := some (DetectorView.terminate memory.detector now) }

/-- A new process remembers nothing; the record is in the log. -/
def restart (memory : SessionMemory) : SessionMemory :=
  { memory with detector := none, openCalls := ∅ }

/-- A record holds one completion. -/
def completionNotice (memory : SessionMemory) : List Notice :=
  if memory.completed then [] else [.completed]

@[simp] theorem view_detector (memory : SessionMemory) (epoch : Nat) (anchor : Int) :
    (memory.view epoch anchor).detector = memory.detector := rfl

@[simp] theorem view_epoch (memory : SessionMemory) (epoch : Nat) (anchor : Int) :
    (memory.view epoch anchor).epoch = epoch := rfl

@[simp] theorem view_anchor (memory : SessionMemory) (epoch : Nat) (anchor : Int) :
    (memory.view epoch anchor).anchor = anchor := rfl

@[simp] theorem view_recorded (memory : SessionMemory) (epoch : Nat) (anchor : Int) :
    (memory.view epoch anchor).recorded = memory.recorded := rfl

end SessionMemory

namespace SessionModel

/-- One step in the life of a session. -/
def step (model : SessionModel) : SessionStep → SessionModel × List Notice
  | .start thresholds wallTime =>
      match model.file with
      | .absent => (⟨.running thresholds 0 wallTime, model.memory⟩, [])
      | _ => (model, [])
  | .tick input =>
      match model.file with
      | .absent => (model, [])
      | .running thresholds epoch anchor =>
          let view := model.memory.view epoch anchor
          let next := view.next thresholds input
          (⟨.running thresholds next.epoch next.anchor, model.memory.ofView next⟩,
            (view.queued thresholds input).map Notice.mark)
      | .closing => (⟨.closing, model.memory.terminate input.now⟩, [])
  | .stop => (⟨.absent, model.memory⟩, [])
  | .complete now raises =>
      match model.file with
      | .absent => (model, [])
      | .running .. =>
          -- A sink that raises on the notice leaves the document behind.
          let notices := model.memory.completionNotice
          (⟨if raises && !notices.isEmpty then .closing else .absent,
              { model.memory.terminate now with completed := true }⟩, notices)
      | .closing => (⟨.absent, model.memory.terminate now⟩, [])
  | .restart => (⟨model.file, model.memory.restart⟩, [])

end SessionModel

end CodexMustWork
