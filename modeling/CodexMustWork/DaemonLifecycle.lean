import CodexMustWork.Library.Machine
import Mathlib.Algebra.Order.Ring.Int
import Mathlib.Data.List.Count
import Mathlib.Data.List.Nodup
import Mathlib.Logic.Function.Basic

/-!
# The lifecycle of the daemon

`scripts/daemon_lifecycle.py`: operations are admitted until the first close starts; its
caller waits until the admitted ones have left, closes the scheduler and what the registry
detaches, and publishes one report to everybody.  Sections under the condition variable are
steps, and so are the beginning and the end of every call of a resource; a resource's own
code can enter the lifecycle again from the same thread.
-/

namespace CodexMustWork.DaemonLifecycle

/-! ### Reports -/

/-- `CloseReport`. -/
structure CloseReport where
  diagnostics : List String
deriving DecidableEq, Repr

/-- `CloseReport.reason`. -/
def CloseReport.reason (report : CloseReport) : Option String :=
  if report.diagnostics = [] then none else some (String.intercalate ";" report.diagnostics)

def maxDiagnostics : ℕ := 3

def maxErrorTypeLength : ℕ := 64

/-- `_append_reason`. -/
def appendReason (diagnostics : List String) (reason : String) : List String :=
  if maxDiagnostics ≤ diagnostics.length then
    diagnostics.dropLast ++ ["additional_close_failures"]
  else diagnostics ++ [reason]

/-- `_append_diagnostic`. -/
def appendDiagnostic (diagnostics : List String) (kind errorType : String) : List String :=
  appendReason diagnostics
    (kind ++ "_close_failed:" ++ String.ofList (errorType.toList.take maxErrorTypeLength))

/-! ### Threads -/

/-- What is closed behind the scheduler: the tasks, and the shared client. -/
inductive Resource where
  | task (index : ℕ)
  | client
deriving DecidableEq, Repr

/-- `DetachedResources`. -/
structure DetachedResources where
  tasks : ℕ
  client : Bool
deriving DecidableEq, Repr

def DetachedResources.resources (detached : DetachedResources) : List Resource :=
  (List.range detached.tasks).map .task ++ if detached.client then [.client] else []

/-- Where `_close_owned_resources` and `close_detached` are; what `close_detached` collected
    is beside what it is added to. -/
inductive Stage where
  | scheduler
  | inScheduler
  | registry
  | inRegistry
  | resources (left : List Resource) (collected : List String)
  | inResource (resource : Resource) (left : List Resource) (collected : List String)
deriving DecidableEq, Repr

/-- A call a thread is in. -/
inductive Frame where
  | admission (required admitted : Bool)
  | leaving (required failed : Bool)
  | waiting
  | draining
  | closing (stage : Stage) (diagnostics : List String)
deriving DecidableEq, Repr

/-- Code of others runs in the frame, and can call the lifecycle. -/
def Frame.runs : Frame → Bool
  | .admission _ _ => true
  | .closing .inScheduler _ => true
  | .closing .inRegistry _ => true
  | .closing (.inResource _ _ _) _ => true
  | _ => false

/-- The thread can call the lifecycle. -/
def canCall : List Frame → Bool
  | [] => true
  | frame :: _ => frame.runs

/-! ### The state -/

/-- What is closed. -/
inductive Target where
  | scheduler
  | registry
  | resource (resource : Resource)
deriving DecidableEq, Repr

/-- What happened, for the statements: an admission began, the first close started, a target
    was closed while so many admissions were active, an exception that nobody catches ended
    the close, a report was seen. -/
inductive Event where
  | admitted (thread : ℕ)
  | closeStarted (thread : ℕ)
  | attempt (target : Target) (active : ℤ)
  | abandoned (thread : ℕ)
  | closed (thread : ℕ) (report : CloseReport)
  | reentered (thread : ℕ)
  | left (thread : ℕ) (report : CloseReport) (raises : Option String)
deriving DecidableEq, Repr

/-- The fields of `DaemonLifecycle`, what the threads are in, what was detached, and the
    events, the last one last. -/
structure Lifecycle where
  activeAdmissions : ℤ
  closeStarted : Bool
  closeFinished : Bool
  closeOwner : Option ℕ
  closeReport : CloseReport
  stack : ℕ → List Frame
  detached : Option DetachedResources
  events : List Event

def Lifecycle.initial : Lifecycle := ⟨0, false, false, none, ⟨[]⟩, fun _ => [], none, []⟩

/-- How a call of a resource ends: an exception that `except Exception` does not catch escapes. -/
inductive CallResult where
  | returns
  | raises (errorType : String)
  | escapes
deriving DecidableEq, Repr

inductive Action where
  | enter (required : Bool)
  | leave (failed : Bool)
  | observe
  | close
  | drain
  | call
  | result (result : CallResult)
  | detachResult (result : CallResult) (resources : DetachedResources)
  | publish
deriving DecidableEq, Repr

structure Step where
  thread : ℕ
  action : Action
deriving DecidableEq, Repr

namespace Lifecycle

variable (lifecycle : Lifecycle) (thread : ℕ)

def setStack (frames : List Frame) : Lifecycle :=
  { lifecycle with stack := Function.update lifecycle.stack thread frames }

def emit (event : Event) : Lifecycle := { lifecycle with events := lifecycle.events ++ [event] }

/-- `begin_admission`; a required one that is refused raises. -/
def enter (required : Bool) (frames : List Frame) : Lifecycle :=
  if lifecycle.closeStarted then
    if required then lifecycle
    else lifecycle.setStack thread (.admission required false :: frames)
  else
    ({ lifecycle with activeAdmissions := lifecycle.activeAdmissions + 1 }.setStack thread
      (.admission required true :: frames)).emit (.admitted thread)

/-- `_Admission.__exit__` up to `wait_closed`. -/
def leave (required admitted failed : Bool) (frames : List Frame) : Lifecycle :=
  if admitted then
    { lifecycle with activeAdmissions := lifecycle.activeAdmissions - 1 }.setStack thread
      (if lifecycle.closeStarted then .leaving required failed :: frames else frames)
  else lifecycle.setStack thread frames

/-- What `__exit__` raises with the report. -/
def leaveRaises (required failed : Bool) (report : CloseReport) : Option String :=
  if failed then none
  else if required || report.reason.isSome then some (report.reason.getD "daemon_closed")
  else none

/-- `wait_closed`, and the rest of `__exit__`. -/
def waitClosed (required failed : Bool) (frames : List Frame) : Lifecycle :=
  if lifecycle.closeOwner = some thread ∧ lifecycle.closeFinished = false then
    (lifecycle.setStack thread frames).emit
      (.left thread ⟨[]⟩ (leaveRaises required failed ⟨[]⟩))
  else if lifecycle.closeFinished then
    (lifecycle.setStack thread frames).emit
      (.left thread lifecycle.closeReport (leaveRaises required failed lifecycle.closeReport))
  else lifecycle

/-- The first section of `close`. -/
def startClose (frames : List Frame) : Lifecycle :=
  if lifecycle.closeStarted then
    if lifecycle.closeOwner = some thread ∧ lifecycle.closeFinished = false then
      lifecycle.emit (.reentered thread)
    else lifecycle.setStack thread (.waiting :: frames)
  else
    ({ lifecycle with closeStarted := true, closeOwner := some thread }.setStack thread
      (.draining :: frames)).emit (.closeStarted thread)

/-- The rest of `close` in a thread that is not the owner. -/
def observe (frames : List Frame) : Lifecycle :=
  if lifecycle.closeFinished then
    (lifecycle.setStack thread frames).emit (.closed thread lifecycle.closeReport)
  else lifecycle

/-- The owner finds no admission. -/
def drain (frames : List Frame) : Lifecycle :=
  if lifecycle.activeAdmissions = 0 then
    lifecycle.setStack thread (.closing .scheduler [] :: frames)
  else lifecycle

/-- A resource is called. -/
def callTarget (target : Target) (stage : Stage) (diagnostics : List String)
    (frames : List Frame) : Lifecycle :=
  (lifecycle.setStack thread (.closing stage diagnostics :: frames)).emit
    (.attempt target lifecycle.activeAdmissions)

/-- The next call of `_close_owned_resources` and `close_detached`. -/
def call (stage : Stage) (diagnostics : List String) (frames : List Frame) : Lifecycle :=
  match stage with
  | .scheduler => lifecycle.callTarget thread .scheduler .inScheduler diagnostics frames
  | .registry => lifecycle.callTarget thread .registry .inRegistry diagnostics frames
  | .resources (resource :: left) collected =>
      lifecycle.callTarget thread (.resource resource) (.inResource resource left collected)
        diagnostics frames
  | _ => lifecycle

/-- The diagnostics after a call of a resource; without them it escaped. -/
def collect (diagnostics : List String) (kind : String) : CallResult → Option (List String)
  | .returns => some diagnostics
  | .raises errorType => some (appendDiagnostic diagnostics kind errorType)
  | .escapes => none

def Resource.kind : Resource → String
  | .task _ => "task"
  | .client => "client"

/-- An exception leaves `close`, whose caller stays the owner. -/
def abandon (frames : List Frame) : Lifecycle :=
  (lifecycle.setStack thread frames).emit (.abandoned thread)

/-- A resource's call is over; the call of `close` is over too if it escaped. -/
def result (stage : Stage) (diagnostics : List String) (frames : List Frame)
    (result : CallResult) : Lifecycle :=
  match stage with
  | .inScheduler =>
      match collect diagnostics "scheduler" result with
      | some diagnostics => lifecycle.setStack thread (.closing .registry diagnostics :: frames)
      | none => lifecycle.abandon thread frames
  | .inResource resource left collected =>
      match collect collected (Resource.kind resource) result with
      | some collected =>
          lifecycle.setStack thread (.closing (.resources left collected) diagnostics :: frames)
      | none => lifecycle.abandon thread frames
  | _ => lifecycle

/-- `detach_all` is over; nothing is detached when it raised. -/
def detachResult (diagnostics : List String) (frames : List Frame) (result : CallResult)
    (resources : DetachedResources) : Lifecycle :=
  let detached := if result = .returns then resources else ⟨0, false⟩
  match collect diagnostics "registry" result with
  | some diagnostics =>
      { lifecycle with detached := some detached }.setStack thread
        (.closing (.resources detached.resources []) diagnostics :: frames)
  | none => lifecycle.abandon thread frames

/-- The last section of `close`. -/
def publish (collected diagnostics : List String) (frames : List Frame) : Lifecycle :=
  let report := ⟨collected.foldl appendReason diagnostics⟩
  ({ lifecycle with closeReport := report, closeFinished := true, closeOwner := none }.setStack
    thread frames).emit (.closed thread report)

/-- What a thread does; one that cannot stays where it is. -/
def act (action : Action) : Lifecycle :=
  match action, lifecycle.stack thread with
  | .enter required, frames =>
      if canCall frames then lifecycle.enter thread required frames else lifecycle
  | .close, frames => if canCall frames then lifecycle.startClose thread frames else lifecycle
  | .leave failed, .admission required admitted :: frames =>
      lifecycle.leave thread required admitted failed frames
  | .observe, .leaving required failed :: frames =>
      lifecycle.waitClosed thread required failed frames
  | .observe, .waiting :: frames => lifecycle.observe thread frames
  | .drain, .draining :: frames => lifecycle.drain thread frames
  | .call, .closing stage diagnostics :: frames => lifecycle.call thread stage diagnostics frames
  | .result result, .closing stage diagnostics :: frames =>
      lifecycle.result thread stage diagnostics frames result
  | .detachResult result resources, .closing .inRegistry diagnostics :: frames =>
      lifecycle.detachResult thread diagnostics frames result resources
  | .publish, .closing (.resources [] collected) diagnostics :: frames =>
      lifecycle.publish thread collected diagnostics frames
  | _, _ => lifecycle

end Lifecycle

/-- The threads and the lifecycle they share. -/
def shutdown : Machine Lifecycle Step Unit :=
  ⟨fun lifecycle step => (lifecycle.act step.thread step.action, ())⟩

end CodexMustWork.DaemonLifecycle
