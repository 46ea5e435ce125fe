import CodexMustWork.Library.Traversal
import CodexMustWork.StallDetector
import Mathlib.Data.List.AList
import Mathlib.Data.String.Basic

/-!
# Runtime documents and the targets they describe

`scripts/monitor_state.py` and `scripts/monitor_target.py`: the persisted JSON
document of one session, its validation into a `RuntimeTarget`, and the five
mutations the watcher applies to it.

A document is modelled key by key.  `Field` records what `dict.get` finds under
a key, as finely as the source's own checks tell values apart: the key is
missing, the value is `null`, it has the type the source tests for, or it has
another type.  Keys no modelled function reads are left out.
-/

namespace CodexMustWork

/-! ### Names and failures -/

/-- The digest behind file names and event identities, SHA-256 printed in
    hexadecimal.  The development uses nothing of it but injectivity. -/
structure Digest where
  hash : String → String
  hash_injective : Function.Injective hash

/-- The digest that prints its input; it stands for the real one in examples. -/
def Digest.transparent : Digest := ⟨id, Function.injective_id⟩

/-- `_session_filename`: the file name shared by a session's runtime and cursor. -/
def sessionFilename (H : Digest) (sessionId : String) : String :=
  H.hash sessionId ++ ".json"

theorem sessionFilename_injective (H : Digest) : Function.Injective (sessionFilename H) := by
  intro left right heq
  exact H.hash_injective ((String.append_left_inj _).mp heq)

inductive CorruptReason where
  | invalidJson
  | invalidTopLevel
  | invalidSchema
  | invalidValue
deriving DecidableEq, Repr

/-- The exceptions that leave a watcher step.  `osError` stands for every
    `OSError` of the operating system, `sinkError` for whatever a delivery sink
    raises besides `NotificationDeliveryError`; the last two come from a line of a
    rollout that `json.loads` does not take. -/
inductive Failure where
  | corruptState (path : String) (reason : CorruptReason)
  | futureSchema (path : String)
  | stateLockTimeout (path : String)
  | unsafeRolloutPath
  | osError
  | sinkError
  | valueError
  | recursionError
deriving DecidableEq, Repr

/-- `CorruptStateError(path, CorruptReason.INVALID_VALUE)`. -/
def invalidValue (path : String) : Failure := .corruptState path .invalidValue

/-! ### Documents -/

inductive Field (α : Type) where
  | absent
  | null
  | value (a : α)
  | mistyped
deriving DecidableEq, Repr

inductive MonitorStatus where
  | running
  | terminal
deriving DecidableEq, Repr

/-- One monitor object of a runtime document. -/
structure MonitorValues where
  status : Field MonitorStatus
  generation : Field Int
  openToolCount : Field Int
  waitingForApproval : Field Bool
  waitingForUser : Field Bool
  progressEpoch : Field Int
  silenceStartedAt : Field Int
deriving DecidableEq

/-- The children object: child identifiers are its keys, so they are distinct. -/
abbrev ChildValues := AList (fun _ : String => Field MonitorValues)

-- The instance of `AList` is a proof by rewriting, which does not evaluate.
instance : DecidableEq ChildValues := fun left right =>
  decidable_of_iff (left.entries = right.entries) AList.ext_iff.symm

/-- The runtime document of one session. -/
structure RuntimeValues where
  enabled : Field Bool
  sessionId : Field String
  transcriptPath : Field String
  parentTurnId : Field String
  parentComplete : Field Bool
  warningAfterMs : Field Int
  criticalAfterMs : Field Int
  restartAfterMs : Field Int
  turnActivityEpoch : Field Int
  revision : Field Int
  completionEventId : Field String
  parent : Field MonitorValues
  children : Field ChildValues
deriving DecidableEq

/-! ### Targets -/

/-- Allowlisted state of one parent (`targetId = none`) or child generation. -/
structure MonitorTarget where
  targetId : Option String
  generation : Nat
  terminal : Bool
  openToolCount : Nat
  waitingForApproval : Bool
  waitingForUser : Bool
  progressEpoch : Nat
  startedAt : Option Int
deriving DecidableEq, Repr

/-- One explicitly enabled monitoring session. -/
structure RuntimeTarget where
  sessionId : String
  runtimeFile : String
  rolloutFile : String
  parentTurnId : Option String
  parentComplete : Bool
  thresholds : Thresholds
  turnActivityEpoch : Nat
  revision : Nat
  parent : Option MonitorTarget
  children : List MonitorTarget

/-- The parent first, followed by its children. -/
def RuntimeTarget.targets (target : RuntimeTarget) : List MonitorTarget :=
  target.parent.toList ++ target.children

/-- `any(not monitor.terminal for monitor in target.targets)`. -/
def RuntimeTarget.hasRunning (target : RuntimeTarget) : Bool :=
  target.targets.any fun monitor => !monitor.terminal

/-! ### Validation -/

def stringField (field : Field String) (path : String) : Except Failure String :=
  match field with
  | .value text => if text = "" then .error (invalidValue path) else .ok text
  | _ => .error (invalidValue path)

def booleanField (field : Field Bool) (path : String) : Except Failure Bool :=
  match field with
  | .value flag => .ok flag
  | _ => .error (invalidValue path)

def integerField (field : Field Int) (path : String) (minimum : Nat) : Except Failure Nat :=
  match field with
  | .value number => if number < minimum then .error (invalidValue path) else .ok number.toNat
  | _ => .error (invalidValue path)

/-- Only a missing key takes the default; `null` is refused. -/
def optionalIntegerField (field : Field Int) (path : String) (default : Nat) :
    Except Failure Nat :=
  match field with
  | .absent => .ok default
  | .value number => if number < 0 then .error (invalidValue path) else .ok number.toNat
  | _ => .error (invalidValue path)

theorem integerField_value {minimum number : Nat} (hminimum : minimum ≤ number) (path : String) :
    integerField (.value number) path minimum = .ok number := by
  have hnot : ¬ (number : Int) < minimum := by omega
  rw [integerField, if_neg hnot, Int.toNat_natCast]

@[simp] theorem optionalIntegerField_value (number : Nat) (path : String) (default : Nat) :
    optionalIntegerField (.value number) path default = .ok number := by
  have hnot : ¬ (number : Int) < 0 := by omega
  rw [optionalIntegerField, if_neg hnot, Int.toNat_natCast]

theorem stringField_value {text : String} (htext : text ≠ "") (path : String) :
    stringField (.value text) path = .ok text := if_neg htext

/-- `_optional_datetime`; a string that is no timestamp counts as mistyped. -/
def optionalDatetimeField (field : Field Int) (path : String) : Except Failure (Option Int) :=
  match field with
  | .absent | .null => .ok none
  | .value instant => .ok (some instant)
  | .mistyped => .error (invalidValue path)

def optionalStringField (field : Field String) (path : String) :
    Except Failure (Option String) :=
  match field with
  | .absent | .null => .ok none
  | .value text => .ok (some text)
  | .mistyped => .error (invalidValue path)

/-- `_target_monitor`.  A status other than the two known ones is `mistyped`. -/
def targetMonitor (values : MonitorValues) (targetId : Option String) (path : String) :
    Except Failure MonitorTarget := do
  let status ← match values.status with
    | .value status => pure status
    | _ => throw (invalidValue path)
  let generation ← integerField values.generation path 1
  let openToolCount ← integerField values.openToolCount path 0
  let waitingForApproval ← booleanField values.waitingForApproval path
  let waitingForUser ← booleanField values.waitingForUser path
  let progressEpoch ← optionalIntegerField values.progressEpoch path 0
  let startedAt ← optionalDatetimeField values.silenceStartedAt path
  return {
    targetId, generation, terminal := status == .terminal, openToolCount
    waitingForApproval, waitingForUser, progressEpoch, startedAt }

def targetParent (values : RuntimeValues) (path : String) :
    Except Failure (Option MonitorTarget) :=
  match values.parent with
  | .absent | .null => .ok none
  | .value raw => (targetMonitor raw none path).map some
  | .mistyped => .error (invalidValue path)

def targetChild (path : String) (child : (_ : String) × Field MonitorValues) :
    Except Failure MonitorTarget :=
  if child.1 = "" then .error (invalidValue path)
  else
    match child.2 with
    | .value raw => targetMonitor raw (some child.1) path
    | _ => .error (invalidValue path)

def targetChildren (values : RuntimeValues) (path : String) :
    Except Failure (List MonitorTarget) :=
  match values.children with
  | .value children => children.entries.mapM (targetChild path)
  | _ => .error (invalidValue path)

/-- `critical_after_ms`, or the legacy `restart_after_ms` when that is missing or null. -/
def RuntimeValues.criticalValue (values : RuntimeValues) : Field Int :=
  match values.criticalAfterMs with
  | .absent | .null => values.restartAfterMs
  | field => field

/-- `Thresholds(warning_ms / 1000, critical / 1000)`, in microseconds. -/
def thresholdsOfMs (warningMs criticalMs : Nat) (path : String) : Except Failure Thresholds :=
  if h : 0 < warningMs ∧ warningMs < criticalMs then
    .ok ⟨warningMs * 1000, criticalMs * 1000, by omega, by omega⟩
  else .error (invalidValue path)

/-- Validate the locked values of one session.  `resolve` is
    `resolve_rollout_path`, which looks at the file system. -/
def runtimeTargetFromValues (H : Digest) (resolve : String → Except Failure String)
    (path : String) (values : RuntimeValues) : Except Failure RuntimeTarget := do
  let sessionId ← stringField values.sessionId path
  if sessionFilename H sessionId ≠ path then throw (invalidValue path)
  let transcript ← stringField values.transcriptPath path
  let parentTurnId ← optionalStringField values.parentTurnId path
  let warningMs ← integerField values.warningAfterMs path 1
  let criticalMs ← integerField values.criticalValue path 1
  let thresholds ← thresholdsOfMs warningMs criticalMs path
  let rolloutFile ← resolve transcript
  let parentComplete ← booleanField values.parentComplete path
  let turnActivityEpoch ← optionalIntegerField values.turnActivityEpoch path 0
  let revision ← optionalIntegerField values.revision path 0
  let parent ← targetParent values path
  let children ← targetChildren values path
  return {
    sessionId, runtimeFile := path, rolloutFile, parentTurnId, parentComplete, thresholds
    turnActivityEpoch, revision, parent, children }

theorem exceptBind_eq_ok {α β : Type} {first : Except Failure α} {next : α → Except Failure β}
    {result : β} (hok : (first >>= next) = .ok result) :
    ∃ middle, first = .ok middle ∧ next middle = .ok result := by
  cases first with
  | error failure => cases hok
  | ok middle => exact ⟨middle, rfl, hok⟩

/-- A validated target is the session its file is named after. -/
theorem runtimeTargetFromValues_eq_ok {H : Digest} {resolve : String → Except Failure String}
    {path : String} {values : RuntimeValues} {target : RuntimeTarget}
    (hok : runtimeTargetFromValues H resolve path values = .ok target) :
    target.runtimeFile = path ∧ sessionFilename H target.sessionId = path := by
  unfold runtimeTargetFromValues at hok
  obtain ⟨sessionId, _, hok⟩ := exceptBind_eq_ok hok
  by_cases hpath : sessionFilename H sessionId ≠ path
  · rw [if_pos hpath] at hok
    cases hok
  · rw [if_neg hpath] at hok
    obtain ⟨transcript, _, hok⟩ := exceptBind_eq_ok hok
    obtain ⟨parentTurnId, _, hok⟩ := exceptBind_eq_ok hok
    obtain ⟨warningMs, _, hok⟩ := exceptBind_eq_ok hok
    obtain ⟨criticalMs, _, hok⟩ := exceptBind_eq_ok hok
    obtain ⟨thresholds, _, hok⟩ := exceptBind_eq_ok hok
    obtain ⟨rolloutFile, _, hok⟩ := exceptBind_eq_ok hok
    obtain ⟨parentComplete, _, hok⟩ := exceptBind_eq_ok hok
    obtain ⟨turnActivityEpoch, _, hok⟩ := exceptBind_eq_ok hok
    obtain ⟨revision, _, hok⟩ := exceptBind_eq_ok hok
    obtain ⟨parent, _, hok⟩ := exceptBind_eq_ok hok
    obtain ⟨children, _, hok⟩ := exceptBind_eq_ok hok
    cases hok
    exact ⟨rfl, not_not.mp hpath⟩

/-- What validation read out of the values, whatever the transcript resolves to. -/
structure ValidatedAs (H : Digest) (path : String) (values : RuntimeValues)
    (target : RuntimeTarget) : Prop where
  sessionId : stringField values.sessionId path = .ok target.sessionId
  named : sessionFilename H target.sessionId = path
  runtimeFile : target.runtimeFile = path
  parentTurnId : optionalStringField values.parentTurnId path = .ok target.parentTurnId
  thresholds : ∃ warningMs criticalMs, integerField values.warningAfterMs path 1 = .ok warningMs ∧
    integerField values.criticalValue path 1 = .ok criticalMs ∧
    thresholdsOfMs warningMs criticalMs path = .ok target.thresholds
  parentComplete : booleanField values.parentComplete path = .ok target.parentComplete
  turnActivityEpoch :
    optionalIntegerField values.turnActivityEpoch path 0 = .ok target.turnActivityEpoch
  revision : optionalIntegerField values.revision path 0 = .ok target.revision
  parent : targetParent values path = .ok target.parent
  children : targetChildren values path = .ok target.children

/-- **Validation.**  A target is validated exactly when its fields are what the document
    says and its rollout is where the transcript resolves to. -/
theorem runtimeTargetFromValues_eq_ok_iff {H : Digest} {resolve : String → Except Failure String}
    {path : String} {values : RuntimeValues} {target : RuntimeTarget} :
    runtimeTargetFromValues H resolve path values = .ok target ↔
      ValidatedAs H path values target ∧ ∃ transcript,
        stringField values.transcriptPath path = .ok transcript ∧
          resolve transcript = .ok target.rolloutFile := by
  constructor
  · intro hok
    unfold runtimeTargetFromValues at hok
    obtain ⟨sessionId, hsession, hok⟩ := exceptBind_eq_ok hok
    by_cases hpath : sessionFilename H sessionId ≠ path
    · rw [if_pos hpath] at hok
      cases hok
    · rw [if_neg hpath] at hok
      obtain ⟨transcript, htranscript, hok⟩ := exceptBind_eq_ok hok
      obtain ⟨parentTurnId, hturn, hok⟩ := exceptBind_eq_ok hok
      obtain ⟨warningMs, hwarning, hok⟩ := exceptBind_eq_ok hok
      obtain ⟨criticalMs, hcritical, hok⟩ := exceptBind_eq_ok hok
      obtain ⟨thresholds, hthresholds, hok⟩ := exceptBind_eq_ok hok
      obtain ⟨rolloutFile, hrollout, hok⟩ := exceptBind_eq_ok hok
      obtain ⟨parentComplete, hcomplete, hok⟩ := exceptBind_eq_ok hok
      obtain ⟨turnActivityEpoch, hepoch, hok⟩ := exceptBind_eq_ok hok
      obtain ⟨revision, hrevision, hok⟩ := exceptBind_eq_ok hok
      obtain ⟨parent, hparent, hok⟩ := exceptBind_eq_ok hok
      obtain ⟨children, hchildren, hok⟩ := exceptBind_eq_ok hok
      cases hok
      exact ⟨⟨hsession, not_not.mp hpath, rfl, hturn, ⟨warningMs, criticalMs, hwarning, hcritical,
        hthresholds⟩, hcomplete, hepoch, hrevision, hparent, hchildren⟩, transcript, htranscript,
        hrollout⟩
  · rintro ⟨hvalid, transcript, htranscript, hrollout⟩
    obtain ⟨warningMs, criticalMs, hwarning, hcritical, hthresholds⟩ := hvalid.thresholds
    have hnamed : ¬ sessionFilename H target.sessionId ≠ path := not_not.mpr hvalid.named
    have hfile := hvalid.runtimeFile
    unfold runtimeTargetFromValues
    simp only [hvalid.sessionId, htranscript, hvalid.parentTurnId, hwarning, hcritical,
      hthresholds, hrollout, hvalid.parentComplete, hvalid.turnActivityEpoch, hvalid.revision,
      hvalid.parent, hvalid.children, bind, Except.bind, if_neg hnamed, pure, Except.pure]
    subst hfile
    rfl

/-! ### Mutations -/

/-- Persist the first completion claim; `false` when the same claim is there. -/
def claimCompletion (values : RuntimeValues) (eventId path : String) :
    Except Failure (Bool × RuntimeValues) :=
  match values.completionEventId with
  | .mistyped => .error (invalidValue path)
  | .value recorded =>
      if recorded = eventId then .ok (false, values)
      else .ok (true, { values with completionEventId := .value eventId })
  | _ => .ok (true, { values with completionEventId := .value eventId })

/-- The monitor object of one target, when the document has one. -/
def RuntimeValues.rawTarget (values : RuntimeValues) (targetId : Option String) :
    Option MonitorValues :=
  match targetId with
  | none =>
      match values.parent with
      | .value raw => some raw
      | _ => none
  | some childId =>
      match values.children with
      | .value children =>
          match children.lookup childId with
          | some (.value raw) => some raw
          | _ => none
      | _ => none

/-- Write the monitor object of one target back into its place. -/
def RuntimeValues.setRawTarget (values : RuntimeValues) (targetId : Option String)
    (raw : MonitorValues) : RuntimeValues :=
  match targetId with
  | none => { values with parent := .value raw }
  | some childId =>
      match values.children with
      | .value children => { values with children := .value (children.replace childId (.value raw)) }
      | _ => values

/-- Persist one confirmed terminal transition; `false` when it already was. -/
def markTargetTerminal (values : RuntimeValues) (targetId : Option String) (path : String) :
    Except Failure (Bool × RuntimeValues) :=
  match values.rawTarget targetId with
  | none => .error (invalidValue path)
  | some raw =>
      match raw.status with
      | .value .terminal => .ok (false, values)
      | .value .running =>
          .ok (true, values.setRawTarget targetId { raw with status := .value .terminal })
      | _ => .error (invalidValue path)

/-- Persist one advance of the progress epoch and its new silence anchor. -/
def advanceTargetProgressEpoch (values : RuntimeValues) (targetId : Option String)
    (path : String) (observedAt : Int) : Except Failure RuntimeValues := do
  match values.rawTarget targetId with
  | none => throw (invalidValue path)
  | some raw =>
      let epoch ← optionalIntegerField raw.progressEpoch path 0
      return values.setRawTarget targetId
        { raw with progressEpoch := .value (epoch + 1), silenceStartedAt := .value observedAt }

/-- Persist one confirmed completion of the parent turn. -/
def markParentComplete (values : RuntimeValues) (path : String) :
    Except Failure (Bool × RuntimeValues) :=
  match values.parentComplete with
  | .value true => .ok (false, values)
  | .value false => .ok (true, { values with parentComplete := .value true })
  | _ => .error (invalidValue path)

/-- `activity_epoch.persist_turn_activity`. -/
def persistTurnActivity (values : RuntimeValues) (path : String) (observed : Bool) :
    Except Failure RuntimeValues :=
  if observed then do
    let epoch ← optionalIntegerField values.turnActivityEpoch path 0
    return { values with turnActivityEpoch := .value (epoch + 1) }
  else .ok values

end CodexMustWork
