import CodexMustWork.NotificationDaemon

/-!
# Documents of fresh activations

What the watcher can make of a session that `start_notification_session`
created: its document stays of one shape, with a progress epoch, an anchor and
two counters that move.  `SessionDocument` is that shape, so an ill-formed
document of such a session cannot be written down, and each mutation of the
watcher is a function on it.
-/

namespace CodexMustWork

/-- The thresholds a request asks for, in microseconds. -/
def StartRequest.thresholds (request : StartRequest) : Thresholds where
  warning := request.warningAfterMs * 1000
  critical := request.criticalAfterMs * 1000
  warning_pos := by
    have hwarning := request.warning_pos
    omega
  ordered := by
    have hordered := request.ordered
    omega

/-- A request with thresholds of one and two milliseconds. -/
def sampleRequest : StartRequest where
  sessionId := "s"
  transcriptPath := "/t"
  warningAfterMs := 1
  criticalAfterMs := 2
  sessionId_nonempty := by decide
  warning_pos := by decide
  ordered := by decide

def sampleStart : StartFaults := { transcript := some sampleTranscript }

/-- An empty state root after that request. -/
def sampleRoot : StateRoot :=
  (startNotificationSession .transparent sampleStart .empty sampleRequest 0).1

/-- A running session, from its start to its completion. -/
structure SessionDocument where
  request : StartRequest
  transcript : RelativeTranscript
  progressEpoch : Nat
  silenceStartedAt : Int
  turnActivityEpoch : Nat
  revision : Nat

namespace SessionDocument

/-- The document of a session that starts now. -/
def started (request : StartRequest) (transcript : RelativeTranscript) (now : Int) :
    SessionDocument :=
  ⟨request, transcript, 0, now, 0, 0⟩

variable (doc : SessionDocument)

def sessionId : String := doc.request.sessionId

def path (H : Digest) : String := sessionFilename H doc.sessionId

def monitorValues : MonitorValues :=
  { newMonitor doc.silenceStartedAt with progressEpoch := .value doc.progressEpoch }

/-- The runtime document. -/
def values : RuntimeValues :=
  { newSession doc.request doc.transcript 0 with
    turnActivityEpoch := .value doc.turnActivityEpoch
    revision := .value doc.revision
    parent := .value doc.monitorValues }

def thresholds : Thresholds := doc.request.thresholds

/-- The document with its completion fields as given. -/
def valuesWith (complete : Bool) (status : MonitorStatus) (completion : Field String) :
    RuntimeValues :=
  { doc.values with
    parentComplete := .value complete
    completionEventId := completion
    parent := .value { doc.monitorValues with status := .value status } }

/-- The only monitor of the session. -/
def monitor : MonitorTarget where
  targetId := none
  generation := 1
  terminal := false
  openToolCount := 0
  waitingForApproval := false
  waitingForUser := false
  progressEpoch := doc.progressEpoch
  startedAt := some doc.silenceStartedAt

def target (H : Digest) (rollout : String) : RuntimeTarget where
  sessionId := doc.sessionId
  runtimeFile := doc.path H
  rolloutFile := rollout
  parentTurnId := none
  parentComplete := false
  thresholds := doc.thresholds
  turnActivityEpoch := doc.turnActivityEpoch
  revision := doc.revision
  parent := some doc.monitor
  children := []

/-- The target of such a document. -/
def targetWith (H : Digest) (complete : Bool) (status : MonitorStatus) (rollout : String) :
    RuntimeTarget :=
  { doc.target H rollout with
    parentComplete := complete
    parent := some { doc.monitor with terminal := status == .terminal } }

/-- The key of the detector. -/
def key : DetectorKey := (doc.sessionId, none, 1)

/-- Counted progress. -/
def advance (wallTime : Int) : SessionDocument :=
  { doc with progressEpoch := doc.progressEpoch + 1, silenceStartedAt := wallTime }

def observeActivity : SessionDocument :=
  { doc with turnActivityEpoch := doc.turnActivityEpoch + 1 }

/-- What one tick writes, with the count of its revision. -/
def afterTick (progressed : Bool) (wallTime : Int) : SessionDocument :=
  if progressed then
    { doc.advance wallTime with
      turnActivityEpoch := doc.turnActivityEpoch + 1
      revision := doc.revision + 1 }
  else doc

@[simp] theorem targets_target (H : Digest) (rollout : String) :
    (doc.target H rollout).targets = [doc.monitor] := rfl

@[simp] theorem detectorKey_monitor (H : Digest) (rollout : String) :
    detectorKey (doc.target H rollout) doc.monitor = doc.key := rfl

theorem thresholdsOfMs_request (path : String) :
    thresholdsOfMs doc.request.warningAfterMs doc.request.criticalAfterMs path =
      .ok doc.thresholds := by
  rw [thresholdsOfMs, dif_pos ⟨doc.request.warning_pos, doc.request.ordered⟩]
  rfl

theorem targetMonitor_monitorValues (status : MonitorStatus) (path : String) :
    targetMonitor { doc.monitorValues with status := .value status } none path =
      .ok { doc.monitor with terminal := status == .terminal } := by
  have hgeneration : integerField (.value 1) path 1 = .ok 1 := integerField_value le_rfl path
  have htools : integerField (.value 0) path 0 = .ok 0 := integerField_value le_rfl path
  simp only [targetMonitor, monitorValues, newMonitor, hgeneration, htools, booleanField,
    optionalIntegerField_value, optionalDatetimeField, bind, Except.bind, pure, Except.pure]
  rfl

/-- Validation up to the transcript, which the file system resolves. -/
theorem runtimeTargetFromValues_valuesWith (H : Digest)
    (resolve : String → Except Failure String) (complete : Bool) (status : MonitorStatus)
    (completion : Field String) :
    runtimeTargetFromValues H resolve (doc.path H) (doc.valuesWith complete status completion) =
      (resolve doc.transcript.path).map (doc.targetWith H complete status) := by
  have hwarning := doc.request.warning_pos
  have hordered := doc.request.ordered
  have hsession : stringField doc.values.sessionId (doc.path H) = .ok doc.sessionId :=
    stringField_value doc.request.sessionId_nonempty _
  have htranscript : stringField doc.values.transcriptPath (doc.path H) =
      .ok doc.transcript.path := stringField_value doc.transcript.path_nonempty _
  have hwarning : integerField doc.values.warningAfterMs (doc.path H) 1 =
      .ok doc.request.warningAfterMs := integerField_value (by omega) _
  have hcritical : integerField
      (doc.valuesWith complete status completion).criticalValue (doc.path H) 1 =
        .ok doc.request.criticalAfterMs := integerField_value (by omega) _
  have hactivity : optionalIntegerField doc.values.turnActivityEpoch (doc.path H) 0 =
      .ok doc.turnActivityEpoch := optionalIntegerField_value _ _ _
  have hrevision : optionalIntegerField doc.values.revision (doc.path H) 0 =
      .ok doc.revision := optionalIntegerField_value _ _ _
  have hpath : ¬ sessionFilename H doc.sessionId ≠ doc.path H := fun hne => hne rfl
  have hparent : targetParent (doc.valuesWith complete status completion) (doc.path H) =
      .ok (some { doc.monitor with terminal := status == .terminal }) := by
    change (targetMonitor { doc.monitorValues with status := .value status } none
      (doc.path H)).map some = _
    rw [targetMonitor_monitorValues]
    rfl
  unfold runtimeTargetFromValues
  rw [hparent, hcritical]
  unfold valuesWith
  simp only [hsession, htranscript, hwarning, hactivity, hrevision, hpath,
    thresholdsOfMs_request, bind, Except.bind, if_false]
  cases resolve doc.transcript.path with
  | error failure => rfl
  | ok rollout => rfl

theorem runtimeTargetFromValues_values (H : Digest) (resolve : String → Except Failure String) :
    runtimeTargetFromValues H resolve (doc.path H) doc.values =
      (resolve doc.transcript.path).map (doc.target H) :=
  doc.runtimeTargetFromValues_valuesWith H resolve false .running .null

/-! ### The mutations of a tick -/

theorem advanceTargetProgressEpoch_values (path : String) (wallTime : Int) :
    advanceTargetProgressEpoch doc.values none path wallTime =
      .ok (doc.advance wallTime).values := by
  have hfield : optionalIntegerField doc.monitorValues.progressEpoch path 0 =
      .ok doc.progressEpoch := optionalIntegerField_value _ _ _
  have hraw : doc.values.rawTarget none = some doc.monitorValues := rfl
  rw [advanceTargetProgressEpoch, hraw]
  simp only [hfield]
  rfl

theorem persistTurnActivity_values (path : String) (observed : Bool) :
    persistTurnActivity doc.values path observed =
      .ok (if observed then doc.observeActivity else doc).values := by
  cases observed with
  | false => rfl
  | true =>
      have hfield : optionalIntegerField doc.values.turnActivityEpoch path 0 =
          .ok doc.turnActivityEpoch := optionalIntegerField_value _ _ _
      rw [persistTurnActivity, if_pos rfl, hfield]
      rfl

/-- What the view of a session takes from its document is what the document holds. -/
theorem same_of_values {other : SessionDocument} (heq : doc.values = other.values) :
    doc.thresholds = other.thresholds ∧ doc.progressEpoch = other.progressEpoch ∧
      doc.silenceStartedAt = other.silenceStartedAt := by
  have hwarning : doc.request.warningAfterMs = other.request.warningAfterMs :=
    Int.ofNat.inj (Field.value.inj (congrArg RuntimeValues.warningAfterMs heq))
  have hcritical : doc.request.criticalAfterMs = other.request.criticalAfterMs :=
    Int.ofNat.inj (Field.value.inj (congrArg RuntimeValues.criticalAfterMs heq))
  have hmonitor : doc.monitorValues = other.monitorValues :=
    Field.value.inj (congrArg RuntimeValues.parent heq)
  have hepoch : doc.progressEpoch = other.progressEpoch :=
    Int.ofNat.inj (Field.value.inj (congrArg MonitorValues.progressEpoch hmonitor))
  have hanchor : doc.silenceStartedAt = other.silenceStartedAt :=
    Field.value.inj (congrArg MonitorValues.silenceStartedAt hmonitor)
  refine ⟨?_, hepoch, hanchor⟩
  simp only [thresholds, StartRequest.thresholds, hwarning, hcritical]

/-- The documents of a tick that advanced are different. -/
theorem values_ne_of_progressEpoch {other : SessionDocument}
    (hne : other.progressEpoch ≠ doc.progressEpoch) : other.values ≠ doc.values :=
  fun heq => hne (other.same_of_values heq).2.1

end SessionDocument

/-- A start that creates the document of a session. -/
theorem startNotificationSession_fresh {H : Digest} {faults : StartFaults} {root root' : StateRoot}
    {request : StartRequest} {now : Int}
    (hstart : startNotificationSession H faults root request now = (root', .ok false)) :
    ∃ transcript, faults.transcript = some transcript ∧
      root.runtime.lookup (sessionFilename H request.sessionId) = none ∧
      root' = root.setRuntime (sessionFilename H request.sessionId)
        (SessionDocument.started request transcript now).values := by
  unfold startNotificationSession at hstart
  cases htranscript : faults.transcript with
  | none => simp [htranscript] at hstart
  | some transcript =>
      cases hfile : root.runtime.lookup (sessionFilename H request.sessionId) with
      | some file =>
          cases file with
          | error failure => simp [htranscript, hfile] at hstart
          | ok values =>
              simp only [htranscript, hfile] at hstart
              split_ifs at hstart <;> simp at hstart
      | none =>
          cases hsave : faults.save with
          | some failure => simp [htranscript, hfile, hsave] at hstart
          | none =>
              simp only [htranscript, hfile, hsave, Prod.mk.injEq] at hstart
              exact ⟨transcript, rfl, rfl, hstart.1.symm⟩

end CodexMustWork
