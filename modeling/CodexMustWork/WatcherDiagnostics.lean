import CodexMustWork.RuntimeDocument
import CodexMustWork.Library.JoinedFields

/-!
# Diagnostics, event identities and queued notifications

`scripts/watcher_diagnostics.py`, `scripts/watcher_notifications.py` and the
part of `scripts/monitor_diagnostics.py` they use.  The diagnostic log is the
list of its retained events, oldest first; rotation is not modelled here, so
nothing ever leaves the list.
-/

namespace CodexMustWork

open JoinedFields

inductive DiagnosticCode where
  | watcherStarted
  | heartbeatActive
  | watcherCompleted
  | observableProgressSilence
  | bottleneckCritical
  | progressRecovered
  | discordNotificationFailed
  | rolloutCorrupt
  | rolloutRotated
deriving DecidableEq, Repr

/-- The text of a code, as it enters log lines and identities. -/
def DiagnosticCode.value : DiagnosticCode → String
  | .watcherStarted => "watcher_started"
  | .heartbeatActive => "heartbeat_active"
  | .watcherCompleted => "watcher_completed"
  | .observableProgressSilence => "observable_progress_silence"
  | .bottleneckCritical => "bottleneck_critical"
  | .progressRecovered => "progress_recovered"
  | .discordNotificationFailed => "discord_notification_failed"
  | .rolloutCorrupt => "rollout_corrupt"
  | .rolloutRotated => "rollout_rotated"

inductive MonitorState where
  | active
  | paused
  | completed
  | failedClosed
deriving DecidableEq, Repr

/-- One line of the diagnostic log. -/
structure DiagnosticEvent where
  occurredAt : Int
  code : DiagnosticCode
  state : MonitorState
  sessionHash : String
  childHash : Option String
  elapsedMs : Option Nat
  eventId : Option String
deriving DecidableEq, Repr

/-- The retained events of `logs/diagnostic.jsonl` and its backups. -/
abbrev DiagnosticLog := List DiagnosticEvent

/-- `diagnostic_event_exists`. -/
def DiagnosticLog.hasEvent (log : DiagnosticLog) (eventId : String) : Bool :=
  log.any fun event => decide (event.eventId = some eventId)

/-- Append a unique event and report whether it was newly written. -/
def appendDiagnosticOnce (log : DiagnosticLog) (event : DiagnosticEvent) :
    Bool × DiagnosticLog :=
  if event.eventId.any log.hasEvent then (false, log) else (true, log ++ [event])

/-! ### Identities -/

/-- The separator of identity fields, `"\0"`. -/
def nul : Char := Char.ofNat 0

/-- The text hashed by `completion_event_id`. -/
def completionIdentity (sessionId turnId : String) : String :=
  join nul DiagnosticCode.watcherCompleted.value (join nul sessionId turnId)

/-- The text hashed by `lifecycle_event_id`. -/
def lifecycleIdentity (code : DiagnosticCode) (sessionId turnId targetId : String)
    (generation progressEpoch : Nat) : String :=
  join nul
    (join nul (join nul code.value (join nul sessionId (join nul turnId targetId)))
      generation.repr)
    progressEpoch.repr

/-- The stable identity of one parent-turn completion. -/
def completionEventId (H : Digest) (target : RuntimeTarget) : String :=
  H.hash (completionIdentity target.sessionId (target.parentTurnId.getD ""))

/-- The stable identity of a target's current progress epoch. -/
def lifecycleEventId (H : Digest) (code : DiagnosticCode) (target : RuntimeTarget)
    (monitor : MonitorTarget) : String :=
  H.hash (lifecycleIdentity code target.sessionId (target.parentTurnId.getD "")
    (monitor.targetId.getD "") monitor.generation monitor.progressEpoch)

def notificationFailureEventId (H : Digest) (eventId : String) : String :=
  H.hash (join nul DiagnosticCode.discordNotificationFailed.value eventId)

/-! ### Recording -/

/-- One safe diagnostic request tied to an allowlisted target. -/
structure TargetDiagnostic where
  occurredAt : Int
  code : DiagnosticCode
  target : Option MonitorTarget := none
  state : MonitorState := .active
  elapsedMs : Option Nat := none
  eventId : Option String := none
deriving DecidableEq, Repr

/-- Hash the opaque identifiers of one diagnostic. -/
def diagnosticEvent (H : Digest) (target : RuntimeTarget) (diagnostic : TargetDiagnostic) :
    DiagnosticEvent where
  occurredAt := diagnostic.occurredAt
  code := diagnostic.code
  state := diagnostic.state
  sessionHash := H.hash target.sessionId
  childHash := (diagnostic.target.bind fun monitor => monitor.targetId).map H.hash
  elapsedMs := diagnostic.elapsedMs
  eventId := diagnostic.eventId

def appendTargetDiagnosticOnce (H : Digest) (log : DiagnosticLog) (target : RuntimeTarget)
    (diagnostic : TargetDiagnostic) : Bool × DiagnosticLog :=
  appendDiagnosticOnce log (diagnosticEvent H target diagnostic)

def appendTargetDiagnostic (H : Digest) (log : DiagnosticLog) (target : RuntimeTarget)
    (diagnostic : TargetDiagnostic) : DiagnosticLog :=
  (appendTargetDiagnosticOnce H log target diagnostic).2

/-- Lifecycle transitions that may leave the local machine. -/
inductive NotificationKind where
  | bottleneckSuspected
  | bottleneckCritical
  | progressRecovered
  | completed
deriving DecidableEq, Repr

inductive NotificationSubject where
  | task
  | mainAgent
  | subagent (targetId : String)
deriving DecidableEq, Repr

structure LifecycleNotification where
  eventId : String
  sessionId : String
  kind : NotificationKind
  subject : NotificationSubject
  elapsedMs : Option Nat
  thresholdMs : Option Nat
deriving DecidableEq, Repr

structure PendingNotification where
  target : RuntimeTarget
  diagnostic : TargetDiagnostic
  event : LifecycleNotification

/-- `_notification_kind`. -/
def notificationKind : DiagnosticCode → Option NotificationKind
  | .observableProgressSilence => some .bottleneckSuspected
  | .bottleneckCritical => some .bottleneckCritical
  | .progressRecovered => some .progressRecovered
  | .watcherCompleted => some .completed
  | _ => none

/-- `_notification_subject`. -/
def notificationSubject (diagnostic : TargetDiagnostic) : NotificationSubject :=
  match diagnostic.target with
  | none => .task
  | some monitor =>
      match monitor.targetId with
      | none => .mainAgent
      | some targetId => .subagent targetId

/-- `_notification_threshold_ms`: the configured boundary, not the tick drift. -/
def notificationThresholdMs (target : RuntimeTarget) : NotificationKind → Option Nat
  | .bottleneckSuspected => some (target.thresholds.warning / 1000).toNat
  | .bottleneckCritical => some (target.thresholds.critical / 1000).toNat
  | .progressRecovered | .completed => none

/-- What `WatcherNotificationRecorder` writes to: the log of the state root and
    the notifications it has queued for the next flush. -/
structure Recorder where
  log : DiagnosticLog
  pending : List PendingNotification := []

/-- Record one diagnostic and queue only supported new lifecycle events. -/
def Recorder.record (H : Digest) (recorder : Recorder) (target : RuntimeTarget)
    (diagnostic : TargetDiagnostic) : Recorder :=
  let (appended, log) := appendTargetDiagnosticOnce H recorder.log target diagnostic
  match appended, notificationKind diagnostic.code, diagnostic.eventId with
  | true, some kind, some eventId =>
      { log
        pending := recorder.pending ++ [{
          target, diagnostic
          event := {
            eventId, sessionId := target.sessionId, kind
            subject := notificationSubject diagnostic
            elapsedMs := diagnostic.elapsedMs
            thresholdMs := notificationThresholdMs target kind } }] }
  | _, _, _ => { recorder with log }

/-- Recover the warned state from the retained diagnostics after a restart. -/
def Recorder.warningWasEmitted (H : Digest) (recorder : Recorder) (target : RuntimeTarget)
    (monitor : MonitorTarget) (state : SilenceState) : Bool :=
  state.warningEmitted ||
    recorder.log.hasEvent (lifecycleEventId H .observableProgressSilence target monitor)

/-- Record progress returning after one warned silence epoch. -/
def Recorder.recordRecovery (H : Digest) (recorder : Recorder) (target : RuntimeTarget)
    (monitor : MonitorTarget) (occurredAt : Int) : Recorder :=
  recorder.record H target {
    occurredAt, code := .progressRecovered, target := some monitor
    eventId := some (lifecycleEventId H .progressRecovered target monitor) }

/-- What a delivery sink does with one notification. -/
inductive Delivery where
  | delivered
  | deliveryError
  | raised
deriving DecidableEq, Repr

/-- The loop of `flush`: a delivery error leaves a diagnostic, any other exception
    ends the loop. -/
def flushAll (H : Digest) (sink : LifecycleNotification → Delivery) :
    DiagnosticLog → List PendingNotification → DiagnosticLog × Except Failure Unit
  | log, [] => (log, .ok ())
  | log, item :: rest =>
      match sink item.event with
      | .delivered => flushAll H sink log rest
      | .raised => (log, .error .sinkError)
      | .deliveryError =>
          flushAll H sink
            (appendTargetDiagnostic H log item.target {
              occurredAt := item.diagnostic.occurredAt, code := .discordNotificationFailed
              target := item.diagnostic.target
              eventId := some (notificationFailureEventId H item.event.eventId) })
            rest

/-- Deliver the queue; it is emptied before the first delivery. -/
def Recorder.flush (H : Digest) (sink : LifecycleNotification → Delivery)
    (recorder : Recorder) : Recorder × Except Failure Unit :=
  let (log, result) := flushAll H sink recorder.log recorder.pending
  ({ log, pending := [] }, result)

/-! ### What identities determine -/

theorem free_code (code : DiagnosticCode) : Free nul code.value := by
  cases code <;> decide

theorem DiagnosticCode.value_injective : Function.Injective DiagnosticCode.value := by
  intro left right heq
  cases left <;> cases right <;> first | rfl | (revert heq; decide)

/-- A lifecycle identity determines its code, its generation and its epoch, and the
    session, turn and target up to the separators between them. -/
theorem lifecycleIdentity_inj {code code' : DiagnosticCode}
    {sessionId turnId targetId sessionId' turnId' targetId' : String}
    {generation epoch generation' epoch' : Nat} :
    lifecycleIdentity code sessionId turnId targetId generation epoch =
        lifecycleIdentity code' sessionId' turnId' targetId' generation' epoch' ↔
      code = code' ∧ generation = generation' ∧ epoch = epoch' ∧
        join nul sessionId (join nul turnId targetId) =
          join nul sessionId' (join nul turnId' targetId') := by
  have hdigit : nul.isDigit = false := by decide
  unfold lifecycleIdentity
  rw [join_right_inj (free_repr hdigit _) (free_repr hdigit _),
    join_right_inj (free_repr hdigit _) (free_repr hdigit _),
    join_left_inj (free_code _) (free_code _), DiagnosticCode.value_injective.eq_iff,
    repr_eq_repr_iff, repr_eq_repr_iff]
  tauto

/-- Within one session, turn and target the lifecycle identities are distinct for
    distinct codes, generations and epochs. -/
theorem lifecycleIdentity_inj_of_target {code code' : DiagnosticCode}
    {sessionId turnId targetId : String} {generation epoch generation' epoch' : Nat} :
    lifecycleIdentity code sessionId turnId targetId generation epoch =
        lifecycleIdentity code' sessionId turnId targetId generation' epoch' ↔
      code = code' ∧ generation = generation' ∧ epoch = epoch' := by
  rw [lifecycleIdentity_inj]
  tauto

theorem lifecycleIdentity_ne_of_code {code : DiagnosticCode} {left : String}
    (hfree : Free nul left) (hcode : code.value ≠ left)
    {sessionId turnId targetId : String} {generation epoch : Nat} (right : String) :
    lifecycleIdentity code sessionId turnId targetId generation epoch ≠ join nul left right := by
  intro heq
  have hassoc : lifecycleIdentity code sessionId turnId targetId generation epoch =
      join nul code.value
        (join nul (join nul (join nul sessionId (join nul turnId targetId)) generation.repr)
          epoch.repr) := by
    simp only [lifecycleIdentity, join_assoc]
  rw [hassoc, join_left_inj (free_code code) hfree] at heq
  exact hcode heq.1

/-! ### What recording does -/

theorem DiagnosticLog.hasEvent_append (log more : DiagnosticLog) (eventId : String) :
    DiagnosticLog.hasEvent (log ++ more) eventId =
      (DiagnosticLog.hasEvent log eventId || DiagnosticLog.hasEvent more eventId) := by
  simp [DiagnosticLog.hasEvent]

theorem DiagnosticLog.hasEvent_append_of_notMem {log more : DiagnosticLog} {eventId : String}
    (hnone : ∀ event ∈ more, event.eventId ≠ some eventId) :
    DiagnosticLog.hasEvent (log ++ more) eventId = log.hasEvent eventId := by
  have habsent : DiagnosticLog.hasEvent more eventId = false := by
    unfold DiagnosticLog.hasEvent
    rw [List.any_eq_false]
    intro event hmem hid
    exact hnone event hmem (by simpa using hid)
  rw [DiagnosticLog.hasEvent_append, habsent, Bool.or_false]

/-- Recording an event leaves exactly that event's identity new in the log. -/
theorem appendDiagnosticOnce_hasEvent (log : DiagnosticLog) (event : DiagnosticEvent)
    (eventId : String) :
    (appendDiagnosticOnce log event).2.hasEvent eventId =
      (log.hasEvent eventId || decide (event.eventId = some eventId)) := by
  unfold appendDiagnosticOnce
  split_ifs with hseen
  · by_cases heq : event.eventId = some eventId
    · have hhas : log.hasEvent eventId = true := by simpa [heq] using hseen
      simp [hhas]
    · simp [heq]
  · simp [DiagnosticLog.hasEvent]

section Record

variable (H : Digest) (recorder : Recorder) (target : RuntimeTarget)
  (diagnostic : TargetDiagnostic)

theorem Recorder.record_hasEvent (eventId : String) :
    (recorder.record H target diagnostic).log.hasEvent eventId =
      (recorder.log.hasEvent eventId || decide (diagnostic.eventId = some eventId)) := by
  have hlog : (recorder.record H target diagnostic).log =
      (appendDiagnosticOnce recorder.log (diagnosticEvent H target diagnostic)).2 := by
    unfold record appendTargetDiagnosticOnce
    dsimp only
    split <;> rfl
  rw [hlog, appendDiagnosticOnce_hasEvent]
  rfl

/-- A lifecycle diagnostic is queued exactly when its identity is new. -/
theorem Recorder.record_pending {kind : NotificationKind} {eventId : String}
    (hkind : notificationKind diagnostic.code = some kind)
    (hidentity : diagnostic.eventId = some eventId) :
    ∃ notification : PendingNotification,
      (recorder.record H target diagnostic).pending =
          recorder.pending ++ (if recorder.log.hasEvent eventId then [] else [notification]) ∧
        notification.diagnostic = diagnostic ∧ notification.event.kind = kind ∧
        notification.event.sessionId = target.sessionId := by
  refine ⟨⟨target, diagnostic, ⟨eventId, target.sessionId, kind, notificationSubject diagnostic,
    diagnostic.elapsedMs, notificationThresholdMs target kind⟩⟩, ?_, rfl, rfl, rfl⟩
  have hnew : (appendDiagnosticOnce recorder.log (diagnosticEvent H target diagnostic)).1 =
      !recorder.log.hasEvent eventId := by
    have hevent : (diagnosticEvent H target diagnostic).eventId = some eventId := hidentity
    unfold appendDiagnosticOnce
    rw [hevent, Option.any_some]
    cases recorder.log.hasEvent eventId <;> rfl
  unfold record appendTargetDiagnosticOnce
  dsimp only
  rw [hnew, hkind, hidentity]
  cases recorder.log.hasEvent eventId with
  | true => exact (List.append_nil _).symm
  | false => rfl

end Record

end CodexMustWork
