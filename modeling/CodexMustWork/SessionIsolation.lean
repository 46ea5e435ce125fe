import CodexMustWork.SessionAgreement
import CodexMustWork.SessionHistory

/-!
# One session among others

Other sessions may hold anything: documents that are no JSON or not valid,
rollouts that are missing or moved, cursors that do not load, locks that are
held.  A tick does for a valid session what it does when there is no other one,
unless a file it comes to earlier raises; and a completion ticks over all files,
so that any of them can make it fail.
-/

namespace CodexMustWork

variable {ρ : Type}

/-! ### One tick -/

/-- The session's own files are valid: nobody holds its lock, its rollout was not found corrupt
    or rotated before, and its document is enabled and validates, with identifiers that contain
    no separator. -/
structure ValidSession (H : Digest) (around : Surroundings) (sessionId : String) (root : StateRoot)
    (engine : WatcherEngine) (values : RuntimeValues) (target : RuntimeTarget) : Prop where
  snapshotLock : around.snapshotLock (sessionFilename H sessionId) = none
  commitLock : around.commitLock (sessionFilename H sessionId) = none
  live : sessionId ∉ engine.failedSessions
  file : root.runtime.lookup (sessionFilename H sessionId) = some (.ok values)
  enabled : values.enabled = .value true
  validated :
    runtimeTargetFromValues H around.resolve (sessionFilename H sessionId) values = .ok target
  separated : target.Separated

section Tick

variable {H : Digest} {format : RecordFormat ρ} {around : Surroundings} {sessionId : String}
  {root alone : StateRoot} {engine lone : WatcherEngine} {values : RuntimeValues}
  {target : RuntimeTarget}

namespace ValidSession

theorem mem (hvalid : ValidSession H around sessionId root engine values target) :
    sessionFilename H sessionId ∈ root.runtime :=
  AList.lookup_isSome.mp (Option.isSome_of_eq_some hvalid.file)

end ValidSession

end Tick

/-! ### Completing the session -/

/-- The completion of the session is among the notifications. -/
def AnnouncesCompletion (sessionId : String) (queued : List PendingNotification) : Prop :=
  ∃ notification ∈ queued, notification.event.sessionId = sessionId ∧
    notification.event.kind = .completed

section Complete

variable {H : Digest} {format : RecordFormat ρ} {around : Surroundings} {sessionId : String}
  {root : StateRoot} {engine : WatcherEngine} {values : RuntimeValues} {target : RuntimeTarget}

/-- The document that a completion leaves behind. -/
def completedValues (values : RuntimeValues) (revision : Nat) : RuntimeValues :=
  { values with parentComplete := .value true, revision := .value (revision + 1) }

/-- A validated document marked complete is one of the same session. -/
theorem runtimeTargetFromValues_completed {resolve : String → Except Failure String}
    {path : String} (hvalid : runtimeTargetFromValues H resolve path values = .ok target) :
    runtimeTargetFromValues H resolve path (completedValues values target.revision) =
      .ok { target with parentComplete := true, revision := target.revision + 1 } := by
  obtain ⟨hvalidated, htranscript⟩ := runtimeTargetFromValues_eq_ok_iff.mp hvalid
  refine runtimeTargetFromValues_eq_ok_iff.mpr ⟨⟨hvalidated.sessionId, hvalidated.named,
    hvalidated.runtimeFile, hvalidated.parentTurnId, hvalidated.thresholds, rfl,
    hvalidated.turnActivityEpoch, ?_, hvalidated.parent, hvalidated.children⟩, htranscript⟩
  exact optionalIntegerField_value (target.revision + 1) path 0

/-- The target of the completed document. -/
def RuntimeTarget.completed (target : RuntimeTarget) : RuntimeTarget :=
  { target with parentComplete := true, revision := target.revision + 1 }

/-- A session marked complete is valid and has a turn. -/
theorem ValidSession.completed
    (hvalid : ValidSession H around sessionId root engine values target) :
    ValidSession H around sessionId
      (root.setRuntime (sessionFilename H sessionId) (completedValues values target.revision))
      engine (completedValues values target.revision) target.completed :=
  { hvalid with
    file := root.setRuntime_lookup _ _
    enabled := hvalid.enabled
    validated := runtimeTargetFromValues_completed hvalid.validated
    separated := ⟨hvalid.separated.session, hvalid.separated.turn, hvalid.separated.monitors⟩ }

/-- The completion is announced and the tool succeeds. -/
def Completes (H : Digest) (env : TickEnvironment) (sessionId : String)
    (service : NotificationDaemon) : Prop :=
  AnnouncesCompletion sessionId (service.complete H {} env sessionId).2.1 ∧
    (service.complete H {} env sessionId).2.2 = .ok ⟨sessionId, .completed, false, none⟩

end Complete

/-! ### Sessions among others -/

end CodexMustWork
