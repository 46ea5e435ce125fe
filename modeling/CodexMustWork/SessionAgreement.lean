import CodexMustWork.RaisingTurns

/-!
# Two states that agree on one session

A tick reads and writes of a session only its own files, its own memory and the
identities its own targets can record.  So the session's turn does the same from
any two states that agree on these, whatever else the states hold.
-/

namespace CodexMustWork

variable {ρ : Type}

/-! ### What two states have alike for one session -/

/-- A target none of whose identifiers contains the separator of event identities. -/
structure RuntimeTarget.Separated (target : RuntimeTarget) : Prop where
  session : JoinedFields.Free nul target.sessionId
  turn : JoinedFields.Free nul (target.parentTurnId.getD "")
  monitors : ∀ monitor ∈ target.targets, JoinedFields.Free nul (monitor.targetId.getD "")

/-- An identity of a separated target is one of no other session. -/
theorem RuntimeTarget.Separated.identity_ne {H : Digest} {target other : RuntimeTarget}
    {eventId : String} (hseparated : target.Separated)
    (hother : other.sessionId ≠ target.sessionId) (hidentity : TargetIdentity H target eventId) :
    ¬ TargetIdentity H other eventId := by
  intro hsame
  rcases hidentity with rfl | ⟨code, hcode, monitor, hmonitor, rfl⟩
  · rcases hsame with heq | ⟨code', hcode', monitor', _, heq⟩
    · have hjoin := ((JoinedFields.join_left_inj (free_code .watcherCompleted)
        (free_code .watcherCompleted)).mp (H.hash_injective heq)).2
      exact hother
        ((JoinedFields.join_inj_of_free hseparated.session hseparated.turn).mp hjoin).1.symm
    · refine lifecycleIdentity_ne_of_code (free_code .watcherCompleted) ?_ _
        (H.hash_injective heq).symm
      intro hcompleted
      rw [DiagnosticCode.value_injective hcompleted] at hcode'
      exact absurd hcode' (by decide)
  · rcases hsame with heq | ⟨code', _, monitor', _, heq⟩
    · refine lifecycleIdentity_ne_of_code (free_code .watcherCompleted) ?_ _
        (H.hash_injective heq)
      intro hcompleted
      rw [DiagnosticCode.value_injective hcompleted] at hcode
      exact absurd hcode (by decide)
    · obtain ⟨_, _, _, hjoin⟩ := lifecycleIdentity_inj.mp (H.hash_injective heq)
      exact hother ((JoinedFields.join_join_inj_of_free hseparated.session hseparated.turn
        (hseparated.monitors monitor hmonitor)).mp hjoin).1.symm

/-- The memories of two watchers agree on one session. -/
structure WatchersAgree (H : Digest) (sessionId : String) (left right : WatcherState) : Prop where
  detectors : ∀ key, key.1 = sessionId → left.detectors key = right.detectors key
  openCalls : ∀ key, key.1 = sessionId → left.openCalls key = right.openCalls key
  started : ∀ key, key.1 = sessionId → left.started key = right.started key
  heartbeat : left.heartbeatAt sessionId = right.heartbeatAt sessionId
  recorded : ∀ target : RuntimeTarget, target.Separated → target.sessionId = sessionId →
    ∀ eventId, TargetIdentity H target eventId →
      left.recorder.log.hasEvent eventId = right.recorder.log.hasEvent eventId
  pending : ofSession sessionId left.recorder.pending = ofSession sessionId right.recorder.pending

/-- Two states agree on the files and the memory of one session. -/
structure StatesAgree (H : Digest) (sessionId : String) (root : StateRoot) (engine : WatcherEngine)
    (root' : StateRoot) (engine' : WatcherEngine) : Prop where
  runtime : root.runtime.lookup (sessionFilename H sessionId) =
    root'.runtime.lookup (sessionFilename H sessionId)
  cursors : root.cursors.lookup (sessionFilename H sessionId) =
    root'.cursors.lookup (sessionFilename H sessionId)
  failed : sessionId ∈ engine.failedSessions ↔ sessionId ∈ engine'.failedSessions
  memory : WatchersAgree H sessionId engine.watcher engine'.watcher

section Same

variable {H : Digest} {sessionId : String}

theorem WatchersAgree.symm {left right : WatcherState}
    (hsame : WatchersAgree H sessionId left right) : WatchersAgree H sessionId right left :=
  ⟨fun key hkey => (hsame.detectors key hkey).symm, fun key hkey => (hsame.openCalls key hkey).symm,
    fun key hkey => (hsame.started key hkey).symm, hsame.heartbeat.symm,
    fun target hseparated hsession eventId hid =>
      (hsame.recorded target hseparated hsession eventId hid).symm, hsame.pending.symm⟩

theorem WatchersAgree.trans {first second third : WatcherState}
    (h₁ : WatchersAgree H sessionId first second) (h₂ : WatchersAgree H sessionId second third) :
    WatchersAgree H sessionId first third := by
  refine ⟨?_, ?_, ?_, h₁.heartbeat.trans h₂.heartbeat, ?_, h₁.pending.trans h₂.pending⟩
  · intro key hkey
    rw [h₁.detectors key hkey, h₂.detectors key hkey]
  · intro key hkey
    rw [h₁.openCalls key hkey, h₂.openCalls key hkey]
  · intro key hkey
    rw [h₁.started key hkey, h₂.started key hkey]
  · intro target hseparated hsession eventId hid
    rw [h₁.recorded target hseparated hsession eventId hid,
      h₂.recorded target hseparated hsession eventId hid]

theorem StatesAgree.symm {root root' : StateRoot} {engine engine' : WatcherEngine}
    (hsame : StatesAgree H sessionId root engine root' engine') :
    StatesAgree H sessionId root' engine' root engine :=
  ⟨hsame.runtime.symm, hsame.cursors.symm, hsame.failed.symm, hsame.memory.symm⟩

theorem StatesAgree.trans {root₁ root₂ root₃ : StateRoot} {engine₁ engine₂ engine₃ : WatcherEngine}
    (h₁ : StatesAgree H sessionId root₁ engine₁ root₂ engine₂)
    (h₂ : StatesAgree H sessionId root₂ engine₂ root₃ engine₃) :
    StatesAgree H sessionId root₁ engine₁ root₃ engine₃ :=
  ⟨h₁.runtime.trans h₂.runtime, h₁.cursors.trans h₂.cursors, h₁.failed.trans h₂.failed,
    h₁.memory.trans h₂.memory⟩

/-- What is beside a session leaves it the same. -/
theorem Beside.agree {root root' : StateRoot} {engine engine' : WatcherEngine}
    (hbeside : Beside H sessionId root engine root' engine') :
    StatesAgree H sessionId root' engine' root engine := by
  obtain ⟨more, hlog, hids⟩ := hbeside.log
  obtain ⟨queue, hqueue, hother⟩ := hbeside.pending
  refine ⟨hbeside.runtime, hbeside.cursors, hbeside.failed, hbeside.detectors, hbeside.openCalls,
    hbeside.started, hbeside.heartbeat, ?_, ?_⟩
  · intro target hseparated hsession eventId hid
    rw [hlog]
    apply DiagnosticLog.hasEvent_append_of_notMem
    intro event hmem hevent
    obtain ⟨other, hne, hidentity⟩ := hids event hmem eventId hevent
    exact hseparated.identity_ne (hsession ▸ hne) hid hidentity
  · rw [hqueue, ofSession_append, ofSession_of_other hother, List.append_nil]

/-! ### The processor on two memories -/

/-- A recording from two logs that agree on its identity queues the same. -/
theorem Recorder.record_pending_agree {target : RuntimeTarget} {diagnostic : TargetDiagnostic}
    {eventId : String} (left right : Recorder) (hid : diagnostic.eventId = some eventId)
    (hsame : left.log.hasEvent eventId = right.log.hasEvent eventId) :
    ∃ queue, (left.record H target diagnostic).pending = left.pending ++ queue ∧
      (right.record H target diagnostic).pending = right.pending ++ queue := by
  have hnew : ∀ recorder : Recorder,
      (appendTargetDiagnosticOnce H recorder.log target diagnostic).1 =
        !recorder.log.hasEvent eventId := by
    intro recorder
    have hevent : (diagnosticEvent H target diagnostic).eventId = some eventId := hid
    unfold appendTargetDiagnosticOnce appendDiagnosticOnce
    rw [hevent, Option.any_some]
    cases recorder.log.hasEvent eventId <;> rfl
  unfold Recorder.record
  dsimp only
  rw [hnew, hnew, hsame]
  cases right.log.hasEvent eventId with
  | true => exact ⟨[], by simp, by simp⟩
  | false =>
      cases notificationKind diagnostic.code with
      | none => exact ⟨[], by simp, by simp⟩
      | some kind =>
          rw [hid]
          exact ⟨[_], rfl, rfl⟩

/-- A write of the session's own keeps the memories the same. -/
theorem WatchersAgree.write {target : RuntimeTarget} {left right : WatcherState} {write : Write}
    (hsame : WatchersAgree H target.sessionId left right) (hseparated : target.Separated)
    (hown : write.Own H target) :
    WatchersAgree H target.sessionId (left.write H target write) (right.write H target write) := by
  cases write with
  | detector monitor state =>
      refine { hsame with detectors := ?_ }
      intro key hkey
      simp only [WatcherState.write, Function.update_apply, hsame.detectors key hkey]
  | openCalls monitor calls =>
      refine { hsame with openCalls := ?_ }
      intro key hkey
      simp only [WatcherState.write, Function.update_apply, hsame.openCalls key hkey]
  | started monitor =>
      refine { hsame with started := ?_ }
      intro key hkey
      simp only [WatcherState.write, Function.update_apply, hsame.started key hkey]
  | heartbeat instant =>
      refine { hsame with heartbeat := ?_ }
      simp only [WatcherState.write, Function.update_self]
  | note diagnostic =>
      refine { hsame with recorded := ?_ }
      intro other hother hsession eventId hid
      simp only [WatcherState.write, appendTargetDiagnostic_hasEvent,
        hsame.recorded other hother hsession eventId hid]
  | report diagnostic =>
      obtain ⟨⟨identity, hsome, hidentity⟩, _⟩ := hown
      obtain ⟨queue, hleft, hright⟩ := @Recorder.record_pending_agree H target diagnostic identity
        left.recorder right.recorder hsome (hsame.recorded target hseparated rfl identity hidentity)
      refine { hsame with recorded := ?_, pending := ?_ }
      · intro other hother hsession eventId hid
        simp only [WatcherState.write, Recorder.record_hasEvent,
          hsame.recorded other hother hsession eventId hid]
      · simp only [WatcherState.write]
        rw [hleft, hright, ofSession_append, ofSession_append, hsame.pending]

theorem WatchersAgree.applyAll {target : RuntimeTarget} {writes : List Write}
    (hseparated : target.Separated) (hown : ∀ write ∈ writes, write.Own H target)
    {left right : WatcherState} (hsame : WatchersAgree H target.sessionId left right) :
    WatchersAgree H target.sessionId ((targetFrame H target).applyAll left writes)
      ((targetFrame H target).applyAll right writes) := by
  induction writes generalizing left right with
  | nil => exact hsame
  | cons write rest ih =>
      exact ih (fun other hother => hown other (List.mem_cons_of_mem _ hother))
        (hsame.write hseparated (hown write (List.mem_cons_self ..)))

end Same

/-! ### The session's own turn, from two states -/

section Own

/-- Two roots have the same files of one name. -/
structure FilesAgree (path : String) (left right : StateRoot) : Prop where
  runtime : left.runtime.lookup path = right.runtime.lookup path
  cursors : left.cursors.lookup path = right.cursors.lookup path

theorem FilesAgree.setRuntime {path : String} {left right : StateRoot}
    (hsame : FilesAgree path left right) (values : RuntimeValues) :
    FilesAgree path (left.setRuntime path values) (right.setRuntime path values) :=
  ⟨by rw [left.setRuntime_lookup, right.setRuntime_lookup], hsame.cursors⟩

variable {H : Digest} {sessionId : String}

theorem FilesAgree.commitBatch {left right : StateRoot} {snapshot : RuntimeTarget}
    (hsame : FilesAgree (sessionFilename H snapshot.sessionId) left right)
    (fault : Option Failure) (batch : Option TargetBatch) (result : CommitResult) :
    (CodexMustWork.commitBatch H fault snapshot batch left result).2 =
        (CodexMustWork.commitBatch H fault snapshot batch right result).2 ∧
      FilesAgree (sessionFilename H snapshot.sessionId)
        (CodexMustWork.commitBatch H fault snapshot batch left result).1
        (CodexMustWork.commitBatch H fault snapshot batch right result).1 := by
  unfold CodexMustWork.commitBatch commitTargetCursor saveCursor
  split
  · split_ifs
    · exact ⟨rfl, hsame⟩
    · dsimp only
      rw [← hsame.cursors]
      split
      · exact ⟨rfl, hsame⟩
      · exact ⟨rfl, hsame⟩
      · refine ⟨rfl, hsame.runtime, ?_⟩
        rw [left.setCursor_lookup, right.setCursor_lookup]
  · exact ⟨rfl, hsame⟩

end Own

section Turn

variable {H : Digest} {format : RecordFormat ρ} {around : Surroundings} {sessionId : String}
  {root root' : StateRoot} {engine engine' : WatcherEngine}

theorem StatesAgree.files (hsame : StatesAgree H sessionId root engine root' engine') :
    FilesAgree (sessionFilename H sessionId) root root' := ⟨hsame.runtime, hsame.cursors⟩

end Turn

end CodexMustWork
