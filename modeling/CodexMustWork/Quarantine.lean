import CodexMustWork.CalmTicks
import CodexMustWork.SessionHistory

/-!
# Active sessions and the quarantine

The service over any number of sessions.  Whether a session is active is read
from its runtime document; whether a tick processes it also depends on the
quarantine of the process, which nothing empties, and whether its completion is
announced on the log, which outlives the document.
-/

namespace CodexMustWork

/-- A control of the service, or a tick of its scheduler. -/
inductive ServiceOp where
  | start (request : StartRequest) (transcript : RelativeTranscript) (wallTime : Int)
  | stop (sessionId : String)
  | complete (sessionId : String) (env : TickEnvironment)
  | tick (env : TickEnvironment)

namespace ServiceOp

/-- Only rollouts fail. -/
def Calm : ServiceOp → Prop
  | complete _ env => env.Calm
  | tick env => env.Calm
  | _ => True

def apply (H : Digest) (service : NotificationDaemon) :
    ServiceOp → NotificationDaemon × List PendingNotification
  | start request transcript wallTime =>
      ((service.start H { transcript := some transcript } wallTime request).1, [])
  | stop sessionId => ((service.stop H {} sessionId).1, [])
  | complete sessionId env =>
      let (service, queued, _) := service.complete H {} env sessionId
      (service, queued)
  | tick env => service.reconcile H env

end ServiceOp

/-- The service under any controls and ticks. -/
def daemonMachine (H : Digest) :
    Machine NotificationDaemon ServiceOp (List PendingNotification) where
  step service op := op.apply H service

/-! ### The states of the service -/

/-- What holds in every state of the service. -/
structure Settled (H : Digest) (service : NotificationDaemon) : Prop where
  isOpen : service.closed = false
  schedulable : service.health ≠ .fatal
  plain : service.root.Plain H
  pending : service.engine.watcher.recorder.pending = []

section Runs

variable {H : Digest} {sessionId : String} {service : NotificationDaemon} {root : StateRoot}
  {doc : SessionDocument} {claimed : Bool}

theorem StateRoot.Plain.setRuntime_started (hplain : root.Plain H) (request : StartRequest)
    (transcript : RelativeTranscript) (wallTime : Int) :
    (root.setRuntime (sessionFilename H request.sessionId)
      (SessionDocument.started request transcript wallTime).values).Plain H :=
  @StateRoot.Plain.of_file H root hplain _ (SessionDocument.started request transcript wallTime)
    (fun _ hne => root.setRuntime_lookup_ne _ hne) (Or.inl (root.setRuntime_lookup _ _))
    hplain.cursors

theorem StateRoot.Plain.setRuntime_closing (hplain : root.Plain H) :
    (root.setRuntime (doc.path H) (doc.closing H claimed)).Plain H :=
  @StateRoot.Plain.of_file H root hplain _ doc (fun _ hne => root.setRuntime_lookup_ne _ hne)
    (Or.inr ⟨claimed, root.setRuntime_lookup _ _⟩) hplain.cursors

theorem StateRoot.Plain.erase (hplain : root.Plain H) (path : String) :
    StateRoot.Plain H ⟨root.runtime.erase path, root.cursors.erase path⟩ := by
  refine ⟨?_, ?_⟩
  · intro other hmem
    obtain ⟨hne, hold⟩ := AList.mem_erase.mp hmem
    obtain ⟨doc, rfl, hholds⟩ := hplain.files other hold
    refine ⟨doc, rfl, ?_⟩
    unfold Holds HoldsClosing
    rw [AList.lookup_erase_ne hne]
    exact hholds
  · intro other failure
    by_cases hpath : other = path
    · subst hpath
      rw [AList.lookup_erase]
      exact fun heq => nomatch heq
    · rw [AList.lookup_erase_ne hpath]
      exact hplain.cursors other failure

/-- What a plain root has for a session. -/
theorem StateRoot.Plain.session (hplain : root.Plain H) {file : RuntimeFile}
    (hfile : root.runtime.lookup (sessionFilename H sessionId) = some file) :
    ∃ doc : SessionDocument, doc.sessionId = sessionId ∧
      (root.Holds H doc ∧ file = .ok doc.values ∨
        ∃ claimed, root.HoldsClosing H doc claimed ∧ file = .ok (doc.closing H claimed)) := by
  have hmem : sessionFilename H sessionId ∈ root.runtime := by
    apply AList.lookup_isSome.mp
    rw [hfile]
    rfl
  obtain ⟨doc, hpath, hholds⟩ := hplain.files _ hmem
  rw [hpath] at hfile
  refine ⟨doc, (sessionFilename_injective H hpath).symm, ?_⟩
  rcases hholds with hrunning | ⟨claimed, hclosing⟩
  · exact Or.inl ⟨hrunning, Option.some.inj (hfile.symm.trans hrunning)⟩
  · exact Or.inr ⟨claimed, hclosing, Option.some.inj (hfile.symm.trans hclosing)⟩

theorem Settled.start (hsettled : Settled H service) (request : StartRequest)
    (transcript : RelativeTranscript) (wallTime : Int) :
    Settled H (service.start H { transcript := some transcript } wallTime request).1 := by
  obtain ⟨hroot, hengine, hclosed, hhealth⟩ := @start_service H service hsettled.isOpen
    hsettled.schedulable { transcript := some transcript } wallTime request
  refine ⟨hclosed, hhealth ▸ hsettled.schedulable, ?_, ?_⟩
  · rw [hroot]
    cases hfile : service.root.runtime.lookup (sessionFilename H request.sessionId) with
    | none =>
        rw [startNotificationSession_absent hfile]
        exact hsettled.plain.setRuntime_started request transcript wallTime
    | some file =>
        obtain ⟨doc, _, ⟨_, rfl⟩ | ⟨claimed, _, rfl⟩⟩ := hsettled.plain.session hfile
        · rw [startNotificationSession_present hfile]
          exact hsettled.plain
        · rw [startNotificationSession_present hfile]
          exact hsettled.plain
  · rw [hengine]
    exact hsettled.pending

theorem Settled.stop (hsettled : Settled H service) (sessionId : String) :
    Settled H (service.stop H {} sessionId).1 := by
  obtain ⟨root, engine, closed, health, scheduled⟩ := service
  obtain ⟨hopen, hhealth, hplain, hpending⟩ := hsettled
  obtain rfl : closed = false := hopen
  exact ⟨rfl, hhealth, hplain.erase _, hpending⟩

theorem Settled.tick (hsettled : Settled H service) {env : TickEnvironment} (hcalm : env.Calm) :
    Settled H (service.reconcile H env).1 := by
  obtain ⟨hroot, hengine, _, hclosed, hhealth⟩ :=
    reconcile_service hsettled.isOpen hsettled.schedulable env (H := H)
  obtain ⟨hplain, hpending⟩ := @tick_calm H env service.root service.engine hsettled.plain hcalm
  refine ⟨hclosed, hhealth, ?_, ?_⟩
  · rw [hroot]
    exact hplain
  · rw [hengine]
    exact hpending

/-- What a completion does to a document that takes the mark. -/
theorem Settled.complete_of_present (hsettled : Settled H service) {env : TickEnvironment}
    (hcalm : env.Calm) {values : RuntimeValues}
    (hpresent : service.root.runtime.lookup (doc.path H) = some (.ok values))
    (hcomplete : completeValues (doc.path H) values = .ok (doc.closing H claimed, true))
    (hchanged : doc.closing H claimed ≠ values) :
    Settled H (service.complete H {} env doc.sessionId).1 ∧
      (service.complete H {} env doc.sessionId).2.1 =
        (service.engine.tick H env
          (service.root.setRuntime (doc.path H) (doc.closing H claimed))).queued := by
  obtain ⟨root, engine, closed, health, scheduled⟩ := service
  obtain ⟨hopen, hhealth, hplain, hpending⟩ := hsettled
  obtain rfl : closed = false := hopen
  obtain ⟨hqueued, hengine, hclosed, hsame, hroot⟩ :=
    @complete_present H doc.sessionId root values (doc.closing H claimed) engine health scheduled
      env hpresent hcomplete hchanged
  obtain ⟨hplain', hpending'⟩ := @tick_calm H env
    (root.setRuntime (sessionFilename H doc.sessionId) (doc.closing H claimed)) engine
    hplain.setRuntime_closing hcalm
  refine ⟨⟨hclosed, ?_, ?_, ?_⟩, hqueued⟩
  · rw [hsame]
    exact hhealth
  · rw [hroot]
    split
    · exact hplain'
    · exact hplain'.erase _
  · rw [hengine]
    exact hpending'

theorem Settled.complete (hsettled : Settled H service) (sessionId : String)
    {env : TickEnvironment} (hcalm : env.Calm) :
    Settled H (service.complete H {} env sessionId).1 := by
  cases hfile : service.root.runtime.lookup (sessionFilename H sessionId) with
  | none =>
      obtain ⟨root, engine, closed, health, scheduled⟩ := service
      obtain ⟨hopen, hhealth, hplain, hpending⟩ := hsettled
      obtain rfl : closed = false := hopen
      unfold NotificationDaemon.complete
      dsimp only at hfile ⊢
      rw [if_neg Bool.false_ne_true, markNotificationSessionComplete_absent hfile]
      exact ⟨rfl, hhealth, hplain.erase _, hpending⟩
  | some file =>
      obtain ⟨doc, rfl, ⟨_, rfl⟩ | ⟨claimed, _, rfl⟩⟩ := hsettled.plain.session hfile
      · exact (@Settled.complete_of_present H service doc.bump false hsettled env hcalm _ hfile
          (doc.completeValues_values H _) (doc.bump_closing_ne_values H)).1
      · exact (@Settled.complete_of_present H service doc.bump claimed hsettled env hcalm _ hfile
          (doc.completeValues_closing H _ claimed)
          (doc.closing_ne_of_revision H claimed claimed (Nat.succ_ne_self doc.revision))).1

/-- Every operation keeps the service settled. -/
theorem settled_step (hsettled : Settled H service) {op : ServiceOp} (hcalm : op.Calm) :
    Settled H ((daemonMachine H).step service op).1 := by
  cases op with
  | start request transcript wallTime => exact hsettled.start request transcript wallTime
  | stop sessionId => exact hsettled.stop sessionId
  | complete sessionId env => exact hsettled.complete sessionId hcalm
  | tick env => exact hsettled.tick hcalm

theorem settled_create (hplain : root.Plain H) (log : DiagnosticLog) :
    Settled H (NotificationDaemon.create root log) :=
  ⟨rfl, (fun heq => nomatch heq), hplain, rfl⟩

theorem settled_run {ops : List ServiceOp} (hplain : root.Plain H) (log : DiagnosticLog)
    (hcalm : ∀ op ∈ ops, op.Calm) :
    Settled H ((daemonMachine H).after (NotificationDaemon.create root log) ops) :=
  @Machine.invariant_after _ _ _ (daemonMachine H) (Settled H) ServiceOp.Calm
    (fun _ _ hsettled hop => settled_step hsettled hop) _ _ (settled_create hplain log) hcalm

/-! ### Active and watched -/

/-- Status answers that the session is active, and it has not been completed. -/
structure ActiveSession (H : Digest) (sessionId : String) (service : NotificationDaemon) : Prop where
  status : service.status H sessionId = .ok ⟨sessionId, .active, true, none⟩
  uncompleted : ∀ values, service.root.runtime.lookup (sessionFilename H sessionId) =
    some (.ok values) → values.parentComplete = .value false

/-- A tick that can read the rollout of the session processes what it read, and a completion
    of the session is announced. -/
structure Watched (H : Digest) (sessionId : String) (service : NotificationDaemon) : Prop where
  ticks : ∀ doc : SessionDocument, doc.sessionId = sessionId → service.root.Holds H doc →
    ∀ env : TickEnvironment, env.Calm →
      (∀ root rollout, ∃ batch, env.read root (doc.target H rollout) = .ok batch) →
        ∃ root rollout batch, env.read root (doc.target H rollout) = .ok batch ∧
          ProcessedTick H env service.engine doc batch (service.engine.tick H env service.root)
  completes : ∀ env : TickEnvironment, env.Calm →
    sessionNotices sessionId (service.complete H {} env sessionId).2.1 = [.completed]

theorem delivering_calm (context : TickContext) (events : List ObservedEvent) :
    (TickEnvironment.delivering context events).Calm :=
  ⟨fun transcript => ⟨transcript, rfl⟩, (fun _ _ _ heq => nomatch heq), fun _ => rfl,
    fun _ => rfl, fun _ => rfl⟩

/-- An active session has its running document. -/
theorem ActiveSession.holds (hactive : ActiveSession H sessionId service)
    (hsettled : Settled H service) :
    ∃ doc : SessionDocument, doc.sessionId = sessionId ∧ service.root.Holds H doc := by
  have hstatus := hactive.status
  unfold NotificationDaemon.status notificationSessionActive at hstatus
  rw [hsettled.isOpen, if_neg Bool.false_ne_true] at hstatus
  cases hfile : service.root.runtime.lookup (sessionFilename H sessionId) with
  | none => simp [hfile] at hstatus
  | some file =>
      obtain ⟨doc, hsession, ⟨hholds, _⟩ | ⟨claimed, _, rfl⟩⟩ := hsettled.plain.session hfile
      · exact ⟨doc, hsession, hholds⟩
      · have hcomplete := hactive.uncompleted _ hfile
        have hclosing : (doc.closing H claimed).parentComplete = .value true := by
          cases claimed <;> rfl
        rw [hclosing] at hcomplete
        cases hcomplete

/-- What the completion of a running session announces. -/
theorem Settled.completion_notices (hsettled : Settled H service) {env : TickEnvironment}
    (hcalm : env.Calm) (hholds : service.root.Holds H doc) :
    sessionNotices doc.sessionId (service.complete H {} env doc.sessionId).2.1 =
      if doc.sessionId ∈ service.engine.failedSessions then []
      else (sessionMemory H doc.sessionId service.engine.watcher).completionNotice := by
  have hqueued := (@Settled.complete_of_present H service doc.bump false hsettled env hcalm _ hholds
    (doc.completeValues_values H _) (doc.bump_closing_ne_values H)).2
  have hplain : (service.root.setRuntime (doc.bump.path H) (doc.bump.closing H false)).Plain H :=
    hsettled.plain.setRuntime_closing
  have hclosing : (service.root.setRuntime (doc.bump.path H)
      (doc.bump.closing H false)).HoldsClosing H doc.bump false :=
    service.root.setRuntime_lookup _ _
  have hcompleted : (service.complete H {} env doc.sessionId).2.1 =
      (service.engine.tick H env
        (service.root.setRuntime (doc.bump.path H) (doc.bump.closing H false))).queued := hqueued
  rw [hcompleted]
  split_ifs with hfailed
  · have hmem : doc.bump.path H ∈ (service.root.setRuntime (doc.bump.path H)
        (doc.bump.closing H false)).runtime := by
      apply AList.lookup_isSome.mp
      rw [service.root.setRuntime_lookup]
      rfl
    have hnone := (@tick_calm_failed H env _ service.engine doc.bump hplain hcalm hsettled.pending
      hfailed hmem).2
    exact congrArg (List.map notificationNotice) hnone
  · exact (@tick_calm_closing H env _ service.engine doc.bump hplain hcalm false hclosing
      hsettled.pending hfailed).queued

/-- **Active means watched** exactly outside the quarantine of the process and when the log
    holds no completion of the session, in every state the service reaches. -/
theorem watched_iff {log : DiagnosticLog} {ops : List ServiceOp} (hplain : root.Plain H)
    (hcalm : ∀ op ∈ ops, op.Calm)
    (hactive : ActiveSession H sessionId
      ((daemonMachine H).after (NotificationDaemon.create root log) ops)) :
    let service := (daemonMachine H).after (NotificationDaemon.create root log) ops
    Watched H sessionId service ↔
      sessionId ∉ service.engine.failedSessions ∧
        service.engine.watcher.recorder.log.hasEvent (sessionCompletionId H sessionId) = false := by
  have hsettled := settled_run hplain log hcalm
  generalize (daemonMachine H).after (NotificationDaemon.create root log) ops = service
    at hactive hsettled
  obtain ⟨doc, rfl, hholds⟩ := hactive.holds hsettled
  have hcompletion : (sessionMemory H doc.sessionId service.engine.watcher).completionNotice =
      [.completed] ↔ service.engine.watcher.recorder.log.hasEvent
        (sessionCompletionId H doc.sessionId) = false := by
    unfold SessionMemory.completionNotice sessionMemory
    dsimp only
    split_ifs with hrecorded <;> simp [hrecorded]
  constructor
  · intro hwatched
    have hnotices := hwatched.completes _ (delivering_calm ⟨0, 0⟩ [])
    rw [hsettled.completion_notices (delivering_calm ⟨0, 0⟩ []) hholds] at hnotices
    by_cases hfailed : doc.sessionId ∈ service.engine.failedSessions
    · rw [if_pos hfailed] at hnotices
      exact absurd hnotices (by simp)
    · rw [if_neg hfailed] at hnotices
      exact ⟨hfailed, hcompletion.mp hnotices⟩
  · rintro ⟨hlive, hnew⟩
    refine ⟨?_, ?_⟩
    · intro other hsession hother env hcalmEnv hreads
      exact tick_calm_running hsettled.plain hcalmEnv hother hsettled.pending
        (hsession ▸ hlive) hreads
    · intro env hcalmEnv
      rw [hsettled.completion_notices hcalmEnv hholds, if_neg hlive]
      exact hcompletion.mpr hnew

end Runs

theorem StateRoot.plain_empty (H : Digest) : StateRoot.empty.Plain H := by
  refine ⟨?_, ?_⟩
  · intro path hmem
    exact absurd hmem (AList.notMem_empty _)
  · intro path failure heq
    have hnone : StateRoot.empty.cursors.lookup path = none := AList.lookup_empty _
    rw [hnone] at heq
    cases heq

/-- A session just started is watched. -/
theorem watched_iff_sample :
    Watched .transparent "s" ((daemonMachine .transparent).after
      (NotificationDaemon.create .empty []) [.start sampleRequest sampleTranscript 0]) := by
  refine (@watched_iff .transparent "s" .empty [] [.start sampleRequest sampleTranscript 0]
    (StateRoot.plain_empty _) ?_ ⟨by decide, ?_⟩).mpr ⟨by decide, by decide⟩
  · intro op hmem
    obtain rfl := List.mem_singleton.mp hmem
    trivial
  · intro values hfile
    have hvalues : ((daemonMachine .transparent).after (NotificationDaemon.create .empty [])
        [.start sampleRequest sampleTranscript 0]).root.runtime.lookup
          (sessionFilename .transparent "s") =
            some (.ok (SessionDocument.started sampleRequest sampleTranscript 0).values) := by
      decide
    rw [hvalues] at hfile
    obtain rfl := Except.ok.inj (Option.some.inj hfile)
    rfl

/-! ### A start after a failed activation -/

/-- Every rollout read says that the file was rotated. -/
def sampleRotation : TickEnvironment where
  context := ⟨1, 1⟩
  resolve := .ok
  read _ _ := .error .rolloutRotated

/-- A failed activation, a stop, and a fresh start. -/
def sampleRestarted : NotificationDaemon :=
  (daemonMachine .transparent).after (NotificationDaemon.create .empty [])
    [.start sampleRequest sampleTranscript 0, .tick sampleRotation, .stop "s",
      .start sampleRequest sampleTranscript 5000]

/-- The fresh activation is active, but its ticks leave no trace of it and its completion is
    not announced. -/
theorem fresh_start_unwatched :
    ActiveSession .transparent "s" sampleRestarted ∧ ¬ Watched .transparent "s" sampleRestarted ∧
      ((sampleRestarted.engine.tick .transparent
        (.delivering ⟨6000, 6000⟩ [{ kind := .item, occurredAt := 6000 }])
        sampleRestarted.root).engine.watcher.detectors ("s", none, 1)).isNone = true := by
  refine ⟨⟨by decide, ?_⟩, ?_, by decide⟩
  · intro values hfile
    have hvalues : sampleRestarted.root.runtime.lookup (sessionFilename .transparent "s") =
        some (.ok (SessionDocument.started sampleRequest sampleTranscript 5000).values) := by
      decide
    rw [hvalues] at hfile
    obtain rfl := Except.ok.inj (Option.some.inj hfile)
    rfl
  · intro hwatched
    have hnotices := hwatched.completes _ (delivering_calm ⟨7000, 7000⟩ [])
    revert hnotices
    decide

end CodexMustWork
