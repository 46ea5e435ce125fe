import CodexMustWork.Library.Machine
import CodexMustWork.NotificationDaemon
import CodexMustWork.SessionClosing

/-!
# Histories of one session under the service

Any sequence of starts, ticks, stops, completions and restarts of the process
on one session.  The service does to the session what `SessionModel.step` does,
and the notifications it queues are the notices of the model.
-/

namespace CodexMustWork

/-- A control of the service, or a tick of its scheduler, in a history of one session.
    A lone session queues at most one notification in a tick, so one answer of the sink
    covers every sink. -/
inductive SessionOp where
  | start (request : StartRequest) (transcript : RelativeTranscript) (wallTime : Int)
  | tick (context : TickContext) (events : List ObservedEvent) (delivery : Delivery)
  | stop
  | complete (context : TickContext) (delivery : Delivery)
  | restart

namespace SessionOp

/-- The control is about this session. -/
def Of (sessionId : String) : SessionOp → Prop
  | start request _ _ => request.sessionId = sessionId
  | _ => True

def env (context : TickContext) (events : List ObservedEvent) (delivery : Delivery) :
    TickEnvironment :=
  { TickEnvironment.delivering context events with sink := fun _ => delivery }

/-- What the service does, with the notifications it queues. -/
def apply (H : Digest) (sessionId : String) (service : NotificationDaemon) :
    SessionOp → NotificationDaemon × List PendingNotification
  | start request transcript wallTime =>
      ((service.start H { transcript := some transcript } wallTime request).1, [])
  | tick context events delivery => service.reconcile H (env context events delivery)
  | stop => ((service.stop H {} sessionId).1, [])
  | complete context delivery =>
      let (service, queued, _) := service.complete H {} (env context [] delivery) sessionId
      (service, queued)
  | restart =>
      (NotificationDaemon.create service.root service.engine.watcher.recorder.log, [])

/-- What the operation is for the session. -/
def step : SessionOp → SessionStep
  | start request _ wallTime => .start request.thresholds wallTime
  | tick context events _ => .tick ⟨events, context.now, context.wallTime⟩
  | stop => .stop
  | complete context delivery => .complete context.now (decide (delivery = .raised))
  | restart => .restart

end SessionOp

def sampleOpen (wallTime : Int) : SessionOp := .start sampleRequest sampleTranscript wallTime

def sampleTick (instant : Int) (events : List ObservedEvent) : SessionOp :=
  .tick ⟨instant, instant⟩ events .delivered

def sampleComplete (instant : Int) : SessionOp := .complete ⟨instant, instant⟩ .delivered

/-- The notices of one session among queued notifications. -/
def sessionNotices (sessionId : String) (queued : List PendingNotification) : List Notice :=
  (ofSession sessionId queued).map notificationNotice

/-- The service along a history of one session. -/
def serviceMachine (H : Digest) (sessionId : String) :
    Machine NotificationDaemon SessionOp (List Notice) where
  step service op :=
    let (after, queued) := op.apply H sessionId service
    (after, sessionNotices sessionId queued)

/-! ### The relation to the model -/

/-- What the file of a session holds. -/
def FileModels (H : Digest) (sessionId : String) (root : StateRoot) : SessionFile → Prop
  | .absent => root.runtime.lookup (sessionFilename H sessionId) = none
  | .running thresholds epoch anchor =>
      ∃ doc : SessionDocument, doc.sessionId = sessionId ∧ root.Holds H doc ∧
        doc.thresholds = thresholds ∧ doc.progressEpoch = epoch ∧ doc.silenceStartedAt = anchor
  | .closing => ∃ doc : SessionDocument, doc.sessionId = sessionId ∧ root.HoldsClosing H doc true

/-- The service, seen from a session that is alone. -/
structure Models (H : Digest) (sessionId : String) (service : NotificationDaemon)
    (model : SessionModel) : Prop where
  isOpen : service.closed = false
  schedulable : service.health ≠ .fatal
  alone : Alone H service.root sessionId
  pending : service.engine.watcher.recorder.pending = []
  unfailed : sessionId ∉ service.engine.failedSessions
  memory : sessionMemory H sessionId service.engine.watcher = model.memory
  file : FileModels H sessionId service.root model.file

section Refinement

variable {H : Digest} {sessionId : String} {service : NotificationDaemon} {model : SessionModel}

/-- The root of a lone session without a document has no runtime file. -/
theorem discoverRuntimeFiles_of_absent {root : StateRoot} (halone : Alone H root sessionId)
    (habsent : root.runtime.lookup (sessionFilename H sessionId) = none) :
    discoverRuntimeFiles root = [] := by
  apply List.eq_nil_iff_forall_not_mem.mpr
  intro path hpath
  have hmem := mem_discoverRuntimeFiles.mp hpath
  have hsome := AList.lookup_isSome.mpr hmem
  rw [halone path hmem, habsent] at hsome
  exact Bool.false_ne_true hsome

/-- A tick on no runtime files does nothing. -/
theorem tick_of_absent {env : TickEnvironment} {root : StateRoot} {engine : WatcherEngine}
    (hfiles : discoverRuntimeFiles root = [])
    (hpending : engine.watcher.recorder.pending = []) :
    engine.tick H env root = ⟨root, engine, [], .ok false⟩ := by
  obtain ⟨⟨recorder, detectors, openCalls, started, heartbeatAt⟩, failedSessions⟩ := engine
  obtain ⟨log, pending⟩ := recorder
  obtain rfl : pending = [] := hpending
  unfold WatcherEngine.tick
  rw [hfiles]
  rfl

/-- A start changes the root at most. -/
theorem start_service (hclosed : service.closed = false) (hhealth : service.health ≠ .fatal)
    (faults : StartFaults) (wallTime : Int) (request : StartRequest) :
    (service.start H faults wallTime request).1.root =
        (startNotificationSession H faults service.root request wallTime).1 ∧
      (service.start H faults wallTime request).1.engine = service.engine ∧
      (service.start H faults wallTime request).1.closed = false ∧
      (service.start H faults wallTime request).1.health = service.health := by
  obtain ⟨root, engine, closed, health, scheduled⟩ := service
  obtain rfl : closed = false := hclosed
  unfold NotificationDaemon.start
  dsimp only
  rw [if_neg Bool.false_ne_true]
  cases startNotificationSession H faults root request wallTime with
  | mk root result =>
      cases result with
      | error failure => exact ⟨rfl, rfl, rfl, rfl⟩
      | ok reused =>
          cases health with
          | fatal => exact absurd rfl hhealth
          | healthy => exact ⟨rfl, rfl, rfl, rfl⟩
          | degraded => exact ⟨rfl, rfl, rfl, rfl⟩

/-- A start on a file that can be read leaves it. -/
theorem startNotificationSession_present {faults : StartFaults} {root : StateRoot}
    {request : StartRequest} {wallTime : Int} {values : RuntimeValues}
    (hpresent : root.runtime.lookup (sessionFilename H request.sessionId) = some (.ok values)) :
    (startNotificationSession H faults root request wallTime).1 = root := by
  unfold startNotificationSession
  cases faults.transcript with
  | none => rfl
  | some transcript =>
      dsimp only
      rw [hpresent]
      dsimp only
      split_ifs <;> rfl

theorem startNotificationSession_absent {root : StateRoot} {request : StartRequest}
    {transcript : RelativeTranscript} {wallTime : Int}
    (habsent : root.runtime.lookup (sessionFilename H request.sessionId) = none) :
    startNotificationSession H { transcript := some transcript } root request wallTime =
      (root.setRuntime (sessionFilename H request.sessionId)
        (SessionDocument.started request transcript wallTime).values, .ok false) := by
  unfold startNotificationSession
  dsimp only
  rw [habsent]
  rfl

theorem alone_setRuntime {root : StateRoot} (halone : Alone H root sessionId)
    (values : RuntimeValues) :
    Alone H (root.setRuntime (sessionFilename H sessionId) values) sessionId := by
  intro path hmem
  rcases (AList.mem_insert _).mp hmem with rfl | hold
  · rfl
  · exact halone path hold

theorem Models.start (hmodels : Models H sessionId service model) {request : StartRequest}
    {transcript : RelativeTranscript} {wallTime : Int} (hof : request.sessionId = sessionId) :
    Models H sessionId (service.start H { transcript := some transcript } wallTime request).1
      (model.step (.start request.thresholds wallTime)).1 := by
  subst hof
  obtain ⟨file, memory⟩ := model
  obtain ⟨hopen, hhealth, halone, hpending, hunfailed, hmemory, hfile⟩ := hmodels
  obtain ⟨hroot, hengine, hclosed, hsame⟩ :=
    @start_service H service hopen hhealth { transcript := some transcript } wallTime request
  have hkept : ∀ values, service.root.runtime.lookup (sessionFilename H request.sessionId) =
      some (.ok values) → FileModels H request.sessionId service.root file →
      Models H request.sessionId (service.start H { transcript := some transcript } wallTime request).1
        ⟨file, memory⟩ := by
    intro values hpresent hfile
    rw [startNotificationSession_present hpresent] at hroot
    refine ⟨hclosed, hsame ▸ hhealth, ?_, ?_, ?_, ?_, ?_⟩
    · rw [hroot]
      exact halone
    · rw [hengine]
      exact hpending
    · rw [hengine]
      exact hunfailed
    · rw [hengine]
      exact hmemory
    · rw [hroot]
      exact hfile
  cases file with
  | absent =>
      rw [startNotificationSession_absent hfile] at hroot
      refine ⟨hclosed, hsame ▸ hhealth, ?_, ?_, ?_, ?_, ?_⟩
      · rw [hroot]
        exact alone_setRuntime halone _
      · rw [hengine]
        exact hpending
      · rw [hengine]
        exact hunfailed
      · rw [hengine]
        exact hmemory
      · rw [hroot]
        exact ⟨SessionDocument.started request transcript wallTime, rfl,
          service.root.setRuntime_lookup _ _, rfl, rfl, rfl⟩
  | running thresholds epoch anchor =>
      obtain ⟨doc, hsession, hholds, _⟩ := id hfile
      have hpath : doc.path H = sessionFilename H request.sessionId := congrArg _ hsession
      refine hkept doc.values ?_ hfile
      rw [← hpath]
      exact hholds
  | closing =>
      obtain ⟨doc, hsession, hholds⟩ := id hfile
      have hpath : doc.path H = sessionFilename H request.sessionId := congrArg _ hsession
      refine hkept (doc.closing H true) ?_ hfile
      rw [← hpath]
      exact hholds

/-! ### Ticks -/

/-- A reconciliation changes the root, the engine and the scheduling. -/
theorem reconcile_service (hclosed : service.closed = false) (hhealth : service.health ≠ .fatal)
    (env : TickEnvironment) :
    (service.reconcile H env).1.root = (service.engine.tick H env service.root).root ∧
      (service.reconcile H env).1.engine = (service.engine.tick H env service.root).engine ∧
      (service.reconcile H env).2 = (service.engine.tick H env service.root).queued ∧
      (service.reconcile H env).1.closed = false ∧
      (service.reconcile H env).1.health ≠ .fatal := by
  obtain ⟨root, engine, closed, health, scheduled⟩ := service
  obtain rfl : closed = false := hclosed
  unfold NotificationDaemon.reconcile NotificationDaemon.tickEngine
  dsimp only
  rw [if_neg Bool.false_ne_true]
  generalize engine.tick H env root = outcome
  obtain ⟨after, engine', queued, result⟩ := outcome
  cases health with
  | fatal => exact absurd rfl hhealth
  | healthy =>
      cases result with
      | error failure => exact ⟨rfl, rfl, rfl, rfl, fun heq => nomatch heq⟩
      | ok active => cases active <;> exact ⟨rfl, rfl, rfl, rfl, fun heq => nomatch heq⟩
  | degraded =>
      cases result with
      | error failure => exact ⟨rfl, rfl, rfl, rfl, fun heq => nomatch heq⟩
      | ok active => cases active <;> exact ⟨rfl, rfl, rfl, rfl, fun heq => nomatch heq⟩

/-- What a tick of a lone session does to the session. -/
theorem tick_models {root : StateRoot} {engine : WatcherEngine} (halone : Alone H root sessionId)
    (hpending : engine.watcher.recorder.pending = []) (hunfailed : sessionId ∉ engine.failedSessions)
    (hmemory : sessionMemory H sessionId engine.watcher = model.memory)
    (hfile : FileModels H sessionId root model.file) (context : TickContext)
    (events : List ObservedEvent) (delivery : Delivery) :
    let outcome := engine.tick H (SessionOp.env context events delivery) root
    let next := model.step (.tick ⟨events, context.now, context.wallTime⟩)
    Alone H outcome.root sessionId ∧ outcome.engine.watcher.recorder.pending = [] ∧
      sessionId ∉ outcome.engine.failedSessions ∧
      sessionMemory H sessionId outcome.engine.watcher = next.1.memory ∧
      FileModels H sessionId outcome.root next.1.file ∧
      sessionNotices sessionId outcome.queued = next.2 := by
  obtain ⟨file, memory⟩ := model
  dsimp only at hmemory hfile ⊢
  subst hmemory
  cases file with
  | absent =>
      rw [tick_of_absent (discoverRuntimeFiles_of_absent halone hfile) hpending]
      exact ⟨halone, hpending, hunfailed, rfl, hfile, rfl⟩
  | running thresholds epoch anchor =>
      obtain ⟨doc, rfl, hholds, rfl, rfl, rfl⟩ := hfile
      have hdelivers : (SessionOp.env context events delivery).Delivers H root doc
          ⟨none, ⟨0, 0, 0⟩, events⟩ := ⟨⟨doc.transcript.path, rfl, rfl⟩, rfl, rfl, rfl, rfl⟩
      obtain ⟨hprocessed, halone', hpending'⟩ :=
        tick_delivers hholds halone hpending hunfailed hdelivers
      have hsession := committedDocument_sessionId H engine doc
        ((SessionOp.env context events delivery).input ⟨none, ⟨0, 0, 0⟩, events⟩)
      have hview := hprocessed.view
      rw [sessionView_eq_view, hsession] at hview
      refine ⟨halone', hpending', hprocessed.failed, ?_, ?_, ?_⟩
      · apply SessionMemory.ext
        · exact congrArg TargetView.detector hview
        · exact congrArg TargetView.openCalls hview
        · exact congrArg TargetView.recorded hview
        · exact hprocessed.completion
      · exact ⟨_, hsession, hprocessed.holds, committedDocument_thresholds H engine doc _,
          congrArg TargetView.epoch hview, congrArg TargetView.anchor hview⟩
      · exact map_notificationNotice hprocessed.queued
  | closing =>
      obtain ⟨doc, rfl, hholds⟩ := hfile
      have hcloses : (SessionOp.env context events delivery).Closes H doc :=
        ⟨⟨doc.transcript.path, rfl⟩, rfl, rfl, rfl, rfl, rfl⟩
      obtain ⟨hclosed, halone', hpending', _⟩ :=
        tick_closes hholds halone hpending hunfailed hcloses
      refine ⟨halone', hpending', ?_, ?_, ⟨doc, rfl, hclosed.holds⟩, hclosed.queued⟩
      · exact hclosed.unfailed
      · rw [hclosed.memory]
        simp only [Bool.not_true, Bool.or_false]
        rfl

/-! ### Controls -/

theorem alone_erase {root : StateRoot} (halone : Alone H root sessionId)
    (cursors : AList fun _ : String => CursorFile) (path : String) :
    Alone H ⟨root.runtime.erase path, cursors⟩ sessionId := by
  intro other hmem
  exact halone other ((AList.mem_erase).mp hmem).2

theorem Models.stop (hmodels : Models H sessionId service model) :
    Models H sessionId (service.stop H {} sessionId).1 (model.step .stop).1 := by
  obtain ⟨root, engine, closed, health, scheduled⟩ := service
  obtain ⟨hopen, hhealth, halone, hpending, hunfailed, hmemory, _⟩ := hmodels
  obtain rfl : closed = false := hopen
  exact ⟨rfl, hhealth, alone_erase halone _ _, hpending, hunfailed, hmemory,
    AList.lookup_erase _ _⟩

/-- A mark of completion on a document that takes it. -/
theorem markNotificationSessionComplete_eq {root : StateRoot} {values after : RuntimeValues}
    (hpresent : root.runtime.lookup (sessionFilename H sessionId) = some (.ok values))
    (hcomplete : completeValues (sessionFilename H sessionId) values = .ok (after, true))
    (hchanged : after ≠ values) :
    markNotificationSessionComplete H {} root sessionId =
      (root.setRuntime (sessionFilename H sessionId) after, .ok true) := by
  have hreturned := @mutateExistingState_of_returned Unit Bool {} root
    (sessionFilename H sessionId) ()
    (fun memory values => (memory, completeValues (sessionFilename H sessionId) values)) noCommit
    _ _ () true rfl rfl hpresent (by rw [hcomplete])
  unfold markNotificationSessionComplete
  dsimp only
  rw [hreturned, if_neg hchanged]
  rfl

theorem markNotificationSessionComplete_absent {root : StateRoot}
    (habsent : root.runtime.lookup (sessionFilename H sessionId) = none) :
    markNotificationSessionComplete H {} root sessionId = (root, .ok false) := by
  unfold markNotificationSessionComplete
  dsimp only
  rw [mutateExistingState_of_absent habsent]
  rfl

/-- The root after a mark of completion. -/
theorem complete_present {root : StateRoot} {values after : RuntimeValues} {engine : WatcherEngine}
    {health : SchedulerHealth} {scheduled : Bool} {env : TickEnvironment}
    (hpresent : root.runtime.lookup (sessionFilename H sessionId) = some (.ok values))
    (hcomplete : completeValues (sessionFilename H sessionId) values = .ok (after, true))
    (hchanged : after ≠ values) :
    let outcome := engine.tick H env (root.setRuntime (sessionFilename H sessionId) after)
    let completed := (⟨root, engine, false, health, scheduled⟩ : NotificationDaemon).complete H {}
      env sessionId
    completed.2.1 = outcome.queued ∧ completed.1.engine = outcome.engine ∧
      completed.1.closed = false ∧ completed.1.health = health ∧
      completed.1.root =
        match outcome.result with
        | .error _ => outcome.root
        | .ok _ => ⟨outcome.root.runtime.erase (sessionFilename H sessionId),
            outcome.root.cursors.erase (sessionFilename H sessionId)⟩ := by
  unfold NotificationDaemon.complete NotificationDaemon.tickEngine
  dsimp only
  rw [if_neg Bool.false_ne_true, markNotificationSessionComplete_eq hpresent hcomplete hchanged]
  dsimp only
  rw [if_pos rfl]
  dsimp only
  generalize engine.tick H env _ = outcome
  obtain ⟨after, engine', queued, result⟩ := outcome
  cases result <;> exact ⟨rfl, rfl, rfl, rfl, rfl⟩

/-- A completion of a document that takes the mark: the tick closes it, and it is removed
    unless the sink raised on the notice. -/
theorem Models.complete_of_present (hmodels : Models H sessionId service model)
    {values : RuntimeValues} {doc : SessionDocument} {claimed : Bool} (context : TickContext)
    (delivery : Delivery) (hsession : doc.sessionId = sessionId)
    (hpresent : service.root.runtime.lookup (sessionFilename H sessionId) = some (.ok values))
    (hcomplete : completeValues (sessionFilename H sessionId) values =
      .ok (doc.closing H claimed, true))
    (hchanged : doc.closing H claimed ≠ values) :
    let notices := if claimed then [] else model.memory.completionNotice
    Models H sessionId ((SessionOp.complete context delivery).apply H sessionId service).1
        ⟨if decide (delivery = .raised) && !notices.isEmpty then .closing else .absent,
          { model.memory.terminate context.now with
            completed := model.memory.completed || !claimed }⟩ ∧
      sessionNotices sessionId ((SessionOp.complete context delivery).apply H sessionId service).2 =
        notices := by
  subst hsession
  obtain ⟨file, memory⟩ := model
  obtain ⟨root, engine, closed, health, scheduled⟩ := service
  obtain ⟨hopen, hhealth, halone, hpending, hunfailed, hmemory, _⟩ := hmodels
  obtain rfl : closed = false := hopen
  dsimp only at hmemory hpresent
  subst hmemory
  have hholds : (root.setRuntime (sessionFilename H doc.sessionId)
      (doc.closing H claimed)).HoldsClosing H doc claimed := root.setRuntime_lookup _ _
  have hcloses : (SessionOp.env context [] delivery).Closes H doc :=
    ⟨⟨doc.transcript.path, rfl⟩, rfl, rfl, rfl, rfl, rfl⟩
  obtain ⟨hclosed, halone', hpending', hresult⟩ :=
    tick_closes hholds (alone_setRuntime halone _) hpending hunfailed hcloses
  have hresult := hresult delivery rfl
  obtain ⟨hqueued, hengine, hstillOpen, hsame, hroot⟩ :=
    @complete_present H doc.sessionId root values (doc.closing H claimed) engine health scheduled
      (SessionOp.env context [] delivery) hpresent hcomplete hchanged
  have hnotices : sessionNotices doc.sessionId
      ((SessionOp.complete context delivery).apply H doc.sessionId
        ⟨root, engine, false, health, scheduled⟩).2 =
          if claimed then [] else (sessionMemory H doc.sessionId engine.watcher).completionNotice := by
    rw [← hclosed.queued]
    exact congrArg (sessionNotices doc.sessionId) hqueued
  have hengineHere : ((SessionOp.complete context delivery).apply H doc.sessionId
      ⟨root, engine, false, health, scheduled⟩).1.engine = _ := hengine
  have hrootHere : ((SessionOp.complete context delivery).apply H doc.sessionId
      ⟨root, engine, false, health, scheduled⟩).1.root = _ := hroot
  have hnonempty : ofSession doc.sessionId
      (engine.tick H (SessionOp.env context [] delivery)
        (root.setRuntime (sessionFilename H doc.sessionId) (doc.closing H claimed))).queued ≠ [] ↔
      (!(if claimed then []
        else (sessionMemory H doc.sessionId engine.watcher).completionNotice).isEmpty) = true := by
    rw [← hclosed.queued, Bool.not_eq_true', ← Bool.not_eq_true, List.isEmpty_iff,
      List.map_eq_nil_iff]
  have hfile : Alone H ((SessionOp.complete context delivery).apply H doc.sessionId
        ⟨root, engine, false, health, scheduled⟩).1.root doc.sessionId ∧
      FileModels H doc.sessionId ((SessionOp.complete context delivery).apply H doc.sessionId
        ⟨root, engine, false, health, scheduled⟩).1.root
        (if decide (delivery = .raised) && !(if claimed then []
          else (sessionMemory H doc.sessionId engine.watcher).completionNotice).isEmpty
        then .closing else .absent) := by
    rw [hrootHere]
    by_cases hraise : delivery = .raised ∧ ofSession doc.sessionId
        (engine.tick H (SessionOp.env context [] delivery)
          (root.setRuntime (sessionFilename H doc.sessionId) (doc.closing H claimed))).queued ≠ []
    · rw [if_pos hraise] at hresult
      rw [hresult, decide_eq_true hraise.1, hnonempty.mp hraise.2]
      exact ⟨halone', claimedDocument doc claimed, claimedDocument_sessionId doc claimed,
        hclosed.holds⟩
    · rw [if_neg hraise] at hresult
      have hremoved : ¬ (decide (delivery = .raised) && !(if claimed then []
          else (sessionMemory H doc.sessionId engine.watcher).completionNotice).isEmpty) = true := by
        rw [Bool.and_eq_true, decide_eq_true_eq, ← hnonempty]
        exact hraise
      rw [hresult, if_neg hremoved]
      exact ⟨alone_erase halone' _ _, AList.lookup_erase _ _⟩
  refine ⟨⟨hstillOpen, ?_, hfile.1, ?_, ?_, ?_, hfile.2⟩, hnotices⟩
  · exact fun heq => hhealth (hsame.symm.trans heq)
  · rw [hengineHere]
    exact hpending'
  · rw [hengineHere]
    exact hclosed.unfailed
  · rw [hengineHere]
    exact hclosed.memory

theorem Models.complete (hmodels : Models H sessionId service model) (context : TickContext)
    (delivery : Delivery) :
    let step := model.step (.complete context.now (decide (delivery = .raised)))
    Models H sessionId ((SessionOp.complete context delivery).apply H sessionId service).1 step.1 ∧
      sessionNotices sessionId ((SessionOp.complete context delivery).apply H sessionId service).2 =
        step.2 := by
  obtain ⟨file, memory⟩ := model
  cases file with
  | absent =>
      obtain ⟨root, engine, closed, health, scheduled⟩ := service
      obtain ⟨hopen, hhealth, halone, hpending, hunfailed, hmemory, hfile⟩ := hmodels
      obtain rfl : closed = false := hopen
      have hcomplete : (SessionOp.complete context delivery).apply H sessionId
          ⟨root, engine, false, health, scheduled⟩ =
            (⟨⟨root.runtime.erase (sessionFilename H sessionId),
              root.cursors.erase (sessionFilename H sessionId)⟩, engine, false, health, scheduled⟩,
              []) := by
        unfold SessionOp.apply NotificationDaemon.complete
        dsimp only
        rw [if_neg Bool.false_ne_true, markNotificationSessionComplete_absent hfile]
        rfl
      rw [hcomplete]
      exact ⟨⟨rfl, hhealth, alone_erase halone _ _, hpending, hunfailed, hmemory,
        AList.lookup_erase _ _⟩, rfl⟩
  | running thresholds epoch anchor =>
      obtain ⟨doc, hsession, hholds, _⟩ := hmodels.file
      have hpath : doc.path H = sessionFilename H sessionId := congrArg _ hsession
      have hpresent : service.root.runtime.lookup (sessionFilename H sessionId) =
          some (.ok doc.values) := by
        rw [← hpath]
        exact hholds
      have hbump : doc.bump.sessionId = sessionId := hsession
      have hdone := hmodels.complete_of_present context delivery hbump hpresent
        (doc.completeValues_values H _) (doc.bump_closing_ne_values H)
      simp only [Bool.not_false, Bool.or_true, Bool.false_eq_true, if_false] at hdone
      exact hdone
  | closing =>
      obtain ⟨doc, hsession, hholds⟩ := hmodels.file
      have hpath : doc.path H = sessionFilename H sessionId := congrArg _ hsession
      have hpresent : service.root.runtime.lookup (sessionFilename H sessionId) =
          some (.ok (doc.closing H true)) := by
        rw [← hpath]
        exact hholds
      have hchanged : doc.bump.closing H true ≠ doc.closing H true :=
        doc.closing_ne_of_revision H true true (Nat.succ_ne_self doc.revision)
      have hbump : doc.bump.sessionId = sessionId := hsession
      have hdone := hmodels.complete_of_present context delivery hbump hpresent
        (doc.completeValues_closing H _ true) hchanged
      simp only [if_true, List.isEmpty_nil, Bool.not_true, Bool.and_false, Bool.false_eq_true,
        if_false, Bool.or_false] at hdone
      exact hdone

theorem Models.restart (hmodels : Models H sessionId service model) :
    Models H sessionId (SessionOp.restart.apply H sessionId service).1
      (model.step .restart).1 := by
  obtain ⟨hopen, hhealth, halone, hpending, hunfailed, hmemory, hfile⟩ := hmodels
  have hhealthy : (NotificationDaemon.create service.root
      service.engine.watcher.recorder.log).health ≠ .fatal := fun heq => nomatch heq
  refine ⟨rfl, hhealthy, halone, rfl, Finset.notMem_empty _, ?_, hfile⟩
  change _ = model.memory.restart
  rw [← hmemory]
  rfl

/-- **Refinement.**  Every operation on a session does what its step of the model does, and
    queues the notices of the model. -/
theorem models_step (hmodels : Models H sessionId service model) {op : SessionOp}
    (hof : op.Of sessionId) :
    Models H sessionId (op.apply H sessionId service).1 (model.step op.step).1 ∧
      sessionNotices sessionId (op.apply H sessionId service).2 = (model.step op.step).2 := by
  cases op with
  | start request transcript wallTime =>
      refine ⟨hmodels.start hof, ?_⟩
      obtain ⟨file, memory⟩ := model
      cases file <;> rfl
  | tick context events delivery =>
      obtain ⟨hroot, hengine, hqueued, hclosed, hhealth⟩ :=
        reconcile_service hmodels.isOpen hmodels.schedulable
          (SessionOp.env context events delivery) (H := H)
      obtain ⟨halone, hpending, hunfailed, hmemory, hfile, hnotices⟩ :=
        tick_models hmodels.alone hmodels.pending hmodels.unfailed hmodels.memory hmodels.file
          context events delivery
      change Models H sessionId (service.reconcile H _).1 _ ∧
        sessionNotices sessionId (service.reconcile H _).2 = _
      rw [hqueued]
      refine ⟨⟨hclosed, hhealth, ?_, ?_, ?_, ?_, ?_⟩, hnotices⟩
      · rw [hroot]
        exact halone
      · rw [hengine]
        exact hpending
      · rw [hengine]
        exact hunfailed
      · rw [hengine]
        exact hmemory
      · rw [hroot]
        exact hfile
  | stop => exact ⟨hmodels.stop, rfl⟩
  | complete context delivery => exact hmodels.complete context delivery
  | restart => exact ⟨hmodels.restart, rfl⟩

/-- A process that starts on a state root without runtime files. -/
theorem models_create (H : Digest) (sessionId : String) {root : StateRoot}
    (hempty : root.runtime = ∅) (log : DiagnosticLog) :
    Models H sessionId (NotificationDaemon.create root log)
      ⟨.absent, sessionMemory H sessionId (WatcherState.fresh log)⟩ := by
  have halone : Alone H root sessionId := by
    intro path hmem
    rw [hempty] at hmem
    exact absurd hmem (AList.notMem_empty _)
  have hlookup : root.runtime.lookup (sessionFilename H sessionId) = none := by
    rw [hempty]
    exact AList.lookup_empty _
  exact ⟨rfl, (fun heq => nomatch heq), halone, rfl, Finset.notMem_empty _, rfl, hlookup⟩

/-- Every state a history reaches is one of the model. -/
theorem serviceRun_models {ops : List SessionOp} (hmodels : Models H sessionId service model)
    (hof : ∀ op ∈ ops, op.Of sessionId) :
    ∃ model, Models H sessionId ((serviceMachine H sessionId).after service ops) model := by
  refine @Machine.invariant_after _ _ _ (serviceMachine H sessionId)
    (fun service => ∃ model, Models H sessionId service model) (SessionOp.Of sessionId) ?_ service
    ops ⟨model, hmodels⟩ hof
  rintro current op ⟨held, hheld⟩ hop
  exact ⟨_, (models_step hheld hop).1⟩

theorem Models.absent_iff (hmodels : Models H sessionId service model) :
    service.root.runtime.lookup (sessionFilename H sessionId) = none ↔ model.file = .absent := by
  obtain ⟨file, memory⟩ := model
  have hfile := hmodels.file
  cases file with
  | absent => exact ⟨fun _ => rfl, fun _ => hfile⟩
  | running thresholds epoch anchor =>
      obtain ⟨doc, rfl, hholds, _⟩ := hfile
      have hpresent : service.root.runtime.lookup (sessionFilename H doc.sessionId) =
          some (.ok doc.values) := hholds
      rw [hpresent]
      exact ⟨(fun heq => nomatch heq), (fun heq => nomatch heq)⟩
  | closing =>
      obtain ⟨doc, rfl, hholds⟩ := hfile
      have hpresent : service.root.runtime.lookup (sessionFilename H doc.sessionId) =
          some (.ok (doc.closing H true)) := hholds
      rw [hpresent]
      exact ⟨(fun heq => nomatch heq), (fun heq => nomatch heq)⟩

end Refinement

end CodexMustWork
