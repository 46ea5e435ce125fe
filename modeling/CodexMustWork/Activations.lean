import CodexMustWork.NotificationStream
import CodexMustWork.SessionHistory

/-!
# Activations of one session

An activation runs from a start that creates the runtime document to its
removal.  What the next activation of the same session meets is what the engine
and the log kept.  Event identities are made of the session, an empty turn,
generation one and an epoch that counts from zero, so two activations share
them, and the detector of the engine is keyed by the same fields.
-/

namespace CodexMustWork

/-- The operation is a start that will create the document. -/
def SessionOp.Opens (H : Digest) (sessionId : String) (service : NotificationDaemon) :
    SessionOp → Prop
  | .start .. => service.root.runtime.lookup (sessionFilename H sessionId) = none
  | _ => False

instance (H : Digest) (sessionId : String) (service : NotificationDaemon) (op : SessionOp) :
    Decidable (op.Opens H sessionId service) := by
  cases op <;> unfold SessionOp.Opens <;> infer_instance

/-! ### Deliveries -/

/-- The log holds no lifecycle or completion identity of the session. -/
structure UnknownTo (H : Digest) (sessionId : String) (log : DiagnosticLog) : Prop where
  marks : ∀ mark, log.hasEvent (markEventId H sessionId mark) = false
  completion : log.hasEvent (sessionCompletionId H sessionId) = false

/-- A start of an activation meets a log that knows nothing of the session. -/
def UnknownStart (H : Digest) (sessionId : String) (service : NotificationDaemon)
    (op : SessionOp) : Prop :=
  op.Opens H sessionId service → UnknownTo H sessionId service.engine.watcher.recorder.log

/-- The service with an empty log. -/
def NotificationDaemon.forget (service : NotificationDaemon) : NotificationDaemon :=
  { service with
    engine := {
      service.engine with
      watcher := {
        service.engine.watcher with
        recorder := { service.engine.watcher.recorder with log := [] } } } }

/-- The service as it would be if every activation were the first: each start that creates
    the document meets an empty log. -/
def forgetfulMachine (H : Digest) (sessionId : String) :
    Machine NotificationDaemon SessionOp (List Notice) where
  step service op :=
    if op.Opens H sessionId service then (serviceMachine H sessionId).step service.forget op
    else (serviceMachine H sessionId).step service op

section Deliveries

variable {H : Digest} {sessionId : String} {service : NotificationDaemon} {model : SessionModel}

/-- On a log that knows nothing of the session, forgetting changes nothing for it. -/
theorem Models.forget (hmodels : Models H sessionId service model)
    (hunknown : UnknownTo H sessionId service.engine.watcher.recorder.log)
    {other : NotificationDaemon} (hother : Models H sessionId other model) :
    Models H sessionId other.forget model := by
  obtain ⟨hopen, hhealth, halone, hpending, hunfailed, hmemory, hfile⟩ := hother
  refine ⟨hopen, hhealth, halone, hpending, hunfailed, ?_, hfile⟩
  rw [← hmodels.memory] at hmemory ⊢
  have hdetector := congrArg SessionMemory.detector hmemory
  have hcalls := congrArg SessionMemory.openCalls hmemory
  apply SessionMemory.ext
  · exact hdetector
  · exact hcalls
  · funext mark
    exact (hunknown.marks mark).symm
  · exact hunknown.completion.symm

/-- A running activation has not been completed. -/
def CompletesOnce (model : SessionModel) : Prop :=
  ∀ thresholds epoch anchor, model.file = .running thresholds epoch anchor →
    model.memory.completed = false

theorem CompletesOnce.step (honce : CompletesOnce model) {step : SessionStep}
    (hopens : model.file = .absent → (∃ thresholds wallTime, step = .start thresholds wallTime) →
      model.memory.completed = false) :
    CompletesOnce (model.step step).1 := by
  obtain ⟨file, memory⟩ := model
  intro thresholds epoch anchor hrunning
  cases step with
  | start requested wallTime =>
      cases file with
      | absent => exact hopens rfl ⟨requested, wallTime, rfl⟩
      | running held heldEpoch heldAnchor => exact honce held heldEpoch heldAnchor rfl
      | closing => cases hrunning
  | tick input =>
      cases file with
      | absent => cases hrunning
      | running held heldEpoch heldAnchor => exact honce held heldEpoch heldAnchor rfl
      | closing => cases hrunning
  | stop => cases hrunning
  | complete now raises =>
      cases file with
      | absent => cases hrunning
      | running held heldEpoch heldAnchor =>
          simp only [SessionModel.step] at hrunning
          split_ifs at hrunning
      | closing => cases hrunning
  | restart =>
      change memory.restart.completed = false
      exact honce thresholds epoch anchor hrunning

/-- What the real service and the forgetful one have in common along a history. -/
def SameSession (H : Digest) (sessionId : String) (real forgetful : NotificationDaemon) : Prop :=
  ∃ model, Models H sessionId real model ∧ Models H sessionId forgetful model ∧ CompletesOnce model

theorem SameSession.step {real forgetful : NotificationDaemon} {op : SessionOp}
    (hsame : SameSession H sessionId real forgetful) (hof : op.Of sessionId)
    (hunknown : UnknownStart H sessionId real op) :
    ((serviceMachine H sessionId).step real op).2 =
        ((forgetfulMachine H sessionId).step forgetful op).2 ∧
      SameSession H sessionId ((serviceMachine H sessionId).step real op).1
        ((forgetfulMachine H sessionId).step forgetful op).1 := by
  obtain ⟨model, hreal, hforgetful, honce⟩ := hsame
  obtain ⟨hnext, hnotices⟩ := models_step hreal hof
  have hopens : op.Opens H sessionId real ↔ op.Opens H sessionId forgetful := by
    cases op with
    | start request transcript wallTime => exact hreal.absent_iff.trans hforgetful.absent_iff.symm
    | tick context events delivery => exact Iff.rfl
    | stop => exact Iff.rfl
    | complete context delivery => exact Iff.rfl
    | restart => exact Iff.rfl
  have honce' : CompletesOnce (model.step op.step).1 := by
    apply honce.step
    rintro habsent ⟨thresholds, wallTime, hstart⟩
    have hcreates : op.Opens H sessionId real := by
      cases op with
      | start request transcript wallTime => exact hreal.absent_iff.mpr habsent
      | tick context events delivery => cases hstart
      | stop => cases hstart
      | complete context delivery => cases hstart
      | restart => cases hstart
    rw [← hreal.memory]
    exact (hunknown hcreates).completion
  have hsource : ∀ source, Models H sessionId source model →
      ((serviceMachine H sessionId).step real op).2 =
          ((serviceMachine H sessionId).step source op).2 ∧
        SameSession H sessionId ((serviceMachine H sessionId).step real op).1
          ((serviceMachine H sessionId).step source op).1 := by
    intro source hmodels
    obtain ⟨hsourceNext, hsourceNotices⟩ := models_step hmodels hof
    exact ⟨hnotices.trans hsourceNotices.symm, _, hnext, hsourceNext, honce'⟩
  have hforgetfulStep : (forgetfulMachine H sessionId).step forgetful op =
      if op.Opens H sessionId forgetful then (serviceMachine H sessionId).step forgetful.forget op
      else (serviceMachine H sessionId).step forgetful op := rfl
  rw [hforgetfulStep]
  split_ifs with hcreates
  · exact hsource _ (hreal.forget (hunknown (hopens.mpr hcreates)) hforgetful)
  · exact hsource _ hforgetful

/-- A history whose activations all start on a log that knows nothing of the session. -/
theorem sameSession_run {ops : List SessionOp} (hmodels : Models H sessionId service model)
    (habsent : model.file = .absent) (hof : ∀ op ∈ ops, op.Of sessionId)
    (hunknown : (serviceMachine H sessionId).Guarded (UnknownStart H sessionId) service ops) :
    (serviceMachine H sessionId).outputs service ops =
        (forgetfulMachine H sessionId).outputs service ops ∧
      SameSession H sessionId ((serviceMachine H sessionId).after service ops)
        ((forgetfulMachine H sessionId).after service ops) := by
  refine @Machine.outputs_eq_of_simulation _ _ _ _ (serviceMachine H sessionId)
    (forgetfulMachine H sessionId) (fun _ => SameSession H sessionId) service service ops
    ⟨model, hmodels, hmodels, fun _ _ _ hrunning => ?_⟩ ?_
  · rw [habsent] at hrunning
    cases hrunning
  · intro past op hextends hsame
    have hmem : op ∈ ops := hextends.subset (List.mem_append_right _ (List.mem_singleton_self _))
    exact hsame.step (hof op hmem) (hunknown.at_prefix _ hextends)

/-! ### What a tick of an activation queues -/

/-- Each tick of an activation queues the transitions of the session's detector: the marks
    that its events, clocks and silence call for, but for those that the activation has
    queued already. -/
def TicksDelivered (H : Digest) (sessionId : String) (service : NotificationDaemon)
    (ops : List SessionOp) : Prop :=
  ∀ before during request transcript wallTime context events delivery,
    before ++ .start request transcript wallTime :: during ++ [.tick context events delivery] <+:
        ops →
      let opened := (serviceMachine H sessionId).after service before
      let activation := .start request transcript wallTime :: during
      let current := (serviceMachine H sessionId).after opened activation
      (SessionOp.start request transcript wallTime).Opens H sessionId opened →
        ∀ doc : SessionDocument, doc.sessionId = sessionId → current.root.Holds H doc →
          ((serviceMachine H sessionId).step current (.tick context events delivery)).2 =
            (((sessionView H doc current.engine.watcher).marks doc.thresholds
                ⟨events, context.now, context.wallTime⟩).filter fun mark =>
              decide (Notice.mark mark ∉
                ((serviceMachine H sessionId).outputs opened activation).flatten)).map Notice.mark

/-- The record of the session holds what was queued, and nothing else. -/
def RecordsQueued (queued : List Notice) (model : SessionModel) : Prop :=
  ∀ mark, model.memory.recorded mark = true ↔ Notice.mark mark ∈ queued

theorem RecordsQueued.step {queued : List Notice} (hrecords : RecordsQueued queued model)
    (step : SessionStep) : RecordsQueued (queued ++ (model.step step).2) (model.step step).1 := by
  obtain ⟨file, memory⟩ := model
  have hquiet : ∀ {after : SessionModel} {notices : List Notice},
      after.memory.recorded = memory.recorded → (∀ mark, Notice.mark mark ∉ notices) →
        RecordsQueued (queued ++ notices) after := by
    intro after notices hsame hnone mark
    rw [hsame, List.mem_append, or_iff_left (hnone mark)]
    exact hrecords mark
  have hcompletion : ∀ mark, Notice.mark mark ∉ memory.completionNotice := by
    intro mark
    unfold SessionMemory.completionNotice
    split_ifs <;> simp
  cases step with
  | start requested wallTime => cases file <;> exact hquiet rfl fun _ => List.not_mem_nil
  | tick input =>
      cases file with
      | absent => exact hquiet rfl fun _ => List.not_mem_nil
      | running thresholds epoch anchor =>
          intro mark
          change ((memory.view epoch anchor).next thresholds input).recorded mark = true ↔
            Notice.mark mark ∈ queued ++
              ((memory.view epoch anchor).queued thresholds input).map Notice.mark
          have hmap : Notice.mark mark ∈
              ((memory.view epoch anchor).queued thresholds input).map Notice.mark ↔
                mark ∈ (memory.view epoch anchor).queued thresholds input := by
            simp
          rw [TargetView.next_recorded, List.mem_append, hmap]
          exact or_congr (hrecords mark) Iff.rfl
      | closing => exact hquiet rfl fun _ => List.not_mem_nil
  | stop => exact hquiet rfl fun _ => List.not_mem_nil
  | complete now raises =>
      cases file with
      | absent => exact hquiet rfl fun _ => List.not_mem_nil
      | running thresholds epoch anchor => exact hquiet rfl hcompletion
      | closing => exact hquiet rfl fun _ => List.not_mem_nil
  | restart => exact hquiet rfl fun _ => List.not_mem_nil

/-- The document that models a running session. -/
theorem Models.running_of_holds (hmodels : Models H sessionId service model)
    {doc : SessionDocument} (hsession : doc.sessionId = sessionId)
    (hholds : service.root.Holds H doc) :
    model.file = .running doc.thresholds doc.progressEpoch doc.silenceStartedAt := by
  subst hsession
  have hpresent : service.root.runtime.lookup (sessionFilename H doc.sessionId) =
      some (.ok doc.values) := hholds
  obtain ⟨file, memory⟩ := model
  have hfile := hmodels.file
  cases file with
  | absent => cases hpresent.symm.trans hfile
  | running thresholds epoch anchor =>
      obtain ⟨held, hsame, hheld, rfl, rfl, rfl⟩ := hfile
      unfold StateRoot.Holds SessionDocument.path at hheld
      rw [hsame] at hheld
      have hvalues : held.values = doc.values :=
        Except.ok.inj (Option.some.inj (hheld.symm.trans hpresent))
      obtain ⟨hthresholds, hepoch, hanchor⟩ := held.same_of_values hvalues
      rw [hthresholds, hepoch, hanchor]
  | closing =>
      obtain ⟨held, hsame, hheld⟩ := hfile
      unfold StateRoot.HoldsClosing SessionDocument.path at hheld
      rw [hsame] at hheld
      have hvalues : held.closing H true = doc.values :=
        Except.ok.inj (Option.some.inj (hheld.symm.trans hpresent))
      cases congrArg RuntimeValues.parentComplete hvalues

theorem Models.sessionView_eq (hmodels : Models H sessionId service model)
    {doc : SessionDocument} (hsession : doc.sessionId = sessionId) :
    sessionView H doc service.engine.watcher =
      model.memory.view doc.progressEpoch doc.silenceStartedAt := by
  rw [sessionView_eq_view, hsession, hmodels.memory]

theorem ticksDelivered_run {ops : List SessionOp} (hmodels : Models H sessionId service model)
    (hof : ∀ op ∈ ops, op.Of sessionId)
    (hunknown : (serviceMachine H sessionId).Guarded (UnknownStart H sessionId) service ops) :
    TicksDelivered H sessionId service ops := by
  intro before during request transcript wallTime context events delivery hextends
  dsimp only
  intro hopens doc hsession hholds
  have hactivation : before ++ (.start request transcript wallTime :: during) <+: ops :=
    (List.prefix_append _ _).trans hextends
  have hbefore : before <+: ops := (List.prefix_append _ _).trans hactivation
  have hfirst : before ++ [.start request transcript wallTime] <+: ops := by
    refine List.IsPrefix.trans ?_ hactivation
    exact (List.prefix_append_right_inj before).mpr ⟨during, rfl⟩
  obtain ⟨opened, hopened⟩ :=
    serviceRun_models hmodels (fun op hmem => hof op (hbefore.subset hmem))
  have hnothing : RecordsQueued [] opened := by
    intro mark
    have hfresh := (hunknown.at_prefix _ hfirst hopens).marks mark
    rw [← hopened.memory]
    exact iff_of_false (Bool.eq_false_iff.mp hfresh) List.not_mem_nil
  -- The record of the activation is what it queued, after each of its operations.
  obtain ⟨held, hheld, hrecords⟩ := (serviceMachine H sessionId).history_induction
    (fun _ service outs => ∃ model, Models H sessionId service model ∧
      RecordsQueued outs.flatten model)
    ⟨opened, hopened, hnothing⟩ (by
      rintro past op hpast ⟨model, hmodels, hrecords⟩
      have hmem : op ∈ ops := by
        apply hactivation.subset
        apply List.mem_append_right
        exact hpast.subset (List.mem_append_right _ (List.mem_singleton_self _))
      obtain ⟨hnext, hnotices⟩ := models_step hmodels (hof op hmem)
      refine ⟨_, hnext, ?_⟩
      have hqueued : ((serviceMachine H sessionId).step ((serviceMachine H sessionId).after
          ((serviceMachine H sessionId).after service before) past) op).2 =
            (model.step op.step).2 := hnotices
      rw [List.flatten_append, List.flatten_singleton, hqueued]
      exact hrecords.step op.step)
  have hrunning := hheld.running_of_holds hsession hholds
  have hview := hheld.sessionView_eq hsession
  have hnotices := (@models_step H sessionId _ held hheld (.tick context events delivery)
    trivial).2
  refine hnotices.trans ?_
  obtain ⟨file, memory⟩ := held
  obtain rfl : file = .running doc.thresholds doc.progressEpoch doc.silenceStartedAt := hrunning
  rw [hview]
  refine congrArg (List.map Notice.mark) (List.filter_congr fun mark _ => ?_)
  rw [Bool.eq_iff_iff, Bool.not_eq_true', decide_eq_true_eq, ← hrecords mark,
    Bool.not_eq_true]
  rfl

/-- **Every activation delivers its transitions** when no earlier activation of the session
    is in the log: the notices are those of first activations, each tick queues what its
    detector calls for, once, and the first completion of each activation is announced. -/
theorem activations_delivered {root : StateRoot} {log : DiagnosticLog} {ops : List SessionOp}
    (hempty : root.runtime = ∅) (hof : ∀ op ∈ ops, op.Of sessionId)
    (hunknown : (serviceMachine H sessionId).Guarded (UnknownStart H sessionId)
      (NotificationDaemon.create root log) ops) :
    (serviceMachine H sessionId).outputs (NotificationDaemon.create root log) ops =
        (forgetfulMachine H sessionId).outputs (NotificationDaemon.create root log) ops ∧
      TicksDelivered H sessionId (NotificationDaemon.create root log) ops ∧
      ∀ past context delivery, past ++ [.complete context delivery] <+: ops →
        ∀ values, ((serviceMachine H sessionId).after (NotificationDaemon.create root log)
            past).root.runtime.lookup (sessionFilename H sessionId) = some (.ok values) →
          values.parentComplete = .value false →
            ((serviceMachine H sessionId).step ((serviceMachine H sessionId).after
              (NotificationDaemon.create root log) past) (.complete context delivery)).2 =
                [.completed] := by
  have hmodels := models_create H sessionId hempty log
  refine ⟨(sameSession_run hmodels rfl hof hunknown).1,
    ticksDelivered_run hmodels hof hunknown, ?_⟩
  intro past context delivery hextends values hpresent hrunning
  have hpast : past <+: ops := (List.prefix_append past _).trans hextends
  obtain ⟨current, hcurrent, _, honce⟩ :=
    (sameSession_run hmodels rfl (fun op hmem => hof op (hpast.subset hmem))
      (hunknown.of_prefix _ hpast)).2
  have hnotices := (@models_step H sessionId _ current hcurrent (.complete context delivery) trivial).2
  refine hnotices.trans ?_
  obtain ⟨file, memory⟩ := current
  cases file with
  | absent =>
      have hnone := hcurrent.absent_iff.mpr rfl
      rw [hnone] at hpresent
      cases hpresent
  | running thresholds epoch anchor =>
      have hnew : memory.completed = false := honce thresholds epoch anchor rfl
      change memory.completionNotice = _
      unfold SessionMemory.completionNotice
      rw [hnew]
      rfl
  | closing =>
      obtain ⟨doc, rfl, hholds⟩ := hcurrent.file
      have hdoc : some (Except.ok (doc.closing H true)) =
          some (Except.ok (ε := Failure) values) := hholds.symm.trans hpresent
      obtain rfl := Except.ok.inj (Option.some.inj hdoc)
      have hcomplete : (doc.closing H true).parentComplete = .value true := rfl
      rw [hcomplete] at hrunning
      cases hrunning

end Deliveries

/-! ### Silence -/

/-- What the engine remembers of a session does not reach back before an instant. -/
structure FreshMemory (sessionId : String) (start : Int) (engine : WatcherEngine) : Prop where
  openCalls : engine.watcher.openCalls (sessionId, none, 1) = ∅
  detector : ∀ state, rememberedDetector engine sessionId = some state →
    state.waits.terminal = false ∧ start ≤ latestProgressAt state

/-- The operation leaves the engine alone, or replaces it. -/
def SessionOp.KeepsMemory : SessionOp → Prop
  | .tick .. => False
  | .complete .. => False
  | _ => True

theorem freshMemory_create (sessionId : String) (start : Int) (root : StateRoot)
    (log : DiagnosticLog) : FreshMemory sessionId start (NotificationDaemon.create root log).engine :=
  ⟨rfl, fun _ heq => nomatch heq⟩

theorem start_engine (H : Digest) (service : NotificationDaemon) (faults : StartFaults)
    (wallTime : Int) (request : StartRequest) :
    (service.start H faults wallTime request).1.engine = service.engine := by
  obtain ⟨root, engine, closed, health, scheduled⟩ := service
  unfold NotificationDaemon.start
  dsimp only
  split_ifs
  · rfl
  · cases startNotificationSession H faults root request wallTime with
    | mk root result =>
        cases result with
        | error failure => rfl
        | ok reused => cases health <;> rfl

theorem stop_engine (H : Digest) (service : NotificationDaemon) (faults : RemoveFaults)
    (sessionId : String) : (service.stop H faults sessionId).1.engine = service.engine := by
  obtain ⟨root, engine, closed, health, scheduled⟩ := service
  unfold NotificationDaemon.stop
  dsimp only
  split_ifs
  · rfl
  · cases removeNotificationSession H faults root sessionId with
    | mk root result => cases result <;> rfl

/-- A history without a tick or a completion since the process began, or since its last
    restart. -/
def Untouched (past : List SessionOp) : Prop :=
  ∃ before quiet, (past = quiet ∨ past = before ++ .restart :: quiet) ∧
    ∀ op ∈ quiet, op.KeepsMemory

theorem freshMemory_of_keeps {H : Digest} {sessionId : String} {start : Int}
    {service : NotificationDaemon} {ops : List SessionOp}
    (hfresh : FreshMemory sessionId start service.engine) (hkeeps : ∀ op ∈ ops, op.KeepsMemory) :
    FreshMemory sessionId start ((serviceMachine H sessionId).after service ops).engine := by
  refine @Machine.invariant_after _ _ _ (serviceMachine H sessionId)
    (fun service => FreshMemory sessionId start service.engine) SessionOp.KeepsMemory ?_ service
    ops hfresh hkeeps
  intro current op hcurrent hop
  cases op with
  | start request transcript wallTime =>
      change FreshMemory sessionId start (current.start H _ wallTime request).1.engine
      rw [start_engine]
      exact hcurrent
  | tick context events delivery => exact hop.elim
  | stop =>
      change FreshMemory sessionId start (current.stop H _ sessionId).1.engine
      rw [stop_engine]
      exact hcurrent
  | complete context delivery => exact hop.elim
  | restart => exact freshMemory_create sessionId start _ _

/-- Such a history leaves nothing remembered, whatever came before the restart. -/
theorem freshMemory_of_untouched (H : Digest) (sessionId : String) (start : Int)
    (root : StateRoot) (log : DiagnosticLog) {past : List SessionOp} (hpast : Untouched past) :
    FreshMemory sessionId start ((serviceMachine H sessionId).after
      (NotificationDaemon.create root log) past).engine := by
  obtain ⟨before, quiet, rfl | rfl, hkeeps⟩ := hpast
  · exact freshMemory_of_keeps (freshMemory_create sessionId start root log) hkeeps
  · rw [Machine.after_append]
    exact @freshMemory_of_keeps H sessionId start (NotificationDaemon.create _ _) quiet
      (freshMemory_create sessionId start _ _) hkeeps

/-- A tick announces no silence that is shorter than its threshold. -/
structure NotEarly (thresholds : Thresholds) (start : Int) (past : List StreamRecord)
    (record : StreamRecord) : Prop where
  suspected : ∀ epoch, ⟨.suspected, epoch⟩ ∈ record.queued →
    thresholds.warning ≤ record.now - lastProgressAt start past
  critical : ∀ epoch, ⟨.critical, epoch⟩ ∈ record.queued →
    thresholds.critical ≤ record.now - lastProgressAt start past

section Silence

variable {H : Digest} {sessionId : String} {thresholds : Thresholds} {start offset : Int}

/-- The silence the detector measures is not older than the last counted progress. -/
structure SilenceInv (start offset : Int) (past : List StreamRecord) (view : TargetView) :
    Prop where
  anchor : view.detector = none → view.anchor = start + offset ∧ lastProgressAt start past = start
  latest : ∀ detector, view.detector = some detector → lastProgressAt start past ≤ detector.latest

theorem SilenceInv.prior {past : List StreamRecord} {view : TargetView}
    (hinv : SilenceInv start offset past view) {input : TickInput}
    (hstep : input.wallTime = input.now + offset) (hstart : start ≤ input.now) :
    lastProgressAt start past ≤ (view.prior input.now input.wallTime).latest := by
  unfold TargetView.prior
  cases hdetector : view.detector with
  | some detector => exact hinv.latest detector hdetector
  | none =>
      obtain ⟨hanchor, hlast⟩ := hinv.anchor hdetector
      change _ ≤ input.now - max 0 (input.wallTime - view.anchor)
      rw [hlast, hanchor, hstep]
      omega

theorem SilenceInv.notEarly {past : List StreamRecord} {view : TargetView}
    (hinv : SilenceInv start offset past view) {input : TickInput}
    (hstep : input.wallTime = input.now + offset) (hstart : start ≤ input.now) :
    NotEarly thresholds start past (tickRecord thresholds view input) := by
  have hprior := hinv.prior hstep hstart
  have hcounted : view.progresses input = false →
      (view.counted input).latest = (view.prior input.now input.wallTime).latest := by
    intro hnot
    rw [TargetView.counted, hnot]
    rfl
  constructor
  · intro epoch hmem
    have hdue := ((TargetView.mem_marks_of_ne_recovered (by decide)).mp
      (TargetView.mem_queued.mp hmem).1).2
    have hlatest := hcounted (TargetView.not_progresses_of_due hdue)
    have hsilent := (DetectorView.due_eq_suspected_iff.mp hdue).2.1
    change thresholds.warning ≤ input.now - lastProgressAt start past
    omega
  · intro epoch hmem
    have hdue := ((TargetView.mem_marks_of_ne_recovered (by decide)).mp
      (TargetView.mem_queued.mp hmem).1).2
    have hlatest := hcounted (TargetView.not_progresses_of_due hdue)
    have hsilent := (DetectorView.due_eq_critical_iff.mp hdue).2.1
    change thresholds.critical ≤ input.now - lastProgressAt start past
    omega

theorem SilenceInv.tick {past : List StreamRecord} {view : TargetView}
    (hinv : SilenceInv start offset past view) {input : TickInput}
    (hstep : input.wallTime = input.now + offset) (hstart : start ≤ input.now) :
    SilenceInv start offset (past ++ [tickRecord thresholds view input])
      (view.next thresholds input) := by
  have hprior := hinv.prior hstep hstart
  refine ⟨?_, ?_⟩
  · intro hnone
    rw [TargetView.next_detector] at hnone
    cases hnone
  · intro detector hdetector
    rw [TargetView.next_detector, Option.some_inj] at hdetector
    subst hdetector
    rw [TargetView.next_latest, lastProgressAt_concat]
    change (if view.epoch < (view.next thresholds input).epoch then input.now else _) ≤ _
    rw [TargetView.next_epoch]
    cases view.progresses input with
    | true => simp
    | false => simpa using hprior

theorem SilenceInv.quiet {past : List StreamRecord} {view : TargetView}
    (hinv : SilenceInv start offset past view) {record : StreamRecord}
    (hsame : record.epochAfter = record.epochBefore) :
    SilenceInv start offset (past ++ [record]) view := by
  have hlast : lastProgressAt start (past ++ [record]) = lastProgressAt start past := by
    rw [lastProgressAt_concat, if_neg (by omega)]
  refine ⟨?_, ?_⟩
  · rw [hlast]
    exact hinv.anchor
  · rw [hlast]
    exact hinv.latest

theorem streamRule_silence (thresholds : Thresholds) :
    StreamRule (fun past view => Along (NotEarly thresholds start) past ∧
      SilenceInv start offset past view) thresholds start offset := by
  constructor
  · rintro past view record ⟨halong, hinv⟩ hbefore hafter hqueued
    refine ⟨halong.concat ⟨fun epoch hmem => ?_, fun epoch hmem => ?_⟩,
      hinv.quiet (hafter.trans hbefore.symm)⟩
    · rw [hqueued] at hmem
      exact absurd hmem List.not_mem_nil
    · rw [hqueued] at hmem
      exact absurd hmem List.not_mem_nil
  · rintro past view input ⟨halong, hinv⟩ hstep hstart
    exact ⟨halong.concat (hinv.notEarly hstep hstart), hinv.tick hstep hstart⟩

/-- **A new activation starts a new silence** when the engine remembers nothing older of the
    session: it begins live and without open calls, and whatever its ticks read, no silence
    is announced before it lasted that long since the start. -/
theorem activation_notEarly {root : StateRoot} {log : DiagnosticLog} {ops past : List SessionOp}
    {request : StartRequest} {transcript : RelativeTranscript} {wallTime : Int}
    (hempty : root.runtime = ∅) (hof : ∀ op ∈ ops, op.Of sessionId)
    (hextends : past ++ [.start request transcript wallTime] <+: ops)
    (hopens : (SessionOp.start request transcript wallTime).Opens H sessionId
      ((serviceMachine H sessionId).after (NotificationDaemon.create root log) past))
    (hfresh : FreshMemory sessionId start
      ((serviceMachine H sessionId).after (NotificationDaemon.create root log) past).engine) :
    let opened := (serviceMachine H sessionId).after (NotificationDaemon.create root log)
      (past ++ [.start request transcript wallTime])
    (∀ state, rememberedDetector opened.engine sessionId = some state →
        state.waits.terminal = false) ∧
      opened.engine.watcher.openCalls (sessionId, none, 1) = ∅ ∧
      ∀ envs : List TickEnvironment,
        (∀ env ∈ envs, ClocksInStep start (wallTime - start) env.context) →
        (∀ env ∈ envs, (env.commitFaults (sessionFilename H sessionId)).write = none) →
          Along (NotEarly request.thresholds start)
            ((streamMachine H sessionId).outputs (opened.root, opened.engine) envs) := by
  have hpast : past <+: ops := (List.prefix_append past _).trans hextends
  have hrequest : request.sessionId = sessionId := hof (.start request transcript wallTime)
    (hextends.subset (List.mem_append_right _ (List.mem_singleton_self _)))
  subst hrequest
  obtain ⟨model, hmodels⟩ := serviceRun_models (models_create H request.sessionId hempty log)
    (fun op hmem => hof op (hpast.subset hmem))
  rw [Machine.after_concat]
  generalize (serviceMachine H request.sessionId).after (NotificationDaemon.create root log) past
    = service at hopens hfresh hmodels
  have habsent : service.root.runtime.lookup (sessionFilename H request.sessionId) = none := hopens
  obtain ⟨hroot, hengine, _, _⟩ := @start_service H service hmodels.isOpen hmodels.schedulable
    { transcript := some transcript } wallTime request
  rw [startNotificationSession_absent habsent] at hroot
  have hopened : ((serviceMachine H request.sessionId).step service
      (.start request transcript wallTime)).1 =
        (service.start H { transcript := some transcript } wallTime request).1 := rfl
  dsimp only
  rw [hopened, hengine, hroot]
  refine ⟨fun state hstate => (hfresh.detector state hstate).1, hfresh.openCalls, ?_⟩
  intro envs hclocks hwrite
  have hinit : SilenceInv start (wallTime - start) []
      (sessionView H (SessionDocument.started request transcript wallTime)
        service.engine.watcher) := by
    refine ⟨fun _ => ⟨?_, rfl⟩, ?_⟩
    · change wallTime = start + (wallTime - start)
      omega
    · intro detector hdetector
      obtain ⟨state, hstate, rfl⟩ := Option.map_eq_some_iff.mp hdetector
      exact (hfresh.detector state hstate).2
  have hstate : EngineInv H request.sessionId request.thresholds
      (fun past view => Along (NotEarly request.thresholds start) past ∧
        SilenceInv start (wallTime - start) past view) []
      (service.root.setRuntime (sessionFilename H request.sessionId)
        (SessionDocument.started request transcript wallTime).values, service.engine) :=
    ⟨SessionDocument.started request transcript wallTime, rfl, rfl,
      service.root.setRuntime_lookup _ _, Or.inl (alone_setRuntime hmodels.alone _),
      hmodels.pending, Along.nil, hinit⟩
  obtain ⟨view, halong, _⟩ :=
    engineInv_run hstate (streamRule_silence request.thresholds) hclocks hwrite
  exact halong

end Silence

/-! ### Two activations -/

/-- The second activation completes, and is suspected in a new process, without a notice. -/
theorem second_activation_silent :
    (serviceMachine .transparent "s").outputs (NotificationDaemon.create .empty [])
        [sampleOpen 0, sampleComplete 100, sampleOpen 200, sampleComplete 300] =
          [[], [.completed], [], []] ∧
      (forgetfulMachine .transparent "s").outputs (NotificationDaemon.create .empty [])
        [sampleOpen 0, sampleComplete 100, sampleOpen 200, sampleComplete 300] =
          [[], [.completed], [], [.completed]] ∧
      (serviceMachine .transparent "s").outputs (NotificationDaemon.create .empty [])
        [sampleOpen 0, sampleTick 1000 [], .stop, .restart, sampleOpen 2000, sampleTick 3000 []] =
          [[], [.mark ⟨.suspected, 0⟩], [], [], [], []] ∧
      (forgetfulMachine .transparent "s").outputs (NotificationDaemon.create .empty [])
        [sampleOpen 0, sampleTick 1000 [], .stop, .restart, sampleOpen 2000, sampleTick 3000 []] =
          [[], [.mark ⟨.suspected, 0⟩], [], [], [], [.mark ⟨.suspected, 0⟩]] := by
  decide

theorem activations_delivered_sample :
    (serviceMachine .transparent "s").outputs (NotificationDaemon.create .empty [])
        [sampleOpen 0, .stop, sampleOpen 200, sampleComplete 300] =
      (forgetfulMachine .transparent "s").outputs (NotificationDaemon.create .empty [])
        [sampleOpen 0, .stop, sampleOpen 200, sampleComplete 300] := by
  refine (@activations_delivered .transparent "s" .empty []
    [sampleOpen 0, .stop, sampleOpen 200, sampleComplete 300] rfl ?_ ?_).1
  · intro op hmem
    simp only [List.mem_cons, List.not_mem_nil, or_false] at hmem
    rcases hmem with rfl | rfl | rfl | rfl <;> first | rfl | trivial
  · have hunknown : UnknownTo .transparent "s" [] := ⟨fun _ => rfl, rfl⟩
    exact ⟨fun _ => hunknown, fun hopens => hopens.elim, fun _ => hunknown,
      fun hopens => hopens.elim, trivial⟩

/-- What the first activation left makes the second one suspected when it starts, or leaves
    it paused. -/
theorem second_activation_early :
    (serviceMachine .transparent "s").outputs (NotificationDaemon.create .empty [])
        [sampleOpen 0, sampleTick 0 [], .stop, sampleOpen 5000, sampleTick 5000 []] =
          [[], [], [], [], [.mark ⟨.suspected, 0⟩]] ∧
      ((serviceMachine .transparent "s").after (NotificationDaemon.create .empty [])
        [sampleOpen 0, sampleTick 0 [{ kind := .toolStarted, occurredAt := 0, callId := some "c" }],
          .stop, sampleOpen 5000]).engine.watcher.openCalls ("s", none, 1) = {"c"} ∧
      ((rememberedDetector ((serviceMachine .transparent "s").after
        (NotificationDaemon.create .empty [])
        [sampleOpen 0, sampleComplete 100, sampleOpen 200]).engine "s").any
          fun state => state.waits.terminal) = true := by
  decide

theorem activation_notEarly_sample :
    Along (NotEarly sampleRequest.thresholds 5000)
      ((streamMachine .transparent "s").outputs
        (((serviceMachine .transparent "s").after (NotificationDaemon.create .empty [])
            [sampleOpen 0, .stop, sampleOpen 5000]).root,
          ((serviceMachine .transparent "s").after (NotificationDaemon.create .empty [])
            [sampleOpen 0, .stop, sampleOpen 5000]).engine)
        [.delivering ⟨6000, 6000⟩ []]) := by
  refine (@activation_notEarly .transparent "s" 5000 .empty []
    [sampleOpen 0, .stop, sampleOpen 5000] [sampleOpen 0, .stop] sampleRequest ⟨"t", by decide⟩ 5000
    rfl ?_ (List.prefix_refl _) rfl
    (freshMemory_of_untouched .transparent "s" 5000 .empty []
      ⟨[], _, Or.inl rfl, ?_⟩)).2.2 _ ?_ ?_
  · intro op hmem
    simp only [List.mem_cons, List.not_mem_nil, or_false] at hmem
    rcases hmem with rfl | rfl | rfl <;> first | rfl | trivial
  · intro op hmem
    simp only [List.mem_cons, List.not_mem_nil, or_false] at hmem
    rcases hmem with rfl | rfl <;> trivial
  · intro env hmem
    obtain rfl := List.mem_singleton.mp hmem
    exact ⟨by decide, rfl⟩
  · intro env hmem
    obtain rfl := List.mem_singleton.mp hmem
    rfl

end CodexMustWork
