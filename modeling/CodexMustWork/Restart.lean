import CodexMustWork.SessionHistory

/-!
# Replacing the engine during an activation

A new engine finds the runtime document and the log, and nothing else.  The
anchor tells it when the silence began and the log which transitions of the
epoch were recorded, so it rebuilds a detector that decides as the old one did.
The open calls are not written anywhere: an engine that replaces one which waits
for a call does not wait.  Nor is the quarantine: a session whose read failed is
watched again.
-/

namespace CodexMustWork

/-! ### What can be rebuilt -/

/-- Everything the detector remembers can be read from the anchor and the record. -/
def Rebuildable (offset : Int) (view : TargetView) : Prop :=
  ∀ detector, view.detector = some detector →
    detector.terminal = false ∧ detector.latest = view.anchor - offset ∧
      (detector.warned = true → view.recorded ⟨.suspected, view.epoch⟩ = true) ∧
      (detector.critical = true → view.recorded ⟨.critical, view.epoch⟩ = true)

/-- Two views of one session that differ in their detectors at most. -/
structure SameSilence (left right : TargetView) : Prop where
  epoch : left.epoch = right.epoch
  anchor : left.anchor = right.anchor
  openCalls : left.openCalls = right.openCalls
  recorded : left.recorded = right.recorded

section Views

variable {thresholds : Thresholds} {offset : Int} {view left right : TargetView} {input : TickInput}

/-- The detector a tick starts from, when it is remembered and when it is not. -/
theorem Rebuildable.prior (hview : Rebuildable offset view)
    (hclock : input.wallTime = input.now + offset) (hlate : view.anchor ≤ input.wallTime) :
    let prior := view.prior input.now input.wallTime
    prior.terminal = false ∧ prior.latest = view.anchor - offset ∧
      (prior.warned = true → view.recorded ⟨.suspected, view.epoch⟩ = true) ∧
      (prior.critical = true → view.recorded ⟨.critical, view.epoch⟩ = true) := by
  unfold TargetView.prior
  cases hdetector : view.detector with
  | some detector => exact hview detector hdetector
  | none =>
      refine ⟨rfl, ?_, (fun heq => nomatch heq), (fun heq => nomatch heq)⟩
      change input.now - max 0 (input.wallTime - view.anchor) = _
      omega

theorem Rebuildable.progresses (hview : Rebuildable offset view)
    (hclock : input.wallTime = input.now + offset) (hlate : view.anchor ≤ input.wallTime) :
    view.progresses input = !(view.progress input.events).isEmpty := by
  obtain ⟨hterminal, hlatest, _⟩ := hview.prior hclock hlate
  have hearlier : (view.prior input.now input.wallTime).latest ≤ input.now := by omega
  unfold TargetView.progresses
  rw [hterminal, decide_eq_true hearlier]
  rfl

theorem Rebuildable.warned (hview : Rebuildable offset view)
    (hclock : input.wallTime = input.now + offset) (hlate : view.anchor ≤ input.wallTime) :
    view.warned input = view.recorded ⟨.suspected, view.epoch⟩ := by
  have hwarned := (hview.prior hclock hlate).2.2.1
  unfold TargetView.warned
  cases hprior : (view.prior input.now input.wallTime).warned with
  | false => rfl
  | true => exact (hwarned hprior).symm

theorem SameSilence.observed (hsame : SameSilence left right) (events : List ObservedEvent) :
    left.observed events = right.observed events := by
  unfold TargetView.observed
  rw [hsame.anchor]

theorem SameSilence.progress (hsame : SameSilence left right) (events : List ObservedEvent) :
    left.progress events = right.progress events := by
  unfold TargetView.progress
  rw [hsame.observed]

theorem SameSilence.waiting (hsame : SameSilence left right) :
    left.waiting input = right.waiting input := by
  unfold TargetView.waiting TargetView.callsAfter
  rw [hsame.openCalls, hsame.observed]

/-- The counted detectors of two rebuildable views decide the same, but for a critical
    transition that is recorded already. -/
structure SameCount (thresholds : Thresholds) (left right : TargetView) (input : TickInput) :
    Prop where
  progresses : left.progresses input = right.progresses input
  warned : left.warned input = right.warned input
  suspected : left.due thresholds input = some .suspected ↔
    right.due thresholds input = some .suspected
  critical : left.recorded ⟨.critical, left.epoch⟩ = false →
    (left.due thresholds input = some .critical ↔ right.due thresholds input = some .critical)

theorem sameCount_of_rebuildable (hsame : SameSilence left right) (hleft : Rebuildable offset left)
    (hright : Rebuildable offset right) (hclock : input.wallTime = input.now + offset)
    (hlate : left.anchor ≤ input.wallTime) : SameCount thresholds left right input := by
  have hlateRight : right.anchor ≤ input.wallTime := hsame.anchor ▸ hlate
  have hprogresses : left.progresses input = right.progresses input := by
    rw [hleft.progresses hclock hlate, hright.progresses hclock hlateRight, hsame.progress]
  have hwarned : left.warned input = right.warned input := by
    rw [hleft.warned hclock hlate, hright.warned hclock hlateRight, hsame.recorded, hsame.epoch]
  obtain ⟨_, hlatestLeft, _, hcriticalLeft⟩ := hleft.prior hclock hlate
  obtain ⟨_, hlatestRight, _, hcriticalRight⟩ := hright.prior hclock hlateRight
  have hwaiting : left.waiting input = right.waiting input := hsame.waiting
  have hcounted : (left.counted input).latest = (right.counted input).latest ∧
      (left.counted input).warned = (right.counted input).warned ∧
      (left.counted input).paused = (right.counted input).paused ∧
      (left.recorded ⟨.critical, left.epoch⟩ = false →
        (left.counted input).critical = (right.counted input).critical) := by
    unfold TargetView.counted
    rw [← hprogresses]
    split_ifs
    · exact ⟨rfl, rfl, hwaiting, fun _ => rfl⟩
    · refine ⟨?_, hwarned, hwaiting, ?_⟩
      · dsimp only
        rw [hlatestLeft, hlatestRight, hsame.anchor]
      · intro hnew
        have hnewRight : right.recorded ⟨.critical, right.epoch⟩ = false := by
          rw [← hsame.recorded, ← hsame.epoch]
          exact hnew
        have hfalseLeft : (left.prior input.now input.wallTime).critical = false := by
          by_contra hset
          have hrecorded := hcriticalLeft (by simpa using hset)
          rw [hnew] at hrecorded
          cases hrecorded
        have hfalseRight : (right.prior input.now input.wallTime).critical = false := by
          by_contra hset
          have hrecorded := hcriticalRight (by simpa using hset)
          rw [hnewRight] at hrecorded
          cases hrecorded
        exact hfalseLeft.trans hfalseRight.symm
  obtain ⟨hlatest, hcountedWarned, hpaused, hcritical⟩ := hcounted
  refine ⟨hprogresses, hwarned, ?_, ?_⟩
  · unfold TargetView.due
    rw [DetectorView.due_eq_suspected_iff, DetectorView.due_eq_suspected_iff, hlatest,
      hcountedWarned, hpaused]
  · intro hnew
    unfold TargetView.due
    rw [DetectorView.due_eq_critical_iff, DetectorView.due_eq_critical_iff, hlatest,
      hcountedWarned, hpaused, hcritical hnew]

/-- Lists of one item at most are their members. -/
theorem eq_of_mem_iff_of_length_le_one {α : Type*} {first second : List α}
    (hfirst : first.length ≤ 1) (hsecond : second.length ≤ 1)
    (hmem : ∀ item, item ∈ first ↔ item ∈ second) : first = second := by
  have hnodup : ∀ items : List α, items.length ≤ 1 → items.Nodup := by
    intro items hlength
    match items, hlength with
    | [], _ => exact List.nodup_nil
    | [item], _ => exact List.nodup_singleton item
  have hperm := (List.perm_ext_iff_of_nodup (hnodup _ hfirst) (hnodup _ hsecond)).mpr hmem
  match first, hfirst with
  | [], _ => exact hperm.nil_eq
  | [item], _ => exact hperm.singleton_eq

/-- Rebuildable views queue the same marks. -/
theorem queued_eq_of_rebuildable (hsame : SameSilence left right)
    (hcount : SameCount thresholds left right input) :
    left.queued thresholds input = right.queued thresholds input := by
  refine eq_of_mem_iff_of_length_le_one TargetView.queued_length_le_one
    TargetView.queued_length_le_one ?_
  rintro ⟨kind, epoch⟩
  rw [TargetView.mem_queued, TargetView.mem_queued, ← hsame.recorded]
  cases kind with
  | recovered =>
      rw [TargetView.mem_marks_recovered, TargetView.mem_marks_recovered, hsame.epoch,
        hcount.progresses, hcount.warned]
  | suspected =>
      rw [TargetView.mem_marks_of_ne_recovered (by decide),
        TargetView.mem_marks_of_ne_recovered (by decide), hsame.epoch, hcount.suspected]
  | critical =>
      rw [TargetView.mem_marks_of_ne_recovered (by decide),
        TargetView.mem_marks_of_ne_recovered (by decide), ← hsame.epoch]
      constructor
      · rintro ⟨⟨rfl, hdue⟩, hnew⟩
        exact ⟨⟨rfl, (hcount.critical hnew).mp hdue⟩, hnew⟩
      · rintro ⟨⟨rfl, hdue⟩, hnew⟩
        exact ⟨⟨rfl, (hcount.critical hnew).mpr hdue⟩, hnew⟩

theorem SameSilence.next (hsame : SameSilence left right)
    (hcount : SameCount thresholds left right input) :
    SameSilence (left.next thresholds input) (right.next thresholds input) := by
  refine ⟨?_, ?_, ?_, ?_⟩
  · rw [TargetView.next_epoch, TargetView.next_epoch, hcount.progresses, hsame.epoch]
  · rw [TargetView.next_anchor, TargetView.next_anchor, hcount.progresses, hsame.anchor]
  · rw [TargetView.next_openCalls, TargetView.next_openCalls, TargetView.callsAfter,
      TargetView.callsAfter, hsame.openCalls, hsame.observed]
  · funext mark
    rw [Bool.eq_iff_iff, TargetView.next_recorded, TargetView.next_recorded, hsame.recorded,
      queued_eq_of_rebuildable hsame hcount]

/-- A tick leaves a rebuildable view. -/
theorem Rebuildable.next (hview : Rebuildable offset view)
    (hclock : input.wallTime = input.now + offset) (hlate : view.anchor ≤ input.wallTime) :
    Rebuildable offset (view.next thresholds input) := by
  obtain ⟨_, hlatest, _, hcritical⟩ := hview.prior hclock hlate
  have hwarned := hview.warned hclock hlate
  intro detector hdetector
  rw [TargetView.next_detector, Option.some_inj] at hdetector
  subst hdetector
  rw [TargetView.next_latest, TargetView.next_anchor, TargetView.next_epoch]
  cases hprogresses : view.progresses input with
  | true =>
      have hdue : view.due thresholds input = none := TargetView.due_of_progresses hprogresses
      have hcounted : view.counted input = ⟨input.now, false, false, view.waiting input, false⟩ := by
        rw [TargetView.counted, if_pos hprogresses]
      refine ⟨TargetView.next_terminal, ?_, ?_, ?_⟩
      · rw [if_pos rfl, if_pos rfl]
        omega
      · rw [hdue, hcounted]
        rintro ⟨⟩
      · rw [hdue, hcounted]
        rintro ⟨⟩
  | false =>
      have hcounted : (view.counted input).warned = view.warned input ∧
          (view.counted input).critical = (view.prior input.now input.wallTime).critical := by
        rw [TargetView.counted, hprogresses]
        exact ⟨rfl, rfl⟩
      rw [if_neg Bool.false_ne_true, if_neg Bool.false_ne_true, if_neg Bool.false_ne_true]
      refine ⟨TargetView.next_terminal, hlatest, ?_, ?_⟩
      · intro hset
        rw [TargetView.next_recorded_of_ne_recovered (by decide), ← hwarned, ← hcounted.1]
        exact hset
      · intro hset
        rw [TargetView.next_recorded_of_ne_recovered (by decide)]
        rcases (Bool.or_eq_true _ _).mp hset with hold | hnow
        · rw [hcritical (hcounted.2 ▸ hold)]
          rfl
        · rw [hnow, Bool.or_true]

end Views

/-! ### One step -/

/-- Two models of one session, of which one was restarted more often.  `instants` are the
    instants from which a silence can be counted. -/
structure Restartable (offset : Int) (instants : List Int) (left right : SessionModel) : Prop where
  file : left.file = right.file
  completed : left.memory.completed = right.memory.completed
  running : ∀ thresholds epoch anchor, left.file = .running thresholds epoch anchor →
    SameSilence (left.memory.view epoch anchor) (right.memory.view epoch anchor) ∧
      Rebuildable offset (left.memory.view epoch anchor) ∧
      Rebuildable offset (right.memory.view epoch anchor) ∧ anchor - offset ∈ instants

section Steps

variable {offset : Int} {instants : List Int} {left right : SessionModel}

theorem Restartable.tick (hrel : Restartable offset instants left right) {input : TickInput}
    (hclock : input.wallTime = input.now + offset)
    (hlate : ∀ instant ∈ instants, instant ≤ input.now) :
    (left.step (.tick input)).2 = (right.step (.tick input)).2 ∧
      Restartable offset (instants ++ [input.now]) (left.step (.tick input)).1
        (right.step (.tick input)).1 := by
  obtain ⟨file, memory⟩ := left
  obtain ⟨fileRight, memoryRight⟩ := right
  obtain ⟨hfile, hcompleted, hrunning⟩ := hrel
  obtain rfl : file = fileRight := hfile
  cases file with
  | absent => exact ⟨rfl, rfl, hcompleted, fun _ _ _ heq => nomatch heq⟩
  | closing => exact ⟨rfl, rfl, hcompleted, fun _ _ _ heq => nomatch heq⟩
  | running thresholds epoch anchor =>
      obtain ⟨hsame, hleft, hright, hanchor⟩ := hrunning thresholds epoch anchor rfl
      have hafter : anchor ≤ input.wallTime := by
        have hinstant := hlate _ hanchor
        omega
      have hcount : SameCount thresholds _ _ input :=
        sameCount_of_rebuildable hsame hleft hright hclock hafter
      have hnext := hsame.next hcount
      refine ⟨congrArg (List.map Notice.mark) (queued_eq_of_rebuildable hsame hcount), ?_,
        hcompleted, ?_⟩
      · change SessionFile.running thresholds _ _ = SessionFile.running thresholds _ _
        rw [hnext.epoch, hnext.anchor]
      · intro held heldEpoch heldAnchor heq
        obtain ⟨rfl, rfl, rfl⟩ := SessionFile.running.inj heq
        have hrightView : (memoryRight.ofView ((memoryRight.view epoch anchor).next thresholds
            input)).view ((memory.view epoch anchor).next thresholds input).epoch
              ((memory.view epoch anchor).next thresholds input).anchor =
            (memoryRight.view epoch anchor).next thresholds input := by
          rw [hnext.epoch, hnext.anchor]
          rfl
        refine ⟨?_, hleft.next hclock hafter, ?_, ?_⟩
        · change SameSilence _ (SessionMemory.view (memoryRight.ofView _) _ _)
          rw [hrightView]
          exact hnext
        · change Rebuildable offset (SessionMemory.view (memoryRight.ofView _) _ _)
          rw [hrightView]
          exact hright.next hclock hafter
        · rw [TargetView.next_anchor]
          split_ifs
          · apply List.mem_append_right
            rw [List.mem_singleton]
            omega
          · exact List.mem_append_left _ hanchor

theorem Restartable.complete (hrel : Restartable offset instants left right) (now : Int)
    (raises : Bool) :
    (left.step (.complete now raises)).2 = (right.step (.complete now raises)).2 ∧
      Restartable offset (instants ++ [now]) (left.step (.complete now raises)).1
        (right.step (.complete now raises)).1 := by
  obtain ⟨file, memory⟩ := left
  obtain ⟨fileRight, memoryRight⟩ := right
  obtain ⟨hfile, hcompleted, _⟩ := hrel
  obtain rfl : file = fileRight := hfile
  have hnotice : memory.completionNotice = memoryRight.completionNotice := by
    unfold SessionMemory.completionNotice
    dsimp only at hcompleted
    rw [hcompleted]
  cases file with
  | absent => exact ⟨rfl, rfl, hcompleted, fun _ _ _ heq => nomatch heq⟩
  | closing => exact ⟨rfl, rfl, hcompleted, fun _ _ _ heq => nomatch heq⟩
  | running thresholds epoch anchor =>
      refine ⟨hnotice, ?_, rfl, ?_⟩
      · change (if _ then SessionFile.closing else SessionFile.absent) = (if _ then _ else _)
        rw [hnotice]
      · intro held heldEpoch heldAnchor heq
        simp only [SessionModel.step] at heq
        split_ifs at heq

/-- A restart that finds no open call. -/
theorem Restartable.restart (hrel : Restartable offset instants left right)
    (hquiet : ∀ thresholds epoch anchor, left.file = .running thresholds epoch anchor →
      left.memory.openCalls = ∅) :
    Restartable offset instants (left.step .restart).1 right := by
  obtain ⟨file, memory⟩ := left
  obtain ⟨hfile, hcompleted, hrunning⟩ := hrel
  refine ⟨hfile, hcompleted, ?_⟩
  intro thresholds epoch anchor hheld
  obtain ⟨hsame, _, hright, hanchor⟩ := hrunning thresholds epoch anchor hheld
  have hnone : memory.openCalls = ∅ := hquiet thresholds epoch anchor hheld
  have hcalls : (∅ : Finset String) = right.memory.openCalls := hnone.symm.trans hsame.openCalls
  exact ⟨⟨rfl, rfl, hcalls, hsame.recorded⟩, (fun _ heq => nomatch heq), hright, hanchor⟩

end Steps

/-! ### Runs of one activation -/

/-- What can happen during an activation.  A tick reads some events, or its read fails. -/
inductive ActivationOp where
  | tick (context : TickContext) (read : Except ReadFailure (List ObservedEvent))
      (delivery : Delivery)
  | complete (context : TickContext) (delivery : Delivery)
  | restart

namespace ActivationOp

def isRestart : ActivationOp → Bool
  | restart => true
  | _ => false

/-- The clocks an operation reads. -/
def clock : ActivationOp → Option TickContext
  | tick context _ _ => some context
  | complete context _ => some context
  | restart => none

/-- What a tick meets. -/
def env (context : TickContext) (read : Except ReadFailure (List ObservedEvent))
    (delivery : Delivery) : TickEnvironment :=
  { SessionOp.env context [] delivery with
    read := fun _ _ => read.map fun events => ⟨none, ⟨0, 0, 0⟩, events⟩ }

/-- What the service does, with the notifications it queues. -/
def apply (H : Digest) (sessionId : String) (service : NotificationDaemon) :
    ActivationOp → NotificationDaemon × List PendingNotification
  | tick context read delivery => service.reconcile H (env context read delivery)
  | complete context delivery => (SessionOp.complete context delivery).apply H sessionId service
  | restart => SessionOp.restart.apply H sessionId service

end ActivationOp

/-- The service along an activation of one session. -/
def activationMachine (H : Digest) (sessionId : String) :
    Machine NotificationDaemon ActivationOp (List Notice) where
  step service op :=
    let (after, queued) := op.apply H sessionId service
    (after, sessionNotices sessionId queued)

/-- The instants of a run, from its start. -/
def clockInstants (start : Int) (ops : List ActivationOp) : List Int :=
  start :: (ops.filterMap ActivationOp.clock).map TickContext.now

/-- The two clocks of a run advance in step. -/
structure ClocksAdvance (start offset : Int) (ops : List ActivationOp) : Prop where
  wall : ∀ context ∈ ops.filterMap ActivationOp.clock, context.wallTime = context.now + offset
  monotonic : (clockInstants start ops).Pairwise (· ≤ ·)

/-- A restart of a running session meets no open call, and no quarantine. -/
def QuietRestart (H : Digest) (sessionId : String) (service : NotificationDaemon)
    (op : ActivationOp) : Prop :=
  op = .restart → (∃ doc : SessionDocument, doc.sessionId = sessionId ∧ service.root.Holds H doc) →
    service.engine.watcher.openCalls (sessionId, none, 1) = ∅ ∧
      sessionId ∉ service.engine.failedSessions

/-! ### Sessions in quarantine -/

section Quarantine

variable {H : Digest} {sessionId : String} {service : NotificationDaemon} {root root' : StateRoot}
  {engine engine' : WatcherEngine} {doc : SessionDocument} {context : TickContext}
  {delivery : Delivery}

/-- A tick on a single file is the loop body on it. -/
theorem tick_of_only {env : TickEnvironment} {path : String} {result : Except Failure Bool}
    (hfiles : discoverRuntimeFiles root = [path])
    (hfile : tickFile H env root engine path = ⟨root', engine', result⟩)
    (hpending : engine'.watcher.recorder.pending = []) :
    engine.tick H env root = ⟨root', engine', [], result⟩ := by
  obtain ⟨⟨recorder, detectors, openCalls, started, heartbeatAt⟩, failedSessions⟩ := engine'
  obtain ⟨log, pending⟩ := recorder
  obtain rfl : pending = [] := hpending
  unfold WatcherEngine.tick
  rw [hfiles]
  unfold tickFiles
  rw [hfile]
  cases result with
  | error failure => rfl
  | ok active => cases active <;> rfl

theorem snapshotTarget_activation (hholds : root.Holds H doc)
    (read : Except ReadFailure (List ObservedEvent)) :
    snapshotTarget H (ActivationOp.env context read delivery) root (doc.path H) =
      .ok (some (doc.target H doc.transcript.path)) := by
  rw [snapshotTarget_session hholds]
  rfl

/-- A session in quarantine is passed over. -/
theorem tickFile_passed (hholds : root.Holds H doc)
    (hfailed : doc.sessionId ∈ engine.failedSessions)
    (read : Except ReadFailure (List ObservedEvent)) :
    tickFile H (ActivationOp.env context read delivery) root engine (doc.path H) =
      ⟨root, engine, .ok false⟩ := by
  unfold tickFile
  rw [snapshotTarget_activation hholds]
  exact if_pos hfailed

variable (context delivery) in
/-- Also when it is completed. -/
theorem tickFile_closing_passed {claimed : Bool} (hholds : root.HoldsClosing H doc claimed)
    (hfailed : doc.sessionId ∈ engine.failedSessions) :
    tickFile H (SessionOp.env context [] delivery) root engine (doc.path H) =
      ⟨root, engine, .ok false⟩ := by
  unfold tickFile
  rw [snapshotTarget_closing hholds rfl rfl rfl]
  exact if_pos hfailed

/-- The failures that the watcher answers with a quarantine. -/
def ReadFailure.quarantines : ReadFailure → Bool
  | rolloutCorrupt _ => true
  | rolloutRotated => true
  | raised _ => false

variable (context delivery) in
theorem tickFile_quarantines (hholds : root.Holds H doc)
    (hlive : doc.sessionId ∉ engine.failedSessions) {failure : ReadFailure}
    (hquarantines : failure.quarantines = true) :
    ∃ engine', tickFile H (ActivationOp.env context (.error failure) delivery) root engine
        (doc.path H) = ⟨root, engine', .ok false⟩ ∧
      engine'.watcher.recorder.pending = engine.watcher.recorder.pending ∧
      doc.sessionId ∈ engine'.failedSessions := by
  have hfail : ∀ code, ∃ engine', failTick H (ActivationOp.env context (.error failure) delivery)
      root (doc.target H doc.transcript.path) code engine = ⟨root, engine', .ok false⟩ ∧
        engine'.watcher.recorder.pending = engine.watcher.recorder.pending ∧
        doc.sessionId ∈ engine'.failedSessions := by
    intro code
    rw [failTick_of_unlocked hholds rfl rfl]
    exact ⟨_, rfl, rfl, Finset.mem_insert_self ..⟩
  have hsession : (doc.target H doc.transcript.path).sessionId ∉ engine.failedSessions := hlive
  have hcomplete : (doc.target H doc.transcript.path).parentComplete = false := rfl
  have hrunning : (!(doc.target H doc.transcript.path).hasRunning) = false := rfl
  unfold tickFile
  rw [snapshotTarget_activation hholds]
  simp only [if_neg hsession, hcomplete, hrunning, Bool.false_eq_true, if_false]
  cases failure with
  | rolloutCorrupt reason => exact hfail _
  | rolloutRotated => exact hfail _
  | raised failure => cases hquarantines

theorem tickFile_raised (hholds : root.Holds H doc)
    (hlive : doc.sessionId ∉ engine.failedSessions) (failure : Failure) :
    tickFile H (ActivationOp.env context (.error (.raised failure)) delivery) root engine
      (doc.path H) = ⟨root, engine, .error failure⟩ := by
  have hsession : (doc.target H doc.transcript.path).sessionId ∉ engine.failedSessions := hlive
  have hcomplete : (doc.target H doc.transcript.path).parentComplete = false := rfl
  have hrunning : (!(doc.target H doc.transcript.path).hasRunning) = false := rfl
  unfold tickFile
  rw [snapshotTarget_activation hholds]
  simp only [if_neg hsession, hcomplete, hrunning, Bool.false_eq_true, if_false]
  rfl

/-- A completed session is closed without a read. -/
theorem tickFile_closing_unread {claimed : Bool} (hholds : root.HoldsClosing H doc claimed)
    (read : Except ReadFailure (List ObservedEvent)) :
    tickFile H (ActivationOp.env context read delivery) root engine (doc.path H) =
      tickFile H (SessionOp.env context [] delivery) root engine (doc.path H) := by
  unfold tickFile
  rw [snapshotTarget_closing hholds rfl rfl rfl, snapshotTarget_closing hholds rfl rfl rfl]
  rfl

/-- A service that queues nothing for the session any more: its document is gone, or its
    engine holds it in quarantine. -/
structure Silenced (H : Digest) (sessionId : String) (service : NotificationDaemon) : Prop where
  isOpen : service.closed = false
  schedulable : service.health ≠ .fatal
  alone : Alone H service.root sessionId
  pending : service.engine.watcher.recorder.pending = []
  silenced : service.root.runtime.lookup (sessionFilename H sessionId) = none ∨
    sessionId ∈ service.engine.failedSessions ∧
      ∃ doc : SessionDocument, doc.sessionId = sessionId ∧ service.root.Holds H doc

theorem Silenced.tick_eq (hsilenced : Silenced H sessionId service)
    (read : Except ReadFailure (List ObservedEvent)) :
    service.engine.tick H (ActivationOp.env context read delivery) service.root =
      ⟨service.root, service.engine, [], .ok false⟩ := by
  rcases hsilenced.silenced with habsent | ⟨hfailed, doc, rfl, hholds⟩
  · exact tick_of_absent (discoverRuntimeFiles_of_absent hsilenced.alone habsent)
      hsilenced.pending
  · exact tick_of_only (discoverRuntimeFiles_of_only hholds.mem hsilenced.alone)
      (tickFile_passed hholds hfailed read) hsilenced.pending

variable (context delivery) in
/-- Completing a session in quarantine removes its document without a notice. -/
theorem Silenced.complete (hsilenced : Silenced H sessionId service) :
    ((SessionOp.complete context delivery).apply H sessionId service).2 = [] ∧
      Silenced H sessionId ((SessionOp.complete context delivery).apply H sessionId service).1 := by
  obtain ⟨root, engine, closed, health, scheduled⟩ := service
  obtain ⟨hopen, hhealth, halone, hpending, hsilent⟩ := hsilenced
  obtain rfl : closed = false := hopen
  rcases hsilent with habsent | ⟨hfailed, doc, rfl, hholds⟩
  · have hcomplete : (SessionOp.complete context delivery).apply H sessionId
        ⟨root, engine, false, health, scheduled⟩ =
          (⟨⟨root.runtime.erase (sessionFilename H sessionId),
            root.cursors.erase (sessionFilename H sessionId)⟩, engine, false, health, scheduled⟩,
            []) := by
      unfold SessionOp.apply NotificationDaemon.complete
      dsimp only
      rw [if_neg Bool.false_ne_true, markNotificationSessionComplete_absent habsent]
      rfl
    rw [hcomplete]
    exact ⟨rfl, rfl, hhealth, alone_erase halone _ _, hpending, Or.inl (AList.lookup_erase _ _)⟩
  · have hmarked : (root.setRuntime (sessionFilename H doc.sessionId)
        (doc.bump.closing H false)).HoldsClosing H doc.bump false := root.setRuntime_lookup _ _
    have hmarkedAlone : Alone H (root.setRuntime (sessionFilename H doc.sessionId)
        (doc.bump.closing H false)) doc.sessionId := alone_setRuntime halone _
    have hmem : doc.path H ∈ (root.setRuntime (sessionFilename H doc.sessionId)
        (doc.bump.closing H false)).runtime := (AList.mem_insert _).mpr (Or.inl rfl)
    have hpassed := tickFile_closing_passed context delivery hmarked hfailed
    have htick : engine.tick H (SessionOp.env context [] delivery)
        (root.setRuntime (sessionFilename H doc.sessionId) (doc.bump.closing H false)) =
          ⟨_, engine, [], .ok false⟩ :=
      tick_of_only (discoverRuntimeFiles_of_only hmem hmarkedAlone)
        hpassed hpending
    obtain ⟨hqueued, hengine, hstillOpen, hsame, hroot⟩ :=
      @complete_present H doc.sessionId root doc.values (doc.bump.closing H false) engine health
        scheduled (SessionOp.env context [] delivery) hholds (doc.completeValues_values H _)
        (doc.bump_closing_ne_values H)
    rw [htick] at hqueued hengine hroot
    refine ⟨hqueued, hstillOpen, fun heq => hhealth (hsame.symm.trans heq), ?_, ?_, ?_⟩
    · exact hroot ▸ alone_erase hmarkedAlone _ _
    · exact hengine ▸ hpending
    · left
      rw [show ((SessionOp.complete context delivery).apply H doc.sessionId
        ⟨root, engine, false, health, scheduled⟩).1.root = _ from hroot]
      exact AList.lookup_erase _ _

/-- A silenced session stays so, unless a restart empties its quarantine. -/
theorem Silenced.step (hsilenced : Silenced H sessionId service) {op : ActivationOp}
    (hquiet : QuietRestart H sessionId service op) :
    ((activationMachine H sessionId).step service op).2 = [] ∧
      Silenced H sessionId ((activationMachine H sessionId).step service op).1 := by
  cases op with
  | tick context read delivery =>
      obtain ⟨hroot, hengine, hqueued, hclosed, hhealth⟩ :=
        reconcile_service hsilenced.isOpen hsilenced.schedulable
          (ActivationOp.env context read delivery) (H := H)
      rw [hsilenced.tick_eq] at hroot hengine hqueued
      refine ⟨congrArg (sessionNotices sessionId) hqueued, hclosed, hhealth, ?_, ?_, ?_⟩
      · exact hroot ▸ hsilenced.alone
      · exact hengine ▸ hsilenced.pending
      · change (service.reconcile H _).1.root.runtime.lookup _ = none ∨
          _ ∈ (service.reconcile H _).1.engine.failedSessions ∧
            ∃ doc : SessionDocument, _ ∧ (service.reconcile H _).1.root.Holds H doc
        rw [hroot, hengine]
        exact hsilenced.silenced
  | complete context delivery =>
      obtain ⟨hqueued, hnext⟩ := hsilenced.complete context delivery
      exact ⟨congrArg (sessionNotices sessionId) hqueued, hnext⟩
  | restart =>
      refine ⟨rfl, rfl, (fun heq => nomatch heq), hsilenced.alone, rfl, Or.inl ?_⟩
      rcases hsilenced.silenced with habsent | ⟨hfailed, hholds⟩
      · exact habsent
      · exact absurd hfailed (hquiet rfl hholds).2

/-- A tick that finds no rollout to read is one that reads nothing. -/
theorem reconcile_unread {model : SessionModel} (hmodels : Models H sessionId service model)
    (hunread : ∀ thresholds epoch anchor, model.file ≠ .running thresholds epoch anchor)
    (read : Except ReadFailure (List ObservedEvent)) :
    service.reconcile H (ActivationOp.env context read delivery) =
      service.reconcile H (SessionOp.env context [] delivery) := by
  have htick : service.engine.tick H (ActivationOp.env context read delivery) service.root =
      service.engine.tick H (SessionOp.env context [] delivery) service.root := by
    obtain ⟨file, memory⟩ := model
    cases file with
    | absent =>
        have hfiles := discoverRuntimeFiles_of_absent hmodels.alone hmodels.file
        rw [tick_of_absent hfiles hmodels.pending, tick_of_absent hfiles hmodels.pending]
    | running thresholds epoch anchor => exact absurd rfl (hunread thresholds epoch anchor)
    | closing =>
        obtain ⟨doc, rfl, hholds⟩ := hmodels.file
        have hmem : doc.path H ∈ service.root.runtime := by
          apply AList.lookup_isSome.mp
          have hlookup : service.root.runtime.lookup (doc.path H) =
            some (.ok (doc.closing H true)) := hholds
          rw [hlookup]
          rfl
        unfold WatcherEngine.tick
        rw [discoverRuntimeFiles_of_only hmem hmodels.alone]
        unfold tickFiles
        rw [tickFile_closing_unread hholds]
        rfl
  unfold NotificationDaemon.reconcile NotificationDaemon.tickEngine
  dsimp only
  rw [htick]

variable (context delivery) in
/-- A read that fails on a running session: the session is quarantined, or nothing happens. -/
theorem Models.failing {model : SessionModel} (hmodels : Models H sessionId service model)
    {thresholds : Thresholds} {epoch : Nat} {anchor : Int}
    (hrunning : model.file = .running thresholds epoch anchor) (failure : ReadFailure) :
    ((activationMachine H sessionId).step service (.tick context (.error failure) delivery)).2 = [] ∧
      if failure.quarantines then
        Silenced H sessionId
          ((activationMachine H sessionId).step service (.tick context (.error failure) delivery)).1
      else
        Models H sessionId
          ((activationMachine H sessionId).step service (.tick context (.error failure) delivery)).1
          model := by
  have hfile := hmodels.file
  rw [hrunning] at hfile
  obtain ⟨doc, rfl, hholds, _⟩ := hfile
  have hfiles := discoverRuntimeFiles_of_only hholds.mem hmodels.alone
  obtain ⟨hroot, hengine, hqueued, hclosed, hhealth⟩ :=
    reconcile_service hmodels.isOpen hmodels.schedulable
      (ActivationOp.env context (.error failure) delivery) (H := H)
  cases hquarantines : failure.quarantines with
  | true =>
      obtain ⟨engine', htickFile, hpending, hfailed⟩ :=
        tickFile_quarantines context delivery hholds hmodels.unfailed hquarantines
      rw [tick_of_only hfiles htickFile (hpending.trans hmodels.pending)] at hroot hengine hqueued
      refine ⟨congrArg (sessionNotices _) hqueued, hclosed, hhealth, ?_, ?_, Or.inr ⟨?_, doc, rfl, ?_⟩⟩
      · exact hroot ▸ hmodels.alone
      · exact hengine ▸ hpending.trans hmodels.pending
      · exact hengine ▸ hfailed
      · exact hroot ▸ hholds
  | false =>
      cases failure with
      | rolloutCorrupt reason => cases hquarantines
      | rolloutRotated => cases hquarantines
      | raised failure =>
          rw [tick_of_only hfiles (tickFile_raised hholds hmodels.unfailed failure)
            hmodels.pending] at hroot hengine hqueued
          refine ⟨congrArg (sessionNotices _) hqueued, hclosed, hhealth, ?_, ?_, ?_, ?_, ?_⟩
          · exact hroot ▸ hmodels.alone
          · exact hengine ▸ hmodels.pending
          · exact hengine ▸ hmodels.unfailed
          · exact hengine ▸ hmodels.memory
          · exact hroot ▸ hmodels.file

end Quarantine

section Runs

variable {H : Digest} {sessionId : String} {start offset : Int}

/-- The next clock of a run is not before any earlier one. -/
theorem ClocksAdvance.next {ops past : List ActivationOp} {op : ActivationOp}
    {context : TickContext} (hclocks : ClocksAdvance start offset ops)
    (hextends : past ++ [op] <+: ops) (hclock : op.clock = some context) :
    context.wallTime = context.now + offset ∧
      (∀ instant ∈ clockInstants start past, instant ≤ context.now) ∧
      clockInstants start (past ++ [op]) = clockInstants start past ++ [context.now] := by
  obtain ⟨rest, rfl⟩ := hextends
  have hinstants : clockInstants start (past ++ [op]) =
      clockInstants start past ++ [context.now] := by
    unfold clockInstants
    rw [List.filterMap_append, List.filterMap_cons_some hclock, List.filterMap_nil,
      List.map_append]
    rfl
  refine ⟨hclocks.wall context ?_, ?_, hinstants⟩
  · rw [List.filterMap_append, List.filterMap_append, List.filterMap_cons_some hclock]
    simp
  · have hall := hclocks.monotonic
    have hsplit : clockInstants start (past ++ [op] ++ rest) =
        clockInstants start past ++ [context.now] ++
          (rest.filterMap ActivationOp.clock).map TickContext.now := by
      rw [← hinstants]
      unfold clockInstants
      rw [List.filterMap_append, List.map_append]
      rfl
    rw [hsplit] at hall
    intro instant hinstant
    exact (List.pairwise_append.mp (List.pairwise_append.mp hall).1).2.2 instant hinstant _
      (List.mem_singleton_self _)

/-- Two services whose sessions are modelled alike. -/
def SameMemory (H : Digest) (sessionId : String) (offset : Int) (instants : List Int)
    (restarted steady : NotificationDaemon) : Prop :=
  ∃ left right, Models H sessionId restarted left ∧ Models H sessionId steady right ∧
    Restartable offset instants left right

/-- The service with its restarts, and the service without: both remember the session
    alike, or both queue nothing for it any more. -/
def SameActivation (H : Digest) (sessionId : String) (start offset : Int)
    (past : List ActivationOp) (restarted steady : NotificationDaemon) : Prop :=
  SameMemory H sessionId offset (clockInstants start past) restarted steady ∨
    Silenced H sessionId restarted ∧ Silenced H sessionId steady

/-- What two services do alike, and what they are then. -/
def Agree (H : Digest) (sessionId : String) (offset : Int) (instants : List Int)
    (op : ActivationOp) (restarted steady : NotificationDaemon) : Prop :=
  ((activationMachine H sessionId).step restarted op).2 =
      ((activationMachine H sessionId).step steady op).2 ∧
    (SameMemory H sessionId offset instants ((activationMachine H sessionId).step restarted op).1
        ((activationMachine H sessionId).step steady op).1 ∨
      Silenced H sessionId ((activationMachine H sessionId).step restarted op).1 ∧
        Silenced H sessionId ((activationMachine H sessionId).step steady op).1)

section Steps

variable {instants : List Int} {restarted steady : NotificationDaemon} {left right : SessionModel}
  {context : TickContext} {delivery : Delivery}

/-- An operation of a history that the models take alike. -/
theorem agree_of_step {op : ActivationOp} {sessionOp : SessionOp} {after : List Int}
    (hleft : Models H sessionId restarted left) (hright : Models H sessionId steady right)
    (hof : sessionOp.Of sessionId)
    (hrestarted : op.apply H sessionId restarted = sessionOp.apply H sessionId restarted)
    (hsteady : op.apply H sessionId steady = sessionOp.apply H sessionId steady)
    (hstep : (left.step sessionOp.step).2 = (right.step sessionOp.step).2 ∧
      Restartable offset after (left.step sessionOp.step).1 (right.step sessionOp.step).1) :
    Agree H sessionId offset after op restarted steady := by
  obtain ⟨hmodelsLeft, hnoticesLeft⟩ := models_step hleft hof
  obtain ⟨hmodelsRight, hnoticesRight⟩ := models_step hright hof
  unfold Agree
  dsimp only [activationMachine]
  rw [hrestarted, hsteady]
  exact ⟨hnoticesLeft.trans (hstep.1.trans hnoticesRight.symm),
    Or.inl ⟨_, _, hmodelsLeft, hmodelsRight, hstep.2⟩⟩

theorem Restartable.mono (hrel : Restartable offset instants left right) (more : List Int) :
    Restartable offset (instants ++ more) left right := by
  refine ⟨hrel.file, hrel.completed, fun thresholds epoch anchor hrunning => ?_⟩
  obtain ⟨hsame, hleft, hright, hanchor⟩ := hrel.running thresholds epoch anchor hrunning
  exact ⟨hsame, hleft, hright, List.mem_append_left _ hanchor⟩

/-- A tick whose read fails, on sessions that are modelled alike. -/
theorem SameMemory.failing (hsame : SameMemory H sessionId offset instants restarted steady)
    (hwall : context.wallTime = context.now + offset)
    (hlate : ∀ instant ∈ instants, instant ≤ context.now) (failure : ReadFailure) :
    Agree H sessionId offset (instants ++ [context.now]) (.tick context (.error failure) delivery)
      restarted steady := by
  obtain ⟨left, right, hleft, hright, hrel⟩ := hsame
  by_cases hrunning : ∃ thresholds epoch anchor, left.file = .running thresholds epoch anchor
  · obtain ⟨thresholds, epoch, anchor, hrunning⟩ := hrunning
    obtain ⟨hnoneLeft, hnextLeft⟩ := hleft.failing context delivery hrunning failure
    obtain ⟨hnoneRight, hnextRight⟩ :=
      hright.failing context delivery (hrel.file.symm.trans hrunning) failure
    refine ⟨hnoneLeft.trans hnoneRight.symm, ?_⟩
    cases hquarantines : failure.quarantines with
    | true =>
        rw [if_pos hquarantines] at hnextLeft hnextRight
        exact Or.inr ⟨hnextLeft, hnextRight⟩
    | false =>
        rw [hquarantines, if_neg Bool.false_ne_true] at hnextLeft hnextRight
        exact Or.inl ⟨left, right, hnextLeft, hnextRight, hrel.mono _⟩
  · have hunread : ∀ thresholds epoch anchor, left.file ≠ .running thresholds epoch anchor :=
      fun thresholds epoch anchor heq => hrunning ⟨thresholds, epoch, anchor, heq⟩
    exact @agree_of_step _ _ _ _ _ _ _ _ (.tick context [] delivery) _ hleft hright trivial
      (reconcile_unread hleft hunread _)
      (reconcile_unread hright (fun _ _ _ => hrel.file ▸ hunread _ _ _) _)
      (@Restartable.tick offset _ left right hrel ⟨[], context.now, context.wallTime⟩ hwall hlate)

/-- An operation other than a restart, on sessions that are modelled alike. -/
theorem SameMemory.kept (hsame : SameMemory H sessionId offset instants restarted steady)
    {op : ActivationOp} (hclock : op.clock = some context)
    (hwall : context.wallTime = context.now + offset)
    (hlate : ∀ instant ∈ instants, instant ≤ context.now) :
    Agree H sessionId offset (instants ++ [context.now]) op restarted steady := by
  cases op with
  | tick clock read delivery =>
      obtain rfl : clock = context := Option.some.inj hclock
      cases read with
      | error failure => exact hsame.failing hwall hlate failure
      | ok events =>
          obtain ⟨left, right, hleft, hright, hrel⟩ := hsame
          exact @agree_of_step _ _ _ _ _ _ _ _ (.tick clock events delivery) _ hleft hright trivial
            rfl rfl (@Restartable.tick offset _ left right hrel
              ⟨events, clock.now, clock.wallTime⟩ hwall hlate)
  | complete clock delivery =>
      obtain rfl : clock = context := Option.some.inj hclock
      obtain ⟨left, right, hleft, hright, hrel⟩ := hsame
      exact @agree_of_step _ _ _ _ _ _ _ _ (.complete clock delivery) _ hleft hright trivial rfl
        rfl (hrel.complete clock.now _)
  | restart => cases hclock

end Steps

theorem SameActivation.kept {past : List ActivationOp} {op : ActivationOp}
    {restarted steady : NotificationDaemon}
    (hsame : SameActivation H sessionId start offset past restarted steady)
    {ops : List ActivationOp} (hclocks : ClocksAdvance start offset ops)
    (hextends : past ++ [op] <+: ops) (hkept : op.isRestart = false) :
    ((activationMachine H sessionId).step restarted op).2 =
        ((activationMachine H sessionId).step steady op).2 ∧
      SameActivation H sessionId start offset (past ++ [op])
        ((activationMachine H sessionId).step restarted op).1
        ((activationMachine H sessionId).step steady op).1 := by
  rcases hsame with hsame | ⟨hrestarted, hsteady⟩
  · have hclocked : ∃ context, op.clock = some context := by
      cases op with
      | tick context read delivery => exact ⟨context, rfl⟩
      | complete context delivery => exact ⟨context, rfl⟩
      | restart => cases hkept
    obtain ⟨context, hclock⟩ := hclocked
    obtain ⟨hwall, hlate, hinstants⟩ := hclocks.next hextends hclock
    have hagree := hsame.kept hclock hwall hlate
    rw [← hinstants] at hagree
    exact hagree
  · have hquiet : ∀ service, QuietRestart H sessionId service op := by
      rintro service rfl
      cases hkept
    obtain ⟨hnoneRestarted, hnextRestarted⟩ := hrestarted.step (hquiet _)
    obtain ⟨hnoneSteady, hnextSteady⟩ := hsteady.step (hquiet _)
    exact ⟨hnoneRestarted.trans hnoneSteady.symm, Or.inr ⟨hnextRestarted, hnextSteady⟩⟩

theorem SameActivation.restarted {past : List ActivationOp} {restarted steady : NotificationDaemon}
    (hsame : SameActivation H sessionId start offset past restarted steady)
    (hquiet : QuietRestart H sessionId restarted .restart) :
    ((activationMachine H sessionId).step restarted .restart).2 = [] ∧
      SameActivation H sessionId start offset (past ++ [.restart])
        ((activationMachine H sessionId).step restarted .restart).1 steady := by
  rcases hsame with ⟨left, right, hleft, hright, hrel⟩ | ⟨hrestarted, hsteady⟩
  · have hinstants : clockInstants start (past ++ [.restart]) = clockInstants start past := by
      unfold clockInstants
      rw [List.filterMap_append]
      simp [ActivationOp.clock]
    refine ⟨rfl, Or.inl ⟨_, right,
      (@models_step H sessionId _ left hleft .restart trivial).1, hright, ?_⟩⟩
    rw [hinstants]
    refine hrel.restart ?_
    intro thresholds epoch anchor hrunning
    rw [← hleft.memory]
    have hfile := hleft.file
    rw [hrunning] at hfile
    obtain ⟨doc, hsession, hholds, _⟩ := hfile
    exact (hquiet rfl ⟨doc, hsession, hholds⟩).1
  · obtain ⟨hnone, hnext⟩ := hrestarted.step hquiet
    exact ⟨hnone, Or.inr ⟨hnext, hsteady⟩⟩

/-- **Restarts change no notification** when each one meets no open call and no quarantine
    of the running session: in all, the run queues what it queues without its restarts. -/
theorem restarts_silent {root : StateRoot} {log : DiagnosticLog} {request : StartRequest}
    {transcript : RelativeTranscript} {wallTime : Int} {ops : List ActivationOp}
    (hempty : root.runtime = ∅) (hclocks : ClocksAdvance start (wallTime - start) ops)
    (hquiet : (activationMachine H request.sessionId).Guarded (QuietRestart H request.sessionId)
      ((serviceMachine H request.sessionId).after (NotificationDaemon.create root log)
        [.start request transcript wallTime]) ops) :
    let opened := (serviceMachine H request.sessionId).after (NotificationDaemon.create root log)
      [.start request transcript wallTime]
    ((activationMachine H request.sessionId).outputs opened ops).flatten =
      ((activationMachine H request.sessionId).outputs opened
        (ops.filter fun op => !op.isRestart)).flatten := by
  dsimp only
  have hcreate := models_create H request.sessionId hempty log
  have hopened := (@models_step H request.sessionId _ _ hcreate
    (.start request transcript wallTime) rfl).1
  have hstart : SameActivation H request.sessionId start (wallTime - start) []
      ((serviceMachine H request.sessionId).after (NotificationDaemon.create root log)
        [.start request transcript wallTime])
      ((serviceMachine H request.sessionId).after (NotificationDaemon.create root log)
        [.start request transcript wallTime]) := by
    refine Or.inl ⟨_, _, hopened, hopened, rfl, rfl, ?_⟩
    intro thresholds epoch anchor hrunning
    obtain ⟨rfl, rfl, rfl⟩ := SessionFile.running.inj hrunning
    have hfresh : Rebuildable (wallTime - start)
        ((sessionMemory H request.sessionId (WatcherState.fresh log)).view 0 wallTime) :=
      fun _ heq => nomatch heq
    refine ⟨⟨rfl, rfl, rfl, rfl⟩, hfresh, hfresh, ?_⟩
    rw [sub_sub_cancel]
    exact List.mem_cons_self ..
  refine Machine.outputs_filter_of_simulation hstart ?_ ?_
  · intro past op hextends hkept hsame
    exact hsame.kept hclocks hextends (by simpa using hkept)
  · intro past op hextends hdropped hsame
    obtain rfl : op = .restart := by
      cases op with
      | restart => rfl
      | tick context read delivery => cases hdropped
      | complete context delivery => cases hdropped
    exact hsame.restarted (hquiet.at_prefix _ hextends)

end Runs

/-! ### A restart during a tool call, and after a read that failed -/

def sampleRead (instant : Int) (events : List ObservedEvent) : ActivationOp :=
  .tick ⟨instant, instant⟩ (.ok events) .delivered

def sampleOpened : NotificationDaemon :=
  (serviceMachine .transparent "s").after (NotificationDaemon.create .empty []) [sampleOpen 0]

/-- The run whose engine is replaced while it waits for a call is suspected; the run that
    keeps its engine is not. -/
theorem restart_loses_wait :
    let called := sampleRead 100 [{ kind := .toolStarted, occurredAt := 100, callId := some "c" }]
    ((activationMachine .transparent "s").outputs sampleOpened
        [called, .restart, sampleRead 2000 []]).flatten = [.mark ⟨.suspected, 1⟩] ∧
      ((activationMachine .transparent "s").outputs sampleOpened
        ([called, .restart, sampleRead 2000 []].filter fun op => !op.isRestart)).flatten = [] := by
  decide

-- A restart also ends a quarantine.
example :
    let failed := ActivationOp.tick ⟨100, 100⟩ (.error .rolloutRotated) .delivered
    ((activationMachine .transparent "s").outputs sampleOpened
        [failed, .restart, sampleRead 2000 []]).flatten = [.mark ⟨.suspected, 0⟩] ∧
      ((activationMachine .transparent "s").outputs sampleOpened
        ([failed, .restart, sampleRead 2000 []].filter fun op => !op.isRestart)).flatten = [] := by
  decide

theorem restarts_silent_sample :
    let ops := [sampleRead 100 [{ kind := .item, occurredAt := 100 }], .restart, sampleRead 2000 []]
    ((activationMachine .transparent "s").outputs sampleOpened ops).flatten =
      ((activationMachine .transparent "s").outputs sampleOpened
        (ops.filter fun op => !op.isRestart)).flatten := by
  refine @restarts_silent .transparent 0 .empty [] sampleRequest sampleTranscript 0 _ rfl
    ⟨?_, by decide⟩ ⟨(fun heq => nomatch heq), fun _ _ => ⟨by decide, by decide⟩,
      (fun heq => nomatch heq), trivial⟩
  decide

end CodexMustWork
