import CodexMustWork.Library.Machine
import CodexMustWork.SessionTick

/-!
# Batches of one rollout

Where the reader cuts a rollout into batches depends on sizes and on timing.
The cut matters: counted progress moves the anchor of the silence to the wall
clock of its tick, and the filter of later ticks compares the events' own times
with that anchor.  An event that reaches the file only after a later tick has
counted progress is older than the anchor and is not counted.
-/

namespace CodexMustWork

/-- One batch, with the clocks of the tick that reads it. -/
structure Batch where
  context : TickContext
  events : List ObservedEvent

namespace Batch

def env (batch : Batch) : TickEnvironment := .delivering batch.context batch.events

def progress (batch : Batch) : List ObservedEvent :=
  batch.events.filter fun event => event.kind.isProgress

end Batch

/-- The events of a batch that `apply_target_events` lets count for a session. -/
def countedIn (H : Digest) (sessionId : String) (root : StateRoot) (events : List ObservedEvent) :
    List ObservedEvent :=
  match root.runtime.lookup (sessionFilename H sessionId) with
  | some (.ok values) =>
      match runtimeTargetFromValues H .ok (sessionFilename H sessionId) values with
      | .ok target =>
          target.targets.flatMap fun monitor => countedEvents monitor target.parentTurnId events
      | .error _ => []
  | _ => []

/-- An engine that reads batches in successive ticks, with what each counts. -/
def batchMachine (H : Digest) (sessionId : String) :
    Machine (StateRoot × WatcherEngine) Batch (List ObservedEvent) where
  step state batch :=
    let outcome := state.2.tick H batch.env state.1
    ((outcome.root, outcome.engine), countedIn H sessionId state.1 batch.events)

/-- What batching must not change. -/
structure BatchOutcome where
  counted : List ObservedEvent
  openCalls : Finset String
  paused : Bool
deriving DecidableEq

def batchOutcome (H : Digest) (sessionId : String) (state : StateRoot × WatcherEngine)
    (batches : List Batch) : BatchOutcome where
  counted := ((batchMachine H sessionId).outputs state batches).flatten
  openCalls := ((batchMachine H sessionId).after state batches).2.watcher.openCalls
    (sessionId, none, 1)
  paused := (((batchMachine H sessionId).after state batches).2.watcher.detectors
    (sessionId, none, 1)).any fun detector => detector.waits.paused

/-- The wall clock of the last tick whose batch had progress. -/
def lastProgressWall (batches : List Batch) : Option Int :=
  ((batches.filter fun batch => !batch.progress.isEmpty).getLast?).map fun batch =>
    batch.context.wallTime

/-- No progress of a batch is older than the last tick before it that read progress. -/
def ReadInTime (past : List Batch) (batch : Batch) : Prop :=
  ∀ wall ∈ lastProgressWall past, ∀ event ∈ batch.progress, wall ≤ event.occurredAt

theorem lastProgressWall_concat (past : List Batch) (batch : Batch) :
    lastProgressWall (past ++ [batch]) =
      if batch.progress.isEmpty then lastProgressWall past else some batch.context.wallTime := by
  unfold lastProgressWall
  rw [List.filter_append]
  cases hempty : batch.progress.isEmpty <;> simp [hempty]

/-! ### Open calls -/

theorem applyOpenCall_of_not_progress {event : ObservedEvent}
    (hnot : event.kind.isProgress = false) (openCalls : Finset String) :
    applyOpenCall openCalls event = openCalls := by
  unfold applyOpenCall
  cases hkind : event.kind <;> rw [hkind] at hnot <;> first | rfl | cases hnot

/-- A filter that keeps all progress keeps the open calls. -/
theorem openCallsAfter_filter {keep : ObservedEvent → Bool} {events : List ObservedEvent}
    (hkeep : ∀ event ∈ events, event.kind.isProgress = true → keep event = true)
    (openCalls : Finset String) :
    openCallsAfter openCalls (events.filter keep) = openCallsAfter openCalls events := by
  induction events generalizing openCalls with
  | nil => rfl
  | cons event rest ih =>
      have hrest := ih fun other hother => hkeep other (List.mem_cons_of_mem _ hother)
      cases hkept : keep event with
      | true => rw [List.filter_cons_of_pos hkept, openCallsAfter_cons, openCallsAfter_cons, hrest]
      | false =>
          have hnot : event.kind.isProgress = false := by
            by_contra hprogress
            have htrue := hkeep event (List.mem_cons_self ..) (by simpa using hprogress)
            rw [hkept] at htrue
            exact Bool.false_ne_true htrue
          rw [List.filter_cons_of_neg (by simpa using hkept), openCallsAfter_cons, hrest,
            applyOpenCall_of_not_progress hnot]

/-! ### Counting from one view -/

namespace TargetView

variable {view : TargetView}

/-- The remembered detector counts progress from `now` on. -/
def Live (view : TargetView) (now : Int) : Prop :=
  ∀ detector, view.detector = some detector → detector.terminal = false ∧ detector.latest ≤ now

theorem prior_of_live {now wallTime : Int} (hlive : view.Live now) :
    (view.prior now wallTime).terminal = false ∧ (view.prior now wallTime).latest ≤ now := by
  unfold prior
  cases hdetector : view.detector with
  | some detector => exact hlive detector hdetector
  | none =>
      refine ⟨rfl, ?_⟩
      change now - max 0 (wallTime - view.anchor) ≤ now
      omega

theorem progresses_of_live {input : TickInput} (hlive : view.Live input.now) :
    view.progresses input = !(view.progress input.events).isEmpty := by
  obtain ⟨hterminal, hlatest⟩ := @prior_of_live view input.now input.wallTime hlive
  unfold progresses
  rw [hterminal, decide_eq_true hlatest]
  rfl

theorem live_next {thresholds : Thresholds} {input : TickInput} (hlive : view.Live input.now)
    {now : Int} (hnow : input.now ≤ now) : (view.next thresholds input).Live now := by
  intro detector hdetector
  rw [next_detector, Option.some_inj] at hdetector
  subst hdetector
  refine ⟨next_terminal, ?_⟩
  rw [next_latest]
  split_ifs
  · exact hnow
  · exact (prior_of_live hlive).2.trans hnow

theorem progress_sublist (events : List ObservedEvent) :
    (view.progress events).Sublist (events.filter fun event => event.kind.isProgress) :=
  List.Sublist.filter _ List.filter_sublist

/-- All progress is counted exactly when none of it is older than the anchor. -/
theorem progress_eq_iff {events : List ObservedEvent} :
    view.progress events = (events.filter fun event => event.kind.isProgress) ↔
      ∀ event ∈ events.filter (fun event => event.kind.isProgress),
        view.anchor ≤ event.occurredAt := by
  unfold progress observed
  rw [List.filter_comm, List.filter_eq_self]
  simp

end TargetView

/-! ### Runs -/

section Run

variable {H : Digest} {request : StartRequest} {start : Int}

/-- What an engine that reads batches keeps: everything still counts, and the outputs and
    the memory are those of one batch as long as everything was read in time. -/
structure BatchInv (H : Digest) (start : Int) (doc : SessionDocument) (past : List Batch)
    (state : StateRoot × WatcherEngine) (counted : List (List ObservedEvent)) : Prop where
  holds : state.1.Holds H doc
  alone : Alone H state.1 doc.sessionId
  pending : state.2.watcher.recorder.pending = []
  unfailed : doc.sessionId ∉ state.2.failedSessions
  live : ∀ now, (∀ batch ∈ past, batch.context.now ≤ now) →
    (sessionView H doc state.2.watcher).Live now
  sublist : counted.flatten.Sublist (past.flatMap Batch.progress)
  counted : counted.flatten = past.flatMap Batch.progress ↔ Along ReadInTime past
  anchor : Along ReadInTime past →
    (sessionView H doc state.2.watcher).anchor = (lastProgressWall past).getD start
  openCalls : Along ReadInTime past →
    (sessionView H doc state.2.watcher).openCalls = openCallsAfter ∅ (past.flatMap Batch.events)
  paused : (sessionView H doc state.2.watcher).paused =
    decide (0 < (sessionView H doc state.2.watcher).openCalls.card)

theorem countedIn_of_holds {doc : SessionDocument} {root : StateRoot} {watcher : WatcherState}
    (hholds : root.Holds H doc) (events : List ObservedEvent) :
    countedIn H doc.sessionId root events = (sessionView H doc watcher).progress events := by
  have hlookup : root.runtime.lookup (sessionFilename H doc.sessionId) = some (.ok doc.values) :=
    hholds
  have htarget : runtimeTargetFromValues H .ok (sessionFilename H doc.sessionId) doc.values =
      .ok (doc.target H doc.transcript.path) := doc.runtimeTargetFromValues_values H .ok
  unfold countedIn
  rw [hlookup]
  dsimp only
  rw [htarget]
  dsimp only
  rw [doc.targets_target, List.flatMap_singleton]
  exact countedEvents_monitor H doc watcher events

/-- Two concatenations agree exactly when their parts do, if the parts are sublists. -/
theorem append_eq_append_iff_of_sublist {α : Type} {left left' right right' : List α}
    (hleft : left.Sublist left') (hright : right.Sublist right') :
    left ++ right = left' ++ right' ↔ left = left' ∧ right = right' := by
  constructor
  · intro heq
    have hlength := congrArg List.length heq
    rw [List.length_append, List.length_append] at hlength
    have hleftLength := hleft.length_le
    have hrightLength := hright.length_le
    exact ⟨hleft.eq_of_length (by omega), hright.eq_of_length (by omega)⟩
  · rintro ⟨rfl, rfl⟩
    rfl

/-- A tick on a batch, seen from the session. -/
def Batch.input (batch : Batch) : TickInput :=
  ⟨batch.events, batch.context.now, batch.context.wallTime⟩

/-- A batch is read in time when none of its progress is older than the anchor. -/
theorem progress_eq_iff_readInTime {view : TargetView} {past : List Batch} {batch : Batch}
    (hanchor : view.anchor = (lastProgressWall past).getD start)
    (hstart : ∀ event ∈ batch.events, start ≤ event.occurredAt) :
    view.progress batch.events = batch.progress ↔ ReadInTime past batch := by
  rw [Batch.progress, TargetView.progress_eq_iff, hanchor]
  unfold ReadInTime
  cases hwall : lastProgressWall past with
  | none =>
      constructor
      · rintro _ wall hmem
        cases hmem
      · intro _ event hmem
        exact hstart event (List.mem_of_mem_filter hmem)
  | some wall =>
      constructor
      · intro hall other hmem
        obtain rfl := Option.mem_some_iff.mp hmem
        exact hall
      · intro hall
        exact hall wall rfl

theorem BatchInv.step {doc : SessionDocument} {past : List Batch}
    {state : StateRoot × WatcherEngine} {counted : List (List ObservedEvent)} {batch : Batch}
    (hinv : BatchInv H start doc past state counted)
    (hclock : ∀ earlier ∈ past, earlier.context.now ≤ batch.context.now)
    (hstart : ∀ event ∈ batch.events, start ≤ event.occurredAt) :
    BatchInv H start (committedDocument H state.2 doc batch.input)
      (past ++ [batch]) ((batchMachine H doc.sessionId).step state batch).1
      (counted ++ [((batchMachine H doc.sessionId).step state batch).2]) := by
  obtain ⟨root, engine⟩ := state
  have hcounted : countedIn H doc.sessionId root batch.events =
      (sessionView H doc engine.watcher).progress batch.events := countedIn_of_holds hinv.holds _
  obtain ⟨hprocessed, halone, hpending⟩ := tick_delivers hinv.holds hinv.alone hinv.pending
    hinv.unfailed (delivering_delivers batch.context batch.events)
  have hview : sessionView H (committedDocument H engine doc batch.input)
      (engine.tick H batch.env root).engine.watcher =
        (sessionView H doc engine.watcher).next doc.thresholds batch.input := hprocessed.view
  have hlive : (sessionView H doc engine.watcher).Live batch.input.now := hinv.live _ hclock
  have hprogresses := TargetView.progresses_of_live hlive
  have hsublist := hinv.sublist
  have hbatch : ((sessionView H doc engine.watcher).progress batch.events).Sublist
      batch.progress := TargetView.progress_sublist batch.events
  have hintime : Along ReadInTime past →
      ((sessionView H doc engine.watcher).progress batch.events = batch.progress ↔
        ReadInTime past batch) :=
    fun hpast => progress_eq_iff_readInTime (hinv.anchor hpast) hstart
  have hsession := committedDocument_sessionId H engine doc batch.input
  change BatchInv H start (committedDocument H engine doc batch.input) (past ++ [batch])
    ((engine.tick H batch.env root).root, (engine.tick H batch.env root).engine)
    (counted ++ [countedIn H doc.sessionId root batch.events])
  rw [hcounted]
  refine ⟨hprocessed.holds, ?_, hpending, ?_, ?_, ?_, ?_, ?_, ?_, ?_⟩
  · rw [hsession]
    exact halone
  · rw [hsession]
    exact hprocessed.failed
  · intro now hnow
    dsimp only
    rw [hview]
    exact TargetView.live_next hlive (hnow batch (List.mem_append_right _ (List.mem_singleton_self _)))
  · rw [List.flatten_concat, List.flatMap_append, List.flatMap_singleton]
    exact hsublist.append hbatch
  · rw [List.flatten_concat, List.flatMap_append, List.flatMap_singleton, Along.concat_iff,
      append_eq_append_iff_of_sublist hsublist hbatch, hinv.counted]
    exact and_congr_right hintime
  · intro halong
    obtain ⟨hpast, hlast⟩ := Along.of_concat halong
    have hall := (hintime hpast).mpr hlast
    dsimp only
    rw [hview, TargetView.next_anchor, hprogresses, lastProgressWall_concat]
    change (if (!((sessionView H doc engine.watcher).progress batch.events).isEmpty) = true
      then _ else _) = _
    rw [hall]
    cases batch.progress.isEmpty with
    | true => exact hinv.anchor hpast
    | false => rfl
  · intro halong
    obtain ⟨hpast, hlast⟩ := Along.of_concat halong
    have hkeep := TargetView.progress_eq_iff.mp ((hintime hpast).mpr hlast)
    dsimp only
    rw [hview, TargetView.next_openCalls, List.flatMap_append, List.flatMap_singleton,
      openCallsAfter_append, ← hinv.openCalls hpast]
    apply openCallsAfter_filter
    intro event hmem hprogress
    exact decide_eq_true (hkeep event (List.mem_filter.mpr ⟨hmem, hprogress⟩))
  · dsimp only
    rw [hview, TargetView.next_paused]
    rfl

theorem BatchInv.started {faults : StartFaults} {root root' : StateRoot} {log : DiagnosticLog}
    (hstart : startNotificationSession H faults root request start = (root', .ok false))
    (halone : Alone H root' request.sessionId) :
    ∃ doc : SessionDocument, doc.sessionId = request.sessionId ∧
      BatchInv H start doc [] (root', WatcherEngine.fresh log) [] := by
  obtain ⟨transcript, _, _, rfl⟩ := startNotificationSession_fresh hstart
  refine ⟨SessionDocument.started request transcript start, rfl, ?_⟩
  refine ⟨root.setRuntime_lookup _ _, halone, rfl, Finset.notMem_empty _, ?_, List.Sublist.refl _,
    ?_, fun _ => rfl, fun _ => rfl, rfl⟩
  · intro now _ detector hdetector
    cases hdetector
  · exact ⟨fun _ => Along.nil, fun _ => rfl⟩

/-- **Runs of batches** keep the invariant. -/
theorem batchInv_run {doc : SessionDocument} {state : StateRoot × WatcherEngine}
    {batches : List Batch} (hinit : BatchInv H start doc [] state [])
    (hclock : batches.Pairwise fun earlier later => earlier.context.now ≤ later.context.now)
    (hstart : ∀ batch ∈ batches, ∀ event ∈ batch.events, start ≤ event.occurredAt) :
    ∃ last : SessionDocument, last.sessionId = doc.sessionId ∧
      BatchInv H start last batches ((batchMachine H doc.sessionId).after state batches)
        ((batchMachine H doc.sessionId).outputs state batches) := by
  refine (batchMachine H doc.sessionId).history_induction
    (fun past state counted => ∃ last : SessionDocument, last.sessionId = doc.sessionId ∧
      BatchInv H start last past state counted) ⟨doc, rfl, hinit⟩ ?_
  rintro past batch hextends ⟨last, hsession, hinv⟩
  have hpast := hclock.sublist hextends.sublist
  obtain ⟨_, _, hbefore⟩ := List.pairwise_append.mp hpast
  have hstep := hinv.step (fun earlier hmem => hbefore earlier hmem batch (List.mem_singleton_self _))
    (hstart batch (hextends.subset (List.mem_append_right _ (List.mem_singleton_self _))))
  rw [hsession] at hstep
  exact ⟨_, (committedDocument_sessionId H _ last batch.input).trans hsession, hstep⟩

/-- The outcome of a run in which everything is read in time. -/
theorem batchOutcome_of_inv {sessionId : String} {doc : SessionDocument}
    {state : StateRoot × WatcherEngine} {batches : List Batch} (hsession : doc.sessionId = sessionId)
    (hinv : BatchInv H start doc batches ((batchMachine H sessionId).after state batches)
      ((batchMachine H sessionId).outputs state batches))
    (hintime : Along ReadInTime batches) :
    batchOutcome H sessionId state batches =
      ⟨batches.flatMap Batch.progress, openCallsAfter ∅ (batches.flatMap Batch.events),
        decide (0 < (openCallsAfter ∅ (batches.flatMap Batch.events)).card)⟩ := by
  subst hsession
  have hcalls := hinv.openCalls hintime
  have hpaused := hinv.paused
  rw [hcalls] at hpaused
  have hdetector : (sessionView H doc
      ((batchMachine H doc.sessionId).after state batches).2.watcher).paused =
        (((batchMachine H doc.sessionId).after state batches).2.watcher.detectors
          (doc.sessionId, none, 1)).any fun detector => detector.waits.paused := by
    unfold TargetView.paused sessionView
    exact Option.any_map
  unfold batchOutcome
  rw [hinv.counted.mpr hintime, ← hdetector, hpaused]
  exact congrArg (fun calls => BatchOutcome.mk _ calls _) hcalls

/-- **When batching changes nothing.**  A freshly started session counts the same events,
    and is left with the same calls and the same wait, exactly when no progress is read
    after a later tick has counted progress. -/
theorem batchOutcome_eq_whole_iff {faults : StartFaults} {root root' : StateRoot}
    {log : DiagnosticLog} {batches : List Batch} {whole : TickContext}
    (hfresh : startNotificationSession H faults root request start = (root', .ok false))
    (halone : Alone H root' request.sessionId)
    (hclock : batches.Pairwise fun earlier later => earlier.context.now ≤ later.context.now)
    (hstart : ∀ batch ∈ batches, ∀ event ∈ batch.events, start ≤ event.occurredAt) :
    batchOutcome H request.sessionId (root', WatcherEngine.fresh log) batches =
        batchOutcome H request.sessionId (root', WatcherEngine.fresh log)
          [⟨whole, batches.flatMap Batch.events⟩] ↔
      Along ReadInTime batches := by
  obtain ⟨doc, hsession, hinit⟩ :=
    @BatchInv.started H request start faults root root' log hfresh halone
  rw [← hsession]
  obtain ⟨last, hlast, hinv⟩ := batchInv_run hinit hclock hstart
  obtain ⟨single, hsingle, hone⟩ := @batchInv_run H start doc _
    [⟨whole, batches.flatMap Batch.events⟩] hinit (List.pairwise_singleton _ _) (by
      intro batch hmem event hevent
      obtain rfl := List.mem_singleton.mp hmem
      obtain ⟨source, hsource, hin⟩ := List.mem_flatMap.mp hevent
      exact hstart source hsource event hin)
  have hwhole : Along ReadInTime [(⟨whole, batches.flatMap Batch.events⟩ : Batch)] := by
    refine Along.concat_iff.mpr ⟨Along.nil, ?_⟩
    intro wall hmem
    cases hmem
  have hprogress : [(⟨whole, batches.flatMap Batch.events⟩ : Batch)].flatMap Batch.progress =
      batches.flatMap Batch.progress := by
    rw [List.flatMap_singleton, Batch.progress, List.filter_flatMap]
    rfl
  rw [batchOutcome_of_inv hsingle hone hwhole, hprogress, List.flatMap_singleton]
  constructor
  · intro heq
    exact hinv.counted.mp (congrArg BatchOutcome.counted heq)
  · intro hintime
    rw [batchOutcome_of_inv hlast hinv hintime]

end Run

/-! ### A cut that loses an event

A tick counts progress at its wall clock.  A tool call that started before that clock, in
a line that reached the file after the read, is older than the new anchor: the next tick
does not count it and never learns that the call is open. -/

def earlyBatch : Batch := ⟨⟨1000, 1000⟩, [{ kind := .item, occurredAt := 100 }]⟩

def lateBatch : Batch :=
  ⟨⟨2000, 2000⟩, [{ kind := .toolStarted, occurredAt := 500, callId := some "c" }]⟩

theorem batchOutcome_late_line :
    (∀ batch ∈ [earlyBatch, lateBatch], ∀ event ∈ batch.events,
        0 ≤ event.occurredAt ∧ event.occurredAt ≤ batch.context.wallTime) ∧
      batchOutcome .transparent "s" (sampleRoot, WatcherEngine.fresh []) [earlyBatch, lateBatch] =
        ⟨earlyBatch.events, ∅, false⟩ ∧
      batchOutcome .transparent "s" (sampleRoot, WatcherEngine.fresh [])
          [⟨lateBatch.context, earlyBatch.events ++ lateBatch.events⟩] =
        ⟨earlyBatch.events ++ lateBatch.events, {"c"}, true⟩ := by
  decide

theorem batchOutcome_eq_whole_iff_sample :
    batchOutcome .transparent "s" (sampleRoot, WatcherEngine.fresh []) [earlyBatch, lateBatch] =
        batchOutcome .transparent "s" (sampleRoot, WatcherEngine.fresh [])
          [⟨lateBatch.context, [earlyBatch, lateBatch].flatMap Batch.events⟩] ↔
      Along ReadInTime [earlyBatch, lateBatch] :=
  @batchOutcome_eq_whole_iff .transparent sampleRequest 0 sampleStart .empty sampleRoot []
    [earlyBatch, lateBatch] lateBatch.context rfl sampleRoot_alone (by decide) (by decide)

end CodexMustWork
