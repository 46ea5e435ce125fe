import CodexMustWork.WatcherEvents
import CodexMustWork.WatcherDiagnostics

/-!
# The silence of one target, abstractly

What the watcher is for, stated without documents, logs and dictionaries: one
target has a progress epoch, an anchor of its silence, the calls it waits for,
a remembered detector and the set of transitions recorded so far.  A tick reads
events and two clocks, and marks transitions: a silence that reaches the warning
time is *suspected*, one that reaches the critical time after that is *critical*,
and the first progress after a suspicion *recovers* its epoch.

Three parts of this state live in different places of the program.  The epoch
and the anchor are persisted, the record is the diagnostic log, and the detector
and the open calls are the memory of one engine; starting, restarting and
completing touch them separately.
-/

namespace CodexMustWork

inductive Transition where
  | suspected
  | critical
  | recovered
deriving DecidableEq, Repr

/-- A transition of one progress epoch. -/
structure Mark where
  kind : Transition
  epoch : Nat
deriving DecidableEq, Repr

/-- What later ticks can see of a detector. -/
structure DetectorView where
  latest : Int
  warned : Bool
  critical : Bool
  paused : Bool
  terminal : Bool
deriving DecidableEq, Repr

@[ext] structure TargetView where
  epoch : Nat
  anchor : Int
  detector : Option DetectorView
  openCalls : Finset String
  recorded : Mark → Bool

/-- What one tick reads. -/
structure TickInput where
  events : List ObservedEvent
  now : Int
  wallTime : Int

/-- The transition the clock calls for, if any. -/
def DetectorView.due (detector : DetectorView) (thresholds : Thresholds) (now : Int) :
    Option Transition :=
  if detector.paused then none
  else if now - detector.latest < thresholds.warning then none
  else if !detector.warned then some .suspected
  else if now - detector.latest < thresholds.critical then none
  else if !detector.critical then some .critical
  else none

/-- A transition, once due, is remembered. -/
def DetectorView.emit (detector : DetectorView) (due : Option Transition) : DetectorView :=
  { detector with
    warned := detector.warned || decide (due = some .suspected)
    critical := detector.critical || decide (due = some .critical) }

namespace TargetView

/-- The detector a tick starts from: the remembered one, or one rebuilt from the
    anchor. -/
def prior (view : TargetView) (now wallTime : Int) : DetectorView :=
  view.detector.getD ⟨now - max 0 (wallTime - view.anchor), false, false, false, false⟩

/-- The events a tick observes: those not older than the anchor. -/
def observed (view : TargetView) (events : List ObservedEvent) : List ObservedEvent :=
  events.filter fun event => decide (view.anchor ≤ event.occurredAt)

/-- The observed events that are progress. -/
def progress (view : TargetView) (events : List ObservedEvent) : List ObservedEvent :=
  (view.observed events).filter fun event => event.kind.isProgress

/-- Whether a tick counts the progress it observes. -/
def progresses (view : TargetView) (input : TickInput) : Bool :=
  !(view.prior input.now input.wallTime).terminal &&
    decide ((view.prior input.now input.wallTime).latest ≤ input.now) &&
    !(view.progress input.events).isEmpty

/-- Whether the current epoch is known to be suspected. -/
def warned (view : TargetView) (input : TickInput) : Bool :=
  (view.prior input.now input.wallTime).warned || view.recorded ⟨.suspected, view.epoch⟩

/-- The open calls a tick leaves. -/
def callsAfter (view : TargetView) (input : TickInput) : Finset String :=
  openCallsAfter view.openCalls (view.observed input.events)

/-- A target waits while it has open calls. -/
def waiting (view : TargetView) (input : TickInput) : Bool :=
  decide (0 < (view.callsAfter input).card)

/-- The detector once the events of a tick are counted.  The waits are rebuilt from the
    document, so a terminal detector of an earlier activation comes back to life here. -/
def counted (view : TargetView) (input : TickInput) : DetectorView :=
  if view.progresses input then ⟨input.now, false, false, view.waiting input, false⟩
  else
    { view.prior input.now input.wallTime with
      warned := view.warned input
      paused := view.waiting input
      terminal := false }

/-- Whether the detector of the last tick waits. -/
def paused (view : TargetView) : Bool := view.detector.any DetectorView.paused

/-- The transition the clock of a tick calls for. -/
def due (thresholds : Thresholds) (view : TargetView) (input : TickInput) : Option Transition :=
  (view.counted input).due thresholds input.now

/-- The marks a tick makes, recorded before or not. -/
def marks (thresholds : Thresholds) (view : TargetView) (input : TickInput) : List Mark :=
  (if view.progresses input && view.warned input then [⟨.recovered, view.epoch⟩] else []) ++
    (view.due thresholds input).toList.map fun kind => ⟨kind, view.epoch⟩

/-- The marks a tick queues: those the record does not hold yet. -/
def queued (thresholds : Thresholds) (view : TargetView) (input : TickInput) : List Mark :=
  (view.marks thresholds input).filter fun mark => !view.recorded mark

/-- The view a tick leaves. -/
def next (thresholds : Thresholds) (view : TargetView) (input : TickInput) : TargetView where
  epoch := if view.progresses input then view.epoch + 1 else view.epoch
  anchor := if view.progresses input then input.wallTime else view.anchor
  detector := some ((view.counted input).emit (view.due thresholds input))
  openCalls := view.callsAfter input
  recorded mark := view.recorded mark || decide (mark ∈ view.marks thresholds input)

end TargetView

/-! ### The transition that is due -/

namespace DetectorView

variable {detector : DetectorView} {thresholds : Thresholds} {now : Int}

theorem due_eq_suspected_iff :
    detector.due thresholds now = some .suspected ↔
      detector.paused = false ∧ thresholds.warning ≤ now - detector.latest ∧ detector.warned = false := by
  unfold due
  split_ifs <;> simp_all

theorem due_eq_critical_iff :
    detector.due thresholds now = some .critical ↔
      detector.paused = false ∧ thresholds.critical ≤ now - detector.latest ∧
        detector.warned = true ∧ detector.critical = false := by
  have hordered := thresholds.ordered
  unfold due
  split_ifs <;> simp_all
  intro hcritical
  omega

theorem due_ne_recovered : detector.due thresholds now ≠ some .recovered := by
  unfold due
  split_ifs <;> simp

/-- Nothing is due right after progress. -/
theorem due_of_progress (hlatest : detector.latest = now) :
    detector.due thresholds now = none := by
  have hpos := thresholds.warning_pos
  unfold due
  rw [hlatest, sub_self, if_pos hpos, ite_self]

end DetectorView

/-! ### What one tick does -/

namespace TargetView

variable {thresholds : Thresholds} {view : TargetView} {input : TickInput}

theorem due_of_progresses (hprogress : view.progresses input = true) :
    view.due thresholds input = none := by
  apply DetectorView.due_of_progress
  rw [counted, if_pos hprogress]

theorem not_progresses_of_due {kind : Transition} (hdue : view.due thresholds input = some kind) :
    view.progresses input = false := by
  by_contra hprogress
  rw [due_of_progresses (by simpa using hprogress)] at hdue
  cases hdue

/-- The epoch recovers exactly when its progress is counted after a suspicion. -/
theorem mem_marks_recovered {epoch : Nat} :
    ⟨.recovered, epoch⟩ ∈ view.marks thresholds input ↔
      epoch = view.epoch ∧ view.progresses input = true ∧ view.warned input = true := by
  have hdue : ∀ kind ∈ view.due thresholds input, kind ≠ .recovered := by
    rintro kind hkind rfl
    exact DetectorView.due_ne_recovered hkind
  unfold marks
  constructor
  · intro hmem
    rcases List.mem_append.mp hmem with hrecovered | htransition
    · split_ifs at hrecovered with hboth
      · rw [Bool.and_eq_true] at hboth
        exact ⟨by simpa using hrecovered, hboth.1, hboth.2⟩
      · exact absurd hrecovered List.not_mem_nil
    · obtain ⟨kind, hkind, heq⟩ := List.mem_map.mp htransition
      have hrecovered : kind = .recovered := congrArg Mark.kind heq
      exact absurd hrecovered (hdue kind (Option.mem_toList.mp hkind))
  · rintro ⟨rfl, hprogress, hwarned⟩
    rw [hprogress, hwarned]
    exact List.mem_append_left _ (List.mem_singleton_self _)

theorem mem_marks_of_ne_recovered {kind : Transition} (hkind : kind ≠ .recovered) {epoch : Nat} :
    ⟨kind, epoch⟩ ∈ view.marks thresholds input ↔
      epoch = view.epoch ∧ view.due thresholds input = some kind := by
  unfold marks
  constructor
  · intro hmem
    rcases List.mem_append.mp hmem with hrecovered | htransition
    · split_ifs at hrecovered
      · have heq : kind = .recovered := by
          have hpair := List.mem_singleton.mp hrecovered
          exact congrArg Mark.kind hpair
        exact absurd heq hkind
      · exact absurd hrecovered List.not_mem_nil
    · obtain ⟨other, hother, heq⟩ := List.mem_map.mp htransition
      have hsame : other = kind := congrArg Mark.kind heq
      have hepoch : view.epoch = epoch := congrArg Mark.epoch heq
      exact ⟨hepoch.symm, hsame ▸ Option.mem_toList.mp hother⟩
  · rintro ⟨rfl, hdue⟩
    apply List.mem_append_right
    exact List.mem_map.mpr ⟨kind, Option.mem_toList.mpr hdue, rfl⟩

/-- Every mark of a tick is of the epoch it started in. -/
theorem epoch_of_mem_marks {mark : Mark} (hmem : mark ∈ view.marks thresholds input) :
    mark.epoch = view.epoch := by
  obtain ⟨kind, epoch⟩ := mark
  by_cases hkind : kind = .recovered
  · subst hkind
    exact (mem_marks_recovered.mp hmem).1
  · exact ((mem_marks_of_ne_recovered hkind).mp hmem).1

/-- At most one transition of a tick is a mark. -/
theorem marks_length_le_one : (view.marks thresholds input).length ≤ 1 := by
  by_cases hprogress : view.progresses input = true
  · simp only [marks, due_of_progresses hprogress, Option.toList_none, List.map_nil,
      List.append_nil]
    split_ifs <;> simp
  · simp only [marks, hprogress, Bool.false_and, Bool.false_eq_true, if_false, List.nil_append,
      List.length_map]
    cases view.due thresholds input <;> simp

theorem mem_queued {mark : Mark} :
    mark ∈ view.queued thresholds input ↔
      mark ∈ view.marks thresholds input ∧ view.recorded mark = false := by
  rw [queued, List.mem_filter, Bool.not_eq_true']

theorem queued_length_le_one : (view.queued thresholds input).length ≤ 1 :=
  (List.length_filter_le _ _).trans marks_length_le_one

@[simp] theorem next_epoch :
    (view.next thresholds input).epoch =
      if view.progresses input then view.epoch + 1 else view.epoch := rfl

@[simp] theorem next_anchor :
    (view.next thresholds input).anchor =
      if view.progresses input then input.wallTime else view.anchor := rfl

@[simp] theorem next_openCalls :
    (view.next thresholds input).openCalls = view.callsAfter input := rfl

theorem next_detector :
    (view.next thresholds input).detector =
      some ((view.counted input).emit (view.due thresholds input)) := rfl

/-- A mark is recorded after a tick when it was before or is queued now. -/
theorem next_recorded {mark : Mark} :
    (view.next thresholds input).recorded mark = true ↔
      view.recorded mark = true ∨ mark ∈ view.queued thresholds input := by
  change (view.recorded mark || decide (mark ∈ view.marks thresholds input)) = true ↔ _
  rw [mem_queued, Bool.or_eq_true, decide_eq_true_eq]
  cases view.recorded mark <;> simp

theorem next_recorded_of_ne_recovered {kind : Transition} (hkind : kind ≠ .recovered) :
    (view.next thresholds input).recorded ⟨kind, view.epoch⟩ =
      (view.recorded ⟨kind, view.epoch⟩ || decide (view.due thresholds input = some kind)) := by
  have hmem : (⟨kind, view.epoch⟩ : Mark) ∈ view.marks thresholds input ↔
      view.due thresholds input = some kind := by
    rw [mem_marks_of_ne_recovered hkind]
    exact ⟨fun hboth => hboth.2, fun hdue => ⟨rfl, hdue⟩⟩
  change (view.recorded _ || decide (_ ∈ view.marks thresholds input)) = _
  rw [decide_eq_decide.mpr hmem]

/-- The detector a tick leaves has counted up to the tick or kept its latest progress. -/
theorem next_latest :
    ((view.counted input).emit (view.due thresholds input)).latest =
      if view.progresses input then input.now
      else (view.prior input.now input.wallTime).latest := by
  unfold DetectorView.emit counted
  split_ifs <;> rfl

theorem next_terminal :
    ((view.counted input).emit (view.due thresholds input)).terminal = false := by
  unfold DetectorView.emit counted
  split_ifs <;> rfl

theorem counted_paused : (view.counted input).paused = view.waiting input := by
  unfold counted
  split_ifs <;> rfl

@[simp] theorem next_paused : (view.next thresholds input).paused = view.waiting input := by
  change (Option.any DetectorView.paused
    (some ((view.counted input).emit (view.due thresholds input)))) = _
  rw [Option.any_some]
  exact counted_paused

end TargetView

end CodexMustWork
