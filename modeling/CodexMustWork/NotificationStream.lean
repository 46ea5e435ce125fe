import CodexMustWork.Library.Machine
import CodexMustWork.SessionTick

/-!
# The notification stream of one activation

The stream one activation queues, tick by tick: groups of a suspicion, perhaps a
critical stall, and a recovery, one group for each progress epoch at most, with
every transition at the tick its cause is observed.
-/

namespace CodexMustWork

/-! ### Well-formed streams -/

/-- One tick of an activation as an observer sees it. -/
structure StreamRecord where
  now : Int
  epochBefore : Nat
  epochAfter : Nat
  paused : Bool
  terminal : Bool
  queued : List Mark

/-- The clock of the last tick that counted progress, or of the start. -/
def lastProgressAt (start : Int) : List StreamRecord → Int
  | [] => start
  | record :: rest =>
      lastProgressAt (if record.epochBefore < record.epochAfter then record.now else start) rest

/-- The epoch a tick continues from. -/
def epochAfterAll (records : List StreamRecord) : Nat :=
  (records.getLast?.map StreamRecord.epochAfter).getD 0

def QueuedIn (records : List StreamRecord) (mark : Mark) : Prop :=
  ∃ record ∈ records, mark ∈ record.queued

/-- What a silence of a given length needs to be reported in a tick. -/
structure SilentFor (start : Int) (past : List StreamRecord) (record : StreamRecord) (epoch : Nat)
    (duration : Int) : Prop where
  before : record.epochBefore = epoch
  after : record.epochAfter = epoch
  running : record.paused = false ∧ record.terminal = false
  silent : duration ≤ record.now - lastProgressAt start past

/-- One tick is right after the ticks before it. -/
structure RecordOk (thresholds : Thresholds) (start : Int) (past : List StreamRecord)
    (record : StreamRecord) : Prop where
  continues : record.epochBefore = epochAfterAll past
  advances : record.epochAfter = record.epochBefore ∨ record.epochAfter = record.epochBefore + 1
  recovered : ∀ epoch, ⟨.recovered, epoch⟩ ∈ record.queued ↔
    record.epochBefore = epoch ∧ record.epochAfter = epoch + 1 ∧ QueuedIn past ⟨.suspected, epoch⟩
  suspected : ∀ epoch, ⟨.suspected, epoch⟩ ∈ record.queued →
    SilentFor start past record epoch thresholds.warning
  critical : ∀ epoch, ⟨.critical, epoch⟩ ∈ record.queued →
    SilentFor start past record epoch thresholds.critical ∧ QueuedIn past ⟨.suspected, epoch⟩

/-- The transitions of one progress epoch that recovered. -/
structure EpochGroup where
  epoch : Nat
  critical : Bool

def EpochGroup.marks (group : EpochGroup) : List Mark :=
  ⟨.suspected, group.epoch⟩ ::
    ((if group.critical then [⟨.critical, group.epoch⟩] else []) ++ [⟨.recovered, group.epoch⟩])

/-- The marks of a stream, in the order they were queued. -/
def streamMarks (records : List StreamRecord) : List Mark :=
  records.flatMap StreamRecord.queued

structure WellFormedStream (thresholds : Thresholds) (start : Int) (records : List StreamRecord) :
    Prop where
  ticks : Along (RecordOk thresholds start) records
  groups : ∃ groups : List EpochGroup, groups.Pairwise (fun left right => left.epoch < right.epoch) ∧
    streamMarks records <+: groups.flatMap EpochGroup.marks
  once : (streamMarks records).Nodup

theorem lastProgressAt_concat (start : Int) (records : List StreamRecord) (record : StreamRecord) :
    lastProgressAt start (records ++ [record]) =
      if record.epochBefore < record.epochAfter then record.now
      else lastProgressAt start records := by
  induction records generalizing start with
  | nil => rfl
  | cons first rest ih => exact ih _

@[simp] theorem epochAfterAll_concat (records : List StreamRecord) (record : StreamRecord) :
    epochAfterAll (records ++ [record]) = record.epochAfter := by
  simp [epochAfterAll]

theorem queuedIn_concat {records : List StreamRecord} {record : StreamRecord} {mark : Mark} :
    QueuedIn (records ++ [record]) mark ↔ QueuedIn records mark ∨ mark ∈ record.queued := by
  constructor
  · rintro ⟨other, hmem, hmark⟩
    rcases List.mem_append.mp hmem with hmem | hmem
    · exact Or.inl ⟨other, hmem, hmark⟩
    · obtain rfl := List.mem_singleton.mp hmem
      exact Or.inr hmark
  · rintro (⟨other, hmem, hmark⟩ | hmark)
    · exact ⟨other, List.mem_append_left _ hmem, hmark⟩
    · exact ⟨record, List.mem_append_right _ (List.mem_singleton_self _), hmark⟩

theorem streamMarks_concat (records : List StreamRecord) (record : StreamRecord) :
    streamMarks (records ++ [record]) = streamMarks records ++ record.queued := by
  simp [streamMarks]

theorem mem_groupMarks {group : EpochGroup} {mark : Mark} (hmem : mark ∈ group.marks) :
    mark.epoch = group.epoch := by
  unfold EpochGroup.marks at hmem
  rcases List.mem_cons.mp hmem with rfl | hmem
  · rfl
  · rcases List.mem_append.mp hmem with hmem | hmem
    · split_ifs at hmem
      · obtain rfl := List.mem_singleton.mp hmem
        rfl
      · exact absurd hmem List.not_mem_nil
    · obtain rfl := List.mem_singleton.mp hmem
      rfl

theorem nodup_groupMarks (group : EpochGroup) : group.marks.Nodup := by
  unfold EpochGroup.marks
  cases group.critical <;> simp

/-- Groups of increasing epochs never repeat a mark. -/
theorem nodup_groups {groups : List EpochGroup}
    (hgroups : groups.Pairwise fun left right => left.epoch < right.epoch) :
    (groups.flatMap EpochGroup.marks).Nodup := by
  induction groups with
  | nil => exact List.nodup_nil
  | cons group rest ih =>
      obtain ⟨hfirst, hrest⟩ := List.pairwise_cons.mp hgroups
      rw [List.flatMap_cons]
      refine List.nodup_append.mpr ⟨nodup_groupMarks group, ih hrest, ?_⟩
      rintro mark hmark other hother rfl
      obtain ⟨later, hlater, hin⟩ := List.mem_flatMap.mp hother
      have hlt := hfirst later hlater
      rw [← mem_groupMarks hmark, ← mem_groupMarks hin] at hlt
      exact lt_irrefl _ hlt

/-! ### The invariant of an activation -/

/-- The transitions of the current epoch that are already queued. -/
def openMarks (view : TargetView) : List Mark :=
  (if view.recorded ⟨.suspected, view.epoch⟩ then [⟨.suspected, view.epoch⟩] else []) ++
    (if view.recorded ⟨.critical, view.epoch⟩ then [⟨.critical, view.epoch⟩] else [])

/-- What links the three memories of a target, the detector, the persisted epoch and the
    record, to the stream queued so far. -/
structure StreamInv (thresholds : Thresholds) (start offset : Int) (past : List StreamRecord)
    (view : TargetView) : Prop where
  ticks : Along (RecordOk thresholds start) past
  epoch : view.epoch = epochAfterAll past
  anchor : view.detector = none → view.anchor = start + offset ∧ lastProgressAt start past = start
  recorded : ∀ mark, view.recorded mark = true ↔ QueuedIn past mark
  detector : ∀ detector, view.detector = some detector →
    detector.terminal = false ∧ detector.latest = lastProgressAt start past ∧
      detector.warned = view.recorded ⟨.suspected, view.epoch⟩ ∧
      detector.critical = view.recorded ⟨.critical, view.epoch⟩
  fresh : view.detector = none → ∀ mark, view.recorded mark = false
  criticalAfter : view.recorded ⟨.critical, view.epoch⟩ = true →
    view.recorded ⟨.suspected, view.epoch⟩ = true
  bounded : ∀ mark, view.recorded mark = true →
    mark.epoch < view.epoch ∨ (mark.epoch = view.epoch ∧ mark.kind ≠ .recovered)
  groups : ∃ groups : List EpochGroup, groups.Pairwise (fun left right => left.epoch < right.epoch) ∧
    (∀ group ∈ groups, group.epoch < view.epoch) ∧
    streamMarks past = groups.flatMap EpochGroup.marks ++ openMarks view

/-- The invariant makes the stream well formed. -/
theorem StreamInv.wellFormed {thresholds : Thresholds} {start offset : Int}
    {past : List StreamRecord} {view : TargetView}
    (hinv : StreamInv thresholds start offset past view) :
    WellFormedStream thresholds start past := by
  obtain ⟨groups, hpairwise, hbound, hstream⟩ := hinv.groups
  have hgroups : ∃ groups : List EpochGroup,
      groups.Pairwise (fun left right => left.epoch < right.epoch) ∧
        streamMarks past <+: groups.flatMap EpochGroup.marks := by
    cases hsuspected : view.recorded ⟨.suspected, view.epoch⟩ with
    | false =>
        have hcritical : view.recorded ⟨.critical, view.epoch⟩ = false := by
          by_contra hcon
          have hafter := hinv.criticalAfter (by simpa using hcon)
          rw [hsuspected] at hafter
          exact Bool.false_ne_true hafter
        refine ⟨groups, hpairwise, ?_⟩
        simp [hstream, openMarks, hsuspected, hcritical]
    | true =>
        refine ⟨groups ++ [⟨view.epoch, view.recorded ⟨.critical, view.epoch⟩⟩], ?_, ?_⟩
        · refine List.pairwise_append.mpr ⟨hpairwise, List.pairwise_singleton _ _, ?_⟩
          rintro group hgroup last hlast
          obtain rfl := List.mem_singleton.mp hlast
          exact hbound group hgroup
        · rw [hstream, List.flatMap_append]
          refine (List.prefix_append_right_inj _).mpr ⟨[⟨.recovered, view.epoch⟩], ?_⟩
          simp [openMarks, hsuspected, EpochGroup.marks]
  refine ⟨hinv.ticks, hgroups, ?_⟩
  obtain ⟨all, hincreasing, hextends⟩ := hgroups
  exact (nodup_groups hincreasing).sublist hextends.sublist

/-! ### What a tick keeps -/

section Step

variable {thresholds : Thresholds} {start offset : Int} {past : List StreamRecord}
  {view : TargetView}

/-- A tick that changes and queues nothing. -/
theorem StreamInv.quiet (hinv : StreamInv thresholds start offset past view)
    {record : StreamRecord} (hbefore : record.epochBefore = view.epoch)
    (hafter : record.epochAfter = view.epoch) (hqueued : record.queued = []) :
    StreamInv thresholds start offset (past ++ [record]) view := by
  have hnot : ¬ record.epochBefore < record.epochAfter := by omega
  have hlast : lastProgressAt start (past ++ [record]) = lastProgressAt start past := by
    rw [lastProgressAt_concat, if_neg hnot]
  have hmarks : streamMarks (past ++ [record]) = streamMarks past := by
    rw [streamMarks_concat, hqueued, List.append_nil]
  have hsame : ∀ mark, QueuedIn (past ++ [record]) mark ↔ QueuedIn past mark := by
    intro mark
    rw [queuedIn_concat, hqueued]
    simp
  have hok : RecordOk thresholds start past record := by
    refine ⟨?_, ?_, ?_, ?_, ?_⟩
    · rw [hbefore, hinv.epoch]
    · left
      rw [hafter, hbefore]
    · intro epoch
      rw [hqueued]
      constructor
      · intro hmem
        exact absurd hmem List.not_mem_nil
      · rintro ⟨rfl, hadvanced, _⟩
        omega
    · intro epoch hmem
      rw [hqueued] at hmem
      exact absurd hmem List.not_mem_nil
    · intro epoch hmem
      rw [hqueued] at hmem
      exact absurd hmem List.not_mem_nil
  refine ⟨hinv.ticks.concat hok, ?_, ?_, ?_, ?_, hinv.fresh, hinv.criticalAfter, hinv.bounded, ?_⟩
  · rw [epochAfterAll_concat, hafter]
  · rw [hlast]
    exact hinv.anchor
  · intro mark
    rw [hsame]
    exact hinv.recorded mark
  · rw [hlast]
    exact hinv.detector
  · rw [hmarks]
    exact hinv.groups

/-- The detector a tick starts from agrees with the stream, whether it was remembered or
    is rebuilt from the anchor. -/
theorem StreamInv.prior (hinv : StreamInv thresholds start offset past view) {input : TickInput}
    (hstep : input.wallTime = input.now + offset) (hstart : start ≤ input.now) :
    (view.prior input.now input.wallTime).terminal = false ∧
      (view.prior input.now input.wallTime).latest = lastProgressAt start past ∧
      (view.prior input.now input.wallTime).warned = view.recorded ⟨.suspected, view.epoch⟩ ∧
      (view.prior input.now input.wallTime).critical =
        view.recorded ⟨.critical, view.epoch⟩ := by
  unfold TargetView.prior
  cases hdetector : view.detector with
  | some detector => exact hinv.detector detector hdetector
  | none =>
      obtain ⟨hanchor, hlast⟩ := hinv.anchor hdetector
      have hfresh := hinv.fresh hdetector
      refine ⟨rfl, ?_, (hfresh _).symm, (hfresh _).symm⟩
      have hsilence : max 0 (input.wallTime - view.anchor) = input.now - start := by
        rw [hanchor, hstep]
        omega
      simp only [Option.getD_none, hsilence, hlast]
      omega

theorem StreamInv.warned (hinv : StreamInv thresholds start offset past view) {input : TickInput}
    (hstep : input.wallTime = input.now + offset) (hstart : start ≤ input.now) :
    view.warned input = view.recorded ⟨.suspected, view.epoch⟩ := by
  rw [TargetView.warned, (hinv.prior hstep hstart).2.2.1, Bool.or_self]

/-- The record of a tick of the view. -/
def tickRecord (thresholds : Thresholds) (view : TargetView) (input : TickInput) : StreamRecord where
  now := input.now
  epochBefore := view.epoch
  epochAfter := (view.next thresholds input).epoch
  paused := (view.next thresholds input).paused
  terminal := false
  queued := view.queued thresholds input

/-- A transition the clock calls for in a tick that follows the invariant. -/
theorem StreamInv.silentFor (hinv : StreamInv thresholds start offset past view)
    {input : TickInput} (hstep : input.wallTime = input.now + offset)
    (hstart : start ≤ input.now) {kind : Transition} {duration : Int}
    (hdue : view.due thresholds input = some kind)
    (hrunning : (view.counted input).paused = false)
    (hsilent : duration ≤ input.now - (view.counted input).latest) :
    SilentFor start past (tickRecord thresholds view input) view.epoch duration := by
  have hnot := TargetView.not_progresses_of_due hdue
  have hlatest : (view.counted input).latest = lastProgressAt start past := by
    rw [TargetView.counted, hnot]
    exact (hinv.prior hstep hstart).2.1
  refine ⟨rfl, ?_, ⟨?_, rfl⟩, ?_⟩
  · change (view.next thresholds input).epoch = view.epoch
    rw [TargetView.next_epoch, hnot]
    rfl
  · change (view.next thresholds input).paused = false
    rw [TargetView.next_paused, ← TargetView.counted_paused, hrunning]
  · rw [← hlatest]
    exact hsilent

theorem StreamInv.recordOk (hinv : StreamInv thresholds start offset past view)
    {input : TickInput} (hstep : input.wallTime = input.now + offset)
    (hstart : start ≤ input.now) :
    RecordOk thresholds start past (tickRecord thresholds view input) := by
  have hwarned := hinv.warned hstep hstart
  refine ⟨hinv.epoch, ?_, ?_, ?_, ?_⟩
  · change (view.next thresholds input).epoch = view.epoch ∨ _
    rw [TargetView.next_epoch]
    split_ifs with hprogress
    · right
      change (view.next thresholds input).epoch = view.epoch + 1
      rw [TargetView.next_epoch, if_pos hprogress]
    · exact Or.inl rfl
  · intro epoch
    change _ ∈ view.queued thresholds input ↔
      view.epoch = epoch ∧ (view.next thresholds input).epoch = epoch + 1 ∧ _
    rw [TargetView.mem_queued, TargetView.mem_marks_recovered, TargetView.next_epoch,
      ← hinv.recorded]
    constructor
    · rintro ⟨⟨rfl, hprogress, hsuspected⟩, _⟩
      rw [hwarned] at hsuspected
      exact ⟨rfl, if_pos hprogress, hsuspected⟩
    · rintro ⟨rfl, hadvanced, hsuspected⟩
      have hprogress : view.progresses input = true := by
        by_contra hnot
        rw [if_neg hnot] at hadvanced
        omega
      refine ⟨⟨rfl, hprogress, hwarned.trans hsuspected⟩, ?_⟩
      by_contra hrecorded
      rcases hinv.bounded ⟨.recovered, view.epoch⟩ (by simpa using hrecorded) with hlt | ⟨_, hne⟩
      · exact lt_irrefl _ hlt
      · exact hne rfl
  · intro epoch hmem
    obtain ⟨hmarks, _⟩ := TargetView.mem_queued.mp hmem
    obtain ⟨rfl, hdue⟩ := (TargetView.mem_marks_of_ne_recovered (by decide)).mp hmarks
    obtain ⟨hrunning, hsilent, _⟩ := DetectorView.due_eq_suspected_iff.mp hdue
    exact hinv.silentFor hstep hstart hdue hrunning hsilent
  · intro epoch hmem
    obtain ⟨hmarks, _⟩ := TargetView.mem_queued.mp hmem
    obtain ⟨rfl, hdue⟩ := (TargetView.mem_marks_of_ne_recovered (by decide)).mp hmarks
    obtain ⟨hrunning, hsilent, hsuspected, _⟩ := DetectorView.due_eq_critical_iff.mp hdue
    have hcounted : (view.counted input).warned = view.recorded ⟨.suspected, view.epoch⟩ := by
      rw [TargetView.counted, TargetView.not_progresses_of_due hdue]
      exact hwarned
    refine ⟨hinv.silentFor hstep hstart hdue hrunning hsilent, ?_⟩
    rw [← hinv.recorded, ← hcounted]
    exact hsuspected

/-- Progress closes the group of its epoch. -/
theorem StreamInv.progress (hinv : StreamInv thresholds start offset past view)
    {input : TickInput} (hstep : input.wallTime = input.now + offset)
    (hstart : start ≤ input.now) (hprogress : view.progresses input = true) :
    StreamInv thresholds start offset (past ++ [tickRecord thresholds view input])
      (view.next thresholds input) := by
  have hwarned := hinv.warned hstep hstart
  have hepoch : (view.next thresholds input).epoch = view.epoch + 1 := by
    rw [TargetView.next_epoch, if_pos hprogress]
  have hlast : lastProgressAt start (past ++ [tickRecord thresholds view input]) = input.now := by
    have hlt : (tickRecord thresholds view input).epochBefore <
        (tickRecord thresholds view input).epochAfter := by
      change view.epoch < (view.next thresholds input).epoch
      omega
    rw [lastProgressAt_concat, if_pos hlt]
    rfl
  have hnew : ∀ kind, (view.next thresholds input).recorded ⟨kind, view.epoch + 1⟩ = false := by
    intro kind
    by_contra hrecorded
    rcases TargetView.next_recorded.mp (by simpa using hrecorded) with hold | hqueued
    · rcases hinv.bounded _ hold with hlt | ⟨heq, _⟩
      · exact absurd hlt (by simp)
      · exact absurd heq (by simp)
    · have hmark := TargetView.epoch_of_mem_marks (TargetView.mem_queued.mp hqueued).1
      exact absurd hmark (by simp)
  have hnotRecorded : view.recorded ⟨.recovered, view.epoch⟩ = false := by
    by_contra hrecorded
    rcases hinv.bounded ⟨.recovered, view.epoch⟩ (by simpa using hrecorded) with hlt | ⟨_, hne⟩
    · exact lt_irrefl _ hlt
    · exact hne rfl
  have hqueue : view.queued thresholds input =
      if view.recorded ⟨.suspected, view.epoch⟩ then [⟨.recovered, view.epoch⟩] else [] := by
    unfold TargetView.queued TargetView.marks
    rw [TargetView.due_of_progresses hprogress, hprogress, hwarned]
    cases view.recorded ⟨.suspected, view.epoch⟩ <;> simp [hnotRecorded]
  obtain ⟨groups, hpairwise, hbound, hstream⟩ := hinv.groups
  refine ⟨hinv.ticks.concat (hinv.recordOk hstep hstart), ?_, ?_, ?_, ?_, ?_, ?_, ?_, ?_⟩
  · rw [epochAfterAll_concat]
    rfl
  · intro hnone
    rw [TargetView.next_detector] at hnone
    cases hnone
  · intro mark
    rw [TargetView.next_recorded, queuedIn_concat, hinv.recorded]
    rfl
  · intro detector hdetector
    rw [TargetView.next_detector, Option.some_inj] at hdetector
    subst hdetector
    rw [hepoch, hnew, hnew, hlast]
    refine ⟨TargetView.next_terminal, ?_, ?_, ?_⟩
    · rw [TargetView.next_latest, if_pos hprogress]
    · rw [TargetView.due_of_progresses hprogress, TargetView.counted, if_pos hprogress]
      rfl
    · rw [TargetView.due_of_progresses hprogress, TargetView.counted, if_pos hprogress]
      rfl
  · intro hnone
    rw [TargetView.next_detector] at hnone
    cases hnone
  · intro hcritical
    rw [hepoch, hnew] at hcritical
    exact absurd hcritical Bool.false_ne_true
  · intro mark hrecorded
    left
    rw [hepoch]
    rcases TargetView.next_recorded.mp hrecorded with hold | hqueued
    · rcases hinv.bounded mark hold with hlt | ⟨heq, _⟩
      · omega
      · omega
    · rw [TargetView.epoch_of_mem_marks (TargetView.mem_queued.mp hqueued).1]
      omega
  · have hopen : openMarks (view.next thresholds input) = [] := by
      unfold openMarks
      rw [hepoch, hnew, hnew]
      rfl
    have hrecord : (tickRecord thresholds view input).queued = view.queued thresholds input := rfl
    rw [streamMarks_concat, hstream, hopen, hepoch, hrecord, hqueue]
    simp only [List.append_nil]
    cases hsuspected : view.recorded ⟨.suspected, view.epoch⟩ with
    | false =>
        have hcritical : view.recorded ⟨.critical, view.epoch⟩ = false := by
          by_contra hcon
          have hafter := hinv.criticalAfter (by simpa using hcon)
          rw [hsuspected] at hafter
          exact Bool.false_ne_true hafter
        refine ⟨groups, hpairwise, fun group hgroup => ?_, ?_⟩
        · have hlt := hbound group hgroup
          omega
        · simp [openMarks, hsuspected, hcritical]
    | true =>
        refine ⟨groups ++ [⟨view.epoch, view.recorded ⟨.critical, view.epoch⟩⟩], ?_, ?_, ?_⟩
        · refine List.pairwise_append.mpr ⟨hpairwise, List.pairwise_singleton _ _, ?_⟩
          rintro group hgroup last hlast
          obtain rfl := List.mem_singleton.mp hlast
          exact hbound group hgroup
        · intro group hgroup
          rcases List.mem_append.mp hgroup with hgroup | hgroup
          · have hlt := hbound group hgroup
            omega
          · obtain rfl := List.mem_singleton.mp hgroup
            exact Nat.lt_succ_self _
        · simp [openMarks, hsuspected, EpochGroup.marks]

/-- Without progress a tick queues what is due, if anything. -/
theorem StreamInv.queued_of_silent (hinv : StreamInv thresholds start offset past view)
    {input : TickInput} (hstep : input.wallTime = input.now + offset)
    (hstart : start ≤ input.now) (hnot : view.progresses input = false) :
    view.queued thresholds input =
      (view.due thresholds input).toList.map fun kind => ⟨kind, view.epoch⟩ := by
  have hcounted : (view.counted input).warned = view.recorded ⟨.suspected, view.epoch⟩ ∧
      (view.counted input).critical = view.recorded ⟨.critical, view.epoch⟩ := by
    rw [TargetView.counted, hnot]
    exact ⟨hinv.warned hstep hstart, (hinv.prior hstep hstart).2.2.2⟩
  unfold TargetView.queued TargetView.marks
  rw [hnot]
  cases hdue : view.due thresholds input with
  | none => rfl
  | some kind =>
      have hfresh : view.recorded ⟨kind, view.epoch⟩ = false := by
        cases kind with
        | suspected =>
            rw [← hcounted.1]
            exact (DetectorView.due_eq_suspected_iff.mp hdue).2.2
        | critical =>
            rw [← hcounted.2]
            exact (DetectorView.due_eq_critical_iff.mp hdue).2.2.2
        | recovered => exact absurd hdue DetectorView.due_ne_recovered
      simp [hfresh]

/-- Without progress the group of the epoch stays open. -/
theorem StreamInv.silent (hinv : StreamInv thresholds start offset past view)
    {input : TickInput} (hstep : input.wallTime = input.now + offset)
    (hstart : start ≤ input.now) (hnot : view.progresses input = false) :
    StreamInv thresholds start offset (past ++ [tickRecord thresholds view input])
      (view.next thresholds input) := by
  have hepoch : (view.next thresholds input).epoch = view.epoch := by
    rw [TargetView.next_epoch, hnot]
    rfl
  have hlast : lastProgressAt start (past ++ [tickRecord thresholds view input]) =
      lastProgressAt start past := by
    have hsame : ¬ (tickRecord thresholds view input).epochBefore <
        (tickRecord thresholds view input).epochAfter := by
      change ¬ view.epoch < (view.next thresholds input).epoch
      omega
    rw [lastProgressAt_concat, if_neg hsame]
  have hqueue := hinv.queued_of_silent hstep hstart hnot
  obtain ⟨hterminal, hlatest, hsuspected, hcritical⟩ := hinv.prior hstep hstart
  have hwarned := hinv.warned hstep hstart
  have hnext : ∀ {kind}, kind ≠ .recovered →
      (view.next thresholds input).recorded ⟨kind, view.epoch⟩ =
        (view.recorded ⟨kind, view.epoch⟩ || decide (view.due thresholds input = some kind)) :=
    fun hkind => TargetView.next_recorded_of_ne_recovered hkind
  obtain ⟨groups, hpairwise, hbound, hstream⟩ := hinv.groups
  refine ⟨hinv.ticks.concat (hinv.recordOk hstep hstart), ?_, ?_, ?_, ?_, ?_, ?_, ?_, ?_⟩
  · rw [epochAfterAll_concat]
    rfl
  · intro hnone
    rw [TargetView.next_detector] at hnone
    cases hnone
  · intro mark
    rw [TargetView.next_recorded, queuedIn_concat, hinv.recorded]
    rfl
  · intro detector hdetector
    rw [TargetView.next_detector, Option.some_inj] at hdetector
    subst hdetector
    rw [hepoch, hlast, hnext (by decide), hnext (by decide)]
    refine ⟨TargetView.next_terminal, ?_, ?_, ?_⟩
    · rw [TargetView.next_latest, hnot]
      exact hlatest
    · rw [TargetView.counted, hnot, ← hwarned]
      rfl
    · rw [TargetView.counted, hnot, ← hcritical]
      rfl
  · intro hnone
    rw [TargetView.next_detector] at hnone
    cases hnone
  · rw [hepoch, hnext (by decide), hnext (by decide), Bool.or_eq_true, Bool.or_eq_true,
      decide_eq_true_eq, decide_eq_true_eq]
    rintro (hold | hdue)
    · exact Or.inl (hinv.criticalAfter hold)
    · left
      have hcounted := (DetectorView.due_eq_critical_iff.mp hdue).2.2.1
      rw [TargetView.counted, hnot] at hcounted
      rw [← hwarned]
      exact hcounted
  · intro mark hrecorded
    rw [hepoch]
    rcases TargetView.next_recorded.mp hrecorded with hold | hqueued
    · exact hinv.bounded mark hold
    · right
      rw [hqueue] at hqueued
      obtain ⟨kind, hkind, rfl⟩ := List.mem_map.mp hqueued
      refine ⟨rfl, ?_⟩
      rintro rfl
      exact DetectorView.due_ne_recovered (Option.mem_toList.mp hkind)
  · refine ⟨groups, hpairwise, ?_, ?_⟩
    · rw [hepoch]
      exact hbound
    · have hrecord : (tickRecord thresholds view input).queued = view.queued thresholds input := rfl
      rw [streamMarks_concat, hstream, hrecord, hqueue, List.append_assoc]
      congr 1
      unfold openMarks
      rw [hepoch, hnext (by decide), hnext (by decide)]
      cases hdue : view.due thresholds input with
      | none => simp
      | some kind =>
          cases kind with
          | suspected =>
              have hnew : view.recorded ⟨.suspected, view.epoch⟩ = false := by
                have hcounted := (DetectorView.due_eq_suspected_iff.mp hdue).2.2
                rw [TargetView.counted, hnot] at hcounted
                rw [← hwarned]
                exact hcounted
              have hold : view.recorded ⟨.critical, view.epoch⟩ = false := by
                by_contra hcon
                have hafter := hinv.criticalAfter (by simpa using hcon)
                rw [hnew] at hafter
                exact Bool.false_ne_true hafter
              simp [hnew, hold]
          | critical =>
              have hnew : view.recorded ⟨.critical, view.epoch⟩ = false := by
                have hcounted := (DetectorView.due_eq_critical_iff.mp hdue).2.2.2
                rw [TargetView.counted, hnot] at hcounted
                rw [← hcritical]
                exact hcounted
              simp [hnew]
          | recovered => exact absurd hdue DetectorView.due_ne_recovered

/-- **One tick keeps the invariant.** -/
theorem StreamInv.tick (hinv : StreamInv thresholds start offset past view)
    {input : TickInput} (hstep : input.wallTime = input.now + offset)
    (hstart : start ≤ input.now) :
    StreamInv thresholds start offset (past ++ [tickRecord thresholds view input])
      (view.next thresholds input) := by
  cases hprogress : view.progresses input with
  | true => exact hinv.progress hstep hstart hprogress
  | false => exact hinv.silent hstep hstart hprogress

end Step

/-! ### The stream of an engine -/

/-- The progress epoch of a parent monitor, as its runtime document has it. -/
def persistedEpoch (H : Digest) (root : StateRoot) (sessionId : String) : Nat :=
  match root.runtime.lookup (sessionFilename H sessionId) with
  | some (.ok values) =>
      match values.parent with
      | .value monitor =>
          match monitor.progressEpoch with
          | .value epoch => epoch.toNat
          | _ => 0
      | _ => 0
  | _ => 0

/-- The detector an engine remembers of a fresh activation's monitor. -/
def rememberedDetector (engine : WatcherEngine) (sessionId : String) : Option SilenceState :=
  engine.watcher.detectors (sessionId, none, 1)

/-- One tick of an engine, as the stream of one session has it. -/
def streamRecord (H : Digest) (sessionId : String) (env : TickEnvironment) (root : StateRoot)
    (engine : WatcherEngine) : StreamRecord :=
  let outcome := engine.tick H env root
  { now := env.context.now
    epochBefore := persistedEpoch H root sessionId
    epochAfter := persistedEpoch H outcome.root sessionId
    paused := (rememberedDetector outcome.engine sessionId).any fun state => state.waits.paused
    terminal := (rememberedDetector outcome.engine sessionId).any fun state => state.waits.terminal
    queued := (ofSession sessionId outcome.queued).filterMap notificationMark }

/-- An engine ticking on a state root. -/
def streamMachine (H : Digest) (sessionId : String) :
    Machine (StateRoot × WatcherEngine) TickEnvironment StreamRecord where
  step state env :=
    let outcome := state.2.tick H env state.1
    ((outcome.root, outcome.engine), streamRecord H sessionId env state.1 state.2)

/-- A tick of a run that started at `start`, with a wall clock `offset` ahead of the
    monotonic clock. -/
structure ClocksInStep (start offset : Int) (context : TickContext) : Prop where
  monotonic : start ≤ context.now
  wall : context.wallTime = context.now + offset

theorem persistedEpoch_of_holds {H : Digest} {root : StateRoot} {doc : SessionDocument}
    (hholds : root.Holds H doc) : persistedEpoch H root doc.sessionId = doc.progressEpoch := by
  have hlookup : root.runtime.lookup (sessionFilename H doc.sessionId) = some (.ok doc.values) :=
    hholds
  unfold persistedEpoch
  rw [hlookup]
  exact Int.toNat_natCast doc.progressEpoch

section Engine

variable {H : Digest} {request : StartRequest} {start offset : Int}

/-- A tick that reaches the session's processor shows one tick of its view. -/
theorem streamRecord_of_processed {root : StateRoot} {engine : WatcherEngine}
    {doc : SessionDocument} {env : TickEnvironment} {batch : TargetBatch}
    (hholds : root.Holds H doc)
    (hprocessed : ProcessedTick H env engine doc batch (engine.tick H env root)) :
    streamRecord H doc.sessionId env root engine =
      tickRecord doc.thresholds (sessionView H doc engine.watcher) (env.input batch) := by
  have hsession := committedDocument_sessionId H engine doc (env.input batch)
  have hview := hprocessed.view
  have hdetector : (rememberedDetector (engine.tick H env root).engine doc.sessionId).map
      detectorView = ((sessionView H doc engine.watcher).next doc.thresholds
        (env.input batch)).detector := by
    rw [← hview]
    change _ = Option.map detectorView ((engine.tick H env root).engine.watcher.detectors
      ((committedDocument H engine doc (env.input batch)).sessionId, none, 1))
    rw [hsession]
    rfl
  have hepoch : persistedEpoch H (engine.tick H env root).root doc.sessionId =
      ((sessionView H doc engine.watcher).next doc.thresholds (env.input batch)).epoch := by
    rw [← hview, ← hsession]
    exact persistedEpoch_of_holds hprocessed.holds
  have hqueued : (ofSession doc.sessionId (engine.tick H env root).queued).filterMap
      notificationMark = (sessionView H doc engine.watcher).queued doc.thresholds
        (env.input batch) := by
    have hsome := congrArg (List.filterMap id) hprocessed.queued
    rw [List.filterMap_map, List.filterMap_map] at hsome
    exact hsome.trans List.filterMap_some
  rw [TargetView.next_detector, Option.map_eq_some_iff] at hdetector
  obtain ⟨state, hstate, hdetector⟩ := hdetector
  have hpaused : state.waits.paused =
      ((sessionView H doc engine.watcher).next doc.thresholds (env.input batch)).paused := by
    rw [TargetView.next_paused, ← TargetView.counted_paused]
    exact congrArg DetectorView.paused hdetector
  have hterminal : state.waits.terminal = false := by
    rw [← @TargetView.next_terminal doc.thresholds (sessionView H doc engine.watcher)
      (env.input batch)]
    exact congrArg DetectorView.terminal hdetector
  unfold streamRecord tickRecord
  dsimp only
  rw [persistedEpoch_of_holds hholds, hepoch, hqueued, hstate, Option.any_some, Option.any_some,
    hpaused, hterminal]
  rfl

/-- A relation between the stream and the view that each tick of one activation keeps,
    whether it reaches the session or not. -/
structure StreamRule (P : List StreamRecord → TargetView → Prop) (thresholds : Thresholds)
    (start offset : Int) : Prop where
  quiet : ∀ past view record, P past view → record.epochBefore = view.epoch →
    record.epochAfter = view.epoch → record.queued = [] → P (past ++ [record]) view
  tick : ∀ past view input, P past view → input.wallTime = input.now + offset →
    start ≤ input.now → P (past ++ [tickRecord thresholds view input]) (view.next thresholds input)

/-- What an engine that runs one activation keeps. -/
def EngineInv (H : Digest) (sessionId : String) (thresholds : Thresholds)
    (P : List StreamRecord → TargetView → Prop) (past : List StreamRecord)
    (state : StateRoot × WatcherEngine) : Prop :=
  ∃ doc : SessionDocument, doc.sessionId = sessionId ∧ doc.thresholds = thresholds ∧
    state.1.Holds H doc ∧ Separate H state.1 sessionId ∧
    state.2.watcher.recorder.pending = [] ∧ P past (sessionView H doc state.2.watcher)

theorem EngineInv.tick {sessionId : String} {thresholds : Thresholds}
    {P : List StreamRecord → TargetView → Prop} {past : List StreamRecord}
    {state : StateRoot × WatcherEngine} {env : TickEnvironment}
    (hinv : EngineInv H sessionId thresholds P past state)
    (hrule : StreamRule P thresholds start offset) (hclocks : ClocksInStep start offset env.context)
    (hwrite : (env.commitFaults (sessionFilename H sessionId)).write = none) :
    EngineInv H sessionId thresholds P
      (past ++ [((streamMachine H sessionId).step state env).2])
      ((streamMachine H sessionId).step state env).1 := by
  obtain ⟨root, engine⟩ := state
  obtain ⟨doc, rfl, rfl, hholds, hseparate, hpending, hstream⟩ := hinv
  change EngineInv H doc.sessionId doc.thresholds P
    (past ++ [streamRecord H doc.sessionId env root engine])
    ((engine.tick H env root).root, (engine.tick H env root).engine)
  obtain ⟨hflushed, hseparate', hquiet | ⟨batch, hprocessed⟩⟩ :=
    tick_session hholds hseparate hpending hwrite
  · refine ⟨doc, rfl, rfl, hquiet.holds, hseparate', hflushed, ?_⟩
    dsimp only
    rw [hquiet.view]
    apply hrule.quiet past _ _ hstream
    · exact persistedEpoch_of_holds hholds
    · exact persistedEpoch_of_holds hquiet.holds
    · change List.filterMap notificationMark (ofSession doc.sessionId _) = []
      rw [hquiet.queued]
      rfl
  · rw [streamRecord_of_processed hholds hprocessed]
    refine ⟨committedDocument H engine doc (env.input batch),
      committedDocument_sessionId H engine doc _, committedDocument_thresholds H engine doc _,
      hprocessed.holds, hseparate', hflushed, ?_⟩
    dsimp only
    rw [hprocessed.view]
    exact hrule.tick past _ _ hstream hclocks.wall hclocks.monotonic

/-- **Runs of one activation** keep what its ticks keep. -/
theorem engineInv_run {sessionId : String} {thresholds : Thresholds}
    {P : List StreamRecord → TargetView → Prop} {state : StateRoot × WatcherEngine}
    {envs : List TickEnvironment} (hinit : EngineInv H sessionId thresholds P [] state)
    (hrule : StreamRule P thresholds start offset)
    (hclocks : ∀ env ∈ envs, ClocksInStep start offset env.context)
    (hwrite : ∀ env ∈ envs, (env.commitFaults (sessionFilename H sessionId)).write = none) :
    ∃ view, P ((streamMachine H sessionId).outputs state envs) view := by
  have hrun := (streamMachine H sessionId).history_induction
    (fun _ state past => EngineInv H sessionId thresholds P past state) hinit
    (fun past env hextends hinv => hinv.tick hrule
      (hclocks env (hextends.subset (List.mem_append_right _ (List.mem_singleton_self env))))
      (hwrite env (hextends.subset (List.mem_append_right _ (List.mem_singleton_self env)))))
  obtain ⟨_, _, _, _, _, _, hstream⟩ := hrun
  exact ⟨_, hstream⟩

theorem streamRule_inv (thresholds : Thresholds) :
    StreamRule (StreamInv thresholds start offset) thresholds start offset :=
  ⟨fun _ _ _ hinv hbefore hafter hqueued => hinv.quiet hbefore hafter hqueued,
    fun _ _ _ hinv hstep hstart => hinv.tick hstep hstart⟩

/-- The view of a fresh start on an empty log has the invariant of streams. -/
theorem StreamInv.started {thresholds : Thresholds} {view : TargetView} (hepoch : view.epoch = 0)
    (hanchor : view.anchor = start + offset) (hdetector : view.detector = none)
    (hrecorded : ∀ mark, view.recorded mark = false) :
    StreamInv thresholds start offset [] view := by
  have hopen : openMarks view = [] := by
    unfold openMarks
    rw [hrecorded, hrecorded]
    rfl
  refine ⟨Along.nil, hepoch, fun _ => ⟨hanchor, rfl⟩, ?_, ?_, fun _ => hrecorded, ?_, ?_, [], ?_,
    ?_, ?_⟩
  · intro mark
    constructor
    · intro hmark
      rw [hrecorded] at hmark
      exact absurd hmark Bool.false_ne_true
    · rintro ⟨record, hmem, _⟩
      exact absurd hmem List.not_mem_nil
  · intro detector hsome
    rw [hdetector] at hsome
    cases hsome
  · intro hcritical
    rw [hrecorded] at hcritical
    exact absurd hcritical Bool.false_ne_true
  · intro mark hmark
    rw [hrecorded] at hmark
    exact absurd hmark Bool.false_ne_true
  · exact List.Pairwise.nil
  · intro group hmem
    exact absurd hmem List.not_mem_nil
  · rw [hopen]
    rfl

/-- **The stream of one activation is well formed**: the session is started on an empty log
    and one engine ticks any number of times, whatever it reads. -/
theorem notificationStream_wellFormed {faults : StartFaults} {root root' : StateRoot}
    {wallTime : Int} {envs : List TickEnvironment}
    (hstart : startNotificationSession H faults root request wallTime = (root', .ok false))
    (hseparate : Separate H root' request.sessionId)
    (hclocks : ∀ env ∈ envs, ClocksInStep start (wallTime - start) env.context)
    (hwrite : ∀ env ∈ envs,
      (env.commitFaults (sessionFilename H request.sessionId)).write = none) :
    WellFormedStream request.thresholds start
      ((streamMachine H request.sessionId).outputs (root', WatcherEngine.fresh []) envs) := by
  obtain ⟨transcript, _, _, rfl⟩ := startNotificationSession_fresh hstart
  have hanchor : wallTime = start + (wallTime - start) := by omega
  have hinit : StreamInv request.thresholds start (wallTime - start) []
      (sessionView H (SessionDocument.started request transcript wallTime)
        (WatcherEngine.fresh []).watcher) :=
    StreamInv.started rfl hanchor rfl fun _ => rfl
  have hstate : EngineInv H request.sessionId request.thresholds
      (StreamInv request.thresholds start (wallTime - start)) []
      (root.setRuntime (sessionFilename H request.sessionId)
        (SessionDocument.started request transcript wallTime).values, WatcherEngine.fresh []) :=
    ⟨SessionDocument.started request transcript wallTime, rfl, rfl, root.setRuntime_lookup _ _,
      hseparate, rfl, hinit⟩
  obtain ⟨view, hinv⟩ :=
    engineInv_run hstate (streamRule_inv request.thresholds) hclocks hwrite
  exact hinv.wellFormed

end Engine

/-- A silence that is suspected and then recovers. -/
def sampleTicks : List TickEnvironment :=
  [.delivering ⟨1000, 1000⟩ [], .delivering ⟨1500, 1500⟩ [{ kind := .item, occurredAt := 1400 }]]

theorem notificationStream_wellFormed_sample :
    WellFormedStream sampleRequest.thresholds 0
      ((streamMachine .transparent "s").outputs (sampleRoot, WatcherEngine.fresh [])
        sampleTicks) := by
  refine @notificationStream_wellFormed .transparent sampleRequest 0 sampleStart .empty sampleRoot
    0 sampleTicks rfl (Or.inr (by decide)) ?_ ?_
  · intro env hmem
    rcases List.mem_cons.mp hmem with rfl | hmem
    · exact ⟨by decide, rfl⟩
    · obtain rfl := List.mem_singleton.mp hmem
      exact ⟨by decide, rfl⟩
  · intro env hmem
    rcases List.mem_cons.mp hmem with rfl | hmem
    · rfl
    · obtain rfl := List.mem_singleton.mp hmem
      rfl

example : streamMarks ((streamMachine .transparent "s").outputs
    (sampleRoot, WatcherEngine.fresh []) sampleTicks) = [⟨.suspected, 0⟩, ⟨.recovered, 0⟩] := by
  decide

end CodexMustWork
