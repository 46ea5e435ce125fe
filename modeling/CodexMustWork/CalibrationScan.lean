import CodexMustWork.TurnCalls
import Mathlib.Data.List.DropRight

/-!
# Gaps for the calibration

`_GapTracker` of `scripts/calibration_scan.py`: the gaps between two consecutive
moments of a turn, without the time that tools take.  The tracker counts open
tools, so the results of one call can close another; a gap then runs over the
time of a call that still waits.
-/

namespace CodexMustWork

structure GapTracker where
  gaps : List Int := []
  active : Bool := false
  openTools : Nat := 0
  lastProgress : Option Int := none
deriving DecidableEq, Repr

/-- `_append_gap`. -/
def appendGap (gaps : List Int) (previous : Option Int) (current : Int) : List Int :=
  match previous with
  | none => gaps
  | some previous => if current ≤ previous then gaps else gaps ++ [current - previous]

namespace GapTracker

/-- `_start_turn`. -/
def startTurn (tracker : GapTracker) (occurredAt : Int) : GapTracker :=
  { tracker with active := true, openTools := 0, lastProgress := some occurredAt }

/-- `_end_turn`. -/
def endTurn (tracker : GapTracker) : GapTracker :=
  { tracker with active := false, openTools := 0, lastProgress := none }

/-- `_start_tool`. -/
def startTool (tracker : GapTracker) (occurredAt : Int) : GapTracker :=
  if !tracker.active then tracker
  else
    { tracker with
      gaps := if tracker.openTools = 0 then
          appendGap tracker.gaps tracker.lastProgress occurredAt
        else tracker.gaps
      openTools := tracker.openTools + 1
      lastProgress := none }

/-- `_record_progress`. -/
def recordProgress (tracker : GapTracker) (occurredAt : Int) : GapTracker :=
  if tracker.active && tracker.openTools == 0 then
    { tracker with
      gaps := appendGap tracker.gaps tracker.lastProgress occurredAt
      lastProgress := some occurredAt }
  else tracker

/-- `_finish_tool`. -/
def finishTool (tracker : GapTracker) (occurredAt : Int) : GapTracker :=
  if !tracker.active then tracker
  else if 0 < tracker.openTools then
    { tracker with
      openTools := tracker.openTools - 1
      lastProgress := if tracker.openTools = 1 then some occurredAt else tracker.lastProgress }
  else tracker.recordProgress occurredAt

def observe (tracker : GapTracker) (event : ObservedEvent) : GapTracker :=
  match event.kind with
  | .sessionMetadata => tracker
  | .turnStarted => tracker.startTurn event.occurredAt
  | .turnCompleted => tracker.endTurn
  | .turnAborted => tracker.endTurn
  | .toolStarted => tracker.startTool event.occurredAt
  | .toolResult => tracker.finishTool event.occurredAt
  | .item => tracker.recordProgress event.occurredAt
  | .delta => tracker.recordProgress event.occurredAt

end GapTracker

/-- The loop of `_progress_gaps`. -/
def trackerAfter (events : List ObservedEvent) : GapTracker := events.foldl GapTracker.observe {}

theorem trackerAfter_concat (events : List ObservedEvent) (event : ObservedEvent) :
    trackerAfter (events ++ [event]) = (trackerAfter events).observe event := by
  simp [trackerAfter]

/-! ### Moments of a turn -/

/-- The last event that is not session metadata. -/
def lastMoment (events : List ObservedEvent) : Option ObservedEvent :=
  (events.filter fun event => decide (event.kind ≠ .sessionMetadata)).getLast?

/-- A turn has begun and not ended. -/
def InTurn (events : List ObservedEvent) : Prop :=
  Since (fun event => event.kind = .turnStarted) (fun event => event.kind.boundsTurn = false) events

/-- The events since a turn last began or ended. -/
def turnEvents (events : List ObservedEvent) : List ObservedEvent :=
  events.rtakeWhile fun event => !event.kind.boundsTurn

def toolStarts (events : List ObservedEvent) : Nat :=
  events.countP fun event => decide (event.kind = .toolStarted)

def toolResults (events : List ObservedEvent) : Nat :=
  events.countP fun event => decide (event.kind = .toolResult)

/-- Every stretch of recent events has at least as many tool results as tool starts. -/
def Balanced (events : List ObservedEvent) : Prop :=
  ∀ recent, recent <:+ events → toolStarts recent ≤ toolResults recent

/-- No started call of the turn still waits for its first result. -/
def NoCallWaits (events : List ObservedEvent) : Prop :=
  ∀ call, ¬ Since (StartsCall call) (LeavesCall call) events

@[simp] theorem lastMoment_concat (events : List ObservedEvent) (event : ObservedEvent) :
    lastMoment (events ++ [event]) =
      if event.kind = .sessionMetadata then lastMoment events else some event := by
  unfold lastMoment
  rw [List.filter_append]
  split_ifs with hkind
  · simp [hkind]
  · simp [hkind]

theorem turnEvents_concat (events : List ObservedEvent) (event : ObservedEvent) :
    turnEvents (events ++ [event]) =
      if event.kind.boundsTurn then [] else turnEvents events ++ [event] := by
  unfold turnEvents
  rw [List.rtakeWhile_concat]
  cases event.kind.boundsTurn <;> rfl

/-- Every stretch of recent events has at most so many starts more than results. -/
def Within (slack : Nat) (events : List ObservedEvent) : Prop :=
  ∀ recent, recent <:+ events → toolStarts recent ≤ toolResults recent + slack

theorem within_nil (slack : Nat) : Within slack [] := by
  intro recent hrecent
  rw [List.suffix_nil.mp hrecent]
  exact Nat.zero_le _

theorem toolStarts_concat (events : List ObservedEvent) (event : ObservedEvent) :
    toolStarts (events ++ [event]) =
      toolStarts events + if event.kind = .toolStarted then 1 else 0 := by
  simp [toolStarts, List.countP_append, List.countP_singleton]

theorem toolResults_concat (events : List ObservedEvent) (event : ObservedEvent) :
    toolResults (events ++ [event]) =
      toolResults events + if event.kind = .toolResult then 1 else 0 := by
  simp [toolResults, List.countP_append, List.countP_singleton]

section Within

variable {events : List ObservedEvent} {event : ObservedEvent} {slack : Nat}

theorem within_concat_of_started (hkind : event.kind = .toolStarted) :
    Within slack (events ++ [event]) ↔ ∃ less, slack = less + 1 ∧ Within less events := by
  constructor
  · intro hwithin
    have hone := hwithin [event] (List.suffix_append _ _)
    have hpositive : 0 < slack := by
      simp [toolStarts, toolResults, hkind] at hone
      exact hone
    refine ⟨slack - 1, by omega, ?_⟩
    intro recent hrecent
    have hmore := hwithin (recent ++ [event])
      (List.suffix_concat_iff.mpr (Or.inr ⟨recent, rfl, hrecent⟩))
    rw [toolStarts_concat, toolResults_concat, if_pos hkind, if_neg (by simp [hkind])] at hmore
    omega
  · rintro ⟨less, rfl, hwithin⟩
    intro recent hrecent
    rcases List.suffix_concat_iff.mp hrecent with rfl | ⟨earlier, rfl, hearlier⟩
    · exact Nat.zero_le _
    · have hless := hwithin earlier hearlier
      rw [toolStarts_concat, toolResults_concat, if_pos hkind, if_neg (by simp [hkind])]
      omega

theorem within_concat_of_result (hkind : event.kind = .toolResult) :
    Within slack (events ++ [event]) ↔ Within (slack + 1) events := by
  constructor
  · intro hwithin recent hrecent
    have hmore := hwithin (recent ++ [event])
      (List.suffix_concat_iff.mpr (Or.inr ⟨recent, rfl, hrecent⟩))
    rw [toolStarts_concat, toolResults_concat, if_pos hkind, if_neg (by simp [hkind])] at hmore
    omega
  · intro hwithin recent hrecent
    rcases List.suffix_concat_iff.mp hrecent with rfl | ⟨earlier, rfl, hearlier⟩
    · exact Nat.zero_le _
    · have hless := hwithin earlier hearlier
      rw [toolStarts_concat, toolResults_concat, if_pos hkind, if_neg (by simp [hkind])]
      omega

theorem within_concat_of_other (hstarted : event.kind ≠ .toolStarted)
    (hresult : event.kind ≠ .toolResult) :
    Within slack (events ++ [event]) ↔ Within slack events := by
  constructor
  · intro hwithin recent hrecent
    have hmore := hwithin (recent ++ [event])
      (List.suffix_concat_iff.mpr (Or.inr ⟨recent, rfl, hrecent⟩))
    rw [toolStarts_concat, toolResults_concat, if_neg hstarted, if_neg hresult] at hmore
    omega
  · intro hwithin recent hrecent
    rcases List.suffix_concat_iff.mp hrecent with rfl | ⟨earlier, rfl, hearlier⟩
    · exact Nat.zero_le _
    · have hless := hwithin earlier hearlier
      rw [toolStarts_concat, toolResults_concat, if_neg hstarted, if_neg hresult]
      omega

end Within

/-! ### What the tracker knows -/

/-- In a turn the tracker holds the excess of starts over results, and the time of the last
    moment when there is none. -/
structure Tracks (events : List ObservedEvent) (tracker : GapTracker) : Prop where
  active : tracker.active = true ↔ InTurn events
  openTools : tracker.active = true →
    ∀ slack, tracker.openTools ≤ slack ↔ Within slack (turnEvents events)
  quiet : tracker.active = true → tracker.openTools = 0 →
    ∃ moment, lastMoment events = some moment ∧ tracker.lastProgress = some moment.occurredAt
  busy : tracker.active = true → 0 < tracker.openTools → tracker.lastProgress = none

theorem inTurn_concat {events : List ObservedEvent} {event : ObservedEvent} :
    InTurn (events ++ [event]) ↔
      event.kind = .turnStarted ∨ InTurn events ∧ event.kind.boundsTurn = false :=
  Since.concat_iff

section Step

variable {past : List ObservedEvent} {tracker : GapTracker} {event : ObservedEvent}

/-- Events that bound no turn leave the tracker in it or out of it. -/
theorem Tracks.inTurn (htracks : Tracks past tracker) (hbounds : event.kind.boundsTurn = false) :
    tracker.active = true ↔ InTurn (past ++ [event]) := by
  rw [inTurn_concat, htracks.active]
  constructor
  · exact fun hturn => Or.inr ⟨hturn, hbounds⟩
  · rintro (hstarted | ⟨hturn, _⟩)
    · rw [hstarted] at hbounds
      cases hbounds
    · exact hturn

theorem turnEvents_concat_of_inner (hbounds : event.kind.boundsTurn = false) :
    turnEvents (past ++ [event]) = turnEvents past ++ [event] := by
  rw [turnEvents_concat, hbounds]
  rfl

/-- Outside a turn nothing else is said. -/
theorem Tracks.of_inactive (hactive : tracker.active = false) (hturn : ¬ InTurn past) :
    Tracks past tracker :=
  ⟨⟨fun heq => absurd (hactive.symm.trans heq) Bool.false_ne_true, fun hin => absurd hin hturn⟩,
    fun heq => absurd (hactive.symm.trans heq) Bool.false_ne_true,
    fun heq => absurd (hactive.symm.trans heq) Bool.false_ne_true,
    fun heq => absurd (hactive.symm.trans heq) Bool.false_ne_true⟩

theorem Tracks.startTurn (hkind : event.kind = .turnStarted) :
    Tracks (past ++ [event]) (tracker.startTurn event.occurredAt) := by
  have hevents : turnEvents (past ++ [event]) = [] := by
    rw [turnEvents_concat, hkind]
    rfl
  refine ⟨⟨fun _ => inTurn_concat.mpr (Or.inl hkind), fun _ => rfl⟩, ?_, ?_, ?_⟩
  · intro _ slack
    rw [hevents]
    exact ⟨fun _ => within_nil slack, fun _ => Nat.zero_le _⟩
  · intro _ _
    exact ⟨event, by simp [hkind], rfl⟩
  · exact fun _ hpositive => absurd hpositive (Nat.lt_irrefl 0)

theorem Tracks.endTurn (hkind : event.kind = .turnCompleted ∨ event.kind = .turnAborted) :
    Tracks (past ++ [event]) tracker.endTurn := by
  apply Tracks.of_inactive rfl
  rw [inTurn_concat]
  rintro (hstarted | ⟨_, hbounds⟩)
  · rcases hkind with hkind | hkind <;> rw [hkind] at hstarted <;> cases hstarted
  · rcases hkind with hkind | hkind <;> rw [hkind] at hbounds <;> cases hbounds

theorem Tracks.startTool (htracks : Tracks past tracker) (hkind : event.kind = .toolStarted) :
    Tracks (past ++ [event]) (tracker.startTool event.occurredAt) := by
  have hbounds : event.kind.boundsTurn = false := by rw [hkind]; rfl
  have hturn := htracks.inTurn hbounds
  unfold GapTracker.startTool
  cases hactive : tracker.active with
  | false =>
      apply Tracks.of_inactive hactive
      rw [← hturn, hactive]
      exact Bool.false_ne_true
  | true =>
      have hopen := htracks.openTools hactive
      refine ⟨⟨fun _ => hturn.mp hactive, fun _ => rfl⟩, ?_, ?_, fun _ _ => rfl⟩
      · intro _ slack
        rw [turnEvents_concat_of_inner hbounds, within_concat_of_started hkind]
        change tracker.openTools + 1 ≤ slack ↔ _
        constructor
        · intro hle
          exact ⟨slack - 1, by omega, (hopen _).mp (by omega)⟩
        · rintro ⟨less, rfl, hwithin⟩
          exact Nat.succ_le_succ ((hopen less).mpr hwithin)
      · exact fun _ hzero => absurd hzero (Nat.succ_ne_zero _)

/-- Progress outside tool time. -/
theorem Tracks.recordProgress (htracks : Tracks past tracker)
    (hbounds : event.kind.boundsTurn = false) (hmoment : event.kind ≠ .sessionMetadata)
    (hwithin : ∀ slack, Within slack (turnEvents past) →
      Within slack (turnEvents past ++ [event]))
    (hopen : 0 < tracker.openTools →
      ∀ slack, Within slack (turnEvents past ++ [event]) → Within slack (turnEvents past)) :
    Tracks (past ++ [event]) (tracker.recordProgress event.occurredAt) := by
  have hturn := htracks.inTurn hbounds
  unfold GapTracker.recordProgress
  cases hactive : tracker.active with
  | false =>
      apply Tracks.of_inactive hactive
      rw [← hturn, hactive]
      exact Bool.false_ne_true
  | true =>
      have hcount := htracks.openTools hactive
      by_cases hzero : tracker.openTools = 0
      · rw [if_pos (by simp [hzero])]
        refine ⟨⟨fun _ => hturn.mp hactive, fun _ => rfl⟩, ?_, ?_, ?_⟩
        · intro _ slack
          rw [turnEvents_concat_of_inner hbounds]
          change tracker.openTools ≤ slack ↔ _
          refine ⟨fun hle => hwithin slack ((hcount slack).mp hle), fun _ => ?_⟩
          omega
        · intro _ _
          exact ⟨event, by simp [hmoment], rfl⟩
        · exact fun _ hpositive => absurd hzero (Nat.pos_iff_ne_zero.mp hpositive)
      · rw [if_neg (by simp [hzero])]
        refine ⟨⟨fun _ => hturn.mp hactive, fun _ => hactive⟩, ?_, ?_, htracks.busy⟩
        · intro _ slack
          rw [turnEvents_concat_of_inner hbounds]
          rw [hcount slack]
          exact ⟨hwithin slack, hopen (Nat.pos_of_ne_zero hzero) slack⟩
        · exact fun _ heq => absurd heq hzero

theorem Tracks.finishTool (htracks : Tracks past tracker) (hkind : event.kind = .toolResult) :
    Tracks (past ++ [event]) (tracker.finishTool event.occurredAt) := by
  have hbounds : event.kind.boundsTurn = false := by rw [hkind]; rfl
  have hmoment : event.kind ≠ .sessionMetadata := by rw [hkind]; decide
  have hturn := htracks.inTurn hbounds
  unfold GapTracker.finishTool
  cases hactive : tracker.active with
  | false =>
      apply Tracks.of_inactive hactive
      rw [← hturn, hactive]
      exact Bool.false_ne_true
  | true =>
      have hcount := htracks.openTools hactive
      by_cases hpositive : 0 < tracker.openTools
      · rw [if_pos hpositive]
        refine ⟨⟨fun _ => hturn.mp hactive, fun _ => rfl⟩, ?_, ?_, ?_⟩
        · intro _ slack
          rw [turnEvents_concat_of_inner hbounds, within_concat_of_result hkind, ← hcount]
          change tracker.openTools - 1 ≤ slack ↔ _
          omega
        · intro _ hzero
          change tracker.openTools - 1 = 0 at hzero
          exact ⟨event, by simp [hmoment], if_pos (by omega)⟩
        · intro _ hmore
          change 0 < tracker.openTools - 1 at hmore
          exact (if_neg (by omega)).trans (htracks.busy hactive hpositive)
      · rw [if_neg hpositive]
        apply htracks.recordProgress hbounds hmoment
        · intro slack hwithin
          rw [within_concat_of_result hkind, ← hcount]
          omega
        · exact fun hmore => absurd hmore hpositive

theorem Tracks.observe (htracks : Tracks past tracker) :
    Tracks (past ++ [event]) (tracker.observe event) := by
  unfold GapTracker.observe
  cases hkind : event.kind with
  | sessionMetadata =>
      have hbounds : event.kind.boundsTurn = false := by rw [hkind]; rfl
      have hwithin : ∀ slack, Within slack (turnEvents past ++ [event]) ↔
          Within slack (turnEvents past) := fun slack =>
        within_concat_of_other (by rw [hkind]; decide) (by rw [hkind]; decide)
      refine ⟨htracks.inTurn hbounds, ?_, ?_, htracks.busy⟩
      · intro hactive slack
        rw [turnEvents_concat_of_inner hbounds, hwithin]
        exact htracks.openTools hactive slack
      · rw [lastMoment_concat, if_pos hkind]
        exact htracks.quiet
  | turnStarted => exact Tracks.startTurn hkind
  | turnCompleted => exact Tracks.endTurn (Or.inl hkind)
  | turnAborted => exact Tracks.endTurn (Or.inr hkind)
  | toolStarted => exact htracks.startTool hkind
  | toolResult => exact htracks.finishTool hkind
  | item =>
      have hwithin : ∀ slack, Within slack (turnEvents past ++ [event]) ↔
          Within slack (turnEvents past) := fun slack =>
        within_concat_of_other (by rw [hkind]; decide) (by rw [hkind]; decide)
      exact htracks.recordProgress (by rw [hkind]; rfl) (by rw [hkind]; decide)
        (fun slack => (hwithin slack).mpr) fun _ slack => (hwithin slack).mp
  | delta =>
      have hwithin : ∀ slack, Within slack (turnEvents past ++ [event]) ↔
          Within slack (turnEvents past) := fun slack =>
        within_concat_of_other (by rw [hkind]; decide) (by rw [hkind]; decide)
      exact htracks.recordProgress (by rw [hkind]; rfl) (by rw [hkind]; decide)
        (fun slack => (hwithin slack).mpr) fun _ slack => (hwithin slack).mp

end Step

theorem tracks_after (events : List ObservedEvent) : Tracks events (trackerAfter events) := by
  induction events using List.reverseRecOn with
  | nil => exact Tracks.of_inactive rfl Since.not_nil
  | append_singleton past event ih =>
      rw [trackerAfter_concat]
      exact ih.observe

/-! ### Gaps -/

/-- The gaps that an event adds. -/
def newGaps (past : List ObservedEvent) (event : ObservedEvent) : List Int :=
  (trackerAfter (past ++ [event])).gaps.drop (trackerAfter past).gaps.length

theorem appendGap_eq (gaps : List Int) (previous : Option Int) (current : Int) :
    appendGap gaps previous current = gaps ++ appendGap [] previous current := by
  unfold appendGap
  cases previous with
  | none => simp
  | some previous =>
      dsimp only
      split_ifs <;> simp

theorem mem_appendGap_nil {previous : Option Int} {current gap : Int} :
    gap ∈ appendGap [] previous current ↔
      ∃ earlier, previous = some earlier ∧ earlier < current ∧ gap = current - earlier := by
  unfold appendGap
  cases previous with
  | none => simp
  | some earlier =>
      dsimp only
      split_ifs with hlate
      · simp only [List.not_mem_nil, Option.some_inj, false_iff]
        rintro ⟨_, rfl, hearlier, _⟩
        omega
      · simp only [List.nil_append, List.mem_singleton, Option.some_inj]
        constructor
        · exact fun hgap => ⟨earlier, rfl, by omega, hgap⟩
        · rintro ⟨_, rfl, _, hgap⟩
          exact hgap

/-- An event at which a gap may end. -/
def EndsGap (tracker : GapTracker) (event : ObservedEvent) : Prop :=
  event.kind.boundsTurn = false ∧ event.kind ≠ .sessionMetadata ∧ tracker.active = true ∧
    tracker.openTools = 0

theorem recordProgress_gaps (tracker : GapTracker) (occurredAt : Int) :
    (tracker.recordProgress occurredAt).gaps = tracker.gaps ++
      if tracker.active = true ∧ tracker.openTools = 0 then
        appendGap [] tracker.lastProgress occurredAt else [] := by
  unfold GapTracker.recordProgress
  by_cases hquiet : tracker.active = true ∧ tracker.openTools = 0
  · rw [if_pos hquiet, if_pos (by simp [hquiet]), ← appendGap_eq]
  · rw [if_neg hquiet, if_neg (by simpa using hquiet), List.append_nil]

instance (tracker : GapTracker) (event : ObservedEvent) : Decidable (EndsGap tracker event) :=
  inferInstanceAs (Decidable (_ ∧ _))

/-- **What an event adds**, whatever its kind. -/
theorem observe_gaps (tracker : GapTracker) (event : ObservedEvent) :
    (tracker.observe event).gaps = tracker.gaps ++
      if EndsGap tracker event then appendGap [] tracker.lastProgress event.occurredAt else [] := by
  have hprogress : ∀ occurredAt, (tracker.recordProgress occurredAt).gaps = _ :=
    recordProgress_gaps tracker
  have hends : EndsGap tracker event ↔ event.kind.boundsTurn = false ∧
      event.kind ≠ .sessionMetadata ∧ tracker.active = true ∧ tracker.openTools = 0 := Iff.rfl
  rw [if_congr hends rfl rfl]
  unfold GapTracker.observe
  cases hkind : event.kind with
  | sessionMetadata => simp
  | turnStarted => simp [EventKind.boundsTurn, GapTracker.startTurn]
  | turnCompleted => simp [EventKind.boundsTurn, GapTracker.endTurn]
  | turnAborted => simp [EventKind.boundsTurn, GapTracker.endTurn]
  | toolStarted =>
      unfold GapTracker.startTool
      cases hactive : tracker.active with
      | false => simp
      | true =>
          by_cases hzero : tracker.openTools = 0
          · simp [hzero, EventKind.boundsTurn, ← appendGap_eq]
          · simp [hzero]
  | toolResult =>
      unfold GapTracker.finishTool
      cases hactive : tracker.active with
      | false => simp
      | true =>
          by_cases hzero : tracker.openTools = 0
          · simp [hzero, EventKind.boundsTurn, hprogress, hactive]
          · simp [hzero, Nat.pos_of_ne_zero hzero]
  | item => simp [hprogress, EventKind.boundsTurn]
  | delta => simp [hprogress, EventKind.boundsTurn]

theorem newGaps_eq (past : List ObservedEvent) (event : ObservedEvent) :
    newGaps past event =
      if EndsGap (trackerAfter past) event then
        appendGap [] (trackerAfter past).lastProgress event.occurredAt
      else [] := by
  rw [newGaps, trackerAfter_concat, observe_gaps, List.drop_left]

/-- The gap ends at the event, and begins at the moment before it, in the same turn. -/
def JoinsMoments (past : List ObservedEvent) (event : ObservedEvent) (gap : Int) : Prop :=
  InTurn past ∧ event.kind.boundsTurn = false ∧ event.kind ≠ .sessionMetadata ∧
    ∃ moment, lastMoment past = some moment ∧ gap = event.occurredAt - moment.occurredAt ∧ 0 < gap

/-- Each gap joins two consecutive moments of a turn at which no call waits. -/
def ExcludesWaits (past : List ObservedEvent) (event : ObservedEvent) : Prop :=
  ∀ gap ∈ newGaps past event, JoinsMoments past event gap ∧ NoCallWaits past

/-- Before a later moment of the same turn, no call waits when recent results are as many as
    recent starts. -/
def AnsweredWhenBalanced (past : List ObservedEvent) (event : ObservedEvent) : Prop :=
  InTurn past → event.kind.boundsTurn = false → event.kind ≠ .sessionMetadata →
    (∀ moment, lastMoment past = some moment → moment.occurredAt < event.occurredAt) →
    Balanced (turnEvents past) → NoCallWaits past

theorem endsGap_iff {past : List ObservedEvent} {event : ObservedEvent} :
    EndsGap (trackerAfter past) event ↔ InTurn past ∧ event.kind.boundsTurn = false ∧
      event.kind ≠ .sessionMetadata ∧ Balanced (turnEvents past) := by
  have htracks := tracks_after past
  have hbalanced : (trackerAfter past).active = true →
      ((trackerAfter past).openTools = 0 ↔ Balanced (turnEvents past)) :=
    fun hactive => Nat.le_zero.symm.trans (htracks.openTools hactive 0)
  unfold EndsGap
  constructor
  · rintro ⟨hbounds, hmoment, hactive, hzero⟩
    exact ⟨htracks.active.mp hactive, hbounds, hmoment, (hbalanced hactive).mp hzero⟩
  · rintro ⟨hturn, hbounds, hmoment, hbalance⟩
    have hactive := htracks.active.mpr hturn
    exact ⟨hbounds, hmoment, hactive, (hbalanced hactive).mpr hbalance⟩

/-- Every gap joins two consecutive moments of a turn. -/
theorem mem_newGaps {past : List ObservedEvent} {event : ObservedEvent} {gap : Int} :
    gap ∈ newGaps past event ↔ JoinsMoments past event gap ∧ Balanced (turnEvents past) := by
  rw [newGaps_eq]
  split_ifs with hends
  · obtain ⟨hturn, hbounds, hmoment, hbalanced⟩ := endsGap_iff.mp hends
    obtain ⟨moment, hlast, hprogress⟩ :=
      (tracks_after past).quiet hends.2.2.1 hends.2.2.2
    rw [mem_appendGap_nil, hprogress]
    constructor
    · rintro ⟨_, heq, hearlier, hgap⟩
      obtain rfl := Option.some_inj.mp heq
      exact ⟨⟨hturn, hbounds, hmoment, moment, hlast, hgap, by omega⟩, hbalanced⟩
    · rintro ⟨⟨_, _, _, other, hother, hgap, hpositive⟩, _⟩
      rw [hlast] at hother
      obtain rfl := Option.some_inj.mp hother
      exact ⟨moment.occurredAt, rfl, by omega, hgap⟩
  · refine ⟨fun hmem => absurd hmem List.not_mem_nil, ?_⟩
    rintro ⟨⟨hturn, hbounds, hmoment, _⟩, hbalanced⟩
    exact absurd (endsGap_iff.mpr ⟨hturn, hbounds, hmoment, hbalanced⟩) hends

/-- **Gaps and tool waits.**  The gaps of a sequence of events exclude the time of waiting
    calls exactly when, before every later moment of a turn, results as many as starts
    mean that no call waits. -/
theorem gapsExcludeWaits_iff (events : List ObservedEvent) :
    Along ExcludesWaits events ↔ Along AnsweredWhenBalanced events := by
  constructor
  · intro hgaps past event hextends hturn hbounds hmoment hlater hbalanced
    obtain ⟨moment, hlast, _⟩ := (tracks_after past).quiet
      ((tracks_after past).active.mpr hturn)
      (Nat.le_zero.mp (((tracks_after past).openTools
        ((tracks_after past).active.mpr hturn) 0).mpr hbalanced))
    have hpositive := hlater moment hlast
    have hgap : event.occurredAt - moment.occurredAt ∈ newGaps past event :=
      mem_newGaps.mpr ⟨⟨hturn, hbounds, hmoment, moment, hlast, rfl, by omega⟩, hbalanced⟩
    exact (hgaps past event hextends _ hgap).2
  · intro hanswered past event hextends gap hgap
    obtain ⟨hjoins, hbalanced⟩ := mem_newGaps.mp hgap
    refine ⟨hjoins, ?_⟩
    obtain ⟨hturn, hbounds, hmoment, moment, hlast, hlength, hpositive⟩ := hjoins
    refine hanswered past event hextends hturn hbounds hmoment ?_ hbalanced
    intro other hother
    rw [hlast] at hother
    obtain rfl := Option.some_inj.mp hother
    omega

/-! ### A call whose wait is counted -/

/-- Two calls, and two result records of the first one. -/
def duplicatedResult : List ObservedEvent :=
  [{ kind := .turnStarted, occurredAt := 0 },
    { kind := .toolStarted, occurredAt := 1, callId := some "a" },
    { kind := .toolStarted, occurredAt := 2, callId := some "b" },
    { kind := .toolResult, occurredAt := 3, callId := some "a", fallbackToolResult := true },
    { kind := .toolResult, occurredAt := 4, callId := some "a" }]

def lateProgress : ObservedEvent := { kind := .item, occurredAt := 10 }

/-- Progress while the second call waits ends a gap. -/
theorem duplicatedResult_counts_wait :
    ((duplicatedResult ++ [lateProgress]).map ObservedEvent.occurredAt).Pairwise (· ≤ ·) ∧
      (∀ event ∈ duplicatedResult ++ [lateProgress],
        event.kind = .toolStarted ∨ event.kind = .toolResult → event.callId.isSome = true) ∧
      (trackerAfter (duplicatedResult ++ [lateProgress])).gaps = [1, 6] ∧
      ¬ Along ExcludesWaits (duplicatedResult ++ [lateProgress]) := by
  refine ⟨by decide, by decide, by decide, ?_⟩
  intro hgaps
  have hgap := hgaps duplicatedResult lateProgress (List.prefix_refl _) 6 (by decide)
  apply hgap.2 "b"
  refine ⟨[_, _], _, [_, _], rfl, ⟨rfl, by decide⟩, ?_⟩
  intro later hlater
  simp only [List.mem_cons, List.not_mem_nil, or_false] at hlater
  rcases hlater with rfl | rfl
  · exact ⟨rfl, by decide⟩
  · exact ⟨rfl, by decide⟩

end CodexMustWork
