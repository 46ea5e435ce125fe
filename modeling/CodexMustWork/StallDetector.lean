import Mathlib.Tactic.Common
import Mathlib.Order.Lattice
import Mathlib.Order.MinMax
import Mathlib.Algebra.Order.Group.Int

/-!
# Warning and critical-stall transitions

The pure detector of `scripts/stall_detector.py`: one `SilenceState` per
monitored target, advanced by counted progress (`recordProgress`), by confirmed
waits (`setWaitState`) and by the clock (`evaluate`).

Clock readings and durations are `Int`s counting microseconds.  The persisted
timestamps have exactly this resolution and thresholds are whole milliseconds;
the rounding of binary floating point is the one thing this leaves out.
-/

namespace CodexMustWork

inductive ProgressKind where
  | item
  | delta
  | toolResult
deriving DecidableEq, Repr

inductive MonitorPhase where
  | healthy
  | paused
  | silentWarned
  | critical
  | terminal
deriving DecidableEq, Repr

inductive Action where
  | none
  | warning
  | critical
  | stop
deriving DecidableEq, Repr

/-- Warning and critical durations.  `__post_init__` rejects every other pair,
    so the checks are fields here. -/
structure Thresholds where
  warning : Int
  critical : Int
  warning_pos : 0 < warning
  ordered : warning < critical

/-- Confirmed reasons why silence must not be reported. -/
structure WaitState where
  openToolCount : Nat := 0
  waitingForApproval : Bool := false
  waitingForUser : Bool := false
  childTerminal : Bool := false
  parentComplete : Bool := false
deriving DecidableEq, Repr

def WaitState.terminal (waits : WaitState) : Bool :=
  waits.childTerminal || waits.parentComplete

def WaitState.paused (waits : WaitState) : Bool :=
  !waits.terminal &&
    (decide (0 < waits.openToolCount) || waits.waitingForApproval || waits.waitingForUser)

/-- Detector state for one target generation.  `silenceId` is the source's text
    `"<sequence>:<instant>"`, kept as the pair it prints. -/
structure SilenceState where
  phase : MonitorPhase
  silenceId : Nat × Int
  silenceSequence : Nat
  silenceStartedAt : Int
  waits : WaitState
  itemAt : Option Int := none
  deltaAt : Option Int := none
  toolResultAt : Option Int := none
  warningEmitted : Bool := false
  criticalEmitted : Bool := false
deriving DecidableEq, Repr

structure Evaluation where
  state : SilenceState
  action : Action
deriving DecidableEq, Repr

def initialState (at' : Int) : SilenceState where
  phase := .healthy
  silenceId := (0, at')
  silenceSequence := 0
  silenceStartedAt := at'
  waits := {}

/-- The latest progress, or the start of the silence when there was none. -/
def latestProgressAt (state : SilenceState) : Int :=
  max (max state.silenceStartedAt (state.itemAt.getD state.silenceStartedAt))
    (max (state.deltaAt.getD state.silenceStartedAt)
      (state.toolResultAt.getD state.silenceStartedAt))

/-- `_next_interval`: open a new silence interval. -/
def nextInterval (state : SilenceState) (at' : Int) : SilenceState :=
  { state with
    phase := if state.waits.paused then .paused else .healthy
    silenceId := (state.silenceSequence + 1, at')
    silenceSequence := state.silenceSequence + 1
    warningEmitted := false
    criticalEmitted := false }

/-- Record fresh progress; a terminal target and a clock reading older than the
    latest progress are ignored. -/
def recordProgress (state : SilenceState) (kind : ProgressKind) (at' : Int) : SilenceState :=
  if state.waits.terminal || decide (at' < latestProgressAt state) then state
  else
    match kind with
    | .item => nextInterval { state with silenceStartedAt := at', itemAt := some at' } at'
    | .delta => nextInterval { state with silenceStartedAt := at', deltaAt := some at' } at'
    | .toolResult =>
        nextInterval { state with silenceStartedAt := at', toolResultAt := some at' } at'

/-- Apply proven waits without opening a new silence interval on resume.  The
    source takes the clock as well and does not read it. -/
def setWaitState (state : SilenceState) (waits : WaitState) (resumeConfirmed : Bool) :
    SilenceState :=
  if waits.terminal then { state with phase := .terminal, waits := waits }
  else if waits.paused then { state with phase := .paused, waits := waits }
  else if state.waits.paused && !resumeConfirmed then { state with phase := .paused }
  else
    { state with
      phase := if state.waits.paused then .healthy else state.phase
      waits := waits }

/-- Emit warning and critical once per silence interval, at most one of them. -/
def evaluate (state : SilenceState) (now : Int) (thresholds : Thresholds) : Evaluation :=
  let elapsed := now - latestProgressAt state
  if state.waits.terminal then ⟨{ state with phase := .terminal }, .stop⟩
  else if state.waits.paused then ⟨{ state with phase := .paused }, .none⟩
  else if elapsed < thresholds.warning then ⟨{ state with phase := .healthy }, .none⟩
  else if !state.warningEmitted then
    ⟨{ state with phase := .silentWarned, warningEmitted := true }, .warning⟩
  else if elapsed < thresholds.critical then ⟨{ state with phase := .silentWarned }, .none⟩
  else if !state.criticalEmitted then
    ⟨{ state with phase := .critical, criticalEmitted := true }, .critical⟩
  else ⟨state, .none⟩

/-! ### What each operation keeps

Only four facts about a detector matter to its later behaviour: the latest
progress, the two emitted flags, the waits, and how often the silence sequence
moved.  Each operation gets one lemma per fact. -/

@[simp] theorem latestProgressAt_initialState (at' : Int) :
    latestProgressAt (initialState at') = at' := by
  simp [latestProgressAt, initialState]

/-- Whether `recordProgress` counts: the target is live and the clock did not
    run backwards. -/
def SilenceState.Counts (state : SilenceState) (at' : Int) : Prop :=
  state.waits.terminal = false ∧ latestProgressAt state ≤ at'

instance (state : SilenceState) (at' : Int) : Decidable (state.Counts at') := by
  unfold SilenceState.Counts; infer_instance

theorem recordProgress_of_not_counts {state : SilenceState} {at' : Int}
    (h : ¬ state.Counts at') (kind : ProgressKind) :
    recordProgress state kind at' = state := by
  have hskip : (state.waits.terminal || decide (at' < latestProgressAt state)) = true := by
    by_contra hcon
    simp only [Bool.or_eq_true, decide_eq_true_eq, not_or, not_lt, Bool.not_eq_true] at hcon
    exact h hcon
  rw [recordProgress.eq_def, if_pos hskip]

/-- Counted progress re-anchors the silence and clears both flags. -/
theorem recordProgress_of_counts {state : SilenceState} {at' : Int}
    (h : state.Counts at') (kind : ProgressKind) :
    latestProgressAt (recordProgress state kind at') = at' ∧
      (recordProgress state kind at').silenceSequence = state.silenceSequence + 1 ∧
      (recordProgress state kind at').waits = state.waits ∧
      (recordProgress state kind at').warningEmitted = false ∧
      (recordProgress state kind at').criticalEmitted = false := by
  obtain ⟨hlive, hlatest⟩ := h
  have hcount : ¬ (state.waits.terminal || decide (at' < latestProgressAt state)) = true := by
    simp [hlive, hlatest]
  rw [recordProgress.eq_def, if_neg hcount]
  -- no other timestamp of the state is later than the clock reading
  have hold : state.itemAt.getD at' ≤ at' ∧ state.deltaAt.getD at' ≤ at' ∧
      state.toolResultAt.getD at' ≤ at' := by
    simp only [latestProgressAt, max_le_iff] at hlatest
    obtain ⟨⟨_, hitem⟩, hdelta, htool⟩ := hlatest
    refine ⟨?_, ?_, ?_⟩
    · cases hfield : state.itemAt <;> simp_all
    · cases hfield : state.deltaAt <;> simp_all
    · cases hfield : state.toolResultAt <;> simp_all
  obtain ⟨hitem, hdelta, htool⟩ := hold
  cases kind <;>
    simp [nextInterval, latestProgressAt, hitem, hdelta, htool]

@[simp] theorem setWaitState_latest (state : SilenceState) (waits : WaitState) (resume : Bool) :
    latestProgressAt (setWaitState state waits resume) = latestProgressAt state := by
  unfold setWaitState
  split_ifs <;> rfl

@[simp] theorem setWaitState_warningEmitted (state : SilenceState) (waits : WaitState)
    (resume : Bool) :
    (setWaitState state waits resume).warningEmitted = state.warningEmitted := by
  unfold setWaitState
  split_ifs <;> rfl

@[simp] theorem setWaitState_criticalEmitted (state : SilenceState) (waits : WaitState)
    (resume : Bool) :
    (setWaitState state waits resume).criticalEmitted = state.criticalEmitted := by
  unfold setWaitState
  split_ifs <;> rfl

@[simp] theorem setWaitState_sequence (state : SilenceState) (waits : WaitState)
    (resume : Bool) :
    (setWaitState state waits resume).silenceSequence = state.silenceSequence := by
  unfold setWaitState
  split_ifs <;> rfl

/-- With the resume confirmed exactly when nothing pauses, as every caller of the
    watcher passes it, the new waits always replace the old ones. -/
@[simp] theorem setWaitState_waits (state : SilenceState) (waits : WaitState) :
    (setWaitState state waits (!waits.paused)).waits = waits := by
  unfold setWaitState
  by_cases hterminal : waits.terminal = true
  · rw [if_pos hterminal]
  · by_cases hpaused : waits.paused = true
    · rw [if_neg hterminal, if_pos hpaused]
    · rw [if_neg hterminal, if_neg hpaused, if_neg (by simp [hpaused])]

@[simp] theorem evaluate_latest (state : SilenceState) (now : Int) (th : Thresholds) :
    latestProgressAt (evaluate state now th).state = latestProgressAt state := by
  unfold evaluate
  dsimp only
  split_ifs <;> rfl

@[simp] theorem evaluate_waits (state : SilenceState) (now : Int) (th : Thresholds) :
    (evaluate state now th).state.waits = state.waits := by
  unfold evaluate
  dsimp only
  split_ifs <;> rfl

/-- When nothing is terminal or paused, a warning needs the full warning time. -/
theorem evaluate_warning_iff (state : SilenceState) (now : Int) (th : Thresholds) :
    (evaluate state now th).action = .warning ↔
      state.waits.terminal = false ∧ state.waits.paused = false ∧
        th.warning ≤ now - latestProgressAt state ∧ state.warningEmitted = false := by
  unfold evaluate
  dsimp only
  split_ifs <;> simp_all

/-- A critical needs the warning of the same interval to have been emitted. -/
theorem evaluate_critical_iff (state : SilenceState) (now : Int) (th : Thresholds) :
    (evaluate state now th).action = .critical ↔
      state.waits.terminal = false ∧ state.waits.paused = false ∧
        th.critical ≤ now - latestProgressAt state ∧
        state.warningEmitted = true ∧ state.criticalEmitted = false := by
  have hordered := th.ordered
  unfold evaluate
  dsimp only
  split_ifs <;> simp_all
  intro hcritical
  omega

@[simp] theorem evaluate_warningEmitted (state : SilenceState) (now : Int) (th : Thresholds) :
    (evaluate state now th).state.warningEmitted =
      (state.warningEmitted || decide ((evaluate state now th).action = .warning)) := by
  unfold evaluate
  dsimp only
  split_ifs <;> simp_all

@[simp] theorem evaluate_criticalEmitted (state : SilenceState) (now : Int) (th : Thresholds) :
    (evaluate state now th).state.criticalEmitted =
      (state.criticalEmitted || decide ((evaluate state now th).action = .critical)) := by
  unfold evaluate
  dsimp only
  split_ifs <;> simp_all

/-- Crossing both thresholds at once still reports the warning first. -/
example :
    (evaluate (initialState 0) 900 ⟨300, 600, by decide, by decide⟩).action = .warning := by
  decide

end CodexMustWork
