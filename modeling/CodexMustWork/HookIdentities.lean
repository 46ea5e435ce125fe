import CodexMustWork.HookState
import Mathlib.Data.Prod.Lex

/-!
# Identities of monitored targets

A monitor is known by its generation and its progress epoch.  Along the events of a run
the pair of a target grows, and two monitors of a target that were created apart never
have the same one, unless an agent is started again while its monitor is running: the new
monitor then keeps the generation and begins at epoch zero.
-/

namespace CodexMustWork.HookState

/-! ### Readings -/

/-- What a monitor says of itself. -/
structure MonitorReading where
  terminal : Bool
  generation : ℕ
  openToolCount : ℕ
  progressEpoch : ℕ
  silenceId : Option PyValue

/-- A monitor as every reader of the document accepts it. -/
structure Reads (monitor : PyDict) (reading : MonitorReading) : Prop where
  status : monitor.find "status" =
    some (.str (pyText (if reading.terminal then "terminal" else "running")))
  generation : monitor.find "generation" = some (.int reading.generation)
  positive : 0 < reading.generation
  openToolCount : monitor.find "open_tool_count" = some (.int reading.openToolCount)
  progressEpoch : (monitor.find "progress_epoch").getD (.int 0) = .int reading.progressEpoch
  silenceId : monitor.find "silence_id" = reading.silenceId

theorem Reads.unique {monitor : PyDict} {reading other : MonitorReading}
    (hreads : Reads monitor reading) (hother : Reads monitor other) : reading = other := by
  obtain ⟨terminal, generation, openToolCount, progressEpoch, silenceId⟩ := reading
  obtain ⟨terminal', generation', openToolCount', progressEpoch', silenceId'⟩ := other
  have hstatus := hreads.status.symm.trans hother.status
  have hgeneration := hreads.generation.symm.trans hother.generation
  have hcount := hreads.openToolCount.symm.trans hother.openToolCount
  have hepoch := hreads.progressEpoch.symm.trans hother.progressEpoch
  have hidentity := hreads.silenceId.symm.trans hother.silenceId
  simp only [Option.some.injEq, PyValue.int.injEq, Int.natCast_inj, PyValue.str.injEq,
    pyText_inj] at hstatus hgeneration hcount hepoch hidentity
  have hterminal : terminal = terminal' := by
    cases terminal <;> cases terminal' <;> simp_all
  rw [hterminal, hgeneration, hcount, hepoch, hidentity]

/-- The pair that notifications and restarts are told apart by. -/
def MonitorReading.pair (reading : MonitorReading) : ℕ ×ₗ ℕ :=
  toLex (reading.generation, reading.progressEpoch)

/-- A later monitor of a target: of a later generation, or the same one further on. -/
def MonitorReading.Later (reading later : MonitorReading) : Prop :=
  reading.generation < later.generation ∨
    later.generation = reading.generation ∧ later.silenceId = reading.silenceId ∧
      reading.progressEpoch ≤ later.progressEpoch

theorem MonitorReading.Later.refl (reading : MonitorReading) : reading.Later reading :=
  Or.inr ⟨rfl, rfl, Nat.le_refl _⟩

theorem MonitorReading.Later.trans {first second third : MonitorReading}
    (hfirst : first.Later second) (hsecond : second.Later third) : first.Later third := by
  rcases hfirst with hless | ⟨hgeneration, hidentity, hepoch⟩
  · rcases hsecond with hless' | ⟨hgeneration', -, -⟩
    · exact Or.inl (hless.trans hless')
    · exact Or.inl (hgeneration' ▸ hless)
  · rcases hsecond with hless' | ⟨hgeneration', hidentity', hepoch'⟩
    · exact Or.inl (hgeneration ▸ hless')
    · exact Or.inr ⟨hgeneration'.trans hgeneration, hidentity'.trans hidentity,
        hepoch.trans hepoch'⟩

/-- Later monitors have no smaller pair, and the same pair only as the same monitor. -/
theorem MonitorReading.Later.pair_le {reading later : MonitorReading}
    (hlater : reading.Later later) : reading.pair ≤ later.pair ∧
      (reading.pair = later.pair → reading.silenceId = later.silenceId) := by
  rcases hlater with hless | ⟨hgeneration, hidentity, hepoch⟩
  · refine ⟨Prod.Lex.toLex_le_toLex.mpr (Or.inl hless), ?_⟩
    intro hpair
    have hsame : reading.generation = later.generation := congrArg (fun p => (ofLex p).1) hpair
    omega
  · refine ⟨Prod.Lex.toLex_le_toLex.mpr (Or.inr ⟨hgeneration.symm, hepoch⟩), ?_⟩
    intro _
    exact hidentity.symm

/-! ### Working states -/

/-- A target has a monitor that reads so. -/
def Working.Holds (working : Working) (target : Option PyText) (reading : MonitorReading) :
    Prop :=
  ∃ monitor, working.stored target = some (.dict monitor) ∧ Reads monitor reading

/-- Every target has no monitor or one that reads. -/
def Working.Valid (working : Working) : Prop :=
  ∀ target, working.stored target = none ∨ working.stored target = some .none ∨
    ∃ reading, working.Holds target reading

/-- What one function leaves of a working state. -/
structure Keeps (before after : Working) : Prop where
  valid : after.Valid
  later : ∀ target reading, before.Holds target reading →
    ∃ reading', after.Holds target reading' ∧ reading.Later reading'
  epoch : after.values.find "turn_activity_epoch" = before.values.find "turn_activity_epoch"

theorem Keeps.refl {working : Working} (hvalid : working.Valid) : Keeps working working :=
  ⟨hvalid, fun _ reading hholds => ⟨reading, hholds, .refl reading⟩, rfl⟩

theorem Keeps.trans {first second third : Working} (hfirst : Keeps first second)
    (hsecond : Keeps second third) : Keeps first third := by
  refine ⟨hsecond.valid, ?_, hsecond.epoch.trans hfirst.epoch⟩
  intro target reading hholds
  obtain ⟨middle, hmiddle, hlater⟩ := hfirst.later target reading hholds
  obtain ⟨last, hlast, hlater'⟩ := hsecond.later target middle hmiddle
  exact ⟨last, hlast, hlater.trans hlater'⟩

variable {working : Working} {path : String}

theorem stored_save (working : Working) (target other : Option PyText) (monitor : PyDict) :
    (working.save target monitor).stored other =
      if other = target then some (.dict monitor) else working.stored other := by
  cases target with
  | none =>
    cases other with
    | none => simp [Working.save, Working.stored]
    | some child => simp [Working.save, Working.stored]
  | some name =>
    cases other with
    | none => simp [Working.save, Working.stored]
    | some child => simp [Working.save, Working.stored, PyDict.get_set]

/-- A target gets a monitor that is later than the one it had. -/
theorem save_keeps (hvalid : working.Valid) {target : Option PyText} {monitor : PyDict}
    {reading : MonitorReading} (hreads : Reads monitor reading)
    (hlater : ∀ previous, working.Holds target previous → previous.Later reading) :
    Keeps working (working.save target monitor) := by
  have hsaved : (working.save target monitor).Holds target reading :=
    ⟨monitor, by rw [stored_save, if_pos rfl], hreads⟩
  have hother : ∀ other, other ≠ target →
      (working.save target monitor).stored other = working.stored other := fun other hne => by
    rw [stored_save, if_neg hne]
  refine ⟨?_, ?_, ?_⟩
  · intro other
    by_cases hsame : other = target
    · subst hsame
      exact Or.inr (Or.inr ⟨reading, hsaved⟩)
    · rw [hother other hsame]
      rcases hvalid other with hnone | hnull | ⟨found, hfound⟩
      · exact Or.inl hnone
      · exact Or.inr (Or.inl hnull)
      · refine Or.inr (Or.inr ⟨found, ?_⟩)
        unfold Working.Holds
        rwa [hother other hsame]
  · intro other found hfound
    by_cases hsame : other = target
    · subst hsame
      exact ⟨reading, hsaved, hlater found hfound⟩
    · refine ⟨found, ?_, .refl found⟩
      unfold Working.Holds
      rwa [hother other hsame]
  · cases target with
    | none => exact PyDict.find_put_of_ne _ (by decide) _
    | some child => rfl

/-- A member of the document that is no monitor and no counter is set. -/
theorem put_keeps (hvalid : working.Valid) {key : String} (hparent : "parent" ≠ key)
    (hepoch : "turn_activity_epoch" ≠ key) (value : PyValue) :
    Keeps working { working with values := working.values.put key value } := by
  have hstored : ∀ target, Working.stored { working with values := working.values.put key value }
      target = working.stored target := by
    intro target
    cases target with
    | none => exact PyDict.find_put_of_ne _ hparent _
    | some child => rfl
  refine ⟨?_, ?_, PyDict.find_put_of_ne _ hepoch _⟩
  · intro target
    unfold Working.Holds
    rw [hstored target]
    exact hvalid target
  · intro target reading hholds
    refine ⟨reading, ?_, .refl reading⟩
    unfold Working.Holds
    rwa [hstored target]

theorem monitorOf_eq (hvalid : working.Valid) (target : Option PyText) :
    monitorOf path working target = .ok none ∧ (∀ reading, ¬ working.Holds target reading) ∨
      ∃ monitor reading, monitorOf path working target = .ok (some monitor) ∧
        Reads monitor reading ∧ ∀ other, working.Holds target other → other = reading := by
  unfold monitorOf
  rcases hvalid target with hnone | hnull | ⟨reading, monitor, hstored, hreads⟩
  · left
    rw [hnone]
    refine ⟨rfl, ?_⟩
    rintro reading ⟨monitor, hmonitor, -⟩
    rw [hnone] at hmonitor
    cases hmonitor
  · left
    rw [hnull]
    refine ⟨rfl, ?_⟩
    rintro reading ⟨monitor, hmonitor, -⟩
    rw [hnull] at hmonitor
    cases hmonitor
  · right
    rw [hstored]
    refine ⟨monitor, reading, rfl, hreads, ?_⟩
    rintro other ⟨found, hfound, hother⟩
    rw [hstored] at hfound
    cases hfound
    exact hother.unique hreads

/-- The function returns and keeps the working state. -/
def Succeeds (working : Working) (outcome : Except Failure Working) : Prop :=
  ∃ after, outcome = .ok after ∧ Keeps working after

/-- A change of a monitor that leaves it, further on. -/
def Advances (change : PyDict → Except Failure PyDict) : Prop :=
  ∀ monitor reading, Reads monitor reading → ∃ monitor' reading',
    change monitor = .ok monitor' ∧ Reads monitor' reading' ∧ reading.Later reading'

theorem changeMonitor_succeeds (hvalid : working.Valid) {change : PyDict → Except Failure PyDict}
    (hadvances : Advances change) (target : Option PyText) :
    Succeeds working (changeMonitor path change working target) := by
  unfold changeMonitor
  rcases @monitorOf_eq working path hvalid target with
    ⟨hnone, -⟩ | ⟨monitor, reading, hsome, hreads, honly⟩
  · rw [hnone]
    exact ⟨working, rfl, .refl hvalid⟩
  · obtain ⟨monitor', reading', hchange, hreads', hlater⟩ := hadvances monitor reading hreads
    rw [hsome]
    refine ⟨working.save target monitor', ?_, save_keeps hvalid hreads' ?_⟩
    · simp only [bind, Except.bind, hchange]
      rfl
    · intro previous hprevious
      rw [honly previous hprevious]
      exact hlater

theorem foldlM_succeeds {change : PyDict → Except Failure PyDict} (hadvances : Advances change)
    (targets : List (Option PyText)) (hvalid : working.Valid) :
    Succeeds working (targets.foldlM (changeMonitor path change) working) := by
  induction targets generalizing working with
  | nil => exact ⟨working, rfl, .refl hvalid⟩
  | cons target rest ih =>
    obtain ⟨middle, hmiddle, hkeeps⟩ :=
      @changeMonitor_succeeds working path hvalid change hadvances target
    obtain ⟨last, hlast, hkeeps'⟩ := ih hkeeps.valid
    refine ⟨last, ?_, hkeeps.trans hkeeps'⟩
    rw [List.foldlM_cons, hmiddle]
    exact hlast

/-! ### Changes of a monitor -/

/-- The members a reading depends on. -/
def readKeys : List String :=
  ["status", "generation", "open_tool_count", "progress_epoch", "silence_id"]

theorem Reads.put_other {monitor : PyDict} {reading : MonitorReading}
    (hreads : Reads monitor reading) {key : String} (hkey : key ∉ readKeys) (value : PyValue) :
    Reads (monitor.put key value) reading := by
  have hne : ∀ other ∈ readKeys, (monitor.put key value).find other = monitor.find other := by
    intro other hother
    refine PyDict.find_put_of_ne _ ?_ _
    rintro rfl
    exact hkey hother
  refine ⟨?_, ?_, hreads.positive, ?_, ?_, ?_⟩
  · rw [hne "status" (by decide)]
    exact hreads.status
  · rw [hne "generation" (by decide)]
    exact hreads.generation
  · rw [hne "open_tool_count" (by decide)]
    exact hreads.openToolCount
  · rw [hne "progress_epoch" (by decide)]
    exact hreads.progressEpoch
  · rw [hne "silence_id" (by decide)]
    exact hreads.silenceId

theorem Reads.put_count {monitor : PyDict} {reading : MonitorReading}
    (hreads : Reads monitor reading) (count : ℕ) :
    Reads (monitor.put "open_tool_count" (.int count)) { reading with openToolCount := count } := by
  have hne : ∀ other, other ≠ "open_tool_count" →
      (monitor.put "open_tool_count" (.int count)).find other = monitor.find other :=
    fun other hother => PyDict.find_put_of_ne _ hother _
  refine ⟨?_, ?_, hreads.positive, PyDict.find_put_same _ _ _, ?_, ?_⟩
  · rw [hne "status" (by decide)]
    exact hreads.status
  · rw [hne "generation" (by decide)]
    exact hreads.generation
  · rw [hne "progress_epoch" (by decide)]
    exact hreads.progressEpoch
  · rw [hne "silence_id" (by decide)]
    exact hreads.silenceId

theorem Reads.put_terminal {monitor : PyDict} {reading : MonitorReading}
    (hreads : Reads monitor reading) :
    Reads (monitor.put "status" (.str (pyText "terminal"))) { reading with terminal := true } := by
  have hne : ∀ other, other ≠ "status" →
      (monitor.put "status" (.str (pyText "terminal"))).find other = monitor.find other :=
    fun other hother => PyDict.find_put_of_ne _ hother _
  refine ⟨PyDict.find_put_same _ _ _, ?_, hreads.positive, ?_, ?_, ?_⟩
  · rw [hne "generation" (by decide)]
    exact hreads.generation
  · rw [hne "open_tool_count" (by decide)]
    exact hreads.openToolCount
  · rw [hne "progress_epoch" (by decide)]
    exact hreads.progressEpoch
  · rw [hne "silence_id" (by decide)]
    exact hreads.silenceId

theorem counterOf_eq {values : PyDict} {key : String} {number : ℕ}
    (hcounter : (values.find key).getD (.int 0) = .int number) :
    counterOf path values key = .ok number := by
  unfold counterOf
  rw [hcounter]
  exact if_neg (Int.natCast_nonneg number).not_gt

/-- Progress moves the epoch of a monitor by one. -/
theorem Reads.advance {monitor : PyDict} {reading : MonitorReading}
    (hreads : Reads monitor reading) (path : String) : ∃ monitor',
      advanceMonitorProgressEpoch path monitor = .ok monitor' ∧
        Reads monitor' { reading with progressEpoch := reading.progressEpoch + 1 } := by
  refine ⟨monitor.put "progress_epoch" (.int (reading.progressEpoch + 1)), ?_, ?_⟩
  · unfold advanceMonitorProgressEpoch
    rw [counterOf_eq hreads.progressEpoch]
    rfl
  · have hne : ∀ other, other ≠ "progress_epoch" →
        (monitor.put "progress_epoch" (.int (reading.progressEpoch + 1))).find other =
          monitor.find other := fun other hother => PyDict.find_put_of_ne _ hother _
    refine ⟨?_, ?_, hreads.positive, ?_, ?_, ?_⟩
    · rw [hne "status" (by decide)]
      exact hreads.status
    · rw [hne "generation" (by decide)]
      exact hreads.generation
    · rw [hne "open_tool_count" (by decide)]
      exact hreads.openToolCount
    · rw [PyDict.find_put_same]
      rfl
    · rw [hne "silence_id" (by decide)]
      exact hreads.silenceId

theorem waitsCleared_advances : Advances waitsCleared := by
  intro monitor reading hreads
  refine ⟨_, reading, rfl, ?_, .refl reading⟩
  exact (hreads.put_other (by decide) _).put_other (by decide) _

theorem terminal_advances :
    Advances fun monitor => .ok (monitor.put "status" (.str (pyText "terminal"))) := by
  intro monitor reading hreads
  exact ⟨_, _, rfl, hreads.put_terminal, Or.inr ⟨rfl, rfl, Nat.le_refl _⟩⟩

theorem approvalWait_advances :
    Advances fun monitor => .ok (monitor.put "waiting_for_approval" (.bool true)) := by
  intro monitor reading hreads
  exact ⟨_, reading, rfl, hreads.put_other (by decide) _, .refl reading⟩

theorem toolStarted_succeeds (hvalid : working.Valid) (target : Option PyText) :
    Succeeds working (toolStarted path working target) := by
  refine changeMonitor_succeeds hvalid ?_ target
  intro monitor reading hreads
  have hcounted := (hreads.put_count (reading.openToolCount + 1)).put_other
    (by decide : "waiting_for_approval" ∉ readKeys) (.bool false)
  obtain ⟨monitor', hadvanced, hreads'⟩ := hcounted.advance path
  refine ⟨monitor', _, ?_, hreads', Or.inr ⟨rfl, rfl, Nat.le_succ _⟩⟩
  simp only [hreads.openToolCount]
  exact hadvanced

theorem toolFinished_succeeds (hvalid : working.Valid) (now : PyText) (target : Option PyText) :
    Succeeds working (toolFinished path now working target) := by
  refine changeMonitor_succeeds hvalid ?_ target
  intro monitor reading hreads
  have hcounted := ((hreads.put_count (reading.openToolCount - 1)).put_other
    (by decide : "last_tool_result_at" ∉ readKeys) (.str now)).put_other
    (by decide : "waiting_for_approval" ∉ readKeys) (.bool false)
  obtain ⟨monitor', hadvanced, hreads'⟩ := hcounted.advance path
  refine ⟨monitor', _, ?_, hreads', Or.inr ⟨rfl, rfl, Nat.le_succ _⟩⟩
  have hcount : max 0 ((reading.openToolCount : ℤ) - 1) = (reading.openToolCount - 1 : ℕ) := by
    omega
  simp only [hreads.openToolCount, hcount]
  exact hadvanced

/-! ### Events -/

theorem newMonitor_reads (now identity : PyText) {generation : ℕ} (hpositive : 0 < generation) :
    Reads (newMonitor now identity generation)
      ⟨false, generation, 0, 0, some (.str identity)⟩ := by
  refine ⟨?_, ?_, hpositive, ?_, ?_, ?_⟩
  all_goals rfl

theorem nextGeneration_eq {monitor : PyDict} {reading : MonitorReading}
    (hreads : Reads monitor reading) :
    nextGeneration (some monitor) =
        ((if reading.terminal then reading.generation + 1 else reading.generation : ℕ) : ℤ) ∧
      nextParentGeneration (some monitor) = ((reading.generation + 1 : ℕ) : ℤ) := by
  have hgeneration : generationOf monitor = some (reading.generation : ℤ) := by
    unfold generationOf
    rw [hreads.generation]
    exact if_pos (Int.natCast_pos.mpr hreads.positive)
  have hterminal : isText (monitor.find "status") (pyText "terminal") = reading.terminal := by
    rw [hreads.status]
    cases reading.terminal <;> rfl
  constructor
  · simp only [nextGeneration, hgeneration, hterminal, Option.getD_some]
    cases reading.terminal <;> rfl
  · simp only [nextParentGeneration, hgeneration]
    rfl

/-- A monitor that is created takes the place of one of an earlier generation, or of none. -/
theorem create_keeps (hvalid : working.Valid) {target : Option PyText} (now identity : PyText)
    {generation : ℕ} (hpositive : 0 < generation)
    (hnewer : ∀ previous, working.Holds target previous → previous.generation < generation) :
    Keeps working (working.save target (newMonitor now identity generation)) :=
  save_keeps hvalid (newMonitor_reads now identity hpositive) fun previous hprevious =>
    Or.inl (hnewer previous hprevious)

theorem startParent_succeeds (hvalid : working.Valid) (now identity turnId : PyText) :
    Succeeds working (startParent path now identity turnId working) := by
  have hsettled : ∀ started : Working, Keeps working started →
      Succeeds working (.ok { started with
        values := (started.values.put "parent_turn_id" (.str turnId)).put "parent_complete"
          (.bool false) }) := by
    intro started hkeeps
    have hturn := hkeeps.trans
      (put_keeps hkeeps.valid (by decide : "parent" ≠ "parent_turn_id") (by decide) (.str turnId))
    exact ⟨_, rfl, hturn.trans
      (put_keeps hturn.valid (by decide : "parent" ≠ "parent_complete") (by decide) (.bool false))⟩
  unfold startParent
  rcases @monitorOf_eq working path hvalid none with
    ⟨hnone, hempty⟩ | ⟨monitor, reading, hsome, hreads, honly⟩
  · rw [hnone]
    simp only [bind, Except.bind, Option.isNone_none, Bool.or_true, if_true]
    refine hsettled _ (create_keeps hvalid now identity Nat.one_pos ?_)
    intro previous hprevious
    exact absurd hprevious (hempty previous)
  · rw [hsome]
    simp only [bind, Except.bind, Option.isNone_some, Bool.or_false]
    split
    · refine hsettled _ ?_
      rw [(nextGeneration_eq hreads).2]
      refine create_keeps hvalid now identity (Nat.succ_pos _) ?_
      intro previous hprevious
      rw [honly previous hprevious]
      exact Nat.lt_succ_self _
    · exact hsettled _ (.refl hvalid)

theorem anyNonterminal_eq (hvalid : working.Valid) (targets : List (Option PyText)) :
    ∃ found, anyNonterminal path working targets = .ok found := by
  induction targets with
  | nil => exact ⟨false, rfl⟩
  | cons target rest ih =>
    obtain ⟨found, hfound⟩ := ih
    unfold anyNonterminal
    rcases @monitorOf_eq working path hvalid target with ⟨hnone, -⟩ | ⟨monitor, -, hsome, -⟩
    · rw [hnone]
      exact ⟨found, hfound⟩
    · rw [hsome]
      simp only [bind, Except.bind]
      split
      · exact ⟨found, hfound⟩
      · exact ⟨true, rfl⟩

/-- The function returns, with whatever flag, and keeps the working state. -/
def SucceedsWith (working : Working) (outcome : Except Failure (Working × Bool)) : Prop :=
  ∃ after flag, outcome = .ok (after, flag) ∧ Keeps working after

theorem Succeeds.withFlag {outcome : Except Failure Working} (hsucceeds : Succeeds working outcome)
    (flag : Bool) : SucceedsWith working (do return (← outcome, flag)) := by
  obtain ⟨after, rfl, hkeeps⟩ := hsucceeds
  exact ⟨after, flag, rfl, hkeeps⟩

/-- Starting a child keeps the working state when its monitor is not running. -/
theorem startChild_succeeds (hvalid : working.Valid) (now identity : PyText)
    (agentId : Option PyText)
    (hstopped : ∀ child, agentId = some child → ∀ reading, working.Holds (some child) reading →
      reading.terminal = true) :
    SucceedsWith working (startChild path now identity working agentId) := by
  cases agentId with
  | none => exact ⟨working, false, rfl, .refl hvalid⟩
  | some child =>
    have hsettled : ∀ generation : ℕ, 0 < generation →
        (∀ previous, working.Holds (some child) previous → previous.generation < generation) →
        Keeps working ⟨working.values.put "parent_complete" (.bool false),
          working.children.set child (.dict (newMonitor now identity generation))⟩ := by
      intro generation hpositive hnewer
      have hcreated := create_keeps hvalid now identity hpositive hnewer
      exact hcreated.trans
        (put_keeps hcreated.valid (by decide : "parent" ≠ "parent_complete") (by decide) _)
    obtain ⟨found, hfound⟩ := @anyNonterminal_eq working path hvalid working.targets
    unfold startChild
    simp only [bind, Except.bind, hfound]
    rcases @monitorOf_eq working path hvalid (some child) with
      ⟨hnone, hempty⟩ | ⟨monitor, reading, hsome, hreads, honly⟩
    · rw [hnone]
      refine ⟨_, !found, rfl, hsettled 1 Nat.one_pos ?_⟩
      intro previous hprevious
      exact absurd hprevious (hempty previous)
    · rw [hsome]
      refine ⟨_, !found, rfl, ?_⟩
      rw [(nextGeneration_eq hreads).1]
      refine hsettled _ ?_ ?_
      · split
        · exact Nat.succ_pos _
        · exact hreads.positive
      · intro previous hprevious
        rw [← honly previous hprevious, hstopped child rfl previous hprevious, if_pos rfl]
        exact Nat.lt_succ_self _

theorem stopParent_succeeds (hvalid : working.Valid) :
    SucceedsWith working (stopParent path working) := by
  unfold stopParent
  split
  · obtain ⟨stopped, hstopped, hkeeps⟩ :=
      @foldlM_succeeds working path _ terminal_advances working.targets hvalid
    unfold markMonitorTerminal
    rw [hstopped]
    refine ⟨_, false, rfl, ?_⟩
    have hhandoff := hkeeps.trans
      (put_keeps hkeeps.valid (by decide : "parent" ≠ "handoff_requested") (by decide)
        (.bool (!isTrue (stopped.values.find "shutdown_requested"))))
    exact hhandoff.trans
      (put_keeps hhandoff.valid (by decide : "parent" ≠ "parent_complete") (by decide) _)
  · split
    · exact ⟨working, false, rfl, .refl hvalid⟩
    · obtain ⟨stopped, hstopped, hkeeps⟩ :=
        @changeMonitor_succeeds working path hvalid _ terminal_advances none
      unfold markMonitorTerminal
      rw [hstopped]
      exact ⟨_, true, rfl, hkeeps.trans
        (put_keeps hkeeps.valid (by decide : "parent" ≠ "parent_complete") (by decide) _)⟩

/-- **Events.**  Each event succeeds and keeps the working state, unless it starts an agent
    whose monitor is running. -/
theorem applyEvent_succeeds (hvalid : working.Valid) (call : HookCall)
    (hstopped : call.payload.event = .subagentStart → ∀ child,
      call.payload.agentId = some child → ∀ reading, working.Holds (some child) reading →
        reading.terminal = true) :
    SucceedsWith working (applyEvent call working) := by
  unfold applyEvent
  cases hevent : call.payload.event with
  | sessionStart => exact ⟨working, false, rfl, .refl hvalid⟩
  | userPromptSubmit =>
    cases hturn : call.payload.turnId with
    | none => exact ⟨working, false, rfl, .refl hvalid⟩
    | some turnId =>
      obtain ⟨started, hstarted, hkeeps⟩ :=
        @startParent_succeeds working call.path hvalid call.now call.identity turnId
      obtain ⟨cleared, hcleared, hkeeps'⟩ :=
        @foldlM_succeeds started call.path _ waitsCleared_advances started.targets hkeeps.valid
      have hprevious : ∃ previous, monitorOf call.path working none = .ok previous := by
        rcases @monitorOf_eq working call.path hvalid none with ⟨hnone, -⟩ | ⟨monitor, -, hsome, -⟩
        · exact ⟨none, hnone⟩
        · exact ⟨some monitor, hsome⟩
      obtain ⟨previous, hprevious⟩ := hprevious
      refine ⟨cleared, !isText (working.values.find "parent_turn_id") turnId || previous.isNone, ?_,
        hkeeps.trans hkeeps'⟩
      simp only [bind, Except.bind, hprevious, hstarted, clearWaits, hcleared]
      rfl
  | subagentStart =>
    exact startChild_succeeds hvalid call.now call.identity _ (hstopped hevent)
  | subagentStop =>
    exact (changeMonitor_succeeds hvalid terminal_advances call.payload.agentId).withFlag false
  | preToolUse => exact (toolStarted_succeeds hvalid call.payload.agentId).withFlag false
  | postToolUse =>
    exact (toolFinished_succeeds hvalid call.now call.payload.agentId).withFlag false
  | permissionRequest =>
    exact (changeMonitor_succeeds hvalid approvalWait_advances call.payload.agentId).withFlag false
  | stop => exact stopParent_succeeds hvalid

/-! ### Documents -/

/-- The working state an event begins with. -/
def workingOf (values : PyDict) : Working :=
  ⟨values, match values.find "children" with
    | some (.dict children) => children
    | _ => []⟩

/-- The counter of a document reads so. -/
def EpochReads (values : PyDict) (epoch : ℕ) : Prop :=
  (values.find "turn_activity_epoch").getD (.int 0) = .int epoch

/-- A document as its readers accept it: its children are a dictionary, each target has no
    monitor or one that reads, and its counter does. -/
structure ReadableDocument (values : PyDict) : Prop where
  children : ∃ children, values.find "children" = some (.dict children)
  monitors : (workingOf values).Valid
  epoch : ∃ epoch, EpochReads values epoch

/-- The parent, the children, the turn of the parent or its completion changed. -/
def Changes (before after : PyDict) : Prop :=
  ∃ key ∈ ["parent", "children", "parent_turn_id", "parent_complete"],
    memberEq (after.find key) (before.find key) = false

instance (before after : PyDict) : Decidable (Changes before after) :=
  inferInstanceAs (Decidable (∃ key ∈ _, _))

/-- What one event leaves of a document. -/
structure DocumentKeeps (before after : PyDict) : Prop where
  readable : ReadableDocument after
  later : ∀ target reading, (workingOf before).Holds target reading →
    ∃ reading', (workingOf after).Holds target reading' ∧ reading.Later reading'
  epoch : ∀ epoch, EpochReads before epoch →
    EpochReads after (if Changes before after then epoch + 1 else epoch)

/-- The event starts no agent whose monitor is running. -/
def StartsNoRunningAgent (values : PyDict) (call : HookCall) : Prop :=
  call.payload.event = .subagentStart → ∀ child, call.payload.agentId = some child →
    ∀ reading, (workingOf values).Holds (some child) reading → reading.terminal = true

/-- The document an event ends with, once its counter is settled. -/
theorem ended_stored (values children advanced : PyDict)
    (hadvanced : ∀ key, key ≠ "turn_activity_epoch" → advanced.find key = values.find key)
    (target : Option PyText) :
    (workingOf (advanced.put "children" (.dict children))).stored target =
      Working.stored ⟨values, children⟩ target := by
  cases target with
  | none =>
    calc (advanced.put "children" (.dict children)).find "parent"
        = advanced.find "parent" := PyDict.find_put_of_ne _ (by decide) _
      _ = values.find "parent" := hadvanced "parent" (by decide)
  | some child =>
    unfold workingOf Working.stored
    rw [PyDict.find_put_same]

theorem differs_iff {before children values children' advanced : PyDict}
    (hchildren : before.find "children" = some (.dict children))
    (hadvanced : ∀ key, key ≠ "turn_activity_epoch" → advanced.find key = values.find key) :
    differs before values children children' = true ↔
      Changes before (advanced.put "children" (.dict children')) := by
  have hkept : ∀ key, key ≠ "children" → key ≠ "turn_activity_epoch" →
      (advanced.put "children" (.dict children')).find key = values.find key := by
    intro key hchildren hepoch
    rw [PyDict.find_put_of_ne _ hchildren, hadvanced key hepoch]
  have hmember : memberEq ((advanced.put "children" (.dict children')).find "children")
      (before.find "children") = PyValue.eq (.dict children') (.dict children) := by
    rw [PyDict.find_put_same, hchildren]
    rfl
  unfold differs Changes
  simp only [List.mem_cons, List.not_mem_nil, or_false, exists_eq_or_imp, exists_eq_left, hmember,
    hkept "parent" (by decide) (by decide), hkept "parent_turn_id" (by decide) (by decide),
    hkept "parent_complete" (by decide) (by decide), Bool.not_eq_true', Bool.and_eq_false_iff]
  tauto

/-- The counter of a document is settled once the event is applied. -/
theorem settled_counter {values : PyDict} {epoch : ℕ} (hepoch : EpochReads values epoch)
    (differs : Bool) (path : String) : ∃ advanced : PyDict,
      (if differs then advanceTurnActivityEpoch path values else .ok values) = .ok advanced ∧
      (∀ key, key ≠ "turn_activity_epoch" → advanced.find key = values.find key) ∧
      EpochReads advanced (if differs then epoch + 1 else epoch) := by
  cases differs with
  | false => exact ⟨values, rfl, fun key _ => rfl, hepoch⟩
  | true =>
    refine ⟨values.put "turn_activity_epoch" (.int (epoch + 1)), ?_, ?_, ?_⟩
    · unfold advanceTurnActivityEpoch
      rw [counterOf_eq hepoch]
      rfl
    · intro key hkey
      exact PyDict.find_put_of_ne _ hkey _
    · unfold EpochReads
      rw [PyDict.find_put_same]
      rfl

/-- **One event.**  It succeeds, every target keeps its monitor or gets a later one, and the
    counter of the document counts the change. -/
theorem applyHookEvent_keeps {values : PyDict} (hreadable : ReadableDocument values)
    {call : HookCall} (hguard : StartsNoRunningAgent values call) :
    ∃ applied flag, applyHookEvent call values = .ok (applied, flag) ∧
      DocumentKeeps values applied := by
  obtain ⟨children, hchildren⟩ := hreadable.children
  have hworking : workingOf values = ⟨values, children⟩ := by
    unfold workingOf
    rw [hchildren]
  obtain ⟨after, flag, hafter, hkeeps⟩ := applyEvent_succeeds hreadable.monitors call hguard
  rw [hworking] at hafter hkeeps
  obtain ⟨start, hstart⟩ := hreadable.epoch
  have hcounter : EpochReads after.values start := by
    unfold EpochReads
    rw [hkeeps.epoch]
    exact hstart
  obtain ⟨advanced, hadvanced, hothers, hcounted⟩ := settled_counter hcounter
    (differs values after.values children after.children) call.path
  have hstored := ended_stored after.values after.children advanced hothers
  have hholds : ∀ target reading,
      (workingOf (advanced.put "children" (.dict after.children))).Holds target reading ↔
        after.Holds target reading := by
    intro target reading
    unfold Working.Holds
    rw [hstored target]
  have hcount : ∀ number, EpochReads advanced number →
      EpochReads (advanced.put "children" (.dict after.children)) number := by
    intro number hnumber
    unfold EpochReads
    rw [PyDict.find_put_of_ne _ (by decide)]
    exact hnumber
  refine ⟨advanced.put "children" (.dict after.children), flag, ?_, ⟨?_, ?_, ?_⟩, ?_, ?_⟩
  · unfold applyHookEvent
    simp only [bind, Except.bind, childrenOf, hchildren, hafter]
    cases hdiffers : differs values after.values children after.children with
    | false =>
      rw [hdiffers] at hadvanced
      cases hadvanced
      rfl
    | true =>
      rw [hdiffers, if_pos rfl] at hadvanced
      rw [if_pos rfl, hadvanced]
      rfl
  · exact ⟨after.children, PyDict.find_put_same _ _ _⟩
  · intro target
    rw [hstored target]
    rcases hkeeps.valid target with hnone | hnull | ⟨reading, hreading⟩
    · exact Or.inl hnone
    · exact Or.inr (Or.inl hnull)
    · exact Or.inr (Or.inr ⟨reading, (hholds target reading).mpr hreading⟩)
  · exact ⟨_, hcount _ hcounted⟩
  · intro target reading hreading
    rw [hworking] at hreading
    obtain ⟨reading', hreading', hlater⟩ := hkeeps.later target reading hreading
    exact ⟨reading', (hholds target reading').mpr hreading', hlater⟩
  · intro epoch hepoch
    have hsame : epoch = start := by
      unfold EpochReads at hepoch hstart
      rw [hstart] at hepoch
      cases hepoch
      rfl
    simp only [← differs_iff hchildren hothers, hsame]
    exact hcount _ hcounted

/-! ### Runs -/

/-- What the identities of a run promise: a target never loses its monitor, the pair of a
    target never goes down, one pair is one monitor, counts of open tools are no negative
    numbers, and the counter of the document counts the events that change it. -/
structure IdentitiesKept (values : PyDict) (calls : List HookCall) : Prop where
  pairs : ∀ past more, past ++ more <+: calls → ∀ target reading,
    (workingOf (hookMachine.after values past)).Holds target reading →
      ∃ reading', (workingOf (hookMachine.after values (past ++ more))).Holds target reading' ∧
        reading.pair ≤ reading'.pair ∧
        (reading.pair = reading'.pair → reading.silenceId = reading'.silenceId)
  openToolCounts : ∀ past, past <+: calls → ∀ target (monitor : PyDict),
    (workingOf (hookMachine.after values past)).stored target = some (.dict monitor) →
      ∃ count : ℕ, monitor.find "open_tool_count" = some (.int count)
  epochs : Along (fun past call => ∃ epoch,
    EpochReads (hookMachine.after values past) epoch ∧
      EpochReads (hookMachine.after values (past ++ [call]))
        (if Changes (hookMachine.after values past) (hookMachine.after values (past ++ [call]))
          then epoch + 1 else epoch)) calls

theorem hookStep_keeps {values : PyDict} (hreadable : ReadableDocument values) {call : HookCall}
    (hguard : StartsNoRunningAgent values call) :
    DocumentKeeps values (hookMachine.step values call).1 := by
  obtain ⟨applied, flag, happlied, hkeeps⟩ := applyHookEvent_keeps hreadable hguard
  simp only [hookMachine, happlied]
  exact hkeeps

theorem hookRun_readable {values : PyDict} {calls : List HookCall}
    (hreadable : ReadableDocument values)
    (hguard : hookMachine.Guarded StartsNoRunningAgent values calls) :
    ReadableDocument (hookMachine.after values calls) ∧
      ∀ target reading, (workingOf values).Holds target reading →
        ∃ reading', (workingOf (hookMachine.after values calls)).Holds target reading' ∧
          reading.Later reading' := by
  induction calls generalizing values with
  | nil => exact ⟨hreadable, fun _ reading hholds => ⟨reading, hholds, .refl reading⟩⟩
  | cons call rest ih =>
    obtain ⟨hcall, hrest⟩ := hguard
    have hstep := hookStep_keeps hreadable hcall
    obtain ⟨hlast, hlater⟩ := ih hstep.readable hrest
    refine ⟨hlast, ?_⟩
    intro target reading hholds
    obtain ⟨middle, hmiddle, hfirst⟩ := hstep.later target reading hholds
    obtain ⟨last, hheld, hsecond⟩ := hlater target middle hmiddle
    exact ⟨last, hheld, hfirst.trans hsecond⟩

theorem ReadableDocument.count {values : PyDict} (hreadable : ReadableDocument values)
    {target : Option PyText} {monitor : PyDict}
    (hstored : (workingOf values).stored target = some (.dict monitor)) :
    ∃ count : ℕ, monitor.find "open_tool_count" = some (.int count) := by
  rcases hreadable.monitors target with hnone | hnull | ⟨reading, found, hfound, hreads⟩
  · rw [hstored] at hnone
    cases hnone
  · rw [hstored] at hnull
    cases hnull
  · rw [hstored] at hfound
    cases hfound
    exact ⟨reading.openToolCount, hreads.openToolCount⟩

/-- **Identities.**  A run in which no agent is started while its monitor is running keeps
    the identities of every target. -/
theorem hookRun_keepsIdentities {values : PyDict} {calls : List HookCall}
    (hreadable : ReadableDocument values)
    (hguard : hookMachine.Guarded StartsNoRunningAgent values calls) :
    IdentitiesKept values calls := by
  refine ⟨?_, ?_, ?_⟩
  · intro past more hextends target reading hholds
    have hboth := hguard.of_prefix _ hextends
    rw [Machine.guarded_append] at hboth
    have hmiddle := (hookRun_readable hreadable hboth.1).1
    obtain ⟨reading', hholds', hlater⟩ :=
      (hookRun_readable hmiddle hboth.2).2 target reading hholds
    rw [Machine.after_append]
    exact ⟨reading', hholds', hlater.pair_le⟩
  · intro past hextends target monitor hstored
    exact (hookRun_readable hreadable (hguard.of_prefix _ hextends)).1.count hstored
  · intro past call hextends
    have hpast := hguard.of_prefix _ ((List.prefix_append past [call]).trans hextends)
    have hmiddle := (hookRun_readable hreadable hpast).1
    obtain ⟨epoch, hepoch⟩ := hmiddle.epoch
    have hstep := hookStep_keeps hmiddle (hguard.at_prefix _ hextends)
    rw [Machine.after_concat]
    exact ⟨epoch, hepoch, hstep.epoch epoch hepoch⟩

/-- One event of the agent `c1`, which brings an identity along. -/
def agentCall (event : HookEvent) (identity : String) : HookCall where
  payload := ⟨event, none, some (pyText "c1")⟩
  now := pyText "2026-01-01T00:00:00Z"
  identity := pyText identity
  path := "runtime.json"

/-- A document before its first event. -/
def freshDocument : PyDict := [(pyText "children", .dict [])]

theorem freshDocument_readable : ReadableDocument freshDocument := by
  refine ⟨⟨[], rfl⟩, ?_, 0, rfl⟩
  intro target
  cases target with
  | none => exact Or.inl rfl
  | some child => exact Or.inl rfl

theorem hookRun_keepsIdentities_restarted : IdentitiesKept freshDocument
    [agentCall .subagentStart "a", agentCall .preToolUse "b", agentCall .subagentStop "c",
      agentCall .subagentStart "d"] := by
  refine hookRun_keepsIdentities freshDocument_readable ⟨?_, ?_, ?_, ?_, trivial⟩
  · rintro - child hchild reading ⟨monitor, hstored, -⟩
    cases hchild
    cases hstored
  · rintro ⟨⟩
  · rintro ⟨⟩
  · rintro - child hchild reading ⟨monitor, hstored, hreads⟩
    cases hchild
    cases hstored
    have hstatus := hreads.status
    cases hterminal : reading.terminal with
    | true => rfl
    | false =>
      rw [hterminal] at hstatus
      have htexts : some (PyValue.str (pyText "terminal")) = some (.str (pyText "running")) := hstatus
      rw [Option.some.injEq, PyValue.str.injEq, pyText_inj] at htexts
      exact absurd htexts (by decide)

theorem startedTwice_sharesPair : ¬ IdentitiesKept freshDocument
    [agentCall .subagentStart "a", agentCall .preToolUse "b", agentCall .subagentStart "c"] := by
  intro hkept
  have hfirst : (workingOf (hookMachine.after freshDocument
      [agentCall .subagentStart "a", agentCall .preToolUse "b"])).Holds (some (pyText "c1"))
      ⟨false, 1, 1, 1, some (.str (pyText "a"))⟩ := by
    refine ⟨_, rfl, ?_, rfl, Nat.one_pos, rfl, rfl, rfl⟩
    rfl
  have hsecond : (workingOf (hookMachine.after freshDocument
      [agentCall .subagentStart "a", agentCall .preToolUse "b",
        agentCall .subagentStart "c"])).Holds (some (pyText "c1"))
      ⟨false, 1, 0, 0, some (.str (pyText "c"))⟩ := by
    refine ⟨_, rfl, ?_, rfl, Nat.one_pos, rfl, rfl, rfl⟩
    rfl
  obtain ⟨reading, ⟨monitor, hstored, hreads⟩, hpair, -⟩ := hkept.pairs
    [agentCall .subagentStart "a", agentCall .preToolUse "b"] [agentCall .subagentStart "c"]
    (List.prefix_refl _) _ _ hfirst
  obtain ⟨found, hfound, hreads'⟩ := hsecond
  have hsame : some (PyValue.dict found) = some (PyValue.dict monitor) := hfound.symm.trans hstored
  cases hsame
  rw [hreads.unique hreads'] at hpair
  exact absurd hpair (by decide)

end CodexMustWork.HookState
