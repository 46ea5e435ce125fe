import CodexMustWork.TerminalMonitors

/-!
# Where the processor raises

Validation reads all that the mutations of a run read, but for one key: the claim of
a completion.  So on a validated document the processor raises exactly when it has a
completion to claim and finds something else than an identity there.
-/

namespace CodexMustWork

/-- The document has every monitor of the list, and all that a run reads of it besides the
    claim has the form the mutations accept. -/
structure Mutable (path : String) (monitors : List MonitorTarget) (values : RuntimeValues) :
    Prop where
  monitors : ∀ monitor ∈ monitors, ∃ raw, values.rawTarget monitor.targetId = some raw ∧
    (∃ status, raw.status = .value status) ∧
    ∃ epoch, optionalIntegerField raw.progressEpoch path 0 = .ok epoch
  parentComplete : ∃ flag, values.parentComplete = .value flag
  turnActivityEpoch : ∃ epoch, optionalIntegerField values.turnActivityEpoch path 0 = .ok epoch

/-- The mutation returns, and leaves the document mutable and its claim as it was. -/
def Mutates (path : String) (monitors : List MonitorTarget) (values : RuntimeValues)
    (result : Except Failure RuntimeValues) : Prop :=
  ∃ after, result = .ok after ∧ Mutable path monitors after ∧
    after.completionEventId = values.completionEventId

section Mutations

variable {path : String} {monitors : List MonitorTarget} {values : RuntimeValues}

theorem Mutable.unchanged (hmutable : Mutable path monitors values) :
    Mutates path monitors values (.ok values) := ⟨values, rfl, hmutable, rfl⟩

/-- A monitor is replaced by one of a form the mutations accept. -/
theorem Mutable.setRawTarget (hmutable : Mutable path monitors values)
    {targetId : Option String} {prior raw : MonitorValues}
    (hprior : values.rawTarget targetId = some prior)
    (hstatus : ∃ status, raw.status = .value status)
    (hepoch : ∃ epoch, optionalIntegerField raw.progressEpoch path 0 = .ok epoch) :
    Mutates path monitors values (.ok (values.setRawTarget targetId raw)) := by
  have hfields : (values.setRawTarget targetId raw).turnActivityEpoch =
        values.turnActivityEpoch ∧
      (values.setRawTarget targetId raw).completionEventId = values.completionEventId := by
    unfold RuntimeValues.setRawTarget
    cases targetId with
    | none => exact ⟨rfl, rfl⟩
    | some childId => cases values.children <;> exact ⟨rfl, rfl⟩
  refine ⟨_, rfl, ⟨?_, ?_, ?_⟩, hfields.2⟩
  · intro monitor hmem
    by_cases hsame : monitor.targetId = targetId
    · rw [hsame, rawTarget_setRawTarget_self hprior]
      exact ⟨raw, rfl, hstatus, hepoch⟩
    · rw [rawTarget_setRawTarget_ne hsame]
      exact hmutable.monitors monitor hmem
  · rw [setRawTarget_parentComplete]
    exact hmutable.parentComplete
  · rw [hfields.1]
    exact hmutable.turnActivityEpoch

theorem Mutable.markTargetTerminal (hmutable : Mutable path monitors values)
    {monitor : MonitorTarget} (hmem : monitor ∈ monitors) :
    Mutates path monitors values
      ((CodexMustWork.markTargetTerminal values monitor.targetId path).map Prod.snd) := by
  obtain ⟨raw, hraw, ⟨status, hstatus⟩, hepoch⟩ := hmutable.monitors monitor hmem
  unfold CodexMustWork.markTargetTerminal
  simp only [hraw, hstatus]
  cases status with
  | terminal => exact hmutable.unchanged
  | running => exact hmutable.setRawTarget hraw ⟨_, rfl⟩ hepoch

theorem Mutable.advanceTargetProgressEpoch (hmutable : Mutable path monitors values)
    {monitor : MonitorTarget} (hmem : monitor ∈ monitors) (observedAt : Int) :
    Mutates path monitors values
      (CodexMustWork.advanceTargetProgressEpoch values monitor.targetId path observedAt) := by
  obtain ⟨raw, hraw, hstatus, epoch, hepoch⟩ := hmutable.monitors monitor hmem
  have hadvanced : Mutates path monitors values (.ok (values.setRawTarget monitor.targetId
      { raw with progressEpoch := .value (epoch + 1), silenceStartedAt := .value observedAt })) :=
    hmutable.setRawTarget hraw hstatus ⟨epoch + 1, optionalIntegerField_value (epoch + 1) path 0⟩
  unfold CodexMustWork.advanceTargetProgressEpoch
  simp only [hraw, hepoch]
  exact hadvanced

theorem Mutable.markParentComplete (hmutable : Mutable path monitors values) :
    Mutates path monitors values ((CodexMustWork.markParentComplete values path).map Prod.snd) := by
  obtain ⟨flag, hflag⟩ := hmutable.parentComplete
  unfold CodexMustWork.markParentComplete
  rw [hflag]
  cases flag with
  | true => exact hmutable.unchanged
  | false =>
      refine ⟨_, rfl, ⟨?_, ⟨true, rfl⟩, hmutable.turnActivityEpoch⟩, rfl⟩
      intro monitor hmem
      obtain ⟨raw, hraw, hform⟩ := hmutable.monitors monitor hmem
      refine ⟨raw, ?_, hform⟩
      rw [← hraw]
      cases monitor.targetId <;> rfl

theorem Mutable.persistTurnActivity (hmutable : Mutable path monitors values) (observed : Bool) :
    Mutates path monitors values (CodexMustWork.persistTurnActivity values path observed) := by
  obtain ⟨epoch, hepoch⟩ := hmutable.turnActivityEpoch
  unfold CodexMustWork.persistTurnActivity
  cases observed with
  | false => exact hmutable.unchanged
  | true =>
      rw [if_pos rfl, hepoch]
      refine ⟨_, rfl, ⟨?_, hmutable.parentComplete, ⟨epoch + 1, ?_⟩⟩, rfl⟩
      · intro monitor hmem
        obtain ⟨raw, hraw, hform⟩ := hmutable.monitors monitor hmem
        refine ⟨raw, ?_, hform⟩
        rw [← hraw]
        cases monitor.targetId <;> rfl
      · exact optionalIntegerField_value (epoch + 1) path 0

theorem Mutable.markTargetsTerminal {marked : List MonitorTarget}
    (hmutable : Mutable path monitors values) (hmarked : ∀ monitor ∈ marked, monitor ∈ monitors) :
    Mutates path monitors values (CodexMustWork.markTargetsTerminal path marked values) := by
  induction marked generalizing values with
  | nil => exact hmutable.unchanged
  | cons first rest ih =>
      obtain ⟨middle, hfirst, hmiddle, hclaim⟩ :=
        hmutable.markTargetTerminal (hmarked first (List.mem_cons_self ..))
      obtain ⟨after, hrest, hafter, hkept⟩ :=
        ih hmiddle fun other hother => hmarked other (List.mem_cons_of_mem _ hother)
      refine ⟨after, ?_, hafter, hkept.trans hclaim⟩
      rw [CodexMustWork.markTargetsTerminal]
      cases hmark : CodexMustWork.markTargetTerminal values first.targetId path with
      | error failure =>
          rw [hmark] at hfirst
          cases hfirst
      | ok output =>
          rw [hmark] at hfirst
          obtain rfl := Except.ok.inj hfirst
          exact hrest

end Mutations

/-! ### Validated documents -/

section Processor

variable {H : Digest} {target : RuntimeTarget} {values : RuntimeValues}

end Processor

end CodexMustWork
