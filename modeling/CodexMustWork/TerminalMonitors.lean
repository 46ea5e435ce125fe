import CodexMustWork.SessionFrame

/-!
# Terminal monitors of a document

What one locked run does to the statuses of a document, whatever the document
is: a monitor that is terminal stays terminal, none appears, and a run that
reports no activity leaves every monitor terminal.
-/

namespace CodexMustWork

/-! ### Replaced entries -/

section Replace

variable {α : Type} {β : α → Type} [DecidableEq α]

theorem dlookup_kreplace_self {key : α} (value : β key) {entries : List (Sigma β)}
    (hmem : (entries.dlookup key).isSome) :
    (entries.kreplace key value).dlookup key = some value := by
  induction entries with
  | nil => simp at hmem
  | cons entry rest ih =>
      obtain ⟨other, held⟩ := entry
      by_cases hkey : key = other
      · subst hkey
        simp [List.kreplace]
      · rw [List.dlookup_cons_ne _ _ hkey] at hmem
        have hrest := ih hmem
        simp only [List.kreplace] at hrest ⊢
        rw [List.lookmap_cons_none _ _ (by simp [hkey]), List.dlookup_cons_ne _ _ hkey, hrest]

theorem dlookup_kreplace_ne {key other : α} (value : β key) (hne : other ≠ key)
    (entries : List (Sigma β)) :
    (entries.kreplace key value).dlookup other = entries.dlookup other := by
  induction entries with
  | nil => rfl
  | cons entry rest ih =>
      obtain ⟨held, content⟩ := entry
      simp only [List.kreplace] at ih ⊢
      by_cases hkey : key = held
      · subst hkey
        rw [List.lookmap_cons_some _ _ (by simp : _ = some (⟨key, value⟩ : Sigma β)),
          List.dlookup_cons_ne _ _ hne, List.dlookup_cons_ne _ _ hne]
      · rw [List.lookmap_cons_none _ _ (by simp [hkey])]
        by_cases hother : other = held
        · subst hother
          simp
        · rw [List.dlookup_cons_ne _ _ hother, List.dlookup_cons_ne _ _ hother, ih]

end Replace

/-! ### Statuses -/

theorem rawTarget_setRawTarget_self {values : RuntimeValues} {targetId : Option String}
    {prior : MonitorValues} (hprior : values.rawTarget targetId = some prior)
    (raw : MonitorValues) : (values.setRawTarget targetId raw).rawTarget targetId = some raw := by
  cases targetId with
  | none => rfl
  | some childId =>
      simp only [RuntimeValues.rawTarget] at hprior
      cases hchildren : values.children with
      | value children =>
          simp only [hchildren] at hprior
          have hsome : (children.lookup childId).isSome := by
            cases hlookup : children.lookup childId with
            | none => simp [hlookup] at hprior
            | some found => rfl
          have hreplaced : (children.replace childId (Field.value raw)).lookup childId =
              some (.value raw) := dlookup_kreplace_self _ hsome
          simp [RuntimeValues.setRawTarget, RuntimeValues.rawTarget, hchildren, hreplaced]
      | absent => simp [hchildren] at hprior
      | null => simp [hchildren] at hprior
      | mistyped => simp [hchildren] at hprior

theorem rawTarget_setRawTarget_ne {values : RuntimeValues} {targetId other : Option String}
    (hne : other ≠ targetId) (raw : MonitorValues) :
    (values.setRawTarget targetId raw).rawTarget other = values.rawTarget other := by
  cases targetId with
  | none =>
      cases other with
      | none => exact absurd rfl hne
      | some otherId => rfl
  | some childId =>
      unfold RuntimeValues.setRawTarget
      dsimp only
      cases hchildren : values.children with
      | value children =>
          cases other with
          | none => rfl
          | some otherId =>
              have hother : otherId ≠ childId := fun heq => hne (congrArg some heq)
              have hreplaced : (children.replace childId (Field.value raw)).lookup otherId =
                  children.lookup otherId := dlookup_kreplace_ne _ hother _
              simp [RuntimeValues.rawTarget, hchildren, hreplaced]
      | absent => rfl
      | null => rfl
      | mistyped => rfl

@[simp] theorem setRawTarget_parentComplete (values : RuntimeValues) (targetId : Option String)
    (raw : MonitorValues) :
    (values.setRawTarget targetId raw).parentComplete = values.parentComplete := by
  unfold RuntimeValues.setRawTarget
  cases targetId with
  | none => rfl
  | some childId => cases values.children <;> rfl

/-- The monitor of a target, if the document has one, is terminal. -/
def TerminalAt (values : RuntimeValues) (targetId : Option String) : Prop :=
  ∀ raw, values.rawTarget targetId = some raw → raw.status = .value .terminal

/-- A run that changes monitors only towards their end: every monitor was there before,
    and stays terminal once it was.  The session, its turn, its claim and the revision are
    kept. -/
structure Ends (before after : RuntimeValues) : Prop where
  monitors : ∀ targetId raw, after.rawTarget targetId = some raw →
    ∃ prior, before.rawTarget targetId = some prior ∧
      (prior.status = .value .terminal → raw.status = .value .terminal)
  enabled : after.enabled = before.enabled
  sessionId : after.sessionId = before.sessionId
  parentTurnId : after.parentTurnId = before.parentTurnId
  revision : after.revision = before.revision

namespace Ends

theorem refl (values : RuntimeValues) : Ends values values :=
  ⟨fun _ raw hraw => ⟨raw, hraw, id⟩, rfl, rfl, rfl, rfl⟩

theorem trans {first second third : RuntimeValues} (h₁ : Ends first second)
    (h₂ : Ends second third) : Ends first third := by
  refine ⟨?_, h₂.enabled.trans h₁.enabled, h₂.sessionId.trans h₁.sessionId,
    h₂.parentTurnId.trans h₁.parentTurnId, h₂.revision.trans h₁.revision⟩
  intro targetId raw hraw
  obtain ⟨middle, hmiddle, hlater⟩ := h₂.monitors targetId raw hraw
  obtain ⟨prior, hprior, hearlier⟩ := h₁.monitors targetId middle hmiddle
  exact ⟨prior, hprior, fun hterminal => hlater (hearlier hterminal)⟩

theorem terminalAt {before after : RuntimeValues} (hends : Ends before after)
    {targetId : Option String} (hterminal : TerminalAt before targetId) :
    TerminalAt after targetId := by
  intro raw hraw
  obtain ⟨prior, hprior, hkept⟩ := hends.monitors targetId raw hraw
  exact hkept (hterminal prior hprior)

/-- A change that touches no monitor. -/
theorem of_monitors {before after : RuntimeValues}
    (hraw : ∀ targetId, after.rawTarget targetId = before.rawTarget targetId)
    (henabled : after.enabled = before.enabled) (hsession : after.sessionId = before.sessionId)
    (hturn : after.parentTurnId = before.parentTurnId)
    (hrevision : after.revision = before.revision) : Ends before after := by
  refine ⟨?_, henabled, hsession, hturn, hrevision⟩
  intro targetId raw hsome
  exact ⟨raw, (hraw targetId).symm.trans hsome, id⟩

/-- A change of one monitor that does not revive it. -/
theorem of_setRawTarget {values : RuntimeValues} {targetId : Option String}
    {prior raw : MonitorValues} (hprior : values.rawTarget targetId = some prior)
    (hkept : prior.status = .value .terminal → raw.status = .value .terminal) :
    Ends values (values.setRawTarget targetId raw) := by
  have hfields : (values.setRawTarget targetId raw).enabled = values.enabled ∧
      (values.setRawTarget targetId raw).sessionId = values.sessionId ∧
      (values.setRawTarget targetId raw).parentTurnId = values.parentTurnId ∧
      (values.setRawTarget targetId raw).revision = values.revision := by
    unfold RuntimeValues.setRawTarget
    cases targetId with
    | none => exact ⟨rfl, rfl, rfl, rfl⟩
    | some childId => cases values.children <;> exact ⟨rfl, rfl, rfl, rfl⟩
  obtain ⟨henabled, hsession, hturn, hrevision⟩ := hfields
  refine ⟨?_, henabled, hsession, hturn, hrevision⟩
  intro other found hfound
  by_cases hsame : other = targetId
  · subst hsame
    rw [rawTarget_setRawTarget_self hprior] at hfound
    obtain rfl := Option.some.inj hfound
    exact ⟨prior, hprior, hkept⟩
  · rw [rawTarget_setRawTarget_ne hsame] at hfound
    exact ⟨found, hfound, id⟩

end Ends

section Mutations

variable {values after : RuntimeValues} {targetId : Option String} {path : String}

theorem markTargetTerminal_ends {changed : Bool}
    (hmarked : markTargetTerminal values targetId path = .ok (changed, after)) :
    Ends values after ∧ after.parentComplete = values.parentComplete ∧
      TerminalAt after targetId := by
  unfold markTargetTerminal at hmarked
  cases hprior : values.rawTarget targetId with
  | none => simp [hprior] at hmarked
  | some prior =>
      simp only [hprior] at hmarked
      split at hmarked
      · next hstatus =>
          obtain ⟨_, rfl⟩ := Prod.mk.inj (Except.ok.inj hmarked)
          refine ⟨Ends.refl _, rfl, ?_⟩
          intro raw hraw
          rw [hprior] at hraw
          exact Option.some.inj hraw ▸ hstatus
      · obtain ⟨_, rfl⟩ := Prod.mk.inj (Except.ok.inj hmarked)
        refine ⟨Ends.of_setRawTarget hprior fun _ => rfl, setRawTarget_parentComplete .., ?_⟩
        intro raw hraw
        rw [rawTarget_setRawTarget_self hprior] at hraw
        exact Option.some.inj hraw ▸ rfl
      · cases hmarked

theorem advanceTargetProgressEpoch_ends {observedAt : Int}
    (hadvanced : advanceTargetProgressEpoch values targetId path observedAt = .ok after) :
    Ends values after ∧ after.parentComplete = values.parentComplete := by
  unfold advanceTargetProgressEpoch at hadvanced
  cases hprior : values.rawTarget targetId with
  | none =>
      rw [hprior] at hadvanced
      cases hadvanced
  | some prior =>
      rw [hprior] at hadvanced
      obtain ⟨epoch, _, hset⟩ := exceptBind_eq_ok hadvanced
      cases hset
      exact ⟨Ends.of_setRawTarget hprior id, setRawTarget_parentComplete ..⟩

theorem persistTurnActivity_ends {observed : Bool}
    (hpersisted : persistTurnActivity values path observed = .ok after) :
    Ends values after ∧ after.parentComplete = values.parentComplete := by
  unfold persistTurnActivity at hpersisted
  split_ifs at hpersisted
  · obtain ⟨epoch, _, hset⟩ := exceptBind_eq_ok hpersisted
    cases hset
    refine ⟨?_, rfl⟩
    exact Ends.of_monitors (fun targetId => by cases targetId <;> rfl) rfl rfl rfl rfl
  · cases hpersisted
    exact ⟨Ends.refl _, rfl⟩

theorem markParentComplete_ends {changed : Bool}
    (hmarked : markParentComplete values path = .ok (changed, after)) : Ends values after := by
  unfold markParentComplete at hmarked
  split at hmarked
  · obtain ⟨_, rfl⟩ := Prod.mk.inj (Except.ok.inj hmarked)
    exact Ends.refl _
  · obtain ⟨_, rfl⟩ := Prod.mk.inj (Except.ok.inj hmarked)
    exact Ends.of_monitors (fun targetId => by cases targetId <;> rfl) rfl rfl rfl rfl
  · cases hmarked

theorem claimCompletion_ends {eventId : String} {isNew : Bool}
    (hclaimed : claimCompletion values eventId path = .ok (isNew, after)) :
    Ends values after ∧ after.completionEventId = .value eventId := by
  unfold claimCompletion at hclaimed
  split at hclaimed
  · cases hclaimed
  · next recorded hrecorded =>
      split_ifs at hclaimed with hsame
      · obtain ⟨_, rfl⟩ := Prod.mk.inj (Except.ok.inj hclaimed)
        exact ⟨Ends.refl _, hsame ▸ hrecorded⟩
      · obtain ⟨_, rfl⟩ := Prod.mk.inj (Except.ok.inj hclaimed)
        refine ⟨?_, rfl⟩
        exact Ends.of_monitors (fun targetId => by cases targetId <;> rfl) rfl rfl rfl rfl
  · obtain ⟨_, rfl⟩ := Prod.mk.inj (Except.ok.inj hclaimed)
    refine ⟨?_, rfl⟩
    exact Ends.of_monitors (fun targetId => by cases targetId <;> rfl) rfl rfl rfl rfl

theorem markTargetsTerminal_ends {monitors : List MonitorTarget}
    (hmarked : markTargetsTerminal path monitors values = .ok after) :
    Ends values after ∧ ∀ monitor ∈ monitors, TerminalAt after monitor.targetId := by
  induction monitors generalizing values with
  | nil =>
      cases hmarked
      exact ⟨Ends.refl _, fun monitor hmem => absurd hmem (List.not_mem_nil)⟩
  | cons first rest ih =>
      rw [markTargetsTerminal] at hmarked
      cases hfirst : markTargetTerminal values first.targetId path with
      | error failure =>
          rw [hfirst] at hmarked
          cases hmarked
      | ok marked =>
          obtain ⟨changed, middle⟩ := marked
          rw [hfirst] at hmarked
          obtain ⟨hends, _, hterminal⟩ := markTargetTerminal_ends hfirst
          obtain ⟨hrestEnds, hrest⟩ := ih hmarked
          refine ⟨hends.trans hrestEnds, ?_⟩
          intro monitor hmem
          rcases List.mem_cons.mp hmem with rfl | hmem
          · exact hrestEnds.terminalAt hterminal
          · exact hrest monitor hmem

end Mutations

/-! ### One run of the processor -/

section Processor

variable {H : Digest} {target : RuntimeTarget} {values after : RuntimeValues}
  {watcher left : WatcherState} {context : TickContext} {events : List ObservedEvent}

/-- **Completion.**  Completing a target leaves every monitor terminal and the
    completion claimed. -/
theorem completeTarget_ends
    (hcompleted : completeTarget H target values context watcher = (left, .ok after)) :
    Ends values after ∧ (∀ monitor ∈ target.targets, TerminalAt after monitor.targetId) ∧
      after.completionEventId = .value (completionEventId H target) := by
  unfold completeTarget at hcompleted
  cases hmarked : markTargetsTerminal target.runtimeFile target.targets values with
  | error failure =>
      simp only [hmarked] at hcompleted
      cases hcompleted
  | ok marked =>
      simp only [hmarked, bind, Except.bind] at hcompleted
      obtain ⟨hmarks, hterminal⟩ := markTargetsTerminal_ends hmarked
      cases hclaimed : claimCompletion marked (completionEventId H target) target.runtimeFile with
      | error failure =>
          rw [hclaimed] at hcompleted
          cases hcompleted
      | ok claimed =>
          obtain ⟨isNew, claimedValues⟩ := claimed
          rw [hclaimed] at hcompleted
          obtain ⟨_, hsame⟩ := Prod.mk.inj hcompleted
          cases hsame
          obtain ⟨hclaims, hid⟩ := claimCompletion_ends hclaimed
          refine ⟨hmarks.trans hclaims, ?_, hid⟩
          intro monitor hmem
          exact hclaims.terminalAt (hterminal monitor hmem)

/-- A prepared monitor that ended is terminal in the document, unless it was terminal
    before. -/
theorem prepareMonitor_ends {preparation : PreparationContext} {monitor : MonitorTarget}
    {progress : MonitorProgress}
    (hprepared : prepareMonitor H preparation monitor watcher values =
      (left, .ok (after, progress))) :
    Ends values after ∧ after.parentComplete = values.parentComplete ∧
      (preparation.parentTerminal = false → progress.state.waits.terminal = true →
        monitor.terminal = true ∨ TerminalAt after monitor.targetId) := by
  unfold prepareMonitor at hprepared
  dsimp only at hprepared
  generalize applyTargetEvents _ _ _ _ = applied at hprepared
  generalize decide (_ < applied.state.silenceSequence) = progressed at hprepared
  cases hadvanced : (if progressed = true then
      advanceTargetProgressEpoch values monitor.targetId preparation.target.runtimeFile
        preparation.tick.wallTime
      else Except.ok values) with
  | error failure =>
      rw [hadvanced] at hprepared
      cases hprepared
  | ok advanced =>
      have hfirst : Ends values advanced ∧ advanced.parentComplete = values.parentComplete := by
        cases progressed with
        | true => exact advanceTargetProgressEpoch_ends hadvanced
        | false =>
            cases hadvanced
            exact ⟨Ends.refl _, rfl⟩
      rw [hadvanced] at hprepared
      dsimp only at hprepared
      cases hmarked : (if applied.terminal = true then
          Except.map Prod.snd
            (markTargetTerminal advanced monitor.targetId preparation.target.runtimeFile)
          else Except.ok advanced) with
      | error failure =>
          rw [hmarked] at hprepared
          cases hprepared
      | ok marked =>
          have hsecond : Ends advanced marked ∧ marked.parentComplete = advanced.parentComplete ∧
              (applied.terminal = true → TerminalAt marked monitor.targetId) := by
            cases hterminal : applied.terminal with
            | true =>
                rw [hterminal, if_pos rfl] at hmarked
                cases hmark : markTargetTerminal advanced monitor.targetId
                    preparation.target.runtimeFile with
                | error failure =>
                    rw [hmark] at hmarked
                    cases hmarked
                | ok result =>
                    obtain ⟨changed, found⟩ := result
                    rw [hmark] at hmarked
                    cases hmarked
                    obtain ⟨hends, hcomplete, hat⟩ := markTargetTerminal_ends hmark
                    exact ⟨hends, hcomplete, fun _ => hat⟩
            | false =>
                rw [hterminal] at hmarked
                cases hmarked
                exact ⟨Ends.refl _, rfl, fun heq => (nomatch heq)⟩
          rw [hmarked] at hprepared
          obtain ⟨_, hsame⟩ := Prod.mk.inj hprepared
          cases hsame
          refine ⟨hfirst.1.trans hsecond.1, hsecond.2.1.trans hfirst.2, ?_⟩
          intro hlive hterminal
          rw [setWaitState_waits] at hterminal
          simp only [WaitState.terminal, observedWaits, hlive, Bool.or_false,
            Bool.or_eq_true] at hterminal
          rcases hterminal with hbefore | hevent
          · exact Or.inl hbefore
          · exact Or.inr (hsecond.2.2 hevent)

theorem prepareMonitors_ends {preparation : PreparationContext} {monitors : List MonitorTarget}
    {progresses : List (MonitorTarget × MonitorProgress)}
    (hprepared : prepareMonitors H preparation monitors watcher values =
      (left, .ok (after, progresses))) :
    Ends values after ∧ after.parentComplete = values.parentComplete ∧
      (preparation.parentTerminal = false →
        (∀ progress ∈ progresses, progress.2.state.waits.terminal = true) →
        ∀ monitor ∈ monitors, monitor.terminal = true ∨ TerminalAt after monitor.targetId) := by
  induction monitors generalizing watcher values progresses with
  | nil =>
      cases hprepared
      exact ⟨Ends.refl _, rfl, fun _ _ monitor hmem => absurd hmem (List.not_mem_nil)⟩
  | cons first rest ih =>
      rw [prepareMonitors] at hprepared
      cases hfirst : prepareMonitor H preparation first watcher values with
      | mk between outcome =>
          rw [hfirst] at hprepared
          cases outcome with
          | error failure => cases hprepared
          | ok prepared =>
              obtain ⟨middle, progress⟩ := prepared
              dsimp only at hprepared
              cases hrest : prepareMonitors H preparation rest between middle with
              | mk last outcome =>
                  rw [hrest] at hprepared
                  cases outcome with
                  | error failure => cases hprepared
                  | ok prepared =>
                      obtain ⟨final, later⟩ := prepared
                      cases hprepared
                      obtain ⟨hends, hcomplete, hterminal⟩ := prepareMonitor_ends hfirst
                      obtain ⟨hrestEnds, hrestComplete, hrestTerminal⟩ := ih hrest
                      refine ⟨hends.trans hrestEnds, hrestComplete.trans hcomplete, ?_⟩
                      intro hlive hall monitor hmem
                      rw [List.forall_mem_cons] at hall
                      rcases List.mem_cons.mp hmem with rfl | hmem
                      · rcases hterminal hlive hall.1 with hbefore | hafter
                        · exact Or.inl hbefore
                        · exact Or.inr (hrestEnds.terminalAt hafter)
                      · exact hrestTerminal hlive hall.2 monitor hmem

/-- The evaluation is active as long as a prepared state is not terminal. -/
theorem evaluateMonitors_active (states : List (MonitorTarget × SilenceState))
    (progress : EvaluationProgress) :
    (states.foldl (evaluateMonitor H target context) progress).active =
      (progress.active || states.any fun state => !state.2.waits.terminal) := by
  induction states generalizing progress with
  | nil => simp
  | cons first rest ih =>
      have hone : (evaluateMonitor H target context progress first).active =
          (progress.active || !first.2.waits.terminal) := by
        unfold evaluateMonitor
        dsimp only
        rw [evaluate_waits]
        split <;> rfl
      rw [List.foldl_cons, ih, hone, List.any_cons, Bool.or_assoc]

theorem evaluateTarget_ends {active : Bool}
    (hevaluated : evaluateTarget H target values events context watcher =
      (left, .ok (after, active))) :
    Ends values after ∧ (active = false →
      (∀ monitor ∈ target.targets, monitor.terminal = true ∨ TerminalAt after monitor.targetId) ∧
        (after.completionEventId = .value (completionEventId H target) ∨
          after.parentComplete = values.parentComplete)) := by
  unfold evaluateTarget prepare at hevaluated
  dsimp only at hevaluated
  cases hmarked : (if parentCompleted target events = true then
      Except.map Prod.snd (markParentComplete values target.runtimeFile)
      else Except.ok values) with
  | error failure =>
      rw [hmarked] at hevaluated
      cases hevaluated
  | ok marked =>
      have hmarks : Ends values marked ∧
          (parentCompleted target events = false → marked = values) := by
        cases hterminal : parentCompleted target events with
        | true =>
            rw [hterminal, if_pos rfl] at hmarked
            cases hmark : markParentComplete values target.runtimeFile with
            | error failure =>
                rw [hmark] at hmarked
                cases hmarked
            | ok result =>
                rw [hmark] at hmarked
                cases hmarked
                exact ⟨markParentComplete_ends hmark, fun heq => (nomatch heq)⟩
        | false =>
            rw [hterminal] at hmarked
            cases hmarked
            exact ⟨Ends.refl _, fun _ => rfl⟩
      rw [hmarked] at hevaluated
      dsimp only at hevaluated
      cases hprepared : prepareMonitors H
          ⟨target, events, context, parentCompleted target events⟩ target.targets watcher marked with
      | mk between outcome =>
          rw [hprepared] at hevaluated
          cases outcome with
          | error failure => cases hevaluated
          | ok prepared =>
              obtain ⟨readied, progresses⟩ := prepared
              obtain ⟨hprepares, hkept, hidle⟩ := prepareMonitors_ends hprepared
              dsimp only at hevaluated
              cases hactivity : persistTurnActivity readied target.runtimeFile
                  (progresses.any (fun progress => progress.2.activityObserved) ||
                    parentCompleted target events) with
              | error failure =>
                  rw [hactivity] at hevaluated
                  cases hevaluated
              | ok persisted =>
                  rw [hactivity] at hevaluated
                  dsimp only at hevaluated
                  obtain ⟨hpersists, hsame⟩ := persistTurnActivity_ends hactivity
                  have hbefore : Ends values persisted := (hmarks.1.trans hprepares).trans hpersists
                  cases hterminal : parentCompleted target events with
                  | true =>
                      rw [hterminal, if_pos rfl] at hevaluated
                      cases hcompleted : completeTarget H target persisted context between with
                      | mk last outcome =>
                          rw [hcompleted] at hevaluated
                          cases outcome with
                          | error failure => cases hevaluated
                          | ok completed =>
                              cases hevaluated
                              obtain ⟨hends, hdone, hid⟩ := completeTarget_ends hcompleted
                              refine ⟨hbefore.trans hends, fun _ => ⟨?_, Or.inl hid⟩⟩
                              intro monitor hmem
                              exact Or.inr (hdone monitor hmem)
                  | false =>
                      rw [hterminal, if_neg Bool.false_ne_true] at hevaluated
                      obtain ⟨_, hsecond⟩ := Prod.mk.inj hevaluated
                      obtain ⟨hvalues, hactive⟩ := Prod.mk.inj (Except.ok.inj hsecond)
                      subst hvalues
                      refine ⟨hbefore, ?_⟩
                      intro hquiet
                      rw [← hactive, evaluateMonitors_active, Bool.false_or] at hquiet
                      have hall : ∀ progress ∈ progresses,
                          progress.2.state.waits.terminal = true := by
                        intro progress hmem
                        have hnot := List.any_eq_false.mp hquiet
                          (progress.1, progress.2.state) (List.mem_map_of_mem hmem)
                        simpa using hnot
                      refine ⟨?_, Or.inr ?_⟩
                      · intro monitor hmem
                        exact (hidle hterminal hall monitor hmem).imp id hpersists.terminalAt
                      · rw [hsame, hkept, hmarks.2 hterminal]

/-- **One run.**  A run of the processor revives no monitor.  One that reports no activity
    leaves every monitor terminal, and claims the completion it was told of. -/
theorem tickTarget_ends {active : Bool}
    (hticked : tickTarget H context target values events watcher = (left, .ok (after, active))) :
    Ends values after ∧ (target.parentComplete = true → active = false) ∧ (active = false →
      (∀ monitor ∈ target.targets, monitor.terminal = true ∨ TerminalAt after monitor.targetId) ∧
        (after.completionEventId = .value (completionEventId H target) ∨
          target.parentComplete = false ∧ after.parentComplete = values.parentComplete)) := by
  unfold tickTarget finishIfTerminal at hticked
  cases hcomplete : target.parentComplete with
  | true =>
      rw [hcomplete, if_pos rfl] at hticked
      cases hcompleted : completeTarget H target values context watcher with
      | mk between outcome =>
          rw [hcompleted] at hticked
          cases outcome with
          | error failure => cases hticked
          | ok completed =>
              cases hticked
              obtain ⟨hends, hterminal, hid⟩ := completeTarget_ends hcompleted
              refine ⟨hends, fun _ => rfl, fun _ => ⟨?_, Or.inl hid⟩⟩
              intro monitor hmem
              exact Or.inr (hterminal monitor hmem)
  | false =>
      rw [hcomplete, if_neg Bool.false_ne_true] at hticked
      cases hrunning : target.hasRunning with
      | true =>
          rw [hrunning, if_pos rfl] at hticked
          obtain ⟨hends, hidle⟩ := evaluateTarget_ends hticked
          refine ⟨hends, fun heq => (nomatch heq), ?_⟩
          intro hactive
          obtain ⟨hterminal, hclaimed⟩ := hidle hactive
          exact ⟨hterminal, hclaimed.imp id fun hkept => ⟨rfl, hkept⟩⟩
      | false =>
          rw [hrunning, if_neg Bool.false_ne_true] at hticked
          cases hticked
          refine ⟨Ends.refl _, fun heq => (nomatch heq), fun _ => ⟨?_, Or.inr ⟨rfl, rfl⟩⟩⟩
          intro monitor hmem
          have hall := List.any_eq_false.mp hrunning monitor hmem
          exact Or.inl (by simpa using hall)

/-- Only a target with a running monitor keeps the watcher active. -/
theorem tickTarget_active
    (hticked : tickTarget H context target values events watcher = (left, .ok (after, true))) :
    target.hasRunning = true := by
  have hopen : target.parentComplete = false := by
    cases hcomplete : target.parentComplete with
    | false => rfl
    | true => exact absurd ((tickTarget_ends hticked).2.1 hcomplete) (by simp)
  unfold tickTarget finishIfTerminal at hticked
  rw [hopen, if_neg Bool.false_ne_true] at hticked
  cases hrunning : target.hasRunning with
  | true => rfl
  | false =>
      rw [hrunning, if_neg Bool.false_ne_true] at hticked
      cases hticked

end Processor

/-! ### Monitors of a validated document -/

section Validated

variable {H : Digest} {path : String} {values : RuntimeValues} {target : RuntimeTarget}

theorem targetMonitor_eq_ok {raw : MonitorValues} {targetId : Option String}
    {monitor : MonitorTarget} (hok : targetMonitor raw targetId path = .ok monitor) :
    monitor.targetId = targetId ∧
      (monitor.terminal = true ↔ raw.status = .value .terminal) := by
  unfold targetMonitor at hok
  cases hstatus : raw.status with
  | value status =>
      rw [hstatus] at hok
      obtain ⟨found, hfound, hok⟩ := exceptBind_eq_ok hok
      obtain rfl := Except.ok.inj hfound
      obtain ⟨generation, _, hok⟩ := exceptBind_eq_ok hok
      obtain ⟨openToolCount, _, hok⟩ := exceptBind_eq_ok hok
      obtain ⟨waitingForApproval, _, hok⟩ := exceptBind_eq_ok hok
      obtain ⟨waitingForUser, _, hok⟩ := exceptBind_eq_ok hok
      obtain ⟨progressEpoch, _, hok⟩ := exceptBind_eq_ok hok
      obtain ⟨startedAt, _, hok⟩ := exceptBind_eq_ok hok
      cases hok
      refine ⟨rfl, ?_⟩
      cases status <;> simp
  | absent =>
      rw [hstatus] at hok
      cases hok
  | null =>
      rw [hstatus] at hok
      cases hok
  | mistyped =>
      rw [hstatus] at hok
      cases hok

/-- Each monitor of a validated target is read from an object of the document. -/
theorem ValidatedAs.read_of_monitor (hvalid : ValidatedAs H path values target)
    {monitor : MonitorTarget} (hmem : monitor ∈ target.targets) :
    ∃ raw, values.rawTarget monitor.targetId = some raw ∧
      targetMonitor raw monitor.targetId path = .ok monitor := by
  rcases List.mem_append.mp hmem with hparent | hchild
  · have hsome : target.parent = some monitor := Option.mem_toList.mp hparent
    have htarget := hvalid.parent
    unfold targetParent at htarget
    cases hvalue : values.parent with
    | value raw =>
        rw [hvalue, hsome] at htarget
        dsimp only at htarget
        cases hmonitor : targetMonitor raw none path with
        | error failure =>
            rw [hmonitor] at htarget
            cases htarget
        | ok found =>
            rw [hmonitor] at htarget
            obtain rfl := Option.some.inj (Except.ok.inj htarget)
            obtain ⟨hid, _⟩ := targetMonitor_eq_ok hmonitor
            rw [hid]
            exact ⟨raw, by simp [RuntimeValues.rawTarget, hvalue], hmonitor⟩
    | absent => simp [hvalue, hsome] at htarget
    | null => simp [hvalue, hsome] at htarget
    | mistyped => simp [hvalue, hsome] at htarget
  · have htargets := hvalid.children
    unfold targetChildren at htargets
    cases hvalue : values.children with
    | value children =>
        rw [hvalue] at htargets
        obtain ⟨entry, hentry, hread⟩ :=
          Traversal.exists_item (Traversal.forall₂_of_mapM htargets) hchild
        obtain ⟨childId, field⟩ := entry
        have hlookup : children.lookup childId = some field := AList.mem_lookup_iff.mpr hentry
        unfold targetChild at hread
        split_ifs at hread
        cases field with
        | value raw =>
            obtain ⟨hid, _⟩ := targetMonitor_eq_ok hread
            rw [hid]
            exact ⟨raw, by simp [RuntimeValues.rawTarget, hvalue, hlookup], hread⟩
        | absent => simp at hread
        | null => simp at hread
        | mistyped => simp at hread
    | absent => simp [hvalue] at htargets
    | null => simp [hvalue] at htargets
    | mistyped => simp [hvalue] at htargets

theorem ValidatedAs.raw_of_monitor (hvalid : ValidatedAs H path values target)
    {monitor : MonitorTarget} (hmem : monitor ∈ target.targets) :
    ∃ raw, values.rawTarget monitor.targetId = some raw ∧
      (monitor.terminal = true ↔ raw.status = .value .terminal) := by
  obtain ⟨raw, hraw, hread⟩ := hvalid.read_of_monitor hmem
  exact ⟨raw, hraw, (targetMonitor_eq_ok hread).2⟩

/-- Each monitor object of a validated document is a monitor of its target. -/
theorem ValidatedAs.monitor_of_raw (hvalid : ValidatedAs H path values target)
    {targetId : Option String} {raw : MonitorValues}
    (hraw : values.rawTarget targetId = some raw) :
    ∃ monitor ∈ target.targets, monitor.targetId = targetId ∧
      (monitor.terminal = true ↔ raw.status = .value .terminal) := by
  unfold RuntimeValues.rawTarget at hraw
  cases targetId with
  | none =>
      have htarget := hvalid.parent
      unfold targetParent at htarget
      cases hvalue : values.parent with
      | value found =>
          rw [hvalue] at hraw htarget
          obtain rfl := Option.some.inj hraw
          dsimp only at htarget
          cases hmonitor : targetMonitor found none path with
          | error failure =>
              rw [hmonitor] at htarget
              cases htarget
          | ok monitor =>
              rw [hmonitor] at htarget
              have hparent : some monitor = target.parent := Except.ok.inj htarget
              refine ⟨monitor, ?_, targetMonitor_eq_ok hmonitor⟩
              exact List.mem_append_left _ (Option.mem_toList.mpr hparent.symm)
      | absent => simp [hvalue] at hraw
      | null => simp [hvalue] at hraw
      | mistyped => simp [hvalue] at hraw
  | some childId =>
      have htargets := hvalid.children
      unfold targetChildren at htargets
      cases hvalue : values.children with
      | value children =>
          rw [hvalue] at hraw htargets
          dsimp only at hraw
          cases hlookup : children.lookup childId with
          | none => simp [hlookup] at hraw
          | some field =>
              have hentry : (⟨childId, field⟩ : Sigma fun _ => Field MonitorValues) ∈
                  children.entries := AList.mem_lookup_iff.mp hlookup
              obtain ⟨monitor, hmem, hread⟩ :=
                Traversal.exists_result (Traversal.forall₂_of_mapM htargets) hentry
              unfold targetChild at hread
              split_ifs at hread
              cases field with
              | value found =>
                  simp only [hlookup] at hraw
                  obtain rfl := Option.some.inj hraw
                  exact ⟨monitor, List.mem_append_right _ hmem, targetMonitor_eq_ok hread⟩
              | absent => simp at hread
              | null => simp at hread
              | mistyped => simp at hread
      | absent => simp [hvalue] at hraw
      | null => simp [hvalue] at hraw
      | mistyped => simp [hvalue] at hraw

/-- A target is running as long as one of its monitor objects is not terminal. -/
theorem ValidatedAs.hasRunning_iff (hvalid : ValidatedAs H path values target) :
    target.hasRunning = true ↔
      ∃ targetId raw, values.rawTarget targetId = some raw ∧ raw.status ≠ .value .terminal := by
  unfold RuntimeTarget.hasRunning
  rw [List.any_eq_true]
  constructor
  · rintro ⟨monitor, hmem, hlive⟩
    obtain ⟨raw, hraw, hterminal⟩ := hvalid.raw_of_monitor hmem
    refine ⟨monitor.targetId, raw, hraw, ?_⟩
    intro hstatus
    rw [hterminal.mpr hstatus] at hlive
    cases hlive
  · rintro ⟨targetId, raw, hraw, hlive⟩
    obtain ⟨monitor, hmem, _, hterminal⟩ := hvalid.monitor_of_raw hraw
    refine ⟨monitor, hmem, ?_⟩
    cases hmonitor : monitor.terminal with
    | true => exact absurd (hterminal.mp hmonitor) hlive
    | false => rfl

/-- **Settled.**  A run that reports no activity leaves a document whose target has no
    running monitor and whose completion, if there is one, is claimed. -/
theorem tickTarget_settles {context : TickContext} {events : List ObservedEvent}
    {watcher left : WatcherState} {after : RuntimeValues} {settled : RuntimeTarget}
    {revision : Field Int} (hvalid : ValidatedAs H path values target)
    (hticked : tickTarget H context target values events watcher = (left, .ok (after, false)))
    (hsettled : ValidatedAs H path { after with revision } settled) :
    settled.hasRunning = false ∧ (settled.parentComplete = true →
      after.completionEventId = .value (completionEventId H settled)) := by
  obtain ⟨hends, _, hidle⟩ := tickTarget_ends hticked
  obtain ⟨hterminal, hclaimed⟩ := hidle rfl
  constructor
  · refine Bool.eq_false_iff.mpr fun hrunning => ?_
    obtain ⟨targetId, raw, hraw, hlive⟩ := hsettled.hasRunning_iff.mp hrunning
    have hsame : after.rawTarget targetId = some raw := by
      rw [← hraw]
      cases targetId <;> rfl
    obtain ⟨prior, hprior, hkept⟩ := hends.monitors targetId raw hsame
    obtain ⟨monitor, hmem, hid, hstatus⟩ := hvalid.monitor_of_raw hprior
    rcases hterminal monitor hmem with hbefore | hafter
    · exact hlive (hkept (hstatus.mp hbefore))
    · exact hlive (hafter raw (hid ▸ hsame))
  · intro hcomplete
    have hsession : settled.sessionId = target.sessionId := by
      have hread := hsettled.sessionId
      rw [show ({ after with revision } : RuntimeValues).sessionId = values.sessionId from
        hends.sessionId, hvalid.sessionId] at hread
      exact (Except.ok.inj hread).symm
    have hturn : settled.parentTurnId = target.parentTurnId := by
      have hread := hsettled.parentTurnId
      rw [show ({ after with revision } : RuntimeValues).parentTurnId = values.parentTurnId from
        hends.parentTurnId, hvalid.parentTurnId] at hread
      exact (Except.ok.inj hread).symm
    have hid : completionEventId H settled = completionEventId H target := by
      unfold completionEventId
      rw [hsession, hturn]
    rw [hid]
    rcases hclaimed with hclaim | ⟨hopen, hsame⟩
    · exact hclaim
    · have hread := hsettled.parentComplete
      rw [show ({ after with revision } : RuntimeValues).parentComplete = values.parentComplete
        from hsame, hvalid.parentComplete, hopen, hcomplete] at hread
      cases hread

end Validated

end CodexMustWork
