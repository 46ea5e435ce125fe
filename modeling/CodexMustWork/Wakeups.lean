import CodexMustWork.Library.Machine
import CodexMustWork.SessionDocument
import CodexMustWork.TerminalMonitors

/-!
# Wakeups of the resident service

A session that still needs a tick gets one: the controls and the ticks of
`scripts/notification_daemon.py`, in any order and with anything raising, as a
machine over the service.  What breaks this, while the watcher is asleep, is a
control that raises once it has written: a start or a mark behind its
replacement, and a completion whose own tick raises before the session is done.
-/

namespace CodexMustWork

/-! ### Sessions that need a tick -/

/-- The session of a runtime file is enabled and not quarantined, and either has a
    monitor that is not terminal or is complete with its completion unclaimed. -/
def NeedsTick (H : Digest) (root : StateRoot) (engine : WatcherEngine) (path : String) : Prop :=
  ∃ values target, root.runtime.lookup path = some (.ok values) ∧
    values.enabled = .value true ∧ ValidatedAs H path values target ∧
    target.sessionId ∉ engine.failedSessions ∧
    (target.hasRunning = true ∨ target.parentComplete = true ∧
      values.completionEventId ≠ .value (completionEventId H target))

section Needs

variable {H : Digest} {env : TickEnvironment} {root root' : StateRoot}
  {engine engine' : WatcherEngine} {path : String}

theorem NeedsTick.of_same (hneeds : NeedsTick H root' engine' path)
    (hlookup : root'.runtime.lookup path = root.runtime.lookup path)
    (hfailed : engine.failedSessions ⊆ engine'.failedSessions) : NeedsTick H root engine path := by
  obtain ⟨values, target, hfile, henabled, hvalid, hlive, hwork⟩ := hneeds
  exact ⟨values, target, hlookup ▸ hfile, henabled, hvalid, fun hmem => hlive (hfailed hmem), hwork⟩

theorem not_needsTick_of_absent (habsent : root.runtime.lookup path = none) :
    ¬ NeedsTick H root engine path := by
  rintro ⟨values, target, hfile, _⟩
  rw [habsent] at hfile
  cases hfile

/-- Two validations of one document agree on everything but the rollout. -/
theorem ValidatedAs.agree {values : RuntimeValues} {target other : RuntimeTarget}
    (hvalid : ValidatedAs H path values target) (hother : ValidatedAs H path values other) :
    other.sessionId = target.sessionId ∧ other.parentTurnId = target.parentTurnId ∧
      other.parentComplete = target.parentComplete ∧ other.hasRunning = target.hasRunning := by
  have hsession := hother.sessionId.symm.trans hvalid.sessionId
  have hturn := hother.parentTurnId.symm.trans hvalid.parentTurnId
  have hcomplete := hother.parentComplete.symm.trans hvalid.parentComplete
  have hrunning : other.hasRunning = target.hasRunning :=
    Bool.eq_iff_iff.mpr (hother.hasRunning_iff.trans hvalid.hasRunning_iff.symm)
  exact ⟨Except.ok.inj hsession, Except.ok.inj hturn, Except.ok.inj hcomplete, hrunning⟩

/-- A tick that touched only files of other sessions changed no need. -/
theorem needsTick_iff_of_beside (hbeside : ∀ sessionId, sessionFilename H sessionId = path →
      Beside H sessionId root engine root' engine') :
    NeedsTick H root' engine' path ↔ NeedsTick H root engine path := by
  constructor
  · rintro ⟨values, target, hfile, henabled, hvalid, hlive, hwork⟩
    have hown := hbeside target.sessionId hvalid.named
    have hruntime := hown.runtime
    rw [hvalid.named] at hruntime
    exact ⟨values, target, hruntime ▸ hfile, henabled, hvalid,
      fun hmem => hlive (hown.failed.mpr hmem), hwork⟩
  · rintro ⟨values, target, hfile, henabled, hvalid, hlive, hwork⟩
    have hown := hbeside target.sessionId hvalid.named
    have hruntime := hown.runtime
    rw [hvalid.named] at hruntime
    exact ⟨values, target, hruntime.trans hfile, henabled, hvalid,
      fun hmem => hlive (hown.failed.mp hmem), hwork⟩

/-! ### One commit -/

/-- What a tick learns of a commit whose processor returned: its activity, or an exception. -/
theorem leave_isActive (faults : MutationFaults) (outcome : Except Failure Unit)
    (result : CommitResult) :
    (faults.leave (outcome.map fun _ => some result)).map CommitResult.isActive =
        .ok result.active ∨
      ∃ failure, (faults.leave (outcome.map fun _ => some result)).map CommitResult.isActive =
        .error failure := by
  unfold MutationFaults.leave
  cases faults.release with
  | some failure => exact Or.inr ⟨failure, rfl⟩
  | none =>
      cases outcome with
      | error failure => exact Or.inr ⟨failure, rfl⟩
      | ok _ => exact Or.inl rfl

/-- **One commit.**  The commit of a target that was just validated raises and changes
    nothing, or persists what the processor returned under the revision that follows.
    Saving the cursor and releasing the lock can still raise. -/
theorem commitTick_current {target : RuntimeTarget} {values : RuntimeValues}
    {batch : Option TargetBatch} {out : Mutation WatcherEngine Bool}
    (hfile : root.runtime.lookup target.runtimeFile = some (.ok values))
    (henabled : values.enabled = .value true)
    (hvalid : runtimeTargetFromValues H env.resolve target.runtimeFile values = .ok target)
    (hout : commitTick H env root target batch engine = out) :
    out.memory.failedSessions = engine.failedSessions ∧
      ((out.root = root ∧ ∃ failure, out.result = .error failure) ∨
        ∃ left after active revision,
          tickTarget H env.context target values ((batch.map TargetBatch.events).getD [])
            engine.watcher = (left, .ok (after, active)) ∧
          out.root.runtime.lookup target.runtimeFile = some (.ok { after with revision }) ∧
          (out.result = .ok active ∨ ∃ failure, out.result = .error failure)) := by
  have hkept : ∀ values, (processSnapshot H env.resolve target
      ((batch.map TargetBatch.events).getD []) (engineProcessor H env.context) engine
      values).1.failedSessions = engine.failedSessions := by
    intro values
    unfold processSnapshot
    split_ifs
    · rfl
    · split
      · rfl
      · split_ifs
        · rfl
        · split <;> next heq => exact congrArg (fun left => left.1.failedSessions) heq.symm
  subst hout
  unfold commitTick
  dsimp only
  generalize hcommit : commitRuntimeSnapshot H env.resolve (env.commitFaults target.runtimeFile)
    root target batch (engineProcessor H env.context) engine = commit
  unfold commitRuntimeSnapshot at hcommit
  rcases mutateExistingState_cases hcommit with ⟨habsent, _⟩ | ⟨hroot, ⟨failure, hraised⟩, hmemory⟩ |
      ⟨original, persisted, result, horiginal, hmutator, hroot, hresult⟩
  · rw [habsent] at hfile
    cases hfile
  · refine ⟨?_, Or.inl ⟨hroot, failure, by rw [hraised]; rfl⟩⟩
    rcases hmemory with hsame | ⟨original, horiginal, hsame⟩
    · rw [hsame]
    · rw [hsame, hkept]
  · rw [hfile] at horiginal
    obtain rfl := Except.ok.inj (Option.some.inj horiginal)
    have hfailed := hkept values
    rw [hmutator] at hfailed
    refine ⟨hfailed, Or.inr ?_⟩
    rcases processSnapshot_cases H env.resolve hmutator with
      ⟨_, _, _, hstale⟩ | ⟨_, current, after, hcurrent, _, _, hprocessed, hpersisted⟩
    · obtain ⟨other, hother, hrevision⟩ := hstale henabled
      rw [hvalid] at hother
      exact absurd (congrArg RuntimeTarget.revision (Except.ok.inj hother)).symm hrevision
    · rw [hvalid] at hcurrent
      obtain rfl := Except.ok.inj hcurrent
      have hticked : tickTarget H env.context target values
          ((batch.map TargetBatch.events).getD []) engine.watcher =
          (commit.memory.watcher, .ok (after, result.active)) :=
        Prod.ext (congrArg (fun left => left.1.watcher) hprocessed)
          (congrArg (fun left => left.2) hprocessed)
      have hwritten : commit.root.runtime.lookup target.runtimeFile = some (.ok persisted) := by
        rw [hroot, commitBatch_runtime]
        split_ifs with hsame
        · rw [hsame, hfile]
        · exact StateRoot.setRuntime_lookup _ _ _
      have hrevision : ∃ revision, persisted = { after with revision } := by
        rw [hpersisted]
        split_ifs
        · exact ⟨after.revision, rfl⟩
        · exact ⟨_, rfl⟩
      obtain ⟨revision, rfl⟩ := hrevision
      refine ⟨_, after, result.active, revision, hticked, hwritten, ?_⟩
      rw [hresult]
      exact leave_isActive _ _ result

/-- A file with what a processor wrote that found nothing active needs no tick. -/
theorem not_needsTick_of_settled {target : RuntimeTarget} {values after : RuntimeValues}
    {events : List ObservedEvent} {left : WatcherState} {revision : Field Int}
    (hread : ValidatedAs H target.runtimeFile values target)
    (hticked : tickTarget H env.context target values events engine.watcher =
      (left, .ok (after, false)))
    (hwritten : root'.runtime.lookup target.runtimeFile = some (.ok { after with revision })) :
    ¬ NeedsTick H root' engine' target.runtimeFile := by
  rintro ⟨persisted, settled, hpersisted, _, hagain, _, hwork⟩
  rw [hwritten] at hpersisted
  obtain rfl := Except.ok.inj (Option.some.inj hpersisted)
  obtain ⟨hidle, hclaimed⟩ := tickTarget_settles hread hticked hagain
  rcases hwork with hrunning | ⟨hcomplete, hunclaimed⟩
  · rw [hidle] at hrunning
    cases hrunning
  · exact hunclaimed (hclaimed hcomplete)

/-- A commit settles its session or keeps it active, and never gives it work. -/
theorem commitTick_needs {target : RuntimeTarget} {values : RuntimeValues}
    {batch : Option TargetBatch} {out : Mutation WatcherEngine Bool}
    (hfile : root.runtime.lookup target.runtimeFile = some (.ok values))
    (henabled : values.enabled = .value true)
    (hvalid : runtimeTargetFromValues H env.resolve target.runtimeFile values = .ok target)
    (hlive : target.sessionId ∉ engine.failedSessions)
    (hout : commitTick H env root target batch engine = out) :
    (out.result = .ok false → ¬ NeedsTick H out.root out.memory target.runtimeFile) ∧
      (NeedsTick H out.root out.memory target.runtimeFile →
        NeedsTick H root engine target.runtimeFile) := by
  have hread := (runtimeTargetFromValues_eq_ok_iff.mp hvalid).1
  obtain ⟨hfailed, ⟨hroot, failure, hraised⟩ |
    ⟨left, after, active, revision, hticked, hwritten, hresult⟩⟩ :=
    commitTick_current hfile henabled hvalid hout
  · refine ⟨fun hok => ?_, fun hneeds => hneeds.of_same (by rw [hroot]) hfailed.ge⟩
    rw [hraised] at hok
    cases hok
  · cases active with
    | false =>
        have hsettled : ¬ NeedsTick H out.root out.memory target.runtimeFile :=
          not_needsTick_of_settled hread hticked hwritten
        exact ⟨fun _ => hsettled, fun hneeds => absurd hneeds hsettled⟩
    | true =>
        refine ⟨fun hok => ?_, fun _ => ⟨values, target, hfile, henabled, hread, hlive,
          Or.inl (tickTarget_active hticked)⟩⟩
        rcases hresult with hsame | ⟨failure, hraised⟩
        · rw [hsame] at hok
          cases hok
        · rw [hraised] at hok
          cases hok

/-- Quarantining a session whose snapshot is current ends its need of ticks, or raises. -/
theorem failTick_needs {target : RuntimeTarget} {values : RuntimeValues} {code : DiagnosticCode}
    {out : Mutation WatcherEngine Bool}
    (hfile : root.runtime.lookup target.runtimeFile = some (.ok values))
    (henabled : values.enabled = .value true)
    (hvalid : runtimeTargetFromValues H env.resolve target.runtimeFile values = .ok target)
    (hout : failTick H env root target code engine = out) :
    (out.result = .ok false → ¬ NeedsTick H out.root out.memory target.runtimeFile) ∧
      (NeedsTick H out.root out.memory target.runtimeFile →
        NeedsTick H root engine target.runtimeFile) := by
  have hread := (runtimeTargetFromValues_eq_ok_iff.mp hvalid).1
  subst hout
  unfold failTick
  dsimp only
  generalize hfail : recordRolloutFailure H env root target code engine = fail
  unfold recordRolloutFailure at hfail
  rcases mutateExistingState_cases hfail with ⟨habsent, _⟩ | ⟨hroot, ⟨failure, hraised⟩, hmemory⟩ |
      ⟨original, persisted, result, horiginal, hmutator, hroot, hresult⟩
  · rw [habsent] at hfile
    cases hfile
  · refine ⟨fun hok => ?_, fun hneeds => hneeds.of_same (by rw [hroot]) ?_⟩
    · rw [hraised] at hok
      cases hok
    · rcases hmemory with hsame | ⟨original, horiginal, hsame⟩
      · rw [hsame]
      · rw [hfile] at horiginal
        obtain rfl := Except.ok.inj (Option.some.inj horiginal)
        rw [hsame, if_neg (not_not.mpr henabled)]
        simp [hvalid]
  · rw [hfile] at horiginal
    obtain rfl := Except.ok.inj (Option.some.inj horiginal)
    rw [if_neg (not_not.mpr henabled)] at hmutator
    simp only [hvalid, ne_eq, not_true_eq_false, if_false, Prod.mk.injEq, Except.ok.injEq]
      at hmutator
    obtain ⟨hmemory, rfl, _⟩ := hmutator
    have hquiet : ¬ NeedsTick H fail.root fail.memory target.runtimeFile := by
      rintro ⟨found, other, hfound, _, hagain, hlive, _⟩
      rw [hroot, if_pos rfl] at hfound
      dsimp only [noCommit] at hfound
      rw [hfile] at hfound
      obtain rfl := Except.ok.inj (Option.some.inj hfound)
      rw [(hread.agree hagain).1, ← hmemory] at hlive
      exact hlive (Finset.mem_insert_self ..)
    exact ⟨fun _ => hquiet, fun hneeds => absurd hneeds hquiet⟩

/-! ### One file, one tick -/

/-- **One file.**  The file of a tick that reports no activity needs no further tick, and
    no file starts to need one. -/
theorem tickFile_needs {out : Mutation WatcherEngine Bool}
    (hout : tickFile H env root engine path = out) :
    (out.result = .ok false → ¬ NeedsTick H out.root out.memory path) ∧
      ∀ other, NeedsTick H out.root out.memory other → NeedsTick H root engine other := by
  have hown : (out.result = .ok false → ¬ NeedsTick H out.root out.memory path) ∧
      (NeedsTick H out.root out.memory path → NeedsTick H root engine path) := by
    unfold tickFile at hout
    cases hsnapshot : snapshotTarget H env root path with
    | error failure =>
        rw [hsnapshot] at hout
        subst hout
        exact ⟨fun hok => (nomatch hok), id⟩
    | ok found =>
        rw [hsnapshot] at hout
        cases found with
        | none =>
            subst hout
            refine ⟨fun _ => ?_, id⟩
            rintro ⟨values, target, hfile, henabled, _⟩
            exact snapshotTarget_eq_none hsnapshot hfile henabled
        | some target =>
            obtain ⟨values, hfile, henabled, hvalid⟩ := snapshotTarget_eq_some hsnapshot
            have hread := (runtimeTargetFromValues_eq_ok_iff.mp hvalid).1
            obtain rfl := hread.runtimeFile
            dsimp only at hout
            split_ifs at hout with hquarantined hcomplete hidle
            · subst hout
              refine ⟨fun _ => ?_, id⟩
              rintro ⟨found, other, hfound, _, hagain, hlive, _⟩
              rw [hfile] at hfound
              obtain rfl := Except.ok.inj (Option.some.inj hfound)
              exact hlive ((hread.agree hagain).1 ▸ hquarantined)
            · exact commitTick_needs hfile henabled hvalid hquarantined hout
            · subst hout
              refine ⟨fun _ => ?_, id⟩
              rintro ⟨found, other, hfound, _, hagain, _, hwork⟩
              rw [hfile] at hfound
              obtain rfl := Except.ok.inj (Option.some.inj hfound)
              obtain ⟨_, _, hsame, hrunning⟩ := hread.agree hagain
              rw [hsame, hrunning] at hwork
              rcases hwork with hwork | ⟨hwork, _⟩
              · simp [hwork] at hidle
              · exact hcomplete hwork
            · split at hout
              · exact failTick_needs hfile henabled hvalid hout
              · exact failTick_needs hfile henabled hvalid hout
              · subst hout
                exact ⟨fun hok => (nomatch hok), id⟩
              · exact commitTick_needs hfile henabled hvalid hquarantined hout
  refine ⟨hown.1, ?_⟩
  intro other hneeds
  by_cases hsame : other = path
  · subst hsame
    exact hown.2 hneeds
  · subst hout
    refine (needsTick_iff_of_beside ?_).mp hneeds
    rintro sessionId rfl
    exact tickFile_beside env root engine (Ne.symm hsame)

/-- A session that was told to complete is done with its file, unless the file raises with
    its document as it was. -/
theorem tickFile_completes {values : RuntimeValues} {out : Mutation WatcherEngine Bool}
    (hfile : root.runtime.lookup path = some (.ok values))
    (hcomplete : values.parentComplete = .value true) (hneeds : NeedsTick H root engine path)
    (hout : tickFile H env root engine path = out) :
    NeedsTick H out.root out.memory path ↔ (∃ failure, out.result = .error failure) ∧
      out.root.runtime.lookup path = root.runtime.lookup path := by
  obtain ⟨found, complete, hfound, henabled, hread, hlive, _⟩ := id hneeds
  rw [hfile] at hfound
  obtain rfl := Except.ok.inj (Option.some.inj hfound)
  unfold tickFile at hout
  cases hsnapshot : snapshotTarget H env root path with
  | error failure =>
      rw [hsnapshot] at hout
      subst hout
      exact iff_of_true hneeds ⟨⟨failure, rfl⟩, rfl⟩
  | ok found =>
      rw [hsnapshot] at hout
      cases found with
      | none => exact absurd henabled (snapshotTarget_eq_none hsnapshot hfile)
      | some target =>
          obtain ⟨found, hfound, _, hvalid⟩ := snapshotTarget_eq_some hsnapshot
          rw [hfile] at hfound
          obtain rfl := Except.ok.inj (Option.some.inj hfound)
          have hagain := (runtimeTargetFromValues_eq_ok_iff.mp hvalid).1
          obtain rfl := hagain.runtimeFile
          have hparent : target.parentComplete = true := by
            have hflag := hagain.parentComplete
            rw [hcomplete] at hflag
            exact (Except.ok.inj hflag).symm
          dsimp only at hout
          rw [if_neg (by rw [(hread.agree hagain).1]; exact hlive), if_pos hparent] at hout
          obtain ⟨hfailed, ⟨hroot, failure, hraised⟩ |
            ⟨left, after, active, revision, hticked, hwritten, _⟩⟩ :=
            commitTick_current hfile henabled hvalid hout
          · exact iff_of_true (hneeds.of_same (by rw [hroot]) hfailed.le)
              ⟨⟨failure, hraised⟩, by rw [hroot]⟩
          · obtain rfl := (tickTarget_ends hticked).2.1 hparent
            have hsettled : ¬ NeedsTick H out.root out.memory target.runtimeFile :=
              not_needsTick_of_settled hagain hticked hwritten
            exact iff_of_false hsettled
              fun hsame => hsettled (hneeds.of_same hsame.2.symm hfailed.le)

/-- **The loop.**  A loop that reports no activity leaves no file of it in need of a tick,
    and no file starts to need one. -/
theorem tickFiles_needs {paths : List String} {active : Bool}
    {out : Mutation WatcherEngine Bool} (hout : tickFiles H env paths root engine active = out) :
    (out.result = .ok false → active = false ∧
        ∀ other ∈ paths, ¬ NeedsTick H out.root out.memory other) ∧
      ∀ other, NeedsTick H out.root out.memory other → NeedsTick H root engine other := by
  induction paths generalizing root engine active with
  | nil =>
      subst hout
      exact ⟨fun hok => ⟨Except.ok.inj hok, fun other hmem => absurd hmem List.not_mem_nil⟩,
        fun _ => id⟩
  | cons path rest ih =>
      rw [tickFiles] at hout
      cases hfile : tickFile H env root engine path with
      | mk between memory result =>
          obtain ⟨hsettled, hkept⟩ := tickFile_needs hfile
          rw [hfile] at hout
          cases result with
          | error failure =>
              subst hout
              exact ⟨fun hok => (nomatch hok), hkept⟩
          | ok fileActive =>
              obtain ⟨hrest, hrestKept⟩ := ih hout
              refine ⟨?_, fun other hneeds => hkept other (hrestKept other hneeds)⟩
              intro hok
              obtain ⟨hidle, hquiet⟩ := hrest hok
              rw [Bool.or_eq_false_iff] at hidle
              refine ⟨hidle.2, ?_⟩
              intro other hmem hneeds
              rcases List.mem_cons.mp hmem with rfl | hmem
              · exact hsettled (by rw [hidle.1]) (hrestKept other hneeds)
              · exact hquiet other hmem hneeds

/-- **One tick.**  A tick that reports no activity leaves no session in need of another,
    and none starts to need one. -/
theorem tick_needs {out : TickOutcome} (hout : engine.tick H env root = out) :
    (out.result = .ok false → ∀ other, ¬ NeedsTick H out.root out.engine other) ∧
      ∀ other, NeedsTick H out.root out.engine other → NeedsTick H root engine other := by
  subst hout
  generalize hloop : tickFiles H env (discoverRuntimeFiles root) root engine false = loop
  obtain ⟨hquiet, hkept⟩ := tickFiles_needs hloop
  have hsame : ∀ other, NeedsTick H (engine.tick H env root).root (engine.tick H env root).engine
      other → NeedsTick H loop.root loop.memory other := by
    intro other hneeds
    unfold WatcherEngine.tick at hneeds
    rw [hloop] at hneeds
    exact hneeds
  refine ⟨?_, fun other hneeds => hkept other (hsame other hneeds)⟩
  intro hok other hneeds
  have hloopOk : loop.result = .ok false := by
    unfold WatcherEngine.tick at hok
    dsimp only at hok
    rw [hloop] at hok
    split at hok
    · cases hok
    · exact hok
  have hbefore := hkept other (hsame other hneeds)
  obtain ⟨values, target, hfile, _⟩ := hbefore
  have hmem : other ∈ discoverRuntimeFiles root :=
    mem_discoverRuntimeFiles.mpr (AList.lookup_isSome.mp (Option.isSome_of_eq_some hfile))
  exact (hquiet hloopOk).2 other hmem (hsame other hneeds)

/-- A loop whose first files raise ends there. -/
theorem tickFiles_append_of_error {first second : List String} {active : Bool}
    {failure : Failure} (hraised : (tickFiles H env first root engine active).result =
      .error failure) :
    tickFiles H env (first ++ second) root engine active =
      tickFiles H env first root engine active := by
  induction first generalizing root engine active with
  | nil => cases hraised
  | cons path rest ih =>
      rw [tickFiles] at hraised
      rw [List.cons_append, tickFiles, tickFiles]
      cases hfile : tickFile H env root engine path with
      | mk between memory result =>
          rw [hfile] at hraised
          cases result with
          | error other => rfl
          | ok fileActive => exact ih hraised

/-- **Up to a file.**  A loop leaves a completed session in need of a tick exactly when it
    raises at or before the session's own file with the document as it was. -/
theorem tickFiles_completes {before rest : List String} {values : RuntimeValues}
    {out : Mutation WatcherEngine Bool} {active : Bool}
    (hfile : root.runtime.lookup path = some (.ok values))
    (hcomplete : values.parentComplete = .value true) (hneeds : NeedsTick H root engine path)
    (hbefore : path ∉ before)
    (hout : tickFiles H env (before ++ path :: rest) root engine active = out) :
    NeedsTick H out.root out.memory path ↔
      (∃ failure, (tickFiles H env (before ++ [path]) root engine active).result =
        .error failure) ∧
      (tickFiles H env (before ++ [path]) root engine active).root.runtime.lookup path =
        root.runtime.lookup path := by
  induction before generalizing root engine active with
  | nil =>
      rw [List.nil_append, tickFiles] at hout
      rw [List.nil_append, tickFiles]
      cases hown : tickFile H env root engine path with
      | mk between memory result =>
          have hiff := tickFile_completes hfile hcomplete hneeds hown
          rw [hown] at hout
          cases result with
          | error failure =>
              subst hout
              exact hiff
          | ok fileActive =>
              refine iff_of_false ?_ ?_
              · intro hafter
                obtain ⟨⟨failure, hraised⟩, _⟩ := hiff.mp ((tickFiles_needs hout).2 path hafter)
                cases hraised
              · rintro ⟨⟨failure, hraised⟩, _⟩
                cases hraised
  | cons first more ih =>
      rw [List.mem_cons, not_or] at hbefore
      rw [List.cons_append, tickFiles] at hout
      rw [List.cons_append, tickFiles]
      have hbeside : ∀ sessionId, sessionFilename H sessionId = path →
          Beside H sessionId root engine (tickFile H env root engine first).root
            (tickFile H env root engine first).memory := by
        rintro sessionId rfl
        exact tickFile_beside env root engine (Ne.symm hbefore.1)
      have hkept : (tickFile H env root engine first).root.runtime.lookup path =
          root.runtime.lookup path := by
        obtain ⟨_, target, _, _, hvalid, _⟩ := id hneeds
        have hruntime := (hbeside target.sessionId hvalid.named).runtime
        rwa [hvalid.named] at hruntime
      have hstill := (needsTick_iff_of_beside hbeside).mpr hneeds
      cases hfirst : tickFile H env root engine first with
      | mk between memory result =>
          rw [hfirst] at hout hkept hstill
          cases result with
          | error failure =>
              subst hout
              exact iff_of_true hstill ⟨⟨failure, rfl⟩, hkept⟩
          | ok fileActive =>
              rw [← hkept]
              exact ih (hkept.trans hfile) hstill hbefore.2 hout

end Needs

/-! ### The service -/

/-- A step of the resident service.  The scheduler hands its live entry to a worker
    (`pop`) before the worker has the lock (`run`), so controls can come between. -/
inductive ResidentStep where
  | start (faults : StartFaults) (now : Int) (request : StartRequest)
  | stop (faults : RemoveFaults) (sessionId : String)
  | complete (faults : NotificationDaemon.CompleteFaults) (env : TickEnvironment)
      (sessionId : String)
  | observe (env : TickEnvironment)
  | pop
  | run (env : TickEnvironment)
  | close
  | fatal

/-- The service, and whether a worker holds the entry of a tick. -/
structure ResidentState where
  service : NotificationDaemon
  running : Bool

namespace NotificationDaemon

/-- `_reconcile`, once a worker has taken the entry. -/
def runTick (H : Digest) (env : TickEnvironment) (service : NotificationDaemon) :
    NotificationDaemon × List PendingNotification :=
  if service.closed then
    ({ service with health := if service.health = .degraded then .healthy else service.health }, [])
  else
    let (service, queued, ticked) := tickEngine H env service
    let active := match ticked with
      | .ok active => active
      | .error _ => true
    let service := if active then (scheduleTick service).1 else service
    let health := match ticked, service.health with
      | .error _, .healthy => .degraded
      | .ok _, .degraded => .healthy
      | _, health => health
    ({ service with health }, queued)

/-- Taking the entry and running it is one reconciliation. -/
theorem reconcile_eq_runTick (H : Digest) (env : TickEnvironment) (service : NotificationDaemon) :
    service.reconcile H env = runTick H env { service with scheduled := false } := rfl

end NotificationDaemon

/-- One step of the service under its lock. -/
def residentStep (H : Digest) (state : ResidentState) : ResidentStep → ResidentState
  | .start faults now request =>
      { state with service := (state.service.start H faults now request).1 }
  | .stop faults sessionId => { state with service := (state.service.stop H faults sessionId).1 }
  | .complete faults env sessionId =>
      { state with service := (state.service.complete H faults env sessionId).1 }
  | .observe env => { state with service := (state.service.observe H env).1 }
  | .pop =>
      if state.service.scheduled && !state.running then
        ⟨{ state.service with scheduled := false }, true⟩
      else state
  | .run env =>
      if state.running then ⟨(state.service.runTick H env).1, false⟩ else state
  | .close => { state with service := { state.service with closed := true } }
  | .fatal => { state with service := { state.service with health := .fatal } }

def residentMachine (H : Digest) : Machine ResidentState ResidentStep Unit :=
  ⟨fun state input => (residentStep H state input, ())⟩

/-- While the service is open and its scheduler works, a session in need of a tick has
    one scheduled or running. -/
def Awake (H : Digest) (state : ResidentState) : Prop :=
  state.service.closed = false → state.service.health ≠ .fatal →
    (∃ path, NeedsTick H state.service.root state.service.engine path) →
    state.service.scheduled = true ∨ state.running = true

/-- The service is open and its scheduler works, and no tick is scheduled or running. -/
def Asleep (state : ResidentState) : Prop :=
  state.service.closed = false ∧ state.service.health ≠ .fatal ∧
    state.service.scheduled = false ∧ state.running = false

/-- A start that creates the document and raises behind its replacement. -/
def StartRaises (H : Digest) (root : StateRoot) (faults : StartFaults) (request : StartRequest) :
    Prop :=
  root.runtime.lookup (sessionFilename H request.sessionId) = none ∧
    faults.transcript.isSome = true ∧ faults.save = none ∧ faults.release.isSome = true

/-- The loop of a tick, up to one file and with it. -/
def loopUpTo (H : Digest) (env : TickEnvironment) (root : StateRoot) (engine : WatcherEngine)
    (path : String) : Mutation WatcherEngine Bool :=
  tickFiles H env ((discoverRuntimeFiles root).takeWhile (· ≠ path) ++ [path]) root engine false

/-- A completion marks a session that then needs a tick, and raises behind the mark, or the
    loop of its tick raises before the document of the session is written. -/
def CompletionRaises (H : Digest) (service : NotificationDaemon)
    (faults : NotificationDaemon.CompleteFaults) (env : TickEnvironment) (sessionId : String) :
    Prop :=
  ∃ root result, markNotificationSessionComplete H faults.mark service.root sessionId =
      (root, result) ∧
    NeedsTick H root service.engine (sessionFilename H sessionId) ∧
    ((∃ failure, result = .error failure) ∨ result = .ok true ∧
      (∃ failure, (loopUpTo H env root service.engine (sessionFilename H sessionId)).result =
        .error failure) ∧
      (loopUpTo H env root service.engine (sessionFilename H sessionId)).root.runtime.lookup
          (sessionFilename H sessionId) =
        root.runtime.lookup (sessionFilename H sessionId))

/-- The steps that lose a wakeup: asleep, a control writes and raises. -/
def LosesWakeup (H : Digest) (state : ResidentState) : ResidentStep → Prop
  | .start faults _ request =>
      Asleep state ∧ StartRaises H state.service.root faults request ∧
        request.sessionId ∉ state.service.engine.failedSessions
  | .complete faults env sessionId =>
      Asleep state ∧ CompletionRaises H state.service faults env sessionId
  | _ => False

/-! ### Controls -/

section Controls

variable {H : Digest} {root root' : StateRoot} {engine : WatcherEngine}

/-- Marking touches one file.  It leaves that too, or the session is then complete; a mark
    that returns tells which. -/
theorem markNotificationSessionComplete_spec {faults : MutationFaults} {sessionId : String}
    {result : Except Failure Bool}
    (hmark : markNotificationSessionComplete H faults root sessionId = (root', result)) :
    (∀ other, other ≠ sessionFilename H sessionId →
        root'.runtime.lookup other = root.runtime.lookup other) ∧
      (result = .ok false → root' = root) ∧
      ((root' = root ∧ result ≠ .ok true) ∨ ∃ values,
        root'.runtime.lookup (sessionFilename H sessionId) = some (.ok values) ∧
          values.parentComplete = .value true) := by
  unfold markNotificationSessionComplete at hmark
  dsimp only at hmark
  obtain ⟨rfl, rfl⟩ := Prod.mk.inj hmark
  generalize hout : mutateExistingState faults root (sessionFilename H sessionId) ()
    (fun memory values => (memory, completeValues (sessionFilename H sessionId) values))
    noCommit = out
  rcases mutateExistingState_cases hout with ⟨_, rfl⟩ | ⟨hroot, ⟨failure, hraised⟩, _⟩ |
      ⟨original, values, result, hfile, hmutator, hroot, hresult⟩
  · exact ⟨fun _ _ => rfl, fun _ => rfl, Or.inl ⟨rfl, by simp [Except.map]⟩⟩
  · rw [hroot, hraised]
    exact ⟨fun _ _ => rfl, fun _ => rfl, Or.inl ⟨rfl, by simp [Except.map]⟩⟩
  · have hcompleted := congrArg Prod.snd hmutator
    dsimp only at hcompleted
    unfold completeValues at hcompleted
    dsimp only [noCommit] at hroot hresult
    have houtcome : out.result.map (fun result => decide (result = some true)) =
        faults.leave (.ok (decide (some result = some true))) := by
      rw [hresult, MutationFaults.map_leave]
      rfl
    rw [houtcome]
    split_ifs at hcompleted with henabled
    · obtain ⟨rfl, rfl⟩ := Prod.mk.inj (Except.ok.inj hcompleted)
      rw [if_pos rfl] at hroot
      rw [hroot]
      refine ⟨fun _ _ => rfl, fun _ => rfl, Or.inl ⟨rfl, fun hok => ?_⟩⟩
      have hmarked := Except.ok.inj (MutationFaults.leave_eq_ok.mp hok).2
      simp at hmarked
    · obtain ⟨revision, _, hpair⟩ := exceptBind_eq_ok hcompleted
      obtain ⟨rfl, rfl⟩ := Prod.mk.inj (Except.ok.inj hpair)
      refine ⟨?_, fun hok => ?_, Or.inr ⟨{ original with
        parentComplete := .value true, revision := .value (revision + 1) }, ?_, rfl⟩⟩
      · intro other hne
        rw [hroot]
        split_ifs
        · rfl
        · exact root.setRuntime_lookup_ne _ hne
      · have hmarked := Except.ok.inj (MutationFaults.leave_eq_ok.mp hok).2
        simp at hmarked
      · rw [hroot]
        split_ifs with hsame
        · rw [hsame, hfile]
        · exact root.setRuntime_lookup _ _

/-- Removing a session gives no file work. -/
theorem removeNotificationSession_needs {faults : RemoveFaults} {sessionId path : String}
    {result : Except Failure Unit}
    (hremove : removeNotificationSession H faults root sessionId = (root', result))
    (hneeds : NeedsTick H root' engine path) : NeedsTick H root engine path := by
  have hlookup : root'.runtime.lookup path = root.runtime.lookup path ∨
      root'.runtime.lookup path = none := by
    have herase : (root.runtime.erase (sessionFilename H sessionId)).lookup path =
        root.runtime.lookup path ∨
        (root.runtime.erase (sessionFilename H sessionId)).lookup path = none := by
      by_cases hsame : path = sessionFilename H sessionId
      · subst hsame
        exact Or.inr (AList.lookup_erase _ _)
      · exact Or.inl (AList.lookup_erase_ne hsame)
    unfold removeNotificationSession at hremove
    dsimp only at hremove
    split at hremove
    · obtain ⟨rfl, _⟩ := Prod.mk.inj hremove
      exact Or.inl rfl
    · split at hremove <;>
        obtain ⟨rfl, _⟩ := Prod.mk.inj hremove <;>
        exact herase
  rcases hlookup with hsame | habsent
  · exact hneeds.of_same hsame subset_rfl
  · exact absurd hneeds (not_needsTick_of_absent habsent)

/-- A document that a start creates needs a tick, unless its session is in quarantine. -/
theorem needsTick_newSession {request : StartRequest} {transcript : RelativeTranscript}
    {now : Int} (hwritten : root.runtime.lookup (sessionFilename H request.sessionId) =
      some (.ok (newSession request transcript now))) :
    NeedsTick H root engine (sessionFilename H request.sessionId) ↔
      request.sessionId ∉ engine.failedSessions := by
  have hvalid := (SessionDocument.started request transcript now).runtimeTargetFromValues_values H
    .ok
  have hread := (runtimeTargetFromValues_eq_ok_iff.mp hvalid).1
  constructor
  · rintro ⟨values, target, hfile, _, hagain, hlive, _⟩
    rw [hwritten] at hfile
    obtain rfl := Except.ok.inj (Option.some.inj hfile)
    rwa [(hread.agree hagain).1] at hlive
  · exact fun hlive => ⟨_, _, hwritten, rfl, hread, hlive, Or.inl rfl⟩

/-- A start that raises leaves the files as they were, or has created the document and
    raises behind its replacement. -/
theorem startNotificationSession_error {faults : StartFaults} {request : StartRequest}
    {now : Int} {failure : ServiceError}
    (hstart : startNotificationSession H faults root request now = (root', .error failure)) :
    (root' = root ∧ ¬ StartRaises H root faults request) ∨
      StartRaises H root faults request ∧
      ∃ transcript, root' = root.setRuntime (sessionFilename H request.sessionId)
        (newSession request transcript now) := by
  unfold startNotificationSession at hstart
  unfold StartRaises
  cases htranscript : faults.transcript with
  | none =>
      rw [htranscript] at hstart
      exact Or.inl ⟨(Prod.mk.inj hstart).1.symm, by simp⟩
  | some transcript =>
      rw [htranscript] at hstart
      dsimp only at hstart
      cases hfile : root.runtime.lookup (sessionFilename H request.sessionId) with
      | some file =>
          refine Or.inl ⟨?_, by simp⟩
          rw [hfile] at hstart
          cases file with
          | error other => exact (Prod.mk.inj hstart).1.symm
          | ok values =>
              dsimp only at hstart
              split_ifs at hstart <;> exact (Prod.mk.inj hstart).1.symm
      | none =>
          rw [hfile] at hstart
          cases hsave : faults.save with
          | some other =>
              rw [hsave] at hstart
              exact Or.inl ⟨(Prod.mk.inj hstart).1.symm, by simp⟩
          | none =>
              rw [hsave] at hstart
              cases hrelease : faults.release with
              | none =>
                  rw [hrelease] at hstart
                  cases (Prod.mk.inj hstart).2
              | some other =>
                  exact Or.inr ⟨⟨rfl, rfl, rfl, rfl⟩, transcript, (Prod.mk.inj hstart).1.symm⟩

/-- A tick of the worker runs the engine, and schedules the next unless the engine reports
    that nothing is active or the scheduler is fatal. -/
theorem runTick_of_open {service : NotificationDaemon} {env : TickEnvironment}
    {out : TickOutcome} (hopen : service.closed = false)
    (htick : service.engine.tick H env service.root = out) :
    (service.runTick H env).1.root = out.root ∧ (service.runTick H env).1.engine = out.engine ∧
      (out.result = .ok false ∨ (service.runTick H env).1.health = .fatal ∨
        (service.runTick H env).1.scheduled = true) := by
  unfold NotificationDaemon.runTick NotificationDaemon.tickEngine
  rw [hopen, if_neg Bool.false_ne_true, htick]
  obtain ⟨root, engine, queued, result⟩ := out
  dsimp only [NotificationDaemon.scheduleTick]
  cases hhealth : service.health with
  | fatal =>
      rcases result with failure | active
      · exact ⟨rfl, rfl, Or.inr (Or.inl rfl)⟩
      · cases active with
        | false => exact ⟨rfl, rfl, Or.inl rfl⟩
        | true => exact ⟨rfl, rfl, Or.inr (Or.inl rfl)⟩
  | healthy =>
      rcases result with failure | active
      · exact ⟨rfl, rfl, Or.inr (Or.inr rfl)⟩
      · cases active with
        | false => exact ⟨rfl, rfl, Or.inl rfl⟩
        | true => exact ⟨rfl, rfl, Or.inr (Or.inr rfl)⟩
  | degraded =>
      rcases result with failure | active
      · exact ⟨rfl, rfl, Or.inr (Or.inr rfl)⟩
      · cases active with
        | false => exact ⟨rfl, rfl, Or.inl rfl⟩
        | true => exact ⟨rfl, rfl, Or.inr (Or.inr rfl)⟩

theorem runTick_of_closed {service : NotificationDaemon} {env : TickEnvironment}
    (hclosed : service.closed = true) : (service.runTick H env).1.closed = true := by
  unfold NotificationDaemon.runTick
  rw [if_pos hclosed]
  exact hclosed

section Complete

variable {service : NotificationDaemon} {faults : NotificationDaemon.CompleteFaults}
  {env : TickEnvironment} {sessionId : String}

/-- A completion whose mark raises stops there. -/
theorem completedService_of_error {failure : Failure} (hopen : service.closed = false)
    (hmark : markNotificationSessionComplete H faults.mark service.root sessionId =
      (root', .error failure)) :
    (service.complete H faults env sessionId).1 = { service with root := root' } := by
  unfold NotificationDaemon.complete
  rw [if_neg (by simp [hopen]), hmark]

/-- A completion that marks nothing removes the session. -/
theorem completedService_of_unmarked (hopen : service.closed = false)
    (hmark : markNotificationSessionComplete H faults.mark service.root sessionId =
      (root', .ok false)) :
    (service.complete H faults env sessionId).1 = { service with
      root := (removeNotificationSession H faults.remove service.root sessionId).1 } := by
  obtain rfl := (markNotificationSessionComplete_spec hmark).2.1 rfl
  unfold NotificationDaemon.complete
  rw [if_neg (by simp [hopen]), hmark]
  dsimp only
  rw [if_neg Bool.false_ne_true]
  dsimp only
  cases removeNotificationSession H faults.remove service.root sessionId with
  | mk removed outcome => cases outcome <;> rfl

/-- A completion that marks its session ticks the engine, and removes the session if the
    tick did not raise. -/
theorem completedService_of_marked {out : TickOutcome} (hopen : service.closed = false)
    (hmark : markNotificationSessionComplete H faults.mark service.root sessionId =
      (root', .ok true)) (htick : service.engine.tick H env root' = out) :
    (service.complete H faults env sessionId).1 =
      match out.result with
      | .error _ => { service with root := out.root, engine := out.engine }
      | .ok _ => { service with
          root := (removeNotificationSession H faults.remove out.root sessionId).1
          engine := out.engine } := by
  unfold NotificationDaemon.complete NotificationDaemon.tickEngine
  rw [if_neg (by simp [hopen]), hmark]
  dsimp only
  rw [if_pos rfl, htick]
  obtain ⟨root, engine, queued, result⟩ := out
  cases result with
  | error failure => rfl
  | ok active =>
      dsimp only
      cases removeNotificationSession H faults.remove root sessionId with
      | mk removed outcome => cases outcome <;> rfl

theorem completedService_frame :
    (service.complete H faults env sessionId).1.closed = service.closed ∧
      (service.complete H faults env sessionId).1.health = service.health ∧
      (service.complete H faults env sessionId).1.scheduled = service.scheduled := by
  cases hclosed : service.closed with
  | true =>
      unfold NotificationDaemon.complete
      rw [if_pos hclosed]
      exact ⟨hclosed, rfl, rfl⟩
  | false =>
      cases hmark : markNotificationSessionComplete H faults.mark service.root sessionId with
      | mk root result =>
          cases result with
          | error failure =>
              rw [completedService_of_error hclosed hmark]
              exact ⟨hclosed, rfl, rfl⟩
          | ok marked =>
              cases marked with
              | true =>
                  rw [completedService_of_marked hclosed hmark rfl]
                  split <;> exact ⟨hclosed, rfl, rfl⟩
              | false =>
                  rw [completedService_of_unmarked hclosed hmark]
                  exact ⟨hclosed, rfl, rfl⟩

/-- A loop that raises makes its tick raise. -/
theorem tick_error_of_loop {failure : Failure}
    (hraised : (tickFiles H env (discoverRuntimeFiles root) root engine false).result =
      .error failure) : ∃ other, (engine.tick H env root).result = .error other := by
  unfold WatcherEngine.tick
  dsimp only
  split
  · next other _ => exact ⟨other, rfl⟩
  · exact ⟨failure, hraised⟩

theorem takeWhile_ne_split {own : String} {files : List String} (hmem : own ∈ files) :
    own ∉ files.takeWhile (· ≠ own) ∧
      ∃ rest, files = files.takeWhile (· ≠ own) ++ own :: rest := by
  induction files with
  | nil => exact absurd hmem List.not_mem_nil
  | cons file rest ih =>
      by_cases hsame : file = own
      · subst hsame
        rw [List.takeWhile_cons_of_neg (by simp)]
        exact ⟨List.not_mem_nil, rest, rfl⟩
      · rw [List.takeWhile_cons_of_pos (by simpa using hsame)]
        obtain ⟨hnot, more, hsplit⟩ := ih (List.mem_of_ne_of_mem (Ne.symm hsame) hmem)
        refine ⟨?_, more, ?_⟩
        · rw [List.mem_cons, not_or]
          exact ⟨Ne.symm hsame, hnot⟩
        · rw [List.cons_append, ← hsplit]

/-- A tick leaves a completed session in need of another exactly when its loop raises at
    or before the file of the session with the document as it was; the tick then raises
    too. -/
theorem tick_completes {path : String} {values : RuntimeValues} {out : TickOutcome}
    (hfile : root.runtime.lookup path = some (.ok values))
    (hcomplete : values.parentComplete = .value true) (hneeds : NeedsTick H root engine path)
    (htick : engine.tick H env root = out) :
    (NeedsTick H out.root out.engine path ↔
      (∃ failure, (loopUpTo H env root engine path).result = .error failure) ∧
      (loopUpTo H env root engine path).root.runtime.lookup path =
        root.runtime.lookup path) ∧
      (NeedsTick H out.root out.engine path → ∃ failure, out.result = .error failure) := by
  have hmem : path ∈ discoverRuntimeFiles root :=
    mem_discoverRuntimeFiles.mpr (AList.lookup_isSome.mp (Option.isSome_of_eq_some hfile))
  obtain ⟨hnot, rest, hsplit⟩ := takeWhile_ne_split hmem
  subst htick
  generalize hloop : tickFiles H env (discoverRuntimeFiles root) root engine false = loop
  have hsame : NeedsTick H (engine.tick H env root).root (engine.tick H env root).engine path ↔
      NeedsTick H loop.root loop.memory path := by
    rw [← hloop]
    exact Iff.rfl
  have hiff : NeedsTick H loop.root loop.memory path ↔
      (∃ failure, (loopUpTo H env root engine path).result = .error failure) ∧
      (loopUpTo H env root engine path).root.runtime.lookup path =
        root.runtime.lookup path := by
    rw [hsplit] at hloop
    exact tickFiles_completes hfile hcomplete hneeds hnot hloop
  refine ⟨hsame.trans hiff, ?_⟩
  intro hafter
  obtain ⟨⟨failure, hraised⟩, _⟩ := hiff.mp (hsame.mp hafter)
  unfold loopUpTo at hraised
  have hwhole : (tickFiles H env (discoverRuntimeFiles root) root engine false).result =
      .error failure := by
    rw [hsplit, ← List.singleton_append, ← List.append_assoc,
      tickFiles_append_of_error hraised, hraised]
  exact tick_error_of_loop hwhole

/-- **Completion.**  When no session needed a tick before, a completion leaves one in need
    exactly when its mark gave it work, and the mark raised or the loop did before the
    session was done. -/
theorem completedService_needs (hopen : service.closed = false)
    (hquiet : ∀ path, ¬ NeedsTick H service.root service.engine path) :
    (∃ path, NeedsTick H (service.complete H faults env sessionId).1.root
        (service.complete H faults env sessionId).1.engine path) ↔
      CompletionRaises H service faults env sessionId := by
  cases hmark : markNotificationSessionComplete H faults.mark service.root sessionId with
  | mk marked result =>
      obtain ⟨hothers, hunmarked, hown⟩ := markNotificationSessionComplete_spec hmark
      have honly : ∀ path, NeedsTick H marked service.engine path →
          path = sessionFilename H sessionId := by
        intro path hneeds
        by_contra hne
        exact hquiet path (hneeds.of_same (hothers path hne) subset_rfl)
      have hraises : CompletionRaises H service faults env sessionId ↔
          NeedsTick H marked service.engine (sessionFilename H sessionId) ∧
          ((∃ failure, result = .error failure) ∨ result = .ok true ∧
            (∃ failure, (loopUpTo H env marked service.engine
              (sessionFilename H sessionId)).result = .error failure) ∧
            (loopUpTo H env marked service.engine (sessionFilename H sessionId)).root.runtime.lookup
                (sessionFilename H sessionId) =
              marked.runtime.lookup (sessionFilename H sessionId)) := by
        constructor
        · rintro ⟨root, outcome, heq, hfacts⟩
          obtain ⟨rfl, rfl⟩ := Prod.mk.inj (hmark.symm.trans heq)
          exact hfacts
        · exact fun hfacts => ⟨marked, result, hmark, hfacts⟩
      rw [hraises]
      cases result with
      | error failure =>
          rw [completedService_of_error hopen hmark]
          constructor
          · rintro ⟨path, hpath⟩
            obtain rfl := honly path hpath
            exact ⟨hpath, Or.inl ⟨failure, rfl⟩⟩
          · rintro ⟨hneeds, _⟩
            exact ⟨_, hneeds⟩
      | ok done =>
          cases done with
          | false =>
              obtain rfl := hunmarked rfl
              rw [completedService_of_unmarked hopen hmark]
              refine iff_of_false ?_ fun hfacts => hquiet _ hfacts.1
              rintro ⟨path, hpath⟩
              exact hquiet path (removeNotificationSession_needs rfl hpath)
          | true =>
              obtain ⟨_, hnot⟩ | ⟨values, hfile, hcomplete⟩ := hown
              · exact absurd rfl hnot
              · generalize htick : service.engine.tick H env marked = out
                obtain ⟨_, hkept⟩ := tick_needs htick
                have hservice := completedService_of_marked hopen hmark htick
                constructor
                · rintro ⟨path, hpath⟩
                  have hafter : NeedsTick H out.root out.engine path := by
                    rw [hservice] at hpath
                    cases hresult : out.result with
                    | error failure =>
                        rw [hresult] at hpath
                        exact hpath
                    | ok active =>
                        rw [hresult] at hpath
                        exact removeNotificationSession_needs rfl hpath
                  have hbefore := hkept path hafter
                  obtain rfl := honly path hbefore
                  exact ⟨hbefore, Or.inr ⟨rfl,
                    (tick_completes hfile hcomplete hbefore htick).1.mp hafter⟩⟩
                · rintro ⟨hneeds, ⟨_, hraised⟩ | ⟨_, hloop⟩⟩
                  · cases hraised
                  · obtain ⟨hiff, herror⟩ := tick_completes hfile hcomplete hneeds htick
                    have hstill := hiff.mpr hloop
                    obtain ⟨other, hresult⟩ := herror hstill
                    refine ⟨sessionFilename H sessionId, ?_⟩
                    rw [hservice, hresult]
                    exact hstill

end Complete

end Controls

/-! ### One step -/

section Step

variable {H : Digest} {state : ResidentState}

/-- A step that leaves the scheduler alone and gives no file work keeps the service awake. -/
theorem Awake.of_needs {service : NotificationDaemon} (hawake : Awake H state)
    (hclosed : service.closed = state.service.closed)
    (hhealth : service.health = state.service.health)
    (hscheduled : service.scheduled = state.service.scheduled)
    (hneeds : ∀ path, NeedsTick H service.root service.engine path →
      NeedsTick H state.service.root state.service.engine path) :
    Awake H { state with service } := by
  rintro hopen hworks ⟨path, hpath⟩
  have hbefore := hawake (hclosed ▸ hopen) (hhealth ▸ hworks) ⟨path, hneeds path hpath⟩
  exact hbefore.imp (fun heq => hscheduled.trans heq) id

theorem Awake.quiet (hawake : Awake H state) (hasleep : Asleep state) (path : String) :
    ¬ NeedsTick H state.service.root state.service.engine path := by
  obtain ⟨hopen, hworks, hunscheduled, hidle⟩ := hasleep
  intro hpath
  rcases hawake hopen hworks ⟨path, hpath⟩ with hbusy | hbusy
  · rw [hunscheduled] at hbusy
    cases hbusy
  · rw [hidle] at hbusy
    cases hbusy

/-- A control that leaves the scheduler alone keeps the service awake exactly when, asleep,
    it gives no session work. -/
theorem awake_iff_of_frame {service : NotificationDaemon} {lost : Prop}
    (hclosed : service.closed = state.service.closed)
    (hhealth : service.health = state.service.health)
    (hscheduled : service.scheduled = state.service.scheduled)
    (hneeds : Asleep state → ((∃ path, NeedsTick H service.root service.engine path) ↔ lost)) :
    Awake H { state with service } ↔ ¬ (Asleep state ∧ lost) := by
  by_cases hasleep : Asleep state
  · obtain ⟨hopen, hworks, hunscheduled, hidle⟩ := id hasleep
    constructor
    · rintro hafter ⟨_, hlost⟩
      rcases hafter (hclosed.trans hopen) (hhealth ▸ hworks) ((hneeds hasleep).mpr hlost) with
        hbusy | hbusy
      · exact Bool.false_ne_true ((hscheduled.trans hunscheduled).symm.trans hbusy)
      · exact Bool.false_ne_true (hidle.symm.trans hbusy)
    · intro hkept _ _ hafter
      exact absurd ⟨hasleep, (hneeds hasleep).mp hafter⟩ hkept
  · refine iff_of_true ?_ fun hboth => hasleep hboth.1
    intro hopen hworks _
    by_contra hbusy
    obtain ⟨hset, hidle⟩ := not_or.mp hbusy
    exact hasleep ⟨hclosed.symm.trans hopen, fun heq => hworks (hhealth.trans heq),
      hscheduled.symm.trans (Bool.eq_false_of_not_eq_true hset),
      Bool.eq_false_of_not_eq_true hidle⟩

theorem awake_start (hawake : Awake H state) (faults : StartFaults) (now : Int)
    (request : StartRequest) : Awake H (residentStep H state (.start faults now request)) ↔
      ¬ LosesWakeup H state (.start faults now request) := by
  unfold residentStep NotificationDaemon.start LosesWakeup
  dsimp only
  split_ifs with hclosed
  · refine iff_of_true hawake fun hlost => ?_
    rw [hlost.1.1] at hclosed
    cases hclosed
  · cases hstart : startNotificationSession H faults state.service.root request now with
    | mk root outcome =>
        cases outcome with
        | error failure =>
            dsimp only
            refine awake_iff_of_frame rfl rfl rfl fun hasleep => ?_
            have hquiet := hawake.quiet hasleep
            rcases startNotificationSession_error hstart with
              ⟨rfl, hnot⟩ | ⟨hbehind, transcript, rfl⟩
            · exact iff_of_false (fun ⟨path, hpath⟩ => hquiet path hpath)
                fun hlost => hnot hlost.1
            · have hwritten := state.service.root.setRuntime_lookup
                (sessionFilename H request.sessionId) (newSession request transcript now)
              constructor
              · rintro ⟨path, hpath⟩
                by_cases hsame : path = sessionFilename H request.sessionId
                · subst hsame
                  exact ⟨hbehind, (needsTick_newSession hwritten).mp hpath⟩
                · exact absurd (hpath.of_same
                    (state.service.root.setRuntime_lookup_ne _ hsame) subset_rfl) (hquiet path)
              · rintro ⟨_, hlive⟩
                exact ⟨_, (needsTick_newSession hwritten).mpr hlive⟩
        | ok reused =>
            have hunlost : ¬ (Asleep state ∧ StartRaises H state.service.root faults request ∧
                request.sessionId ∉ state.service.engine.failedSessions) := by
              rintro ⟨_, ⟨habsent, htranscript, hsave, hrelease⟩, _⟩
              obtain ⟨transcript, htranscript⟩ := Option.isSome_iff_exists.mp htranscript
              obtain ⟨failure, hrelease⟩ := Option.isSome_iff_exists.mp hrelease
              simp [startNotificationSession, htranscript, habsent, hsave, hrelease] at hstart
            refine iff_of_true ?_ hunlost
            dsimp only [NotificationDaemon.scheduleTick]
            cases hhealth : state.service.health with
            | fatal => exact fun _ hworks => absurd rfl hworks
            | healthy => exact fun _ _ _ => Or.inl rfl
            | degraded => exact fun _ _ _ => Or.inl rfl

theorem awake_stop (hawake : Awake H state) (faults : RemoveFaults) (sessionId : String) :
    Awake H (residentStep H state (.stop faults sessionId)) := by
  unfold residentStep NotificationDaemon.stop
  dsimp only
  split_ifs
  · exact hawake
  · cases hremove : removeNotificationSession H faults state.service.root sessionId with
    | mk root outcome =>
        have hneeds : ∀ path, NeedsTick H root state.service.engine path →
            NeedsTick H state.service.root state.service.engine path :=
          fun path => removeNotificationSession_needs hremove
        cases outcome with
        | error failure => exact hawake.of_needs rfl rfl rfl hneeds
        | ok _ => exact hawake.of_needs rfl rfl rfl hneeds

theorem awake_observe (hawake : Awake H state) (env : TickEnvironment) :
    Awake H (residentStep H state (.observe env)) := by
  unfold residentStep NotificationDaemon.observe NotificationDaemon.tickEngine
  dsimp only
  split_ifs
  · exact hawake
  · exact hawake.of_needs rfl rfl rfl (tick_needs rfl).2

theorem awake_run (hawake : Awake H state) (env : TickEnvironment) :
    Awake H (residentStep H state (.run env)) := by
  unfold residentStep
  dsimp only
  cases hrunning : state.running with
  | false =>
      rw [if_neg Bool.false_ne_true]
      exact hawake
  | true =>
      rw [if_pos rfl]
      cases hclosed : state.service.closed with
      | true =>
          intro hopen
          rw [runTick_of_closed hclosed] at hopen
          cases hopen
      | false =>
          rintro _ hworks ⟨path, hpath⟩
          generalize htick : state.service.engine.tick H env state.service.root = outcome
          obtain ⟨hroot, hengine, hquiet | hfatal | hscheduled⟩ := runTick_of_open hclosed htick
          · rw [hroot, hengine] at hpath
            exact absurd hpath ((tick_needs htick).1 hquiet path)
          · exact absurd hfatal hworks
          · exact Or.inl hscheduled

theorem awake_complete (hawake : Awake H state) (faults : NotificationDaemon.CompleteFaults)
    (env : TickEnvironment) (sessionId : String) :
    Awake H (residentStep H state (.complete faults env sessionId)) ↔
      ¬ LosesWakeup H state (.complete faults env sessionId) := by
  obtain ⟨hclosed, hhealth, hscheduled⟩ := @completedService_frame H state.service faults env
    sessionId
  exact awake_iff_of_frame hclosed hhealth hscheduled fun hasleep =>
    completedService_needs hasleep.1 (hawake.quiet hasleep)

/-- Only a step that loses a wakeup takes an awake service to one that is not. -/
theorem awake_step (state : ResidentState) (step : ResidentStep) (hawake : Awake H state) :
    Awake H ((residentMachine H).step state step).1 ↔ ¬ LosesWakeup H state step := by
  cases step with
  | start faults now request => exact awake_start hawake faults now request
  | stop faults sessionId => exact iff_of_true (awake_stop hawake faults sessionId) not_false
  | complete faults env sessionId => exact awake_complete hawake faults env sessionId
  | observe env => exact iff_of_true (awake_observe hawake env) not_false
  | pop =>
      refine iff_of_true ?_ not_false
      change Awake H (residentStep H state .pop)
      unfold residentStep
      dsimp only
      split_ifs
      · exact fun _ _ _ => Or.inr rfl
      · exact hawake
  | run env => exact iff_of_true (awake_run hawake env) not_false
  | close => exact iff_of_true (fun hopen => (nomatch hopen)) not_false
  | fatal => exact iff_of_true (fun _ hworks => absurd rfl hworks) not_false

/-- A fresh service on existing files is awake: it schedules a tick if there is a file. -/
theorem awake_create (root : StateRoot) (log : DiagnosticLog) :
    Awake H ⟨NotificationDaemon.create root log, false⟩ := by
  rintro _ _ ⟨path, values, target, hfile, _⟩
  have hmem : path ∈ discoverRuntimeFiles root :=
    mem_discoverRuntimeFiles.mpr (AList.lookup_isSome.mp (Option.isSome_of_eq_some hfile))
  left
  change (!(discoverRuntimeFiles root).isEmpty) = true
  rw [Bool.not_eq_true', List.isEmpty_eq_false_iff]
  exact List.ne_nil_of_mem hmem

end Step

/-- **Wakeups.**  From a fresh service on any files, every state of a run is awake exactly
    when no step of the run loses a wakeup. -/
theorem wakeups_iff (H : Digest) (root : StateRoot) (log : DiagnosticLog)
    (steps : List ResidentStep) :
    (∀ past, past <+: steps → Awake H ((residentMachine H).after
        ⟨NotificationDaemon.create root log, false⟩ past)) ↔
      (residentMachine H).Guarded (fun state step => ¬ LosesWakeup H state step)
        ⟨NotificationDaemon.create root log, false⟩ steps :=
  (residentMachine H).invariant_along_iff awake_step (awake_create root log)

/-! ### A lost completion -/

/-- A document whose only monitor has ended, with its completion still to come. -/
def endedValues : RuntimeValues :=
  { newSession sampleRequest sampleTranscript 0 with
    parent := .value { newMonitor 0 with status := .value .terminal } }

def endedRoot : StateRoot := StateRoot.empty.setRuntime "s.json" endedValues

/-- The first tick finds nothing active; then the session completes and the state
    cannot be written by the tick. -/
def losingSteps : List ResidentStep :=
  [.pop, .run (.delivering ⟨0, 0⟩ []),
    .complete {} { TickEnvironment.delivering ⟨1, 1⟩ [] with
      commitFaults := fun _ => { write := some .osError } } "s"]

/-- What the document is after the completion that raised. -/
def markedValues : RuntimeValues :=
  { endedValues with parentComplete := .value true, revision := .value 1 }

def markedTarget : RuntimeTarget where
  sessionId := "s"
  runtimeFile := "s.json"
  rolloutFile := "t"
  parentTurnId := none
  parentComplete := true
  thresholds := ⟨1000, 2000, by decide, by decide⟩
  turnActivityEpoch := 0
  revision := 1
  parent := some {
    targetId := none, generation := 1, terminal := true, openToolCount := 0
    waitingForApproval := false, waitingForUser := false, progressEpoch := 0, startedAt := some 0 }
  children := []

theorem wakeup_lost : ¬ ∀ past, past <+: losingSteps →
    Awake .transparent ((residentMachine .transparent).after
      ⟨NotificationDaemon.create endedRoot [], false⟩ past) := by
  intro hall
  have hvalid : runtimeTargetFromValues .transparent .ok "s.json" markedValues =
      .ok markedTarget := rfl
  have hlast := hall losingSteps (List.prefix_refl _) (by decide +kernel) (by decide +kernel)
    ⟨"s.json", markedValues, markedTarget, by decide +kernel, by decide +kernel,
      (runtimeTargetFromValues_eq_ok_iff.mp hvalid).1, by decide +kernel,
      Or.inr ⟨rfl, by decide +kernel⟩⟩
  revert hlast
  decide +kernel

end CodexMustWork
