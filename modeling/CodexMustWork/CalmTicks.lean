import CodexMustWork.SessionClosing

/-!
# Ticks over the sessions of the service

The state root as the service fills it: every runtime file holds a session it
started, running or completed.  When nothing fails but the rollouts, a tick
reaches every file, and what it does to one session is not touched by the
others, whatever separators their identifiers contain.
-/

namespace CodexMustWork

/-! ### Targets of the service -/

/-- A target without a turn and without children, as the service starts them. -/
structure RuntimeTarget.Plain (target : RuntimeTarget) : Prop where
  turn : target.parentTurnId = none
  monitors : ∀ monitor ∈ target.targets, monitor.targetId = none

theorem SessionDocument.plain_target (H : Digest) (doc : SessionDocument) (rollout : String) :
    (doc.target H rollout).Plain := by
  refine ⟨rfl, ?_⟩
  intro monitor hmonitor
  rw [doc.targets_target] at hmonitor
  rw [List.mem_singleton.mp hmonitor]
  rfl

theorem SessionDocument.plain_closingTarget (H : Digest) (doc : SessionDocument) (claimed : Bool)
    (rollout : String) : (doc.closingTarget H claimed rollout).Plain := by
  refine ⟨rfl, ?_⟩
  intro monitor hmonitor
  rw [doc.targets_closingTarget] at hmonitor
  rw [List.mem_singleton.mp hmonitor]
  rfl

section Calm

variable {H : Digest} {env : TickEnvironment} {root : StateRoot} {engine : WatcherEngine}
  {doc : SessionDocument}

/-- Plain targets of different sessions share no identity: the fields after the session
    are known, so the identity determines the session. -/
theorem targetIdentity_ne_of_plain {sessionId eventId : String} {target : RuntimeTarget}
    (hplain : target.Plain) (hother : target.sessionId ≠ sessionId)
    (hidentity : TargetIdentity H target eventId) :
    (∀ mark, eventId ≠ markEventId H sessionId mark) ∧
      eventId ≠ sessionCompletionId H sessionId := by
  have hempty : JoinedFields.Free nul "" := by decide
  refine targetIdentity_ne_of_fields ?_ ?_ hidentity
  · rw [hplain.turn]
    intro heq
    exact hother ((JoinedFields.join_right_inj hempty hempty).mp heq).1.symm
  · intro monitor hmonitor
    rw [hplain.turn, hplain.monitors monitor hmonitor]
    intro heq
    rw [← JoinedFields.join_assoc, ← JoinedFields.join_assoc] at heq
    have hfields := ((JoinedFields.join_right_inj hempty hempty).mp heq).1
    exact hother ((JoinedFields.join_right_inj hempty hempty).mp hfields).1.symm

/-- What the loop body on the file of one session changes. -/
structure OwnFile (H : Digest) (sessionId : String) (root : StateRoot) (engine : WatcherEngine)
    (root' : StateRoot) (engine' : WatcherEngine) : Prop where
  writes : ∃ target : RuntimeTarget, target.Plain ∧ target.sessionId = sessionId ∧
    OwnWrites H target engine.watcher engine'.watcher
  failed : ∀ other, other ≠ sessionId →
    (other ∈ engine'.failedSessions ↔ other ∈ engine.failedSessions)
  runtime : ∀ path, path ≠ sessionFilename H sessionId →
    root'.runtime.lookup path = root.runtime.lookup path

/-- Another session does not see it. -/
theorem OwnFile.apart {sessionId : String} {root' : StateRoot} {engine' : WatcherEngine}
    (hown : OwnFile H sessionId root engine root' engine')
    (hmem : sessionFilename H sessionId ∈ root.runtime) (hother : doc.sessionId ≠ sessionId) :
    Apart H doc root engine root' engine' := by
  obtain ⟨target, hplain, hsession, hwrites⟩ := hown.writes
  obtain ⟨more, hlog, hids⟩ := hwrites.log
  obtain ⟨queue, hqueue, hownQueue⟩ := hwrites.pending
  have hne : target.sessionId ≠ doc.sessionId := by
    rw [hsession]
    exact hother.symm
  refine Apart.of_frame ?_ ?_ (hown.failed _ hother) ?_ ?_ hlog ?_ ⟨queue, hqueue, ?_⟩
  · exact hown.runtime _ fun heq => hother (sessionFilename_injective H heq)
  · intro path hpath
    left
    by_cases hfile : path = sessionFilename H sessionId
    · rw [hfile]
      exact hmem
    · rw [← AList.lookup_isSome, ← hown.runtime path hfile]
      exact AList.lookup_isSome.mpr hpath
  · intro key hkey
    exact hwrites.detectors key (by rw [hkey]; exact hne.symm)
  · intro key hkey
    exact hwrites.openCalls key (by rw [hkey]; exact hne.symm)
  · intro event hevent eventId hid
    exact targetIdentity_ne_of_plain hplain hne (hids event hevent eventId hid)
  · intro notification hnotification
    rw [hownQueue notification hnotification]
    exact hne

theorem OwnFile.refl (H : Digest) (doc : SessionDocument) (root : StateRoot)
    (engine : WatcherEngine) : OwnFile H doc.sessionId root engine root engine :=
  ⟨⟨doc.target H "", doc.plain_target H "", rfl, OwnWrites.refl _⟩, fun _ _ => Iff.rfl,
    fun _ _ => rfl⟩

/-! ### Roots of the service -/

/-- No cursor file is unreadable. -/
def StateRoot.CursorsReadable (root : StateRoot) : Prop :=
  ∀ path failure, root.cursors.lookup path ≠ some (.error failure)

/-- Every runtime file is a session the service started. -/
structure StateRoot.Plain (H : Digest) (root : StateRoot) : Prop where
  files : ∀ path ∈ root.runtime, ∃ doc : SessionDocument, path = doc.path H ∧
    (root.Holds H doc ∨ ∃ claimed, root.HoldsClosing H doc claimed)
  cursors : root.CursorsReadable

/-- Rollouts may be corrupt or rotated; nothing else fails. -/
structure TickEnvironment.Calm (env : TickEnvironment) : Prop where
  resolve : ∀ transcript, ∃ rollout, env.resolve transcript = .ok rollout
  read : ∀ root target failure, env.read root target ≠ .error (.raised failure)
  snapshotFaults : ∀ path, (env.snapshotFaults path).lock = none
  snapshotRelease : ∀ path, (env.snapshotFaults path).release = none
  commitFaults : ∀ path, env.commitFaults path = {}

/-- A plain root stays plain when the file of one session changes to another of its
    documents. -/
theorem StateRoot.Plain.of_file (hplain : root.Plain H) {root' : StateRoot}
    {next : SessionDocument}
    (hruntime : ∀ path, path ≠ next.path H →
      root'.runtime.lookup path = root.runtime.lookup path)
    (hholds : root'.Holds H next ∨ ∃ claimed, root'.HoldsClosing H next claimed)
    (hcursors : root'.CursorsReadable) : root'.Plain H := by
  refine ⟨?_, hcursors⟩
  intro path hpath
  by_cases hfile : path = next.path H
  · exact ⟨next, hfile, hholds⟩
  · have hold : path ∈ root.runtime := by
      rw [← AList.lookup_isSome, ← hruntime path hfile]
      exact AList.lookup_isSome.mpr hpath
    obtain ⟨other, rfl, hother⟩ := hplain.files path hold
    refine ⟨other, rfl, ?_⟩
    unfold Holds HoldsClosing
    rw [hruntime _ hfile]
    exact hother

/-! ### One file -/

/-- A cursor is saved over any readable one. -/
theorem commitBatch_of_readable (hcursors : root.CursorsReadable) (snapshot : RuntimeTarget)
    (batch : Option TargetBatch) (result : CommitResult) :
    ∃ root', commitBatch H none snapshot batch root result = (root', .ok ()) ∧
      root'.runtime = root.runtime ∧ root'.CursorsReadable := by
  unfold commitBatch commitTargetCursor saveCursor
  split
  · split_ifs
    · exact ⟨root, rfl, rfl, hcursors⟩
    · dsimp only
      cases hcursor : root.cursors.lookup (sessionFilename H snapshot.sessionId) with
      | none =>
          refine ⟨_, rfl, rfl, ?_⟩
          intro path failure
          by_cases hpath : path = sessionFilename H snapshot.sessionId
          · rw [hpath, root.setCursor_lookup]
            exact fun heq => nomatch heq
          · rw [root.setCursor_lookup_ne _ hpath]
            exact hcursors path failure
      | some file =>
          cases file with
          | error failure => exact absurd hcursor (hcursors _ _)
          | ok values =>
              refine ⟨_, rfl, rfl, ?_⟩
              intro path failure
              by_cases hpath : path = sessionFilename H snapshot.sessionId
              · rw [hpath, root.setCursor_lookup]
                exact fun heq => nomatch heq
              · rw [root.setCursor_lookup_ne _ hpath]
                exact hcursors path failure
  · exact ⟨root, rfl, rfl, hcursors⟩

/-- A commit whose processor returns writes the document and raises nothing. -/
theorem commitTick_calm {target : RuntimeTarget} {batch : Option TargetBatch}
    {original values : RuntimeValues} {after : WatcherEngine} {result : CommitResult}
    (hcalm : env.Calm) (hcursors : root.CursorsReadable)
    (hfile : root.runtime.lookup target.runtimeFile = some (.ok original))
    (hprocess : processSnapshot H env.resolve target ((batch.map TargetBatch.events).getD [])
      (engineProcessor H env.context) engine original = (after, .ok (values, result))) :
    ∃ root', commitTick H env root target batch engine = ⟨root', after, .ok result.active⟩ ∧
      root'.runtime.lookup target.runtimeFile = some (.ok values) ∧
      (∀ path, path ≠ target.runtimeFile →
        root'.runtime.lookup path = root.runtime.lookup path) ∧ root'.CursorsReadable := by
  have hfaults := hcalm.commitFaults target.runtimeFile
  have hlock : (env.commitFaults target.runtimeFile).lock = none := by rw [hfaults]
  have hwrite : (env.commitFaults target.runtimeFile).write = none := by rw [hfaults]
  have hreturned := @mutateExistingState_of_returned _ _ _ _ _ _ _
    (commitBatch H (env.commitFaults target.runtimeFile).cursor target batch) _ _ _ _ hlock hwrite
    hfile hprocess
  set written := if values = original then root else root.setRuntime target.runtimeFile values
    with hwritten
  have hreadable : written.CursorsReadable := by
    rw [hwritten]
    split_ifs <;> exact hcursors
  have hlookup : written.runtime.lookup target.runtimeFile = some (.ok values) ∧
      ∀ path, path ≠ target.runtimeFile →
        written.runtime.lookup path = root.runtime.lookup path := by
    rw [hwritten]
    split_ifs with hsame
    · rw [hsame]
      exact ⟨hfile, fun _ _ => rfl⟩
    · exact ⟨root.setRuntime_lookup _ _, fun _ hne => root.setRuntime_lookup_ne _ hne⟩
  obtain ⟨root', hbatch, hruntime, hcursors'⟩ :=
    commitBatch_of_readable hreadable target batch result (H := H)
  refine ⟨root', ?_, ?_, ?_, hcursors'⟩
  · rw [hfaults] at hreturned
    dsimp only at hreturned
    rw [hbatch] at hreturned
    unfold commitTick commitRuntimeSnapshot
    rw [hfaults, hreturned]
    rfl
  · rw [hruntime]
    exact hlookup.1
  · rw [hruntime]
    exact hlookup.2

/-- What the loop body does in a calm environment: it changes the file and the memory of one
    session, and raises nothing. -/
structure CalmFile (H : Digest) (path : String) (root : StateRoot) (engine : WatcherEngine)
    (outcome : Mutation WatcherEngine Bool) : Prop where
  own : ∃ sessionId, path = sessionFilename H sessionId ∧
    OwnFile H sessionId root engine outcome.root outcome.memory
  plain : outcome.root.Plain H
  result : ∃ active, outcome.result = .ok active

theorem CalmFile.unchanged (hplain : root.Plain H) (doc : SessionDocument) (active : Bool) :
    CalmFile H (doc.path H) root engine ⟨root, engine, .ok active⟩ :=
  ⟨⟨doc.sessionId, rfl, OwnFile.refl H doc root engine⟩, hplain, active, rfl⟩

/-- A commit for a session leaves another document of that session. -/
theorem CalmFile.of_commit (hplain : root.Plain H) {target : RuntimeTarget} {root' : StateRoot}
    {engine' : WatcherEngine} {next : SessionDocument} {active : Bool} (htarget : target.Plain)
    (hsession : target.sessionId = next.sessionId)
    (hwrites : OwnWrites H target engine.watcher engine'.watcher)
    (hfailed : engine'.failedSessions = engine.failedSessions)
    (hrest : ∀ path, path ≠ next.path H →
      root'.runtime.lookup path = root.runtime.lookup path)
    (hholds : root'.Holds H next ∨ ∃ claimed, root'.HoldsClosing H next claimed)
    (hcursors : root'.CursorsReadable) :
    CalmFile H (next.path H) root engine ⟨root', engine', .ok active⟩ := by
  refine ⟨⟨next.sessionId, rfl, ⟨target, htarget, hsession, hwrites⟩, ?_, hrest⟩,
    hplain.of_file hrest hholds hcursors, active, rfl⟩
  intro other _
  rw [hfailed]

theorem tickFile_calm_running (hplain : root.Plain H) (hcalm : env.Calm)
    (hholds : root.Holds H doc) :
    CalmFile H (doc.path H) root engine (tickFile H env root engine (doc.path H)) := by
  obtain ⟨rollout, hresolve⟩ := hcalm.resolve doc.transcript.path
  have hsession : (doc.target H rollout).sessionId = doc.sessionId := rfl
  have hcomplete : (doc.target H rollout).parentComplete = false := rfl
  have hrunning : (!(doc.target H rollout).hasRunning) = false := rfl
  have hlock : (env.commitFaults (doc.path H)).lock = none := by rw [hcalm.commitFaults]
  have hrelease : (env.commitFaults (doc.path H)).release = none := by rw [hcalm.commitFaults]
  have hfail : ∀ code, CalmFile H (doc.path H) root engine
      (failTick H env root (doc.target H rollout) code engine) := by
    intro code
    rw [failTick_of_unlocked hholds hresolve hlock]
    refine ⟨⟨doc.sessionId, rfl, ⟨doc.target H rollout, doc.plain_target H rollout, rfl, ?_⟩, ?_,
      fun _ _ => rfl⟩, hplain, false, MutationFaults.leave_of_released hrelease _⟩
    · exact ownWrites_note engine.watcher rfl
    · intro other hother
      simp [hother]
  unfold tickFile
  rw [snapshotTarget_session hholds, hcalm.snapshotFaults, hresolve,
    MutationFaults.leave_of_released (hcalm.snapshotRelease _)]
  simp only [Except.map, hsession, hcomplete, hrunning, Bool.false_eq_true, if_false]
  by_cases hfailed : doc.sessionId ∈ engine.failedSessions
  · rw [if_pos hfailed]
    exact CalmFile.unchanged hplain doc false
  · rw [if_neg hfailed]
    cases hread : env.read root (doc.target H rollout) with
    | error failure =>
        cases failure with
        | rolloutCorrupt reason => exact hfail _
        | rolloutRotated => exact hfail _
        | raised failure => exact absurd hread (hcalm.read _ _ _)
    | ok batch =>
        obtain ⟨root', hcommit, hown, hrest, hcursors⟩ :=
          @commitTick_calm H env root engine (doc.target H rollout) (some batch) _ _ _ _ hcalm
            hplain.cursors hholds (processSnapshot_session H engine doc hresolve (env.input batch))
        have hwrites := ownWrites_tickTarget H (doc.target H rollout) engine.watcher doc.values
          batch.events (env.input batch).context
        rw [show batch.events = (env.input batch).events from rfl, tickTarget_session] at hwrites
        have hpath : (committedDocument H engine doc (env.input batch)).path H = doc.path H :=
          congrArg (sessionFilename H) (committedDocument_sessionId H engine doc (env.input batch))
        change CalmFile H (doc.path H) root engine (commitTick ..)
        rw [hcommit, ← hpath]
        refine CalmFile.of_commit hplain (doc.plain_target H rollout) ?_ hwrites rfl ?_ (Or.inl ?_)
          hcursors
        · exact (committedDocument_sessionId H engine doc (env.input batch)).symm
        · rw [hpath]
          exact hrest
        · unfold StateRoot.Holds
          rw [hpath]
          exact hown

theorem tickFile_calm_closing (hplain : root.Plain H) (hcalm : env.Calm) {claimed : Bool}
    (hholds : root.HoldsClosing H doc claimed) :
    CalmFile H (doc.path H) root engine (tickFile H env root engine (doc.path H)) := by
  obtain ⟨rollout, hresolve⟩ := hcalm.resolve doc.transcript.path
  have hsession : (doc.closingTarget H claimed rollout).sessionId = doc.sessionId := rfl
  have hcomplete : (doc.closingTarget H claimed rollout).parentComplete = true := rfl
  unfold tickFile
  rw [snapshotTarget_closing hholds hresolve (hcalm.snapshotFaults _) (hcalm.snapshotRelease _)]
  dsimp only
  rw [hsession]
  by_cases hfailed : doc.sessionId ∈ engine.failedSessions
  · rw [if_pos hfailed]
    exact CalmFile.unchanged hplain doc false
  · obtain ⟨root', hcommit, hown, hrest, hcursors⟩ :=
      @commitTick_calm H env root engine (doc.closingTarget H claimed rollout) none _ _ _ _ hcalm
        hplain.cursors hholds (processSnapshot_closing hresolve env.context)
    have hwrites := ownWrites_tickTarget H (doc.closingTarget H claimed rollout) engine.watcher
      (doc.closing H claimed) [] env.context
    rw [tickTarget_closing] at hwrites
    have hpath : (claimedDocument doc claimed).path H = doc.path H :=
      congrArg (sessionFilename H) (claimedDocument_sessionId doc claimed)
    rw [if_neg hfailed, if_pos hcomplete, hcommit, ← hpath]
    refine CalmFile.of_commit hplain (doc.plain_closingTarget H claimed rollout) ?_ hwrites rfl ?_
      (Or.inr ⟨true, ?_⟩) hcursors
    · exact (claimedDocument_sessionId doc claimed).symm
    · rw [hpath]
      exact hrest
    · unfold StateRoot.HoldsClosing
      rw [hpath]
      exact hown

/-- **One file.**  In a calm environment the loop body raises nothing and keeps the root
    plain. -/
theorem tickFile_calm (hplain : root.Plain H) (hcalm : env.Calm) {path : String}
    (hmem : path ∈ root.runtime) :
    CalmFile H path root engine (tickFile H env root engine path) := by
  obtain ⟨doc, rfl, hholds | ⟨claimed, hholds⟩⟩ := hplain.files path hmem
  · exact tickFile_calm_running hplain hcalm hholds
  · exact tickFile_calm_closing hplain hcalm hholds

theorem CalmFile.apart {path : String} {outcome : Mutation WatcherEngine Bool}
    (hcalm : CalmFile H path root engine outcome) (hmem : path ∈ root.runtime)
    (hother : doc.path H ≠ path) : Apart H doc root engine outcome.root outcome.memory := by
  obtain ⟨sessionId, rfl, hown⟩ := hcalm.own
  refine hown.apart hmem ?_
  intro heq
  exact hother (congrArg (sessionFilename H) heq)

/-! ### The loop -/

/-- What a loop in a calm environment does, seen from one session: its own file is reached,
    between files of others. -/
structure CalmLoop (H : Digest) (env : TickEnvironment) (paths : List String) (root : StateRoot)
    (engine : WatcherEngine) (outcome : Mutation WatcherEngine Bool) : Prop where
  plain : outcome.root.Plain H
  result : ∃ active, outcome.result = .ok active
  apart : ∀ doc : SessionDocument, doc.path H ∉ paths →
    Apart H doc root engine outcome.root outcome.memory
  reached : ∀ doc : SessionDocument, doc.path H ∈ paths → ∃ root' engine',
    Apart H doc root engine root' engine' ∧
      Apart H doc (tickFile H env root' engine' (doc.path H)).root
        (tickFile H env root' engine' (doc.path H)).memory outcome.root outcome.memory

theorem tickFiles_calm (hcalm : env.Calm) {paths : List String} (hnodup : paths.Nodup)
    (hplain : root.Plain H) (hmem : ∀ path ∈ paths, path ∈ root.runtime) (active : Bool) :
    CalmLoop H env paths root engine (tickFiles H env paths root engine active) := by
  induction paths generalizing root engine active with
  | nil =>
      exact ⟨hplain, ⟨active, rfl⟩, fun doc _ => Apart.refl,
        fun doc hpath => absurd hpath List.not_mem_nil⟩
  | cons path rest ih =>
      obtain ⟨hnot, hrest⟩ := List.nodup_cons.mp hnodup
      have hpath := hmem path (List.mem_cons_self ..)
      have hfile := @tickFile_calm H env root engine hplain hcalm path hpath
      obtain ⟨fileActive, hresult⟩ := hfile.result
      have hapart : ∀ doc : SessionDocument, doc.path H ≠ path →
          Apart H doc root engine (tickFile H env root engine path).root
            (tickFile H env root engine path).memory :=
        fun doc hother => hfile.apart hpath hother
      have hmem' : ∀ other ∈ rest, other ∈ (tickFile H env root engine path).root.runtime := by
        intro other hother
        obtain ⟨sessionId, rfl, hown⟩ := hfile.own
        have hne : other ≠ sessionFilename H sessionId := fun heq => hnot (heq ▸ hother)
        rw [← AList.lookup_isSome, hown.runtime other hne]
        exact AList.lookup_isSome.mpr (hmem other (List.mem_cons_of_mem _ hother))
      have htail := @ih _ (tickFile H env root engine path).memory hrest hfile.plain hmem'
        (fileActive || active)
      have hstep : tickFiles H env (path :: rest) root engine active =
          tickFiles H env rest (tickFile H env root engine path).root
            (tickFile H env root engine path).memory (fileActive || active) := by
        rw [tickFiles]
        cases houtcome : tickFile H env root engine path with
        | mk root' engine' result =>
            rw [houtcome] at hresult
            obtain rfl : result = .ok fileActive := hresult
            rfl
      rw [hstep]
      refine ⟨htail.plain, htail.result, ?_, ?_⟩
      · intro doc hother
        rw [List.mem_cons, not_or] at hother
        exact (hapart doc hother.1).trans (htail.apart doc hother.2)
      · intro doc hreached
        by_cases hown : doc.path H = path
        · refine ⟨root, engine, Apart.refl, ?_⟩
          rw [hown]
          exact htail.apart doc (hown ▸ hnot)
        · have hlater := (List.mem_cons.mp hreached).resolve_left hown
          obtain ⟨root', engine', hbefore, hafter⟩ := htail.reached doc hlater
          exact ⟨root', engine', (hapart doc hown).trans hbefore, hafter⟩

/-- The loop of a whole tick. -/
theorem tickLoop_calm (hplain : root.Plain H) (hcalm : env.Calm) :
    CalmLoop H env (discoverRuntimeFiles root) root engine (tickLoop H env root engine) :=
  tickFiles_calm hcalm (nodup_discoverRuntimeFiles root) hplain
    (fun _ hpath => mem_discoverRuntimeFiles.mp hpath) false

/-! ### The tick -/

/-- A tick of the engine keeps the root plain and its queue empty. -/
theorem tick_calm (hplain : root.Plain H) (hcalm : env.Calm) :
    (engine.tick H env root).root.Plain H ∧
      (engine.tick H env root).engine.watcher.recorder.pending = [] := by
  obtain ⟨hroot, _, hengine⟩ := tick_loop H env root engine
  rw [hroot, hengine]
  exact ⟨(tickLoop_calm hplain hcalm).plain, rfl⟩

/-- A tick whose read of a running session succeeds processes it, when it is not in
    quarantine. -/
theorem tick_calm_running (hplain : root.Plain H) (hcalm : env.Calm) (hholds : root.Holds H doc)
    (hpending : engine.watcher.recorder.pending = [])
    (hlive : doc.sessionId ∉ engine.failedSessions)
    (hreads : ∀ root rollout, ∃ batch, env.read root (doc.target H rollout) = .ok batch) :
    ∃ root' rollout batch, env.read root' (doc.target H rollout) = .ok batch ∧
      ProcessedTick H env engine doc batch (engine.tick H env root) := by
  obtain ⟨root', engine', hbefore, hafter⟩ :=
    (@tickLoop_calm H env root engine hplain hcalm).reached doc
      (mem_discoverRuntimeFiles.mpr hholds.mem)
  obtain ⟨rollout, hresolve⟩ := hcalm.resolve doc.transcript.path
  obtain ⟨batch, hread⟩ := hreads root' rollout
  have hlive' : doc.sessionId ∉ engine'.failedSessions := fun hmem => hlive (hbefore.failed.mp hmem)
  have hdelivers : env.Delivers H root' doc batch :=
    ⟨⟨rollout, hresolve, hread⟩, hcalm.snapshotFaults _, hcalm.snapshotRelease _,
      by rw [hcalm.commitFaults], by rw [hcalm.commitFaults]⟩
  exact ⟨root', rollout, batch, hread, processedTick_of_committed hpending hbefore hlive'
    (tickFile_delivers ((hbefore.holds doc rfl).mpr hholds) hlive' hdelivers) hafter⟩

/-- A tick of a completed session closes it, when it is not in quarantine. -/
theorem tick_calm_closing (hplain : root.Plain H) (hcalm : env.Calm) {claimed : Bool}
    (hholds : root.HoldsClosing H doc claimed) (hpending : engine.watcher.recorder.pending = [])
    (hlive : doc.sessionId ∉ engine.failedSessions) :
    ClosedTick H env engine doc claimed (engine.tick H env root) := by
  have hmem : doc.path H ∈ root.runtime := by
    apply AList.lookup_isSome.mp
    have hlookup : root.runtime.lookup (doc.path H) = some (.ok (doc.closing H claimed)) := hholds
    rw [hlookup]
    rfl
  obtain ⟨root', engine', hbefore, hafter⟩ :=
    (@tickLoop_calm H env root engine hplain hcalm).reached doc (mem_discoverRuntimeFiles.mpr hmem)
  have hlive' : doc.sessionId ∉ engine'.failedSessions := fun hmem => hlive (hbefore.failed.mp hmem)
  have hcloses : env.Closes H doc :=
    ⟨hcalm.resolve _, hcalm.snapshotFaults _, hcalm.snapshotRelease _, by rw [hcalm.commitFaults],
      by rw [hcalm.commitFaults], by rw [hcalm.commitFaults]⟩
  exact closedTick_of_closed hpending hbefore hlive'
    (tickFile_closing ((hbefore.holdsClosing rfl).mpr hholds) hlive' hcloses).1 hafter

/-- A tick skips a session in quarantine and queues nothing for it. -/
theorem tick_calm_failed (hplain : root.Plain H) (hcalm : env.Calm)
    (hpending : engine.watcher.recorder.pending = []) (hfailed : doc.sessionId ∈ engine.failedSessions)
    (hmem : doc.path H ∈ root.runtime) :
    Apart H doc root engine (tickLoop H env root engine).root
        (tickLoop H env root engine).memory ∧
      ofSession doc.sessionId (engine.tick H env root).queued = [] := by
  obtain ⟨_, hqueued, _⟩ := tick_loop H env root engine
  obtain ⟨root', engine', hbefore, hafter⟩ :=
    (@tickLoop_calm H env root engine hplain hcalm).reached doc (mem_discoverRuntimeFiles.mpr hmem)
  have hskip : (tickFile H env root' engine' (doc.path H)).root = root' ∧
      (tickFile H env root' engine' (doc.path H)).memory = engine' := by
    unfold tickFile
    cases hsnapshot : snapshotTarget H env root' (doc.path H) with
    | error failure => exact ⟨rfl, rfl⟩
    | ok snapshot =>
        cases snapshot with
        | none => exact ⟨rfl, rfl⟩
        | some target =>
            obtain ⟨values, _, _, hvalid⟩ := snapshotTarget_eq_some hsnapshot
            have hsession : target.sessionId = doc.sessionId :=
              sessionFilename_injective H (runtimeTargetFromValues_eq_ok hvalid).2
            have hstill : target.sessionId ∈ engine'.failedSessions := by
              rw [hsession]
              exact hbefore.failed.mpr hfailed
            dsimp only
            rw [if_pos hstill]
            exact ⟨rfl, rfl⟩
  rw [hskip.1, hskip.2] at hafter
  have hapart := hbefore.trans hafter
  refine ⟨hapart, ?_⟩
  obtain ⟨more, hmore, hothers⟩ := hapart.pending
  rw [hqueued, hmore, hpending, List.nil_append]
  exact ofSession_of_other hothers

end Calm

end CodexMustWork
