import CodexMustWork.TargetWrites
import CodexMustWork.WatcherRuntime

/-!
# What the files of other sessions leave alone

The loop body of a tick on another session's file touches neither the files of
this session nor its memory, whatever that file is and however the body ends.
So a tick, seen from one session, is at other files, then perhaps at the
session's own, then at other files.
-/

namespace CodexMustWork

/-! ### Files of other sessions -/

/-- `after` differs from `before` only in what other sessions own. -/
structure Beside (H : Digest) (sessionId : String) (root : StateRoot) (engine : WatcherEngine)
    (root' : StateRoot) (engine' : WatcherEngine) : Prop where
  runtime : root'.runtime.lookup (sessionFilename H sessionId) =
    root.runtime.lookup (sessionFilename H sessionId)
  cursors : root'.cursors.lookup (sessionFilename H sessionId) =
    root.cursors.lookup (sessionFilename H sessionId)
  failed : sessionId ∈ engine'.failedSessions ↔ sessionId ∈ engine.failedSessions
  detectors : ∀ key, key.1 = sessionId →
    engine'.watcher.detectors key = engine.watcher.detectors key
  openCalls : ∀ key, key.1 = sessionId →
    engine'.watcher.openCalls key = engine.watcher.openCalls key
  started : ∀ key, key.1 = sessionId →
    engine'.watcher.started key = engine.watcher.started key
  heartbeat : engine'.watcher.heartbeatAt sessionId = engine.watcher.heartbeatAt sessionId
  log : ∃ more, engine'.watcher.recorder.log = engine.watcher.recorder.log ++ more ∧
    ∀ event ∈ more, ∀ eventId, event.eventId = some eventId →
      ∃ target, target.sessionId ≠ sessionId ∧ TargetIdentity H target eventId
  pending : ∃ more, engine'.watcher.recorder.pending = engine.watcher.recorder.pending ++ more ∧
    ∀ notification ∈ more, notification.event.sessionId ≠ sessionId

namespace Beside

variable {H : Digest} {sessionId : String}

theorem refl (root : StateRoot) (engine : WatcherEngine) :
    Beside H sessionId root engine root engine := by
  refine ⟨rfl, rfl, Iff.rfl, fun _ _ => rfl, fun _ _ => rfl, fun _ _ => rfl, rfl, ⟨[], ?_, ?_⟩,
    ⟨[], ?_, ?_⟩⟩
  · simp
  · intro event hmem
    exact absurd hmem List.not_mem_nil
  · simp
  · intro notification hmem
    exact absurd hmem List.not_mem_nil

theorem trans {root₁ root₂ root₃ : StateRoot} {engine₁ engine₂ engine₃ : WatcherEngine}
    (h₁ : Beside H sessionId root₁ engine₁ root₂ engine₂)
    (h₂ : Beside H sessionId root₂ engine₂ root₃ engine₃) :
    Beside H sessionId root₁ engine₁ root₃ engine₃ := by
  obtain ⟨log₁, hlog₁, hids₁⟩ := h₁.log
  obtain ⟨log₂, hlog₂, hids₂⟩ := h₂.log
  obtain ⟨queue₁, hqueue₁, hother₁⟩ := h₁.pending
  obtain ⟨queue₂, hqueue₂, hother₂⟩ := h₂.pending
  refine ⟨h₂.runtime.trans h₁.runtime, h₂.cursors.trans h₁.cursors, h₂.failed.trans h₁.failed,
    ?_, ?_, ?_, h₂.heartbeat.trans h₁.heartbeat, ⟨log₁ ++ log₂, ?_, ?_⟩,
    ⟨queue₁ ++ queue₂, ?_, ?_⟩⟩
  · intro key hkey
    rw [h₂.detectors key hkey, h₁.detectors key hkey]
  · intro key hkey
    rw [h₂.openCalls key hkey, h₁.openCalls key hkey]
  · intro key hkey
    rw [h₂.started key hkey, h₁.started key hkey]
  · rw [hlog₂, hlog₁, List.append_assoc]
  · intro event hmem
    rcases List.mem_append.mp hmem with hmem | hmem
    · exact hids₁ event hmem
    · exact hids₂ event hmem
  · rw [hqueue₂, hqueue₁, List.append_assoc]
  · intro notification hmem
    rcases List.mem_append.mp hmem with hmem | hmem
    · exact hother₁ notification hmem
    · exact hother₂ notification hmem

/-- The own writes of another session are beside this one. -/
theorem of_ownWrites {target : RuntimeTarget} (hother : target.sessionId ≠ sessionId)
    {root root' : StateRoot} {engine engine' : WatcherEngine}
    (hruntime : root'.runtime.lookup (sessionFilename H sessionId) =
      root.runtime.lookup (sessionFilename H sessionId))
    (hcursors : root'.cursors.lookup (sessionFilename H sessionId) =
      root.cursors.lookup (sessionFilename H sessionId))
    (hfailed : sessionId ∈ engine'.failedSessions ↔ sessionId ∈ engine.failedSessions)
    (hwrites : OwnWrites H target engine.watcher engine'.watcher) :
    Beside H sessionId root engine root' engine' := by
  obtain ⟨log, hlog, hids⟩ := hwrites.log
  obtain ⟨queue, hqueue, hown⟩ := hwrites.pending
  refine ⟨hruntime, hcursors, hfailed, ?_, ?_, ?_, ?_, ⟨log, hlog, ?_⟩, ⟨queue, hqueue, ?_⟩⟩
  · rintro key rfl
    exact hwrites.detectors key hother.symm
  · rintro key rfl
    exact hwrites.openCalls key hother.symm
  · rintro key rfl
    exact hwrites.started key hother.symm
  · exact hwrites.heartbeat sessionId hother.symm
  · intro event hmem eventId hid
    exact ⟨target, hother, hids event hmem eventId hid⟩
  · intro notification hmem
    rw [hown notification hmem]
    exact hother

end Beside

section OtherFile

variable {H : Digest} {sessionId : String} (env : TickEnvironment) (root : StateRoot)
  (engine : WatcherEngine)

/-- A commit for another session stays beside this one. -/
theorem commitTick_beside {target : RuntimeTarget}
    (hfile : sessionFilename H target.sessionId = target.runtimeFile)
    (hother : target.runtimeFile ≠ sessionFilename H sessionId) (batch : Option TargetBatch) :
    Beside H sessionId root engine (commitTick H env root target batch engine).root
      (commitTick H env root target batch engine).memory := by
  have hne : target.sessionId ≠ sessionId := by
    rintro rfl
    exact hother hfile.symm
  have hcommit : ∀ (files : StateRoot) (result : CommitResult),
      (commitBatch H (env.commitFaults target.runtimeFile).cursor target batch files
          result).1.runtime = files.runtime ∧
        (commitBatch H (env.commitFaults target.runtimeFile).cursor target batch files
          result).1.cursors.lookup (sessionFilename H sessionId) =
            files.cursors.lookup (sessionFilename H sessionId) := by
    intro files result
    unfold commitBatch commitTargetCursor saveCursor
    split
    · split_ifs
      · exact ⟨rfl, rfl⟩
      · dsimp only
        split
        · exact ⟨rfl, rfl⟩
        · exact ⟨rfl, rfl⟩
        · refine ⟨rfl, files.setCursor_lookup_ne _ ?_⟩
          rw [hfile]
          exact hother.symm
    · exact ⟨rfl, rfl⟩
  have hroot := @mutateExistingState_root_cases _ _ (env.commitFaults target.runtimeFile) root
    target.runtimeFile engine
    (processSnapshot H env.resolve target ((batch.map TargetBatch.events).getD [])
      (engineProcessor H env.context))
    (commitBatch H (env.commitFaults target.runtimeFile).cursor target batch)
  have hmemory := @mutateExistingState_memory_cases _ _ (env.commitFaults target.runtimeFile) root
    target.runtimeFile engine
    (processSnapshot H env.resolve target ((batch.map TargetBatch.events).getD [])
      (engineProcessor H env.context))
    (commitBatch H (env.commitFaults target.runtimeFile).cursor target batch)
  change (commitTick H env root target batch engine).root = root ∨ ∃ result,
    (commitTick H env root target batch engine).root = _ ∨ ∃ values,
    (commitTick H env root target batch engine).root = _ at hroot
  change (commitTick H env root target batch engine).memory = engine ∨ ∃ values, _ ∧
    (commitTick H env root target batch engine).memory = _ at hmemory
  revert hroot hmemory
  generalize commitTick H env root target batch engine = committed
  intro hroot hmemory
  have hfiles : committed.root.runtime.lookup (sessionFilename H sessionId) =
        root.runtime.lookup (sessionFilename H sessionId) ∧
      committed.root.cursors.lookup (sessionFilename H sessionId) =
        root.cursors.lookup (sessionFilename H sessionId) := by
    rcases hroot with heq | ⟨result, heq | ⟨values, heq⟩⟩
    · rw [heq]
      exact ⟨rfl, rfl⟩
    · rw [heq, (hcommit root result).1, (hcommit root result).2]
      exact ⟨rfl, rfl⟩
    · rw [heq, (hcommit _ result).1, (hcommit _ result).2]
      exact ⟨root.setRuntime_lookup_ne _ hother.symm, rfl⟩
  rcases hmemory with heq | ⟨values, _, heq⟩
  · rw [heq]
    exact Beside.of_ownWrites hne hfiles.1 hfiles.2 Iff.rfl (OwnWrites.refl engine.watcher)
  · rw [heq]
    unfold processSnapshot
    split_ifs
    · exact Beside.of_ownWrites hne hfiles.1 hfiles.2 Iff.rfl (OwnWrites.refl engine.watcher)
    · cases htarget : runtimeTargetFromValues H env.resolve target.runtimeFile values with
      | error failure =>
          exact Beside.of_ownWrites hne hfiles.1 hfiles.2 Iff.rfl (OwnWrites.refl engine.watcher)
      | ok current =>
          have hcurrent := (runtimeTargetFromValues_eq_ok htarget).2
          have hcurrentNe : current.sessionId ≠ sessionId := by
            rintro rfl
            exact hother hcurrent.symm
          dsimp only
          split_ifs
          · exact Beside.of_ownWrites hne hfiles.1 hfiles.2 Iff.rfl
              (OwnWrites.refl engine.watcher)
          · have hwrites := ownWrites_tickTarget H current engine.watcher values
              ((batch.map TargetBatch.events).getD []) env.context
            have hengine : (engineProcessor H env.context current values
                ((batch.map TargetBatch.events).getD []) engine).1 =
                  { engine with
                    watcher := (tickTarget H env.context current values
                      ((batch.map TargetBatch.events).getD []) engine.watcher).1 } := rfl
            cases hresult : engineProcessor H env.context current values
                ((batch.map TargetBatch.events).getD []) engine with
            | mk processed result =>
                rw [hresult] at hengine
                dsimp only at hengine
                have hbeside : Beside H sessionId root engine committed.root processed := by
                  apply Beside.of_ownWrites hcurrentNe hfiles.1 hfiles.2
                  · rw [hengine]
                  · rw [hengine]
                    exact hwrites
                cases result <;> exact hbeside

/-- Quarantining another session stays beside this one. -/
theorem failTick_beside {target : RuntimeTarget}
    (hother : target.runtimeFile ≠ sessionFilename H sessionId) (code : DiagnosticCode) :
    Beside H sessionId root engine (failTick H env root target code engine).root
      (failTick H env root target code engine).memory := by
  have hroot : (failTick H env root target code engine).root = root ∨ ∃ values,
      (failTick H env root target code engine).root =
        root.setRuntime target.runtimeFile values := by
    rcases @mutateExistingState_root_cases _ _ (env.commitFaults target.runtimeFile) root
      target.runtimeFile engine _ noCommit with heq | ⟨result, heq | ⟨values, heq⟩⟩
    · exact Or.inl heq
    · exact Or.inl heq
    · exact Or.inr ⟨values, heq⟩
  have hfiles : (failTick H env root target code engine).root.runtime.lookup
        (sessionFilename H sessionId) = root.runtime.lookup (sessionFilename H sessionId) ∧
      (failTick H env root target code engine).root.cursors.lookup (sessionFilename H sessionId) =
        root.cursors.lookup (sessionFilename H sessionId) := by
    rcases hroot with heq | ⟨values, heq⟩
    · rw [heq]
      exact ⟨rfl, rfl⟩
    · rw [heq]
      exact ⟨root.setRuntime_lookup_ne _ hother.symm, rfl⟩
  have hmemory : (failTick H env root target code engine).memory = engine ∨ ∃ values, _ ∧
      (failTick H env root target code engine).memory = _ :=
    @mutateExistingState_memory_cases _ _ (env.commitFaults target.runtimeFile) root
      target.runtimeFile engine _ noCommit
  have hsame : Beside H sessionId root engine (failTick H env root target code engine).root
      engine :=
    ⟨hfiles.1, hfiles.2, Iff.rfl, fun _ _ => rfl, fun _ _ => rfl, fun _ _ => rfl, rfl,
      ⟨[], by simp, by simp⟩, ⟨[], by simp, by simp⟩⟩
  rcases hmemory with heq | ⟨values, _, heq⟩
  · rw [heq]
    exact hsame
  · rw [heq]
    split_ifs
    · exact hsame
    · cases htarget : runtimeTargetFromValues H env.resolve target.runtimeFile values with
      | error failure => exact hsame
      | ok current =>
          have hcurrent := (runtimeTargetFromValues_eq_ok htarget).2
          have hne : current.sessionId ≠ sessionId := by
            rintro rfl
            exact hother hcurrent.symm
          dsimp only
          split_ifs
          · exact hsame
          · apply Beside.of_ownWrites hne hfiles.1 hfiles.2
            · simp [hne.symm]
            · exact ownWrites_note engine.watcher rfl

/-- **The loop body on another file** stays beside this session, however it ends. -/
theorem tickFile_beside {path : String} (hother : path ≠ sessionFilename H sessionId) :
    Beside H sessionId root engine (tickFile H env root engine path).root
      (tickFile H env root engine path).memory := by
  have htarget : ∀ target, snapshotTarget H env root path = .ok (some target) →
      target.runtimeFile = path ∧ sessionFilename H target.sessionId = path := by
    intro target hsnapshot
    obtain ⟨values, _, _, hvalid⟩ := snapshotTarget_eq_some hsnapshot
    exact runtimeTargetFromValues_eq_ok hvalid
  unfold tickFile
  cases hsnapshot : snapshotTarget H env root path with
  | error failure => exact Beside.refl root engine
  | ok snapshot =>
      cases snapshot with
      | none => exact Beside.refl root engine
      | some target =>
          obtain ⟨hfile, hsession⟩ := htarget target hsnapshot
          have hname : sessionFilename H target.sessionId = target.runtimeFile :=
            hsession.trans hfile.symm
          have hne : target.runtimeFile ≠ sessionFilename H sessionId := by
            rw [hfile]
            exact hother
          dsimp only
          split_ifs
          · exact Beside.refl root engine
          · exact commitTick_beside env root engine hname hne none
          · exact Beside.refl root engine
          · cases env.read root target with
            | ok batch => exact commitTick_beside env root engine hname hne (some batch)
            | error failure =>
                cases failure with
                | rolloutCorrupt reason => exact failTick_beside env root engine hne _
                | rolloutRotated => exact failTick_beside env root engine hne _
                | raised failure => exact Beside.refl root engine

/-- A loop over other files stays beside this session. -/
theorem tickFiles_beside {paths : List String} (hother : sessionFilename H sessionId ∉ paths)
    (active : Bool) :
    Beside H sessionId root engine (tickFiles H env paths root engine active).root
      (tickFiles H env paths root engine active).memory := by
  induction paths generalizing root engine active with
  | nil => exact Beside.refl root engine
  | cons path rest ih =>
      have hpath : path ≠ sessionFilename H sessionId :=
        fun heq => hother (heq ▸ List.mem_cons_self ..)
      have hrest : sessionFilename H sessionId ∉ rest :=
        fun hmem => hother (List.mem_cons_of_mem _ hmem)
      have hfirst := tickFile_beside env root engine hpath
      unfold tickFiles
      cases hfile : tickFile H env root engine path with
      | mk root' engine' result =>
          rw [hfile] at hfirst
          cases result with
          | error failure => exact hfirst
          | ok fileActive => exact hfirst.trans (ih root' engine' hrest _)

/-- The state in which the loop of a tick reaches one of its files, unless a file before
    it raised. -/
def turnOf (H : Digest) (env : TickEnvironment) (path : String) :
    List String → StateRoot → WatcherEngine → Option (StateRoot × WatcherEngine)
  | [], _, _ => none
  | file :: rest, root, engine =>
      if file = path then some (root, engine)
      else
        match tickFile H env root engine file with
        | ⟨_, _, .error _⟩ => none
        | ⟨root, engine, .ok _⟩ => turnOf H env path rest root engine

/-- **The loop, seen from one session**: files of others, its own file when the loop
    reaches it, files of others. -/
theorem tickFiles_turn {paths : List String} (hnodup : paths.Nodup) (active : Bool) :
    match turnOf H env (sessionFilename H sessionId) paths root engine with
    | none => Beside H sessionId root engine (tickFiles H env paths root engine active).root
        (tickFiles H env paths root engine active).memory
    | some (root', engine') => Beside H sessionId root engine root' engine' ∧
        Beside H sessionId (tickFile H env root' engine' (sessionFilename H sessionId)).root
          (tickFile H env root' engine' (sessionFilename H sessionId)).memory
          (tickFiles H env paths root engine active).root
          (tickFiles H env paths root engine active).memory := by
  induction paths generalizing root engine active with
  | nil => exact Beside.refl root engine
  | cons path rest ih =>
      obtain ⟨hnot, hrest⟩ := List.nodup_cons.mp hnodup
      by_cases hpath : path = sessionFilename H sessionId
      · rw [turnOf, if_pos hpath]
        refine ⟨Beside.refl root engine, ?_⟩
        subst hpath
        unfold tickFiles
        cases hfile : tickFile H env root engine (sessionFilename H sessionId) with
        | mk root' engine' result =>
            cases result with
            | error failure => exact Beside.refl root' engine'
            | ok fileActive => exact tickFiles_beside env root' engine' hnot _
      · have hfirst := tickFile_beside env root engine hpath
        rw [turnOf, if_neg hpath]
        unfold tickFiles
        cases hfile : tickFile H env root engine path with
        | mk root' engine' result =>
            rw [hfile] at hfirst
            cases result with
            | error failure => exact hfirst
            | ok fileActive =>
                have hlater := ih root' engine' hrest (fileActive || active)
                dsimp only
                cases hturn : turnOf H env (sessionFilename H sessionId) rest root' engine' with
                | none =>
                    rw [hturn] at hlater
                    exact hfirst.trans hlater
                | some reached =>
                    rw [hturn] at hlater
                    exact ⟨hfirst.trans hlater.1, hlater.2⟩

/-- The same, without the state in which the loop reaches the session's file. -/
theorem tickFiles_split {paths : List String} (hnodup : paths.Nodup) (active : Bool) :
    Beside H sessionId root engine (tickFiles H env paths root engine active).root
        (tickFiles H env paths root engine active).memory ∨
      ∃ root' engine', Beside H sessionId root engine root' engine' ∧
        Beside H sessionId (tickFile H env root' engine' (sessionFilename H sessionId)).root
          (tickFile H env root' engine' (sessionFilename H sessionId)).memory
          (tickFiles H env paths root engine active).root
          (tickFiles H env paths root engine active).memory := by
  have hturns := @tickFiles_turn H sessionId env root engine _ hnodup active
  cases hturn : turnOf H env (sessionFilename H sessionId) paths root engine with
  | none =>
      rw [hturn] at hturns
      exact Or.inl hturns
  | some reached =>
      rw [hturn] at hturns
      exact Or.inr ⟨reached.1, reached.2, hturns⟩

end OtherFile

end CodexMustWork
