import CodexMustWork.Library.Machine
import CodexMustWork.OptIn
import CodexMustWork.PassedEvents
import CodexMustWork.SessionTick

/-!
# What a session reads of its rollout

Codex appends to the rollout of a session while an engine ticks on the state
root.  What the processor of the session is passed forms a chain of batches: the
first starts it at the end of the file, each other one continues it.  Nothing
written after the opt-in is skipped exactly when the chain starts where the
file ended when the session was started, and the text from there is readable.
-/

namespace CodexMustWork

open LineFraming

variable {ρ : Type}

/-! ### The chain of batches -/

/-- The batches from `start` to a cursor, each starting where the one before it stopped
    and made of the events of the complete lines in between. -/
inductive Chain (format : RecordFormat ρ) (file : RolloutFile) (start : Nat) :
    List TargetBatch → RolloutCursor → Prop
  | first : Chain format file start [⟨none, ⟨file.device, file.fileId, start⟩, []⟩]
      ⟨file.device, file.fileId, start⟩
  | next {batches : List TargetBatch} {cursor next : RolloutCursor} {records : List ρ}
      (before : Chain format file start batches cursor)
      (device : next.device = cursor.device) (fileId : next.fileId = cursor.fileId)
      (after : cursor.offset ≤ next.offset) (within : next.offset ≤ file.content.length)
      (whole : Whole newline (file.between cursor.offset next.offset))
      (decoded : decodeLines format (file.between cursor.offset next.offset) = .ok records) :
      Chain format file start
        (batches ++ [⟨some cursor, next, records.filterMap format.parseRolloutEvent⟩]) next

namespace Chain

variable {format : RecordFormat ρ} {file : RolloutFile} {start : Nat}
  {batches : List TargetBatch} {cursor : RolloutCursor}

theorem head? (hchain : Chain format file start batches cursor) :
    batches.head? = some ⟨none, ⟨file.device, file.fileId, start⟩, []⟩ := by
  induction hchain with
  | first => rfl
  | next before device fileId after within whole decoded ih =>
      rw [List.head?_append, ih]
      rfl

/-- A chain stays one when the rollout grows. -/
theorem append (hchain : Chain format file start batches cursor) (chunk : List UInt8) :
    Chain format (file.append chunk) start batches cursor := by
  induction hchain with
  | first => exact Chain.first
  | next before device fileId after within whole decoded ih =>
      rw [← RolloutFile.append_between after within chunk] at whole decoded
      refine Chain.next ih device fileId after ?_ whole decoded
      simp only [RolloutFile.append, List.length_append]
      omega

/-- A chain leads over complete lines, all decoded. -/
theorem startsLine (hchain : Chain format file start batches cursor)
    (hstart : start ≤ file.content.length) :
    StartsLine start file cursor ∧
      ∃ records, decodeLines format (file.between start cursor.offset) = .ok records := by
  induction hchain with
  | first =>
      have hempty : file.between start start = [] := by simp [RolloutFile.between]
      refine ⟨⟨rfl, rfl, le_rfl, hstart, ?_⟩, [], ?_⟩
      · rw [hempty]
        exact whole_nil newline
      · rw [hempty]
        rfl
  | @next batches cursor next records before device fileId after within whole decoded ih =>
      obtain ⟨hline, earlier, hearlier⟩ := ih
      refine ⟨hline.next device fileId after within whole, earlier ++ records, ?_⟩
      rw [← RolloutFile.between_append_between hline.after after,
        decodeLines_append format hline.whole, hearlier, decoded]
      rfl

end Chain

/-! ### One turn of the session -/

/-- What the loop body comes to at one file. -/
inductive FileVisit where
  | passed (result : Except Failure Bool)
  | fails (target : RuntimeTarget) (code : DiagnosticCode)
  | commits (target : RuntimeTarget) (batch : Option TargetBatch)

def visitFile (H : Digest) (env : TickEnvironment) (root : StateRoot) (engine : WatcherEngine)
    (path : String) : FileVisit :=
  match snapshotTarget H env root path with
  | .error failure => .passed (.error failure)
  | .ok none => .passed (.ok false)
  | .ok (some target) =>
      if target.sessionId ∈ engine.failedSessions then .passed (.ok false)
      else if target.parentComplete then .commits target none
      else if !target.hasRunning then .passed (.ok false)
      else
        match env.read root target with
        | .error (.rolloutCorrupt _) => .fails target .rolloutCorrupt
        | .error .rolloutRotated => .fails target .rolloutRotated
        | .error (.raised failure) => .passed (.error failure)
        | .ok batch => .commits target (some batch)

/-- The loop body does what its visit comes to. -/
theorem tickFile_eq_visit (H : Digest) (env : TickEnvironment) (root : StateRoot)
    (engine : WatcherEngine) (path : String) :
    tickFile H env root engine path =
      match visitFile H env root engine path with
      | .passed result => ⟨root, engine, result⟩
      | .fails target code => failTick H env root target code engine
      | .commits target batch => commitTick H env root target batch engine := by
  unfold tickFile visitFile
  cases snapshotTarget H env root path with
  | error failure => rfl
  | ok found =>
      cases found with
      | none => rfl
      | some target =>
          dsimp only
          split_ifs
          · rfl
          · rfl
          · rfl
          · cases env.read root target with
            | ok batch => rfl
            | error failure => cases failure <;> rfl

/-- The runs of the processor in a commit of the loop body. -/
def commitRuns (H : Digest) (env : TickEnvironment) (root : StateRoot) (engine : WatcherEngine)
    (target : RuntimeTarget) (batch : Option TargetBatch) : List ProcessorRun :=
  (commitRuntimeSnapshot H env.resolve (env.commitFaults target.runtimeFile) root target batch
    (notingProcessor (engineProcessor H env.context)) (engine, [])).memory.2

/-- The batch that the loop body commits, with the events that the processor is passed. -/
def handedBatch (H : Digest) (env : TickEnvironment) (root : StateRoot) (engine : WatcherEngine)
    (path : String) : Option TargetBatch :=
  match visitFile H env root engine path with
  | .commits target (some batch) =>
      match commitRuns H env root engine target (some batch) with
      | [] => none
      | runs => some { batch with events := runs.flatMap ProcessorRun.events }
  | _ => none

/-- What a tick does with one file. -/
inductive Turn where
  | unreached
  | idle
  | handed (batch : TargetBatch)

def tickTurn (H : Digest) (env : TickEnvironment) (root : StateRoot) (engine : WatcherEngine)
    (path : String) : Turn :=
  match turnOf H env path (discoverRuntimeFiles root) root engine with
  | none => .unreached
  | some (root, engine) =>
      match handedBatch H env root engine path with
      | none => .idle
      | some batch => .handed batch

theorem loadCursor_congr {H : Digest} {root other : StateRoot} {sessionId : String}
    (hcursors : other.cursors.lookup (sessionFilename H sessionId) =
      root.cursors.lookup (sessionFilename H sessionId)) :
    loadCursor H other sessionId = loadCursor H root sessionId := by
  unfold loadCursor
  dsimp only
  rw [hcursors]

theorem loadCursor_of_lookup {H : Digest} {root : StateRoot} {sessionId : String}
    {cursor : RolloutCursor}
    (hlookup : root.cursors.lookup (sessionFilename H sessionId) =
      some (.ok (cursorValues cursor))) :
    loadCursor H root sessionId = .ok (some cursor) := by
  have hnumber : ∀ (number : Nat) (path : String),
      cursorNumber (.value (number : Int)) path = .ok number := by
    intro number path
    rw [cursorNumber, if_neg (by omega)]
    rfl
  unfold loadCursor
  dsimp only
  rw [hlookup]
  simp only [cursorValues, hnumber]
  rfl

/-- After a commit the cursor of the session is the one its batch ends at. -/
theorem commitTargetCursor_loadCursor {H : Digest} {root : StateRoot} {target : RuntimeTarget}
    {batch : TargetBatch}
    (hloaded : loadCursor H root target.sessionId = .ok batch.previousCursor) :
    loadCursor H (commitTargetCursor H none root target batch).1 target.sessionId =
      .ok (some batch.nextCursor) := by
  unfold commitTargetCursor
  split_ifs with hsame
  · rw [hloaded, hsame]
  · apply loadCursor_of_lookup
    unfold saveCursor
    dsimp only
    cases hlookup : root.cursors.lookup (sessionFilename H target.sessionId) with
    | none => exact StateRoot.setCursor_lookup _ _ _
    | some file =>
        cases file with
        | error failure =>
            unfold loadCursor at hloaded
            simp [hlookup] at hloaded
        | ok values => exact StateRoot.setCursor_lookup _ _ _

/-- The session's own files raise nothing, and its transcript is the rollout at `path`. -/
structure TickEnvironment.Undisturbed (env : TickEnvironment) (H : Digest) (sessionId : String)
    (transcript : RelativeTranscript) (path : String) : Prop where
  resolve : env.resolve transcript.path = .ok path
  snapshotLock : (env.snapshotFaults (sessionFilename H sessionId)).lock = none
  snapshotRelease : (env.snapshotFaults (sessionFilename H sessionId)).release = none
  commitLock : (env.commitFaults (sessionFilename H sessionId)).lock = none
  write : (env.commitFaults (sessionFilename H sessionId)).write = none
  cursor : (env.commitFaults (sessionFilename H sessionId)).cursor = none

section Own

variable {H : Digest} {env : TickEnvironment} {root : StateRoot} {engine : WatcherEngine}
  {doc : SessionDocument} {path : String}

theorem snapshotTarget_undisturbed (hholds : root.Holds H doc)
    (hcalm : env.Undisturbed H doc.sessionId doc.transcript path) :
    snapshotTarget H env root (doc.path H) = .ok (some (doc.target H path)) := by
  rw [snapshotTarget_session hholds, show (env.snapshotFaults (doc.path H)).lock = none from
    hcalm.snapshotLock, hcalm.resolve]
  exact MutationFaults.leave_of_released hcalm.snapshotRelease _

/-- A quarantined session is passed over. -/
theorem tickFile_quarantined (hholds : root.Holds H doc)
    (hcalm : env.Undisturbed H doc.sessionId doc.transcript path)
    (hfailed : doc.sessionId ∈ engine.failedSessions) :
    handedBatch H env root engine (doc.path H) = none ∧
      tickFile H env root engine (doc.path H) = ⟨root, engine, .ok false⟩ := by
  have hsession : (doc.target H path).sessionId ∈ engine.failedSessions := hfailed
  have hvisit : visitFile H env root engine (doc.path H) = .passed (.ok false) := by
    unfold visitFile
    rw [snapshotTarget_undisturbed hholds hcalm]
    simp only [if_pos hsession]
  rw [tickFile_eq_visit, handedBatch, hvisit]
  exact ⟨rfl, rfl⟩

/-- A commit that is undisturbed passes the events of its batch to the processor, once. -/
theorem commitRuns_session (hholds : root.Holds H doc)
    (hcalm : env.Undisturbed H doc.sessionId doc.transcript path) (batch : TargetBatch) :
    ∃ run, commitRuns H env root engine (doc.target H path) (some batch) = [run] ∧
      run.events = batch.events := by
  have hpath : (doc.target H path).runtimeFile = doc.path H := rfl
  obtain ⟨runs, hnoting, hnoted⟩ := @processSnapshot_noting _ H env.resolve (doc.target H path)
    batch.events (engineProcessor H env.context) engine doc.values
  have hprocess := processSnapshot_session H engine doc hcalm.resolve (env.input batch)
  change processSnapshot H env.resolve (doc.target H path) batch.events
    (engineProcessor H env.context) engine doc.values = _ at hprocess
  rw [hprocess] at hnoting hnoted
  obtain ⟨run, rfl, hevents, _⟩ := hnoted
  have hmemory := (@mutateExistingState_returned _ _ _ _ _ _ _
    (commitBatch H (env.commitFaults (doc.path H)).cursor (doc.target H path) (some batch))
    _ _ _ _ hcalm.commitLock hcalm.write hholds hnoting).1
  exact ⟨run, congrArg Prod.snd hmemory, hevents⟩

/-- A batch that was read is handed over and committed, and the session's cursor is where
    it ends. -/
theorem tickFile_hands {batch : TargetBatch} (hholds : root.Holds H doc)
    (hcalm : env.Undisturbed H doc.sessionId doc.transcript path)
    (hlive : doc.sessionId ∉ engine.failedSessions)
    (hloaded : loadCursor H root doc.sessionId = .ok batch.previousCursor)
    (hread : env.read root (doc.target H path) = .ok batch) :
    handedBatch H env root engine (doc.path H) = some batch ∧
      Committed H env root engine doc batch (tickFile H env root engine (doc.path H)).root
        (tickFile H env root engine (doc.path H)).memory ∧
      loadCursor H (tickFile H env root engine (doc.path H)).root doc.sessionId =
        .ok (some batch.nextCursor) := by
  have hsession : (doc.target H path).sessionId ∉ engine.failedSessions := hlive
  have hcomplete : (doc.target H path).parentComplete = false := rfl
  have hrunning : (!(doc.target H path).hasRunning) = false := rfl
  have hvisit : visitFile H env root engine (doc.path H) =
      .commits (doc.target H path) (some batch) := by
    unfold visitFile
    rw [snapshotTarget_undisturbed hholds hcalm]
    simp only [if_neg hsession, hcomplete, hrunning, Bool.false_eq_true, if_false, hread]
  have hfile : tickFile H env root engine (doc.path H) =
      commitTick H env root (doc.target H path) (some batch) engine := by
    rw [tickFile_eq_visit, hvisit]
  refine ⟨?_, ?_, ?_⟩
  · obtain ⟨run, hruns, hevents⟩ : ∃ run, commitRuns H env root engine (doc.target H path)
        (some batch) = [run] ∧ run.events = batch.events := commitRuns_session hholds hcalm batch
    rw [handedBatch, hvisit]
    dsimp only
    rw [hruns]
    dsimp only
    rw [List.flatMap_singleton, hevents]
  · rw [hfile]
    exact commitTick_session hholds hcalm.resolve hcalm.commitLock hcalm.write batch
  · have hpath : (doc.target H path).runtimeFile = doc.path H := rfl
    have hprocess := processSnapshot_session H engine doc hcalm.resolve (env.input batch)
    have hroot := (@mutateExistingState_returned _ _ _ _ _ _ _
      (commitBatch H (env.commitFaults (doc.path H)).cursor (doc.target H path) (some batch))
      _ _ _ _ hcalm.commitLock hcalm.write hholds hprocess).2
    have hfault : (env.commitFaults (doc.path H)).cursor = none := hcalm.cursor
    rw [hfault] at hroot
    rw [hfile]
    change loadCursor H (mutateExistingState _ _ _ _ _ _).root _ = _
    rw [hpath, hfault]
    refine (congrArg (fun after => loadCursor H after doc.sessionId) hroot).trans ?_
    apply commitTargetCursor_loadCursor
    rw [← hloaded]
    apply loadCursor_congr
    split_ifs <;> rfl

end Own

/-! ### Appends and ticks -/

/-- An engine on its state root, and the rollout of one of its sessions. -/
structure Growing where
  root : StateRoot
  engine : WatcherEngine
  rollout : RolloutFile

/-- Codex appends, or the engine ticks among other rollouts. -/
inductive GrowingStep where
  | append (chunk : List UInt8)
  | tick (env : TickEnvironment) (rollouts : String → Except Failure RolloutFile)

/-- What a tick meets when the session's rollout, at `path`, is as it is now. -/
def Growing.environment (H : Digest) (format : RecordFormat ρ) (path : String) (state : Growing)
    (env : TickEnvironment) (rollouts : String → Except Failure RolloutFile) : TickEnvironment :=
  { env with
    read := readTargetBatch H format (Function.update rollouts path (.ok state.rollout)) }

/-- Appends and ticks in any order, observed at the session's turns. -/
def growing (H : Digest) (format : RecordFormat ρ) (sessionId path : String) :
    Machine Growing GrowingStep Turn where
  step state
    | .append chunk => ({ state with rollout := state.rollout.append chunk }, .unreached)
    | .tick env rollouts =>
        let env := state.environment H format path env rollouts
        let outcome := state.engine.tick H env state.root
        ({ state with root := outcome.root, engine := outcome.engine },
          tickTurn H env state.root state.engine (sessionFilename H sessionId))

/-- The batches of the turns, with the events that the processor of the session was passed. -/
def handedBatches (turns : List Turn) : List TargetBatch :=
  turns.filterMap fun turn =>
    match turn with
    | .handed batch => some batch
    | _ => none

/-- How many ticks came to the session's file. -/
def countTurns (turns : List Turn) : Nat :=
  turns.countP fun turn =>
    match turn with
    | .unreached => false
    | _ => true

/-- What of the session a tick leaves alone while it is at other files. -/
structure Kept (H : Digest) (sessionId : String) (root : StateRoot) (engine : WatcherEngine)
    (root' : StateRoot) (engine' : WatcherEngine) : Prop where
  runtime : root'.runtime.lookup (sessionFilename H sessionId) =
    root.runtime.lookup (sessionFilename H sessionId)
  cursors : root'.cursors.lookup (sessionFilename H sessionId) =
    root.cursors.lookup (sessionFilename H sessionId)
  failed : sessionId ∈ engine'.failedSessions ↔ sessionId ∈ engine.failedSessions

theorem Beside.kept {H : Digest} {sessionId : String} {root root' : StateRoot}
    {engine engine' : WatcherEngine} (hbeside : Beside H sessionId root engine root' engine') :
    Kept H sessionId root engine root' engine' :=
  ⟨hbeside.runtime, hbeside.cursors, hbeside.failed⟩

/-- A tick is at other files, then perhaps at the session's, then at other files. -/
theorem tick_turn (H : Digest) (sessionId : String) (env : TickEnvironment) (root : StateRoot)
    (engine : WatcherEngine) :
    match turnOf H env (sessionFilename H sessionId) (discoverRuntimeFiles root) root engine with
    | none => Kept H sessionId root engine (engine.tick H env root).root
        (engine.tick H env root).engine
    | some (root', engine') => Kept H sessionId root engine root' engine' ∧
        Kept H sessionId (tickFile H env root' engine' (sessionFilename H sessionId)).root
          (tickFile H env root' engine' (sessionFilename H sessionId)).memory
          (engine.tick H env root).root (engine.tick H env root).engine := by
  have hflush : ∀ {root₁ : StateRoot} {engine₁ : WatcherEngine},
      Kept H sessionId root₁ engine₁ (tickLoop H env root engine).root
        (tickLoop H env root engine).memory →
      Kept H sessionId root₁ engine₁ (engine.tick H env root).root
        (engine.tick H env root).engine :=
    fun hkept => ⟨hkept.runtime, hkept.cursors, hkept.failed⟩
  have hturns := @tickFiles_turn H sessionId env root engine _
    (nodup_discoverRuntimeFiles root) false
  cases hturn : turnOf H env (sessionFilename H sessionId) (discoverRuntimeFiles root) root
      engine with
  | none =>
      rw [hturn] at hturns
      exact hflush hturns.kept
  | some reached =>
      rw [hturn] at hturns
      exact ⟨hturns.1.kept, hflush hturns.2.kept⟩

/-- The document of the session is in its file. -/
def Held (H : Digest) (sessionId : String) (transcript : RelativeTranscript) (root : StateRoot) :
    Prop :=
  ∃ doc : SessionDocument, doc.sessionId = sessionId ∧ doc.transcript = transcript ∧
    root.Holds H doc

theorem Kept.held {H : Digest} {sessionId : String} {transcript : RelativeTranscript}
    {root root' : StateRoot} {engine engine' : WatcherEngine}
    (hkept : Kept H sessionId root engine root' engine')
    (hheld : Held H sessionId transcript root) :
    Held H sessionId transcript root' := by
  obtain ⟨doc, rfl, htranscript, hholds⟩ := hheld
  exact ⟨doc, rfl, htranscript, hkept.runtime.trans hholds⟩

theorem Kept.loadCursor {H : Digest} {sessionId : String} {root root' : StateRoot}
    {engine engine' : WatcherEngine} (hkept : Kept H sessionId root engine root' engine') :
    loadCursor H root' sessionId = CodexMustWork.loadCursor H root sessionId :=
  loadCursor_congr hkept.cursors

theorem committedDocument_transcript (H : Digest) (engine : WatcherEngine) (doc : SessionDocument)
    (input : TickInput) : (committedDocument H engine doc input).transcript = doc.transcript := by
  unfold committedDocument SessionDocument.afterTick
  split_ifs <;> rfl

section Ticks

variable {H : Digest} {sessionId path : String} {transcript : RelativeTranscript}
  {env : TickEnvironment} {root : StateRoot} {engine : WatcherEngine}

/-- The session's turn does not come, or what it reads is committed. -/
theorem tick_hands {batch : TargetBatch} (hheld : Held H sessionId transcript root)
    (hcalm : env.Undisturbed H sessionId transcript path)
    (hlive : sessionId ∉ engine.failedSessions)
    (hloaded : loadCursor H root sessionId = .ok batch.previousCursor)
    (hread : ∀ root' (doc : SessionDocument), doc.sessionId = sessionId →
      loadCursor H root' sessionId = loadCursor H root sessionId →
      env.read root' (doc.target H path) = .ok batch) :
    Held H sessionId transcript (engine.tick H env root).root ∧
      sessionId ∉ (engine.tick H env root).engine.failedSessions ∧
      (tickTurn H env root engine (sessionFilename H sessionId) = .unreached ∧
          loadCursor H (engine.tick H env root).root sessionId = loadCursor H root sessionId ∨
        tickTurn H env root engine (sessionFilename H sessionId) = .handed batch ∧
          loadCursor H (engine.tick H env root).root sessionId = .ok (some batch.nextCursor)) := by
  have hturns := tick_turn H sessionId env root engine
  unfold tickTurn
  cases hturn : turnOf H env (sessionFilename H sessionId) (discoverRuntimeFiles root) root
      engine with
  | none =>
      rw [hturn] at hturns
      exact ⟨hturns.held hheld, fun hmem => hlive (hturns.failed.mp hmem),
        Or.inl ⟨rfl, hturns.loadCursor⟩⟩
  | some reached =>
      obtain ⟨root₁, engine₁⟩ := reached
      rw [hturn] at hturns
      obtain ⟨hbefore, hafter⟩ := hturns
      obtain ⟨doc, rfl, rfl, hholds⟩ := hbefore.held hheld
      have hlive₁ : doc.sessionId ∉ engine₁.failedSessions :=
        fun hmem => hlive (hbefore.failed.mp hmem)
      obtain ⟨hhanded, hcommitted, hcursor⟩ := tickFile_hands hholds hcalm hlive₁
        (hbefore.loadCursor.trans hloaded) (hread root₁ doc rfl hbefore.loadCursor)
      have hpath : sessionFilename H doc.sessionId = doc.path H := rfl
      rw [hpath] at hafter ⊢
      dsimp only
      rw [hhanded]
      refine ⟨hafter.held ⟨_, committedDocument_sessionId H engine₁ doc (env.input batch),
          committedDocument_transcript H engine₁ doc (env.input batch), hcommitted.holds⟩, ?_,
        Or.inr ⟨rfl, hafter.loadCursor.trans hcursor⟩⟩
      intro hmem
      apply hlive₁
      rw [← hcommitted.failedSessions]
      exact hafter.failed.mp hmem

/-- A quarantined session is handed nothing, and stays quarantined. -/
theorem tick_quarantined (hheld : Held H sessionId transcript root)
    (hcalm : env.Undisturbed H sessionId transcript path)
    (hfailed : sessionId ∈ engine.failedSessions) :
    Held H sessionId transcript (engine.tick H env root).root ∧
      sessionId ∈ (engine.tick H env root).engine.failedSessions ∧
      ∀ batch, tickTurn H env root engine (sessionFilename H sessionId) ≠ .handed batch := by
  have hturns := tick_turn H sessionId env root engine
  unfold tickTurn
  cases hturn : turnOf H env (sessionFilename H sessionId) (discoverRuntimeFiles root) root
      engine with
  | none =>
      rw [hturn] at hturns
      exact ⟨hturns.held hheld, hturns.failed.mpr hfailed, fun _ heq => by cases heq⟩
  | some reached =>
      obtain ⟨root₁, engine₁⟩ := reached
      rw [hturn] at hturns
      obtain ⟨hbefore, hafter⟩ := hturns
      obtain ⟨doc, rfl, rfl, hholds⟩ := hbefore.held hheld
      have hfailed₁ := hbefore.failed.mpr hfailed
      obtain ⟨hhanded, hfile⟩ := tickFile_quarantined hholds hcalm hfailed₁
      have hpath : sessionFilename H doc.sessionId = doc.path H := rfl
      rw [hpath, hfile] at hafter
      rw [hpath]
      dsimp only
      rw [hhanded]
      exact ⟨hafter.held ⟨doc, rfl, rfl, hholds⟩, hafter.failed.mpr hfailed₁,
        fun _ heq => by cases heq⟩

end Ticks

/-! ### Runs -/

section Steps

variable {H : Digest} {format : RecordFormat ρ} {sessionId path : String}
  {transcript : RelativeTranscript} {state : Growing} {env : TickEnvironment}
  {rollouts : String → Except Failure RolloutFile}

/-- The session before its first turn. -/
structure Waiting (H : Digest) (sessionId : String) (transcript : RelativeTranscript)
    (state : Growing) : Prop where
  held : Held H sessionId transcript state.root
  live : sessionId ∉ state.engine.failedSessions
  loaded : loadCursor H state.root sessionId = .ok none

/-- The session once its chain of batches has begun. -/
structure Covering (H : Digest) (format : RecordFormat ρ) (sessionId : String)
    (transcript : RelativeTranscript) (start : Nat) (state : Growing) (batches : List TargetBatch)
    (cursor : RolloutCursor) : Prop where
  held : Held H sessionId transcript state.root
  live : sessionId ∉ state.engine.failedSessions
  loaded : loadCursor H state.root sessionId = .ok (some cursor)
  started : start ≤ state.rollout.content.length
  chain : Chain format state.rollout start batches cursor

theorem Growing.environment_undisturbed (hcalm : env.Undisturbed H sessionId transcript path) :
    (state.environment H format path env rollouts).Undisturbed H sessionId transcript path :=
  ⟨hcalm.resolve, hcalm.snapshotLock, hcalm.snapshotRelease, hcalm.commitLock, hcalm.write,
    hcalm.cursor⟩

theorem readTargetBatch_session {root : StateRoot} {doc : SessionDocument} {file : RolloutFile} :
    readTargetBatch H format (Function.update rollouts path (.ok file)) root (doc.target H path) =
      match loadCursor H root doc.sessionId with
      | .error failure => .error (.raised failure)
      | .ok none => .ok ⟨none, initialCursor file, []⟩
      | .ok (some cursor) =>
          match readNewRecords format file cursor with
          | .error failure => .error failure
          | .ok batch =>
              .ok ⟨some cursor, batch.cursor,
                batch.records.filterMap format.parseRolloutEvent⟩ := by
  have hrollout : (Function.update rollouts path (.ok file)) (doc.target H path).rolloutFile =
      .ok file := Function.update_self ..
  unfold readTargetBatch
  have hsession : (doc.target H path).sessionId = doc.sessionId := rfl
  rw [hrollout, hsession]
  cases loadCursor H root doc.sessionId with
  | error failure => rfl
  | ok cursor => cases cursor <;> rfl

variable (format rollouts) in
/-- The first turn begins the chain at the end of the file. -/
theorem Waiting.tick (hwaiting : Waiting H sessionId transcript state)
    (hcalm : env.Undisturbed H sessionId transcript path) :
    ((growing H format sessionId path).step state (.tick env rollouts)).2 = .unreached ∧
        Waiting H sessionId transcript
          ((growing H format sessionId path).step state (.tick env rollouts)).1 ∨
      ((growing H format sessionId path).step state (.tick env rollouts)).2 =
          .handed ⟨none, initialCursor state.rollout, []⟩ ∧
        Covering H format sessionId transcript state.rollout.content.length
          ((growing H format sessionId path).step state (.tick env rollouts)).1
          [⟨none, initialCursor state.rollout, []⟩] (initialCursor state.rollout) := by
  have hread : ∀ root (doc : SessionDocument), doc.sessionId = sessionId →
      loadCursor H root sessionId = loadCursor H state.root sessionId →
      (state.environment H format path env rollouts).read root (doc.target H path) =
        .ok ⟨none, initialCursor state.rollout, []⟩ := by
    rintro root doc rfl hcursor
    refine readTargetBatch_session.trans ?_
    rw [hcursor, hwaiting.loaded]
  obtain ⟨hheld, hlive, ⟨hturn, hcursor⟩ | ⟨hturn, hcursor⟩⟩ :=
    tick_hands hwaiting.held (Growing.environment_undisturbed hcalm) hwaiting.live hwaiting.loaded
      hread
  · exact Or.inl ⟨hturn, hheld, hlive, hcursor.trans hwaiting.loaded⟩
  · exact Or.inr ⟨hturn, hheld, hlive, hcursor, le_rfl, Chain.first⟩

variable (rollouts) in
/-- A later turn continues the chain, past a line if there is a complete one. -/
theorem Covering.tick {start : Nat} {batches : List TargetBatch} {cursor : RolloutCursor}
    (hcovering : Covering H format sessionId transcript start state batches cursor)
    (hreadable : Readable format (state.rollout.content.drop start))
    (hcalm : env.Undisturbed H sessionId transcript path) :
    ((growing H format sessionId path).step state (.tick env rollouts)).2 = .unreached ∧
        Covering H format sessionId transcript start
          ((growing H format sessionId path).step state (.tick env rollouts)).1 batches cursor ∨
      ∃ batch, ((growing H format sessionId path).step state (.tick env rollouts)).2 =
          .handed batch ∧
        Covering H format sessionId transcript start
          ((growing H format sessionId path).step state (.tick env rollouts)).1
          (batches ++ [batch]) batch.nextCursor ∧
        cursor.offset ≤ batch.nextCursor.offset ∧
        (newline ∈ state.rollout.content.drop cursor.offset →
          cursor.offset < batch.nextCursor.offset) := by
  obtain ⟨hline, _⟩ := hcovering.chain.startsLine hcovering.started
  have hstarts : StartsLine start state.rollout
      ⟨state.rollout.device, state.rollout.fileId, start⟩ :=
    (@Chain.startsLine _ format _ _ _ _ Chain.first hcovering.started).1
  have hunread := hstarts.readable_of_le hline hline.after hreadable
  obtain ⟨batch, hbatch, hnext, hprogress⟩ := readNewRecords_of_readable hline hunread
  obtain ⟨_, _, hdevice, hfileId, hafter, hwithin, hwhole, hdecoded, _⟩ :=
    readNewRecords_eq_ok format hbatch
  have hread : ∀ root (doc : SessionDocument), doc.sessionId = sessionId →
      loadCursor H root sessionId = loadCursor H state.root sessionId →
      (state.environment H format path env rollouts).read root (doc.target H path) =
        .ok ⟨some cursor, batch.cursor, batch.records.filterMap format.parseRolloutEvent⟩ := by
    rintro root doc rfl hcursor
    refine readTargetBatch_session.trans ?_
    rw [hcursor, hcovering.loaded]
    dsimp only
    rw [hbatch]
  obtain ⟨hheld, hlive, ⟨hturn, hcursor⟩ | ⟨hturn, hcursor⟩⟩ :=
    tick_hands hcovering.held (Growing.environment_undisturbed hcalm) hcovering.live
      hcovering.loaded hread
  · exact Or.inl ⟨hturn, hheld, hlive, hcursor.trans hcovering.loaded, hcovering.started,
      hcovering.chain⟩
  · exact Or.inr ⟨_, hturn, ⟨hheld, hlive, hcursor, hcovering.started,
      hcovering.chain.next hdevice hfileId hafter hwithin hwhole hdecoded⟩, hafter,
      fun hmem => (hprogress hmem).2⟩

theorem Covering.append {start : Nat} {batches : List TargetBatch} {cursor : RolloutCursor}
    (hcovering : Covering H format sessionId transcript start state batches cursor)
    (chunk : List UInt8) :
    Covering H format sessionId transcript start
      ((growing H format sessionId path).step state (.append chunk)).1 batches cursor := by
  refine ⟨hcovering.held, hcovering.live, hcovering.loaded, ?_, hcovering.chain.append chunk⟩
  have hstarted := hcovering.started
  change start ≤ (state.rollout.content ++ chunk).length
  rw [List.length_append]
  omega

end Steps

section Runs

variable {H : Digest} {format : RecordFormat ρ} {sessionId path : String}
  {transcript : RelativeTranscript} {state : Growing} {steps : List GrowingStep}

/-- The session's own files raise nothing in any of the ticks. -/
def UndisturbedTicks (H : Digest) (sessionId : String) (transcript : RelativeTranscript)
    (path : String) (steps : List GrowingStep) : Prop :=
  ∀ env rollouts, .tick env rollouts ∈ steps → env.Undisturbed H sessionId transcript path

/-- Nothing but ticks. -/
def OnlyTicks (steps : List GrowingStep) : Prop :=
  ∀ step ∈ steps, ∃ env rollouts, step = .tick env rollouts

variable (H format sessionId path) in
/-- What Codex appends before the first turn of the session. -/
def appendedBeforeTurn : Growing → List GrowingStep → List UInt8
  | _, [] => []
  | state, .append chunk :: rest =>
      chunk ++ appendedBeforeTurn ((growing H format sessionId path).step state (.append chunk)).1
        rest
  | state, .tick env rollouts :: rest =>
      match (growing H format sessionId path).step state (.tick env rollouts) with
      | (next, .unreached) => appendedBeforeTurn next rest
      | _ => []

theorem appendedBeforeTurn_of_unreached {env : TickEnvironment}
    {rollouts : String → Except Failure RolloutFile}
    (hturn : ((growing H format sessionId path).step state (.tick env rollouts)).2 = .unreached) :
    appendedBeforeTurn H format sessionId path state (.tick env rollouts :: steps) =
      appendedBeforeTurn H format sessionId path
        ((growing H format sessionId path).step state (.tick env rollouts)).1 steps := by
  rw [appendedBeforeTurn]
  split
  · next next hstep => rw [hstep]
  · next hother => exact (hother _ (Prod.ext rfl hturn)).elim

theorem appendedBeforeTurn_of_handed {env : TickEnvironment} {batch : TargetBatch}
    {rollouts : String → Except Failure RolloutFile}
    (hturn : ((growing H format sessionId path).step state (.tick env rollouts)).2 =
      .handed batch) :
    appendedBeforeTurn H format sessionId path state (.tick env rollouts :: steps) = [] := by
  rw [appendedBeforeTurn]
  split
  · next next hstep =>
      rw [hstep] at hturn
      cases hturn
  · rfl

/-- The rollout only grows. -/
theorem growing_rollout :
    ∃ appended, ((growing H format sessionId path).after state steps).rollout =
      state.rollout.append appended := by
  induction steps generalizing state with
  | nil => exact ⟨[], by simp [RolloutFile.append]⟩
  | cons step rest ih =>
      obtain ⟨appended, hrest⟩ := @ih ((growing H format sessionId path).step state step).1
      rw [Machine.after_cons, hrest]
      cases step with
      | append chunk => exact ⟨chunk ++ appended, RolloutFile.append_append ..⟩
      | tick env rollouts => exact ⟨appended, rfl⟩

theorem growing_rollout_of_ticks (hticks : OnlyTicks steps) :
    ((growing H format sessionId path).after state steps).rollout = state.rollout := by
  induction steps generalizing state with
  | nil => rfl
  | cons step rest ih =>
      obtain ⟨env, rollouts, rfl⟩ := hticks step (List.mem_cons_self ..)
      exact ih fun other hother => hticks other (List.mem_cons_of_mem _ hother)

/-- What is readable at the end of a run was readable at its start. -/
theorem Readable.of_growing {start : Nat} (hstart : start ≤ state.rollout.content.length)
    (hreadable : Readable format
      (((growing H format sessionId path).after state steps).rollout.content.drop start)) :
    Readable format (state.rollout.content.drop start) := by
  obtain ⟨appended, hgrown⟩ := @growing_rollout _ H format sessionId path state steps
  rw [hgrown] at hreadable
  apply hreadable.of_prefix
  rw [RolloutFile.append, List.drop_append_of_le_length hstart]
  exact List.prefix_append _ _

@[simp] theorem handedBatches_nil : handedBatches [] = [] := rfl

@[simp] theorem handedBatches_unreached (turns : List Turn) :
    handedBatches (.unreached :: turns) = handedBatches turns := rfl

@[simp] theorem handedBatches_handed (batch : TargetBatch) (turns : List Turn) :
    handedBatches (.handed batch :: turns) = batch :: handedBatches turns := rfl

theorem handedBatches_append (first second : List Turn) :
    handedBatches (first ++ second) = handedBatches first ++ handedBatches second :=
  List.filterMap_append

@[simp] theorem countTurns_nil : countTurns [] = 0 := rfl

@[simp] theorem countTurns_unreached (turns : List Turn) :
    countTurns (.unreached :: turns) = countTurns turns := rfl

@[simp] theorem countTurns_handed (batch : TargetBatch) (turns : List Turn) :
    countTurns (.handed batch :: turns) = countTurns turns + 1 :=
  List.countP_cons_of_pos rfl

theorem UndisturbedTicks.of_cons {step : GrowingStep}
    (hcalm : UndisturbedTicks H sessionId transcript path (step :: steps)) :
    UndisturbedTicks H sessionId transcript path steps :=
  fun env rollouts hmem => hcalm env rollouts (List.mem_cons_of_mem _ hmem)

/-- A chain that has begun goes on. -/
theorem Covering.run {start : Nat} {batches : List TargetBatch} {cursor : RolloutCursor}
    (hcovering : Covering H format sessionId transcript start state batches cursor)
    (hcalm : UndisturbedTicks H sessionId transcript path steps)
    (hreadable : Readable format
      (((growing H format sessionId path).after state steps).rollout.content.drop start)) :
    ∃ last, Covering H format sessionId transcript start
      ((growing H format sessionId path).after state steps)
      (batches ++ handedBatches ((growing H format sessionId path).outputs state steps)) last := by
  induction steps generalizing state batches cursor with
  | nil => exact ⟨cursor, by simpa using hcovering⟩
  | cons step rest ih =>
      rw [Machine.after_cons] at hreadable
      rw [Machine.after_cons, Machine.outputs_cons]
      cases step with
      | append chunk =>
          obtain ⟨last, hlast⟩ := ih (hcovering.append chunk) hcalm.of_cons hreadable
          exact ⟨last, hlast⟩
      | tick env rollouts =>
          have hnow := @Readable.of_growing _ _ _ _ _ _ (.tick env rollouts :: rest) _
            hcovering.started hreadable
          rcases hcovering.tick rollouts hnow
              (hcalm env rollouts (List.mem_cons_self ..)) with
            ⟨hturn, hnext⟩ | ⟨batch, hturn, hnext, _, _⟩
          · rw [hturn, handedBatches_unreached]
            exact ih hnext hcalm.of_cons hreadable
          · obtain ⟨last, hlast⟩ := ih hnext hcalm.of_cons hreadable
            rw [List.append_assoc] at hlast
            rw [hturn, handedBatches_handed]
            exact ⟨last, hlast⟩

/-- Each turn without a later append moves the cursor, until no complete line is left. -/
theorem Covering.ticks {start : Nat} {batches : List TargetBatch} {cursor : RolloutCursor}
    (hcovering : Covering H format sessionId transcript start state batches cursor)
    (hcalm : UndisturbedTicks H sessionId transcript path steps) (hticks : OnlyTicks steps)
    (hreadable : Readable format (state.rollout.content.drop start)) :
    ∃ last, Covering H format sessionId transcript start
        ((growing H format sessionId path).after state steps)
        (batches ++ handedBatches ((growing H format sessionId path).outputs state steps)) last ∧
      cursor.offset ≤ last.offset ∧
      (newline ∉ state.rollout.content.drop last.offset ∨
        cursor.offset + countTurns ((growing H format sessionId path).outputs state steps) ≤
          last.offset) := by
  induction steps generalizing state batches cursor with
  | nil => exact ⟨cursor, by simpa using hcovering, le_rfl, Or.inr le_rfl⟩
  | cons step rest ih =>
      obtain ⟨env, rollouts, rfl⟩ := hticks step (List.mem_cons_self ..)
      have hrest : OnlyTicks rest :=
        fun other hother => hticks other (List.mem_cons_of_mem _ hother)
      rw [Machine.after_cons, Machine.outputs_cons]
      rcases hcovering.tick rollouts hreadable
          (hcalm env rollouts (List.mem_cons_self ..)) with
        ⟨hturn, hnext⟩ | ⟨batch, hturn, hnext, hle, hprogress⟩
      · rw [hturn, handedBatches_unreached, countTurns_unreached]
        exact ih hnext hcalm.of_cons hrest hreadable
      · obtain ⟨last, hlast, hlater, hdone⟩ := ih hnext hcalm.of_cons hrest hreadable
        rw [List.append_assoc] at hlast
        rw [hturn, handedBatches_handed, countTurns_handed]
        refine ⟨last, hlast, hle.trans hlater, ?_⟩
        rcases hdone with hdone | hdone
        · exact Or.inl hdone
        · by_cases hunread : newline ∈ state.rollout.content.drop cursor.offset
          · right
            have hmoved := hprogress hunread
            omega
          · left
            intro hmem
            apply hunread
            have hsplit := @RolloutFile.drop_eq state.rollout _ _ (hle.trans hlater)
            rw [hsplit]
            exact List.mem_append_right _ hmem

variable (format) in
/-- Either no turn came, or the first one began the chain where the file then ended. -/
theorem Waiting.run (hwaiting : Waiting H sessionId transcript state)
    (hcalm : UndisturbedTicks H sessionId transcript path steps) :
    (countTurns ((growing H format sessionId path).outputs state steps) = 0 ∧
        handedBatches ((growing H format sessionId path).outputs state steps) = [] ∧
        Waiting H sessionId transcript ((growing H format sessionId path).after state steps) ∧
        ((growing H format sessionId path).after state steps).rollout =
          state.rollout.append (appendedBeforeTurn H format sessionId path state steps)) ∨
      ∃ past rest batch, steps = past ++ rest ∧
        countTurns ((growing H format sessionId path).outputs state past) = 1 ∧
        handedBatches ((growing H format sessionId path).outputs state past) = [batch] ∧
        batch.nextCursor = ⟨state.rollout.device, state.rollout.fileId,
          state.rollout.content.length +
            (appendedBeforeTurn H format sessionId path state steps).length⟩ ∧
        Covering H format sessionId transcript batch.nextCursor.offset
          ((growing H format sessionId path).after state past) [batch] batch.nextCursor := by
  induction steps generalizing state with
  | nil => exact Or.inl ⟨rfl, rfl, hwaiting, by simp [appendedBeforeTurn, RolloutFile.append]⟩
  | cons step rest ih =>
      cases step with
      | append chunk =>
          have hnext : Waiting H sessionId transcript
              ((growing H format sessionId path).step state (.append chunk)).1 :=
            ⟨hwaiting.held, hwaiting.live, hwaiting.loaded⟩
          rw [appendedBeforeTurn]
          rcases ih hnext hcalm.of_cons with
            ⟨hcount, hnone, hafter, hrollout⟩ |
              ⟨past, later, batch, rfl, hcount, hbatch, hcursor, hcovering⟩
          · refine Or.inl ⟨hcount, hnone, hafter, hrollout.trans ?_⟩
            exact RolloutFile.append_append ..
          · refine Or.inr ⟨.append chunk :: past, later, batch, rfl, hcount, hbatch, ?_, hcovering⟩
            rw [hcursor, List.length_append, ← Nat.add_assoc]
            simp [growing, RolloutFile.append]
      | tick env rollouts =>
          rcases hwaiting.tick format rollouts
              (hcalm env rollouts (List.mem_cons_self ..)) with
            ⟨hturn, hnext⟩ | ⟨hturn, hnext⟩
          · rcases ih hnext hcalm.of_cons with
              ⟨hcount, hnone, hafter, hrollout⟩ |
                ⟨past, later, batch, rfl, hcount, hbatch, hcursor, hcovering⟩
            · refine Or.inl ⟨?_, ?_, hafter, ?_⟩
              · rw [Machine.outputs_cons, hturn, countTurns_unreached, hcount]
              · rw [Machine.outputs_cons, hturn, handedBatches_unreached, hnone]
              · rw [appendedBeforeTurn_of_unreached hturn]
                exact hrollout
            · refine Or.inr ⟨.tick env rollouts :: past, later, batch, rfl, ?_, ?_, ?_, hcovering⟩
              · rw [Machine.outputs_cons, hturn, countTurns_unreached, hcount]
              · rw [Machine.outputs_cons, hturn, handedBatches_unreached, hbatch]
              · rw [hcursor, appendedBeforeTurn_of_unreached hturn]
                rfl
          · refine Or.inr ⟨[.tick env rollouts], rest, ⟨none, initialCursor state.rollout, []⟩, rfl,
              ?_, ?_, ?_, hnext⟩
            · rw [Machine.outputs_cons, hturn, countTurns_handed]
              rfl
            · rw [Machine.outputs_cons, hturn, handedBatches_handed]
              rfl
            · rw [appendedBeforeTurn_of_handed hturn]
              rfl

theorem appendedBeforeTurn_of_ticks (hticks : OnlyTicks steps) :
    appendedBeforeTurn H format sessionId path state steps = [] := by
  induction steps generalizing state with
  | nil => rfl
  | cons step rest ih =>
      obtain ⟨env, rollouts, rfl⟩ := hticks step (List.mem_cons_self ..)
      rw [appendedBeforeTurn]
      split
      · exact ih fun other hother => hticks other (List.mem_cons_of_mem _ hother)
      · rfl

theorem UndisturbedTicks.of_append {more : List GrowingStep}
    (hcalm : UndisturbedTicks H sessionId transcript path (steps ++ more)) :
    UndisturbedTicks H sessionId transcript path steps ∧
      UndisturbedTicks H sessionId transcript path more :=
  ⟨fun env rollouts hmem => hcalm env rollouts (List.mem_append_left _ hmem),
    fun env rollouts hmem => hcalm env rollouts (List.mem_append_right _ hmem)⟩

/-- A quarantined session is handed nothing. -/
theorem handedBatches_quarantined (hheld : Held H sessionId transcript state.root)
    (hfailed : sessionId ∈ state.engine.failedSessions)
    (hcalm : UndisturbedTicks H sessionId transcript path steps) :
    handedBatches ((growing H format sessionId path).outputs state steps) = [] := by
  induction steps generalizing state with
  | nil => rfl
  | cons step rest ih =>
      rw [Machine.outputs_cons]
      cases step with
      | append chunk => exact ih hheld hfailed hcalm.of_cons
      | tick env rollouts =>
          have hnow : (state.environment H format path env rollouts).Undisturbed H sessionId
              transcript path :=
            Growing.environment_undisturbed (hcalm env rollouts (List.mem_cons_self ..))
          obtain ⟨hnext, hstays, hnone⟩ := tick_quarantined hheld hnow hfailed
          have hrest := @ih ((growing H format sessionId path).step state
            (.tick env rollouts)).1 hnext hstays hcalm.of_cons
          unfold handedBatches
          rw [List.filterMap_cons]
          cases hturn : ((growing H format sessionId path).step state (.tick env rollouts)).2 with
          | unreached => exact hrest
          | idle => exact hrest
          | handed batch => exact absurd hturn (hnone batch)

end Runs

/-! ### Nothing is skipped -/

/-- The batches are a chain from `start`, and no complete line is after them. -/
def NothingSkipped (format : RecordFormat ρ) (file : RolloutFile) (start : Nat)
    (batches : List TargetBatch) : Prop :=
  ∃ cursor, Chain format file start batches cursor ∧ newline ∉ file.content.drop cursor.offset

/-- When nothing is skipped, the text from the opt-in is cut into records. -/
theorem NothingSkipped.decodes {format : RecordFormat ρ} {file : RolloutFile} {start : Nat}
    {batches : List TargetBatch} (hcovers : NothingSkipped format file start batches)
    (hstart : start ≤ file.content.length) :
    ∀ line ∈ lines newline (file.content.drop start),
      ∃ record, format.decodeRecord line = .ok record := by
  obtain ⟨cursor, hchain, hfree⟩ := hcovers
  obtain ⟨hline, records, hdecoded⟩ := hchain.startsLine hstart
  rw [RolloutFile.drop_eq hline.after, (lines_append_free newline hline.whole hfree).1]
  exact decodes_of_decodeLines hdecoded

/-- No line that begins at `instant` or later, the last one included, is too large. -/
def BoundedFrom (history : RolloutFile) (instant : Nat) : Prop :=
  (∀ line ∈ lines newline (history.content.drop instant), line.length ≤ maxLineBytes) ∧
    (unterminated newline (history.content.drop instant)).length ≤ maxLineBytes

/-- A session whose document was just created, with no cursor left from before. -/
structure OptedIn (H : Digest) (request : StartRequest) (transcript : RelativeTranscript)
    (state : Growing) : Prop where
  started : ∃ faults root now, faults.transcript = some transcript ∧
    startNotificationSession H faults root request now = (state.root, .ok false)
  fresh : loadCursor H state.root request.sessionId = .ok none

section Activation

variable {H : Digest} {format : RecordFormat ρ} {request : StartRequest}
  {transcript : RelativeTranscript} {path : String} {state : Growing}
  {steps ticks : List GrowingStep}

theorem OptedIn.held (hopted : OptedIn H request transcript state) :
    Held H request.sessionId transcript state.root := by
  obtain ⟨faults, root, now, htranscript, hstart⟩ := hopted.started
  obtain ⟨created, hcreated, _, hroot⟩ := startNotificationSession_fresh hstart
  rw [htranscript] at hcreated
  obtain rfl := Option.some_inj.mp hcreated
  refine ⟨SessionDocument.started request transcript now, rfl, rfl, ?_⟩
  rw [hroot]
  exact root.setRuntime_lookup _ _

variable (format) in
/-- The end of file at which the chain of a live session begins. -/
theorem Waiting.head? (hwaiting : Waiting H request.sessionId transcript state)
    (hcalm : UndisturbedTicks H request.sessionId transcript path (steps ++ ticks))
    (hticks : OnlyTicks ticks)
    (henough : 0 < countTurns ((growing H format request.sessionId path).outputs
        ((growing H format request.sessionId path).after state steps) ticks)) :
    ∃ batch, (handedBatches ((growing H format request.sessionId path).outputs state
        (steps ++ ticks))).head? = some batch ∧
      batch.nextCursor.offset = state.rollout.content.length +
        (appendedBeforeTurn H format request.sessionId path state steps).length := by
  obtain ⟨hbefore, hlater⟩ := hcalm.of_append
  rw [Machine.outputs_append, handedBatches_append]
  rcases hwaiting.run format hbefore with
    ⟨_, hnone, hstill, hrollout⟩ | ⟨past, rest, batch, rfl, _, hbatch, hcursor, _⟩
  · rw [hnone, List.nil_append]
    rcases hstill.run format hlater with
      ⟨hcount, _⟩ | ⟨past, rest, batch, rfl, _, hbatch, hcursor, _⟩
    · omega
    · refine ⟨batch, ?_, ?_⟩
      · rw [Machine.outputs_append, handedBatches_append, hbatch]
        rfl
      · rw [hcursor, appendedBeforeTurn_of_ticks hticks, hrollout]
        simp [RolloutFile.append]
  · refine ⟨batch, ?_, by rw [hcursor]⟩
    rw [Machine.outputs_append, handedBatches_append, hbatch]
    rfl

/-- A chain with enough turns left reaches the last complete line. -/
theorem Covering.nothingSkipped {start : Nat} {batches : List TargetBatch} {cursor : RolloutCursor}
    (hcovering : Covering H format request.sessionId transcript start state batches cursor)
    (hcalm : UndisturbedTicks H request.sessionId transcript path ticks)
    (hticks : OnlyTicks ticks) (hreadable : Readable format (state.rollout.content.drop start))
    (henough : state.rollout.content.length ≤ cursor.offset +
      countTurns ((growing H format request.sessionId path).outputs state ticks)) :
    NothingSkipped format state.rollout start
      (batches ++
        handedBatches ((growing H format request.sessionId path).outputs state ticks)) := by
  obtain ⟨last, hlast, _, hdone⟩ := hcovering.ticks hcalm hticks hreadable
  have hchain := hlast.chain
  rw [growing_rollout_of_ticks hticks] at hchain
  refine ⟨last, hchain, ?_⟩
  rcases hdone with hdone | hdone
  · exact hdone
  · rw [List.drop_eq_nil_of_le (henough.trans hdone)]
    exact List.not_mem_nil

variable (format) in
/-- A live session that ticks only reads nothing, and skips nothing. -/
theorem Waiting.nothingSkipped_of_ticks (hwaiting : Waiting H request.sessionId transcript state)
    (hcalm : UndisturbedTicks H request.sessionId transcript path ticks)
    (hticks : OnlyTicks ticks)
    (henough : 0 < countTurns ((growing H format request.sessionId path).outputs state ticks)) :
    NothingSkipped format state.rollout state.rollout.content.length
      (handedBatches ((growing H format request.sessionId path).outputs state ticks)) := by
  have hempty := @appendedBeforeTurn_of_ticks _ H format request.sessionId path state _ hticks
  rcases hwaiting.run format hcalm with
    ⟨hcount, _⟩ | ⟨past, rest, batch, rfl, _, hbatch, hcursor, hcovering⟩
  · omega
  · have hpast : OnlyTicks past := fun step hstep => hticks step (List.mem_append_left _ hstep)
    have hrest : OnlyTicks rest := fun step hstep => hticks step (List.mem_append_right _ hstep)
    have hoffset : batch.nextCursor.offset = state.rollout.content.length := by
      rw [hcursor, hempty]
      rfl
    have hsame := @growing_rollout_of_ticks _ H format request.sessionId path state past hpast
    have hall := hcovering.nothingSkipped hcalm.of_append.2 hrest ?_ ?_
    · rw [hsame, hoffset] at hall
      rw [Machine.outputs_append, handedBatches_append, hbatch]
      exact hall
    · rw [hsame, hoffset, List.drop_length]
      exact ⟨by simp, by simp, Nat.zero_le _⟩
    · rw [hsame, hoffset]
      exact Nat.le_add_right _ _

/-- A live session whose chain begins at the opt-in reads everything after it. -/
theorem Waiting.nothingSkipped (hwaiting : Waiting H request.sessionId transcript state)
    (hcalm : UndisturbedTicks H request.sessionId transcript path (steps ++ ticks))
    (hticks : OnlyTicks ticks)
    (hnone : appendedBeforeTurn H format request.sessionId path state steps = [])
    (hreadable : Readable format (((growing H format request.sessionId path).after state
      steps).rollout.content.drop state.rollout.content.length))
    (henough : ((growing H format request.sessionId path).after state
        steps).rollout.content.length <
      countTurns ((growing H format request.sessionId path).outputs
        ((growing H format request.sessionId path).after state steps) ticks)) :
    NothingSkipped format ((growing H format request.sessionId path).after state steps).rollout
      state.rollout.content.length
      (handedBatches ((growing H format request.sessionId path).outputs state
        (steps ++ ticks))) := by
  obtain ⟨hbefore, hlater⟩ := hcalm.of_append
  rw [Machine.outputs_append, handedBatches_append]
  rcases hwaiting.run format hbefore with
    ⟨_, hempty, hstill, hrollout⟩ | ⟨past, rest, batch, rfl, _, hbatch, hcursor, hcovering⟩
  · -- The first turn is among the last ticks.
    rw [hempty, List.nil_append]
    rw [hnone] at hrollout
    have hsame : ((growing H format request.sessionId path).after state steps).rollout =
        state.rollout := by simpa [RolloutFile.append] using hrollout
    have hall := hstill.nothingSkipped_of_ticks format hlater hticks (by omega)
    rw [hsame] at hall ⊢
    exact hall
  · have hoffset : batch.nextCursor.offset = state.rollout.content.length := by
      rw [hcursor, hnone]
      rfl
    rw [hoffset] at hcovering
    rw [Machine.after_append] at hreadable henough ⊢
    obtain ⟨last, hlast⟩ := hcovering.run hbefore.of_append.2 hreadable
    rw [Machine.outputs_append, handedBatches_append, hbatch]
    exact hlast.nothingSkipped hlater hticks hreadable
      (henough.le.trans (Nat.le_add_left _ _))

/-- **What is read after an opt-in.**  With enough turns after the last append, nothing
    that was written after the start is skipped exactly when the session is not in
    quarantine, nothing was written between the start and its first turn, and the
    text from the start on is cut into records. -/
theorem nothingSkipped_iff (hopted : OptedIn H request transcript state)
    (hcalm : UndisturbedTicks H request.sessionId transcript path (steps ++ ticks))
    (hticks : OnlyTicks ticks)
    (hbounded : BoundedFrom
      ((growing H format request.sessionId path).after state steps).rollout
      state.rollout.content.length)
    (henough : ((growing H format request.sessionId path).after state
        steps).rollout.content.length <
      countTurns ((growing H format request.sessionId path).outputs
        ((growing H format request.sessionId path).after state steps) ticks)) :
    NothingSkipped format ((growing H format request.sessionId path).after state steps).rollout
        state.rollout.content.length
        (handedBatches ((growing H format request.sessionId path).outputs state
          (steps ++ ticks))) ↔
      request.sessionId ∉ state.engine.failedSessions ∧
        appendedBeforeTurn H format request.sessionId path state steps = [] ∧
        ∀ line ∈ lines newline (((growing H format request.sessionId path).after state
            steps).rollout.content.drop state.rollout.content.length),
          ∃ record, format.decodeRecord line = .ok record := by
  have hheld := hopted.held
  constructor
  · intro hall
    obtain ⟨appended, hgrown⟩ := @growing_rollout _ H format request.sessionId path state steps
    have hstart : state.rollout.content.length ≤
        ((growing H format request.sessionId path).after state steps).rollout.content.length := by
      rw [hgrown, RolloutFile.append, List.length_append]
      exact Nat.le_add_right _ _
    have hdecodes := hall.decodes hstart
    obtain ⟨cursor, hchain, _⟩ := hall
    have hhead := hchain.head?
    have hlive : request.sessionId ∉ state.engine.failedSessions := by
      intro hfailed
      rw [handedBatches_quarantined hheld hfailed hcalm] at hhead
      cases hhead
    obtain ⟨batch, hbatch, hoffset⟩ := Waiting.head? format
      ⟨hheld, hlive, hopted.fresh⟩ hcalm hticks (Nat.zero_lt_of_lt henough)
    rw [hhead] at hbatch
    obtain rfl := Option.some_inj.mp hbatch
    refine ⟨hlive, List.eq_nil_of_length_eq_zero ?_, hdecodes⟩
    change state.rollout.content.length = _ at hoffset
    omega
  · rintro ⟨hlive, hnone, hdecodes⟩
    exact Waiting.nothingSkipped ⟨hheld, hlive, hopted.fresh⟩ hcalm hticks hnone
      ⟨hdecodes, hbounded.1, hbounded.2⟩ henough

end Activation

/-! ### A session on an empty rollout -/

/-- The session of the sample request, started on an empty rollout. -/
def sampleGrowing : Growing := ⟨sampleRoot, WatcherEngine.fresh [], sampleRollout []⟩

def emptyTick : GrowingStep := .tick (.delivering ⟨0, 0⟩ []) fun _ => .error .osError

theorem sampleGrowing_optedIn : OptedIn .transparent sampleRequest ⟨"t", by decide⟩ sampleGrowing :=
  ⟨⟨sampleStart, .empty, 0, rfl, rfl⟩, rfl⟩

theorem undisturbedTicks_sample (steps : List GrowingStep)
    (hsteps : ∀ step ∈ steps, step = emptyTick ∨ ∃ chunk, step = .append chunk) :
    UndisturbedTicks .transparent "s" ⟨"t", by decide⟩ "t" steps := by
  intro env rollouts hmem
  rcases hsteps _ hmem with heq | ⟨chunk, heq⟩
  · obtain ⟨rfl, rfl⟩ := GrowingStep.tick.inj heq
    exact ⟨rfl, rfl, rfl, rfl, rfl, rfl⟩
  · cases heq

theorem onlyTicks_sample (count : Nat) : OnlyTicks (List.replicate count emptyTick) :=
  fun _ hmem => ⟨_, _, List.eq_of_mem_replicate hmem⟩

theorem boundedFrom_sampleLine : BoundedFrom (sampleRollout sampleLine) 0 :=
  ⟨readable_sampleLine.bounded, readable_sampleLine.rest⟩

theorem nothingSkipped_iff_sample :
    NothingSkipped sampleFormat (sampleRollout sampleLine) 0
        (handedBatches ((growing .transparent sampleFormat "s" "t").outputs sampleGrowing
          ([emptyTick, .append sampleLine] ++ List.replicate 4 emptyTick))) ↔
      "s" ∉ sampleGrowing.engine.failedSessions ∧
        appendedBeforeTurn .transparent sampleFormat "s" "t" sampleGrowing
          [emptyTick, .append sampleLine] = [] ∧
        ∀ line ∈ lines newline ((sampleRollout sampleLine).content.drop 0),
          ∃ record, sampleFormat.decodeRecord line = .ok record :=
  @nothingSkipped_iff _ _ _ _ _ _ _ [emptyTick, .append sampleLine] _ sampleGrowing_optedIn
    (undisturbedTicks_sample _ (by simp)) (onlyTicks_sample 4) boundedFrom_sampleLine (by decide)

/-- A line written between the start and the first tick is never read. -/
theorem line_before_first_tick_skipped :
    OptedIn .transparent sampleRequest ⟨"t", by decide⟩ sampleGrowing ∧
      UndisturbedTicks .transparent "s" ⟨"t", by decide⟩ "t"
        ([.append sampleLine] ++ List.replicate 4 emptyTick) ∧
      ((growing .transparent sampleFormat "s" "t").after sampleGrowing
        [.append sampleLine]).rollout = sampleRollout sampleLine ∧
      Readable sampleFormat sampleLine ∧
      countTurns ((growing .transparent sampleFormat "s" "t").outputs
        ((growing .transparent sampleFormat "s" "t").after sampleGrowing [.append sampleLine])
        (List.replicate 4 emptyTick)) = 4 ∧
      ¬ NothingSkipped sampleFormat (sampleRollout sampleLine) 0
        (handedBatches ((growing .transparent sampleFormat "s" "t").outputs sampleGrowing
          ([.append sampleLine] ++ List.replicate 4 emptyTick))) := by
  refine ⟨sampleGrowing_optedIn, undisturbedTicks_sample _ (by simp), rfl, readable_sampleLine,
    by decide, ?_⟩
  rintro ⟨cursor, hchain, _⟩
  have hhead := hchain.head?
  have hfirst : (handedBatches ((growing .transparent sampleFormat "s" "t").outputs sampleGrowing
      ([.append sampleLine] ++ List.replicate 4 emptyTick))).head? =
        some ⟨none, ⟨0, 0, 3⟩, []⟩ := rfl
  rw [hfirst] at hhead
  have hoffset := congrArg (fun batch => batch.map fun item => item.nextCursor.offset) hhead
  exact absurd hoffset (by decide)

end CodexMustWork
