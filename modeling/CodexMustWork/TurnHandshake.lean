import CodexMustWork.Library.ExactOwnership
import CodexMustWork.Library.Fallible
import CodexMustWork.ManagerRuntime

/-!
# The handshake of turn ownership

The manager, the daemon, the hooks, the watcher and the commands all write the runtime
document of a session, each under its lock.  Whatever the order of their writes, at most one
turn is owned or accepted, it is given up by its exact name, and the revision tells any two
documents of a session apart.
-/

namespace CodexMustWork.ManagedTurns

open ExactOwnership Fallible HookState

/-! ### The writers of a document -/

/-- The updates that `mutate_existing_state` runs on the document. -/
inductive RuntimeUpdate where
  | managerReady (pid : ℤ)
  | managerStopped
  | startupCancel
  | turnStarted (turnId now identity : PyText)
  | pendingTurn (turnId : PyText)
  | pendingTimedOut (turnId : PyText) (timedOutAt : ℚ)
  | clearPending (turnId : PyText)
  | turnFinished (turnId : PyText)
  | restartPerformed (fromisoformat : PyText → ParsedTime) (turnId : PyText) (now : ℤ)
  | managerFailure (reasonCode : String)
  | stoppedIfOwned (pid : ℤ)
  | claimRecovery (generation : ℤ) (sessionId transcriptPath : PyText)
  | goalIdentity (fingerprint : GoalIdentityFingerprint)
  | deferShutdown (interruptActive : Bool)
  | bind (turnId now identity : PyText)
  | complete (turnId : PyText)
  | adopt (turnId now identity : PyText)
  | hook (call : HookCall) (transcriptMatches : Bool)

/-- What an update leaves, without what it returns. -/
def RuntimeUpdate.apply (path : String) (update : RuntimeUpdate) (values : PyDict) :
    Except TurnFailure PyDict :=
  match update with
  | .managerReady pid => Prod.fst <$> markManagerReady path pid values
  | .managerStopped => Prod.fst <$> markManagerStopped path values
  | .startupCancel => Prod.fst <$> requestManagerStartupCancel path values
  | .turnStarted turnId now identity =>
      Prod.fst <$> recordTurnStarted path turnId now identity values
  | .pendingTurn turnId => Prod.fst <$> recordPendingTurn path turnId values
  | .pendingTimedOut turnId timedOutAt =>
      Prod.fst <$> markPendingTurnTimedOut path turnId timedOutAt values
  | .clearPending turnId => Prod.fst <$> clearPendingTurn path turnId values
  | .turnFinished turnId => Prod.fst <$> recordTurnFinished path turnId values
  | .restartPerformed fromisoformat turnId now =>
      Prod.fst <$> recordRestartPerformed path fromisoformat turnId now values
  | .managerFailure reasonCode => Prod.fst <$> recordManagerFailure path reasonCode values
  | .stoppedIfOwned pid => Prod.fst <$> markStoppedIfOwned path pid values
  | .claimRecovery generation sessionId transcriptPath =>
      Prod.fst <$> ManagedTurns.claimRecovery generation sessionId transcriptPath values
  | .goalIdentity fingerprint =>
      Prod.fst <$> recordGoalIdentityFingerprint path fingerprint values
  | .deferShutdown interruptActive =>
      Prod.fst <$> deferSessionShutdown path interruptActive values
  | .bind turnId now identity => Prod.fst <$> bindActivation path turnId now identity values
  | .complete turnId => Prod.fst <$> completeActivation path turnId values
  | .adopt turnId now identity => Prod.fst <$> adoptStarted path turnId now identity values
  | .hook call transcriptMatches => Prod.fst <$> processHook path call transcriptMatches values

/-- The members of the handshake. -/
def turnKeys : List String :=
  ["managed_turn_id", "pending_turn_id", "restart_request", "restart_claimed"]

/-- What a watcher makes of a document: it writes its monitors, no member of the handshake and
no revision.  The watcher of the engine is one. -/
structure Processor where
  process : PyDict → Except TurnFailure PyDict
  frame : ∀ {values after : PyDict}, process values = .ok after →
    ∀ key ∈ "revision" :: turnKeys, after.find key = values.find key

/-- The update of `commit_runtime_snapshot`, against the revision of the snapshot. -/
def commitSnapshot (path : String) (processor : Processor) (snapshotRevision : ℤ)
    (values : PyDict) : Except TurnFailure PyDict :=
  if !isTrue (values.find "enabled") then .ok values
  else
    match (values.find "revision").getD (.int 0) with
    | .int revision =>
        if revision < 0 then .error (corrupt path)
        else if revision ≠ snapshotRevision then .ok values
        else do
          let after ← processor.process values
          if PyValue.eq (.dict after) (.dict values) then return after
          else return after.put "revision" (.int (revision + 1))
    | _ => .error (corrupt path)

/-- The writes of a runtime document. -/
inductive Write where
  | enable (request : EnableRequest)
  | disable
  | remember
  | restore (index : ℕ)
  | update (update : RuntimeUpdate)
  | commit (processor : Processor) (snapshotRevision : ℤ)

/-- The document, if there is one, and the documents that a start or a recovery has read for
its rollback. -/
structure RuntimeFile where
  path : String
  values : Option PyDict
  remembered : List PyDict

/-- `mutate_existing_state`: nothing is written where nothing has changed. -/
def mutateExisting (update : PyDict → Except TurnFailure PyDict) (file : RuntimeFile) :
    RuntimeFile × Except TurnFailure Unit :=
  match file.values with
  | none => (file, .ok ())
  | some values =>
      match update values with
      | .error failure => (file, .error failure)
      | .ok after =>
          (if PyValue.eq (.dict after) (.dict values) then file
            else { file with values := some after }, .ok ())

/-- One write. -/
def writeMachine : Machine RuntimeFile Write (Except TurnFailure Unit) where
  step file write :=
    match write with
    | .enable request =>
        match file.values with
        | some _ => (file, .error (.manager "session_already_enabled"))
        | none => ({ file with values := some (runtimeValues request) }, .ok ())
    | .disable => ({ file with values := none }, .ok ())
    | .remember =>
        ({ file with remembered := file.remembered ++ file.values.toList }, .ok ())
    | .restore index =>
        match file.remembered[index]? with
        | none => (file, .ok ())
        | some previous => ({ file with values := some previous }, .ok ())
    | .update update => mutateExisting (update.apply file.path) file
    | .commit processor snapshotRevision =>
        mutateExisting (commitSnapshot file.path processor snapshotRevision) file

/-! ### What the hooks leave -/

/-- The members that the hook events write. -/
def hookKeys : List String :=
  ["parent", "parent_turn_id", "parent_complete", "handoff_requested", "turn_activity_epoch",
    "children"]

section Frames

variable {path key : String} {working after : Working} {target : Option PyText}

theorem save_frame (hkey : key ≠ "parent") (working : Working) (target : Option PyText)
    (monitor : PyDict) : (working.save target monitor).values.find key = working.values.find key := by
  cases target with
  | none => exact PyDict.find_put_of_ne _ hkey _
  | some child => rfl

theorem changeMonitor_frame (hkey : key ≠ "parent") {change : PyDict → Except Failure PyDict}
    (hchange : changeMonitor path change working target = .ok after) :
    after.values.find key = working.values.find key := by
  unfold changeMonitor at hchange
  obtain ⟨found, -, hnext⟩ := bind_eq_ok.mp hchange
  cases found with
  | none =>
    cases hnext
    rfl
  | some monitor =>
    obtain ⟨changed, -, hsaved⟩ := bind_eq_ok.mp hnext
    cases hsaved
    exact save_frame hkey working target changed

theorem changeMonitors_frame (hkey : key ≠ "parent") {change : PyDict → Except Failure PyDict}
    {targets : List (Option PyText)}
    (hchange : targets.foldlM (changeMonitor path change) working = .ok after) :
    after.values.find key = working.values.find key := by
  induction targets generalizing working with
  | nil =>
    cases hchange
    rfl
  | cons target rest ih =>
    rw [List.foldlM_cons] at hchange
    obtain ⟨middle, hfirst, hrest⟩ := bind_eq_ok.mp hchange
    rw [ih hrest, changeMonitor_frame hkey hfirst]

theorem startParent_frame (hkey : key ∉ hookKeys) {now identity turnId : PyText}
    (hstart : startParent path now identity turnId working = .ok after) :
    after.values.find key = working.values.find key := by
  simp only [hookKeys, List.mem_cons, List.not_mem_nil, or_false, not_or] at hkey
  obtain ⟨hparent, hturn, hcomplete, -⟩ := hkey
  unfold startParent at hstart
  obtain ⟨previous, -, hnext⟩ := bind_eq_ok.mp hstart
  cases hnext
  rw [PyDict.find_put_of_ne _ hcomplete, PyDict.find_put_of_ne _ hturn]
  split
  · exact save_frame hparent working none _
  · rfl

theorem startChild_frame (hkey : key ∉ hookKeys) {now identity : PyText} {launch : Bool}
    (hstart : startChild path now identity working target = .ok (after, launch)) :
    after.values.find key = working.values.find key := by
  simp only [hookKeys, List.mem_cons, List.not_mem_nil, or_false, not_or] at hkey
  obtain ⟨hparent, -, hcomplete, -⟩ := hkey
  unfold startChild at hstart
  cases target with
  | none =>
    cases hstart
    rfl
  | some child =>
    obtain ⟨nonterminal, -, hnext⟩ := bind_eq_ok.mp hstart
    obtain ⟨previous, -, hlast⟩ := bind_eq_ok.mp hnext
    cases hlast
    rw [PyDict.find_put_of_ne _ hcomplete]
    exact save_frame hparent working (some child) _

theorem stopParent_frame (hkey : key ∉ hookKeys) {launch : Bool}
    (hstop : stopParent path working = .ok (after, launch)) :
    after.values.find key = working.values.find key := by
  simp only [hookKeys, List.mem_cons, List.not_mem_nil, or_false, not_or] at hkey
  obtain ⟨hparent, -, hcomplete, hhandoff, -⟩ := hkey
  unfold stopParent at hstop
  split at hstop
  · obtain ⟨stopped, hmarked, hlast⟩ := bind_eq_ok.mp hstop
    cases hlast
    rw [PyDict.find_put_of_ne _ hcomplete, PyDict.find_put_of_ne _ hhandoff]
    exact changeMonitors_frame hparent hmarked
  · split at hstop
    · cases hstop
      rfl
    · obtain ⟨stopped, hmarked, hlast⟩ := bind_eq_ok.mp hstop
      cases hlast
      rw [PyDict.find_put_of_ne _ hcomplete]
      exact changeMonitor_frame hparent hmarked

/-- A hook event writes only its own members. -/
theorem applyEvent_frame (hkey : key ∉ hookKeys) {call : HookCall} {launch : Bool}
    (happly : applyEvent call working = .ok (after, launch)) :
    after.values.find key = working.values.find key := by
  have hparent : key ≠ "parent" := fun heq => hkey (heq ▸ List.mem_cons_self)
  unfold applyEvent at happly
  dsimp only at happly
  cases hevent : call.payload.event with
  | sessionStart =>
    rw [hevent] at happly
    cases happly
    rfl
  | userPromptSubmit =>
    simp only [hevent] at happly
    cases hturn : call.payload.turnId with
    | none =>
      rw [hturn] at happly
      cases happly
      rfl
    | some turnId =>
      simp only [hturn] at happly
      obtain ⟨previous, -, hnext⟩ := bind_eq_ok.mp happly
      obtain ⟨started, hstart, hrest⟩ := bind_eq_ok.mp hnext
      obtain ⟨cleared, hcleared, hlast⟩ := bind_eq_ok.mp hrest
      cases hlast
      rw [changeMonitors_frame hparent hcleared, startParent_frame hkey hstart]
  | subagentStart =>
    rw [hevent] at happly
    exact startChild_frame hkey happly
  | subagentStop =>
    simp only [hevent] at happly
    obtain ⟨changed, hchange, hlast⟩ := bind_eq_ok.mp happly
    cases hlast
    exact changeMonitor_frame hparent hchange
  | preToolUse =>
    simp only [hevent] at happly
    obtain ⟨changed, hchange, hlast⟩ := bind_eq_ok.mp happly
    cases hlast
    exact changeMonitor_frame hparent hchange
  | postToolUse =>
    simp only [hevent] at happly
    obtain ⟨changed, hchange, hlast⟩ := bind_eq_ok.mp happly
    cases hlast
    exact changeMonitor_frame hparent hchange
  | permissionRequest =>
    simp only [hevent] at happly
    obtain ⟨changed, hchange, hlast⟩ := bind_eq_ok.mp happly
    cases hlast
    exact changeMonitor_frame hparent hchange
  | stop =>
    rw [hevent] at happly
    exact stopParent_frame hkey happly

theorem advanceTurnActivityEpoch_frame (hkey : key ≠ "turn_activity_epoch")
    {values advanced : PyDict} (hadvance : advanceTurnActivityEpoch path values = .ok advanced) :
    advanced.find key = values.find key := by
  unfold advanceTurnActivityEpoch at hadvance
  obtain ⟨epoch, -, hlast⟩ := bind_eq_ok.mp hadvance
  cases hlast
  exact PyDict.find_put_of_ne _ hkey _

theorem applyHookEvent_frame (hkey : key ∉ hookKeys) {call : HookCall} {values applied : PyDict}
    {launch : Bool} (happly : applyHookEvent call values = .ok (applied, launch)) :
    applied.find key = values.find key := by
  unfold applyHookEvent at happly
  obtain ⟨children, -, hnext⟩ := bind_eq_ok.mp happly
  obtain ⟨⟨working, flag⟩, hworking, hrest⟩ := bind_eq_ok.mp hnext
  have hworkingKey := applyEvent_frame hkey hworking
  simp only [hookKeys, List.mem_cons, List.not_mem_nil, or_false, not_or] at hkey
  obtain ⟨-, -, -, -, hepoch, hchildren⟩ := hkey
  rw [← hworkingKey]
  dsimp only at hrest
  split at hrest
  · obtain ⟨advanced, hadvanced, hlast⟩ := bind_eq_ok.mp hrest
    cases hlast
    rw [PyDict.find_put_of_ne _ hchildren]
    exact advanceTurnActivityEpoch_frame hepoch hadvanced
  · cases hrest
    exact PyDict.find_put_of_ne _ hchildren _

end Frames

theorem fromHooks_eq_ok {α : Type} {outcome : Except Failure α} {value : α} :
    fromHooks outcome = .ok value ↔ outcome = .ok value := by
  cases outcome with
  | ok found => rw [fromHooks, Except.ok.injEq, Except.ok.injEq]
  | error failure =>
    constructor
    · rintro ⟨⟩
    · rintro ⟨⟩

section Writes

variable {path key : String} {values after : PyDict} {turnId now identity : PyText}

theorem startManagedParent_frame (hkey : key ∉ hookKeys)
    (hstart : startManagedParent path values turnId now identity = .ok after) :
    after.find key = values.find key := by
  unfold startManagedParent at hstart
  obtain ⟨children, -, hnext⟩ := bind_eq_ok.mp hstart
  obtain ⟨working, hworking, hlast⟩ := bind_eq_ok.mp hnext
  cases hlast
  have hframe := startParent_frame hkey (fromHooks_eq_ok.mp hworking)
  simp only [hookKeys, List.mem_cons, List.not_mem_nil, or_false, not_or] at hkey
  rw [PyDict.find_put_of_ne _ hkey.2.2.2.2.2, hframe]

theorem bumpRevision_eq_ok : bumpRevision path values = .ok after ↔
    ∃ revision : ℤ, (values.find "revision").getD (.int 0) = .int revision ∧ 0 ≤ revision ∧
      values.put "revision" (.int (revision + 1)) = after := by
  unfold bumpRevision
  split
  · next revision hrevision =>
    rw [refuse_eq_ok, Except.ok.injEq]
    constructor
    · rintro ⟨hpositive, hafter⟩
      exact ⟨revision, hrevision, Int.not_lt.mp hpositive, hafter⟩
    · rintro ⟨other, hsame, hpositive, hafter⟩
      cases hrevision.symm.trans hsame
      exact ⟨Int.not_lt.mpr hpositive, hafter⟩
  · next hother =>
    constructor
    · rintro ⟨⟩
    · rintro ⟨revision, hrevision, -⟩
      exact absurd hrevision (hother revision)

end Writes

/-! ### The members of the handshake -/

/-- The members that say who owns a turn, and whether a restart is requested. -/
structure TurnFields where
  managed : Option PyValue
  pending : Option PyValue
  request : Option PyValue
  claimed : Option PyValue

def turnFields (values : PyDict) : TurnFields :=
  ⟨values.find "managed_turn_id", values.find "pending_turn_id", values.find "restart_request",
    values.find "restart_claimed"⟩

/-- No turn, or the name of one. -/
def IsTurn (value : Option PyValue) : Prop :=
  isNone value = true ∨ ∃ turnId, value = some (.str turnId)

/-- At most one turn is owned or accepted, and no restart is requested. -/
structure TurnFields.Consistent (fields : TurnFields) : Prop where
  managed : IsTurn fields.managed
  pending : IsTurn fields.pending
  exclusive : isNone fields.managed = true ∨ isNone fields.pending = true
  unrequested : isNone fields.request = true
  unclaimed : isTrue fields.claimed = false

/-- Who owns a turn: it is accepted while it is pending, and held once it is managed. -/
def TurnFields.ownership (fields : TurnFields) : Ownership PyText :=
  match fields.managed, fields.pending with
  | some (.str turnId), _ => .held turnId
  | _, some (.str turnId) => .promised turnId
  | _, _ => .free

/-- The revision has grown by one. -/
def Bumped (values after : PyDict) : Prop :=
  ∃ revision : ℤ, (values.find "revision").getD (.int 0) = .int revision ∧
    after.find "revision" = some (.int (revision + 1))

theorem turnFields_frame {values after : PyDict}
    (hframe : ∀ key ∈ turnKeys, after.find key = values.find key) :
    turnFields after = turnFields values := by
  unfold turnFields
  rw [hframe "managed_turn_id" (by decide), hframe "pending_turn_id" (by decide),
    hframe "restart_request" (by decide), hframe "restart_claimed" (by decide)]

theorem turnFields_put {key : String} (hkey : key ∉ turnKeys) (values : PyDict)
    (value : PyValue) : turnFields (values.put key value) = turnFields values := by
  refine turnFields_frame fun other hother => PyDict.find_put_of_ne _ ?_ _
  rintro rfl
  exact hkey hother

theorem turnKeys_not_hookKeys {key : String} (hkey : key ∈ turnKeys) : key ∉ hookKeys := by
  revert key
  decide

theorem isNone_iff {value : Option PyValue} :
    isNone value = true ↔ value = none ∨ value = some .none := by
  unfold isNone
  split
  · exact iff_of_true rfl (Or.inl rfl)
  · exact iff_of_true rfl (Or.inr rfl)
  · next hnot hnone =>
    refine iff_of_false ?_ ?_
    · rintro ⟨⟩
    · rintro (heq | heq)
      · exact hnot heq
      · exact hnone heq

theorem isText_iff {value : Option PyValue} {text : PyText} :
    isText value text = true ↔ value = some (.str text) := by
  unfold isText
  split
  · next found =>
    rw [decide_eq_true_iff, Option.some_inj, PyValue.str.injEq]
  · next hnot =>
    constructor
    · rintro ⟨⟩
    · exact fun heq => absurd heq (hnot text)

theorem isTurn_none : IsTurn (some .none) := Or.inl rfl

theorem isTurn_str (turnId : PyText) : IsTurn (some (.str turnId)) := Or.inr ⟨turnId, rfl⟩

namespace TurnFields

variable {fields : TurnFields} {turnId : PyText}

theorem ownership_free (hmanaged : isNone fields.managed = true)
    (hpending : isNone fields.pending = true) : fields.ownership = .free := by
  unfold ownership
  rcases isNone_iff.mp hmanaged with hmanaged | hmanaged
  all_goals
    rcases isNone_iff.mp hpending with hpending | hpending
    all_goals rw [hmanaged, hpending]

theorem ownership_promised (hmanaged : isNone fields.managed = true)
    (hpending : fields.pending = some (.str turnId)) : fields.ownership = .promised turnId := by
  unfold ownership
  rcases isNone_iff.mp hmanaged with hmanaged | hmanaged
  all_goals rw [hmanaged, hpending]

theorem ownership_held (hmanaged : fields.managed = some (.str turnId)) :
    fields.ownership = .held turnId := by
  unfold ownership
  rw [hmanaged]

end TurnFields

/-- What the last two steps of most updates leave. -/
theorem bumped_of_bumpRevision {path : String} (values : PyDict) {middle after : PyDict}
    (hrevision : middle.find "revision" = values.find "revision")
    (hbump : bumpRevision path middle = .ok after) :
    Bumped values after ∧ turnFields after = turnFields middle := by
  obtain ⟨revision, hfound, -, rfl⟩ := bumpRevision_eq_ok.mp hbump
  rw [hrevision] at hfound
  exact ⟨⟨revision, hfound, PyDict.find_put_same _ _ _⟩,
    turnFields_put (by decide) _ _⟩

/-! ### Each update -/

/-- What an update makes of who owns a turn, when it changes the document. -/
def RuntimeUpdate.move : RuntimeUpdate → Move PyText
  | .turnStarted turnId _ _ => .take turnId
  | .pendingTurn turnId => .promise turnId
  | .clearPending turnId => .withdraw turnId
  | .turnFinished turnId => .release turnId
  | .restartPerformed _ turnId _ => .release turnId
  | _ => .keep

/-- An update that changed the document. -/
structure Moved (move : Move PyText) (values after : PyDict) : Prop where
  bumped : Bumped values after
  consistent : (turnFields after).Consistent
  allowed : move.Allowed (turnFields values).ownership (turnFields after).ownership

section Updates

variable {path : String} {values after : PyDict} {turnId now identity : PyText}

/-- An update that writes no member of the handshake. -/
theorem moved_of_frame (hconsistent : (turnFields values).Consistent)
    (hbumped : Bumped values after) (hfields : turnFields after = turnFields values) :
    Moved .keep values after := by
  refine ⟨hbumped, ?_, ?_⟩
  · rw [hfields]
    exact hconsistent
  · rw [hfields]
    rfl

theorem recordPendingTurn_moved {result : Unit}
    (hupdate : recordPendingTurn path turnId values = .ok (after, result))
    (hconsistent : (turnFields values).Consistent) : Moved (.promise turnId) values after := by
  unfold recordPendingTurn at hupdate
  obtain ⟨-, hrest⟩ := refuse_eq_ok.mp hupdate
  obtain ⟨-, -, hrest⟩ := bind_eq_ok.mp hrest
  obtain ⟨hguard, hrest⟩ := refuse_eq_ok.mp hrest
  obtain ⟨bumped, hbump, hlast⟩ := bind_eq_ok.mp hrest
  cases hlast
  simp only [Bool.or_eq_true, Bool.not_eq_true', not_or, Bool.not_eq_false] at hguard
  obtain ⟨⟨-, hmanaged⟩, hpending⟩ := hguard
  obtain ⟨hbumped, hfields⟩ := bumped_of_bumpRevision values (by simp [PyDict.find_put]) hbump
  have hafter : turnFields after = { turnFields values with pending := some (.str turnId) } := by
    rw [hfields]
    simp [turnFields, PyDict.find_put]
  refine ⟨hbumped, ?_, ?_⟩
  · rw [hafter]
    exact ⟨hconsistent.managed, isTurn_str turnId, Or.inl hmanaged, hconsistent.unrequested,
      hconsistent.unclaimed⟩
  · rw [hafter]
    exact ⟨TurnFields.ownership_free hmanaged hpending,
      TurnFields.ownership_promised hmanaged rfl⟩

theorem recordTurnStarted_moved {result : Unit}
    (hupdate : recordTurnStarted path turnId now identity values = .ok (after, result)) :
    Moved (.take turnId) values after := by
  unfold recordTurnStarted at hupdate
  obtain ⟨-, hrest⟩ := refuse_eq_ok.mp hupdate
  obtain ⟨-, -, hrest⟩ := bind_eq_ok.mp hrest
  obtain ⟨hguard, hrest⟩ := refuse_eq_ok.mp hrest
  obtain ⟨hpending, hrest⟩ := refuse_eq_ok.mp hrest
  obtain ⟨started, hstart, hrest⟩ := bind_eq_ok.mp hrest
  obtain ⟨bumped, hbump, hlast⟩ := bind_eq_ok.mp hrest
  cases hlast
  simp only [Bool.or_eq_true, Bool.not_eq_true', not_or, Bool.not_eq_false] at hguard
  obtain ⟨-, hmanaged⟩ := hguard
  have hframe : ∀ {key : String}, key ∉ hookKeys → started.find key = _ :=
    fun hkey => startManagedParent_frame hkey hstart
  obtain ⟨hbumped, hfields⟩ := bumped_of_bumpRevision values (by
    rw [hframe (by decide)]
    simp [withoutRestart, withoutPending, PyDict.find_put]) hbump
  have hafter : turnFields after =
      ⟨some (.str turnId), some .none, some .none, some (.bool false)⟩ := by
    rw [hfields, turnFields_frame fun key hkey => hframe (turnKeys_not_hookKeys hkey)]
    simp [turnFields, withoutRestart, withoutPending, PyDict.find_put]
  refine ⟨hbumped, ?_, ?_⟩
  · rw [hafter]
    exact ⟨isTurn_str turnId, isTurn_none, Or.inr rfl, rfl, rfl⟩
  · rw [hafter]
    refine ⟨?_, TurnFields.ownership_held rfl⟩
    cases hnone : isNone (values.find "pending_turn_id") with
    | true => exact Or.inl (TurnFields.ownership_free hmanaged hnone)
    | false =>
      rw [hnone] at hpending
      simp only [Bool.not_false, Bool.true_and, Bool.not_eq_true', Bool.not_eq_false] at hpending
      exact Or.inr (TurnFields.ownership_promised hmanaged (isText_iff.mp hpending))

theorem clearPendingTurn_moved {cleared : Bool}
    (hupdate : clearPendingTurn path turnId values = .ok (after, cleared))
    (hconsistent : (turnFields values).Consistent) :
    after = values ∨ Moved (.withdraw turnId) values after := by
  unfold clearPendingTurn at hupdate
  split at hupdate
  · next hpending =>
    obtain ⟨bumped, hbump, hlast⟩ := bind_eq_ok.mp hupdate
    cases hlast
    have hpending := isText_iff.mp hpending
    have hmanaged : isNone (values.find "managed_turn_id") = true := by
      rcases hconsistent.exclusive with hmanaged | hnone
      · exact hmanaged
      · change isNone (values.find "pending_turn_id") = true at hnone
        rw [hpending] at hnone
        cases hnone
    obtain ⟨hbumped, hfields⟩ := bumped_of_bumpRevision values
      (by simp [withoutPending, PyDict.find_put]) hbump
    have hafter : turnFields after = { turnFields values with pending := some .none } := by
      rw [hfields]
      simp [turnFields, withoutPending, PyDict.find_put]
    refine Or.inr ⟨hbumped, ?_, ?_⟩
    · rw [hafter]
      exact ⟨hconsistent.managed, isTurn_none, Or.inl hmanaged, hconsistent.unrequested,
        hconsistent.unclaimed⟩
    · rw [hafter]
      exact ⟨TurnFields.ownership_promised hmanaged hpending,
        TurnFields.ownership_free hmanaged rfl⟩
  · cases hupdate
    exact Or.inl rfl

/-- A turn that is finished is given up. -/
theorem finishTurn_moved (hfinish : finishTurn path values = .ok after) (first : PyDict)
    (hrevision : values.find "revision" = first.find "revision")
    (hmanaged : first.find "managed_turn_id" = some (.str turnId)) :
    Moved (.release turnId) first after := by
  unfold finishTurn at hfinish
  obtain ⟨hbumped, hfields⟩ := bumped_of_bumpRevision first (by
    rw [← hrevision]
    simp [withoutRestart, withoutPending, PyDict.find_put]) hfinish
  have hafter : turnFields after =
      ⟨some .none, some .none, some .none, some (.bool false)⟩ := by
    rw [hfields]
    simp [turnFields, withoutRestart, withoutPending, PyDict.find_put]
  refine ⟨hbumped, ?_, ?_⟩
  · rw [hafter]
    exact ⟨isTurn_none, isTurn_none, Or.inl rfl, rfl, rfl⟩
  · rw [hafter]
    exact ⟨TurnFields.ownership_held hmanaged, TurnFields.ownership_free rfl rfl⟩

theorem recordTurnFinished_moved {result : Unit}
    (hupdate : recordTurnFinished path turnId values = .ok (after, result)) :
    Moved (.release turnId) values after := by
  unfold recordTurnFinished at hupdate
  obtain ⟨hmanaged, hrest⟩ := require_eq_ok.mp hupdate
  obtain ⟨finished, hfinish, hlast⟩ := bind_eq_ok.mp hrest
  cases hlast
  exact finishTurn_moved hfinish values rfl (isText_iff.mp hmanaged)

/-- A restart is only performed where one is requested. -/
theorem recordRestartPerformed_refused {fromisoformat : PyText → ParsedTime} {instant : ℤ}
    {result : PyDict × PyText}
    (hupdate : recordRestartPerformed path fromisoformat turnId instant values = .ok result) :
    isNone (values.find "restart_request") = false := by
  unfold recordRestartPerformed at hupdate
  split at hupdate
  · next hrequest => rw [hrequest]; rfl
  · cases hupdate

theorem deferSessionShutdown_moved {interruptActive deferred : Bool}
    (hupdate : deferSessionShutdown path interruptActive values = .ok (after, deferred))
    (hconsistent : (turnFields values).Consistent) : after = values ∨ Moved .keep values after := by
  unfold deferSessionShutdown at hupdate
  split at hupdate
  · obtain ⟨bumped, hbump, hlast⟩ := bind_eq_ok.mp hupdate
    cases hlast
    obtain ⟨hbumped, hfields⟩ := bumped_of_bumpRevision values
      (by simp [withoutRestart, PyDict.find_put]) hbump
    have hafter : turnFields after =
        { turnFields values with request := some .none, claimed := some (.bool false) } := by
      rw [hfields]
      simp [turnFields, withoutRestart, PyDict.find_put]
    refine Or.inr ⟨hbumped, ?_, ?_⟩
    · rw [hafter]
      exact ⟨hconsistent.managed, hconsistent.pending, hconsistent.exclusive, rfl, rfl⟩
    · rw [hafter]
      rfl
  · cases hupdate
    exact Or.inl rfl

/-- What an update leaves that writes some members, but none of the handshake, and bumps. -/
theorem moved_of_bumpRevision (hconsistent : (turnFields values).Consistent) {middle : PyDict}
    (hframe : ∀ key ∈ "revision" :: turnKeys, middle.find key = values.find key)
    (hbump : bumpRevision path middle = .ok after) : Moved .keep values after := by
  obtain ⟨hbumped, hfields⟩ :=
    bumped_of_bumpRevision values (hframe "revision" List.mem_cons_self) hbump
  refine moved_of_frame hconsistent hbumped (hfields.trans ?_)
  exact turnFields_frame fun key hkey => hframe key (List.mem_cons_of_mem _ hkey)

theorem frame_put {middle : PyDict} {key : String} (hkey : key ∉ "revision" :: turnKeys)
    (value : PyValue) (hframe : ∀ key ∈ "revision" :: turnKeys, middle.find key = values.find key) :
    ∀ other ∈ "revision" :: turnKeys, (middle.put key value).find other = values.find other := by
  intro other hother
  rw [PyDict.find_put_of_ne, hframe other hother]
  rintro rfl
  exact hkey hother

theorem handshake_not_hookKeys {key : String} (hkey : key ∈ "revision" :: turnKeys) :
    key ∉ hookKeys := by
  revert key
  decide

theorem markManagerReady_moved {pid : ℤ} {result : Unit}
    (hconsistent : (turnFields values).Consistent)
    (hupdate : markManagerReady path pid values = .ok (after, result)) :
    Moved .keep values after := by
  unfold markManagerReady at hupdate
  obtain ⟨-, hrest⟩ := refuse_eq_ok.mp hupdate
  obtain ⟨-, -, hrest⟩ := bind_eq_ok.mp hrest
  obtain ⟨bumped, hbump, hlast⟩ := bind_eq_ok.mp hrest
  cases hlast
  refine moved_of_bumpRevision hconsistent ?_ hbump
  exact frame_put (by decide) _ (frame_put (by decide) _ (frame_put (by decide) _ fun _ _ => rfl))

theorem markManagerStopped_moved {result : Unit} (hconsistent : (turnFields values).Consistent)
    (hupdate : markManagerStopped path values = .ok (after, result)) :
    Moved .keep values after := by
  unfold markManagerStopped at hupdate
  obtain ⟨bumped, hbump, hlast⟩ := bind_eq_ok.mp hupdate
  cases hlast
  refine moved_of_bumpRevision hconsistent ?_ hbump
  exact frame_put (by decide) _ (frame_put (by decide) _ fun _ _ => rfl)

theorem requestManagerStartupCancel_moved {result : Unit}
    (hconsistent : (turnFields values).Consistent)
    (hupdate : requestManagerStartupCancel path values = .ok (after, result)) :
    after = values ∨ Moved .keep values after := by
  unfold requestManagerStartupCancel at hupdate
  obtain ⟨-, -, hrest⟩ := bind_eq_ok.mp hupdate
  split at hrest
  · cases hrest
    exact Or.inl rfl
  · obtain ⟨bumped, hbump, hlast⟩ := bind_eq_ok.mp hrest
    cases hlast
    refine Or.inr (moved_of_bumpRevision hconsistent ?_ hbump)
    exact frame_put (by decide) _ (frame_put (by decide) _
      (frame_put (by decide) _ fun _ _ => rfl))

theorem markPendingTurnTimedOut_moved {timedOutAt : ℚ} {result : Unit}
    (hconsistent : (turnFields values).Consistent)
    (hupdate : markPendingTurnTimedOut path turnId timedOutAt values = .ok (after, result)) :
    Moved .keep values after := by
  unfold markPendingTurnTimedOut at hupdate
  obtain ⟨-, hrest⟩ := refuse_eq_ok.mp hupdate
  obtain ⟨-, -, hrest⟩ := bind_eq_ok.mp hrest
  obtain ⟨-, hrest⟩ := require_eq_ok.mp hrest
  obtain ⟨bumped, hbump, hlast⟩ := bind_eq_ok.mp hrest
  cases hlast
  exact moved_of_bumpRevision hconsistent (frame_put (by decide) _ fun _ _ => rfl) hbump

theorem recordManagerFailure_moved {reasonCode : String} {sessionId : PyText}
    (hconsistent : (turnFields values).Consistent)
    (hupdate : recordManagerFailure path reasonCode values = .ok (after, sessionId)) :
    Moved .keep values after := by
  unfold recordManagerFailure at hupdate
  obtain ⟨-, hrest⟩ := require_eq_ok.mp hupdate
  obtain ⟨found, -, hrest⟩ := bind_eq_ok.mp hrest
  obtain ⟨bumped, hbump, hlast⟩ := bind_eq_ok.mp hrest
  cases hlast
  refine moved_of_bumpRevision hconsistent ?_ hbump
  exact frame_put (by decide) _ (frame_put (by decide) _ (frame_put (by decide) _ fun _ _ => rfl))

theorem markStoppedIfOwned_moved {pid : ℤ} {result : Unit}
    (hconsistent : (turnFields values).Consistent)
    (hupdate : markStoppedIfOwned path pid values = .ok (after, result)) :
    after = values ∨ Moved .keep values after := by
  unfold markStoppedIfOwned at hupdate
  split at hupdate
  · exact Or.inr (markManagerStopped_moved hconsistent hupdate)
  · cases hupdate
    exact Or.inl rfl

/-- A recovery claims the document by its revision alone. -/
theorem claimRecovery_moved {generation : ℤ} {sessionId transcriptPath : PyText} {claimed : Bool}
    (hconsistent : (turnFields values).Consistent)
    (hupdate : claimRecovery generation sessionId transcriptPath values = .ok (after, claimed)) :
    after = values ∨ Moved .keep values after := by
  unfold claimRecovery at hupdate
  split at hupdate
  · next revision hrevision =>
    split at hupdate
    · cases hupdate
      exact Or.inl rfl
    · cases hupdate
      refine Or.inr (moved_of_frame hconsistent ⟨revision, ?_, PyDict.find_put_same _ _ _⟩ ?_)
      · rw [hrevision]
        rfl
      · exact turnFields_put (by decide) _ _
  · cases hupdate
    exact Or.inl rfl

theorem recordGoalIdentityFingerprint_moved {fingerprint : GoalIdentityFingerprint} {result : Unit}
    (hconsistent : (turnFields values).Consistent)
    (hupdate : recordGoalIdentityFingerprint path fingerprint values = .ok (after, result)) :
    Moved .keep values after := by
  unfold recordGoalIdentityFingerprint at hupdate
  obtain ⟨-, -, hrest⟩ := bind_eq_ok.mp hupdate
  obtain ⟨captured, -, hrest⟩ := bind_eq_ok.mp hrest
  obtain ⟨-, hrest⟩ := refuse_eq_ok.mp hrest
  obtain ⟨bumped, hbump, hlast⟩ := bind_eq_ok.mp hrest
  cases hlast
  exact moved_of_bumpRevision hconsistent (frame_put (by decide) _ fun _ _ => rfl) hbump

theorem bindActivation_moved {result : Unit} (hconsistent : (turnFields values).Consistent)
    (hupdate : bindActivation path turnId now identity values = .ok (after, result)) :
    Moved .keep values after := by
  unfold bindActivation at hupdate
  obtain ⟨started, hstart, hrest⟩ := bind_eq_ok.mp hupdate
  obtain ⟨bumped, hbump, hlast⟩ := bind_eq_ok.mp hrest
  cases hlast
  exact moved_of_bumpRevision hconsistent
    (fun key hkey => startManagedParent_frame (handshake_not_hookKeys hkey) hstart) hbump

theorem markParentTerminal_frame {key : String} (hkey : key ∉ hookKeys)
    (hmark : markParentTerminal path values = .ok after) : after.find key = values.find key := by
  have hparent : key ≠ "parent" := fun heq => hkey (heq ▸ List.mem_cons_self)
  unfold markParentTerminal at hmark
  split at hmark
  · dsimp only at hmark
    split at hmark
    · cases hmark
      rfl
    · obtain ⟨-, hlast⟩ := require_eq_ok.mp hmark
      cases hlast
      exact PyDict.find_put_of_ne _ hparent _
  · cases hmark

theorem completeActivation_moved {result : Unit} (hconsistent : (turnFields values).Consistent)
    (hupdate : completeActivation path turnId values = .ok (after, result)) :
    Moved .keep values after := by
  unfold completeActivation at hupdate
  obtain ⟨-, hrest⟩ := refuse_eq_ok.mp hupdate
  obtain ⟨-, hrest⟩ := refuse_eq_ok.mp hrest
  obtain ⟨marked, hmark, hrest⟩ := bind_eq_ok.mp hrest
  obtain ⟨bumped, hbump, hlast⟩ := bind_eq_ok.mp hrest
  cases hlast
  refine moved_of_bumpRevision hconsistent ?_ hbump
  exact frame_put (by decide) _ (frame_put (by decide) _
    fun key hkey => markParentTerminal_frame (handshake_not_hookKeys hkey) hmark)

theorem adoptStarted_moved {adopted : Bool} (hconsistent : (turnFields values).Consistent)
    (hupdate : adoptStarted path turnId now identity values = .ok (after, adopted)) :
    after = values ∨ Moved .keep values after := by
  unfold adoptStarted at hupdate
  split at hupdate
  · cases hupdate
    exact Or.inl rfl
  · obtain ⟨started, hstart, hrest⟩ := bind_eq_ok.mp hupdate
    obtain ⟨advanced, hadvance, hrest⟩ := bind_eq_ok.mp hrest
    obtain ⟨bumped, hbump, hlast⟩ := bind_eq_ok.mp hrest
    cases hlast
    refine Or.inr (moved_of_bumpRevision hconsistent (frame_put (by decide) _ ?_) hbump)
    intro key hkey
    rw [advanceTurnActivityEpoch_frame ?_ (fromHooks_eq_ok.mp hadvance),
      startManagedParent_frame (handshake_not_hookKeys hkey) hstart]
    rintro rfl
    exact handshake_not_hookKeys hkey (by decide)

theorem processHook_moved (hconsistent : (turnFields values).Consistent) {call : HookCall}
    {transcriptMatches : Bool} {launch : Option Bool}
    (hupdate : processHook path call transcriptMatches values = .ok (after, launch)) :
    after = values ∨ Moved .keep values after := by
  unfold processHook at hupdate
  split at hupdate
  · cases hupdate
    exact Or.inl rfl
  · split at hupdate
    · next revision hrevision =>
      obtain ⟨-, hrest⟩ := refuse_eq_ok.mp hupdate
      split at hrest
      · cases hrest
        exact Or.inl rfl
      · obtain ⟨⟨applied, shouldLaunch⟩, happly, hlast⟩ := bind_eq_ok.mp hrest
        cases hlast
        have hframe : ∀ key ∈ "revision" :: turnKeys, applied.find key = values.find key :=
          fun key hkey => applyHookEvent_frame (handshake_not_hookKeys hkey)
            (fromHooks_eq_ok.mp happly)
        refine Or.inr (moved_of_frame hconsistent ?_ ?_)
        · exact ⟨revision, hrevision, PyDict.find_put_same _ _ _⟩
        · rw [turnFields_put (by decide)]
          exact turnFields_frame fun key hkey => hframe key (List.mem_cons_of_mem _ hkey)
    · cases hupdate

/-- **Each update.**  An update that succeeds leaves the document as it is, or bumps its
revision and makes the move it stands for. -/
theorem RuntimeUpdate.moved (update : RuntimeUpdate) (hconsistent : (turnFields values).Consistent)
    (hupdate : update.apply path values = .ok after) :
    after = values ∨ Moved update.move values after := by
  have hmap : ∀ {α : Type} {outcome : Except TurnFailure (PyDict × α)},
      Prod.fst <$> outcome = .ok after → ∃ result, outcome = .ok (after, result) := by
    intro α outcome hmapped
    cases outcome with
    | error failure => cases hmapped
    | ok pair =>
      cases hmapped
      exact ⟨pair.2, rfl⟩
  cases update with
  | managerReady pid =>
    obtain ⟨result, hupdate⟩ := hmap hupdate
    exact Or.inr (markManagerReady_moved hconsistent hupdate)
  | managerStopped =>
    obtain ⟨result, hupdate⟩ := hmap hupdate
    exact Or.inr (markManagerStopped_moved hconsistent hupdate)
  | startupCancel =>
    obtain ⟨result, hupdate⟩ := hmap hupdate
    exact requestManagerStartupCancel_moved hconsistent hupdate
  | turnStarted turnId now identity =>
    obtain ⟨result, hupdate⟩ := hmap hupdate
    exact Or.inr (recordTurnStarted_moved hupdate)
  | pendingTurn turnId =>
    obtain ⟨result, hupdate⟩ := hmap hupdate
    exact Or.inr (recordPendingTurn_moved hupdate hconsistent)
  | pendingTimedOut turnId timedOutAt =>
    obtain ⟨result, hupdate⟩ := hmap hupdate
    exact Or.inr (markPendingTurnTimedOut_moved hconsistent hupdate)
  | clearPending turnId =>
    obtain ⟨result, hupdate⟩ := hmap hupdate
    exact clearPendingTurn_moved hupdate hconsistent
  | turnFinished turnId =>
    obtain ⟨result, hupdate⟩ := hmap hupdate
    exact Or.inr (recordTurnFinished_moved hupdate)
  | restartPerformed fromisoformat turnId now =>
    obtain ⟨result, hupdate⟩ := hmap hupdate
    have hrequested := recordRestartPerformed_refused hupdate
    rw [show isNone (values.find "restart_request") = true from hconsistent.unrequested]
      at hrequested
    cases hrequested
  | managerFailure reasonCode =>
    obtain ⟨result, hupdate⟩ := hmap hupdate
    exact Or.inr (recordManagerFailure_moved hconsistent hupdate)
  | stoppedIfOwned pid =>
    obtain ⟨result, hupdate⟩ := hmap hupdate
    exact markStoppedIfOwned_moved hconsistent hupdate
  | claimRecovery generation sessionId transcriptPath =>
    obtain ⟨result, hupdate⟩ := hmap hupdate
    exact claimRecovery_moved hconsistent hupdate
  | goalIdentity fingerprint =>
    obtain ⟨result, hupdate⟩ := hmap hupdate
    exact Or.inr (recordGoalIdentityFingerprint_moved hconsistent hupdate)
  | deferShutdown interruptActive =>
    obtain ⟨result, hupdate⟩ := hmap hupdate
    exact deferSessionShutdown_moved hupdate hconsistent
  | bind turnId now identity =>
    obtain ⟨result, hupdate⟩ := hmap hupdate
    exact Or.inr (bindActivation_moved hconsistent hupdate)
  | complete turnId =>
    obtain ⟨result, hupdate⟩ := hmap hupdate
    exact Or.inr (completeActivation_moved hconsistent hupdate)
  | adopt turnId now identity =>
    obtain ⟨result, hupdate⟩ := hmap hupdate
    exact adoptStarted_moved hconsistent hupdate
  | hook call transcriptMatches =>
    obtain ⟨result, hupdate⟩ := hmap hupdate
    exact processHook_moved hconsistent hupdate

end Updates

/-! ### What is written -/

theorem membersEq_lookup {members others : List (PyText × PyValue)}
    (heq : membersEq members others = true) {key : PyText} {value : PyValue}
    (hlookup : members.lookup key = some value) :
    ∃ other, others.lookup key = some other ∧ value.eq other = true := by
  induction members with
  | nil => cases hlookup
  | cons member rest ih =>
    obtain ⟨name, found⟩ := member
    unfold membersEq at heq
    rw [Bool.and_eq_true] at heq
    rw [List.lookup_cons] at hlookup
    cases hname : key == name with
    | true =>
      rw [hname] at hlookup
      cases hlookup
      obtain rfl := beq_iff_eq.mp hname
      obtain ⟨hmember, -⟩ := heq
      split at hmember
      · next other hother => exact ⟨other, hother, hmember⟩
      · cases hmember
    | false =>
      rw [hname] at hlookup
      exact ih heq.2 hlookup

/-- A document with another revision is another document. -/
theorem Bumped.not_eq {values after : PyDict} (hbumped : Bumped values after) :
    PyValue.eq (.dict after) (.dict values) = false := by
  rw [← Bool.not_eq_true]
  intro heq
  obtain ⟨revision, hbefore, hafter⟩ := hbumped
  unfold PyValue.eq at heq
  rw [Bool.and_eq_true] at heq
  obtain ⟨other, hother, hsame⟩ := membersEq_lookup heq.2 hafter
  have hfound : values.find "revision" = some other := hother
  rw [hfound] at hbefore
  obtain rfl : other = .int revision := hbefore
  simp [PyValue.eq, PyValue.number] at hsame

/-- The revision of a document, where it is a number. -/
def revisionOf (values : PyDict) : Option ℤ :=
  match (values.find "revision").getD (.int 0) with
  | .int revision => some revision
  | _ => none

theorem Bumped.revisions {values after : PyDict} (hbumped : Bumped values after) :
    ∃ revision, revisionOf values = some revision ∧ revisionOf after = some (revision + 1) := by
  obtain ⟨revision, hbefore, hafter⟩ := hbumped
  refine ⟨revision, ?_, ?_⟩
  · rw [revisionOf, hbefore]
  · rw [revisionOf, hafter]
    rfl

/-- The document is kept, or replaced under the next revision by a move that is allowed. -/
def Follows (move : Move PyText) (values after : PyDict) : Prop :=
  after = values ∨ Moved move values after

theorem commitSnapshot_follows {path : String} {values after : PyDict} {processor : Processor}
    {snapshotRevision : ℤ} (hconsistent : (turnFields values).Consistent)
    (hcommit : commitSnapshot path processor snapshotRevision values = .ok after) :
    PyValue.eq (.dict after) (.dict values) = true ∨
      (Follows .keep values after ∧
        (after ≠ values → revisionOf values = some snapshotRevision)) := by
  unfold commitSnapshot at hcommit
  split at hcommit
  · cases hcommit
    exact Or.inr ⟨Or.inl rfl, fun hne => absurd rfl hne⟩
  · split at hcommit
    · next revision hrevision =>
      obtain ⟨-, hrest⟩ := refuse_eq_ok.mp hcommit
      split at hrest
      · cases hrest
        exact Or.inr ⟨Or.inl rfl, fun hne => absurd rfl hne⟩
      · next hsame =>
        obtain ⟨processed, hprocess, hlast⟩ := bind_eq_ok.mp hrest
        split at hlast
        · next heq =>
          cases hlast
          exact Or.inl heq
        · cases hlast
          refine Or.inr ⟨Or.inr (moved_of_frame hconsistent ?_ ?_), fun _ => ?_⟩
          · exact ⟨revision, hrevision, PyDict.find_put_same _ _ _⟩
          · rw [turnFields_put (by decide)]
            exact turnFields_frame fun key hkey =>
              processor.frame hprocess key (List.mem_cons_of_mem _ hkey)
          · rw [revisionOf, hrevision, not_not.mp hsame]
    · cases hcommit

/-! ### Runs of writes -/

namespace RuntimeFile

/-- Who owns a turn of the session. -/
def owner (file : RuntimeFile) : Ownership PyText :=
  match file.values with
  | none => .free
  | some values => (turnFields values).ownership

/-- The document, and those that may be restored, say consistently who owns a turn. -/
structure Sound (file : RuntimeFile) : Prop where
  present : ∀ values, file.values = some values → (turnFields values).Consistent
  remembered : ∀ values ∈ file.remembered, (turnFields values).Consistent

end RuntimeFile

namespace Write

/-- The move that a write stands for. -/
def move (write : Write) (file : RuntimeFile) : Move PyText :=
  match write with
  | .disable => .reset .free
  | .restore index =>
      match file.remembered[index]? with
      | none => .keep
      | some previous => .reset (turnFields previous).ownership
  | .update change => change.move
  | _ => .keep

/-- The turn that a write wants to own. -/
def acquires : Write → Option PyText
  | .update (.pendingTurn turnId) => some turnId
  | .update (.turnStarted turnId _ _) => some turnId
  | _ => none

/-- The writes that keep to one activation: none removes the document or puts an old one back. -/
def Steady : Write → Prop
  | .disable => False
  | .restore _ => False
  | _ => True

end Write

theorem runtimeValues_consistent (request : EnableRequest) :
    (turnFields (runtimeValues request)).Consistent ∧
      (turnFields (runtimeValues request)).ownership = .free := by
  have hfields : turnFields (runtimeValues request) =
      ⟨some .none, none, some .none, some (.bool false)⟩ := rfl
  rw [hfields]
  exact ⟨⟨isTurn_none, Or.inl rfl, Or.inl rfl, rfl, rfl⟩, rfl⟩

variable {file : RuntimeFile} {write : Write}

/-- What `mutate_existing_state` leaves of a document. -/
theorem mutateExisting_follows {update : PyDict → Except TurnFailure PyDict} {move : Move PyText}
    {values : PyDict} (hvalues : file.values = some values)
    (hupdate : ∀ after, update values = .ok after →
      PyValue.eq (.dict after) (.dict values) = true ∨ Follows move values after) :
    ∃ next, (mutateExisting update file).1 = { file with values := some next } ∧
      Follows move values next := by
  have hsame : file = { file with values := some values } := by rw [← hvalues]
  unfold mutateExisting
  rw [hvalues]
  dsimp only
  cases hresult : update values with
  | error failure => exact ⟨values, hsame, Or.inl rfl⟩
  | ok after =>
    rcases hupdate after hresult with heq | hfollows
    · exact ⟨values, (if_pos heq).trans hsame, Or.inl rfl⟩
    · dsimp only
      split
      · exact ⟨values, hsame, Or.inl rfl⟩
      · exact ⟨after, rfl, hfollows⟩

theorem RuntimeFile.Sound.follows {move : Move PyText} {values next : PyDict}
    (hsound : file.Sound) (hvalues : file.values = some values)
    (hfollows : Follows move values next) :
    RuntimeFile.Sound { file with values := some next } ∧
      ∃ made, (made = .keep ∨ made = move) ∧
        made.Allowed file.owner (turnFields next).ownership := by
  have howner : file.owner = (turnFields values).ownership := by
    rw [RuntimeFile.owner, hvalues]
  rcases hfollows with rfl | hmoved
  · refine ⟨⟨?_, hsound.remembered⟩, .keep, Or.inl rfl, ?_⟩
    · rintro found ⟨⟩
      exact hsound.present next hvalues
    · rw [howner]
      rfl
  · refine ⟨⟨?_, hsound.remembered⟩, move, Or.inr rfl, ?_⟩
    · rintro found ⟨⟩
      exact hmoved.consistent
    · rw [howner]
      exact hmoved.allowed

/-- A write of one document, as `mutate_existing_state` makes it. -/
theorem mutateExisting_sound {update : PyDict → Except TurnFailure PyDict} {move : Move PyText}
    (hsound : file.Sound)
    (hupdate : ∀ values after, file.values = some values → update values = .ok after →
      PyValue.eq (.dict after) (.dict values) = true ∨ Follows move values after) :
    (mutateExisting update file).1.Sound ∧
      ∃ made, (made = .keep ∨ made = move) ∧
        made.Allowed file.owner (mutateExisting update file).1.owner := by
  cases hvalues : file.values with
  | none =>
    have hsame : mutateExisting update file = (file, .ok ()) := by
      unfold mutateExisting
      rw [hvalues]
    rw [hsame]
    exact ⟨hsound, .keep, Or.inl rfl, rfl⟩
  | some values =>
    obtain ⟨next, hnext, hfollows⟩ :=
      mutateExisting_follows hvalues fun after hafter => hupdate values after hvalues hafter
    rw [hnext]
    exact hsound.follows hvalues hfollows

/-- **One write.**  It keeps the documents sound, and moves who owns a turn as it should. -/
theorem write_sound (hsound : file.Sound) (write : Write) :
    (writeMachine.step file write).1.Sound ∧
      ∃ made, (made = .keep ∨ made = write.move file) ∧
        made.Allowed file.owner (writeMachine.step file write).1.owner := by
  cases write with
  | enable request =>
    cases hvalues : file.values with
    | some values =>
      have hstep : (writeMachine.step file (.enable request)).1 = file := by
        simp only [writeMachine, hvalues]
      rw [hstep]
      exact ⟨hsound, .keep, Or.inl rfl, rfl⟩
    | none =>
      have hstep : (writeMachine.step file (.enable request)).1 =
          { file with values := some (runtimeValues request) } := by
        simp only [writeMachine, hvalues]
      have howner : file.owner = .free := by rw [RuntimeFile.owner, hvalues]
      obtain ⟨hconsistent, hfree⟩ := runtimeValues_consistent request
      rw [hstep]
      refine ⟨⟨?_, hsound.remembered⟩, .keep, Or.inl rfl, hfree.trans howner.symm⟩
      rintro found ⟨⟩
      exact hconsistent
  | disable =>
    refine ⟨⟨?_, hsound.remembered⟩, .reset .free, Or.inr rfl, rfl⟩
    rintro found ⟨⟩
  | remember =>
    refine ⟨⟨hsound.present, ?_⟩, .keep, Or.inl rfl, rfl⟩
    intro values hmem
    rcases List.mem_append.mp hmem with hmem | hmem
    · exact hsound.remembered values hmem
    · exact hsound.present values (Option.mem_toList.mp hmem)
  | restore index =>
    cases hfound : file.remembered[index]? with
    | none =>
      have hstep : (writeMachine.step file (.restore index)).1 = file := by
        simp only [writeMachine, hfound]
      rw [hstep]
      exact ⟨hsound, .keep, Or.inl rfl, rfl⟩
    | some previous =>
      have hstep : (writeMachine.step file (.restore index)).1 =
          { file with values := some previous } := by
        simp only [writeMachine, hfound]
      have hmove : Write.move (.restore index) file =
          .reset (turnFields previous).ownership := by
        unfold Write.move
        simp only [hfound]
      rw [hstep, hmove]
      refine ⟨⟨?_, hsound.remembered⟩, _, Or.inr rfl, rfl⟩
      rintro found ⟨⟩
      exact hsound.remembered previous (List.mem_of_getElem? hfound)
  | update update =>
    refine mutateExisting_sound hsound fun values after hvalues hupdate => Or.inr ?_
    exact update.moved (hsound.present values hvalues) hupdate
  | commit processor snapshotRevision =>
    refine mutateExisting_sound hsound fun values after hvalues hcommit => ?_
    exact (commitSnapshot_follows (hsound.present values hvalues) hcommit).imp_right And.left

theorem runs_sound (path : String) (writes : List Write) :
    (writeMachine.after ⟨path, none, []⟩ writes).Sound := by
  refine @Machine.invariant_after _ _ _ writeMachine RuntimeFile.Sound (fun _ => True)
    (fun file write hsound _ => (write_sound hsound write).1) _ _ ⟨?_, ?_⟩ fun _ _ => trivial
  · rintro values ⟨⟩
  · intro values hmem
    cases hmem

/-! ### Who owns a turn -/

/-- An update that acquires a turn makes its move where it succeeds. -/
theorem update_acquires {change : RuntimeUpdate} {turnId : PyText} {values : PyDict}
    (hsound : file.Sound) (hvalues : file.values = some values)
    (hacquires : Write.acquires (.update change) = some turnId)
    (hok : (writeMachine.step file (.update change)).2 = .ok ()) :
    (writeMachine.step file (.update change)).1.owner.holder = some turnId := by
  have hconsistent := hsound.present values hvalues
  have hstep : writeMachine.step file (.update change) =
      mutateExisting (change.apply file.path) file := rfl
  have hmoved : ∀ {after : PyDict}, change.apply file.path values = .ok after →
      Bumped values after ∧ (turnFields after).ownership.holder = some turnId := by
    intro after hafter
    cases change with
    | pendingTurn other =>
      cases hacquires
      cases hresult : recordPendingTurn file.path turnId values with
      | error failure =>
        simp only [RuntimeUpdate.apply, hresult] at hafter
        cases hafter
      | ok pair =>
        simp only [RuntimeUpdate.apply, hresult] at hafter
        cases hafter
        have hmoved := recordPendingTurn_moved hresult hconsistent
        exact ⟨hmoved.bumped, Ownership.holder_eq_some.mpr (Or.inl hmoved.allowed.2)⟩
    | turnStarted other now identity =>
      cases hacquires
      cases hresult : recordTurnStarted file.path turnId now identity values with
      | error failure =>
        simp only [RuntimeUpdate.apply, hresult] at hafter
        cases hafter
      | ok pair =>
        simp only [RuntimeUpdate.apply, hresult] at hafter
        cases hafter
        have hmoved := recordTurnStarted_moved hresult
        exact ⟨hmoved.bumped, Ownership.holder_eq_some.mpr (Or.inr hmoved.allowed.2)⟩
    | _ => cases hacquires
  rw [hstep] at hok ⊢
  unfold mutateExisting at hok ⊢
  simp only [hvalues] at hok ⊢
  cases hresult : change.apply file.path values with
  | error failure =>
    rw [hresult] at hok
    cases hok
  | ok after =>
    obtain ⟨hbumped, hholder⟩ := hmoved hresult
    simp only [hbumped.not_eq]
    exact hholder

theorem write_acquires {turnId : PyText} (hsound : file.Sound) (hpresent : file.values ≠ none)
    (hacquires : write.acquires = some turnId)
    (hok : (writeMachine.step file write).2 = .ok ()) :
    (writeMachine.step file write).1.owner.holder = some turnId := by
  obtain ⟨values, hvalues⟩ := Option.ne_none_iff_exists'.mp hpresent
  cases write with
  | update change => exact update_acquires hsound hvalues hacquires hok
  | _ => cases hacquires

/-- **The handshake.**  From the activation of a session on, in whatever order its writers
    write: at most one turn is owned or accepted and no restart is requested; each write keeps
    who owns a turn or makes the one move it stands for, which needs the exact turn; and a
    turn whose acceptance or start is recorded is owned. -/
theorem handshake_refines (path : String) (past : List Write) (write : Write) :
    let file := writeMachine.after ⟨path, none, []⟩ past
    let step := writeMachine.step file write
    (∃ move, (move = .keep ∨ move = write.move file) ∧ move.Allowed file.owner step.1.owner) ∧
      (∀ turnId, write.acquires = some turnId → file.values ≠ none → step.2 = .ok () →
        step.1.owner.holder = some turnId) ∧
      ∀ values, step.1.values = some values → (turnFields values).Consistent := by
  have hsound := runs_sound path past
  obtain ⟨hnext, hmove⟩ := write_sound hsound write
  exact ⟨hmove, fun turnId hacquires hpresent hok => write_acquires hsound hpresent hacquires hok,
    hnext.present⟩

/-- Whoever owns a turn in a document, the document is there. -/
theorem present_of_holder {turnId : PyText} (hholder : file.owner.holder = some turnId) :
    file.values ≠ none := by
  intro hnone
  rw [RuntimeFile.owner, hnone] at hholder
  cases hholder

/-- **A turn is kept.**  A turn that is owned, or accepted, stays so until a write that gives
    up this turn by name, removes the document or puts an old one back; and until then no
    other turn is accepted or started. -/
theorem turn_kept (path : String) (past more : List Write) {turnId : PyText}
    (hholder : (writeMachine.after ⟨path, none, []⟩ past).owner.holder = some turnId)
    (hmore : writeMachine.Guarded (fun file write => ¬ (write.move file).Ends turnId)
      (writeMachine.after ⟨path, none, []⟩ past) more) :
    (writeMachine.after ⟨path, none, []⟩ (past ++ more)).owner.holder = some turnId ∧
      writeMachine.Guarded (fun file write => ∀ other, write.acquires = some other →
        (writeMachine.step file write).2 = .ok () → other = turnId)
        (writeMachine.after ⟨path, none, []⟩ past) more := by
  have hsound := runs_sound path past
  rw [Machine.after_append]
  revert hholder hmore hsound
  generalize writeMachine.after ⟨path, none, []⟩ past = file
  intro hholder hmore hsound
  induction more generalizing file with
  | nil => exact ⟨hholder, trivial⟩
  | cons write rest ih =>
    obtain ⟨hends, hrest⟩ := hmore
    obtain ⟨hnext, made, hmade, hallowed⟩ := write_sound hsound write
    have hkept : ¬ made.Ends turnId := by
      rcases hmade with rfl | rfl
      · exact id
      · exact hends
    have hnextHolder := (hallowed.keeps hholder hkept).1
    obtain ⟨hlast, hguarded⟩ := ih _ hnextHolder hrest hnext
    refine ⟨hlast, fun other hacquires hok => ?_, hguarded⟩
    have hother := write_acquires hsound (present_of_holder hholder) hacquires hok
    exact Option.some.inj (hother.symm.trans hnextHolder)

def sampleEnable : EnableRequest where
  sessionId := pyText "s"
  observeOnly := false
  permissionMode := none
  goalCompanion := false
  warningAfterMs := 60000
  restartAfterMs := 120000
  autoRestartRequestedByUser := true
  messagePreset := pyText "continue"
  autoRestartReady := true
  evidenceFingerprint := pyText "sha"
  transcriptPath := pyText "rollout"

/-- A session whose activation turn `a` has ended, and whose manager has started `b`. -/
def acceptedWrites : List Write :=
  [.enable sampleEnable, .update (.managerReady 7),
    .update (.bind (pyText "a") (pyText "now") (pyText "i")), .update (.complete (pyText "a")),
    .update (.pendingTurn (pyText "b"))]

theorem turn_kept_sample :
    (writeMachine.after ⟨"path", none, []⟩ (acceptedWrites ++
      [.update (.turnFinished (pyText "a")),
        .update (.turnStarted (pyText "b") (pyText "now") (pyText "j"))])).owner.holder =
        some (pyText "b") ∧
      writeMachine.Guarded (fun file write => ∀ other, write.acquires = some other →
        (writeMachine.step file write).2 = .ok () → other = pyText "b")
        (writeMachine.after ⟨"path", none, []⟩ acceptedWrites)
        [.update (.turnFinished (pyText "a")),
          .update (.turnStarted (pyText "b") (pyText "now") (pyText "j"))] :=
  turn_kept "path" acceptedWrites _ (by decide) ⟨by rintro ⟨⟩, id, trivial⟩

/-! ### What a revision tells -/

/-- The same document, or one of a later revision. -/
def Later (values after : PyDict) : Prop :=
  after = values ∨ ∃ revision revision', revisionOf values = some revision ∧
    revisionOf after = some revision' ∧ revision < revision'

theorem Later.trans {first second third : PyDict} (hfirst : Later first second)
    (hsecond : Later second third) : Later first third := by
  rcases hfirst with rfl | ⟨revision, revision', hrevision, hrevision', hlt⟩
  · exact hsecond
  · rcases hsecond with rfl | ⟨middle, last, hmiddle, hlast, hlt'⟩
    · exact Or.inr ⟨revision, revision', hrevision, hrevision', hlt⟩
    · rw [hrevision', Option.some_inj] at hmiddle
      exact Or.inr ⟨revision, last, hrevision, hlast, by omega⟩

theorem Follows.later {move : Move PyText} {values after : PyDict}
    (hfollows : Follows move values after) : Later values after := by
  rcases hfollows with rfl | hmoved
  · exact Or.inl rfl
  · obtain ⟨revision, hbefore, hafter⟩ := hmoved.bumped.revisions
    exact Or.inr ⟨revision, revision + 1, hbefore, hafter, by omega⟩

theorem write_later {values : PyDict} (hsound : file.Sound) (hvalues : file.values = some values)
    (hsteady : write.Steady) :
    ∃ next, (writeMachine.step file write).1.values = some next ∧ Later values next := by
  have hconsistent := hsound.present values hvalues
  cases write with
  | enable request =>
    refine ⟨values, ?_, Or.inl rfl⟩
    simp only [writeMachine, hvalues]
  | disable => exact absurd hsteady id
  | remember => exact ⟨values, hvalues, Or.inl rfl⟩
  | restore index => exact absurd hsteady id
  | update change =>
    obtain ⟨next, hnext, hfollows⟩ := mutateExisting_follows hvalues
      fun after hafter => Or.inr (change.moved hconsistent hafter)
    refine ⟨next, ?_, hfollows.later⟩
    exact congrArg RuntimeFile.values hnext
  | commit processor snapshotRevision =>
    obtain ⟨next, hnext, hfollows⟩ := mutateExisting_follows hvalues
      fun after hafter => (commitSnapshot_follows hconsistent hafter).imp_right And.left
    refine ⟨next, ?_, hfollows.later⟩
    exact congrArg RuntimeFile.values hnext

theorem writes_later {values : PyDict} {more : List Write} (hsound : file.Sound)
    (hvalues : file.values = some values) (hsteady : ∀ write ∈ more, write.Steady) :
    ∃ last, (writeMachine.after file more).values = some last ∧ Later values last := by
  induction more generalizing file values with
  | nil => exact ⟨values, hvalues, Or.inl rfl⟩
  | cons write rest ih =>
    obtain ⟨hwrite, hrest⟩ := List.forall_mem_cons.mp hsteady
    obtain ⟨next, hnext, hlater⟩ := write_later hsound hvalues hwrite
    obtain ⟨last, hlast, hlater'⟩ := ih (write_sound hsound write).1 hnext hrest
    exact ⟨last, hlast, hlater.trans hlater'⟩

/-- **Commits are exact.**  Within one activation a revision names one document: a watcher
    that took a snapshot, and commits after the others have written what they may, commits
    into the very document of its snapshot, or changes nothing. -/
theorem commit_exact (path : String) (past more : List Write) (processor : Processor)
    {snapshot : PyDict} {revision : ℤ}
    (hsnapshot : (writeMachine.after ⟨path, none, []⟩ past).values = some snapshot)
    (hrevision : revisionOf snapshot = some revision)
    (hsteady : ∀ write ∈ more, write.Steady) :
    let file := writeMachine.after ⟨path, none, []⟩ (past ++ more)
    (∀ values, file.values = some values → revisionOf values = some revision →
      values = snapshot) ∧
      ((writeMachine.step file (.commit processor revision)).1 ≠ file →
        file.values = some snapshot) := by
  have hsound := runs_sound path past
  obtain ⟨last, hlast, hlater⟩ := writes_later hsound hsnapshot hsteady
  rw [← Machine.after_append] at hlast
  have honly : revisionOf last = some revision → last = snapshot := by
    intro hsame
    rcases hlater with heq | ⟨before, after, hbefore, hafter, hlt⟩
    · exact heq
    · rw [hrevision, Option.some_inj] at hbefore
      rw [hsame, Option.some_inj] at hafter
      omega
  intro file
  have hfile : file.values = some last := hlast
  refine ⟨fun values hvalues hsame => ?_, fun hchanged => ?_⟩
  · rw [hfile, Option.some_inj] at hvalues
    exact hvalues ▸ honly (hvalues ▸ hsame)
  · have hconsistent := (runs_sound path (past ++ more)).present last hlast
    rw [hfile, Option.some_inj]
    by_contra hne
    refine hchanged ?_
    change (mutateExisting (commitSnapshot file.path processor revision) file).1 = file
    unfold mutateExisting
    rw [hfile]
    dsimp only
    cases hcommit : commitSnapshot file.path processor revision last with
    | error failure => rfl
    | ok after =>
      dsimp only
      rcases commitSnapshot_follows hconsistent hcommit with heq | ⟨-, hcurrent⟩
      · rw [if_pos heq]
      · by_cases hkept : after = last
        · split
          · rfl
          · rw [hkept, ← hfile]
        · exact absurd (honly (hcurrent hkept)) hne

theorem completing_frame {values after : PyDict}
    (hafter : (.ok (values.put "parent_complete" (.bool true)) : Except TurnFailure PyDict) =
      .ok after) : ∀ key ∈ "revision" :: turnKeys, after.find key = values.find key := by
  cases hafter
  intro key hkey
  refine PyDict.find_put_of_ne _ ?_ _
  rintro rfl
  revert hkey
  decide

/-- A watcher that finds the parent complete. -/
def completingProcessor : Processor :=
  ⟨fun values => .ok (values.put "parent_complete" (.bool true)), completing_frame⟩

theorem commit_exact_sample :
    let file := writeMachine.after ⟨"path", none, []⟩
      ([.enable sampleEnable] ++ [.update (.managerReady 7)])
    (∀ values, file.values = some values → revisionOf values = some 0 →
      values = runtimeValues sampleEnable) ∧
      ((writeMachine.step file (.commit completingProcessor 0)).1 ≠ file →
        file.values = some (runtimeValues sampleEnable)) :=
  commit_exact "path" [.enable sampleEnable] [.update (.managerReady 7)] completingProcessor
    rfl rfl (by simp [Write.Steady])

end CodexMustWork.ManagedTurns
