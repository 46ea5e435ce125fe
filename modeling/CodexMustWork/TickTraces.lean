import CodexMustWork.ManagerEngine

/-!
# What happens in a tick

The events of one tick of the resident manager, whatever fails in it and whatever the other
writers of the document do in between.  Most of a tick is quiet: it reads and writes the
document and binds nobody.  What is left is the start of a turn, with the acceptance that
follows it, and the interrupt of one.
-/

namespace CodexMustWork.ManagedTurns

open DisturbedRuns HookState ExactOwnership Fallible

/-! ### Events and the world -/

/-- The events that bind nobody. -/
def Event.Quiet : Event → Prop
  | .saw _ => True
  | .wrote _ _ => True
  | .asked (.resumeThread _) => True
  | .asked (.cleanTerminals _) => True
  | _ => False

/-- The document owns the turn, or is gone. -/
def Event.Settles (turnId : PyText) : Event → Prop
  | .saw none => True
  | .saw (some values) => (turnFields values).ownership.holder = some turnId
  | _ => False

/-- The turns of the document are consistent, if there is a document. -/
def World.Sound (world : World) : Prop :=
  ∀ values, world.values = some values → (turnFields values).Consistent

/-- Every claim to interrupt a turn has led to the request. -/
def World.ClaimsMade (world : World) : Prop :=
  ∀ threadId turnId, (threadId, turnId) ∈ world.memory.acceptedInterruptClaims →
    .asked (.interruptTurn threadId turnId) ∈ world.history

/-- What the others do keeps the history and the memory of the engine, and consistent turns. -/
structure Others (weather : Disturbance Place World TurnFailure) : Prop where
  history : ∀ place world, (weather.before place world).history = world.history
  memory : ∀ place world, (weather.before place world).memory = world.memory
  sound : ∀ place world, world.Sound → (weather.before place world).Sound

/-- The world after some events, which are as `trace` says. -/
structure At (past : List Event) (trace : List Event → Prop) (world : World) : Prop where
  sound : world.Sound
  claims : world.ClaimsMade
  traced : ∃ tail, world.history = past ++ tail ∧ trace tail

/-- The condition on events goes on to hold when a quiet one happens. -/
def Open (trace : List Event → Prop) : Prop :=
  ∀ tail event, trace tail → event.Quiet → trace (tail ++ [event])

/-- Only quiet events happen. -/
def Quietly {α : Type} (weather : Disturbance Place World TurnFailure) (run : Tick α) : Prop :=
  ∀ past trace, Open trace → Keeps weather (At past trace) run

section Rules

variable {weather : Disturbance Place World TurnFailure} {past : List Event}
  {trace : List Event → Prop} {world : World} {α β : Type}

theorem At.weaken {trace' : List Event → Prop} (hat : At past trace world)
    (htrace : ∀ tail, trace tail → trace' tail) : At past trace' world := by
  obtain ⟨hsound, hclaims, tail, htail, hold⟩ := hat
  exact ⟨hsound, hclaims, tail, htail, htrace tail hold⟩

theorem At.before (hothers : Others weather) (place : Place) (hat : At past trace world) :
    At past trace (weather.before place world) := by
  obtain ⟨hsound, hclaims, htraced⟩ := hat
  refine ⟨hothers.sound place world hsound, fun threadId turnId hclaim => ?_, ?_⟩
  · rw [hothers.memory] at hclaim
    rw [hothers.history]
    exact hclaims threadId turnId hclaim
  · rw [hothers.history]
    exact htraced

/-- What happens next. -/
theorem At.note {trace' : List Event → Prop} {event : Event} (hat : At past trace world)
    (htrace : ∀ tail, trace tail → trace' (tail ++ [event])) :
    At past trace' (world.note event) := by
  obtain ⟨hsound, hclaims, tail, htail, hold⟩ := hat
  refine ⟨hsound, fun threadId turnId hclaim => ?_, tail ++ [event], ?_, htrace tail hold⟩
  · exact List.mem_append_left _ (hclaims threadId turnId hclaim)
  · rw [World.note, htail, List.append_assoc]

theorem At.ofValues {values : Option PyDict} (hat : At past trace world)
    (hsound : World.Sound { world with values := values }) :
    At past trace { world with values := values } :=
  ⟨hsound, hat.claims, hat.traced⟩

theorem Quietly.pure {value : α} : Quietly weather (Pure.pure value : Tick α) :=
  fun _ _ _ => Keeps.pure

theorem Quietly.raise {error : TurnFailure} : Quietly weather (Run.raise error : Tick α) :=
  fun _ _ _ => Keeps.raise

theorem Quietly.bind {run : Tick α} {next : α → Tick β} (hrun : Quietly weather run)
    (hnext : ∀ value, Quietly weather (next value)) : Quietly weather (run >>= next) :=
  fun past trace hopen => Keeps.bind (hrun past trace hopen) fun value =>
    hnext value past trace hopen

theorem Quietly.ite {cond : Prop} [Decidable cond] {yes no : Tick α} (hyes : Quietly weather yes)
    (hno : Quietly weather no) : Quietly weather (if cond then yes else no) :=
  fun past trace hopen => Keeps.ite (hyes past trace hopen) (hno past trace hopen)

theorem look_quietly (hothers : Others weather) {place : Place}
    {see : World → Except TurnFailure α} : Quietly weather (Run.look place see) := by
  intro past trace _
  refine Keeps.operation (fun world hat => hat.before hothers place) ?_
  intro world value next hat hsee
  cases hfound : see world with
  | error error =>
    rw [hfound] at hsee
    cases hsee
  | ok found =>
    rw [hfound] at hsee
    cases hsee
    exact hat

theorem act_quietly (hothers : Others weather) {place : Place} :
    Quietly weather (Run.act place .ok : Tick Unit) := by
  intro past trace _
  refine Keeps.operation (fun world hat => hat.before hothers place) ?_
  rintro world value next hat ⟨⟩
  exact hat

theorem engineMemory_quietly : Quietly weather engineMemory :=
  fun _ _ _ _ hat => hat

theorem ask_quietly (hothers : Others weather) {request : Request}
    (hquiet : Event.Quiet (.asked request)) : Quietly weather (ask request) := by
  intro past trace hopen
  refine Keeps.bind (fun world hat => ?_) fun _ => act_quietly hothers past trace hopen
  exact At.note hat fun tail htail => hopen tail _ htail hquiet

/-- What the engine remembers, apart from its claims. -/
theorem remember_quietly {step : EngineMemory → EngineMemory}
    (hstep : ∀ memory, (step memory).acceptedInterruptClaims = memory.acceptedInterruptClaims) :
    Quietly weather (remember step) := by
  intro past trace _ world hat
  obtain ⟨hsound, hclaims, htraced⟩ := hat
  refine ⟨hsound, fun threadId turnId hclaim => hclaims threadId turnId ?_, htraced⟩
  exact hstep world.memory ▸ hclaim

theorem disableSession_quietly (hothers : Others weather) : Quietly weather disableSession := by
  intro past trace _
  unfold disableSession
  refine Keeps.operation (fun world hat => hat.before hothers _) ?_
  rintro world value next hat ⟨⟩
  refine hat.ofValues ?_
  rintro values ⟨⟩

theorem completeSession_quietly (hothers : Others weather) :
    Quietly weather completeSession := by
  refine Quietly.bind (look_quietly hothers) fun present => Quietly.ite ?_ Quietly.pure
  exact Quietly.bind (act_quietly hothers) fun _ => disableSession_quietly hothers

end Rules

/-! ### Reading and writing the document -/

section Documents

variable {path : String} {names : RuntimeNames} {weather : Disturbance Place World TurnFailure}
  {past : List Event} {trace : List Event → Prop} {world : World} {α : Type}

/-- The runtime is that of a document whose turns are consistent. -/
def Loaded (path : String) (names : RuntimeNames) (values : PyDict) (runtime : ManagerRuntime) :
    Prop :=
  (turnFields values).Consistent ∧ loadManagerRuntime path names values = .ok runtime

/-- What a tick has read. -/
def Read (path : String) (names : RuntimeNames) (runtime : Option ManagerRuntime) : Event → Prop
  | .saw none => runtime = none
  | .saw (some values) => ∃ found, runtime = some found ∧ Loaded path names values found
  | _ => False

theorem loadRuntime_reads (hothers : Others weather) {place : Place} :
    Triple weather (At past trace) (loadRuntime path names place)
      ⟨fun runtime => At past fun tail => ∃ before event, tail = before ++ [event] ∧
          trace before ∧ Read path names runtime event,
        fun _ => At past trace, At past trace⟩ := by
  refine Triple.operation (fun _ _ hat => hat) (fun _ _ world hat => hat.before hothers _) ?_
  intro _ world hat
  have hat := hat.before hothers place
  revert hat
  generalize weather.before place world = world
  intro hat
  cases hvalues : world.values with
  | none =>
    exact hat.note fun tail htail => ⟨tail, _, rfl, htail, rfl⟩
  | some values =>
    cases hload : loadManagerRuntime path names values with
    | error failure => simpa only [hload] using hat
    | ok runtime =>
      simp only [hload]
      exact hat.note fun tail htail =>
        ⟨tail, _, rfl, htail, runtime, rfl, hat.sound values hvalues, hload⟩

/-- What an update that keeps consistent turns makes of the world. -/
theorem mutated_at {update : PyDict → Except TurnFailure (PyDict × α)} {result : Option α}
    {next : World} (trace' : Option α → List Event → Prop)
    (hmutated : mutated update world = .ok (result, next)) (hat : At past trace world)
    (hgone : ∀ tail, trace tail → trace' none (tail ++ [.saw none]))
    (hsame : ∀ values after found, (turnFields values).Consistent →
      update values = .ok (after, found) → PyValue.eq (.dict after) (.dict values) = true →
        ∀ tail, trace tail → trace' (some found) (tail ++ [.saw (some values)]))
    (hwritten : ∀ values after found, (turnFields values).Consistent →
      update values = .ok (after, found) → PyValue.eq (.dict after) (.dict values) = false →
        (turnFields after).Consistent ∧ ∀ tail, trace tail →
          trace' (some found) (tail ++ [.wrote values after] ++ [.saw (some after)])) :
    At past (trace' result) next := by
  unfold mutated at hmutated
  cases hvalues : world.values with
  | none =>
    simp only [hvalues] at hmutated
    cases hmutated
    exact hat.note hgone
  | some values =>
    simp only [hvalues] at hmutated
    have hconsistent := hat.sound values hvalues
    cases hfound : update values with
    | error failure =>
      rw [hfound] at hmutated
      cases hmutated
    | ok pair =>
      obtain ⟨after, found⟩ := pair
      simp only [hfound] at hmutated
      cases heq : PyValue.eq (.dict after) (.dict values) with
      | true =>
        rw [heq, if_pos rfl] at hmutated
        cases hmutated
        exact hat.note (hsame values after found hconsistent hfound heq)
      | false =>
        rw [heq, if_neg (by decide)] at hmutated
        cases hmutated
        obtain ⟨hafter, htrace⟩ := hwritten values after found hconsistent hfound heq
        have hwrote : At past (fun tail => ∃ first, tail = first ++ [.wrote values after] ∧
            trace first) ({ world with values := some after }.note (.wrote values after)) := by
          refine At.note (hat.ofValues ?_) fun tail htail => ⟨tail, rfl, htail⟩
          rintro _ ⟨⟩
          exact hafter
        refine hwrote.note ?_
        rintro _ ⟨first, rfl, hfirst⟩
        exact htrace first hfirst

/-- The updates of the runtime document keep consistent turns. -/
theorem consistent_of_apply (change : RuntimeUpdate) {values after : PyDict}
    (hconsistent : (turnFields values).Consistent)
    (happly : change.apply path values = .ok after) : (turnFields after).Consistent := by
  rcases change.moved hconsistent happly with rfl | hmoved
  · exact hconsistent
  · exact hmoved.consistent

theorem mutateRuntime_quietly (hothers : Others weather) {name : String}
    {update : World → PyDict → Except TurnFailure (PyDict × α)} (change : World → RuntimeUpdate)
    (hchange : ∀ world values, (change world).apply path values =
      Prod.fst <$> update world values) : Quietly weather (mutateRuntime name update) := by
  intro past trace hopen
  refine Keeps.bind ?_ fun result =>
    Keeps.bind (act_quietly hothers past trace hopen) fun _ => Keeps.pure
  refine Keeps.operation (fun world hat => hat.before hothers _) ?_
  intro world result next hat hmutated
  refine mutated_at (fun _ => trace) hmutated hat
    (fun tail htail => hopen tail _ htail trivial)
    (fun _ _ _ _ _ _ tail htail => hopen tail _ htail trivial) ?_
  intro values after found hconsistent hupdate _
  refine ⟨?_, fun tail htail => hopen _ _ (hopen tail _ htail trivial) trivial⟩
  refine @consistent_of_apply path (change world) _ _ hconsistent ?_
  rw [hchange, hupdate]
  rfl

end Documents

/-! ### The quiet parts of a tick -/

section Quiet

variable {path : String} {names : RuntimeNames} {weather : Disturbance Place World TurnFailure}
  {runtime : ManagerRuntime} {turnId : PyText}

theorem recordFailure_quietly (hothers : Others weather) {reasonCode : String} :
    Quietly weather (recordFailure path reasonCode) := by
  refine Quietly.ite (Quietly.bind ?_ fun session => ?_) Quietly.raise
  · exact mutateRuntime_quietly hothers (fun _ => .managerFailure reasonCode) fun _ _ => rfl
  · exact Quietly.ite (act_quietly hothers) Quietly.pure

theorem failManager_quietly (hothers : Others weather) {reasonCode : String} :
    Quietly weather (failManager path reasonCode) :=
  Quietly.bind (recordFailure_quietly hothers) fun _ => Quietly.pure

theorem loadThread_quietly (hothers : Others weather) : Quietly weather (loadThread runtime) := by
  refine Quietly.bind engineMemory_quietly fun memory => Quietly.ite Quietly.pure ?_
  exact Quietly.bind (ask_quietly hothers trivial) fun _ => remember_quietly fun _ => rfl

theorem recordStarted_quietly (hothers : Others weather) :
    Quietly weather (recordStarted path turnId) := by
  refine Quietly.bind ?_ fun _ => act_quietly hothers
  exact mutateRuntime_quietly hothers
    (fun world => .turnStarted turnId world.timestamp world.identity) fun _ _ => rfl

theorem recordFinished_quietly (hothers : Others weather) :
    Quietly weather (recordFinished path turnId) :=
  Quietly.bind (mutateRuntime_quietly hothers (fun _ => .turnFinished turnId) fun _ _ => rfl)
    fun _ => Quietly.pure

theorem recordRestart_quietly (hothers : Others weather) {now : ℤ} :
    Quietly weather (recordRestart path names turnId now) := by
  refine Quietly.bind ?_ fun session => Quietly.ite (act_quietly hothers) Quietly.pure
  exact mutateRuntime_quietly hothers
    (fun _ => .restartPerformed names.fromisoformat turnId now) fun _ _ => rfl

theorem resolveInterrupted_quietly (hothers : Others weather) :
    Quietly weather (resolveInterrupted path names runtime turnId) := by
  refine Quietly.bind (look_quietly hothers) fun now => ?_
  cases classifyInterruptClaim runtime turnId now with
  | matched => exact Quietly.bind (recordRestart_quietly hothers) fun _ => Quietly.pure
  | unclaimed =>
    refine Quietly.ite Quietly.pure (Quietly.ite ?_ ?_)
    · exact Quietly.bind (disableSession_quietly hothers) fun _ => Quietly.pure
    · exact Quietly.bind (recordFinished_quietly hothers) fun _ => Quietly.pure
  | expired => exact Quietly.pure
  | mismatch => exact Quietly.pure

theorem resolveTurnOutcome_quietly (hothers : Others weather) {outcome : TurnOutcome} :
    Quietly weather (resolveTurnOutcome path names runtime turnId outcome) := by
  cases outcome with
  | completed =>
    refine Quietly.ite ?_ ?_
    · exact Quietly.bind (Quietly.ite (disableSession_quietly hothers)
        (completeSession_quietly hothers)) fun _ => Quietly.pure
    · unfold resolveCompleted
      refine Quietly.ite Quietly.pure ?_
      exact Quietly.bind (recordFinished_quietly hothers) fun _ => Quietly.pure
  | interrupted => exact resolveInterrupted_quietly hothers
  | failed => exact Quietly.pure
  | inProgress => exact Quietly.pure
  | invalid => exact Quietly.pure

theorem managedOutcome_quietly (hothers : Others weather) :
    Quietly weather (managedOutcome runtime) := by
  unfold managedOutcome
  cases runtime.view.managedTurnId with
  | none => exact Quietly.pure
  | some turnId => exact Quietly.bind (look_quietly hothers) fun _ => Quietly.pure

end Quiet

/-! ### What a document says of its turns -/

section Loading

variable {path : String} {names : RuntimeNames} {values after : PyDict} {runtime : ManagerRuntime}
  {turnId : PyText}

/-- What a runtime says of its turns is read from their members. -/
structure TurnsRead (path : String) (values : PyDict) (runtime : ManagerRuntime) : Prop where
  request : restartRequestFromValues path values = .ok runtime.restartRequest
  requested : runtime.view.restartRequestTurnId =
    runtime.restartRequest.map RestartRequest.turnId
  managed : optionalString path values "managed_turn_id" = .ok runtime.view.managedTurnId
  pending : optionalString path values "pending_turn_id" = .ok runtime.pendingTurnId

theorem loadManagerRuntime_turns (hload : loadManagerRuntime path names values = .ok runtime) :
    TurnsRead path values runtime := by
  unfold loadManagerRuntime at hload
  obtain ⟨sessionId, -, hload⟩ := bind_eq_ok.mp hload
  obtain ⟨-, hload⟩ := refuse_eq_ok.mp hload
  obtain ⟨preset, -, hload⟩ := bind_eq_ok.mp hload
  obtain ⟨-, hload⟩ := refuse_eq_ok.mp hload
  obtain ⟨request, hrequest, hload⟩ := bind_eq_ok.mp hload
  obtain ⟨managed, -, hload⟩ := bind_eq_ok.mp hload
  obtain ⟨transcript, -, hload⟩ := bind_eq_ok.mp hload
  obtain ⟨rollout, -, hload⟩ := bind_eq_ok.mp hload
  split at hload
  · obtain ⟨executable, -, hload⟩ := bind_eq_ok.mp hload
    obtain ⟨claimed, -, hload⟩ := bind_eq_ok.mp hload
    obtain ⟨claimedAt, -, hload⟩ := bind_eq_ok.mp hload
    obtain ⟨enabled, -, hload⟩ := bind_eq_ok.mp hload
    obtain ⟨handoff, -, hload⟩ := bind_eq_ok.mp hload
    obtain ⟨managedTurn, hmanaged, hload⟩ := bind_eq_ok.mp hload
    obtain ⟨ready, -, hload⟩ := bind_eq_ok.mp hload
    obtain ⟨pid, -, hload⟩ := bind_eq_ok.mp hload
    obtain ⟨shutdown, -, hload⟩ := bind_eq_ok.mp hload
    obtain ⟨interrupt, -, hload⟩ := bind_eq_ok.mp hload
    obtain ⟨error, -, hload⟩ := bind_eq_ok.mp hload
    obtain ⟨parentTurn, -, hload⟩ := bind_eq_ok.mp hload
    obtain ⟨fingerprint, -, hload⟩ := bind_eq_ok.mp hload
    obtain ⟨pendingTurn, hpending, hload⟩ := bind_eq_ok.mp hload
    obtain ⟨timedOutAt, -, hload⟩ := bind_eq_ok.mp hload
    cases hload
    exact ⟨hrequest, rfl, hmanaged, hpending⟩
  · cases hload

theorem optionalString_eq_some {key : String} {text : PyText}
    (hread : optionalString path values key = .ok (some text)) :
    values.find key = some (.str text) := by
  unfold optionalString at hread
  split at hread
  · cases hread
  · cases hread
  · next found hfound =>
    cases hread
    exact hfound
  · cases hread

/-- No document asks for a restart. -/
theorem Loaded.unrequested (hloaded : Loaded path names values runtime) :
    runtime.view.restartRequestTurnId = none := by
  obtain ⟨hconsistent, hload⟩ := hloaded
  have hturns := loadManagerRuntime_turns hload
  have hnone : restartRequestFromValues path values = .ok none := by
    unfold restartRequestFromValues
    rcases isNone_iff.mp hconsistent.unrequested with hfind | hfind
    · change values.find "restart_request" = none at hfind
      rw [hfind]
    · change values.find "restart_request" = some .none at hfind
      rw [hfind]
  rw [hturns.request, Except.ok.injEq] at hnone
  rw [hturns.requested, hnone]
  rfl

/-- A document is the durable owner of the turn that it owns. -/
theorem Loaded.durablyOwns (hloaded : Loaded path names values runtime)
    (howns : durablyOwns (some runtime) turnId = true) :
    (turnFields values).ownership.holder = some turnId := by
  obtain ⟨hconsistent, hload⟩ := hloaded
  have hturns := loadManagerRuntime_turns hload
  simp only [ManagedTurns.durablyOwns, Option.any_some, Bool.or_eq_true, beq_iff_eq] at howns
  rcases howns with hpending | hmanaged
  · have hfind := optionalString_eq_some (hpending ▸ hturns.pending)
    refine Ownership.holder_eq_some.mpr (Or.inl (TurnFields.ownership_promised ?_ hfind))
    rcases hconsistent.exclusive with hmanaged | hnone
    · exact hmanaged
    · change isNone (values.find "pending_turn_id") = true at hnone
      rw [hfind] at hnone
      cases hnone
  · have hfind := optionalString_eq_some (hmanaged ▸ hturns.managed)
    exact Ownership.holder_eq_some.mpr (Or.inr (TurnFields.ownership_held hfind))

theorem clearPendingTurn_withdraws
    (hclear : clearPendingTurn path turnId values = .ok (after, true))
    (hconsistent : (turnFields values).Consistent) : Moved (.withdraw turnId) values after := by
  rcases clearPendingTurn_moved hclear hconsistent with rfl | hmoved
  · unfold clearPendingTurn at hclear
    split at hclear
    · obtain ⟨bumped, hbump, hlast⟩ := bind_eq_ok.mp hclear
      cases hlast
      obtain ⟨hbumped, -⟩ := bumped_of_bumpRevision after
        (by simp [withoutPending, PyDict.find_put]) hbump
      obtain ⟨revision, hbefore, hafter⟩ := hbumped
      rw [hafter, Option.getD_some, PyValue.int.injEq] at hbefore
      omega
    · cases hclear
  · exact hmoved

end Loading

/-! ### What happens in a tick -/

/-- What a runtime must be for a turn to be started. -/
structure ManagerRuntime.MayStart (runtime : ManagerRuntime) : Prop where
  enabled : runtime.view.enabled = true
  handoff : runtime.view.handoffRequested = true
  unmanaged : runtime.view.managedTurnId = none
  unpending : runtime.pendingTurnId = none
  running : runtime.shutdownRequested = false
  plain : runtime.view.goalCompanion = false

/-- What a runtime must be for a turn to be interrupted: a shutdown that interrupts what it
manages, or a pending turn that has timed out and that the tick has withdrawn before. -/
def ManagerRuntime.MayInterrupt (runtime : ManagerRuntime) (turnId : PyText)
    (before : List Event) : Prop :=
  (runtime.view.managedTurnId = some turnId ∧ runtime.shutdownRequested = true ∧
      runtime.shutdownInterrupt = true) ∨
    (runtime.pendingTurnId = some turnId ∧ runtime.pendingTurnTimedOutAt.isSome ∧
      ∃ values after, .wrote values after ∈ before ∧
        (turnFields values).ownership = .promised turnId ∧ (turnFields after).ownership = .free)

/-- The events after a turn was accepted: it may be interrupted, by a claim of the engine. -/
def AfterAccepted (threadId turnId : PyText) (after : List Event) : Prop :=
  ∀ event ∈ after, event.Quiet ∨ event = .asked (.interruptTurn threadId turnId)

/-- The turn is interrupted, or the document has owned it since or was gone. -/
def Settled (past : List Event) (threadId turnId : PyText) (after : List Event) : Prop :=
  .asked (.interruptTurn threadId turnId) ∈ past ++ after ∨ ∃ event ∈ after, event.Settles turnId

/-- The events of a tick that has read `runtime`.  Where the process dies, an accepted turn may
be left behind. -/
inductive Trace (past : List Event) (runtime : ManagerRuntime) (dying : Prop) :
    List Event → Prop where
  | quiet {tail : List Event} (hquiet : ∀ event ∈ tail, event.Quiet) : Trace past runtime dying tail
  | interrupted {before after : List Event} {turnId : PyText}
      (hbefore : ∀ event ∈ before, event.Quiet) (hafter : ∀ event ∈ after, event.Quiet)
      (hmay : runtime.MayInterrupt turnId before) :
      Trace past runtime dying
        (before ++ .asked (.interruptTurn runtime.sessionId turnId) :: after)
  | refused {before after : List Event} {text : PyText}
      (hbefore : ∀ event ∈ before, event.Quiet) (hafter : ∀ event ∈ after, event.Quiet)
      (hmay : runtime.MayStart) :
      Trace past runtime dying (before ++ .asked (.startTurn runtime.sessionId text) :: after)
  | accepted {before after : List Event} {text turnId : PyText}
      (hbefore : ∀ event ∈ before, event.Quiet)
      (hafter : AfterAccepted runtime.sessionId turnId after) (hmay : runtime.MayStart)
      (hsettled : Settled past runtime.sessionId turnId after ∨ dying) :
      Trace past runtime dying (before ++ .asked (.startTurn runtime.sessionId text) ::
        .accepted runtime.sessionId turnId :: after)

/-! ### What goes on to hold -/

def AllQuiet (tail : List Event) : Prop := ∀ event ∈ tail, event.Quiet

theorem allQuiet_open : Open AllQuiet := by
  intro tail event htail hquiet other hmem
  rcases List.mem_append.mp hmem with hmem | hmem
  · exact htail other hmem
  · exact List.mem_singleton.mp hmem ▸ hquiet

section Traces

variable {past : List Event} {runtime : ManagerRuntime} {dying : Prop} {threadId turnId : PyText}

theorem afterAccepted_open : Open (AfterAccepted threadId turnId) := by
  intro tail event htail hquiet other hmem
  rcases List.mem_append.mp hmem with hmem | hmem
  · exact htail other hmem
  · exact Or.inl (List.mem_singleton.mp hmem ▸ hquiet)

theorem Settled.append {after : List Event} (hsettled : Settled past threadId turnId after)
    (more : List Event) : Settled past threadId turnId (after ++ more) := by
  rcases hsettled with hasked | ⟨event, hmem, hsettles⟩
  · refine Or.inl ?_
    rw [← List.append_assoc]
    exact List.mem_append_left _ hasked
  · exact Or.inr ⟨event, List.mem_append_left _ hmem, hsettles⟩

theorem trace_open : Open (Trace past runtime dying) := by
  intro tail event htrace hquiet
  cases htrace with
  | quiet htail => exact .quiet (allQuiet_open tail event htail hquiet)
  | interrupted hbefore hafter hmay =>
    rw [List.append_assoc, List.cons_append]
    exact .interrupted hbefore (allQuiet_open _ event hafter hquiet) hmay
  | refused hbefore hafter hmay =>
    rw [List.append_assoc, List.cons_append]
    exact .refused hbefore (allQuiet_open _ event hafter hquiet) hmay
  | accepted hbefore hafter hmay hsettled =>
    rw [List.append_assoc, List.cons_append, List.cons_append]
    exact .accepted hbefore (afterAccepted_open _ event hafter hquiet) hmay
      (hsettled.imp_left fun hsettled => hsettled.append _)

theorem Trace.dies {tail : List Event} (htrace : Trace past runtime False tail) :
    Trace past runtime True tail := by
  cases htrace with
  | quiet htail => exact .quiet htail
  | interrupted hbefore hafter hmay => exact .interrupted hbefore hafter hmay
  | refused hbefore hafter hmay => exact .refused hbefore hafter hmay
  | accepted hbefore hafter hmay hsettled => exact .accepted hbefore hafter hmay (Or.inr trivial)

/-- The events up to now, of which the last that bind are a turn started and accepted. -/
def Accepting (runtime : ManagerRuntime) (turnId : PyText) (account : List Event → Prop)
    (tail : List Event) : Prop :=
  ∃ before text after, AllQuiet before ∧ AfterAccepted runtime.sessionId turnId after ∧
    account after ∧ tail = before ++ .asked (.startTurn runtime.sessionId text) ::
      .accepted runtime.sessionId turnId :: after

theorem Accepting.append {account account' : List Event → Prop} {tail : List Event}
    (haccepting : Accepting runtime turnId account tail) {event : Event}
    (hevent : event.Quiet ∨ event = .asked (.interruptTurn runtime.sessionId turnId))
    (haccount : ∀ after, account after → account' (after ++ [event])) :
    Accepting runtime turnId account' (tail ++ [event]) := by
  obtain ⟨before, text, after, hbefore, hafter, hold, rfl⟩ := haccepting
  refine ⟨before, text, after ++ [event], hbefore, ?_, haccount after hold, ?_⟩
  · intro other hmem
    rcases List.mem_append.mp hmem with hmem | hmem
    · exact hafter other hmem
    · exact List.mem_singleton.mp hmem ▸ hevent
  · rw [List.append_assoc, List.cons_append, List.cons_append]

theorem Accepting.mono {account account' : List Event → Prop} {tail : List Event}
    (haccepting : Accepting runtime turnId account tail)
    (haccount : ∀ after, account after → account' after) :
    Accepting runtime turnId account' tail := by
  obtain ⟨before, text, after, hbefore, hafter, hold, htail⟩ := haccepting
  exact ⟨before, text, after, hbefore, hafter, haccount after hold, htail⟩

theorem Accepting.trace {account : List Event → Prop} {tail : List Event}
    (haccepting : Accepting runtime turnId account tail) (hmay : runtime.MayStart)
    (haccount : ∀ after, account after → Settled past runtime.sessionId turnId after ∨ dying) :
    Trace past runtime dying tail := by
  obtain ⟨before, text, after, hbefore, hafter, hold, rfl⟩ := haccepting
  exact .accepted hbefore hafter hmay (haccount after hold)

/-- A request that was made was made before the tick, or since the turn was accepted. -/
theorem Accepting.asked {account : List Event → Prop} {tail : List Event}
    (haccepting : Accepting runtime turnId account tail)
    (hasked : .asked (.interruptTurn threadId turnId) ∈ past ++ tail) :
    Accepting runtime turnId
      (fun after => .asked (.interruptTurn threadId turnId) ∈ past ++ after) tail := by
  obtain ⟨before, text, after, hbefore, hafter, hold, rfl⟩ := haccepting
  refine ⟨before, text, after, hbefore, hafter, ?_, rfl⟩
  simp only [List.mem_append, List.mem_cons, reduceCtorEq, Event.asked.injEq, false_or] at hasked ⊢
  rcases hasked with hpast | hmem | hafter
  · exact Or.inl hpast
  · exact (hbefore _ hmem).elim
  · exact Or.inr hafter

end Traces

/-! ### An accepted turn -/

section Accepted

variable {path : String} {names : RuntimeNames} {weather : Disturbance Place World TurnFailure}
  {past : List Event} {runtime : ManagerRuntime} {turnId : PyText}

/-- A turn that was accepted, and is not settled as far as is known. -/
abbrev Unsettled (past : List Event) (runtime : ManagerRuntime) (turnId : PyText) :
    World → Prop :=
  At past (Accepting runtime turnId fun _ => True)

/-- A turn that was accepted, and is settled. -/
abbrev SettledAt (past : List Event) (runtime : ManagerRuntime) (turnId : PyText) :
    World → Prop :=
  At past (Accepting runtime turnId (Settled past runtime.sessionId turnId))

theorem SettledAt.unsettled {world : World} (hsettled : SettledAt past runtime turnId world) :
    Unsettled past runtime turnId world :=
  hsettled.weaken fun _ haccepting => haccepting.mono fun _ _ => trivial

/-- Once the interrupt is asked for, the turn is settled, and the claim made. -/
theorem claimed_settled {world : World} (hat : Unsettled past runtime turnId world) :
    SettledAt past runtime turnId (World.note
      (.asked (.interruptTurn runtime.sessionId turnId)) { world with
        memory := { world.memory with
          acceptedInterruptClaims :=
            (runtime.sessionId, turnId) :: world.memory.acceptedInterruptClaims } }) := by
  obtain ⟨hsound, hclaims, tail, htail, haccepting⟩ := hat
  refine ⟨hsound, ?_, tail ++ [.asked (.interruptTurn runtime.sessionId turnId)], ?_, ?_⟩
  · intro threadId other hclaim
    rcases List.mem_cons.mp hclaim with heq | hclaim
    · cases heq
      exact List.mem_append_right _ List.mem_cons_self
    · exact List.mem_append_left _ (hclaims threadId other hclaim)
  · rw [World.note, htail, List.append_assoc]
  · refine haccepting.append (Or.inr rfl) fun after _ => Or.inl ?_
    exact List.mem_append_right _ (List.mem_append_right _ List.mem_cons_self)

theorem interruptUnownedAccepted_settles (hothers : Others weather) :
    Triple weather (Unsettled past runtime turnId) (interruptUnownedAccepted runtime turnId)
      ⟨fun _ => SettledAt past runtime turnId, fun _ => SettledAt past runtime turnId,
        Unsettled past runtime turnId⟩ := by
  refine Triple.bind_via (fun memory world => world.memory = memory ∧
    Unsettled past runtime turnId world) (fun world hat => ⟨rfl, hat⟩) fun memory => ?_
  refine Triple.ite (fun hclaimed => ?_) fun _ => ?_
  · refine Triple.pure ?_
    rintro world ⟨rfl, hat⟩
    obtain ⟨hsound, hclaims, tail, htail, haccepting⟩ := hat
    have hasked := hclaims _ _ hclaimed
    rw [htail] at hasked
    exact ⟨hsound, hclaims, tail, htail, (haccepting.asked hasked).mono fun _ => Or.inl⟩
  · refine Triple.bind_via (fun _ claimed => ∃ world, Unsettled past runtime turnId world ∧
      claimed = { world with memory := { world.memory with
        acceptedInterruptClaims :=
          (runtime.sessionId, turnId) :: world.memory.acceptedInterruptClaims } }) ?_ ?_
    · rintro world ⟨-, hat⟩
      exact ⟨world, hat, rfl⟩
    · rintro -
      refine Triple.bind_via (fun _ => SettledAt past runtime turnId) ?_ fun _ => ?_
      · rintro _ ⟨world, hat, rfl⟩
        exact claimed_settled hat
      · refine (act_quietly hothers past _ ?_).weaken (fun _ => id) (fun _ _ => id)
          (fun _ _ => id) fun _ => SettledAt.unsettled
        intro tail event haccepting hquiet
        exact haccepting.append (Or.inl hquiet) fun after hsettled => hsettled.append _

/-- What a reading of the document tells of an accepted turn. -/
theorem recoverAcceptedTurn_settles (hothers : Others weather) :
    Triple weather (Unsettled past runtime turnId) (recoverAcceptedTurn path names runtime turnId)
      ⟨fun _ => SettledAt past runtime turnId, fun _ => SettledAt past runtime turnId,
        Unsettled past runtime turnId⟩ := by
  refine Triple.bind_via (fun durableOwner world => if durableOwner = true then
    SettledAt past runtime turnId world else Unsettled past runtime turnId world) ?_ ?_
  · refine Triple.attempt_via (fun _ => Unsettled past runtime turnId) ?_ fun error => ?_
    · refine Triple.bind (loadRuntime_reads hothers) fun persisted => Triple.pure ?_
      intro world hat
      have hunsettled : Unsettled past runtime turnId world := by
        refine hat.weaken ?_
        rintro tail ⟨before, event, rfl, haccepting, hread⟩
        refine haccepting.append (Or.inl ?_) fun _ _ => trivial
        cases event <;> first | exact trivial | exact hread.elim
      by_cases howns : durablyOwns persisted turnId = true
      · refine (if_pos howns).mpr (hat.weaken ?_)
        rintro tail ⟨before, event, rfl, haccepting, hread⟩
        cases event with
        | saw values =>
          refine haccepting.append (Or.inl trivial) fun after _ => Or.inr ⟨_,
            List.mem_append_right _ List.mem_cons_self, ?_⟩
          cases values with
          | none => trivial
          | some values =>
            obtain ⟨found, rfl, hloaded⟩ := hread
            exact hloaded.durablyOwns howns
        | wrote values after => exact hread.elim
        | asked request => exact hread.elim
        | accepted threadId other => exact hread.elim
      · exact (if_neg howns).mpr hunsettled
    · exact Triple.bind (interruptUnownedAccepted_settles hothers) fun _ =>
        Triple.raise fun _ => id
  · intro durableOwner
    refine Triple.ite (fun howns => Triple.pure ?_) fun howns => ?_
    · intro world hsettled
      rwa [if_pos howns] at hsettled
    · refine (interruptUnownedAccepted_settles hothers).weaken ?_ (fun _ _ => id)
        (fun _ _ => id) fun _ => id
      intro world hunsettled
      rwa [if_neg howns] at hunsettled

theorem recordPendingTurn_settles {values after : PyDict}
    (hconsistent : (turnFields values).Consistent)
    (hrecord : recordPendingTurn path turnId values = .ok (after, ())) :
    PyValue.eq (.dict after) (.dict values) = false ∧ (turnFields after).Consistent ∧
      Event.Settles turnId (.saw (some after)) := by
  have hmoved := recordPendingTurn_moved hrecord hconsistent
  exact ⟨hmoved.bumped.not_eq, hmoved.consistent,
    Ownership.holder_eq_some.mpr (Or.inl hmoved.allowed.2)⟩

/-- The record of an accepted turn settles it, or fails and leaves it for the recovery. -/
theorem recordAccepted_settles (hothers : Others weather) :
    Triple weather (Unsettled past runtime turnId)
      (mutateRuntime "pending" fun _ => recordPendingTurn path turnId)
      ⟨fun _ => SettledAt past runtime turnId, fun _ => Unsettled past runtime turnId,
        Unsettled past runtime turnId⟩ := by
  refine Triple.bind_via (fun _ => SettledAt past runtime turnId) ?_ fun result => ?_
  · refine Triple.operation (fun _ _ => id) (fun _ _ world hat => hat.before hothers _) ?_
    intro _ world hat
    have hat := hat.before hothers (.write "pending")
    revert hat
    generalize weather.before (.write "pending") world = world
    intro hat
    cases hmutated : mutated (recordPendingTurn path turnId) world with
    | error failure => exact hat
    | ok pair =>
      refine mutated_at
        (fun _ => Accepting runtime turnId (Settled past runtime.sessionId turnId))
        hmutated hat (fun tail haccepting => ?_) ?_ ?_
      · exact haccepting.append (Or.inl trivial) fun after _ =>
          Or.inr ⟨_, List.mem_append_right _ List.mem_cons_self, trivial⟩
      · intro values after found hconsistent hrecord heq
        rw [(recordPendingTurn_settles hconsistent hrecord).1] at heq
        cases heq
      · intro values after found hconsistent hrecord _
        obtain ⟨-, hafter, hsettles⟩ := recordPendingTurn_settles hconsistent hrecord
        refine ⟨hafter, fun tail haccepting => ?_⟩
        have hwrote : Accepting runtime turnId (fun _ => True) (tail ++ [.wrote values after]) :=
          haccepting.append (Or.inl trivial) fun _ _ => trivial
        exact hwrote.append (Or.inl trivial) fun _ _ =>
          Or.inr ⟨_, List.mem_append_right _ List.mem_cons_self, hsettles⟩
  · refine Triple.bind_via (fun _ => SettledAt past runtime turnId) ?_ fun _ =>
      Triple.pure fun _ => id
    refine (act_quietly hothers past _ ?_).weaken (fun _ => id) (fun _ _ => id)
      (fun _ _ => SettledAt.unsettled) fun _ => SettledAt.unsettled
    intro tail event haccepting hquiet
    exact haccepting.append (Or.inl hquiet) fun after hsettled => hsettled.append _

/-- **An accepted turn is settled.**  Whatever fails, unless the process dies. -/
theorem persistAcceptedTurn_settles (hothers : Others weather) :
    Triple weather (Unsettled past runtime turnId) (persistAcceptedTurn path names runtime turnId)
      ⟨fun _ => SettledAt past runtime turnId, fun _ => SettledAt past runtime turnId,
        Unsettled past runtime turnId⟩ := by
  refine Triple.attempt_via (fun _ => Unsettled past runtime turnId) ?_ fun original => ?_
  · exact Triple.bind (recordAccepted_settles hothers) fun _ => Triple.pure fun _ => id
  · refine Triple.bind_via (fun _ => SettledAt past runtime turnId) ?_ fun _ =>
      Triple.raise fun _ => id
    refine Triple.attempt_via (fun _ => SettledAt past runtime turnId) ?_ fun error =>
      Triple.pure fun _ => id
    exact recoverAcceptedTurn_settles hothers

end Accepted

/-! ### The branches of a tick -/

section Branches

variable {path : String} {names : RuntimeNames} {weather : Disturbance Place World TurnFailure}
  {past : List Event} {trace : List Event → Prop} {runtime : ManagerRuntime} {turnId : PyText}
  {α : Type}

/-- The events of a tick are as `Trace` says, however it ends. -/
abbrev Traced (past : List Event) (runtime : ManagerRuntime) (α : Type) :
    Post World TurnFailure α where
  returned _ := At past (Trace past runtime False)
  raised _ := At past (Trace past runtime False)
  crashed := At past (Trace past runtime True)

theorem Quietly.traced {run : Tick α} (hrun : Quietly weather run) :
    Triple weather (At past (Trace past runtime False)) run (Traced past runtime α) :=
  (hrun past _ trace_open).weaken (fun _ => id) (fun _ _ => id) (fun _ _ => id)
    fun _ hat => hat.weaken fun _ => Trace.dies

theorem At.idle {world : World} (hat : At past AllQuiet world) :
    At past (Trace past runtime False) world :=
  hat.weaken fun _ => Trace.quiet

theorem Quietly.traced_first {run : Tick α} (hrun : Quietly weather run) :
    Triple weather (At past AllQuiet) run (Traced past runtime α) :=
  hrun.traced.weaken (fun _ => At.idle) (fun _ _ => id) (fun _ _ => id) fun _ => id

/-- A quiet part, before anything that binds has happened. -/
theorem Quietly.first {run : Tick α} (hrun : Quietly weather run) :
    Triple weather (At past AllQuiet) run
      ⟨fun _ => At past AllQuiet, fun _ => At past (Trace past runtime False),
        At past (Trace past runtime True)⟩ :=
  (hrun past _ allQuiet_open).weaken (fun _ => id) (fun _ _ => id) (fun _ _ hat => hat.idle)
    fun _ hat => hat.idle.weaken fun _ => Trace.dies

/-- What is read, and what is known of it. -/
theorem look_first (hothers : Others weather) {place : Place} {see : World → Except TurnFailure α}
    (fact : α → Prop) (hfact : ∀ world value, see world = .ok value → fact value) :
    Triple weather (At past AllQuiet) (Run.look place see)
      ⟨fun value world => fact value ∧ At past AllQuiet world, fun _ => At past (Trace past runtime False),
        At past (Trace past runtime True)⟩ := by
  refine Triple.operation (fun _ world hat => hat.idle.weaken fun _ => Trace.dies)
    (fun _ _ world hat => (hat.before hothers _).idle) ?_
  intro _ world hat
  have hat := hat.before hothers place
  cases hsee : see (weather.before place world) with
  | error error => exact hat.idle
  | ok value => exact ⟨hfact _ _ hsee, hat⟩

theorem askStart_traced (hothers : Others weather) (hmay : runtime.MayStart) {text : PyText} :
    Triple weather (At past AllQuiet) (askStart runtime text)
      ⟨fun result world => match result with
          | none => At past (Trace past runtime False) world
          | some turnId => Unsettled past runtime turnId world,
        fun _ => At past (Trace past runtime False), At past (Trace past runtime True)⟩ := by
  refine Triple.bind_via (fun _ => At past fun tail => ∃ before, AllQuiet before ∧
    tail = before ++ [.asked (.startTurn runtime.sessionId text)]) ?_ fun _ => ?_
  · exact fun world hat => hat.note fun tail hquiet => ⟨tail, hquiet, rfl⟩
  · have hrefused : ∀ world, At past (fun tail => ∃ before, AllQuiet before ∧
        tail = before ++ [.asked (.startTurn runtime.sessionId text)]) world →
          At past (Trace past runtime False) world := by
      intro world hat
      refine hat.weaken ?_
      rintro tail ⟨before, hbefore, rfl⟩
      refine .refused hbefore ?_ hmay
      rintro event hmem
      cases hmem
    refine Triple.operation
      (fun _ world hat => (hrefused world hat).weaken fun _ => Trace.dies)
      (fun _ _ world hat => hrefused _ (hat.before hothers _)) ?_
    intro _ world hat
    have hat := hat.before hothers (.answer (.startTurn runtime.sessionId text))
    revert hat
    generalize weather.before (.answer (.startTurn runtime.sessionId text)) world = world
    intro hat
    cases hresult : resultTurnId world.server.startResult with
    | none => simpa only [hresult] using hrefused world hat
    | some turnId =>
      dsimp only
      refine hat.note ?_
      rintro tail ⟨before, hbefore, rfl⟩
      refine ⟨before, text, [], hbefore, ?_, trivial, ?_⟩
      · rintro event hmem
        cases hmem
      · rw [List.append_assoc]
        rfl

theorem startTurn_traced (hothers : Others weather) (hmay : runtime.MayStart) :
    Triple weather (At past AllQuiet) (startTurn path names runtime)
      (Traced past runtime Bool) := by
  refine Triple.bind (loadThread_quietly hothers).first fun _ => ?_
  refine Triple.bind engineMemory_quietly.first fun memory => ?_
  refine Triple.bind (askStart_traced hothers hmay) fun result => ?_
  cases result with
  | none => exact (failManager_quietly hothers).traced
  | some turnId =>
    have hsettled : ∀ world, SettledAt past runtime turnId world →
        At past (Trace past runtime False) world := fun world hat =>
      hat.weaken fun _ haccepting => haccepting.trace hmay fun _ => Or.inl
    refine Triple.bind_via (fun _ => At past (Trace past runtime False)) ?_ fun _ => ?_
    · refine (persistAcceptedTurn_settles hothers).weaken (fun _ => id)
        (fun _ => hsettled) (fun _ => hsettled) fun world hat => ?_
      exact hat.weaken fun _ haccepting => haccepting.trace hmay fun _ _ => Or.inr trivial
    · refine Triple.bind (look_quietly hothers).traced fun started => Quietly.traced ?_
      refine Quietly.ite (Quietly.bind (recordStarted_quietly hothers) fun _ =>
        Quietly.bind (remember_quietly fun _ => rfl) fun _ => Quietly.pure) ?_
      refine Quietly.bind ?_ fun _ => Quietly.pure
      exact mutateRuntime_quietly hothers
        (fun world => .pendingTimedOut turnId world.monotonic) fun _ _ => rfl

/-- A turn is asked to be interrupted, on the grounds there are. -/
theorem interrupt_traced (hothers : Others weather) {grounds : List Event → Prop}
    (hgrounds : ∀ tail, grounds tail → AllQuiet tail ∧ runtime.MayInterrupt turnId tail) :
    Triple weather (At past grounds) (ask (.interruptTurn runtime.sessionId turnId))
      (Traced past runtime Unit) := by
  refine Triple.bind_via (fun _ => At past (Trace past runtime False)) ?_ fun _ =>
    (act_quietly hothers).traced
  refine fun world hat => hat.note fun tail hold => ?_
  obtain ⟨hquiet, hmay⟩ := hgrounds tail hold
  refine .interrupted hquiet ?_ hmay
  rintro event hmem
  cases hmem

theorem expirePending_traced (hothers : Others weather)
    (hpending : runtime.pendingTurnId = some turnId)
    (hexpired : runtime.pendingTurnTimedOutAt.isSome = true) :
    Triple weather (At past AllQuiet) (expirePending path runtime turnId)
      (Traced past runtime Unit) := by
  let withdrawn : Option Bool → List Event → Prop := fun cleared tail =>
    AllQuiet tail ∧ (cleared = some true → ∃ values after, .wrote values after ∈ tail ∧
      (turnFields values).ownership = .promised turnId ∧ (turnFields after).ownership = .free)
  have hopen : ∀ cleared, Open (withdrawn cleared) := by
    rintro cleared tail event ⟨hquiet, hfree⟩ hevent
    refine ⟨allQuiet_open tail event hquiet hevent, fun hcleared => ?_⟩
    obtain ⟨values, after, hmem, hvalues⟩ := hfree hcleared
    exact ⟨values, after, List.mem_append_left _ hmem, hvalues⟩
  have hquiet : ∀ cleared world, At past (withdrawn cleared) world →
      At past (Trace past runtime False) world := fun cleared world hat =>
    At.idle (hat.weaken fun _ => And.left)
  refine Triple.bind_via (fun cleared => At past (withdrawn cleared)) ?_ fun cleared => ?_
  · refine Triple.bind_via (fun cleared => At past (withdrawn cleared)) ?_ fun cleared => ?_
    · refine Triple.operation (fun _ world hat => hat.idle.weaken fun _ => Trace.dies)
        (fun _ _ world hat => (hat.before hothers _).idle) ?_
      intro _ world hat
      have hat := hat.before hothers (.write "expired")
      revert hat
      generalize weather.before (.write "expired") world = world
      intro hat
      cases hmutated : mutated (clearPendingTurn path turnId) world with
      | error failure => exact hat.idle
      | ok pair =>
        refine mutated_at withdrawn hmutated hat
          (fun tail htail => ⟨allQuiet_open tail _ htail trivial, ?_⟩) ?_ ?_
        · rintro ⟨⟩
        · intro values after found hconsistent hclear heq tail htail
          refine ⟨allQuiet_open tail _ htail trivial, ?_⟩
          rintro ⟨⟩
          rw [(clearPendingTurn_withdraws hclear hconsistent).bumped.not_eq] at heq
          cases heq
        · intro values after found hconsistent hclear _
          have hafter : (turnFields after).Consistent := by
            refine @consistent_of_apply path (.clearPending turnId) _ _ hconsistent ?_
            simp only [RuntimeUpdate.apply, hclear]
            rfl
          refine ⟨hafter, fun tail htail => ⟨allQuiet_open _ _ (allQuiet_open tail _ htail
            trivial) trivial, ?_⟩⟩
          rintro ⟨⟩
          have hmoved := clearPendingTurn_withdraws hclear hconsistent
          refine ⟨values, after, ?_, hmoved.allowed⟩
          exact List.mem_append_left _ (List.mem_append_right _ List.mem_cons_self)
    · refine Triple.bind_via (fun _ => At past (withdrawn cleared)) ?_ fun _ =>
        Triple.pure fun _ => id
      exact (act_quietly hothers past _ (hopen cleared)).weaken (fun _ => id) (fun _ _ => id)
        (fun _ => hquiet cleared) fun world hat => (hquiet cleared world hat).weaken
          fun _ => Trace.dies
  · refine Triple.ite (fun hcleared => ?_) fun _ => Triple.pure (hquiet cleared)
    refine interrupt_traced hothers fun tail hold => ⟨hold.1, Or.inr ⟨hpending, hexpired, ?_⟩⟩
    exact hold.2 hcleared

theorem pendingExpired_timedOut {timedOutAt : Option PyFloat} {monotonic : ℚ}
    (hexpired : pendingExpired timedOutAt monotonic = true) : timedOutAt.isSome = true := by
  cases timedOutAt with
  | none => cases hexpired
  | some timedOutAt => rfl

theorem reconcilePendingTurn_traced (hothers : Others weather)
    (hpending : runtime.pendingTurnId = some turnId) :
    Triple weather (At past AllQuiet) (reconcilePendingTurn path runtime turnId)
      (Traced past runtime Bool) := by
  refine Triple.bind (look_first hothers (fun expired => expired = true →
    runtime.pendingTurnTimedOutAt.isSome = true) ?_) fun expired => ?_
  · rintro world expired hsee hexpired
    cases hsee
    exact pendingExpired_timedOut hexpired
  · refine Triple.ite (fun hexpired => ?_) fun _ => ?_
    · intro world hat
      refine Triple.bind (expirePending_traced hothers hpending (hat.1 hexpired)) (fun _ =>
        (failManager_quietly hothers).traced) world hat.2
    · intro world hat
      refine Quietly.traced_first (Quietly.bind (look_quietly hothers) fun active =>
        Quietly.bind (Quietly.ite Quietly.pure (look_quietly hothers)) fun seen => ?_) world hat.2
      refine Quietly.ite ?_ Quietly.pure
      exact Quietly.bind (recordStarted_quietly hothers) fun _ =>
        Quietly.bind (remember_quietly fun _ => rfl) fun _ => Quietly.pure

theorem handleShutdown_traced (hothers : Others weather)
    (hshutdown : runtime.shutdownRequested = true) :
    Triple weather (At past AllQuiet) (handleShutdown path runtime)
      (Traced past runtime Bool) := by
  unfold handleShutdown
  cases hmanaged : runtime.view.managedTurnId with
  | none =>
    exact Quietly.traced_first (Quietly.bind (disableSession_quietly hothers) fun _ =>
      Quietly.pure)
  | some turnId =>
    refine Triple.ite (fun _ => Quietly.pure.traced_first) fun hinterrupt => ?_
    have hinterrupt : runtime.shutdownInterrupt = true := by simpa using hinterrupt
    refine Triple.bind (look_quietly hothers).first fun active => ?_
    refine Triple.ite (fun _ => (failManager_quietly hothers).traced_first) fun _ => ?_
    refine Triple.ite (fun _ => (failManager_quietly hothers).traced_first) fun _ => ?_
    refine Triple.bind (interrupt_traced hothers fun tail hquiet =>
      ⟨hquiet, Or.inl ⟨hmanaged, hshutdown, hinterrupt⟩⟩) fun _ => Quietly.traced ?_
    refine Quietly.bind (look_quietly hothers) fun completed => Quietly.ite ?_
      (failManager_quietly hothers)
    refine Quietly.bind (Quietly.ite (ask_quietly hothers trivial) Quietly.pure) fun _ => ?_
    exact Quietly.bind (disableSession_quietly hothers) fun _ => Quietly.pure

end Branches

/-! ### The tick -/

section Ticks

variable {path : String} {names : RuntimeNames} {weather : Disturbance Place World TurnFailure}
  {past : List Event} {runtime : ManagerRuntime} {interruptTurn : ManagerRuntime → PyText → Tick Bool}

/-- Where no restart is requested, no turn is interrupted for one, and one is started only
where the session waits for it. -/
theorem decideManagerAction_cases {view : ManagerView} {active : Option PyText}
    (hunrequested : view.restartRequestTurnId = none) :
    (decideManagerAction view active).action ≠ .interrupt ∧
      ((decideManagerAction view active).action = .start → view.enabled = true ∧
        view.handoffRequested = true ∧ view.managedTurnId = none ∧ view.goalCompanion = false) := by
  unfold decideManagerAction
  split
  · exact ⟨by decide, by rintro ⟨⟩⟩
  · next henabled =>
    rw [if_neg fun hrequested => hrequested hunrequested]
    split
    · next hhandoff =>
      unfold handoffDecision
      split
      · split
        · exact ⟨by decide, by rintro ⟨⟩⟩
        · exact ⟨by decide, by rintro ⟨⟩⟩
      · next hplain =>
        split
        · exact ⟨by decide, by rintro ⟨⟩⟩
        · exact ⟨by decide, fun _ => ⟨by simpa using henabled, hhandoff.1, hhandoff.2,
            by simpa using hplain⟩⟩
    · exact ⟨by decide, by rintro ⟨⟩⟩

theorem executeDecision_traced (hothers : Others weather)
    (hunrequested : runtime.view.restartRequestTurnId = none)
    (hunpending : runtime.pendingTurnId = none) (hrunning : runtime.shutdownRequested = false) :
    Triple weather (At past AllQuiet) (executeDecision path names interruptTurn runtime)
      (Traced past runtime Bool) := by
  refine Triple.bind (look_quietly hothers).first fun active => ?_
  obtain ⟨hinterrupt, hstart⟩ := @decideManagerAction_cases runtime.view active hunrequested
  dsimp only
  revert hinterrupt hstart
  cases (decideManagerAction runtime.view active).action with
  | stop => exact fun _ _ => Quietly.pure.traced_first
  | wait => exact fun _ _ => Quietly.pure.traced_first
  | start =>
    intro _ hstart
    obtain ⟨henabled, hhandoff, hunmanaged, hplain⟩ := hstart rfl
    exact startTurn_traced hothers
      ⟨henabled, hhandoff, hunmanaged, hunpending, hrunning, hplain⟩
  | resumeGoal => exact fun _ _ => Quietly.raise.traced_first
  | interrupt => exact fun hinterrupt _ => absurd rfl hinterrupt
  | failClosed => exact fun _ _ => (failManager_quietly hothers).traced_first

theorem tickBody_traced (hothers : Others weather)
    (hunrequested : runtime.view.restartRequestTurnId = none) :
    Triple weather (At past AllQuiet) (tickBody path names interruptTurn runtime)
      (Traced past runtime Bool) := by
  refine Triple.bind (look_quietly hothers).first fun request => ?_
  refine Triple.ite (fun _ => (failManager_quietly hothers).traced_first) fun _ => ?_
  cases hpending : runtime.pendingTurnId with
  | some turnId => exact reconcilePendingTurn_traced hothers hpending
  | none =>
    refine Triple.bind (managedOutcome_quietly hothers).first fun ended => ?_
    cases ended with
    | some ended =>
      obtain ⟨turnId, outcome⟩ := ended
      refine Quietly.traced_first (Quietly.bind (resolveTurnOutcome_quietly hothers)
        fun resolution => ?_)
      cases resolution.failureReason with
      | some reasonCode => exact failManager_quietly hothers
      | none => exact Quietly.bind (remember_quietly fun _ => rfl) fun _ => Quietly.pure
    | none =>
      refine Triple.ite (fun hshutdown => handleShutdown_traced hothers hshutdown) fun hrunning => ?_
      refine executeDecision_traced hothers hunrequested hpending ?_
      simpa using hrunning

theorem tickRuntime_traced (hothers : Others weather)
    (hunrequested : runtime.view.restartRequestTurnId = none) :
    Triple weather (At past AllQuiet) (tickRuntime path names interruptTurn runtime)
      (Traced past runtime Bool) := by
  refine Triple.attempt_via (fun _ => At past (Trace past runtime False))
    (tickBody_traced hothers hunrequested) fun error => ?_
  cases error with
  | goal reasonCode =>
    refine Quietly.traced (Quietly.ite ?_ (failManager_quietly hothers))
    exact Quietly.bind (disableSession_quietly hothers) fun _ => Quietly.pure
  | manager reasonCode => exact Quietly.raise.traced
  | service reasonCode => exact Quietly.raise.traced
  | protocol => exact Quietly.raise.traced
  | state failure => exact Quietly.raise.traced

/-- The events of a tick: what it has read, and what it has done about it. -/
inductive TickTrace (path : String) (names : RuntimeNames) (past : List Event) (dying : Prop) :
    List Event → Prop where
  | unread : TickTrace path names past dying []
  | gone : TickTrace path names past dying [.saw none]
  | read {values : PyDict} {runtime : ManagerRuntime} {rest : List Event}
      (hloaded : Loaded path names values runtime)
      (htrace : Trace (past ++ [.saw (some values)]) runtime dying rest) :
      TickTrace path names past dying (.saw (some values) :: rest)

theorem At.read {values : PyDict} {dying : Prop} {world : World}
    (hloaded : Loaded path names values runtime)
    (hat : At (past ++ [.saw (some values)])
      (Trace (past ++ [.saw (some values)]) runtime dying) world) :
    At past (TickTrace path names past dying) world := by
  obtain ⟨hsound, hclaims, tail, htail, htrace⟩ := hat
  refine ⟨hsound, hclaims, _, ?_, .read hloaded htrace⟩
  rw [htail, List.append_assoc]
  rfl

/-- **What a tick does.**  Whatever fails in it and whatever the others do. -/
theorem tick_traced (hothers : Others weather) :
    Triple weather (At past (· = [])) (tick path names interruptTurn)
      ⟨fun _ => At past (TickTrace path names past False),
        fun _ => At past (TickTrace path names past False),
        At past (TickTrace path names past True)⟩ := by
  have hunread : ∀ dying world, At past (· = []) world →
      At past (TickTrace path names past dying) world := by
    intro dying world hat
    refine hat.weaken ?_
    rintro tail rfl
    exact .unread
  refine Triple.bind ((loadRuntime_reads hothers).weaken (fun _ => id) (fun _ _ => id)
    (fun _ => hunread False) (hunread True)) fun loaded => ?_
  cases loaded with
  | none =>
    refine Triple.pure fun world hat => hat.weaken ?_
    rintro tail ⟨before, event, rfl, rfl, hread⟩
    cases event with
    | saw values =>
      cases values with
      | none => exact .gone
      | some values =>
        obtain ⟨found, hfound, -⟩ := hread
        cases hfound
    | wrote values after => exact hread.elim
    | asked request => exact hread.elim
    | accepted threadId turnId => exact hread.elim
  | some runtime =>
    rintro world ⟨hsound, hclaims, tail, htail, before, event, rfl, rfl, hread⟩
    cases event with
    | saw values =>
      cases values with
      | none => cases hread
      | some values =>
        obtain ⟨found, hfound, hloaded⟩ := hread
        cases hfound
        have hat : At (past ++ [.saw (some values)]) AllQuiet world := by
          refine ⟨hsound, hclaims, [], ?_, ?_⟩
          · rw [htail]
            simp
          · rintro event hmem
            cases hmem
        refine (tickRuntime_traced hothers hloaded.unrequested).weaken (fun _ => id)
          (fun _ _ => At.read hloaded) (fun _ _ => At.read hloaded)
          (fun _ => At.read hloaded) world hat
    | wrote values after => exact hread.elim
    | asked request => exact hread.elim
    | accepted threadId turnId => exact hread.elim

end Ticks

end CodexMustWork.ManagedTurns
