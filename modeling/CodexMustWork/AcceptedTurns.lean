import CodexMustWork.TickTraces

/-!
# Turns that the app server has accepted

Runs of ticks: on what grounds a manager asks for a turn to be started or interrupted, and that
it loses no turn which the app server has accepted.
-/

namespace CodexMustWork.ManagedTurns

open DisturbedRuns HookState ExactOwnership

/-! ### The other writers -/

/-- What the others do to the document are writes of it. -/
def Writing (path : String) (weather : Disturbance Place World TurnFailure) : Prop :=
  ∀ place world, (weather.before place world).history = world.history ∧
    (weather.before place world).memory = world.memory ∧
    ∃ remembered writes, (∀ values ∈ remembered, (turnFields values).Consistent) ∧
      (weather.before place world).values =
        (writeMachine.after ⟨path, world.values, remembered⟩ writes).values

/-- The writers of the document keep what a tick relies on. -/
theorem Writing.others {path : String} {weather : Disturbance Place World TurnFailure}
    (hwriting : Writing path weather) : Others weather := by
  refine ⟨fun place world => (hwriting place world).1, fun place world =>
    (hwriting place world).2.1, fun place world hsound => ?_⟩
  obtain ⟨-, -, remembered, writes, hremembered, hvalues⟩ := hwriting place world
  have hfile : RuntimeFile.Sound
      (writeMachine.after ⟨path, world.values, remembered⟩ writes) := by
    refine @Machine.invariant_after _ _ _ writeMachine RuntimeFile.Sound (fun _ => True)
      (fun file write hsound _ => (write_sound hsound write).1) _ _ ⟨hsound, hremembered⟩
      fun _ _ => trivial
  intro values hfound
  exact hfile.present values (hvalues ▸ hfound)

/-! ### Whole runs -/

/-- Every turn accepted in the second list is interrupted somewhere in the first, or the
document has owned it since or was gone. -/
def Accounted (whole : List Event) : List Event → Prop
  | [] => True
  | event :: after =>
      (∀ threadId turnId, event = .accepted threadId turnId →
        .asked (.interruptTurn threadId turnId) ∈ whole ∨ ∃ later ∈ after, later.Settles turnId) ∧
      Accounted whole after

section Runs

variable {path : String} {names : RuntimeNames} {past whole tail : List Event}
  {interruptTurn : ManagerRuntime → PyText → Tick Bool}

theorem Accounted.mono {more : List Event} (haccounted : Accounted whole tail)
    (hmore : ∀ event ∈ whole, event ∈ more) : Accounted more tail := by
  induction tail with
  | nil => trivial
  | cons event after ih =>
    obtain ⟨hevent, hafter⟩ := haccounted
    refine ⟨fun threadId turnId heq => ?_, ih hafter⟩
    exact (hevent threadId turnId heq).imp_left (hmore _)

theorem Accounted.append {more : List Event} (hfirst : Accounted whole tail)
    (hmore : Accounted whole more) : Accounted whole (tail ++ more) := by
  induction tail with
  | nil => exact hmore
  | cons event after ih =>
    obtain ⟨hevent, hafter⟩ := hfirst
    refine ⟨fun threadId turnId heq => ?_, ih hafter⟩
    refine (hevent threadId turnId heq).imp_right ?_
    rintro ⟨later, hmem, hsettles⟩
    exact ⟨later, List.mem_append_left _ hmem, hsettles⟩

theorem Accounted.of_append {before : List Event} (haccounted : Accounted whole (before ++ tail)) :
    Accounted whole tail := by
  induction before with
  | nil => exact haccounted
  | cons event before ih => exact ih haccounted.2

/-- Where no turn is accepted there is nothing to account for. -/
theorem accounted_of_forall (hnone : ∀ event ∈ tail, ∀ threadId turnId,
    event ≠ .accepted threadId turnId) : Accounted whole tail := by
  induction tail with
  | nil => trivial
  | cons event after ih =>
    refine ⟨fun threadId turnId heq => ?_, ih fun other hmem => ?_⟩
    · exact absurd heq (hnone event List.mem_cons_self threadId turnId)
    · exact hnone other (List.mem_cons_of_mem _ hmem)

theorem AllQuiet.accounted (hquiet : AllQuiet tail) : Accounted whole tail := by
  refine accounted_of_forall fun event hmem threadId turnId heq => ?_
  have hevent := hquiet event hmem
  rw [heq] at hevent
  exact hevent

theorem Trace.accounted {runtime : ManagerRuntime} (htrace : Trace past runtime False tail) :
    Accounted (past ++ tail) tail := by
  cases htrace with
  | quiet hquiet => exact AllQuiet.accounted hquiet
  | interrupted hbefore hafter hmay =>
    exact (AllQuiet.accounted hbefore).append ⟨by rintro _ _ ⟨⟩, AllQuiet.accounted hafter⟩
  | refused hbefore hafter hmay =>
    exact (AllQuiet.accounted hbefore).append ⟨by rintro _ _ ⟨⟩, AllQuiet.accounted hafter⟩
  | @accepted before after text turnId hbefore hafter hmay hsettled =>
    refine (AllQuiet.accounted hbefore).append ⟨by rintro _ _ ⟨⟩, ?_, ?_⟩
    · rintro threadId other ⟨⟩
      rcases hsettled with (hasked | hsettles) | hfalse
      · refine Or.inl ?_
        rcases List.mem_append.mp hasked with hpast | hasked
        · exact List.mem_append_left _ hpast
        · simp [hasked]
      · exact Or.inr hsettles
      · exact hfalse.elim
    · refine accounted_of_forall fun event hmem threadId other heq => ?_
      rcases hafter event hmem with hquiet | hasked
      · rw [heq] at hquiet
        exact hquiet
      · rw [heq] at hasked
        cases hasked

theorem TickTrace.accounted (htrace : TickTrace path names past False tail)
    (hpast : Accounted past past) : Accounted (past ++ tail) (past ++ tail) := by
  refine (hpast.mono fun event => List.mem_append_left _).append ?_
  cases htrace with
  | unread => trivial
  | gone => exact ⟨by rintro _ _ ⟨⟩, trivial⟩
  | read hloaded htrace =>
    refine ⟨by rintro _ _ ⟨⟩, ?_⟩
    have haccounted := htrace.accounted
    rwa [List.append_assoc] at haccounted

/-- A fresh engine at a document whose turns are consistent. -/
structure World.Fresh (world : World) : Prop where
  sound : world.Sound
  claims : world.memory.acceptedInterruptClaims = []
  history : world.history = []

/-- What holds between the ticks. -/
structure World.Tidy (world : World) : Prop where
  sound : world.Sound
  claims : world.ClaimsMade
  accounted : Accounted world.history world.history

theorem World.Fresh.tidy {world : World} (hfresh : world.Fresh) : world.Tidy := by
  refine ⟨hfresh.sound, fun threadId turnId hclaim => ?_, ?_⟩
  · rw [hfresh.claims] at hclaim
    cases hclaim
  · rw [hfresh.history]
    trivial

theorem World.Tidy.at {world : World} (htidy : world.Tidy) :
    At world.history (· = []) world :=
  ⟨htidy.sound, htidy.claims, [], (List.append_nil _).symm, rfl⟩

theorem At.tidy {world : World} (hpast : Accounted past past)
    (hat : At past (TickTrace path names past False) world) : world.Tidy := by
  obtain ⟨hsound, hclaims, tail, htail, htrace⟩ := hat
  refine ⟨hsound, hclaims, ?_⟩
  rw [htail]
  exact htrace.accounted hpast

theorem ticks_tidy {weathers : List (Disturbance Place World TurnFailure)}
    (hothers : ∀ weather ∈ weathers, Others weather) {world last : World} (htidy : world.Tidy)
    (hticks : ticks path names interruptTurn weathers world = .returned () last) :
    last.Tidy := by
  induction weathers generalizing world with
  | nil =>
    cases hticks
    exact htidy
  | cons weather rest ih =>
    have hrest : ∀ weather ∈ rest, Others weather :=
      fun other hmem => hothers other (List.mem_cons_of_mem _ hmem)
    have htraced := @tick_traced path names weather world.history interruptTurn
      (hothers weather List.mem_cons_self) world htidy.at
    unfold ticks at hticks
    cases hend : tick path names interruptTurn weather world with
    | returned value next =>
      rw [hend] at hticks htraced
      exact ih hrest (At.tidy htidy.accounted htraced) hticks
    | raised error next =>
      rw [hend] at hticks htraced
      exact ih hrest (At.tidy htidy.accounted htraced) hticks
    | crashed next =>
      rw [hend] at hticks
      cases hticks

end Runs

/-! ### An example -/

def sampleNames : RuntimeNames where
  ownsPath _ := true
  resolveRolloutPath path := .ok path
  fromisoformat _ := .invalid

/-- The session of `sampleEnable`, whose activation turn has ended, and an app server that
accepts the turn `b`. -/
def sampleWorld : World where
  values := (writeMachine.after ⟨"path", none, []⟩ [.enable sampleEnable,
    .update (.managerReady 7), .update (.bind (pyText "a") (pyText "now") (pyText "i")),
    .update (.complete (pyText "a"))]).values
  server := {
    pendingServerRequest := none
    activeTurn := fun _ => none
    turnOutcome := fun _ => none
    startResult := [(pyText "turn", .dict [(pyText "id", .str (pyText "b"))])]
    turnStarted := fun _ _ => true
    turnCompleted := fun _ => false }
  monotonic := 0
  now := 0
  timestamp := pyText "now"
  identity := pyText "j"
  memory := ⟨false, false, []⟩
  history := []

/-- The record of the accepted turn fails, and another writer comes before the recovery. -/
def sampleWeather : Disturbance Place World TurnFailure where
  before place world :=
    if place = .reload then { world with
      values := (writeMachine.after ⟨"path", world.values, []⟩
        [.update (.managerReady 8)]).values }
    else world
  fault place := if place = .write "pending" then some .protocol else none
  crash _ := false

theorem sampleWeather_writing : Writing "path" sampleWeather := by
  intro place world
  unfold sampleWeather
  dsimp only
  split
  · exact ⟨rfl, rfl, [], _, by rintro values ⟨⟩, rfl⟩
  · exact ⟨rfl, rfl, [], [], by rintro values ⟨⟩, rfl⟩

theorem sampleWorld_fresh : sampleWorld.Fresh := by
  refine ⟨?_, rfl, rfl⟩
  have hfile := runs_sound "path" [.enable sampleEnable, .update (.managerReady 7),
    .update (.bind (pyText "a") (pyText "now") (pyText "i")), .update (.complete (pyText "a"))]
  exact hfile.present

/-- The world after one tick. -/
def sampleLast : World :=
  (ticks "path" sampleNames (fun _ _ => return true) [sampleWeather] sampleWorld).state

theorem sampleLast_ends : ticks "path" sampleNames (fun _ _ => return true) [sampleWeather]
    sampleWorld = .returned () sampleLast := rfl

theorem sampleLast_accepted : sampleLast.history = sampleLast.history.take 3 ++
    .accepted (pyText "s") (pyText "b") :: sampleLast.history.drop 4 := rfl

section Runs

variable {path : String} {names : RuntimeNames}
  {interruptTurn : ManagerRuntime → PyText → Tick Bool}

/-- **No accepted turn is lost.**  However many ticks a manager makes, whatever fails in them
    and whatever the other writers of the document, the app server and the clocks do in
    between: of a turn that the app server has accepted, the interrupt is asked for, or the
    document has owned it since, or was gone when the turn was to be recorded. -/
theorem accepted_accounted {weathers : List (Disturbance Place World TurnFailure)}
    (hwriting : ∀ weather ∈ weathers, Writing path weather) {world last : World}
    (hfresh : world.Fresh)
    (hticks : ticks path names interruptTurn weathers world = .returned () last)
    {before after : List Event} {threadId turnId : PyText}
    (haccepted : last.history = before ++ .accepted threadId turnId :: after) :
    .asked (.interruptTurn threadId turnId) ∈ last.history ∨
      ∃ event ∈ after, event.Settles turnId := by
  have htidy := ticks_tidy (fun weather hmem => (hwriting weather hmem).others) hfresh.tidy hticks
  have haccounted := htidy.accounted
  rw [haccepted] at haccounted ⊢
  exact haccounted.of_append.1 threadId turnId rfl

theorem accepted_accounted_sample :
    .asked (.interruptTurn (pyText "s") (pyText "b")) ∈ sampleLast.history ∨
      ∃ event ∈ sampleLast.history.drop 4, event.Settles (pyText "b") :=
  accepted_accounted (List.forall_mem_singleton.mpr sampleWeather_writing) sampleWorld_fresh
    sampleLast_ends sampleLast_accepted

end Runs

/-! ### What a tick asks for -/

def Event.isStart : Event → Bool
  | .asked (.startTurn _ _) => true
  | _ => false

/-- The grounds on which a tick that has read `runtime` asks for what it asks. -/
structure Grounded (runtime : ManagerRuntime) (rest : List Event) : Prop where
  starts : ∀ threadId text, .asked (.startTurn threadId text) ∈ rest →
    threadId = runtime.sessionId ∧ runtime.MayStart
  once : rest.countP Event.isStart ≤ 1
  interrupts : ∀ before after threadId turnId,
    rest = before ++ .asked (.interruptTurn threadId turnId) :: after →
      threadId = runtime.sessionId ∧
        (runtime.MayInterrupt turnId before ∨ .accepted threadId turnId ∈ before)

section Grounds

variable {path : String} {names : RuntimeNames} {past tail : List Event}
  {runtime : ManagerRuntime}

theorem AllQuiet.no_start (hquiet : AllQuiet tail) : tail.countP Event.isStart = 0 := by
  rw [List.countP_eq_zero]
  intro event hmem hstart
  have hevent := hquiet event hmem
  unfold Event.isStart at hstart
  split at hstart
  · exact hevent
  · cases hstart

theorem AfterAccepted.no_start {threadId turnId : PyText}
    (hafter : AfterAccepted threadId turnId tail) : tail.countP Event.isStart = 0 := by
  rw [List.countP_eq_zero]
  intro event hmem hstart
  rcases hafter event hmem with hevent | rfl
  · unfold Event.isStart at hstart
    split at hstart
    · exact hevent
    · cases hstart
  · cases hstart

/-- An event that binds somebody comes after those that bind nobody. -/
theorem AllQuiet.split {first rest before after : List Event} {event : Event}
    (hquiet : AllQuiet first) (hevent : ¬ event.Quiet)
    (hsplit : first ++ rest = before ++ event :: after) :
    ∃ extra, before = first ++ extra ∧ rest = extra ++ event :: after := by
  rcases List.append_eq_append_iff.mp hsplit with ⟨extra, hbefore, hrest⟩ | ⟨extra, hfirst, hrest⟩
  · exact ⟨extra, hbefore, hrest⟩
  · cases extra with
    | nil =>
      refine ⟨[], ?_, hrest.symm⟩
      rw [hfirst, List.append_nil, List.append_nil]
    | cons other extra =>
      cases hrest
      refine (hevent (hquiet event ?_)).elim
      rw [hfirst]
      exact List.mem_append_right _ List.mem_cons_self

theorem AllQuiet.no_interrupt {before after : List Event} {threadId turnId : PyText}
    (hquiet : AllQuiet tail)
    (hsplit : tail = before ++ .asked (.interruptTurn threadId turnId) :: after) : False := by
  have hmem : .asked (.interruptTurn threadId turnId) ∈ tail := by
    rw [hsplit]
    exact List.mem_append_right _ List.mem_cons_self
  exact hquiet _ hmem

theorem Trace.grounded {dying : Prop} (htrace : Trace past runtime dying tail) :
    Grounded runtime tail := by
  cases htrace with
  | quiet hquiet =>
    refine ⟨fun threadId text hmem => (hquiet _ hmem).elim, ?_,
      fun before after threadId turnId hsplit => (AllQuiet.no_interrupt hquiet hsplit).elim⟩
    rw [AllQuiet.no_start hquiet]
    exact Nat.zero_le 1
  | @interrupted before after turnId hbefore hafter hmay =>
    refine ⟨fun threadId text hmem => ?_, ?_, fun first last threadId other hsplit => ?_⟩
    · simp only [List.mem_append, List.mem_cons, Event.asked.injEq, reduceCtorEq,
        false_or] at hmem
      exact (hmem.elim (hbefore _) (hafter _)).elim
    · rw [List.countP_append, List.countP_cons, AllQuiet.no_start hbefore,
        AllQuiet.no_start hafter]
      exact Nat.zero_le 1
    · obtain ⟨extra, rfl, hrest⟩ := AllQuiet.split hbefore id hsplit
      cases extra with
      | nil =>
        cases hrest
        rw [List.append_nil]
        exact ⟨rfl, Or.inl hmay⟩
      | cons event extra =>
        cases hrest
        exact (AllQuiet.no_interrupt hafter rfl).elim
  | @refused before after text hbefore hafter hmay =>
    refine ⟨fun threadId other hmem => ?_, ?_, fun first last threadId turnId hsplit => ?_⟩
    · simp only [List.mem_append, List.mem_cons, Event.asked.injEq,
        Request.startTurn.injEq] at hmem
      rcases hmem with hmem | ⟨rfl, -⟩ | hmem
      · exact (hbefore _ hmem).elim
      · exact ⟨rfl, hmay⟩
      · exact (hafter _ hmem).elim
    · rw [List.countP_append, List.countP_cons, AllQuiet.no_start hbefore,
        AllQuiet.no_start hafter]
      exact Nat.le_refl 1
    · obtain ⟨extra, rfl, hrest⟩ := AllQuiet.split hbefore id hsplit
      cases extra with
      | nil => cases hrest
      | cons event extra =>
        cases hrest
        exact (AllQuiet.no_interrupt hafter rfl).elim
  | @accepted before after text turnId hbefore hafter hmay hsettled =>
    refine ⟨fun threadId other hmem => ?_, ?_, fun first last threadId other hsplit => ?_⟩
    · simp only [List.mem_append, List.mem_cons, Event.asked.injEq, Request.startTurn.injEq,
        reduceCtorEq, false_or] at hmem
      rcases hmem with hmem | ⟨rfl, -⟩ | hmem
      · exact (hbefore _ hmem).elim
      · exact ⟨rfl, hmay⟩
      · rcases hafter _ hmem with hquiet | heq
        · exact hquiet.elim
        · cases heq
    · rw [List.countP_append, List.countP_cons, List.countP_cons, AllQuiet.no_start hbefore,
        AfterAccepted.no_start hafter]
      exact Nat.le_refl 1
    · obtain ⟨extra, rfl, hrest⟩ := AllQuiet.split hbefore id hsplit
      cases extra with
      | nil => cases hrest
      | cons event extra =>
        cases extra with
        | nil => cases hrest
        | cons accepted extra =>
          cases hrest
          have hmem : .asked (.interruptTurn threadId other) ∈
              extra ++ .asked (.interruptTurn threadId other) :: last :=
            List.mem_append_right _ List.mem_cons_self
          rcases hafter _ hmem with hquiet | heq
          · exact hquiet.elim
          · cases heq
            exact ⟨rfl, Or.inr (List.mem_append_right _ (List.mem_cons_of_mem _
              List.mem_cons_self))⟩

/-- **On what grounds a tick asks.**  In every run, whatever fails and whatever the others do, a
    tick that has read nothing, or no document, asks for nothing.  One that has read a document
    asks for at most one turn to be started, and only where the document says that the
    session is managed and waits for one, with no turn owned or accepted and no shutdown;
    and it asks for a turn to be interrupted only where a shutdown interrupts what the
    document manages, or after it has itself withdrawn a pending turn that has timed out, or
    after the turn was accepted in this tick. -/
theorem tick_grounded {interruptTurn : ManagerRuntime → PyText → Tick Bool}
    {weathers : List (Disturbance Place World TurnFailure)}
    (hwriting : ∀ weather ∈ weathers, Writing path weather) {world last : World}
    (hfresh : world.Fresh)
    (hticks : ticks path names interruptTurn weathers world = .returned () last)
    {weather : Disturbance Place World TurnFailure} (hweather : Writing path weather) :
    ∃ tail, (tick path names interruptTurn weather last).state.history = last.history ++ tail ∧
      (tail = [] ∨ tail = [.saw none] ∨ ∃ values runtime rest,
        tail = .saw (some values) :: rest ∧
          loadManagerRuntime path names values = .ok runtime ∧ Grounded runtime rest) := by
  have htidy := ticks_tidy (fun weather hmem => (hwriting weather hmem).others) hfresh.tidy hticks
  have htraced := @tick_traced path names weather last.history interruptTurn hweather.others last
    htidy.at
  have hends : ∃ dying, At last.history (TickTrace path names last.history dying)
      (tick path names interruptTurn weather last).state := by
    revert htraced
    cases tick path names interruptTurn weather last with
    | returned value next => exact fun hat => ⟨_, hat⟩
    | raised error next => exact fun hat => ⟨_, hat⟩
    | crashed next => exact fun hat => ⟨_, hat⟩
  obtain ⟨dying, -, -, tail, htail, htrace⟩ := hends
  refine ⟨tail, htail, ?_⟩
  cases htrace with
  | unread => exact Or.inl rfl
  | gone => exact Or.inr (Or.inl rfl)
  | read hloaded htrace => exact Or.inr (Or.inr ⟨_, _, _, rfl, hloaded.2, htrace.grounded⟩)

theorem tick_grounded_sample :
    ∃ tail, (tick "path" sampleNames (fun _ _ => return true) sampleWeather
        sampleLast).state.history = sampleLast.history ++ tail ∧
      (tail = [] ∨ tail = [.saw none] ∨ ∃ values runtime rest,
        tail = .saw (some values) :: rest ∧
          loadManagerRuntime "path" sampleNames values = .ok runtime ∧ Grounded runtime rest) :=
  tick_grounded (List.forall_mem_singleton.mpr sampleWeather_writing) sampleWorld_fresh
    sampleLast_ends sampleWeather_writing

end Grounds

end CodexMustWork.ManagedTurns
