import CodexMustWork.AppServerEvents
import CodexMustWork.Library.RetainedLog

/-!
# Finished turns and the capacity of a connection

The outcomes are the latest of a log of the completions.  A turn whose outcome is retained
has no live correlation as long as nothing correlates it again, and this is all that can
break it: such a turn keeps its place in the table of the correlations for ever.
-/

namespace CodexMustWork.AppServerEvents

/-! ### What a call says about a turn -/

/-- The turn of a notification. -/
def notified (method : String) (message : PyDict) : Option (PyDict × PyText) :=
  if string message "id" = none ∧ string message "method" = some (pyText method) then
    (object message "params").bind fun params => (turnId params).map fun turn => (params, turn)
  else none

/-- The thread and the turn that a call correlates. -/
def Call.correlates : Call → Option (PyText × PyText)
  | .record message => (notified "turn/started" message).bind fun found =>
      (threadId found.1).map fun thread => (thread, found.2)
  | .bindStartedTurn thread turn => some (thread, turn)
  | .correlateTurn thread turn => some (thread, turn)
  | .threadForTurn _ => none

/-- The completion that a call reports. -/
def Call.completes : Call → Option (PyText × TurnOutcome)
  | .record message => (notified "turn/completed" message).map fun found =>
      (found.2, turnOutcome found.1)
  | _ => none

/-! ### The sweep -/

namespace AppServerEventState

variable {state next : AppServerEventState} {turn other thread : PyText} {now : ℚ}

theorem get_forget (state : AppServerEventState) (turn other : PyText) :
    (state.forget turn).turnCorrelations.get other =
      if other = turn then none else state.turnCorrelations.get other := by
  unfold forget
  split
  · next hget =>
    split
    · next hsame => rw [hsame, hget]
    · rfl
  · exact OrderedTable.get_erase _ _ _

theorem get_foldl_forget (turns : List PyText) (state : AppServerEventState) (other : PyText) :
    (turns.foldl forget state).turnCorrelations.get other =
      if other ∈ turns then none else state.turnCorrelations.get other := by
  induction turns generalizing state with
  | nil => rfl
  | cons turn rest ih =>
    rw [List.foldl_cons, ih, get_forget]
    by_cases hrest : other ∈ rest
    · rw [if_pos hrest, if_pos (List.mem_cons_of_mem _ hrest)]
    · rw [if_neg hrest]
      by_cases hsame : other = turn
      · rw [if_pos hsame, if_pos (List.mem_cons.mpr (Or.inl hsame))]
      · rw [if_neg hsame, if_neg fun hmem => (List.mem_cons.mp hmem).elim hsame hrest]

theorem mem_expired_iff : turn ∈ state.expired now ↔
    ∃ correlation, state.turnCorrelations.get turn = some correlation ∧
      correlation.isExpired now = true := by
  unfold expired
  rw [List.mem_map]
  constructor
  · rintro ⟨entry, hmem, rfl⟩
    obtain ⟨hentry, hexpired⟩ := List.mem_filter.mp hmem
    exact ⟨entry.2, OrderedTable.mem_entries_iff.mp hentry, hexpired⟩
  · rintro ⟨correlation, hget, hexpired⟩
    refine ⟨(turn, correlation), ?_, rfl⟩
    exact List.mem_filter.mpr ⟨OrderedTable.mem_entries_iff.mpr hget, hexpired⟩

/-- What a sweep leaves. -/
theorem get_expireCorrelations {correlation : TurnCorrelation} :
    (state.expireCorrelations now).turnCorrelations.get turn = some correlation ↔
      state.turnCorrelations.get turn = some correlation ∧ correlation.isExpired now = false := by
  unfold expireCorrelations
  rw [get_foldl_forget]
  split
  · next hmem =>
    obtain ⟨found, hget, hexpired⟩ := mem_expired_iff.mp hmem
    refine iff_of_false (by rintro ⟨⟩) ?_
    rintro ⟨hsame, hfresh⟩
    rw [hget] at hsame
    cases hsame
    rw [hexpired] at hfresh
    cases hfresh
  · next hmem =>
    refine ⟨fun hget => ⟨hget, ?_⟩, And.left⟩
    exact Bool.eq_false_iff.mpr fun hexpired => hmem (mem_expired_iff.mpr ⟨_, hget, hexpired⟩)

theorem outcomes_forget (state : AppServerEventState) (turn : PyText) :
    (state.forget turn).turnOutcomes = state.turnOutcomes ∧
      (state.forget turn).completedTurns = state.completedTurns := by
  unfold forget
  split <;> exact ⟨rfl, rfl⟩

theorem outcomes_foldl_forget (turns : List PyText) (state : AppServerEventState) :
    (turns.foldl forget state).turnOutcomes = state.turnOutcomes ∧
      (turns.foldl forget state).completedTurns = state.completedTurns := by
  induction turns generalizing state with
  | nil => exact ⟨rfl, rfl⟩
  | cons turn rest ih =>
    obtain ⟨houtcomes, hcompleted⟩ := outcomes_forget state turn
    obtain ⟨houtcomes', hcompleted'⟩ := ih (state.forget turn)
    exact ⟨houtcomes'.trans houtcomes, hcompleted'.trans hcompleted⟩

/-! ### One call -/

/-- The outcomes are those of another state. -/
def SameOutcomes (next state : AppServerEventState) : Prop :=
  next.turnOutcomes = state.turnOutcomes ∧ next.completedTurns = state.completedTurns

theorem expireCorrelations_outcomes (state : AppServerEventState) (now : ℚ) :
    (state.expireCorrelations now).SameOutcomes state :=
  outcomes_foldl_forget _ state

/-- A correlation of the turn is refused. -/
def Refused (state : AppServerEventState) (turn : PyText) (now : ℚ) : Prop :=
  (state.expireCorrelations now).isFull turn = true

/-- The tables after a correlation. -/
def Correlated (next state : AppServerEventState) (thread turn : PyText) (now : ℚ) : Prop :=
  next.SameOutcomes state ∧ next.turnCorrelations =
    if (state.expireCorrelations now).isFull turn then
      (state.expireCorrelations now).turnCorrelations
    else (state.expireCorrelations now).turnCorrelations.set turn ⟨thread, now, true⟩

theorem correlateTurn_correlated (state : AppServerEventState) (thread turn : PyText) (now : ℚ) :
    (state.correlateTurn thread turn now).1.Correlated state thread turn now ∧
      (state.correlateTurn thread turn now).2 =
        if (state.expireCorrelations now).isFull turn then some "app_server_correlation_capacity"
        else none := by
  have hsame := expireCorrelations_outcomes state now
  unfold correlateTurn Correlated
  dsimp only
  split
  · exact ⟨⟨hsame, rfl⟩, rfl⟩
  · exact ⟨⟨hsame, rfl⟩, rfl⟩

theorem forget_congr {first second : AppServerEventState}
    (hsame : first.turnCorrelations = second.turnCorrelations) (turn : PyText) :
    (first.forget turn).turnCorrelations = (second.forget turn).turnCorrelations := by
  unfold forget
  rw [hsame]
  split
  · exact hsame
  · rfl

/-- A sweep reads nothing but the correlations. -/
theorem expireCorrelations_congr {first second : AppServerEventState}
    (hsame : first.turnCorrelations = second.turnCorrelations) (now : ℚ) :
    (first.expireCorrelations now).turnCorrelations =
      (second.expireCorrelations now).turnCorrelations := by
  have hfold : ∀ (turns : List PyText) (first second : AppServerEventState),
      first.turnCorrelations = second.turnCorrelations →
      (turns.foldl forget first).turnCorrelations =
        (turns.foldl forget second).turnCorrelations := by
    intro turns
    induction turns with
    | nil => exact fun _ _ hsame => hsame
    | cons turn rest ih => exact fun first second hsame => ih _ _ (forget_congr hsame turn)
  unfold expireCorrelations expired
  rw [hsame]
  exact hfold _ first second hsame

theorem isFull_congr {first second : AppServerEventState}
    (hsame : first.turnCorrelations = second.turnCorrelations) (turn : PyText) :
    first.isFull turn = second.isFull turn := by
  unfold isFull
  rw [hsame]

theorem Correlated.of_same {between : AppServerEventState}
    (hcorrelated : next.Correlated between thread turn now)
    (hsame : between.turnCorrelations = state.turnCorrelations)
    (houtcomes : between.SameOutcomes state) : next.Correlated state thread turn now := by
  have hswept := expireCorrelations_congr hsame now
  refine ⟨⟨hcorrelated.1.1.trans houtcomes.1, hcorrelated.1.2.trans houtcomes.2⟩, ?_⟩
  rw [hcorrelated.2, isFull_congr hswept, hswept]

/-! ### What a call can do -/

/-- A call correlates a turn: it is refused, or the turn's correlation lives from now on. -/
def StepCorrelates (state next : AppServerEventState) (input : Step) (reply : Reply) : Prop :=
  ∃ thread turn, input.call.correlates = some (thread, turn) ∧ input.call.completes = none ∧
    next.Correlated state thread turn input.now ∧
    (reply = .raised "app_server_correlation_capacity" ↔ state.Refused turn input.now)

/-- A call reports a completion. -/
def StepCompletes (state next : AppServerEventState) (input : Step) (reply : Reply) : Prop :=
  ∃ turn outcome, input.call.correlates = none ∧ input.call.completes = some (turn, outcome) ∧
    next.SameOutcomes (state.rememberOutcome turn outcome) ∧
    next.turnCorrelations = state.completedCorrelations turn input.now ∧ reply = .done

/-- A call does neither, but can sweep. -/
def StepReads (state next : AppServerEventState) (input : Step) (reply : Reply) : Prop :=
  input.call.correlates = none ∧ input.call.completes = none ∧ next.SameOutcomes state ∧
    (next.turnCorrelations = state.turnCorrelations ∨
      next.turnCorrelations = (state.expireCorrelations input.now).turnCorrelations) ∧
    ∀ message, reply ≠ .raised message

theorem bindStartedTurn_correlated (state : AppServerEventState) (thread turn : PyText) (now : ℚ) :
    (state.bindStartedTurn thread turn now).1.Correlated state thread turn now ∧
      ((state.bindStartedTurn thread turn now).2 = .raised "app_server_correlation_capacity" ↔
        state.Refused turn now) := by
  obtain ⟨hcorrelated, hmessage⟩ := correlateTurn_correlated state thread turn now
  unfold bindStartedTurn Refused
  split
  · next correlated message hresult =>
    rw [hresult] at hcorrelated hmessage
    refine ⟨hcorrelated, ?_⟩
    split at hmessage
    · next hfull => exact iff_of_true (congrArg Reply.raised (Option.some.inj hmessage)) hfull
    · cases hmessage
  · next correlated hresult =>
    rw [hresult] at hcorrelated hmessage
    have hroom : ¬ (state.expireCorrelations now).isFull turn = true := by
      intro hfull
      rw [if_pos hfull] at hmessage
      cases hmessage
    split
    · exact ⟨hcorrelated, iff_of_false (by rintro ⟨⟩) hroom⟩
    · split
      · exact ⟨hcorrelated, iff_of_false (by rintro ⟨⟩) hroom⟩
      · exact ⟨hcorrelated, iff_of_false (by rintro ⟨⟩) hroom⟩

theorem recordStarted_correlated (state : AppServerEventState) (thread turn : PyText) (now : ℚ) :
    (state.recordStarted (some thread) turn now).1.Correlated state thread turn now ∧
      ((state.recordStarted (some thread) turn now).2 =
        .raised "app_server_correlation_capacity" ↔ state.Refused turn now) := by
  have hstarted := correlateTurn_correlated
    { state with startedTurns := insert turn state.startedTurns } thread turn now
  obtain ⟨hcorrelated, hmessage⟩ := hstarted
  have hswept : (expireCorrelations { state with
      startedTurns := insert turn state.startedTurns } now).turnCorrelations =
        (state.expireCorrelations now).turnCorrelations := by
    apply expireCorrelations_congr
    rfl
  rw [isFull_congr hswept] at hmessage
  have hfrom : AppServerEventState.Correlated _ state thread turn now :=
    hcorrelated.of_same rfl ⟨rfl, rfl⟩
  unfold recordStarted Refused
  dsimp only
  split
  · next correlated message hresult =>
    rw [hresult] at hfrom hmessage
    refine ⟨hfrom, ?_⟩
    split at hmessage
    · next hfull => exact iff_of_true (congrArg Reply.raised (Option.some.inj hmessage)) hfull
    · cases hmessage
  · next correlated hresult =>
    rw [hresult] at hfrom hmessage
    refine ⟨hfrom, iff_of_false nofun fun hfull => ?_⟩
    rw [if_pos hfull] at hmessage
    cases hmessage

theorem notified_started_ne {message : PyDict} {found : PyDict × PyText}
    (hstarted : notified "turn/started" message = some found) :
    notified "turn/completed" message = none := by
  unfold notified at hstarted ⊢
  split at hstarted
  · next hmethod =>
    refine if_neg fun hother => ?_
    rw [hmethod.2, Option.some_inj, pyText_inj] at hother
    exact absurd hother.2 (by decide)
  · cases hstarted

theorem record_of_started {message params : PyDict}
    (hnotified : notified "turn/started" message = some (params, turn)) :
    state.record message now = state.recordStarted (threadId params) turn now := by
  unfold notified at hnotified
  split at hnotified
  · next hmethod =>
    obtain ⟨found, hparams, hturn⟩ := Option.bind_eq_some_iff.mp hnotified
    obtain ⟨turn', hturn', hpair⟩ := Option.map_eq_some_iff.mp hturn
    cases hpair
    unfold record
    rw [hmethod.1, hmethod.2]
    dsimp only
    rw [hparams]
    dsimp only
    unfold recordNotification
    rw [hturn']
    dsimp only
    rw [if_pos rfl]
  · cases hnotified

theorem record_of_completed {message params : PyDict}
    (hnotified : notified "turn/completed" message = some (params, turn)) :
    state.record message now =
      (state.recordCompleted (threadId params) turn (turnOutcome params) now, .done) := by
  unfold notified at hnotified
  split at hnotified
  · next hmethod =>
    obtain ⟨found, hparams, hturn⟩ := Option.bind_eq_some_iff.mp hnotified
    obtain ⟨turn', hturn', hpair⟩ := Option.map_eq_some_iff.mp hturn
    cases hpair
    have hother : pyText "turn/completed" ≠ pyText "turn/started" := by
      rw [Ne, pyText_inj]
      decide
    unfold record
    rw [hmethod.1, hmethod.2]
    dsimp only
    rw [hparams]
    dsimp only
    unfold recordNotification
    rw [hturn']
    dsimp only
    rw [if_neg hother, if_pos rfl]
  · cases hnotified

/-- Any other message leaves the turns alone. -/
theorem record_of_neither (state : AppServerEventState) (now : ℚ) {message : PyDict}
    (hstarted : notified "turn/started" message = none)
    (hcompleted : notified "turn/completed" message = none) :
    (state.record message now).1.SameOutcomes state ∧
      (state.record message now).1.turnCorrelations = state.turnCorrelations ∧
      (state.record message now).2 = .done := by
  unfold record
  split
  · split
    · exact ⟨⟨rfl, rfl⟩, rfl, rfl⟩
    · split <;> exact ⟨⟨rfl, rfl⟩, rfl, rfl⟩
  · next method hid hmethod =>
    split
    · next params hparams =>
      unfold recordNotification
      split
      · next turn hturn =>
        have hfound : ∀ name : String, method = pyText name →
            notified name message = some (params, turn) := by
          rintro name rfl
          unfold notified
          rw [if_pos ⟨hid, hmethod⟩, hparams, Option.bind_some, hturn]
          rfl
        split
        · next hname =>
          rw [hfound _ hname] at hstarted
          cases hstarted
        · split
          · next hname =>
            rw [hfound _ hname] at hcompleted
            cases hcompleted
          · exact ⟨⟨rfl, rfl⟩, rfl, rfl⟩
      · exact ⟨⟨rfl, rfl⟩, rfl, rfl⟩
    · exact ⟨⟨rfl, rfl⟩, rfl, rfl⟩
  · exact ⟨⟨rfl, rfl⟩, rfl, rfl⟩

theorem rememberOutcome_correlations (state : AppServerEventState) (turn : PyText)
    (outcome : TurnOutcome) :
    (state.rememberOutcome turn outcome).turnCorrelations = state.turnCorrelations := by
  unfold rememberOutcome
  split
  · rfl
  · dsimp only
    split
    · split <;> rfl
    · rfl

/-- What is remembered depends on nothing but what was. -/
theorem rememberOutcome_same {first second : AppServerEventState} {outcome : TurnOutcome}
    (hsame : first.SameOutcomes second) :
    (first.rememberOutcome turn outcome).SameOutcomes (second.rememberOutcome turn outcome) := by
  unfold rememberOutcome
  rw [hsame.1, hsame.2]
  split
  · exact hsame
  · dsimp only
    split
    · split <;> exact ⟨rfl, rfl⟩
    · exact ⟨rfl, rfl⟩

theorem step_cases (state : AppServerEventState) (input : Step) :
    StepCorrelates state (state.step input).1 input (state.step input).2 ∨
      StepCompletes state (state.step input).1 input (state.step input).2 ∨
      StepReads state (state.step input).1 input (state.step input).2 := by
  obtain ⟨now, call⟩ := input
  cases call with
  | record message =>
    change StepCorrelates state (state.record message now).1 _ (state.record message now).2 ∨
      StepCompletes state (state.record message now).1 _ (state.record message now).2 ∨
      StepReads state (state.record message now).1 _ (state.record message now).2
    cases hstarted : notified "turn/started" message with
    | some found =>
      obtain ⟨params, turn⟩ := found
      have hcompletes : (Call.record message).completes = none := by
        rw [Call.completes, notified_started_ne hstarted]
        rfl
      rw [record_of_started hstarted]
      cases hthread : threadId params with
      | none =>
        refine Or.inr (Or.inr ⟨?_, hcompletes, ⟨rfl, rfl⟩, Or.inl rfl, nofun⟩)
        rw [Call.correlates, hstarted, Option.bind_some, hthread]
        rfl
      | some thread =>
        obtain ⟨hcorrelated, hreply⟩ := recordStarted_correlated state thread turn now
        refine Or.inl ⟨thread, turn, ?_, hcompletes, hcorrelated, hreply⟩
        rw [Call.correlates, hstarted, Option.bind_some, hthread]
        rfl
    | none =>
      have hcorrelates : (Call.record message).correlates = none := by
        rw [Call.correlates, hstarted]
        rfl
      cases hcompleted : notified "turn/completed" message with
      | some found =>
        obtain ⟨params, turn⟩ := found
        rw [record_of_completed hcompleted]
        refine Or.inr (Or.inl ⟨turn, turnOutcome params, hcorrelates, ?_, ?_, ?_, rfl⟩)
        · rw [Call.completes, hcompleted]
          rfl
        · exact rememberOutcome_same ⟨rfl, rfl⟩
        · exact rememberOutcome_correlations _ _ _
      | none =>
        obtain ⟨hsame, hcorrelations, hreply⟩ :=
          record_of_neither state now hstarted hcompleted
        refine Or.inr (Or.inr ⟨hcorrelates, ?_, hsame, Or.inl hcorrelations, ?_⟩)
        · rw [Call.completes, hcompleted]
          rfl
        · rw [hreply]
          exact nofun
  | bindStartedTurn thread turn =>
    obtain ⟨hcorrelated, hreply⟩ := bindStartedTurn_correlated state thread turn now
    exact Or.inl ⟨thread, turn, rfl, rfl, hcorrelated, hreply⟩
  | correlateTurn thread turn =>
    obtain ⟨hcorrelated, hmessage⟩ := correlateTurn_correlated state thread turn now
    refine Or.inl ⟨thread, turn, rfl, rfl, ?_⟩
    unfold step Refused
    dsimp only
    split
    · next message hresult =>
      rw [hresult] at hcorrelated hmessage
      refine ⟨hcorrelated, ?_⟩
      split at hmessage
      · next hfull => exact iff_of_true (congrArg Reply.raised (Option.some.inj hmessage)) hfull
      · cases hmessage
    · next hresult =>
      rw [hresult] at hcorrelated hmessage
      refine ⟨hcorrelated, iff_of_false nofun fun hfull => ?_⟩
      rw [if_pos hfull] at hmessage
      cases hmessage
  | threadForTurn turn =>
    exact Or.inr (Or.inr ⟨rfl, rfl, expireCorrelations_outcomes state now, Or.inr rfl, nofun⟩)

/-! ### The outcomes are a log -/

/-- The retained outcomes are the latest of a log. -/
def Logged (state : AppServerEventState) (log : List (PyText × TurnOutcome)) : Prop :=
  state.turnOutcomes.entries = RetainedLog.latest maxRetainedTurnOutcomes log ∧
    state.completedTurns = (RetainedLog.latest maxRetainedTurnOutcomes log).map Prod.fst

theorem Logged.of_same {log : List (PyText × TurnOutcome)} (hlogged : state.Logged log)
    (hsame : next.SameOutcomes state) : next.Logged log :=
  ⟨hsame.1 ▸ hlogged.1, hsame.2 ▸ hlogged.2⟩

theorem isSome_get_iff (table : OrderedTable PyText TurnOutcome) (turn : PyText) :
    (table.get turn).isSome = true ↔ turn ∈ table.entries.map Prod.fst :=
  Option.isSome_iff_exists.trans OrderedTable.mem_keys_iff.symm

/-- Taking the first key out leaves the others. -/
theorem entries_erase_first {table : OrderedTable PyText TurnOutcome}
    {first last : PyText × TurnOutcome} {rest : List (PyText × TurnOutcome)}
    (hentries : table.entries = first :: rest ++ [last])
    (hnodup : ((first :: rest).map Prod.fst).Nodup)
    (hlast : last.1 ∉ (first :: rest).map Prod.fst) :
    (table.erase first.1).entries = rest ++ [last] := by
  show table.entries.filter (fun entry => decide (entry.1 ≠ first.1)) = _
  have hfirst : ∀ entry ∈ rest ++ [last], decide (entry.1 ≠ first.1) = true := by
    intro entry hentry
    refine decide_eq_true fun hsame => ?_
    rcases List.mem_append.mp hentry with hrest | hentry
    · exact (List.nodup_cons.mp hnodup).1 (hsame ▸ List.mem_map_of_mem hrest)
    · rw [List.mem_singleton.mp hentry] at hsame
      exact hlast (hsame ▸ List.mem_cons_self)
  rw [hentries, List.cons_append, List.filter_cons_of_neg (by simp)]
  exact List.filter_eq_self.mpr hfirst

theorem Logged.remember {log : List (PyText × TurnOutcome)} (hlogged : state.Logged log)
    (turn : PyText) (outcome : TurnOutcome) :
    (state.rememberOutcome turn outcome).Logged
      (RetainedLog.record maxRetainedTurnOutcomes log (turn, outcome)) := by
  obtain ⟨hentries, hcompleted⟩ := hlogged
  have hnodup := state.turnOutcomes.nodup
  have hmem := isSome_get_iff state.turnOutcomes turn
  rw [hentries] at hnodup hmem
  unfold rememberOutcome RetainedLog.record
  split
  · next hthere =>
    rw [if_pos (hmem.mp hthere)]
    exact ⟨hentries, hcompleted⟩
  · next hthere =>
    have hnew : turn ∉ (RetainedLog.latest maxRetainedTurnOutcomes log).map Prod.fst :=
      fun hkey => hthere (hmem.mpr hkey)
    have hset : (state.turnOutcomes.set turn outcome).entries =
        RetainedLog.latest maxRetainedTurnOutcomes log ++ [(turn, outcome)] := by
      show OrderedTable.setEntries state.turnOutcomes.entries turn outcome = _
      rw [OrderedTable.setEntries, hentries, if_neg hnew]
    rw [if_neg hnew]
    unfold Logged
    rw [RetainedLog.latest_concat (by decide)]
    dsimp only
    rw [hcompleted, List.length_append, List.length_map, List.length_singleton]
    cases hlatest : RetainedLog.latest maxRetainedTurnOutcomes log with
    | nil =>
      rw [hlatest] at hset
      exact ⟨hset, rfl⟩
    | cons first rest =>
      rw [hlatest] at hset hnodup hnew
      split
      · next hlong =>
        rw [if_pos (Nat.lt_succ_iff.mp hlong)]
        exact ⟨entries_erase_first hset hnodup hnew, by rw [List.map_append]; rfl⟩
      · next hshort =>
        rw [if_neg fun hlong => hshort (Nat.lt_succ_iff.mpr hlong)]
        exact ⟨hset, by rw [List.map_append]; rfl⟩

/-! ### Finished turns -/

/-- The outcome of the turn is retained. -/
def Retains (state : AppServerEventState) (turn : PyText) : Prop :=
  state.turnOutcomes.get turn ≠ none

/-- No turn whose outcome is retained has a live correlation. -/
def Settled (state : AppServerEventState) : Prop :=
  ∀ turn correlation, state.Retains turn → state.turnCorrelations.get turn = some correlation →
    correlation.live = false

/-- A call correlates a turn whose outcome is retained, and there is room for it. -/
def Revives (state : AppServerEventState) (input : Step) : Prop :=
  ∃ thread turn, input.call.correlates = some (thread, turn) ∧ state.Retains turn ∧
    ¬ state.Refused turn input.now

/-- What is retained behind a completion was retained before it, or is the completion. -/
theorem get_rememberOutcome {outcome found : TurnOutcome}
    (hget : (state.rememberOutcome turn outcome).turnOutcomes.get other = some found) :
    state.turnOutcomes.get other = some found ∨
      other = turn ∧ found = outcome ∧ state.turnOutcomes.get turn = none := by
  have hset : state.turnOutcomes.get turn = none →
      (state.turnOutcomes.set turn outcome).get other = some found →
      state.turnOutcomes.get other = some found ∨
        other = turn ∧ found = outcome ∧ state.turnOutcomes.get turn = none := by
    intro hnew hset
    rcases OrderedTable.mem_set_iff.mp hset with ⟨hsame, hfound⟩ | ⟨_, hold⟩
    · exact Or.inr ⟨hsame, hfound, hnew⟩
    · exact Or.inl hold
  unfold rememberOutcome at hget
  split at hget
  · exact Or.inl hget
  · next hthere =>
    have hnew : state.turnOutcomes.get turn = none := by
      cases hold : state.turnOutcomes.get turn with
      | none => rfl
      | some old =>
        rw [hold] at hthere
        exact absurd rfl hthere
    dsimp only at hget
    split at hget
    · split at hget
      · exact hset hnew hget
      · exact hset hnew (OrderedTable.mem_erase_iff.mp hget).2
    · exact hset hnew hget

theorem get_completedCorrelations {correlation : TurnCorrelation}
    (hget : (state.completedCorrelations turn now).get other = some correlation) :
    (other = turn ∧ correlation.live = false ∧ correlation.observedAt = now) ∨
      (other ≠ turn ∧ state.turnCorrelations.get other = some correlation) := by
  unfold completedCorrelations at hget
  split at hget
  · next found hfound =>
    rcases OrderedTable.mem_set_iff.mp hget with ⟨hsame, rfl⟩ | hold
    · exact Or.inl ⟨hsame, rfl, rfl⟩
    · exact Or.inr hold
  · next hnone =>
    refine Or.inr ⟨?_, hget⟩
    rintro rfl
    rw [hnone] at hget
    cases hget

theorem Settled.sweep (hsettled : state.Settled) (hsame : next.SameOutcomes state)
    (hswept : next.turnCorrelations = state.turnCorrelations ∨
      next.turnCorrelations = (state.expireCorrelations now).turnCorrelations) :
    next.Settled := by
  intro turn correlation hretained hget
  unfold Retains at hretained
  rw [hsame.1] at hretained
  rcases hswept with heq | heq
  · exact hsettled turn correlation hretained (heq ▸ hget)
  · rw [heq] at hget
    exact hsettled turn correlation hretained (get_expireCorrelations.mp hget).1

/-- **One call.**  It leaves a finished turn with a live correlation exactly when it
    correlates one. -/
theorem settled_step_iff (hsettled : state.Settled) (input : Step) :
    (state.step input).1.Settled ↔ ¬ state.Revives input := by
  rcases step_cases state input with
    ⟨thread, turn, hcorrelates, _, ⟨hsame, htable⟩, _⟩ |
    ⟨turn, outcome, hcorrelates, _, hremembered, htable, _⟩ | ⟨hcorrelates, _, hsame, htable, _⟩
  · by_cases hrefused : state.Refused turn input.now
    · refine iff_of_true (hsettled.sweep hsame (Or.inr (htable.trans (if_pos hrefused)))) ?_
      rintro ⟨thread', turn', hother, _, hroom⟩
      rw [hcorrelates] at hother
      cases hother
      exact hroom hrefused
    · replace htable := htable.trans (if_neg hrefused)
      constructor
      · rintro hnext ⟨thread', turn', hother, hretained, _⟩
        rw [hcorrelates] at hother
        cases hother
        have hlive := hnext turn ⟨thread, input.now, true⟩
          (by unfold Retains; rw [hsame.1]; exact hretained)
          (by rw [htable]; exact OrderedTable.get_set_same _ _ _)
        cases hlive
      · intro hkeeps other correlation hretained hget
        have hnew : other ≠ turn := by
          rintro rfl
          refine hkeeps ⟨thread, other, hcorrelates, ?_, hrefused⟩
          unfold Retains at hretained ⊢
          rw [hsame.1] at hretained
          exact hretained
        unfold Retains at hretained
        rw [hsame.1] at hretained
        rw [htable, OrderedTable.get_set_of_ne hnew] at hget
        exact hsettled other correlation hretained (get_expireCorrelations.mp hget).1
  · refine iff_of_true ?_ ?_
    · intro other correlation hretained hget
      rw [htable] at hget
      rcases get_completedCorrelations hget with ⟨_, hended, _⟩ | ⟨hother, hold⟩
      · exact hended
      · refine hsettled other correlation ?_ hold
        unfold Retains at hretained
        rw [hremembered.1] at hretained
        obtain ⟨found, hfound⟩ := Option.ne_none_iff_exists'.mp hretained
        rcases get_rememberOutcome hfound with hfound | ⟨hsame, _⟩
        · exact Option.ne_none_iff_exists'.mpr ⟨found, hfound⟩
        · exact absurd hsame hother
    · rintro ⟨thread', turn', hother, _⟩
      rw [hcorrelates] at hother
      cases hother
  · refine iff_of_true (hsettled.sweep hsame htable) ?_
    rintro ⟨thread', turn', hother, _⟩
    rw [hcorrelates] at hother
    cases hother

/-! ### Expiry and capacity -/

/-- The correlation of a finished turn is gone with the first sweep after its time. -/
def Expires (state : AppServerEventState) : Prop :=
  ∀ now turn correlation, state.Retains turn → state.turnCorrelations.get turn = some correlation →
    correlationExpirySeconds < now - correlation.observedAt →
    (state.expireCorrelations now).turnCorrelations.get turn = none

/-- A correlation is refused only for 2048 turns that have not finished, or finished within
    the window. -/
def RefusesOnlyFull (state : AppServerEventState) : Prop :=
  ∀ input, (state.step input).2 = .raised "app_server_correlation_capacity" →
    ∃ turns : List PyText, turns.Nodup ∧ maxTurnCorrelations ≤ turns.length ∧
      ∀ turn ∈ turns, ∃ correlation, state.turnCorrelations.get turn = some correlation ∧
        (correlation.live = true ∧ ¬ state.Retains turn ∨
          correlation.live = false ∧
            input.now - correlation.observedAt ≤ correlationExpirySeconds)

theorem Settled.expires (hsettled : state.Settled) : state.Expires := by
  intro now turn correlation hretained hget hwindow
  have hended := hsettled turn correlation hretained hget
  refine Option.eq_none_iff_forall_not_mem.mpr fun found hfound => ?_
  obtain ⟨hbefore, hfresh⟩ := get_expireCorrelations.mp hfound
  rw [hget] at hbefore
  cases hbefore
  unfold TurnCorrelation.isExpired at hfresh
  rw [hended, decide_eq_true hwindow] at hfresh
  cases hfresh

theorem Settled.refusesOnlyFull (hsettled : state.Settled) : state.RefusesOnlyFull := by
  intro input hraised
  rcases step_cases state input with
    ⟨thread, turn, _, _, _, hreply⟩ | ⟨turn, outcome, _, _, _, _, hreply⟩ | ⟨_, _, _, _, hreply⟩
  · have hfull := (Bool.and_eq_true_iff.mp (hreply.mp hraised)).2
    set swept := (state.expireCorrelations input.now).turnCorrelations
    refine ⟨swept.keys, swept.nodup, ?_, ?_⟩
    · unfold OrderedTable.keys
      rw [List.length_map]
      exact of_decide_eq_true hfull
    · intro other hother
      obtain ⟨correlation, hfound⟩ := OrderedTable.mem_keys_iff.mp hother
      obtain ⟨hget, hfresh⟩ := get_expireCorrelations.mp hfound
      refine ⟨correlation, hget, ?_⟩
      cases hlive : correlation.live with
      | true =>
        refine Or.inl ⟨rfl, fun hretained => ?_⟩
        rw [hsettled other correlation hretained hget] at hlive
        cases hlive
      | false =>
        refine Or.inr ⟨rfl, ?_⟩
        unfold TurnCorrelation.isExpired at hfresh
        rw [hlive] at hfresh
        exact not_lt.mp (of_decide_eq_false hfresh)
  · rw [hreply] at hraised
    cases hraised
  · exact absurd hraised (hreply _)

/-! ### Observations -/

/-- A call is what the correlation of the turn tells of. -/
def Observes (turn : PyText) (correlation : TurnCorrelation) (input : Step) : Prop :=
  input.now = correlation.observedAt ∧
    if correlation.live then input.call.correlates = some (correlation.threadId, turn)
    else ∃ outcome, input.call.completes = some (turn, outcome)

/-- A call tells something of the turn. -/
def Touches (turn : PyText) (input : Step) : Prop :=
  (∃ thread, input.call.correlates = some (thread, turn)) ∨
    ∃ outcome, input.call.completes = some (turn, outcome)

/-- A correlation tells of the last call that told something of its turn. -/
def Observed (past : List Step) (state : AppServerEventState) : Prop :=
  ∀ turn correlation, state.turnCorrelations.get turn = some correlation →
    Since (Observes turn correlation) (fun input => ¬ Touches turn input) past

theorem not_touches_of_correlates {input : Step}
    (hcorrelates : input.call.correlates = some (thread, turn))
    (hcompletes : input.call.completes = none) (hother : other ≠ turn) : ¬ Touches other input := by
  rintro (⟨thread', htouch⟩ | ⟨outcome, htouch⟩)
  · rw [hcorrelates] at htouch
    cases htouch
    exact hother rfl
  · rw [hcompletes] at htouch
    cases htouch

theorem not_touches_of_completes {input : Step} {outcome : TurnOutcome}
    (hcorrelates : input.call.correlates = none)
    (hcompletes : input.call.completes = some (turn, outcome)) (hother : other ≠ turn) :
    ¬ Touches other input := by
  rintro (⟨thread', htouch⟩ | ⟨outcome', htouch⟩)
  · rw [hcorrelates] at htouch
    cases htouch
  · rw [hcompletes] at htouch
    cases htouch
    exact hother rfl

theorem not_touches_of_neither {input : Step} (hcorrelates : input.call.correlates = none)
    (hcompletes : input.call.completes = none) : ¬ Touches other input := by
  rintro (⟨thread', htouch⟩ | ⟨outcome, htouch⟩)
  · rw [hcorrelates] at htouch
    cases htouch
  · rw [hcompletes] at htouch
    cases htouch

theorem Observed.step {past : List Step} (hobserved : Observed past state) (input : Step) :
    Observed (past ++ [input]) (state.step input).1 := by
  intro other correlation hget
  rw [Since.concat_iff]
  rcases step_cases state input with
    ⟨thread, turn, hcorrelates, hcompletes, ⟨_, htable⟩, _⟩ |
    ⟨turn, outcome, hcorrelates, hcompletes, _, htable, _⟩ |
    ⟨hcorrelates, hcompletes, _, htable, _⟩
  · by_cases hrefused : state.Refused turn input.now
    · rw [htable.trans (if_pos hrefused)] at hget
      have hother : other ≠ turn := by
        rintro rfl
        have hnone := Option.isNone_iff_eq_none.mp (Bool.and_eq_true_iff.mp hrefused).1
        rw [hnone] at hget
        cases hget
      exact Or.inr ⟨hobserved other correlation (get_expireCorrelations.mp hget).1,
        not_touches_of_correlates hcorrelates hcompletes hother⟩
    · rw [htable.trans (if_neg hrefused)] at hget
      rcases OrderedTable.mem_set_iff.mp hget with ⟨rfl, rfl⟩ | ⟨hother, hold⟩
      · exact Or.inl ⟨rfl, hcorrelates⟩
      · exact Or.inr ⟨hobserved other correlation (get_expireCorrelations.mp hold).1,
          not_touches_of_correlates hcorrelates hcompletes hother⟩
  · rw [htable] at hget
    rcases get_completedCorrelations hget with ⟨rfl, hended, hnow⟩ | ⟨hother, hold⟩
    · refine Or.inl ⟨hnow.symm, ?_⟩
      rw [hended]
      exact ⟨outcome, hcompletes⟩
    · exact Or.inr ⟨hobserved other correlation hold,
        not_touches_of_completes hcorrelates hcompletes hother⟩
  · have hold : state.turnCorrelations.get other = some correlation := by
      rcases htable with heq | heq
      · exact heq ▸ hget
      · rw [heq] at hget
        exact (get_expireCorrelations.mp hget).1
    exact Or.inr ⟨hobserved other correlation hold, not_touches_of_neither hcorrelates hcompletes⟩

/-! ### Runs -/

/-- The completions that a run reports. -/
def completions (past : List Step) : List (PyText × TurnOutcome) :=
  past.filterMap fun input => input.call.completes

/-- The log of the completions in a run. -/
def completionLog (past : List Step) : List (PyText × TurnOutcome) :=
  RetainedLog.recorded maxRetainedTurnOutcomes (completions past)

theorem completions_concat (past : List Step) (input : Step) :
    completions (past ++ [input]) = completions past ++ input.call.completes.toList := by
  unfold completions
  rw [List.filterMap_append]
  cases hcompletes : input.call.completes with
  | none => simp [hcompletes]
  | some completion => simp [hcompletes]

theorem Logged.step {past : List Step} (hlogged : state.Logged (completionLog past))
    (input : Step) : (state.step input).1.Logged (completionLog (past ++ [input])) := by
  unfold completionLog
  rw [completions_concat]
  rcases step_cases state input with
    ⟨thread, turn, _, hcompletes, ⟨hsame, _⟩, _⟩ | ⟨turn, outcome, _, hcompletes, hsame, _, _⟩ |
    ⟨_, hcompletes, hsame, _, _⟩
  · rw [hcompletes, Option.toList_none, List.append_nil]
    exact hlogged.of_same hsame
  · rw [hcompletes, Option.toList_some, RetainedLog.recorded_concat]
    exact (hlogged.remember turn outcome).of_same hsame
  · rw [hcompletes, Option.toList_none, List.append_nil]
    exact hlogged.of_same hsame

/-- What is retained was reported. -/
theorem Logged.reported {past : List Step} (hlogged : state.Logged (completionLog past))
    {found : TurnOutcome} (hfound : state.turnOutcomes.get turn = some found) :
    (turn, found) ∈ completions past := by
  have hentry := OrderedTable.mem_entries_iff.mpr hfound
  rw [hlogged.1] at hentry
  exact (RetainedLog.recorded_sublist _ _).subset (List.mem_of_mem_drop hentry)

/-- What has just been reported is retained. -/
theorem Logged.retains {past : List Step} {input : Step} {outcome : TurnOutcome}
    (hlogged : state.Logged (completionLog (past ++ [input])))
    (hcompletes : input.call.completes = some (turn, outcome)) : state.Retains turn := by
  have hlimit : 0 < maxRetainedTurnOutcomes := by decide
  have hlast := RetainedLog.mem_latest_recorded_concat hlimit (completions past) (turn, outcome)
  have hkey : turn ∈ state.turnOutcomes.keys := by
    unfold OrderedTable.keys
    rw [hlogged.1, completionLog, completions_concat, hcompletes]
    exact hlast
  obtain ⟨found, hfound⟩ := OrderedTable.mem_keys_iff.mp hkey
  exact Option.ne_none_iff_exists'.mpr ⟨found, hfound⟩

/-- The first outcome of a turn is the one that is retained. -/
theorem get_step {found kept : TurnOutcome} (input : Step)
    (hfound : state.turnOutcomes.get turn = some found)
    (hkept : (state.step input).1.turnOutcomes.get turn = some kept) : kept = found := by
  rcases step_cases state input with
    ⟨_, _, _, _, ⟨hsame, _⟩, _⟩ | ⟨reported, outcome, _, _, hsame, _, _⟩ | ⟨_, _, hsame, _, _⟩
  · rw [hsame.1, hfound] at hkept
    exact (Option.some.inj hkept).symm
  · rw [hsame.1] at hkept
    rcases get_rememberOutcome hkept with hold | ⟨rfl, _, hnew⟩
    · rw [hfound] at hold
      exact (Option.some.inj hold).symm
    · rw [hfound] at hnew
      cases hnew
  · rw [hsame.1, hfound] at hkept
    exact (Option.some.inj hkept).symm

end AppServerEventState

open AppServerEventState

/-- What the connection promises of its turns behind a list of calls. -/
structure Kept (past : List Step) (state : AppServerEventState) : Prop where
  settled : state.Settled
  expires : state.Expires
  refusesOnlyFull : state.RefusesOnlyFull
  observed : Observed past state
  logged : state.Logged (completionLog past)
  distinct : state.completedTurns.Nodup ∧ state.completedTurns.length ≤ 512
  reported : ∀ turn found, state.turnOutcomes.get turn = some found →
    (turn, found) ∈ completions past
  retains : ∀ input turn outcome, input.call.completes = some (turn, outcome) →
    (state.step input).1.Retains turn
  first : ∀ input turn found kept, state.turnOutcomes.get turn = some found →
    (state.step input).1.turnOutcomes.get turn = some kept → kept = found

theorem recorded_after (past : List Step) :
    Observed past (eventState.after .initial past) ∧
      (eventState.after .initial past).Logged (completionLog past) := by
  induction past using List.reverseRecOn with
  | nil =>
    refine ⟨?_, ?_, ?_⟩
    · intro turn correlation hget
      cases hget
    · rfl
    · rfl
  | append_singleton past input ih =>
    rw [Machine.after_concat]
    exact ⟨ih.1.step input, ih.2.step input⟩

theorem kept_of_settled {past : List Step} (hsettled : (eventState.after .initial past).Settled) :
    Kept past (eventState.after .initial past) := by
  obtain ⟨hobserved, hlogged⟩ := recorded_after past
  refine ⟨hsettled, hsettled.expires, hsettled.refusesOnlyFull, hobserved, hlogged, ?_, ?_, ?_, ?_⟩
  · rw [hlogged.2, List.length_map]
    exact ⟨RetainedLog.nodup_latest_recorded (by decide) _, RetainedLog.length_latest_le _ _⟩
  · exact fun turn found hfound => hlogged.reported hfound
  · exact fun input turn outcome hcompletes => (hlogged.step input).retains hcompletes
  · exact fun input turn found kept hfound hkept => get_step input hfound hkept

/-- **Finished turns.**  At every moment of a run the turns whose outcome is retained have no
    live correlation, with all that follows for the expiry of correlations and for the
    capacity, exactly when no call of the run correlates such a turn. -/
theorem kept_run_iff (steps : List Step) :
    (∀ past, past <+: steps → Kept past (eventState.after .initial past)) ↔
      eventState.Guarded (fun state input => ¬ state.Revives input) .initial steps := by
  have hinitial : AppServerEventState.initial.Settled := by
    intro turn correlation hretained
    exact absurd rfl hretained
  have hstep : ∀ (state : AppServerEventState) (input : Step), state.Settled →
      ((eventState.step state input).1.Settled ↔ ¬ state.Revives input) :=
    fun state input hsettled => settled_step_iff hsettled input
  have hrun : (∀ past, past <+: steps → (eventState.after .initial past).Settled) ↔ _ :=
    eventState.invariant_along_iff hstep hinitial
  constructor
  · intro hkept
    exact hrun.mp fun past hpast => (hkept past hpast).settled
  · intro hguarded past hpast
    exact kept_of_settled (hrun.mpr hguarded past hpast)

/-- A turn that starts and completes before the answer to its request is bound. -/
def lateBinding : List Step :=
  [⟨0, .record [(pyText "method", .str (pyText "turn/started")),
      (pyText "params", .dict [(pyText "turnId", .str (pyText "turn-1"))])]⟩,
    ⟨0, .record [(pyText "method", .str (pyText "turn/completed")),
      (pyText "params", .dict [(pyText "turnId", .str (pyText "turn-1"))])]⟩,
    ⟨0, .bindStartedTurn (pyText "thread-1") (pyText "turn-1")⟩]

theorem not_settled_lateBinding :
    ¬ ∀ steps : List Step, (steps.map Step.now).Pairwise (· ≤ ·) →
      (eventState.after .initial steps).Settled := by
  intro hsettled
  have hretained : (eventState.after .initial lateBinding).turnOutcomes.get (pyText "turn-1") ≠
      none := by decide
  have hget : (eventState.after .initial lateBinding).turnCorrelations.get (pyText "turn-1") =
      some ⟨pyText "thread-1", 0, true⟩ := by decide
  cases hsettled lateBinding (by decide) _ _ hretained hget

end CodexMustWork.AppServerEvents
