import Mathlib.Logic.Basic

/-!
# Disturbed runs

A program whose operations carry the name of the place they stand at, run under a
disturbance: somebody else changes the state before an operation, an operation
fails instead of taking effect, or the process dies before it.  A dead process
runs no handler, so a crash ends a run where an error is passed to `attempt` and
`ensuring`.

The rules are those of a program logic with one postcondition for each way a run
can end.
-/

namespace DisturbedRuns

/-- How a run ends: with a value, with an error, or dead. -/
inductive Outcome (σ ε α : Type) where
  | returned (value : α) (state : σ)
  | raised (error : ε) (state : σ)
  | crashed (state : σ)

/-- What happens around the operations of a program. -/
structure Disturbance (π σ ε : Type) where
  before : π → σ → σ
  fault : π → Option ε
  crash : π → Bool

/-- A program over states `σ` with places `π` and errors `ε`. -/
def Run (π σ ε α : Type) : Type := Disturbance π σ ε → σ → Outcome σ ε α

variable {π σ ε α β : Type}

/-- The state a run ends in. -/
def Outcome.state : Outcome σ ε α → σ
  | .returned _ state => state
  | .raised _ state => state
  | .crashed state => state

/-- Go on from a value. -/
def Outcome.andThen (outcome : Outcome σ ε α) (next : α → σ → Outcome σ ε β) : Outcome σ ε β :=
  match outcome with
  | .returned value state => next value state
  | .raised error state => .raised error state
  | .crashed state => .crashed state

namespace Run

def pure (value : α) : Run π σ ε α := fun _ state => .returned value state

def bind (run : Run π σ ε α) (next : α → Run π σ ε β) : Run π σ ε β :=
  fun weather state => (run weather state).andThen fun value => next value weather

instance : Monad (Run π σ ε) where
  pure := Run.pure
  bind := Run.bind

def raise (error : ε) : Run π σ ε α := fun _ state => .raised error state

/-- One operation at a place: all of it happens, or none of it. -/
def operation (point : π) (action : σ → Except ε (α × σ)) : Run π σ ε α :=
  fun weather state =>
    if weather.crash point then .crashed state
    else
      let found := weather.before point state
      match weather.fault point with
      | some error => .raised error found
      | none =>
          match action found with
          | .ok (value, next) => .returned value next
          | .error error => .raised error found

/-- An operation that reads. -/
def look (point : π) (see : σ → Except ε α) : Run π σ ε α :=
  operation point fun state => (see state).map fun value => (value, state)

/-- An operation that writes. -/
def act (point : π) (step : σ → Except ε σ) : Run π σ ε Unit :=
  operation point fun state => (step state).map fun next => ((), next)

/-- A change of what belongs to the program alone: it does not fail, and nothing else happens. -/
def change (step : σ → σ) : Run π σ ε Unit := fun _ state => .returned () (step state)

/-- `try … except`. -/
def attempt (body : Run π σ ε α) (handler : ε → Run π σ ε α) : Run π σ ε α :=
  fun weather state =>
    match body weather state with
    | .returned value next => .returned value next
    | .raised error next => handler error weather next
    | .crashed next => .crashed next

/-- `try … finally`: an error of the cleanup replaces the outcome of the body. -/
def ensuring (body : Run π σ ε α) (cleanup : Run π σ ε Unit) : Run π σ ε α :=
  fun weather state =>
    match body weather state with
    | .returned value next => (cleanup weather next).andThen fun _ last => .returned value last
    | .raised error next => (cleanup weather next).andThen fun _ last => .raised error last
    | .crashed next => .crashed next

/-- Run a program for each element in turn. -/
def forEach {ι : Type} (items : List ι) (body : ι → Run π σ ε Unit) : Run π σ ε Unit :=
  match items with
  | [] => pure ()
  | item :: rest => (body item).bind fun _ => forEach rest body

end Run

/-- Nothing happens at a place. -/
structure Calm (weather : Disturbance π σ ε) (point : π) : Prop where
  before : ∀ state, weather.before point state = state
  fault : weather.fault point = none
  crash : weather.crash point = false

/-- An operation at the place neither fails nor is the process dead before it. -/
structure Clear (weather : Disturbance π σ ε) (point : π) : Prop where
  fault : weather.fault point = none
  crash : weather.crash point = false

/-- The process may die, and nothing else happens. -/
structure Disturbance.OnlyDies (weather : Disturbance π σ ε) : Prop where
  before : ∀ point state, weather.before point state = state
  fault : ∀ point, weather.fault point = none

/-- The process may die. -/
def Disturbance.MayDie (weather : Disturbance π σ ε) : Prop := ∃ point, weather.crash point = true

/-- What holds where the process may have died. -/
def Disturbance.Dying (weather : Disturbance π σ ε) (left : σ → Prop) (state : σ) : Prop :=
  left state ∧ weather.MayDie

/-- Nothing happens anywhere. -/
def Disturbance.undisturbed : Disturbance π σ ε where
  before _ := id
  fault _ := none
  crash _ := false

/-- Nobody else changes the state. -/
def Disturbance.Solitary (weather : Disturbance π σ ε) : Prop :=
  ∀ point state, weather.before point state = state

theorem Disturbance.undisturbed_calm (point : π) :
    Calm (.undisturbed : Disturbance π σ ε) point :=
  ⟨fun _ => rfl, rfl, rfl⟩

theorem Disturbance.undisturbed_onlyDies : (.undisturbed : Disturbance π σ ε).OnlyDies :=
  ⟨fun _ _ => rfl, fun _ => rfl⟩

theorem Disturbance.undisturbed_not_dying {left : σ → Prop} {state : σ} :
    ¬ (.undisturbed : Disturbance π σ ε).Dying left state := by
  rintro ⟨-, point, hcrash⟩
  cases hcrash

theorem Clear.calm {weather : Disturbance π σ ε} {point : π} (hclear : Clear weather point)
    (hsolitary : weather.Solitary) : Calm weather point :=
  ⟨hsolitary point, hclear.fault, hclear.crash⟩

/-! ### Executing -/

section Executing

variable {weather : Disturbance π σ ε} {state : σ}

theorem pure_run (value : α) : (Pure.pure value : Run π σ ε α) weather state =
    .returned value state := rfl

theorem pure_then (value : α) (next : α → Run π σ ε β) :
    ((Pure.pure value : Run π σ ε α) >>= next) = next value := rfl

theorem bind_run (run : Run π σ ε α) (next : α → Run π σ ε β) :
    (run >>= next) weather state =
      (run weather state).andThen fun value => next value weather := rfl

theorem raise_run (error : ε) : (Run.raise error : Run π σ ε α) weather state =
    .raised error state := rfl

@[simp] theorem returned_andThen (value : α) (next : α → σ → Outcome σ ε β) :
    (Outcome.returned value state).andThen next = next value state := rfl

@[simp] theorem raised_andThen (error : ε) (next : α → σ → Outcome σ ε β) :
    (Outcome.raised error state).andThen next = .raised error state := rfl

@[simp] theorem crashed_andThen (next : α → σ → Outcome σ ε β) :
    (Outcome.crashed state : Outcome σ ε α).andThen next = .crashed state := rfl

/-- At a calm place an operation is its action. -/
theorem operation_run {point : π} (hcalm : Calm weather point)
    (action : σ → Except ε (α × σ)) :
    Run.operation point action weather state =
      match action state with
      | .ok (value, next) => .returned value next
      | .error error => .raised error state := by
  simp only [Run.operation, hcalm.crash, hcalm.before, hcalm.fault, Bool.false_eq_true, if_false]

/-! A run that returned, read backwards. -/

theorem bind_returned {run : Run π σ ε α} {next : α → Run π σ ε β} {value : β} {last : σ} :
    (run >>= next) weather state = .returned value last ↔
      ∃ found mid, run weather state = .returned found mid ∧
        next found weather mid = .returned value last := by
  rw [bind_run]
  cases run weather state with
  | returned found mid =>
    constructor
    · intro hnext
      exact ⟨found, mid, rfl, hnext⟩
    · rintro ⟨found', mid', hrun, hnext⟩
      cases hrun
      exact hnext
  | raised error mid =>
    constructor
    · intro hend
      cases hend
    · rintro ⟨found', mid', hrun, -⟩
      cases hrun
  | crashed mid =>
    constructor
    · intro hend
      cases hend
    · rintro ⟨found', mid', hrun, -⟩
      cases hrun

theorem pure_returned {value value' : α} {last : σ} :
    (Pure.pure value : Run π σ ε α) weather state = .returned value' last ↔
      value = value' ∧ state = last := by
  rw [pure_run, Outcome.returned.injEq]

theorem not_raise_returned {error : ε} {value : α} {last : σ} :
    ¬ (Run.raise error : Run π σ ε α) weather state = .returned value last := by
  intro hend
  cases hend

theorem attempt_returned {body : Run π σ ε α} {handler : ε → Run π σ ε α} {value : α} {last : σ} :
    Run.attempt body handler weather state = .returned value last ↔
      body weather state = .returned value last ∨
        ∃ error mid, body weather state = .raised error mid ∧
          handler error weather mid = .returned value last := by
  unfold Run.attempt
  cases hbody : body weather state with
  | returned found mid => simp
  | crashed mid => simp
  | raised error mid =>
    constructor
    · intro hhandler
      exact Or.inr ⟨error, mid, rfl, hhandler⟩
    · rintro (hreturned | ⟨error', mid', hraised, hhandler⟩)
      · cases hreturned
      · cases hraised
        exact hhandler

theorem ensuring_returned {body : Run π σ ε α} {cleanup : Run π σ ε Unit} {value : α} {last : σ}
    (hensuring : Run.ensuring body cleanup weather state = .returned value last) :
    ∃ mid, body weather state = .returned value mid ∧
      cleanup weather mid = .returned () last := by
  unfold Run.ensuring at hensuring
  cases hbody : body weather state with
  | returned found mid =>
    rw [hbody] at hensuring
    cases hcleanup : cleanup weather mid with
    | returned value final =>
      simp only [hcleanup, returned_andThen] at hensuring
      cases hensuring
      exact ⟨mid, rfl, hcleanup⟩
    | raised error final => simp [hcleanup] at hensuring
    | crashed final => simp [hcleanup] at hensuring
  | raised error mid =>
    rw [hbody] at hensuring
    cases hcleanup : cleanup weather mid <;> simp [hcleanup] at hensuring
  | crashed mid => simp [hbody] at hensuring

theorem operation_returned {point : π} {action : σ → Except ε (α × σ)} {value : α} {last : σ}
    (hsolitary : weather.Solitary) :
    Run.operation point action weather state = .returned value last ↔
      Clear weather point ∧ action state = .ok (value, last) := by
  by_cases hcrash : weather.crash point = true
  · have hnot : ¬ Clear weather point := fun hclear => by
      rw [hclear.crash] at hcrash
      cases hcrash
    simp [Run.operation, hcrash, hnot]
  · rw [Bool.not_eq_true] at hcrash
    cases hfault : weather.fault point with
    | some error =>
      have hnot : ¬ Clear weather point := fun hclear => by
        rw [hclear.fault] at hfault
        cases hfault
      simp [Run.operation, hcrash, hfault, hnot]
    | none =>
      have hclear : Clear weather point := ⟨hfault, hcrash⟩
      rw [operation_run (hclear.calm hsolitary)]
      cases haction : action state with
      | ok result => simp [hclear, Prod.ext_iff]
      | error error => simp

theorem look_undisturbed_returned {point : π} {see : σ → Except ε α} {value : α} {last : σ} :
    Run.look point see .undisturbed state = .returned value last ↔
      see state = .ok value ∧ state = last := by
  unfold Run.look
  rw [operation_run (Disturbance.undisturbed_calm point)]
  cases see state with
  | ok found => simp [Except.map]
  | error error => simp [Except.map]

theorem map_returned {run : Run π σ ε α} {change : α → β} {value : β} {last : σ} :
    (change <$> run) weather state = .returned value last ↔
      ∃ found, run weather state = .returned found last ∧ change found = value := by
  change (run >>= fun found => Pure.pure (change found)) weather state = .returned value last ↔ _
  rw [bind_returned]
  constructor
  · rintro ⟨found, mid, hrun, hpure⟩
    obtain ⟨hvalue, rfl⟩ := pure_returned.mp hpure
    exact ⟨found, hrun, hvalue⟩
  · rintro ⟨found, hrun, hvalue⟩
    exact ⟨found, last, hrun, pure_returned.mpr ⟨hvalue, rfl⟩⟩

/-- An operation raises what its action raises, or what it fails with. -/
theorem operation_raised {point : π} {action : σ → Except ε (α × σ)} {error : ε} {last : σ}
    (hsolitary : weather.Solitary)
    (hraised : Run.operation point action weather state = .raised error last) :
    last = state ∧ (weather.fault point = some error ∨ action state = .error error) := by
  unfold Run.operation at hraised
  split at hraised
  · cases hraised
  · simp only [hsolitary point state] at hraised
    cases hfault : weather.fault point with
    | some found =>
      rw [hfault] at hraised
      cases hraised
      exact ⟨rfl, Or.inl rfl⟩
    | none =>
      rw [hfault] at hraised
      cases haction : action state with
      | ok result =>
        rw [haction] at hraised
        cases hraised
      | error found =>
        rw [haction] at hraised
        cases hraised
        exact ⟨rfl, Or.inr rfl⟩

end Executing

/-! ### Postconditions -/

/-- The three postconditions of a run. -/
structure Post (σ ε α : Type) where
  returned : α → σ → Prop
  raised : ε → σ → Prop
  crashed : σ → Prop

def Outcome.Meets (outcome : Outcome σ ε α) (post : Post σ ε α) : Prop :=
  match outcome with
  | .returned value state => post.returned value state
  | .raised error state => post.raised error state
  | .crashed state => post.crashed state

/-- From every state satisfying `pre` the run ends as `post` says. -/
def Triple (weather : Disturbance π σ ε) (pre : σ → Prop) (run : Run π σ ε α)
    (post : Post σ ε α) : Prop :=
  ∀ state, pre state → (run weather state).Meets post

/-- One condition, however the run ends. -/
def Post.always (inv : σ → Prop) : Post σ ε α where
  returned _ := inv
  raised _ := inv
  crashed := inv

theorem Outcome.meets_always {outcome : Outcome σ ε α} {inv : σ → Prop} :
    outcome.Meets (Post.always inv) ↔ inv outcome.state := by
  cases outcome <;> exact Iff.rfl

namespace Triple

variable {weather : Disturbance π σ ε} {pre : σ → Prop} {post : Post σ ε α}

theorem weaken {run : Run π σ ε α} {pre' : σ → Prop} {post' : Post σ ε α}
    (htriple : Triple weather pre run post) (hpre : ∀ state, pre' state → pre state)
    (hreturned : ∀ value state, post.returned value state → post'.returned value state)
    (hraised : ∀ error state, post.raised error state → post'.raised error state)
    (hcrashed : ∀ state, post.crashed state → post'.crashed state) :
    Triple weather pre' run post' := by
  intro state hstate
  have hend := htriple state (hpre state hstate)
  revert hend
  cases run weather state with
  | returned value next => exact hreturned value next
  | raised error next => exact hraised error next
  | crashed next => exact hcrashed next

theorem pure {value : α} (hpost : ∀ state, pre state → post.returned value state) :
    Triple weather pre (Pure.pure value) post := hpost

theorem raise {error : ε} (hpost : ∀ state, pre state → post.raised error state) :
    Triple weather pre (Run.raise error) post := hpost

theorem bind {run : Run π σ ε α} {next : α → Run π σ ε β} {mid : α → σ → Prop}
    {post : Post σ ε β}
    (hrun : Triple weather pre run ⟨mid, post.raised, post.crashed⟩)
    (hnext : ∀ value, Triple weather (mid value) (next value) post) :
    Triple weather pre (run >>= next) post := by
  intro state hstate
  have hend := hrun state hstate
  rw [bind_run]
  revert hend
  cases run weather state with
  | returned value found => exact hnext value found
  | raised error found => exact id
  | crashed found => exact id

theorem attempt {body : Run π σ ε α} {handler : ε → Run π σ ε α} {caught : ε → σ → Prop}
    (hbody : Triple weather pre body ⟨post.returned, caught, post.crashed⟩)
    (hhandler : ∀ error, Triple weather (caught error) (handler error) post) :
    Triple weather pre (Run.attempt body handler) post := by
  intro state hstate
  have hend := hbody state hstate
  unfold Run.attempt
  revert hend
  cases body weather state with
  | returned value found => exact id
  | raised error found => exact hhandler error found
  | crashed found => exact id

theorem ensuring {body : Run π σ ε α} {cleanup : Run π σ ε Unit} {mid : α → σ → Prop}
    {caught : ε → σ → Prop}
    (hbody : Triple weather pre body ⟨mid, caught, post.crashed⟩)
    (hvalue : ∀ value, Triple weather (mid value) cleanup
      ⟨fun _ => post.returned value, post.raised, post.crashed⟩)
    (herror : ∀ error, Triple weather (caught error) cleanup
      ⟨fun _ => post.raised error, post.raised, post.crashed⟩) :
    Triple weather pre (Run.ensuring body cleanup) post := by
  intro state hstate
  have hend := hbody state hstate
  unfold Run.ensuring
  revert hend
  cases body weather state with
  | returned value found =>
    intro hmid
    have hclean := hvalue value found hmid
    simp only
    revert hclean
    cases cleanup weather found <;> exact id
  | raised error found =>
    intro hcaught
    have hclean := herror error found hcaught
    simp only
    revert hclean
    cases cleanup weather found <;> exact id
  | crashed found => exact id

/-- With what holds in between. -/
theorem bind_via {run : Run π σ ε α} {next : α → Run π σ ε β} {post : Post σ ε β}
    (mid : α → σ → Prop) (hrun : Triple weather pre run ⟨mid, post.raised, post.crashed⟩)
    (hnext : ∀ value, Triple weather (mid value) (next value) post) :
    Triple weather pre (run >>= next) post :=
  bind hrun hnext

/-- With what holds where the body raises. -/
theorem attempt_via {body : Run π σ ε α} {handler : ε → Run π σ ε α} (caught : ε → σ → Prop)
    (hbody : Triple weather pre body ⟨post.returned, caught, post.crashed⟩)
    (hhandler : ∀ error, Triple weather (caught error) (handler error) post) :
    Triple weather pre (Run.attempt body handler) post :=
  attempt hbody hhandler

/-- Go on with a value that is known. -/
theorem bind_known {run : Run π σ ε α} {next : α → Run π σ ε β} {post : Post σ ε β} (value : α)
    (inv : σ → Prop)
    (hrun : Triple weather pre run
      ⟨fun found state => found = value ∧ inv state, post.raised, post.crashed⟩)
    (hnext : Triple weather inv (next value) post) :
    Triple weather pre (run >>= next) post := by
  refine bind hrun fun found => ?_
  rintro state ⟨rfl, hstate⟩
  exact hnext state hstate

/-- A body that does not raise needs no handler. -/
theorem attempt_safe {body : Run π σ ε α} {handler : ε → Run π σ ε α}
    (hbody : Triple weather pre body ⟨post.returned, fun _ _ => False, post.crashed⟩) :
    Triple weather pre (Run.attempt body handler) post :=
  attempt hbody fun _ _ hfalse => hfalse.elim

/-- One operation: the process dies before it, it fails, or its action runs; the
    last two after what somebody else did. -/
theorem operation {point : π} {action : σ → Except ε (α × σ)}
    (hcrash : weather.crash point = true → ∀ state, pre state → post.crashed state)
    (hfault : ∀ error, weather.fault point = some error →
      ∀ state, pre state → post.raised error (weather.before point state))
    (haction : Clear weather point → ∀ state, pre state →
      match action (weather.before point state) with
      | .ok (value, next) => post.returned value next
      | .error error => post.raised error (weather.before point state)) :
    Triple weather pre (Run.operation point action) post := by
  intro state hstate
  unfold Run.operation
  by_cases hdies : weather.crash point = true
  · rw [if_pos hdies]
    exact hcrash hdies state hstate
  · rw [if_neg hdies]
    cases hfails : weather.fault point with
    | some error => exact hfault error hfails state hstate
    | none =>
      have hruns := haction ⟨hfails, by simpa using hdies⟩ state hstate
      simp only
      revert hruns
      cases action (weather.before point state) <;> exact id

/-- One of several things is known. -/
theorem cases_pre {run : Run π σ ε α} (first second : σ → Prop)
    (hpre : ∀ state, pre state → first state ∨ second state)
    (hfirst : Triple weather first run post) (hsecond : Triple weather second run post) : Triple weather pre run post := by
  intro state hstate
  rcases hpre state hstate with hone | htwo
  · exact hfirst state hone
  · exact hsecond state htwo

theorem ite {cond : Prop} [Decidable cond] {yes no : Run π σ ε α}
    (hyes : cond → Triple weather pre yes post) (hno : ¬ cond → Triple weather pre no post) :
    Triple weather pre (if cond then yes else no) post := by
  split
  · exact hyes ‹_›
  · exact hno ‹_›

theorem forEach {ι : Type} {items : List ι} {body : ι → Run π σ ε Unit} {inv : σ → Prop}
    {post : Post σ ε Unit} (hreturned : ∀ state, inv state → post.returned () state)
    (hbody : ∀ item ∈ items, Triple weather inv (body item)
      ⟨fun _ => inv, post.raised, post.crashed⟩) :
    Triple weather inv (Run.forEach items body) post := by
  induction items with
  | nil => exact pure hreturned
  | cons item rest ih =>
    exact bind (hbody item List.mem_cons_self) fun _ =>
      ih fun other hother => hbody other (List.mem_cons_of_mem _ hother)

/-- What is known after each element of what is done and what is left. -/
theorem forEach_progress {ι : Type} (inv : List ι → List ι → σ → Prop) {items : List ι}
    {body : ι → Run π σ ε Unit} {post : Post σ ε Unit} {passed : List ι}
    (hreturned : ∀ state, inv (passed ++ items) [] state → post.returned () state)
    (hbody : ∀ before item after, before ++ item :: after = passed ++ items →
      Triple weather (inv before (item :: after)) (body item)
        ⟨fun _ => inv (before ++ [item]) after, post.raised, post.crashed⟩) :
    Triple weather (inv passed items) (Run.forEach items body) post := by
  induction items generalizing passed with
  | nil => exact pure fun state hstate => hreturned state (by rwa [List.append_nil])
  | cons item rest ih =>
    refine bind (hbody passed item rest rfl) fun _ => ih ?_ ?_
    · intro state hstate
      refine hreturned state ?_
      rwa [List.append_assoc] at hstate
    · intro before other after hsplit
      refine hbody before other after ?_
      rw [hsplit, List.append_assoc]
      rfl

/-! Operations of a process that is alone. -/

theorem operation_alone {point : π} {action : σ → Except ε (α × σ)}
    (hsolitary : weather.Solitary) (hcrashed : ∀ state, pre state → post.crashed state)
    (hfault : ∀ error, weather.fault point = some error →
      ∀ state, pre state → post.raised error state)
    (hraised : ∀ error state, pre state → action state = .error error → post.raised error state)
    (hreturned : ∀ value state next, pre state → action state = .ok (value, next) →
      post.returned value next) :
    Triple weather pre (Run.operation point action) post := by
  refine operation (fun _ => hcrashed) (fun error hfails state hstate => ?_) ?_
  · rw [hsolitary]
    exact hfault error hfails state hstate
  · intro _ state hstate
    rw [hsolitary]
    cases haction : action state with
    | ok result => exact hreturned result.1 state result.2 hstate haction
    | error error => exact hraised error state hstate haction

theorem look_alone {point : π} {see : σ → Except ε α} (hsolitary : weather.Solitary)
    (hcrashed : ∀ state, pre state → post.crashed state)
    (hraised : ∀ error state, pre state → post.raised error state)
    (hreturned : ∀ value state, pre state → see state = .ok value → post.returned value state) :
    Triple weather pre (Run.look point see) post := by
  refine operation (fun _ => hcrashed) (fun error _ state hstate => ?_) ?_
  · rw [hsolitary]
    exact hraised error state hstate
  · intro _ state hstate
    rw [hsolitary]
    cases hsee : see state with
    | ok value => exact hreturned value state hstate hsee
    | error error => exact hraised error state hstate

theorem act_alone {point : π} {step : σ → Except ε σ} {post : Post σ ε Unit}
    (hsolitary : weather.Solitary) (hcrashed : ∀ state, pre state → post.crashed state)
    (hraised : ∀ error state, pre state → post.raised error state)
    (hreturned : ∀ state next, pre state → step state = .ok next → post.returned () next) :
    Triple weather pre (Run.act point step) post := by
  refine operation (fun _ => hcrashed) (fun error _ state hstate => ?_) ?_
  · rw [hsolitary]
    exact hraised error state hstate
  · intro _ state hstate
    rw [hsolitary]
    cases hstep : step state with
    | ok next => exact hreturned state next hstate hstep
    | error error => exact hraised error state hstate

/-! Operations of a process that may die and to which nothing else happens. -/

theorem look_dying {point : π} {see : σ → Except ε α} {value : α} {raised : ε → σ → Prop}
    {crashed : σ → Prop} (hdies : weather.OnlyDies)
    (hcrashed : ∀ state, pre state → crashed state)
    (hsee : ∀ state, pre state → see state = .ok value) :
    Triple weather pre (Run.look point see)
      ⟨fun found state => found = value ∧ pre state, raised, weather.Dying crashed⟩ := by
  intro state hstate
  unfold Run.look Run.operation
  split
  · exact ⟨hcrashed state hstate, point, ‹_›⟩
  · simp only [hdies.before, hdies.fault, hsee state hstate, Except.map]
    exact ⟨rfl, hstate⟩

/-- Reading what the state determines. -/
theorem look_dying_sees {point : π} {see : σ → Except ε α} {raised : ε → σ → Prop}
    {crashed : σ → Prop} (hdies : weather.OnlyDies)
    (hcrashed : ∀ state, pre state → crashed state)
    (hsee : ∀ state, pre state → ∃ value, see state = .ok value) :
    Triple weather pre (Run.look point see)
      ⟨fun found state => see state = .ok found ∧ pre state, raised, weather.Dying crashed⟩ := by
  intro state hstate
  obtain ⟨value, hvalue⟩ := hsee state hstate
  unfold Run.look Run.operation
  split
  · exact ⟨hcrashed state hstate, point, ‹_›⟩
  · simp only [hdies.before, hdies.fault, hvalue, Except.map]
    exact ⟨hvalue, hstate⟩

theorem act_dying {point : π} {step : σ → Except ε σ} {after : σ → Prop}
    {raised : ε → σ → Prop} {crashed : σ → Prop} (hdies : weather.OnlyDies)
    (hcrashed : ∀ state, pre state → crashed state)
    (hstep : ∀ state, pre state → ∃ next, step state = .ok next ∧ after next) :
    Triple weather pre (Run.act point step) ⟨fun _ => after, raised, weather.Dying crashed⟩ := by
  intro state hstate
  obtain ⟨next, hnext, hafter⟩ := hstep state hstate
  unfold Run.act Run.operation
  split
  · exact ⟨hcrashed state hstate, point, ‹_›⟩
  · simp only [hdies.before, hdies.fault, hnext, Except.map]
    exact hafter

end Triple

/-! ### Runs that return -/

/-- Undisturbed, the run returns. -/
abbrev Returns (pre : σ → Prop) (run : Run π σ ε α) (after : α → σ → Prop) : Prop :=
  Triple .undisturbed pre run ⟨after, fun _ _ => False, fun _ => False⟩

namespace Returns

variable {pre : σ → Prop}

theorem run {run : Run π σ ε α} {after : α → σ → Prop} (hreturns : Returns pre run after)
    {state : σ} (hstate : pre state) :
    ∃ value last, run .undisturbed state = .returned value last ∧ after value last := by
  have hend := hreturns state hstate
  cases hvalue : run .undisturbed state with
  | returned value last =>
    rw [hvalue] at hend
    exact ⟨value, last, rfl, hend⟩
  | raised error last =>
    rw [hvalue] at hend
    exact hend.elim
  | crashed last =>
    rw [hvalue] at hend
    exact hend.elim

theorem look {point : π} {see : σ → Except ε α} {after : α → σ → Prop}
    (hsee : ∀ state, pre state → ∃ value, see state = .ok value ∧ after value state) :
    Returns pre (Run.look point see) after := by
  intro state hstate
  obtain ⟨value, hvalue, hafter⟩ := hsee state hstate
  rw [look_undisturbed_returned.mpr ⟨hvalue, rfl⟩]
  exact hafter

theorem act {point : π} {step : σ → Except ε σ} {after : σ → Prop}
    (hstep : ∀ state, pre state → ∃ next, step state = .ok next ∧ after next) :
    Returns pre (Run.act point step) fun _ => after := by
  intro state hstate
  obtain ⟨next, hnext, hafter⟩ := hstep state hstate
  unfold Run.act
  rw [operation_run (Disturbance.undisturbed_calm point), hnext]
  exact hafter

/-- A run that returns also meets what is known of it otherwise. -/
theorem meeting {run : Run π σ ε α} {after : α → σ → Prop} {pre' : σ → Prop} {post : Post σ ε α}
    (hreturns : Returns pre run after) (htriple : Triple .undisturbed pre' run post) :
    Returns (fun state => pre state ∧ pre' state) run fun value state =>
      after value state ∧ post.returned value state := by
  rintro state ⟨hpre, hpre'⟩
  obtain ⟨value, last, hrun, hafter⟩ := hreturns.run hpre
  have hend := htriple state hpre'
  rw [hrun] at hend ⊢
  exact ⟨hafter, hend⟩

end Returns

/-! ### Runs that raise alike -/

/-- Where the run raises, the other one does the same. -/
def RaisesAlike (weather : Disturbance π σ ε) (run other : Run π σ ε α) : Prop :=
  ∀ state error last, run weather state = .raised error last →
    other weather state = .raised error last

namespace RaisesAlike

variable {weather : Disturbance π σ ε}

theorem refl (run : Run π σ ε α) : RaisesAlike weather run run := fun _ _ _ => id

theorem pure {value : α} {other : Run π σ ε α} :
    RaisesAlike weather (Pure.pure value) other := by
  intro state error last hraised
  cases hraised

theorem bind {run : Run π σ ε α} {next other : α → Run π σ ε β}
    (hnext : ∀ value, RaisesAlike weather (next value) (other value)) :
    RaisesAlike weather (run >>= next) (run >>= other) := by
  intro state error last hraised
  rw [bind_run] at hraised ⊢
  cases hrun : run weather state with
  | returned value found =>
    rw [hrun] at hraised
    exact hnext value found error last hraised
  | raised error found =>
    rw [hrun] at hraised
    exact hraised
  | crashed found =>
    rw [hrun] at hraised
    exact hraised

theorem ensuring {body other : Run π σ ε α} {cleanup : Run π σ ε Unit}
    (hbody : RaisesAlike weather body other)
    (hcleanup : ∀ state error last, cleanup weather state ≠ .raised error last) :
    RaisesAlike weather (Run.ensuring body cleanup) (Run.ensuring other cleanup) := by
  intro state error last hraised
  unfold Run.ensuring at hraised ⊢
  cases hrun : body weather state with
  | returned value found =>
    rw [hrun] at hraised
    simp only at hraised
    cases hclean : cleanup weather found with
    | returned value next =>
      rw [hclean] at hraised
      cases hraised
    | raised error next => exact absurd hclean (hcleanup found error next)
    | crashed next =>
      rw [hclean] at hraised
      cases hraised
  | raised raising found =>
    rw [hrun] at hraised
    rw [hbody state raising found hrun]
    exact hraised
  | crashed found =>
    rw [hrun] at hraised
    cases hraised

theorem ite {cond : Prop} [Decidable cond] {yes no yes' no' : Run π σ ε α}
    (hyes : RaisesAlike weather yes yes') (hno : RaisesAlike weather no no') :
    RaisesAlike weather (if cond then yes else no) (if cond then yes' else no') := by
  split
  · exact hyes
  · exact hno

end RaisesAlike

/-! ### Reading runs -/

/-- The run only reads: a process that may die gets what an undisturbed one gets, or
    dies, and leaves the state as it was. -/
structure Reads (run : Run π σ ε α) : Prop where
  still : ∀ state, (run .undisturbed state).state = state ∧
    ∀ last, run .undisturbed state ≠ .crashed last
  dying : ∀ weather : Disturbance π σ ε, weather.OnlyDies → ∀ state,
    run weather state = run .undisturbed state ∨
      run weather state = .crashed state ∧ weather.MayDie

namespace Reads

theorem pure {value : α} : Reads (Pure.pure value : Run π σ ε α) :=
  ⟨fun _ => ⟨rfl, fun _ hcrashed => nomatch hcrashed⟩, fun _ _ _ => Or.inl rfl⟩

theorem raise {error : ε} : Reads (Run.raise error : Run π σ ε α) :=
  ⟨fun _ => ⟨rfl, fun _ hcrashed => nomatch hcrashed⟩, fun _ _ _ => Or.inl rfl⟩

theorem look {point : π} {see : σ → Except ε α} : Reads (Run.look point see) := by
  have hrun : ∀ state, Run.look point see .undisturbed state =
      match see state with
      | .ok value => .returned value state
      | .error error => .raised error state := by
    intro state
    simp only [Run.look, Run.operation, Disturbance.undisturbed, Bool.false_eq_true, if_false, id]
    cases see state <;> rfl
  refine ⟨fun state => ?_, fun weather hdies state => ?_⟩
  · rw [hrun]
    cases see state with
    | ok value => exact ⟨rfl, fun _ hcrashed => nomatch hcrashed⟩
    | error error => exact ⟨rfl, fun _ hcrashed => nomatch hcrashed⟩
  · by_cases hcrash : weather.crash point = true
    · refine Or.inr ⟨?_, point, hcrash⟩
      simp [Run.look, Run.operation, hcrash]
    · left
      rw [hrun]
      simp only [Run.look, Run.operation, hcrash, Bool.false_eq_true, if_false, hdies.before,
        hdies.fault]
      cases see state <;> rfl

theorem bind {run : Run π σ ε α} {next : α → Run π σ ε β} (hrun : Reads run)
    (hnext : ∀ value, Reads (next value)) : Reads (run >>= next) := by
  refine ⟨fun state => ?_, fun weather hdies state => ?_⟩
  · have hstill := hrun.still state
    rw [bind_run]
    cases hfound : run .undisturbed state with
    | returned value found =>
      rw [hfound] at hstill
      obtain ⟨rfl, -⟩ := hstill
      exact (hnext value).still found
    | raised error found =>
      rw [hfound] at hstill
      exact ⟨hstill.1, fun _ hcrashed => nomatch hcrashed⟩
    | crashed found => exact absurd hfound (hstill.2 found)
  · have hstill := hrun.still state
    rw [bind_run, bind_run]
    rcases hrun.dying weather hdies state with hsame | ⟨hcrashed, hmay⟩
    · rw [hsame]
      cases hfound : run .undisturbed state with
      | returned value found =>
        rw [hfound] at hstill
        obtain ⟨rfl, -⟩ := hstill
        exact (hnext value).dying weather hdies found
      | raised error found => exact Or.inl rfl
      | crashed found => exact absurd hfound (hstill.2 found)
    · rw [hcrashed]
      exact Or.inr ⟨rfl, hmay⟩

theorem attempt {body : Run π σ ε α} {handler : ε → Run π σ ε α} (hbody : Reads body)
    (hhandler : ∀ error, Reads (handler error)) : Reads (Run.attempt body handler) := by
  refine ⟨fun state => ?_, fun weather hdies state => ?_⟩
  · have hstill := hbody.still state
    unfold Run.attempt
    cases hfound : body .undisturbed state with
    | returned value found =>
      rw [hfound] at hstill
      exact ⟨hstill.1, fun _ hcrashed => nomatch hcrashed⟩
    | raised error found =>
      rw [hfound] at hstill
      obtain ⟨rfl, -⟩ := hstill
      exact (hhandler error).still found
    | crashed found => exact absurd hfound (hstill.2 found)
  · have hstill := hbody.still state
    unfold Run.attempt
    rcases hbody.dying weather hdies state with hsame | ⟨hcrashed, hmay⟩
    · rw [hsame]
      cases hfound : body .undisturbed state with
      | returned value found => exact Or.inl rfl
      | raised error found =>
        rw [hfound] at hstill
        obtain ⟨rfl, -⟩ := hstill
        exact (hhandler error).dying weather hdies found
      | crashed found => exact absurd hfound (hstill.2 found)
    · rw [hcrashed]
      exact Or.inr ⟨rfl, hmay⟩

theorem ite {cond : Prop} [Decidable cond] {yes no : Run π σ ε α} (hyes : Reads yes)
    (hno : Reads no) : Reads (if cond then yes else no) := by
  split
  · exact hyes
  · exact hno

theorem map {run : Run π σ ε α} {change : α → β} (hrun : Reads run) : Reads (change <$> run) :=
  bind hrun fun _ => pure

theorem bind_returned {run : Run π σ ε α} {next : α → Run π σ ε β} {value : β} {state last : σ}
    (hrun : Reads run) (hend : (run >>= next) .undisturbed state = .returned value last) :
    ∃ found, run .undisturbed state = .returned found state ∧
      next found .undisturbed state = .returned value last := by
  obtain ⟨found, mid, hfound, hnext⟩ := DisturbedRuns.bind_returned.mp hend
  have hstill := (hrun.still state).1
  rw [hfound] at hstill
  obtain rfl : mid = state := hstill
  exact ⟨found, hfound, hnext⟩

/-- A process that may die reads what an undisturbed one reads. -/
theorem triple {weather : Disturbance π σ ε} {run : Run π σ ε α} {value : α} {state : σ}
    {raised : ε → σ → Prop} {crashed : σ → Prop} (hreads : Reads run) (hdies : weather.OnlyDies)
    (hstill : run .undisturbed state = .returned value state) (hcrashed : crashed state) :
    Triple weather (· = state) run
      ⟨fun found last => found = value ∧ last = state, raised, weather.Dying crashed⟩ := by
  rintro _ rfl
  rcases hreads.dying weather hdies _ with hsame | ⟨hdied, hmay⟩
  · rw [hsame, hstill]
    exact ⟨rfl, rfl⟩
  · rw [hdied]
    exact ⟨hcrashed, hmay⟩

end Reads

/-! ### Invariants -/

/-- `inv` holds throughout: from a state where it holds, a run ends where it
    holds, whichever way it ends. -/
def Keeps (weather : Disturbance π σ ε) (inv : σ → Prop) (run : Run π σ ε α) : Prop :=
  Triple weather inv run (Post.always inv)

namespace Keeps

variable {weather : Disturbance π σ ε} {inv : σ → Prop}

theorem state {run : Run π σ ε α} (hkeeps : Keeps weather inv run) {state : σ}
    (hstate : inv state) : inv (run weather state).state :=
  Outcome.meets_always.mp (hkeeps state hstate)

/-! Once the condition is reached it is kept. -/

theorem after_bind {pre : σ → Prop} {run : Run π σ ε α} {next : α → Run π σ ε β}
    (hrun : Triple weather pre run (Post.always inv))
    (hnext : ∀ value, Keeps weather inv (next value)) :
    Triple weather pre (run >>= next) (Post.always inv) :=
  Triple.bind hrun hnext

theorem after_attempt {pre : σ → Prop} {body : Run π σ ε α} {handler : ε → Run π σ ε α}
    (hbody : Triple weather pre body (Post.always inv))
    (hhandler : ∀ error, Keeps weather inv (handler error)) :
    Triple weather pre (Run.attempt body handler) (Post.always inv) :=
  Triple.attempt hbody hhandler

theorem after_ensuring {pre : σ → Prop} {body : Run π σ ε α} {cleanup : Run π σ ε Unit}
    (hbody : Triple weather pre body (Post.always inv)) (hcleanup : Keeps weather inv cleanup) :
    Triple weather pre (Run.ensuring body cleanup) (Post.always inv) :=
  Triple.ensuring hbody (fun _ => hcleanup) (fun _ => hcleanup)

theorem pure {value : α} : Keeps weather inv (Pure.pure value : Run π σ ε α) :=
  fun _ hstate => hstate

theorem raise {error : ε} : Keeps weather inv (Run.raise error : Run π σ ε α) :=
  fun _ hstate => hstate

theorem bind {run : Run π σ ε α} {next : α → Run π σ ε β} (hrun : Keeps weather inv run)
    (hnext : ∀ value, Keeps weather inv (next value)) : Keeps weather inv (run >>= next) :=
  after_bind hrun hnext

theorem attempt {body : Run π σ ε α} {handler : ε → Run π σ ε α}
    (hbody : Keeps weather inv body) (hhandler : ∀ error, Keeps weather inv (handler error)) :
    Keeps weather inv (Run.attempt body handler) :=
  after_attempt hbody hhandler

theorem ensuring {body : Run π σ ε α} {cleanup : Run π σ ε Unit}
    (hbody : Keeps weather inv body) (hcleanup : Keeps weather inv cleanup) :
    Keeps weather inv (Run.ensuring body cleanup) :=
  after_ensuring hbody hcleanup

theorem operation {point : π} {action : σ → Except ε (α × σ)}
    (hbefore : ∀ state, inv state → inv (weather.before point state))
    (haction : ∀ state value next, inv state → action state = .ok (value, next) → inv next) :
    Keeps weather inv (Run.operation point action) := by
  refine Triple.operation (fun _ _ hstate => hstate) (fun _ _ state hstate => hbefore state hstate)
    ?_
  intro _ state hstate
  cases hrun : action (weather.before point state) with
  | ok result => exact haction _ result.1 result.2 (hbefore state hstate) hrun
  | error error => exact hbefore state hstate

theorem look {point : π} {see : σ → Except ε α} (hsolitary : weather.Solitary) :
    Keeps weather inv (Run.look point see) :=
  Triple.look_alone hsolitary (fun _ => id) (fun _ _ => id) fun _ _ hstate _ => hstate

theorem act {point : π} {step : σ → Except ε σ} (hsolitary : weather.Solitary)
    (hstep : ∀ state next, inv state → step state = .ok next → inv next) :
    Keeps weather inv (Run.act point step) :=
  Triple.act_alone hsolitary (fun _ => id) (fun _ _ => id) hstep

theorem ite {cond : Prop} [Decidable cond] {yes no : Run π σ ε α}
    (hyes : Keeps weather inv yes) (hno : Keeps weather inv no) :
    Keeps weather inv (if cond then yes else no) :=
  Triple.ite (fun _ => hyes) (fun _ => hno)

/-- Go on with what is known because the first part returned. -/
theorem passing {run : Run π σ ε α} {next : α → Run π σ ε β} (fact : α → Prop)
    (hrun : Keeps weather inv run)
    (hfact : ∀ state value last, inv state → run weather state = .returned value last → fact value)
    (hnext : ∀ value, fact value → Keeps weather inv (next value)) :
    Keeps weather inv (run >>= next) := by
  intro state hstate
  have hend := hrun state hstate
  rw [bind_run]
  cases hvalue : run weather state with
  | returned value found =>
    rw [hvalue] at hend
    exact hnext value (hfact state value found hstate hvalue) found hend
  | raised error found =>
    rw [hvalue] at hend
    exact hend
  | crashed found =>
    rw [hvalue] at hend
    exact hend

/-- After a part that changes nothing, the run is where it was or goes on from there. -/
theorem still_bind {run : Run π σ ε α} {next : α → Run π σ ε β} {state : σ}
    (hrun : Keeps weather (· = state) run) {goal : σ → Prop} (hstate : goal state)
    (hnext : ∀ value, run weather state = .returned value state →
      goal (next value weather state).state) :
    goal ((run >>= next) weather state).state := by
  have hend := hrun.state (rfl : state = state)
  rw [bind_run]
  cases hvalue : run weather state with
  | returned value found =>
    rw [hvalue] at hend
    have hfound : found = state := hend
    subst hfound
    exact hnext value hvalue
  | raised error found =>
    rw [hvalue] at hend
    have hfound : found = state := hend
    rw [hfound]
    exact hstate
  | crashed found =>
    rw [hvalue] at hend
    have hfound : found = state := hend
    rw [hfound]
    exact hstate

/-- An operation that does not go through keeps everything. -/
theorem blocked {point : π} {action : σ → Except ε (α × σ)} (hsolitary : weather.Solitary)
    (hblocked : ¬ Clear weather point) : Keeps weather inv (Run.operation point action) := by
  refine Triple.operation (fun _ _ hstate => hstate) (fun _ _ state hstate => ?_) ?_
  · rwa [hsolitary]
  · intro hclear
    exact absurd hclear hblocked

theorem forEach {ι : Type} {items : List ι} {body : ι → Run π σ ε Unit}
    (hbody : ∀ item ∈ items, Keeps weather inv (body item)) :
    Keeps weather inv (Run.forEach items body) :=
  Triple.forEach (fun _ hstate => hstate) hbody

end Keeps

end DisturbedRuns
