import CodexMustWork.Library.DisturbedRuns

/-!
# Runs with failing calls

A call that fails does nothing, as a call at which the process dies does nothing.  So where
errors are only passed on, a run that a failing call ends leaves what dying at that call
leaves, and what is proved of runs that die can be used of runs that fail.
-/

namespace DisturbedRuns

variable {π σ ε α β : Type} {weather : Disturbance π σ ε} {run : Run π σ ε α}

/-- Nothing happens but calls that fail. -/
structure Disturbance.OnlyFails (weather : Disturbance π σ ε) : Prop where
  before : ∀ point state, weather.before point state = state
  alive : ∀ point, weather.crash point = false

/-- The process dies at the calls that would fail. -/
def Disturbance.deaths (weather : Disturbance π σ ε) : Disturbance π σ ε where
  before _ := id
  fault _ := none
  crash point := (weather.fault point).isSome

theorem Disturbance.deaths_onlyDies : weather.deaths.OnlyDies :=
  ⟨fun _ _ => rfl, fun _ => rfl⟩

/-! ### Runs that pass errors on -/

/-- A failing call ends the run where dying would; without one it is the undisturbed run. -/
def Cut (weather : Disturbance π σ ε) (run : Run π σ ε α) : Prop :=
  ∀ state, run weather state = run .undisturbed state ∧
      run weather.deaths state = run .undisturbed state ∨
    ∃ error last, run weather state = .raised error last ∧
      run weather.deaths state = .crashed last

namespace Cut

theorem operation (hfails : weather.OnlyFails) {point : π}
    {action : σ → Except ε (α × σ)} : Cut weather (Run.operation point action) := by
  intro state
  cases hfault : weather.fault point with
  | none =>
    refine Or.inl ⟨?_, ?_⟩
    · simp [Run.operation, Disturbance.undisturbed, hfails.alive, hfails.before, hfault]
    · simp [Run.operation, Disturbance.undisturbed, Disturbance.deaths, hfault]
  | some error =>
    refine Or.inr ⟨error, state, ?_, ?_⟩
    · simp [Run.operation, hfails.alive, hfails.before, hfault]
    · simp [Run.operation, Disturbance.deaths, hfault]

theorem look (hfails : weather.OnlyFails) {point : π} {see : σ → Except ε α} :
    Cut weather (Run.look point see) :=
  operation hfails

theorem act (hfails : weather.OnlyFails) {point : π} {step : σ → Except ε σ} :
    Cut weather (Run.act point step) :=
  operation hfails

theorem pure {value : α} : Cut weather (Pure.pure value : Run π σ ε α) :=
  fun _ => Or.inl ⟨rfl, rfl⟩

theorem raise {error : ε} : Cut weather (Run.raise error : Run π σ ε α) :=
  fun _ => Or.inl ⟨rfl, rfl⟩

theorem bind {next : α → Run π σ ε β} (hrun : Cut weather run)
    (hnext : ∀ value, Cut weather (next value)) : Cut weather (run >>= next) := by
  intro state
  rcases hrun state with ⟨hsame, hdies⟩ | ⟨error, last, hraised, hcrashed⟩
  · have hstep : ∀ other : Disturbance π σ ε, run other state = run .undisturbed state →
        (run >>= next) other state =
          (run .undisturbed state).andThen fun value => next value other := by
      intro other heq
      rw [← heq]
      rfl
    rw [hstep weather hsame, hstep weather.deaths hdies, hstep .undisturbed rfl]
    cases run .undisturbed state with
    | returned value mid => exact hnext value mid
    | raised error mid => exact Or.inl ⟨rfl, rfl⟩
    | crashed mid => exact Or.inl ⟨rfl, rfl⟩
  · refine Or.inr ⟨error, last, ?_, ?_⟩
    · change (run weather state).andThen _ = _
      rw [hraised]
      rfl
    · change (run weather.deaths state).andThen _ = _
      rw [hcrashed]
      rfl

/-- A handler that raises again, whatever it raises. -/
theorem rethrow {handler : ε → Run π σ ε α} (hrun : Cut weather run)
    (hhandler : ∀ error, ∃ other, handler error = Run.raise other) :
    Cut weather (Run.attempt run handler) := by
  intro state
  unfold Run.attempt
  rcases hrun state with ⟨hsame, hdies⟩ | ⟨error, last, hraised, hcrashed⟩
  · rw [hsame, hdies]
    cases run .undisturbed state with
    | returned value mid => exact Or.inl ⟨rfl, rfl⟩
    | raised error mid =>
      obtain ⟨other, hother⟩ := hhandler error
      simp only [hother]
      exact Or.inl ⟨rfl, rfl⟩
    | crashed mid => exact Or.inl ⟨rfl, rfl⟩
  · rw [hraised, hcrashed]
    obtain ⟨other, hother⟩ := hhandler error
    simp only [hother]
    exact Or.inr ⟨other, last, rfl, rfl⟩

theorem ite {cond : Prop} [Decidable cond] {yes no : Run π σ ε α} (hyes : Cut weather yes)
    (hno : Cut weather no) : Cut weather (if cond then yes else no) := by
  split
  · exact hyes
  · exact hno

theorem forEach {ι : Type} {items : List ι} {body : ι → Run π σ ε Unit}
    (hbody : ∀ item, Cut weather (body item)) : Cut weather (Run.forEach items body) := by
  induction items with
  | nil => exact pure
  | cons item rest ih => exact bind (hbody item) fun _ => ih

end Cut

/-! ### Runs without failing calls -/

/-- No call of the run fails. -/
def Quiet (weather : Disturbance π σ ε) (run : Run π σ ε α) : Prop :=
  ∀ state, run weather state = run .undisturbed state

namespace Quiet

theorem operation (hfails : weather.OnlyFails) {point : π} (hfault : weather.fault point = none)
    {action : σ → Except ε (α × σ)} : Quiet weather (Run.operation point action) := by
  intro state
  simp [Run.operation, Disturbance.undisturbed, hfails.alive, hfails.before, hfault]

theorem look (hfails : weather.OnlyFails) {point : π} (hfault : weather.fault point = none)
    {see : σ → Except ε α} : Quiet weather (Run.look point see) :=
  operation hfails hfault

theorem act (hfails : weather.OnlyFails) {point : π} (hfault : weather.fault point = none)
    {step : σ → Except ε σ} : Quiet weather (Run.act point step) :=
  operation hfails hfault

theorem pure {value : α} : Quiet weather (Pure.pure value : Run π σ ε α) := fun _ => rfl

theorem raise {error : ε} : Quiet weather (Run.raise error : Run π σ ε α) := fun _ => rfl

theorem bind {next : α → Run π σ ε β} (hrun : Quiet weather run)
    (hnext : ∀ value, Quiet weather (next value)) : Quiet weather (run >>= next) := by
  intro state
  change (run weather state).andThen _ = (run .undisturbed state).andThen _
  rw [hrun state]
  cases run .undisturbed state with
  | returned value mid => exact hnext value mid
  | raised error mid => rfl
  | crashed mid => rfl

theorem attempt {handler : ε → Run π σ ε α} (hrun : Quiet weather run)
    (hhandler : ∀ error, Quiet weather (handler error)) :
    Quiet weather (Run.attempt run handler) := by
  intro state
  unfold Run.attempt
  rw [hrun state]
  cases run .undisturbed state with
  | returned value mid => rfl
  | raised error mid => exact hhandler error mid
  | crashed mid => rfl

theorem ite {cond : Prop} [Decidable cond] {yes no : Run π σ ε α} (hyes : Quiet weather yes)
    (hno : Quiet weather no) : Quiet weather (if cond then yes else no) := by
  split
  · exact hyes
  · exact hno

theorem forEach {ι : Type} {items : List ι} {body : ι → Run π σ ε Unit}
    (hbody : ∀ item, Quiet weather (body item)) : Quiet weather (Run.forEach items body) := by
  induction items with
  | nil => exact pure
  | cons item rest ih => exact bind (hbody item) fun _ => ih

end Quiet

end DisturbedRuns
