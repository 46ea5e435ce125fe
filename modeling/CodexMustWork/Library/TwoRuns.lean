import Mathlib.Logic.Basic

/-!
# Two runs in lockstep

State transformers that read only what two states have alike, and that change a
state only by writes from a fixed repertoire.  From alike states two runs of
such a transformer return the same result and make the same writes, so they end
in states that are alike again; and what holds of every allowed write holds of
a whole run.
-/

namespace TwoRuns

/-- How a state is written, which writes are allowed, and what two states have alike. -/
structure Frame (σ ω : Type) where
  apply : σ → ω → σ
  Allowed : ω → Prop
  Alike : σ → σ → Prop
  refl : ∀ state, Alike state state
  keeps : ∀ {left right : σ} {write : ω}, Allowed write → Alike left right →
    Alike (apply left write) (apply right write)

namespace Frame

variable {σ ω α β : Type} (frame : Frame σ ω)

/-- The allowed writes in turn. -/
def applyAll (state : σ) (writes : List ω) : σ := writes.foldl frame.apply state

/-- The same allowed writes lead from `left` to `left'` and from `right` to `right'`. -/
def Lockstep (left right left' right' : σ) : Prop :=
  ∃ writes : List ω, (∀ write ∈ writes, frame.Allowed write) ∧
    left' = frame.applyAll left writes ∧ right' = frame.applyAll right writes

/-- The result of a run and what it writes depend only on what alike states share. -/
def Uniform (run : σ → σ × α) : Prop :=
  ∀ left right : σ, frame.Alike left right →
    (run left).2 = (run right).2 ∧ frame.Lockstep left right (run left).1 (run right).1

/-- A run without a result. -/
def Steps (step : σ → σ) : Prop := frame.Uniform fun state => (step state, ())

variable {frame}

theorem alike_applyAll {writes : List ω} (hallowed : ∀ write ∈ writes, frame.Allowed write)
    {left right : σ} (halike : frame.Alike left right) :
    frame.Alike (frame.applyAll left writes) (frame.applyAll right writes) := by
  induction writes generalizing left right with
  | nil => exact halike
  | cons write rest ih =>
      exact ih (fun other hother => hallowed other (List.mem_cons_of_mem _ hother))
        (frame.keeps (hallowed write (List.mem_cons_self ..)) halike)

namespace Lockstep

theorem refl (left right : σ) : frame.Lockstep left right left right :=
  ⟨[], fun _ hmem => absurd hmem List.not_mem_nil, rfl, rfl⟩

theorem trans {left₁ right₁ left₂ right₂ left₃ right₃ : σ}
    (h₁ : frame.Lockstep left₁ right₁ left₂ right₂)
    (h₂ : frame.Lockstep left₂ right₂ left₃ right₃) :
    frame.Lockstep left₁ right₁ left₃ right₃ := by
  obtain ⟨first, hfirst, rfl, rfl⟩ := h₁
  obtain ⟨second, hsecond, rfl, rfl⟩ := h₂
  refine ⟨first ++ second, ?_, ?_, ?_⟩
  · intro write hmem
    rcases List.mem_append.mp hmem with hmem | hmem
    · exact hfirst write hmem
    · exact hsecond write hmem
  · exact List.foldl_append.symm
  · exact List.foldl_append.symm

theorem of_write {write : ω} (hallowed : frame.Allowed write) (left right : σ) :
    frame.Lockstep left right (frame.apply left write) (frame.apply right write) := by
  refine ⟨[write], ?_, rfl, rfl⟩
  intro other hmem
  rw [List.mem_singleton.mp hmem]
  exact hallowed

theorem alike {left right left' right' : σ}
    (hstep : frame.Lockstep left right left' right') (halike : frame.Alike left right) :
    frame.Alike left' right' := by
  obtain ⟨writes, hallowed, rfl, rfl⟩ := hstep
  exact alike_applyAll hallowed halike

end Lockstep

/-! ### How runs compose -/

theorem uniform_pure (result : α) : frame.Uniform fun state => (state, result) :=
  fun _ _ _ => ⟨rfl, Lockstep.refl _ _⟩

/-- A run continued by what its result asks for. -/
theorem Uniform.bind_of_range {first : σ → σ × α} {whole : σ → σ × β}
    (hfirst : frame.Uniform first) (next : α → σ → σ × β)
    (heq : ∀ state, whole state = next (first state).2 (first state).1)
    (hnext : ∀ state, frame.Uniform (next (first state).2)) : frame.Uniform whole := by
  intro left right halike
  obtain ⟨hresult, hstep⟩ := hfirst left right halike
  obtain ⟨hlast, hmore⟩ := hnext left _ _ (hstep.alike halike)
  rw [heq, heq, ← hresult]
  exact ⟨hlast, hstep.trans hmore⟩

theorem Uniform.bind {first : σ → σ × α} {whole : σ → σ × β} (hfirst : frame.Uniform first)
    (next : α → σ → σ × β) (heq : ∀ state, whole state = next (first state).2 (first state).1)
    (hnext : ∀ result, frame.Uniform (next result)) : frame.Uniform whole :=
  hfirst.bind_of_range next heq fun _ => hnext _

/-- A run that first looks at what alike states share. -/
theorem Uniform.read {whole : σ → σ × β} (look : σ → α) (run : α → σ → σ × β)
    (heq : ∀ state, whole state = run (look state) state)
    (hlook : ∀ left right : σ, frame.Alike left right → look left = look right)
    (hrun : ∀ seen, frame.Uniform (run seen)) : frame.Uniform whole := by
  have hfirst : frame.Uniform fun state => (state, look state) :=
    fun _ _ halike => ⟨hlook _ _ halike, Lockstep.refl _ _⟩
  exact hfirst.bind run heq hrun

theorem Steps.then {step : σ → σ} {run : σ → σ × α} (hstep : frame.Steps step)
    (hrun : frame.Uniform run) : frame.Uniform fun state => run (step state) :=
  hstep.bind (fun _ => run) (fun _ => rfl) fun _ => hrun

theorem Steps.comp {first second : σ → σ} (hfirst : frame.Steps first)
    (hsecond : frame.Steps second) : frame.Steps fun state => second (first state) :=
  Steps.then hfirst hsecond

theorem steps_id : frame.Steps fun state => state := uniform_pure ()

theorem steps_ite {condition : Prop} [Decidable condition] {yes no : σ → σ}
    (hyes : frame.Steps yes) (hno : frame.Steps no) :
    frame.Steps fun state => if condition then yes state else no state := by
  by_cases hcondition : condition
  · simpa only [if_pos hcondition] using hyes
  · simpa only [if_neg hcondition] using hno

/-- Steps for the items of a list, one after the other. -/
theorem steps_foldl {ι : Type} {step : σ → ι → σ} {items : List ι}
    (hstep : ∀ item ∈ items, frame.Steps fun state => step state item) :
    frame.Steps fun state => items.foldl step state := by
  induction items with
  | nil => exact steps_id
  | cons item rest ih =>
      have hrest := ih fun other hother => hstep other (List.mem_cons_of_mem _ hother)
      exact Steps.comp (hstep item (List.mem_cons_self ..)) hrest

/-- What one run does is a sequence of allowed writes. -/
theorem Uniform.writes {run : σ → σ × α} (hrun : frame.Uniform run) (state : σ) :
    ∃ writes : List ω, (∀ write ∈ writes, frame.Allowed write) ∧
      (run state).1 = frame.applyAll state writes := by
  obtain ⟨_, writes, hallowed, hleft, _⟩ := hrun state state (frame.refl state)
  exact ⟨writes, hallowed, hleft⟩

end Frame

end TwoRuns
