import Mathlib.Data.List.Induction

/-!
# Deterministic machines and their runs

A machine moves a state on each input and produces an output.  A run feeds it a
list of inputs.  The rules here are the ones a development about such a machine
needs: runs split at every point, an invariant kept by each step holds after
every run, a property of the whole history is proved one input at a time, and
two machines related by a simulation produce the same outputs.

`Along` says that each item of a list stands in some relation to the items
before it, which is the form most statements about outputs have, and `Since`
that some item is followed by items of one kind only.
-/

/-- Each item of a list satisfies `P` against the items before it. -/
def Along {α : Type*} (P : List α → α → Prop) (items : List α) : Prop :=
  ∀ past item, past ++ [item] <+: items → P past item

namespace Along

variable {α : Type*} {P Q : List α → α → Prop} {items : List α}

theorem nil : Along P [] := by
  intro past item hextends
  have hempty := List.prefix_nil.mp hextends
  simp at hempty

theorem concat {last : α} (hitems : Along P items) (hlast : P items last) :
    Along P (items ++ [last]) := by
  intro past item hextends
  rcases List.prefix_concat_iff.mp hextends with heq | hearlier
  · obtain ⟨rfl, hitem⟩ := List.append_inj' heq rfl
    obtain rfl := List.singleton_inj.mp hitem
    exact hlast
  · exact hitems past item hearlier

theorem of_concat {last : α} (hitems : Along P (items ++ [last])) : Along P items ∧ P items last :=
  ⟨fun past item hextends => hitems past item (hextends.trans (List.prefix_append items [last])),
    hitems items last (List.prefix_refl _)⟩

theorem concat_iff {last : α} : Along P (items ++ [last]) ↔ Along P items ∧ P items last :=
  ⟨of_concat, fun hboth => hboth.1.concat hboth.2⟩

end Along

/-- Some item satisfies `P`, and every item after it satisfies `Q`. -/
def Since {α : Type*} (P Q : α → Prop) (items : List α) : Prop :=
  ∃ before item after, items = before ++ item :: after ∧ P item ∧ ∀ later ∈ after, Q later

namespace Since

variable {α : Type*} {P Q : α → Prop} {items : List α} {last : α}

theorem not_nil : ¬ Since P Q [] := by
  rintro ⟨before, item, after, hsplit, _⟩
  simp at hsplit

theorem concat_iff : Since P Q (items ++ [last]) ↔ P last ∨ (Since P Q items ∧ Q last) := by
  constructor
  · rintro ⟨before, item, after, hsplit, hitem, hafter⟩
    rcases List.eq_nil_or_concat after with rfl | ⟨earlier, final, rfl⟩
    · obtain ⟨rfl, hlast⟩ := List.append_inj' hsplit rfl
      obtain rfl := List.singleton_inj.mp hlast
      exact Or.inl hitem
    · right
      rw [List.concat_eq_append] at hsplit hafter
      rw [← List.cons_append, ← List.append_assoc] at hsplit
      obtain ⟨rfl, hlast⟩ := List.append_inj' hsplit rfl
      obtain rfl := List.singleton_inj.mp hlast
      exact ⟨⟨before, item, earlier, rfl, hitem,
        fun later hlater => hafter later (List.mem_append_left _ hlater)⟩,
        hafter last (List.mem_append_right _ (List.mem_singleton_self _))⟩
  · rintro (hlast | ⟨⟨before, item, after, rfl, hitem, hafter⟩, hlast⟩)
    · exact ⟨items, last, [], rfl, hlast, fun later hlater => absurd hlater List.not_mem_nil⟩
    · refine ⟨before, item, after ++ [last], by simp, hitem, ?_⟩
      intro later hlater
      rcases List.mem_append.mp hlater with hlater | hlater
      · exact hafter later hlater
      · rw [List.mem_singleton.mp hlater]
        exact hlast

/-- The last item that satisfies `P` is one the others follow. -/
theorem strict (hsince : Since P Q items) : Since P (fun item => Q item ∧ ¬ P item) items := by
  induction items using List.reverseRecOn with
  | nil => exact absurd hsince not_nil
  | append_singleton past item ih =>
    rw [concat_iff] at hsince ⊢
    by_cases hitem : P item
    · exact Or.inl hitem
    · rcases hsince with hlast | ⟨hpast, hlast⟩
      · exact absurd hlast hitem
      · exact Or.inr ⟨ih hpast, hlast, hitem⟩

end Since

/-- A deterministic machine with outputs. -/
structure Machine (σ ι ο : Type*) where
  step : σ → ι → σ × ο

namespace Machine

variable {σ τ ι ο : Type*}

/-- The state after a list of inputs. -/
def after (M : Machine σ ι ο) (state : σ) : List ι → σ
  | [] => state
  | input :: inputs => M.after (M.step state input).1 inputs

/-- The outputs along a list of inputs, one for each. -/
def outputs (M : Machine σ ι ο) (state : σ) : List ι → List ο
  | [] => []
  | input :: inputs => (M.step state input).2 :: M.outputs (M.step state input).1 inputs

variable (M : Machine σ ι ο)

@[simp] theorem after_nil (state : σ) : M.after state [] = state := rfl

@[simp] theorem after_cons (state : σ) (input : ι) (inputs : List ι) :
    M.after state (input :: inputs) = M.after (M.step state input).1 inputs := rfl

@[simp] theorem outputs_nil (state : σ) : M.outputs state [] = [] := rfl

@[simp] theorem outputs_cons (state : σ) (input : ι) (inputs : List ι) :
    M.outputs state (input :: inputs) =
      (M.step state input).2 :: M.outputs (M.step state input).1 inputs := rfl

theorem after_append (state : σ) (first second : List ι) :
    M.after state (first ++ second) = M.after (M.after state first) second := by
  induction first generalizing state with
  | nil => rfl
  | cons input rest ih => exact ih _

theorem outputs_append (state : σ) (first second : List ι) :
    M.outputs state (first ++ second) =
      M.outputs state first ++ M.outputs (M.after state first) second := by
  induction first generalizing state with
  | nil => rfl
  | cons input rest ih => simp [ih]

theorem after_concat (state : σ) (inputs : List ι) (input : ι) :
    M.after state (inputs ++ [input]) = (M.step (M.after state inputs) input).1 := by
  rw [after_append]; rfl

theorem outputs_concat (state : σ) (inputs : List ι) (input : ι) :
    M.outputs state (inputs ++ [input]) =
      M.outputs state inputs ++ [(M.step (M.after state inputs) input).2] := by
  rw [outputs_append]; rfl

@[simp] theorem length_outputs (state : σ) (inputs : List ι) :
    (M.outputs state inputs).length = inputs.length := by
  induction inputs generalizing state with
  | nil => rfl
  | cons input rest ih => simp [ih]

/-- **History induction.**  A property of the inputs so far, the state they lead to
    and the outputs they produced holds of a whole run when it holds at the start
    and each further input of that run keeps it. -/
theorem history_induction {state : σ} {inputs : List ι}
    (P : List ι → σ → List ο → Prop) (hstart : P [] state [])
    (hstep : ∀ past input, past ++ [input] <+: inputs →
      P past (M.after state past) (M.outputs state past) →
      P (past ++ [input]) (M.step (M.after state past) input).1
        (M.outputs state past ++ [(M.step (M.after state past) input).2])) :
    P inputs (M.after state inputs) (M.outputs state inputs) := by
  have key : ∀ past, past <+: inputs → P past (M.after state past) (M.outputs state past) := by
    intro past
    induction past using List.reverseRecOn with
    | nil => exact fun _ => hstart
    | append_singleton past input ih =>
        intro hextends
        have hpast : past <+: inputs := (List.prefix_append past [input]).trans hextends
        rw [after_concat, outputs_concat]
        exact hstep past input hextends (ih hpast)
  exact key inputs (List.prefix_refl inputs)

/-- Each step of a run satisfies `P` in the state in which it is taken. -/
def Guarded (M : Machine σ ι ο) (P : σ → ι → Prop) (state : σ) : List ι → Prop
  | [] => True
  | input :: inputs => P state input ∧ M.Guarded P (M.step state input).1 inputs

theorem guarded_append {P : σ → ι → Prop} (state : σ) (first second : List ι) :
    M.Guarded P state (first ++ second) ↔
      M.Guarded P state first ∧ M.Guarded P (M.after state first) second := by
  induction first generalizing state with
  | nil => exact (iff_of_eq (true_and _)).symm
  | cons input rest ih =>
      change _ ∧ M.Guarded P _ (rest ++ second) ↔ (_ ∧ _) ∧ _
      rw [ih, and_assoc]
      rfl

/-- A guarded run is guarded at every one of its steps. -/
theorem Guarded.at_prefix {P : σ → ι → Prop} {state : σ} {inputs past : List ι} {input : ι}
    (hguarded : M.Guarded P state inputs) (hextends : past ++ [input] <+: inputs) :
    P (M.after state past) input := by
  obtain ⟨rest, rfl⟩ := hextends
  rw [List.append_assoc, guarded_append] at hguarded
  exact hguarded.2.1

theorem Guarded.of_prefix {P : σ → ι → Prop} {state : σ} {inputs past : List ι}
    (hguarded : M.Guarded P state inputs) (hextends : past <+: inputs) :
    M.Guarded P state past := by
  obtain ⟨rest, rfl⟩ := hextends
  exact ((M.guarded_append state past rest).mp hguarded).1

/-- An invariant kept by every allowed input holds after every run of them. -/
theorem invariant_after {Inv : σ → Prop} {Allowed : ι → Prop}
    (hstep : ∀ state input, Inv state → Allowed input → Inv (M.step state input).1)
    {state : σ} {inputs : List ι} (hstart : Inv state)
    (hallowed : ∀ input ∈ inputs, Allowed input) : Inv (M.after state inputs) := by
  induction inputs generalizing state with
  | nil => exact hstart
  | cons input rest ih =>
      exact ih (hstep state input hstart (hallowed input (by simp)))
        fun other hother => hallowed other (by simp [hother])

/-- **Guards.**  When an invariant and a guard on the steps give a fact about each step and
    keep the invariant, a run with the guard has the fact at every step. -/
theorem Guarded.imp_of_invariant {Inv : σ → Prop} {P Q : σ → ι → Prop}
    (hstep : ∀ state input, Inv state → P state input →
      Q state input ∧ Inv (M.step state input).1)
    {state : σ} {inputs : List ι} (hstart : Inv state) (hguarded : M.Guarded P state inputs) :
    M.Guarded Q state inputs := by
  induction inputs generalizing state with
  | nil => trivial
  | cons input rest ih =>
      obtain ⟨hguard, hrest⟩ := hguarded
      obtain ⟨hfact, hnext⟩ := hstep state input hstart hguard
      exact ⟨hfact, ih hnext hrest⟩

/-- **Exact guard.**  When the steps that break an invariant are known exactly, the
    invariant holds all along a run exactly when the run takes none of them. -/
theorem invariant_along_iff {Inv : σ → Prop} {Breaks : σ → ι → Prop}
    (hstep : ∀ state input, Inv state → (Inv (M.step state input).1 ↔ ¬ Breaks state input))
    {state : σ} {inputs : List ι} (hstart : Inv state) :
    (∀ past, past <+: inputs → Inv (M.after state past)) ↔
      M.Guarded (fun state input => ¬ Breaks state input) state inputs := by
  induction inputs generalizing state with
  | nil =>
      refine ⟨fun _ => trivial, ?_⟩
      intro _ past hextends
      rw [List.prefix_nil.mp hextends]
      exact hstart
  | cons input rest ih =>
      constructor
      · intro halong
        have hnext : Inv (M.step state input).1 := halong [input] ⟨rest, rfl⟩
        refine ⟨(hstep state input hstart).mp hnext, (ih hnext).mp ?_⟩
        intro past hextends
        exact halong (input :: past) (List.cons_prefix_cons.mpr ⟨rfl, hextends⟩)
      · rintro ⟨hkeeps, hguarded⟩ past hextends
        have hnext : Inv (M.step state input).1 := (hstep state input hstart).mpr hkeeps
        cases past with
        | nil => exact hstart
        | cons first later =>
            obtain ⟨rfl, hlater⟩ := List.cons_prefix_cons.mp hextends
            exact (ih hnext).mpr hguarded later hlater

/-- **Simulation.**  A relation kept by every step, on which the outputs agree, makes
    two machines produce the same outputs along a run.  What a step may assume of
    its input can depend on the inputs before it. -/
theorem outputs_eq_of_simulation {N : Machine τ ι ο} {R : List ι → σ → τ → Prop}
    {left : σ} {right : τ} {inputs : List ι} (hstart : R [] left right)
    (hstep : ∀ past input, past ++ [input] <+: inputs →
      R past (M.after left past) (N.after right past) →
      (M.step (M.after left past) input).2 = (N.step (N.after right past) input).2 ∧
        R (past ++ [input]) (M.step (M.after left past) input).1
          (N.step (N.after right past) input).1) :
    M.outputs left inputs = N.outputs right inputs ∧
      R inputs (M.after left inputs) (N.after right inputs) := by
  refine @history_induction _ _ _ M left inputs
    (fun past state outs => outs = N.outputs right past ∧ R past state (N.after right past))
    ⟨rfl, hstart⟩ ?_
  rintro past input hextends ⟨houts, hrel⟩
  obtain ⟨hout, hnext⟩ := hstep past input hextends hrel
  rw [N.after_concat, N.outputs_concat, ← houts, hout]
  exact ⟨rfl, hnext⟩

/-- **Stuttering.**  Inputs that produce nothing and keep the two machines related can be
    left out on the right: both runs produce the same things in all. -/
theorem outputs_filter_of_simulation {M : Machine σ ι (List ο)} {N : Machine τ ι (List ο)}
    {keep : ι → Bool} {R : List ι → σ → τ → Prop} {left : σ} {right : τ} {inputs : List ι}
    (hstart : R [] left right)
    (hkept : ∀ past input, past ++ [input] <+: inputs → keep input = true →
      R past (M.after left past) (N.after right (past.filter keep)) →
      (M.step (M.after left past) input).2 = (N.step (N.after right (past.filter keep)) input).2 ∧
        R (past ++ [input]) (M.step (M.after left past) input).1
          (N.step (N.after right (past.filter keep)) input).1)
    (hdropped : ∀ past input, past ++ [input] <+: inputs → keep input = false →
      R past (M.after left past) (N.after right (past.filter keep)) →
      (M.step (M.after left past) input).2 = [] ∧
        R (past ++ [input]) (M.step (M.after left past) input).1
          (N.after right (past.filter keep))) :
    (M.outputs left inputs).flatten = (N.outputs right (inputs.filter keep)).flatten := by
  refine (@history_induction _ _ _ M left inputs
    (fun past state outs => outs.flatten = (N.outputs right (past.filter keep)).flatten ∧
      R past state (N.after right (past.filter keep))) ⟨rfl, hstart⟩ ?_).1
  rintro past input hextends ⟨houts, hrel⟩
  rw [List.flatten_concat, List.filter_append, houts]
  cases hkeep : keep input with
  | true =>
      obtain ⟨hout, hnext⟩ := hkept past input hextends hkeep hrel
      rw [List.filter_cons_of_pos hkeep, List.filter_nil, N.after_concat, N.outputs_concat,
        List.flatten_concat, hout]
      exact ⟨rfl, hnext⟩
  | false =>
      obtain ⟨hout, hnext⟩ := hdropped past input hextends hkeep hrel
      rw [List.filter_cons_of_neg (by simp [hkeep]), List.filter_nil, hout, List.append_nil,
        List.append_nil]
      exact ⟨rfl, hnext⟩

end Machine
