import Mathlib.Logic.Basic

/-!
# Programs that may fail

What a success of a composed program says of its parts.
-/

namespace Fallible

variable {ε α β : Type*} {value : β}

theorem bind_eq_ok {ε α β : Type _} {first : Except ε α} {next : α → Except ε β} {value : β} :
    first >>= next = .ok value ↔ ∃ found, first = .ok found ∧ next found = .ok value := by
  cases first with
  | ok found =>
    constructor
    · intro hnext
      exact ⟨found, rfl, hnext⟩
    · rintro ⟨other, hsame, hnext⟩
      cases hsame
      exact hnext
  | error failure =>
    constructor
    · rintro ⟨⟩
    · rintro ⟨other, hsame, -⟩
      cases hsame

/-- A refusal in front of what follows. -/
theorem refuse_eq_ok {refused : Prop} [Decidable refused] {failure : ε} {rest : Except ε β} :
    (if refused then .error failure else rest) = .ok value ↔ ¬ refused ∧ rest = .ok value := by
  by_cases hrefused : refused
  · rw [if_pos hrefused]
    constructor
    · rintro ⟨⟩
    · rintro ⟨hnot, -⟩
      exact absurd hrefused hnot
  · rw [if_neg hrefused, and_iff_right hrefused]

/-- A condition without which there is a refusal. -/
theorem require_eq_ok {required : Prop} [Decidable required] {failure : ε} {rest : Except ε β} :
    (if required then rest else .error failure) = .ok value ↔ required ∧ rest = .ok value := by
  by_cases hrequired : required
  · rw [if_pos hrequired, and_iff_right hrequired]
  · rw [if_neg hrequired]
    constructor
    · rintro ⟨⟩
    · rintro ⟨hyes, -⟩
      exact absurd hyes hrequired

end Fallible
