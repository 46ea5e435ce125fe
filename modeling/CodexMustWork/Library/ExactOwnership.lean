import Mathlib.Data.List.Induction
import Mathlib.Data.Option.Basic

/-!
# Exact ownership

A place that nobody has, that is promised to somebody or that somebody holds.  A move that
gives the place away needs it to be free, or promised to the one who takes it; a move that
gives it back names the one who has it.  So whoever has the place keeps it until a move
that names them.
-/

namespace ExactOwnership

variable {τ : Type*}

inductive Ownership (τ : Type*) where
  | free
  | promised (who : τ)
  | held (who : τ)
deriving DecidableEq

/-- Who has the place, by a promise or in fact. -/
def Ownership.holder : Ownership τ → Option τ
  | .free => none
  | .promised who => some who
  | .held who => some who

/-- The moves; `reset` stands for one that does not look at who has the place. -/
inductive Move (τ : Type*) where
  | keep
  | promise (who : τ)
  | take (who : τ)
  | withdraw (who : τ)
  | release (who : τ)
  | reset (owner : Ownership τ)

/-- What a move needs, and what it leaves. -/
def Move.Allowed : Move τ → Ownership τ → Ownership τ → Prop
  | .keep, owner, next => next = owner
  | .promise who, owner, next => owner = .free ∧ next = .promised who
  | .take who, owner, next => (owner = .free ∨ owner = .promised who) ∧ next = .held who
  | .withdraw who, owner, next => owner = .promised who ∧ next = .free
  | .release who, owner, next => owner = .held who ∧ next = .free
  | .reset owner, _, next => next = owner

/-- The moves that can end what somebody has. -/
def Move.Ends (who : τ) : Move τ → Prop
  | .withdraw other => other = who
  | .release other => other = who
  | .reset _ => True
  | _ => False

/-- The moves that give the place to somebody. -/
def Move.Gives : Move τ → Option τ
  | .promise who => some who
  | .take who => some who
  | _ => none

variable {move : Move τ} {owner next : Ownership τ} {who : τ}

theorem Ownership.holder_eq_some {owner : Ownership τ} :
    owner.holder = some who ↔ owner = .promised who ∨ owner = .held who := by
  cases owner <;> simp [Ownership.holder]

/-- A move that does not end what somebody has leaves it, and gives the place to nobody else. -/
theorem Move.Allowed.keeps (hallowed : move.Allowed owner next) (hholder : owner.holder = some who)
    (hends : ¬ move.Ends who) :
    next.holder = some who ∧ (move.Gives = none ∨ move.Gives = some who) := by
  cases move with
  | keep => exact ⟨hallowed ▸ hholder, Or.inl rfl⟩
  | promise other =>
    obtain ⟨rfl, -⟩ := hallowed
    cases hholder
  | take other =>
    obtain ⟨rfl | rfl, rfl⟩ := hallowed
    · cases hholder
    · exact ⟨hholder, Or.inr hholder⟩
  | withdraw other =>
    obtain ⟨rfl, -⟩ := hallowed
    exact absurd (Option.some.inj hholder) hends
  | release other =>
    obtain ⟨rfl, -⟩ := hallowed
    exact absurd (Option.some.inj hholder) hends
  | reset owner => exact absurd trivial hends

end ExactOwnership
