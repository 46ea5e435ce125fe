import Mathlib.Data.List.Forall2
import Mathlib.Data.List.Perm.Basic

/-!
# Traversals that stop at the first failure

Mapping a function that can fail over a list gives one result for each item, in
the order of the items; whether it succeeds does not depend on that order.
-/

namespace Traversal

variable {ε α β : Type*}

/-- A traversal that succeeds gave each item its result. -/
theorem forall₂_of_mapM {convert : α → Except ε β} {items : List α} {results : List β}
    (hmap : items.mapM convert = .ok results) :
    List.Forall₂ (fun item result => convert item = .ok result) items results := by
  induction items generalizing results with
  | nil =>
      obtain rfl := Except.ok.inj hmap
      exact List.Forall₂.nil
  | cons item rest ih =>
      rw [List.mapM_cons] at hmap
      cases hitem : convert item with
      | error failure =>
          rw [hitem] at hmap
          cases hmap
      | ok result =>
          cases hrest : rest.mapM convert with
          | error failure =>
              rw [hitem, hrest] at hmap
              cases hmap
          | ok more =>
              rw [hitem, hrest] at hmap
              obtain rfl := Except.ok.inj hmap
              exact List.Forall₂.cons hitem (ih hrest)

/-- A traversal whose items all have results gives these. -/
theorem mapM_of_forall₂ {convert : α → Except ε β} {items : List α} {results : List β}
    (hall : List.Forall₂ (fun item result => convert item = .ok result) items results) :
    items.mapM convert = .ok results := by
  induction hall with
  | nil => rfl
  | cons hitem _ ih =>
      rw [List.mapM_cons, hitem, ih]
      rfl

/-- In another order the items give the same results, in another order. -/
theorem mapM_perm {convert : α → Except ε β} {items others : List α} {results : List β}
    (hperm : others.Perm items) (hmap : items.mapM convert = .ok results) :
    ∃ found, others.mapM convert = .ok found ∧ found.Perm results := by
  obtain ⟨found, hall, hfound⟩ := List.perm_comp_forall₂ hperm (forall₂_of_mapM hmap)
  exact ⟨found, mapM_of_forall₂ hall, hfound⟩

theorem exists_result {R : α → β → Prop} {items : List α} {results : List β}
    (hall : List.Forall₂ R items results) {item : α} (hmem : item ∈ items) :
    ∃ result ∈ results, R item result := by
  induction hall with
  | nil => exact absurd hmem List.not_mem_nil
  | cons hfirst hrest ih =>
      rcases List.mem_cons.mp hmem with rfl | hmem
      · exact ⟨_, List.mem_cons_self, hfirst⟩
      · obtain ⟨result, hresult, hrel⟩ := ih hmem
        exact ⟨result, List.mem_cons_of_mem _ hresult, hrel⟩

theorem exists_item {R : α → β → Prop} {items : List α} {results : List β}
    (hall : List.Forall₂ R items results) {result : β} (hmem : result ∈ results) :
    ∃ item ∈ items, R item result := by
  induction hall with
  | nil => exact absurd hmem List.not_mem_nil
  | cons hfirst hrest ih =>
      rcases List.mem_cons.mp hmem with rfl | hmem
      · exact ⟨_, List.mem_cons_self, hfirst⟩
      · obtain ⟨item, hitem, hrel⟩ := ih hmem
        exact ⟨item, List.mem_cons_of_mem _ hitem, hrel⟩

end Traversal
