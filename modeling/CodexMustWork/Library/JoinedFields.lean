import Mathlib.Data.List.Basic

/-!
# Fields joined by a separator

A text built by joining fields with a separator character determines the fields
that do not contain it, read from either end.  These are the two cancellation
rules, on lists and on strings, and the fact that printed naturals are free of
every separator that is no digit.
-/

namespace JoinedFields

section Lists

variable {α : Type*} {sep : α}

/-- The field before the first separator is determined. -/
theorem append_sep_left_inj {left left' right right' : List α}
    (hleft : sep ∉ left) (hleft' : sep ∉ left') :
    left ++ sep :: right = left' ++ sep :: right' ↔ left = left' ∧ right = right' := by
  induction left generalizing left' with
  | nil =>
      cases left' with
      | nil => simp
      | cons head tail =>
          have hne : sep ≠ head := fun heq => hleft' (by simp [heq])
          simp [hne]
  | cons head tail ih =>
      have hne : head ≠ sep := fun heq => hleft (by simp [heq])
      cases left' with
      | nil => simp [hne]
      | cons head' tail' =>
          have htail : sep ∉ tail := fun hmem => hleft (List.mem_cons_of_mem _ hmem)
          have htail' : sep ∉ tail' := fun hmem => hleft' (List.mem_cons_of_mem _ hmem)
          simp only [List.cons_append, List.cons.injEq, ih htail htail', and_assoc]

/-- The field after the last separator is determined. -/
theorem append_sep_right_inj {left left' right right' : List α}
    (hright : sep ∉ right) (hright' : sep ∉ right') :
    left ++ sep :: right = left' ++ sep :: right' ↔ left = left' ∧ right = right' := by
  constructor
  · intro heq
    have hreverse : right.reverse ++ sep :: left.reverse =
        right'.reverse ++ sep :: left'.reverse := by
      simpa using congrArg List.reverse heq
    obtain ⟨hr, hl⟩ := (append_sep_left_inj (by simpa using hright)
      (by simpa using hright')).mp hreverse
    exact ⟨List.reverse_injective hl, List.reverse_injective hr⟩
  · rintro ⟨rfl, rfl⟩
    rfl

end Lists

/-- `sep` does not occur in `text`. -/
def Free (sep : Char) (text : String) : Prop := sep ∉ text.toList

instance (sep : Char) (text : String) : Decidable (Free sep text) := by
  unfold Free; infer_instance

/-- Two fields joined by a separator. -/
def join (sep : Char) (left right : String) : String :=
  left ++ String.singleton sep ++ right

theorem toList_join (sep : Char) (left right : String) :
    (join sep left right).toList = left.toList ++ sep :: right.toList := by
  simp [join]

theorem join_left_inj {sep : Char} {left left' right right' : String}
    (hleft : Free sep left) (hleft' : Free sep left') :
    join sep left right = join sep left' right' ↔ left = left' ∧ right = right' := by
  rw [← String.toList_inj, toList_join, toList_join, append_sep_left_inj hleft hleft',
    String.toList_inj, String.toList_inj]

theorem join_right_inj {sep : Char} {left left' right right' : String}
    (hright : Free sep right) (hright' : Free sep right') :
    join sep left right = join sep left' right' ↔ left = left' ∧ right = right' := by
  rw [← String.toList_inj, toList_join, toList_join, append_sep_right_inj hright hright',
    String.toList_inj, String.toList_inj]

theorem free_iff_count {sep : Char} {text : String} :
    Free sep text ↔ text.toList.count sep = 0 :=
  List.count_eq_zero.symm

/-- Separators are counted field by field. -/
theorem count_join (sep : Char) (left right : String) :
    (join sep left right).toList.count sep =
      left.toList.count sep + (right.toList.count sep + 1) := by
  rw [toList_join, List.count_append, List.count_cons_self]

/-- As many separators as fields allow make the other side free as well. -/
theorem join_inj_of_free {sep : Char} {left left' right right' : String} (hleft : Free sep left)
    (hright : Free sep right) :
    join sep left right = join sep left' right' ↔ left = left' ∧ right = right' := by
  constructor
  · intro heq
    have hcount := congrArg (fun text => text.toList.count sep) heq
    simp only [count_join, free_iff_count.mp hleft, free_iff_count.mp hright] at hcount
    have hleft' : Free sep left' := free_iff_count.mpr (by omega)
    exact (join_left_inj hleft hleft').mp heq
  · rintro ⟨rfl, rfl⟩
    rfl

theorem join_join_inj_of_free {sep : Char} {first first' second second' third third' : String}
    (hfirst : Free sep first) (hsecond : Free sep second) (hthird : Free sep third) :
    join sep first (join sep second third) = join sep first' (join sep second' third') ↔
      first = first' ∧ second = second' ∧ third = third' := by
  constructor
  · intro heq
    have hcount := congrArg (fun text => text.toList.count sep) heq
    simp only [count_join, free_iff_count.mp hfirst, free_iff_count.mp hsecond,
      free_iff_count.mp hthird] at hcount
    have hfirst' : Free sep first' := free_iff_count.mpr (by omega)
    obtain ⟨hfirstEq, hrest⟩ := (join_left_inj hfirst hfirst').mp heq
    obtain ⟨hsecondEq, hthirdEq⟩ := (join_inj_of_free hsecond hthird).mp hrest
    exact ⟨hfirstEq, hsecondEq, hthirdEq⟩
  · rintro ⟨rfl, rfl, rfl⟩
    rfl

theorem join_assoc (sep : Char) (first second third : String) :
    join sep (join sep first second) third = join sep first (join sep second third) := by
  simp [← String.toList_inj, toList_join]

/-- Printed naturals are determined by their text. -/
theorem repr_eq_repr_iff {m n : Nat} : m.repr = n.repr ↔ m = n := by
  constructor
  · intro heq
    have hdigits : Nat.toDigits 10 m = Nat.toDigits 10 n := by
      rw [← Nat.toList_repr, ← Nat.toList_repr, heq]
    simpa using congrArg (fun digits => Nat.ofDigitChars 10 digits 0) hdigits
  · rintro rfl
    rfl

theorem free_repr {sep : Char} (hsep : sep.isDigit = false) (n : Nat) : Free sep n.repr := by
  intro hmem
  rw [Nat.toList_repr] at hmem
  have hdigit := Nat.isDigit_of_mem_toDigits (by decide) (by decide) hmem
  rw [hsep] at hdigit
  exact Bool.false_ne_true hdigit

end JoinedFields
