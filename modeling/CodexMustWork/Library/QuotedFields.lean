import Mathlib.Data.List.Basic
import Mathlib.Data.List.Infix

/-!
# Quoted fields

Texts in which fields stand between quotes.  A run of quoted fields that occurs in a text
occurs as a run of the parts the text falls into at its quotes, and a text without line
ends that occurs among lines occurs in one of them.
-/

namespace QuotedFields

variable {α : Type*} [DecidableEq α] {quote : α}

/-- Fields with a quote before, between and after them. -/
def quoted (quote : α) : List (List α) → List α
  | [] => [quote]
  | field :: rest => quote :: (field ++ quoted quote rest)

theorem splitOn_quoted_append {fields : List (List α)} (hfree : ∀ field ∈ fields, quote ∉ field)
    (before after : List α) :
    (before ++ (quoted quote fields ++ after)).splitOn quote =
      before.splitOn quote ++ (fields ++ after.splitOn quote) := by
  induction fields generalizing before with
  | nil => exact List.splitOn_append_cons_self _ _
  | cons field rest ih =>
    have hrest := ih (fun other hother => hfree other (List.mem_cons_of_mem _ hother)) field
    rw [List.splitOn_eq_singleton (hfree field List.mem_cons_self)] at hrest
    rw [quoted, List.cons_append, List.append_assoc, List.splitOn_append_cons_self, hrest]
    rfl

/-- Quoted fields that occur in a text are parts of it, one after the other. -/
theorem fields_infix {fields : List (List α)} (hfree : ∀ field ∈ fields, quote ∉ field)
    {text : List α} (hrun : quoted quote fields <:+: text) :
    fields <:+: text.splitOn quote := by
  obtain ⟨before, after, rfl⟩ := hrun
  rw [List.append_assoc, splitOn_quoted_append hfree]
  exact ⟨_, _, List.append_assoc _ _ _⟩

omit [DecidableEq α] in
/-- A run that starts with an element that occurs once is found after it. -/
theorem tail_of_infix_once {first : α} {rest before after : List α} (hbefore : first ∉ before)
    (hafter : first ∉ after) (hrun : first :: rest <:+: before ++ first :: after) :
    rest <+: after := by
  obtain ⟨left, right, hsplit⟩ := hrun
  rw [List.append_assoc] at hsplit
  have hsides := (List.append_cons_inj_of_notMem hbefore hafter).mp hsplit.symm
  exact ⟨right, hsides.2.2.symm⟩

omit [DecidableEq α] in
/-- A text occurs in the texts that are joined. -/
theorem infix_intercalate {sep text : List α} {texts : List (List α)} (htext : text ∈ texts) :
    text <:+: sep.intercalate texts := by
  induction texts with
  | nil => exact absurd htext List.not_mem_nil
  | cons first rest ih =>
    cases rest with
    | nil =>
      rw [List.mem_singleton.mp htext, List.intercalate_singleton]
    | cons second others =>
      rw [List.intercalate_cons_cons]
      rcases List.mem_cons.mp htext with rfl | hrest
      · rw [List.append_assoc]
        exact (List.prefix_append _ _).isInfix
      · exact (ih hrest).trans (List.suffix_append _ _).isInfix

omit [DecidableEq α] in
/-- A text without the separator that occurs around it lies on one side. -/
theorem infix_append_cons {sep : α} {needle first second : List α} (hfree : sep ∉ needle)
    (hrun : needle <:+: first ++ sep :: second) : needle <:+: first ∨ needle <:+: second := by
  obtain ⟨before, after, hsplit⟩ := hrun
  rw [List.append_assoc] at hsplit
  rcases List.append_eq_append_iff.mp hsplit with ⟨middle, rfl, hrest⟩ | ⟨middle, rfl, hrest⟩
  · left
    rcases List.append_eq_append_iff.mp hrest with ⟨more, rfl, -⟩ | ⟨more, rfl, hafter⟩
    · exact ⟨before, more, List.append_assoc _ _ _⟩
    · rcases List.cons_eq_append_iff.mp hafter with ⟨rfl, -⟩ | ⟨others, rfl, -⟩
      · exact ⟨before, [], by simp⟩
      · exact absurd (by simp) hfree
  · rcases List.cons_eq_append_iff.mp hrest with ⟨rfl, hneedle⟩ | ⟨more, rfl, hsecond⟩
    · rcases List.append_eq_cons_iff.mp hneedle with ⟨rfl, -⟩ | ⟨others, rfl, -⟩
      · exact Or.inl List.nil_infix
      · exact absurd List.mem_cons_self hfree
    · right
      refine ⟨more, after, ?_⟩
      rw [hsecond, List.append_assoc]

omit [DecidableEq α] in
/-- A text without line ends that occurs among lines occurs in one of them. -/
theorem infix_flatten {sep : α} {needle : List α} (hfree : sep ∉ needle) (hne : needle ≠ [])
    {texts : List (List α)} (hrun : needle <:+: (texts.map (· ++ [sep])).flatten) :
    ∃ text ∈ texts, needle <:+: text := by
  induction texts with
  | nil => exact absurd (List.eq_nil_of_infix_nil hrun) hne
  | cons text rest ih =>
    rw [List.map_cons, List.flatten_cons, List.append_assoc] at hrun
    rcases infix_append_cons hfree hrun with hfirst | hrest
    · exact ⟨text, List.mem_cons_self, hfirst⟩
    · obtain ⟨other, hother, hfound⟩ := ih hrest
      exact ⟨other, List.mem_cons_of_mem _ hother, hfound⟩

end QuotedFields
