import Mathlib.Data.List.Basic

/-!
# Splicing edits into a text

An edit replaces a segment of a text.  Edits of disjoint segments in their order can be
applied one after the other from the back, and what comes out is the text between the
segments with the replacements in place of them: what is outside the segments is kept.
-/

namespace Splicing

variable {α : Type*}

structure Edit (α : Type*) where
  start : ℕ
  stop : ℕ
  replacement : List α

/-- The text from one position up to another. -/
def segment (text : List α) (start stop : ℕ) : List α := (text.take stop).drop start

def Edit.apply (edit : Edit α) (text : List α) : List α :=
  text.take edit.start ++ edit.replacement ++ text.drop edit.stop

/-- The last edit is applied first. -/
def applyBack (edits : List (Edit α)) (text : List α) : List α := edits.foldr Edit.apply text

/-- The rest of a text from a position on, with the edits made. -/
def spliced (text : List α) (position : ℕ) : List (Edit α) → List α
  | [] => text.drop position
  | edit :: rest =>
      segment text position edit.start ++ edit.replacement ++ spliced text edit.stop rest

/-- Edits of disjoint segments, in the order of the text. -/
structure Ordered (limit : ℕ) (edits : List (Edit α)) : Prop where
  disjoint : edits.Pairwise fun first second => first.stop ≤ second.start
  proper : ∀ edit ∈ edits, edit.start ≤ edit.stop ∧ edit.stop ≤ limit

variable {text : List α} {edits : List (Edit α)}

theorem Ordered.sublist {limit : ℕ} {fewer : List (Edit α)} (hordered : Ordered limit edits)
    (hfewer : fewer.Sublist edits) : Ordered limit fewer :=
  ⟨hordered.disjoint.sublist hfewer, fun edit hmem => hordered.proper edit (hfewer.subset hmem)⟩

theorem take_segment {position start : ℕ} (hle : position ≤ start) :
    text.take position ++ segment text position start = text.take start := by
  have htake : text.take position = (text.take start).take position := by
    rw [List.take_take, Nat.min_eq_left hle]
  rw [htake, segment, List.take_append_drop]

theorem applyBack_eq_spliced {position : ℕ} (hordered : Ordered text.length edits)
    (hposition : ∀ edit ∈ edits, position ≤ edit.start) :
    applyBack edits text = text.take position ++ spliced text position edits := by
  induction edits generalizing position with
  | nil => exact (List.take_append_drop position text).symm
  | cons edit rest ih =>
    obtain ⟨hafter, hrest⟩ := List.pairwise_cons.mp hordered.disjoint
    obtain ⟨hstart, hstop⟩ := hordered.proper edit List.mem_cons_self
    have hlength : (text.take edit.stop).length = edit.stop := List.length_take_of_le hstop
    have hgo := ih ⟨hrest, fun other hmem => hordered.proper other (List.mem_cons_of_mem _ hmem)⟩
      hafter
    change edit.apply (applyBack rest text) = _
    rw [hgo, Edit.apply, List.take_append_of_le_length (by omega), List.take_take,
      Nat.min_eq_left hstart, List.drop_left' hlength, spliced, ← List.append_assoc,
      ← List.append_assoc, take_segment (hposition edit List.mem_cons_self)]

/-- **Splicing.**  Applied from the back, ordered edits keep what is between their segments. -/
theorem applyBack_ordered (hordered : Ordered text.length edits) :
    applyBack edits text = spliced text 0 edits :=
  applyBack_eq_spliced hordered fun edit _ => Nat.zero_le edit.start

end Splicing
