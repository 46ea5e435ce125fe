import CodexMustWork.PythonValues
import Mathlib.Data.Finset.Card
import Mathlib.Data.Finset.Range

/-!
# The work-on token

`scripts/work_on_token.py`: a prompt authorises the watching only with the literal token,
standing by itself somewhere in it.  The loop looks at the occurrences one after the other
and goes on one character behind each, so that it sees all of them.
-/

namespace CodexMustWork.WorkOnToken

/-! ### The scan -/

/-- `_WORK_ON_LITERAL`. -/
def workOnLiteral : PyText := pyText "$work-on"

/-- `_SAFE_ASCII_WHITESPACE`. -/
def safeAsciiWhitespace : PyText := pyText " \t\r\n"

def hyphenMinus : CodePoint := ⟨0x2d, by decide⟩

/-- `prompt.find(literal, offset)`. -/
def find (literal prompt : PyText) (offset : ℕ) : Option ℕ :=
  (List.range (prompt.length + 1)).find? fun index =>
    decide (offset ≤ index) && literal.isPrefixOf (prompt.drop index)

section Scan

variable (category : CodePoint → String) (prompt : PyText)

/-- `_is_valid_token_boundary`. -/
def isValidTokenBoundary : Option CodePoint → Bool
  | none => true
  | some character =>
      if character ∈ safeAsciiWhitespace then true
      else if category character ∈ ["Zs", "Zl", "Zp"] then true
      else decide ((category character).toList.head? = some 'P') &&
        decide (category character ≠ "Pc") && decide (character ≠ hyphenMinus)

/-- The character before an index, and the one behind the token there. -/
def characterBefore (index : ℕ) : Option CodePoint :=
  if index = 0 then none else prompt[index - 1]?

def characterAfter (index : ℕ) : Option CodePoint := prompt[index + workOnLiteral.length]?

/-- The loop of `contains_explicit_work_on` from an offset, for at most so many rounds; with
    none left it is cut off. -/
def scan : ℕ → ℕ → Option Bool
  | rounds, offset =>
      match find workOnLiteral prompt offset, rounds with
      | none, _ => some false
      | some _, 0 => none
      | some index, rounds + 1 =>
          if isValidTokenBoundary category (characterBefore prompt index) &&
              isValidTokenBoundary category (characterAfter prompt index) then some true
          else scan rounds (index + 1)

/-- `contains_explicit_work_on`; there are no more rounds than characters. -/
def containsExplicitWorkOn : Bool := (scan category prompt prompt.length 0).getD false

end Scan

/-! ### Occurrences -/

/-- The token stands at the index. -/
def Occurs (prompt : PyText) (index : ℕ) : Prop := workOnLiteral <+: prompt.drop index

instance (prompt : PyText) : DecidablePred (Occurs prompt) :=
  fun index => inferInstanceAs (Decidable (workOnLiteral <+: prompt.drop index))

/-- The occurrences from an offset on. -/
def occurrences (prompt : PyText) (offset : ℕ) : Finset ℕ :=
  (Finset.range prompt.length).filter fun index => offset ≤ index ∧ Occurs prompt index

/-- White space, a separator, or punctuation that does not join words. -/
def Delimits (category : CodePoint → String) (character : CodePoint) : Prop :=
  character ∈ safeAsciiWhitespace ∨ category character ∈ ["Zs", "Zl", "Zp"] ∨
    ((category character).toList.head? = some 'P' ∧ category character ≠ "Pc" ∧
      character ≠ hyphenMinus)

section Results

variable {category : CodePoint → String} {prompt : PyText} {offset index : ℕ}

theorem Occurs.lt_length (hoccurs : Occurs prompt index) : index < prompt.length := by
  have hlength := hoccurs.length_le
  rw [List.length_drop] at hlength
  have htoken : workOnLiteral.length = 8 := rfl
  omega

theorem mem_occurrences : index ∈ occurrences prompt offset ↔ offset ≤ index ∧ Occurs prompt index := by
  unfold occurrences
  rw [Finset.mem_filter, Finset.mem_range]
  exact ⟨fun hmem => hmem.2, fun hmem => ⟨hmem.2.lt_length, hmem⟩⟩

theorem find_eq_none (hfind : find workOnLiteral prompt offset = none) (hoffset : offset ≤ index) :
    ¬ Occurs prompt index := by
  intro hoccurs
  have hnone := List.find?_eq_none.mp hfind index
    (List.mem_range.mpr (Nat.lt_succ_of_lt hoccurs.lt_length))
  rw [decide_eq_true hoffset, Bool.true_and, List.isPrefixOf_iff_prefix] at hnone
  exact hnone hoccurs

/-- The first occurrence from the offset on. -/
theorem find_eq_some (hfind : find workOnLiteral prompt offset = some index) :
    offset ≤ index ∧ Occurs prompt index ∧
      ∀ earlier, offset ≤ earlier → earlier < index → ¬ Occurs prompt earlier := by
  obtain ⟨hfound, -, hearlier⟩ := List.find?_range_eq_some.mp hfind
  rw [Bool.and_eq_true, decide_eq_true_iff, List.isPrefixOf_iff_prefix] at hfound
  refine ⟨hfound.1, hfound.2, ?_⟩
  intro earlier hoffset hless hoccurs
  have hskipped := hearlier earlier hless
  rw [decide_eq_true hoffset, Bool.true_and, List.isPrefixOf_iff_prefix.mpr hoccurs] at hskipped
  cases hskipped

/-- Behind an occurrence fewer are left. -/
theorem card_occurrences_lt (hfind : find workOnLiteral prompt offset = some index) :
    (occurrences prompt (index + 1)).card < (occurrences prompt offset).card := by
  obtain ⟨hoffset, hoccurs, -⟩ := find_eq_some hfind
  refine Finset.card_lt_card (Finset.ssubset_iff_subset_ne.mpr ⟨?_, ?_⟩)
  · intro later hlater
    obtain ⟨hbehind, hthere⟩ := mem_occurrences.mp hlater
    exact mem_occurrences.mpr ⟨by omega, hthere⟩
  · intro hsame
    have hmem : index ∈ occurrences prompt (index + 1) :=
      hsame ▸ mem_occurrences.mpr ⟨hoffset, hoccurs⟩
    have hbehind := (mem_occurrences.mp hmem).1
    omega

theorem isValidTokenBoundary_iff (character : Option CodePoint) :
    isValidTokenBoundary category character = true ↔ ∀ c ∈ character, Delimits category c := by
  cases character with
  | none => simp [isValidTokenBoundary]
  | some c =>
    simp only [Option.mem_def, Option.some.injEq, forall_eq']
    by_cases hspace : c ∈ safeAsciiWhitespace
    · simp [isValidTokenBoundary, Delimits, hspace]
    · by_cases hseparator : category c ∈ ["Zs", "Zl", "Zp"]
      · simp only [isValidTokenBoundary, Delimits, if_neg hspace, if_pos hseparator, true_iff]
        exact Or.inr (Or.inl hseparator)
      · unfold isValidTokenBoundary Delimits
        simp only
        rw [if_neg hspace, if_neg hseparator, or_iff_right hspace, or_iff_right hseparator]
        simp only [Bool.and_eq_true, decide_eq_true_iff, and_assoc]

/-- The token at the index stands by itself. -/
def StandsAlone (category : CodePoint → String) (prompt : PyText) (index : ℕ) : Prop :=
  (∀ c ∈ characterBefore prompt index, Delimits category c) ∧
    ∀ c ∈ characterAfter prompt index, Delimits category c

theorem scan_of_none (rounds : ℕ) (hfind : find workOnLiteral prompt offset = none) :
    scan category prompt rounds offset = some false := by
  cases rounds <;> simp [scan, hfind]

theorem boundaries_iff : (isValidTokenBoundary category (characterBefore prompt index) &&
    isValidTokenBoundary category (characterAfter prompt index)) = true ↔
      StandsAlone category prompt index := by
  rw [Bool.and_eq_true, isValidTokenBoundary_iff, isValidTokenBoundary_iff]
  rfl

theorem scan_of_alone (rounds : ℕ) (hfind : find workOnLiteral prompt offset = some index)
    (halone : StandsAlone category prompt index) :
    scan category prompt (rounds + 1) offset = some true := by
  rw [scan.eq_def]
  simp only [hfind]
  exact if_pos (boundaries_iff.mpr halone)

theorem scan_of_attached (rounds : ℕ) (hfind : find workOnLiteral prompt offset = some index)
    (hattached : ¬ StandsAlone category prompt index) :
    scan category prompt (rounds + 1) offset = scan category prompt rounds (index + 1) := by
  rw [scan.eq_def]
  simp only [hfind]
  exact if_neg fun hboth => hattached (boundaries_iff.mp hboth)

/-- With a round for each occurrence the loop ends, and tells whether one stands alone. -/
theorem scan_spec (rounds : ℕ) (hrounds : (occurrences prompt offset).card ≤ rounds) :
    ∃ answer, scan category prompt rounds offset = some answer ∧
      (answer = true ↔ ∃ index, offset ≤ index ∧ Occurs prompt index ∧
        StandsAlone category prompt index) := by
  induction rounds generalizing offset with
  | zero =>
    cases hfind : find workOnLiteral prompt offset with
    | none =>
      refine ⟨false, scan_of_none _ hfind, ?_⟩
      simp only [Bool.false_eq_true, false_iff, not_exists]
      rintro index ⟨hoffset, hoccurs, -⟩
      exact find_eq_none hfind hoffset hoccurs
    | some index =>
      have hless := card_occurrences_lt hfind
      omega
  | succ rounds ih =>
    cases hfind : find workOnLiteral prompt offset with
    | none =>
      refine ⟨false, scan_of_none _ hfind, ?_⟩
      simp only [Bool.false_eq_true, false_iff, not_exists]
      rintro index ⟨hoffset, hoccurs, -⟩
      exact find_eq_none hfind hoffset hoccurs
    | some index =>
      obtain ⟨hoffset, hoccurs, hearlier⟩ := find_eq_some hfind
      have hless := card_occurrences_lt hfind
      by_cases halone : StandsAlone category prompt index
      · refine ⟨true, scan_of_alone rounds hfind halone, ?_⟩
        exact ⟨fun _ => ⟨index, hoffset, hoccurs, halone⟩, fun _ => rfl⟩
      · have hfewer : (occurrences prompt (index + 1)).card ≤ rounds := by omega
        obtain ⟨answer, hscan, hanswer⟩ := ih hfewer
        refine ⟨answer, (scan_of_attached rounds hfind halone).trans hscan, hanswer.trans ?_⟩
        constructor
        · rintro ⟨later, hlater, hrest⟩
          exact ⟨later, by omega, hrest⟩
        · rintro ⟨other, hother, hthere, hstands⟩
          refine ⟨other, ?_, hthere, hstands⟩
          -- It is not before the first occurrence, and not that one.
          by_contra hbefore
          rcases Nat.lt_or_ge other index with hless | hge
          · exact hearlier other hother hless hthere
          · obtain rfl : other = index := by omega
            exact halone hstands

/-- An occurrence splits the prompt, and its neighbours are the ends of the two sides. -/
theorem occurs_iff : Occurs prompt index ∧ StandsAlone category prompt index ↔
    ∃ before after, prompt = before ++ (workOnLiteral ++ after) ∧ before.length = index ∧
      (∀ c ∈ before.getLast?, Delimits category c) ∧ ∀ c ∈ after.head?, Delimits category c := by
  have hneighbours : ∀ before after : PyText,
      characterBefore (before ++ (workOnLiteral ++ after)) before.length = before.getLast? ∧
        characterAfter (before ++ (workOnLiteral ++ after)) before.length = after.head? := by
    intro before after
    constructor
    · unfold characterBefore
      rcases List.eq_nil_or_concat before with rfl | ⟨rest, c, rfl⟩
      · rfl
      · simp
    · unfold characterAfter
      rw [List.getElem?_append_right (by omega), List.getElem?_append_right (by omega)]
      simp [List.head?_eq_getElem?]
  constructor
  · rintro ⟨hoccurs, hbefore, hafter⟩
    obtain ⟨after, hrest⟩ := hoccurs
    have hindex : index ≤ prompt.length := (show Occurs prompt index from ⟨after, hrest⟩).lt_length.le
    have hprompt : prompt = prompt.take index ++ (workOnLiteral ++ after) := by
      rw [hrest, List.take_append_drop]
    have hlength : (prompt.take index).length = index := List.length_take_of_le hindex
    obtain ⟨hlast, hhead⟩ := hneighbours (prompt.take index) after
    rw [← hprompt, hlength] at hlast hhead
    exact ⟨_, after, hprompt, hlength, hlast ▸ hbefore, hhead ▸ hafter⟩
  · rintro ⟨before, after, rfl, rfl, hbefore, hafter⟩
    obtain ⟨hlast, hhead⟩ := hneighbours before after
    refine ⟨⟨after, ?_⟩, hlast ▸ hbefore, hhead ▸ hafter⟩
    rw [List.drop_left]

/-- The predicate recognises the token, wherever it stands alone, in a round for each
    occurrence at most. -/
theorem containsExplicitWorkOn_iff (category : CodePoint → String) (prompt : PyText) :
    (containsExplicitWorkOn category prompt = true ↔
        ∃ before after, prompt = before ++ (workOnLiteral ++ after) ∧
          (∀ c ∈ before.getLast?, Delimits category c) ∧ ∀ c ∈ after.head?, Delimits category c) ∧
      ∀ rounds, (occurrences prompt 0).card ≤ rounds →
        scan category prompt rounds 0 = some (containsExplicitWorkOn category prompt) := by
  have hall : (occurrences prompt 0).card ≤ prompt.length :=
    (Finset.card_filter_le _ _).trans (Finset.card_range _).le
  have hspec : ∀ rounds, (occurrences prompt 0).card ≤ rounds →
      ∃ answer, scan category prompt rounds 0 = some answer ∧
        (answer = true ↔ ∃ before after, prompt = before ++ (workOnLiteral ++ after) ∧
          (∀ c ∈ before.getLast?, Delimits category c) ∧
            ∀ c ∈ after.head?, Delimits category c) := by
    intro rounds hrounds
    obtain ⟨answer, hscan, hanswer⟩ := scan_spec rounds hrounds
    refine ⟨answer, hscan, hanswer.trans ?_⟩
    constructor
    · rintro ⟨index, -, halone⟩
      obtain ⟨before, after, hprompt, -, hboth⟩ := occurs_iff.mp halone
      exact ⟨before, after, hprompt, hboth⟩
    · rintro ⟨before, after, hprompt, hboth⟩
      exact ⟨before.length, Nat.zero_le _, occurs_iff.mpr ⟨before, after, hprompt, rfl, hboth⟩⟩
  obtain ⟨found, hfound, hfoundIff⟩ := hspec prompt.length hall
  have hcontains : containsExplicitWorkOn category prompt = found := by
    unfold containsExplicitWorkOn
    rw [hfound]
    rfl
  rw [hcontains]
  refine ⟨hfoundIff, ?_⟩
  intro rounds hrounds
  obtain ⟨answer, hscan, hanswer⟩ := hspec rounds hrounds
  rw [hscan, Bool.eq_iff_iff.mpr (hanswer.trans hfoundIff.symm)]

/-- The second occurrence counts when the first is part of a word. -/
example : containsExplicitWorkOn (fun _ => "Ll") (pyText "a$work-on $work-on") = true := by decide

end Results

end CodexMustWork.WorkOnToken
