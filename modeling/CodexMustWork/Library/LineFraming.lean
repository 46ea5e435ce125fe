import Mathlib.Data.List.Basic

/-!
# Text framed into lines by a terminator

A line is a run of symbols that ends with its first terminator.  `lines` cuts a
text into its complete lines and forgets an unterminated rest; a text is
`Whole` when there is no such rest.  Cutting is compatible with appending once
the first text is whole, which is what incremental readers rely on: what they
read once is not cut differently after the text has grown.
-/

namespace LineFraming

variable {α : Type*} [DecidableEq α] (sep : α)

/-- The complete lines of a text, each with its terminator. -/
def lines : List α → List (List α)
  | [] => []
  | symbol :: rest =>
      if symbol = sep then [symbol] :: lines rest
      else
        match lines rest with
        | [] => []
        | line :: more => (symbol :: line) :: more

/-- No unterminated line at the end. -/
def Whole (text : List α) : Prop := (lines sep text).flatten = text

/-- Read up to the first terminator, and at most `limit` symbols. -/
def readline : List α → Nat → List α
  | [], _ => []
  | symbol :: rest, limit =>
      if limit = 0 then []
      else if symbol = sep then [symbol]
      else symbol :: readline rest (limit - 1)

@[simp] theorem lines_nil : lines sep [] = [] := rfl

theorem whole_nil : Whole sep [] := rfl

theorem lines_cons_sep (rest : List α) : lines sep (sep :: rest) = [sep] :: lines sep rest := by
  simp [lines]

theorem lines_cons_of_ne {symbol : α} (hne : symbol ≠ sep) {line : List α} {rest : List α}
    {more : List (List α)} (hlines : lines sep rest = line :: more) :
    lines sep (symbol :: rest) = (symbol :: line) :: more := by
  simp [lines, hne, hlines]

/-- A line read to its terminator is the first line of the text. -/
theorem lines_of_readline {text : List α} {limit : Nat}
    (hended : (readline sep text limit).getLast? = some sep) :
    text = readline sep text limit ++ text.drop (readline sep text limit).length ∧
      lines sep text =
        readline sep text limit :: lines sep (text.drop (readline sep text limit).length) := by
  induction text generalizing limit with
  | nil => simp [readline] at hended
  | cons symbol rest ih =>
      rw [readline] at hended ⊢
      by_cases hlimit : limit = 0
      · simp [hlimit] at hended
      · rw [if_neg hlimit] at hended ⊢
        by_cases hsep : symbol = sep
        · subst hsep
          simp [lines_cons_sep]
        · rw [if_neg hsep] at hended ⊢
          have hrest : (readline sep rest (limit - 1)).getLast? = some sep := by
            cases htail : readline sep rest (limit - 1) with
            | nil =>
                rw [htail] at hended
                exact absurd (by simpa using hended) hsep
            | cons head tail =>
                rw [htail, List.getLast?_cons_cons] at hended
                exact hended
          obtain ⟨hsplit, hlines⟩ := ih hrest
          constructor
          · simpa using hsplit
          · simpa using lines_cons_of_ne sep hsep hlines

/-- A line read to its terminator is whole. -/
theorem whole_readline {text : List α} {limit : Nat}
    (hended : (readline sep text limit).getLast? = some sep) :
    lines sep (readline sep text limit) = [readline sep text limit] := by
  induction text generalizing limit with
  | nil => simp [readline] at hended
  | cons symbol rest ih =>
      rw [readline] at hended ⊢
      by_cases hlimit : limit = 0
      · simp [hlimit] at hended
      · rw [if_neg hlimit] at hended ⊢
        by_cases hsep : symbol = sep
        · simp [hsep, lines]
        · rw [if_neg hsep] at hended ⊢
          cases htail : readline sep rest (limit - 1) with
          | nil =>
              rw [htail] at hended
              exact absurd (by simpa using hended) hsep
          | cons head tail =>
              rw [htail, List.getLast?_cons_cons, ← htail] at hended
              have hline := ih hended
              rw [htail] at hline
              exact lines_cons_of_ne sep hsep hline

/-- Cutting an appended text: a whole first part is cut on its own. -/
theorem lines_append {text : List α} (hwhole : Whole sep text) (more : List α) :
    lines sep (text ++ more) = lines sep text ++ lines sep more := by
  induction text with
  | nil => rfl
  | cons symbol rest ih =>
      by_cases hsep : symbol = sep
      · subst hsep
        have hrest : Whole symbol rest := by
          simpa [Whole, lines_cons_sep] using hwhole
        rw [List.cons_append, lines_cons_sep, lines_cons_sep, ih hrest, List.cons_append]
      · cases hlines : lines sep rest with
        | nil => simp [Whole, lines, hsep, hlines] at hwhole
        | cons line tail =>
            have hhead := lines_cons_of_ne sep hsep hlines
            have hrest : Whole sep rest := by
              unfold Whole at hwhole ⊢
              rw [hhead] at hwhole
              rw [hlines]
              simpa using hwhole
            have happend : lines sep (rest ++ more) = line :: (tail ++ lines sep more) := by
              rw [ih hrest, hlines, List.cons_append]
            rw [List.cons_append, hhead, lines_cons_of_ne sep hsep happend, List.cons_append]

theorem Whole.append {first second : List α} (hfirst : Whole sep first)
    (hsecond : Whole sep second) : Whole sep (first ++ second) := by
  unfold Whole at *
  rw [lines_append sep hfirst, List.flatten_append, hfirst, hsecond]

/-! ### The unterminated rest -/

/-- What follows the last complete line. -/
def unterminated (text : List α) : List α := text.drop (lines sep text).flatten.length

/-- A text is its complete lines and then a rest without terminator. -/
theorem lines_unterminated (text : List α) :
    (lines sep text).flatten ++ unterminated sep text = text ∧ sep ∉ unterminated sep text := by
  unfold unterminated
  induction text with
  | nil => simp
  | cons symbol rest ih =>
      by_cases hsep : symbol = sep
      · subst hsep
        simpa [lines_cons_sep] using ih
      · cases hlines : lines sep rest with
        | nil =>
            rw [hlines] at ih
            simp only [List.flatten_nil, List.length_nil, List.drop_zero, List.nil_append] at ih
            have hcons : lines sep (symbol :: rest) = [] := by simp [lines, hsep, hlines]
            rw [hcons]
            simpa using ⟨fun heq => hsep heq.symm, ih.2⟩
        | cons line more =>
            rw [hlines] at ih
            rw [lines_cons_of_ne sep hsep hlines]
            simpa using ih

theorem lines_eq_nil {text : List α} : lines sep text = [] ↔ sep ∉ text := by
  constructor
  · intro hlines
    obtain ⟨heq, hfree⟩ := lines_unterminated sep text
    rw [hlines, List.flatten_nil, List.nil_append] at heq
    rwa [heq] at hfree
  · intro hfree
    induction text with
    | nil => rfl
    | cons symbol rest ih =>
        have hne : symbol ≠ sep := fun heq => hfree (by simp [heq])
        simp [lines, hne, ih (fun hmem => hfree (List.mem_cons_of_mem _ hmem))]

/-- The complete lines of a text that follows complete lines. -/
theorem lines_flatten (text : List α) :
    lines sep (lines sep text).flatten = lines sep text := by
  induction text with
  | nil => rfl
  | cons symbol rest ih =>
      by_cases hsep : symbol = sep
      · subst hsep
        rw [lines_cons_sep, List.flatten_cons, List.singleton_append, lines_cons_sep, ih]
      · cases hlines : lines sep rest with
        | nil => simp [lines, hsep, hlines]
        | cons line more =>
            rw [hlines, List.flatten_cons] at ih
            rw [lines_cons_of_ne sep hsep hlines, List.flatten_cons, List.cons_append,
              lines_cons_of_ne sep hsep ih]

/-- The complete lines make a whole text. -/
theorem whole_flatten_lines (text : List α) : Whole sep (lines sep text).flatten := by
  rw [Whole, lines_flatten]

theorem whole_iff_unterminated {text : List α} :
    Whole sep text ↔ unterminated sep text = [] := by
  obtain ⟨heq, _⟩ := lines_unterminated sep text
  constructor
  · intro hwhole
    rw [Whole] at hwhole
    simpa [hwhole] using heq
  · intro hnil
    rw [hnil, List.append_nil] at heq
    exact heq

/-- A text that ends with a terminator. -/
theorem whole_of_getLast? {text : List α} (hended : text.getLast? = some sep) :
    Whole sep text := by
  rw [whole_iff_unterminated]
  obtain ⟨heq, hfree⟩ := lines_unterminated sep text
  rcases List.eq_nil_or_concat (unterminated sep text) with hnil | ⟨rest, symbol, hrest⟩
  · exact hnil
  · rw [List.concat_eq_append] at hrest
    rw [← heq, hrest, ← List.append_assoc, List.getLast?_concat, Option.some_inj] at hended
    rw [hrest, ← hended] at hfree
    exact absurd (List.mem_append_right rest (List.mem_singleton_self symbol)) hfree

/-- A whole text and a rest without terminator are cut as such. -/
theorem lines_append_free {text rest : List α} (hwhole : Whole sep text) (hfree : sep ∉ rest) :
    lines sep (text ++ rest) = lines sep text ∧ unterminated sep (text ++ rest) = rest := by
  have hlines : lines sep (text ++ rest) = lines sep text := by
    rw [lines_append sep hwhole, (lines_eq_nil sep).mpr hfree, List.append_nil]
  refine ⟨hlines, ?_⟩
  rw [unterminated, hlines, show (lines sep text).flatten = text from hwhole]
  exact List.drop_left

theorem unterminated_append {text : List α} (hwhole : Whole sep text) (more : List α) :
    unterminated sep (text ++ more) = unterminated sep more := by
  rw [unterminated, lines_append sep hwhole, List.flatten_append,
    show (lines sep text).flatten = text from hwhole, List.length_append,
    List.drop_length_add_append]
  rfl

/-- A whole text that begins with a whole text ends with one. -/
theorem whole_of_append {text more : List α} (htext : Whole sep text)
    (hboth : Whole sep (text ++ more)) : Whole sep more := by
  rw [whole_iff_unterminated, unterminated_append sep htext] at hboth
  exact (whole_iff_unterminated sep).mpr hboth

/-- A text with a terminator begins with its first line. -/
theorem lines_eq_cons {text line : List α} {more : List (List α)}
    (hlines : lines sep text = line :: more) :
    ∃ rest, text = line ++ rest ∧ more = lines sep rest ∧ lines sep line = [line] ∧
      line ≠ [] := by
  induction text generalizing line more with
  | nil => cases hlines
  | cons symbol rest ih =>
      by_cases hsep : symbol = sep
      · subst hsep
        rw [lines_cons_sep] at hlines
        obtain ⟨rfl, rfl⟩ := List.cons.inj hlines
        exact ⟨rest, rfl, rfl, by simp [lines], by simp⟩
      · cases htail : lines sep rest with
        | nil => simp [lines, hsep, htail] at hlines
        | cons first others =>
            rw [lines_cons_of_ne sep hsep htail] at hlines
            obtain ⟨rfl, rfl⟩ := List.cons.inj hlines
            obtain ⟨after, hrest, hmore, hline, _⟩ := ih htail
            refine ⟨after, by rw [hrest]; rfl, hmore, ?_, by simp⟩
            exact lines_cons_of_ne sep hsep hline

/-- A line whose beginning was cut off, put together again. -/
theorem lines_free_append {start line : List α} (hfree : sep ∉ start)
    (hline : lines sep line = [line]) : lines sep (start ++ line) = [start ++ line] := by
  induction start with
  | nil => exact hline
  | cons symbol rest ih =>
      have hne : symbol ≠ sep := fun heq => hfree (by simp [heq])
      exact lines_cons_of_ne sep hne (ih fun hmem => hfree (List.mem_cons_of_mem _ hmem))

/-- The first line behind a cut is the end of a line of the whole text. -/
theorem length_le_of_cut {first second line : List α} {more : List (List α)}
    (hlines : lines sep second = line :: more) :
    ∃ whole ∈ lines sep (first ++ second), line.length ≤ whole.length := by
  obtain ⟨heq, hfree⟩ := lines_unterminated sep first
  obtain ⟨rest, rfl, -, hline, -⟩ := lines_eq_cons sep hlines
  have hjoined := lines_free_append sep hfree hline
  have hwhole : Whole sep (unterminated sep first ++ line) := by
    rw [Whole, hjoined, List.flatten_singleton]
  have hsplit : first ++ (line ++ rest) =
      (lines sep first).flatten ++ ((unterminated sep first ++ line) ++ rest) := by
    rw [List.append_assoc (unterminated sep first), ← List.append_assoc (lines sep first).flatten,
      heq]
  refine ⟨unterminated sep first ++ line, ?_, ?_⟩
  · rw [hsplit, lines_append sep (whole_flatten_lines sep first), lines_append sep hwhole, hjoined]
    exact List.mem_append_right _ (List.mem_append_left _ (List.mem_singleton_self _))
  · rw [List.length_append]
    omega

/-- What is left behind a cut without a terminator. -/
theorem length_le_unterminated {first second : List α} (hsecond : sep ∉ second) :
    second.length ≤ (unterminated sep (first ++ second)).length := by
  obtain ⟨heq, hfree⟩ := lines_unterminated sep first
  have hrest : sep ∉ unterminated sep first ++ second := by
    rw [List.mem_append, not_or]
    exact ⟨hfree, hsecond⟩
  have hsplit : first ++ second = (lines sep first).flatten ++ (unterminated sep first ++ second) := by
    rw [← List.append_assoc, heq]
  rw [hsplit, (lines_append_free sep (whole_flatten_lines sep first) hrest).2, List.length_append]
  omega

/-- Growing a text keeps its complete lines, and completes at most its rest. -/
theorem lines_of_prefix {text grown : List α} (hextends : text <+: grown) :
    lines sep text <+: lines sep grown ∧
      (unterminated sep text <+: unterminated sep grown ∨
        ∃ line ∈ lines sep grown, unterminated sep text <+: line) := by
  obtain ⟨more, rfl⟩ := hextends
  obtain ⟨heq, hfree⟩ := lines_unterminated sep text
  have hwhole := whole_flatten_lines sep text
  have hgrown : text ++ more =
      (lines sep text).flatten ++ (unterminated sep text ++ more) := by
    rw [← List.append_assoc, heq]
  have hcut : lines sep (text ++ more) =
      lines sep text ++ lines sep (unterminated sep text ++ more) := by
    rw [hgrown, lines_append sep hwhole, lines_flatten]
  refine ⟨hcut ▸ List.prefix_append _ _, ?_⟩
  cases hlines : lines sep (unterminated sep text ++ more) with
  | nil =>
      left
      have hall := (lines_eq_nil sep).mp hlines
      rw [hgrown, (lines_append_free sep hwhole hall).2]
      exact List.prefix_append _ _
  | cons line others =>
      right
      refine ⟨line, by rw [hcut, hlines]; simp, ?_⟩
      obtain ⟨rest, hsplit, _, hline, hne⟩ := lines_eq_cons sep hlines
      rcases List.append_eq_append_iff.mp hsplit with ⟨extra, hline', _⟩ | ⟨extra, hrest, _⟩
      · exact ⟨extra, hline'.symm⟩
      · have hmem : sep ∉ line := fun hmem => hfree (hrest ▸ List.mem_append_left _ hmem)
        rw [(lines_eq_nil sep).mpr hmem] at hline
        cases hline

/-- Reading the first line of a text with enough room. -/
theorem readline_of_lines {text line : List α} {more : List (List α)} {limit : Nat}
    (hlines : lines sep text = line :: more) :
    readline sep text limit = line.take limit := by
  induction text generalizing line more limit with
  | nil => cases hlines
  | cons symbol rest ih =>
      rw [readline]
      by_cases hlimit : limit = 0
      · simp [hlimit]
      · rw [if_neg hlimit]
        obtain ⟨room, rfl⟩ := Nat.exists_eq_succ_of_ne_zero hlimit
        by_cases hsep : symbol = sep
        · subst hsep
          rw [lines_cons_sep] at hlines
          obtain ⟨rfl, _⟩ := List.cons.inj hlines
          simp
        · rw [if_neg hsep]
          cases htail : lines sep rest with
          | nil => simp [lines, hsep, htail] at hlines
          | cons first others =>
              rw [lines_cons_of_ne sep hsep htail] at hlines
              obtain ⟨rfl, _⟩ := List.cons.inj hlines
              simp [ih htail]

/-- Reading a text without terminator. -/
theorem readline_of_free {text : List α} {limit : Nat} (hfree : sep ∉ text) :
    readline sep text limit = text.take limit := by
  induction text generalizing limit with
  | nil => simp [readline]
  | cons symbol rest ih =>
      rw [readline]
      have hne : symbol ≠ sep := fun heq => hfree (by simp [heq])
      have hrest : sep ∉ rest := fun hmem => hfree (List.mem_cons_of_mem _ hmem)
      by_cases hlimit : limit = 0
      · simp [hlimit]
      · obtain ⟨room, rfl⟩ := Nat.exists_eq_succ_of_ne_zero hlimit
        simp [hne, ih hrest]

/-- A complete line ends with its terminator. -/
theorem getLast?_of_lines {line : List α} (hline : lines sep line = [line]) :
    line.getLast? = some sep := by
  induction line with
  | nil => cases hline
  | cons symbol rest ih =>
      by_cases hsep : symbol = sep
      · subst hsep
        rw [lines_cons_sep] at hline
        obtain ⟨hrest, _⟩ := List.cons.inj hline
        obtain ⟨_, rfl⟩ := List.cons.inj hrest
        rfl
      · cases htail : lines sep rest with
        | nil => simp [lines, hsep, htail] at hline
        | cons first others =>
            rw [lines_cons_of_ne sep hsep htail] at hline
            obtain ⟨hfirst, hothers⟩ := List.cons.inj hline
            obtain ⟨_, rfl⟩ := List.cons.inj hfirst
            rw [hothers] at htail
            cases first with
            | nil => cases htail
            | cons head tail =>
                rw [List.getLast?_cons_cons]
                exact ih htail

/-! ### Lines without their terminators -/

/-- The complete lines without their terminators, and a last one that has none. -/
def splitLines (text : List α) : List (List α) :=
  (lines sep text).map List.dropLast ++
    if unterminated sep text = [] then [] else [unterminated sep text]

theorem splitLines_of_free {text : List α} (hfree : sep ∉ text) :
    splitLines sep text = if text = [] then [] else [text] := by
  have hrest := (lines_append_free sep (whole_nil sep) hfree).2
  rw [List.nil_append] at hrest
  rw [splitLines, (lines_eq_nil sep).mpr hfree, hrest]
  rfl

theorem splitLines_cons {line : List α} (hfree : sep ∉ line) (rest : List α) :
    splitLines sep (line ++ sep :: rest) = line :: splitLines sep rest := by
  have hline : lines sep (line ++ [sep]) = [line ++ [sep]] :=
    lines_free_append sep hfree (by simp [lines])
  have hwhole : Whole sep (line ++ [sep]) := by
    rw [Whole, hline, List.flatten_cons, List.flatten_nil, List.append_nil]
  have hsplit : line ++ sep :: rest = (line ++ [sep]) ++ rest := by simp
  rw [splitLines, hsplit, lines_append sep hwhole, hline, unterminated_append sep hwhole]
  simp [splitLines]

/-- What is read at once holds the terminator at its end only. -/
theorem free_dropLast_readline (text : List α) (limit : Nat) :
    sep ∉ (readline sep text limit).dropLast := by
  induction text generalizing limit with
  | nil => simp [readline]
  | cons symbol rest ih =>
      rw [readline]
      by_cases hlimit : limit = 0
      · simp [hlimit]
      · rw [if_neg hlimit]
        by_cases hsep : symbol = sep
        · simp [hsep]
        · rw [if_neg hsep]
          cases htail : readline sep rest (limit - 1) with
          | nil => simp
          | cons head tail =>
              have hrest := ih (limit - 1)
              rw [htail] at hrest
              rw [List.dropLast_cons_of_ne_nil (List.cons_ne_nil _ _)]
              intro hmem
              rcases List.mem_cons.mp hmem with rfl | hmem
              · exact hsep rfl
              · exact hrest hmem

theorem readline_extends (text : List α) (limit : Nat) : readline sep text limit <+: text := by
  induction text generalizing limit with
  | nil => simp [readline]
  | cons symbol rest ih =>
      rw [readline]
      split_ifs
      · exact List.nil_prefix
      · exact List.cons_prefix_cons.mpr ⟨rfl, List.nil_prefix⟩
      · exact List.cons_prefix_cons.mpr ⟨rfl, ih _⟩

theorem length_readline_le (text : List α) (limit : Nat) :
    (readline sep text limit).length ≤ limit := by
  induction text generalizing limit with
  | nil => simp [readline]
  | cons symbol rest ih =>
      rw [readline]
      split_ifs with hlimit
      · exact Nat.zero_le _
      · exact Nat.one_le_iff_ne_zero.mpr hlimit
      · have hrest := ih (limit - 1)
        rw [List.length_cons]
        omega

theorem readline_eq_nil {text : List α} {limit : Nat} (hlimit : 0 < limit) :
    readline sep text limit = [] ↔ text = [] := by
  cases text with
  | nil => simp [readline]
  | cons symbol rest =>
      rw [readline, if_neg (by omega)]
      split_ifs <;> simp

/-! ### Where lines begin -/

/-- Consecutive lines with the offsets at which they begin. -/
def placeLines : Nat → List (List α) → List (Nat × List α)
  | _, [] => []
  | offset, line :: more => (offset, line) :: placeLines (offset + line.length) more

/-- The complete lines of a text that begin at `start` or later, and before `stop`. -/
def linesBetween (start stop : Nat) (text : List α) : List (List α) :=
  ((placeLines 0 (lines sep text)).filter fun placed =>
    decide (start ≤ placed.1) && decide (placed.1 < stop)).map Prod.snd

omit [DecidableEq α] in
theorem placeLines_append (offset : Nat) (first second : List (List α)) :
    placeLines offset (first ++ second) =
      placeLines offset first ++ placeLines (offset + first.flatten.length) second := by
  induction first generalizing offset with
  | nil => simp [placeLines]
  | cons line more ih => simp [placeLines, ih, Nat.add_assoc]

omit [DecidableEq α] in
theorem placeLines_snd (offset : Nat) (texts : List (List α)) :
    (placeLines offset texts).map Prod.snd = texts := by
  induction texts generalizing offset with
  | nil => rfl
  | cons line more ih => simp [placeLines, ih]

omit [DecidableEq α] in
/-- Lines begin from the first offset on, and before the end of the text they make. -/
theorem placeLines_bounds {offset : Nat} {texts : List (List α)}
    (hne : ∀ line ∈ texts, line ≠ []) {placed : Nat × List α}
    (hplaced : placed ∈ placeLines offset texts) :
    offset ≤ placed.1 ∧ placed.1 < offset + texts.flatten.length := by
  induction texts generalizing offset with
  | nil => cases hplaced
  | cons line more ih =>
      have hpositive : 0 < line.length :=
        List.length_pos_iff.mpr (hne line (List.mem_cons_self ..))
      rw [List.flatten_cons, List.length_append]
      rcases List.mem_cons.mp hplaced with rfl | hlater
      · exact ⟨Nat.le_refl _, by dsimp only; omega⟩
      · obtain ⟨hlow, hhigh⟩ := ih (fun other hother => hne other (List.mem_cons_of_mem _ hother))
          hlater
        omega

/-- Complete lines are not empty. -/
theorem ne_nil_of_mem_lines {text line : List α} (hline : line ∈ lines sep text) : line ≠ [] := by
  induction text generalizing line with
  | nil => cases hline
  | cons symbol rest ih =>
      by_cases hsep : symbol = sep
      · subst hsep
        rw [lines_cons_sep] at hline
        rcases List.mem_cons.mp hline with rfl | hline
        · simp
        · exact ih hline
      · cases htail : lines sep rest with
        | nil => simp [lines, hsep, htail] at hline
        | cons first others =>
            rw [lines_cons_of_ne sep hsep htail] at hline
            rcases List.mem_cons.mp hline with rfl | hline
            · simp
            · exact ih (htail ▸ List.mem_cons_of_mem _ hline)

/-- **Lines by offset.**  Complete lines that follow complete lines which begin before
    `start` are the ones between `start` and their own end. -/
theorem linesBetween_eq {first second : List α} {start : Nat} (hfirst : Whole sep first)
    (hsecond : Whole sep second) (rest : List α) (hstart : start ≤ first.length)
    (hbefore : ∀ placed ∈ placeLines 0 (lines sep first), placed.1 < start) :
    linesBetween sep start (first.length + second.length) (first ++ (second ++ rest)) =
      lines sep second := by
  have hfirstLength : (lines sep first).flatten.length = first.length := by rw [hfirst]
  have hsecondLength : (lines sep second).flatten.length = second.length := by rw [hsecond]
  rw [linesBetween, lines_append sep hfirst, lines_append sep hsecond, placeLines_append,
    placeLines_append, List.filter_append, List.filter_append]
  have hnone : (placeLines 0 (lines sep first)).filter (fun placed =>
      decide (start ≤ placed.1) && decide (placed.1 < first.length + second.length)) = [] := by
    rw [List.filter_eq_nil_iff]
    intro placed hplaced
    have hlt := hbefore placed hplaced
    simp
    omega
  have hall : (placeLines (0 + (lines sep first).flatten.length) (lines sep second)).filter
      (fun placed => decide (start ≤ placed.1) &&
        decide (placed.1 < first.length + second.length)) =
      placeLines (0 + (lines sep first).flatten.length) (lines sep second) := by
    rw [List.filter_eq_self]
    intro placed hplaced
    have hbounds := placeLines_bounds (fun line hline => ne_nil_of_mem_lines sep hline) hplaced
    rw [hfirstLength, hsecondLength] at hbounds
    simp
    omega
  have hlater : (placeLines (0 + (lines sep first).flatten.length +
      (lines sep second).flatten.length) (lines sep rest)).filter
      (fun placed => decide (start ≤ placed.1) &&
        decide (placed.1 < first.length + second.length)) = [] := by
    rw [List.filter_eq_nil_iff]
    intro placed hplaced
    have hbounds := placeLines_bounds (fun line hline => ne_nil_of_mem_lines sep hline) hplaced
    rw [hfirstLength, hsecondLength] at hbounds
    simp
    omega
  rw [hnone, hall, hlater, List.append_nil, List.nil_append, placeLines_snd]

end LineFraming
