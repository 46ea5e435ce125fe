import CodexMustWork.Library.TomlGrammar

/-!
# Documents in lexemes

Every document of the grammar falls apart into lexemes, and a bracket stands first on a line,
outside strings and comments, only in a table header or in an element of an array.
-/

namespace TomlText

/-! ### What lines are made of -/

section Lexemes

variable {character : Char} {text : Text} {lexemes post : List Lexeme}

/-- The characters that begin something else. -/
def specials : List Char := ['\n', '#', '"', '\'']

theorem formed_of_class {member : Char → Bool} (hmember : member character = true)
    (hspecials : specials.any member = false) : (Lexeme.plain character).Formed := by
  have hne : ∀ special ∈ specials, character ≠ special := by
    rintro special hspecial rfl
    exact List.any_eq_false.mp hspecials character hspecial hmember
  exact ⟨hne _ (by decide), hne _ (by decide), hne _ (by decide), hne _ (by decide)⟩

theorem formed_blank (hblank : isBlank character = true) : (Lexeme.plain character).Formed :=
  formed_of_class hblank (by decide)

theorem formed_bare (hbare : isBare character = true) : (Lexeme.plain character).Formed :=
  formed_of_class hbare (by decide)

theorem formed_scalar (hscalar : isScalar character = true) : (Lexeme.plain character).Formed :=
  formed_of_class hscalar (by decide)

theorem Blanks.formed (blanks : Blanks) :
    ∀ character ∈ blanks.1, (Lexeme.plain character).Formed :=
  fun character hmem => formed_blank (blanks.2 character hmem)

theorem LineEnd.formed (ending : LineEnd) :
    ∀ character ∈ ending.carriage, (Lexeme.plain character).Formed := by
  cases ending with
  | lf => exact fun character hmem => absurd hmem List.not_mem_nil
  | crlf =>
    intro character hmem
    obtain rfl := List.mem_singleton.mp hmem
    exact ⟨by decide, by decide, by decide, by decide⟩

theorem wellFormed_plains (htext : ∀ character ∈ text, (Lexeme.plain character).Formed)
    (hpost : WellFormed post) : WellFormed (plains text ++ post) := by
  induction text with
  | nil => exact hpost
  | cons character rest ih =>
    exact ⟨htext character List.mem_cons_self, trivial,
      ih fun other hmem => htext other (List.mem_cons_of_mem _ hmem)⟩

/-- No string begins here. -/
def NoMark (lexemes : List Lexeme) : Prop :=
  ∀ quote : Quote, (render lexemes).head? ≠ some quote.mark

theorem noMark_plain (hformed : (Lexeme.plain character).Formed) :
    NoMark (.plain character :: post) := by
  intro quote hhead
  have heq : character = quote.mark := Option.some.inj hhead
  cases quote with
  | basic => exact hformed.2.2.1 heq
  | literal => exact hformed.2.2.2 heq

theorem noMark_plains (htext : ∀ character ∈ text, (Lexeme.plain character).Formed)
    (hpost : NoMark post) : NoMark (plains text ++ post) := by
  cases text with
  | nil => exact hpost
  | cons character rest => exact noMark_plain (htext character List.mem_cons_self)

theorem noMark_newline : NoMark (.newline :: post) := by
  intro quote hhead
  have heq : '\n' = quote.mark := Option.some.inj hhead
  cases quote with
  | basic => exact absurd heq (by decide)
  | literal => exact absurd heq (by decide)

/-! ### Keys -/

theorem wellFormed_part (part : KeyPart) (hpost : WellFormed post) (hmark : NoMark post) :
    WellFormed (part.lexemes ++ post) := by
  cases part with
  | bare text nonempty letters =>
    exact wellFormed_plains (fun character hmem => formed_bare (letters character hmem)) hpost
  | quoted quote body formed => exact ⟨formed, fun _ => hmark quote, hpost⟩

theorem wellFormed_rest (rest : List (Blanks × Blanks × KeyPart)) (hpost : WellFormed post)
    (hmark : NoMark post) :
    WellFormed (rest.flatMap dottedLexemes ++ post) ∧
      NoMark (rest.flatMap dottedLexemes ++ post) := by
  induction rest with
  | nil => exact ⟨hpost, hmark⟩
  | cons part rest ih =>
    have hdot : (Lexeme.plain '.').Formed := formed_scalar (by decide)
    rw [List.flatMap_cons, dottedLexemes]
    simp only [List.append_assoc, List.cons_append]
    refine ⟨wellFormed_plains part.1.formed ⟨hdot, trivial, wellFormed_plains part.2.1.formed ?_⟩,
      noMark_plains part.1.formed (noMark_plain hdot)⟩
    exact wellFormed_part part.2.2 ih.1 ih.2

theorem wellFormed_key (key : Key) (hpost : WellFormed post) (hmark : NoMark post) :
    WellFormed (key.lexemes ++ post) := by
  have hrest := wellFormed_rest key.rest hpost hmark
  rw [Key.lexemes, List.append_assoc]
  exact wellFormed_part key.first hrest.1 hrest.2

theorem wellFormed_assign (key : Key) (left right : Blanks) (hpost : WellFormed post) :
    WellFormed (assignLexemes key left right ++ post) := by
  have hequals : (Lexeme.plain '=').Formed := ⟨by decide, by decide, by decide, by decide⟩
  rw [assignLexemes]
  simp only [List.append_assoc, List.cons_append]
  refine wellFormed_key key (wellFormed_plains left.formed ⟨hequals, trivial, ?_⟩) ?_
  · exact wellFormed_plains right.formed hpost
  · exact noMark_plains left.formed (noMark_plain hequals)

/-- What the lexemes of keys are. -/
def Lexeme.OfKey : Lexeme → Prop
  | .plain character => isBare character = true ∨ isBlank character = true ∨ character = '.'
  | .single quote body => (Lexeme.single quote body).Formed
  | _ => False

theorem Lexeme.OfKey.ne {special : Char} (hof : (Lexeme.plain character).OfKey)
    (hspecial : isBare special = false ∧ isBlank special = false ∧ special ≠ '.') :
    character ≠ special := by
  rintro rfl
  rcases hof with hbare | hblank | hdot
  · rw [hspecial.1] at hbare
    cases hbare
  · rw [hspecial.2.1] at hblank
    cases hblank
  · exact hspecial.2.2 hdot

theorem ofKey_blanks (blanks : Blanks) : ∀ lexeme ∈ plains blanks.1, lexeme.OfKey := by
  intro lexeme hmem
  obtain ⟨character, hcharacter, rfl⟩ := List.mem_map.mp hmem
  exact Or.inr (Or.inl (blanks.2 character hcharacter))

theorem ofKey_part (part : KeyPart) : ∀ lexeme ∈ part.lexemes, lexeme.OfKey := by
  intro lexeme hmem
  cases part with
  | bare text nonempty letters =>
    obtain ⟨character, hcharacter, rfl⟩ := List.mem_map.mp hmem
    exact Or.inl (letters character hcharacter)
  | quoted quote body formed =>
    obtain rfl := List.mem_singleton.mp hmem
    exact formed

theorem ofKey_key (key : Key) : ∀ lexeme ∈ key.lexemes, lexeme.OfKey := by
  intro lexeme hmem
  rcases List.mem_append.mp hmem with hfirst | hrest
  · exact ofKey_part key.first lexeme hfirst
  · obtain ⟨part, -, hpart⟩ := List.mem_flatMap.mp hrest
    rcases List.mem_append.mp hpart with hblank | hbehind
    · exact ofKey_blanks part.1 lexeme hblank
    rcases List.mem_cons.mp hbehind with rfl | hbehind
    · exact Or.inr (Or.inr rfl)
    rcases List.mem_append.mp hbehind with hblank | hpart
    · exact ofKey_blanks part.2.1 lexeme hblank
    · exact ofKey_part part.2.2 lexeme hpart

/-! ### The ends of lines -/

theorem notMem_comment (comment : Comment) (ending : LineEnd) :
    '\n' ∉ comment.1 ++ ending.carriage := by
  rw [List.mem_append]
  rintro (hcomment | hcarriage)
  · exact absurd (comment.2 _ hcomment) (by decide)
  · exact (ending.formed _ hcarriage).1 rfl

theorem wellFormed_tail (tail : Tail) (ending : LineEnd) (hpost : WellFormed post)
    (hend : post = [] ∨ ∃ more, post = .newline :: more) :
    WellFormed (tail.lexemes ending.carriage ++ post) := by
  rw [Tail.lexemes, List.append_assoc]
  refine wellFormed_plains tail.blanks.formed ?_
  cases tail.comment with
  | none => exact wellFormed_plains ending.formed hpost
  | some comment =>
    refine ⟨notMem_comment comment ending, ?_, hpost⟩
    rcases hend with rfl | ⟨more, rfl⟩
    · exact Or.inl rfl
    · exact Or.inr rfl

theorem noMark_tail (tail : Tail) (ending : LineEnd) (hmark : NoMark post) :
    NoMark (tail.lexemes ending.carriage ++ post) := by
  rw [Tail.lexemes, List.append_assoc]
  refine noMark_plains tail.blanks.formed ?_
  cases tail.comment with
  | none => exact noMark_plains ending.formed hmark
  | some comment =>
    intro quote hhead
    have heq : '#' = quote.mark := Option.some.inj hhead
    cases quote with
    | basic => exact absurd heq (by decide)
    | literal => exact absurd heq (by decide)

theorem wellFormed_ended (line : Tail × LineEnd) (hpost : WellFormed post) :
    WellFormed (endedLexemes line ++ post) := by
  rw [endedLexemes, List.append_assoc]
  exact wellFormed_tail line.1 line.2 ⟨trivial, trivial, hpost⟩ (Or.inr ⟨post, rfl⟩)

theorem wellFormed_gap (gap : Gap) (hpost : WellFormed post) :
    WellFormed (gap.lexemes ++ post) := by
  rw [Gap.lexemes, List.append_assoc]
  induction gap.lines with
  | nil => exact wellFormed_plains gap.blanks.formed hpost
  | cons line rest ih =>
    rw [List.flatMap_cons, List.append_assoc]
    exact wellFormed_ended line ih

theorem noMark_gap (gap : Gap) (hmark : NoMark post) : NoMark (gap.lexemes ++ post) := by
  rw [Gap.lexemes, List.append_assoc]
  cases gap.lines with
  | nil => exact noMark_plains gap.blanks.formed hmark
  | cons line rest =>
    rw [List.flatMap_cons, List.append_assoc, endedLexemes, List.append_assoc]
    exact noMark_tail line.1 line.2 noMark_newline

end Lexemes

/-! ### Values in lexemes -/

theorem formed_close {character : Char} (hclose : character ∈ [']', '}', ',', '[', '{']) :
    (Lexeme.plain character).Formed := by
  refine @formed_of_class character ([']', '}', ',', '[', '{'].contains ·) ?_ (by decide)
  exact List.contains_iff_mem.mpr hclose

mutual

theorem wellFormed_value (value : Value) {post : List Lexeme} (hpost : WellFormed post)
    (hmark : NoMark post) : WellFormed (value.lexemes ++ post) := by
  cases value with
  | scalar text letters =>
    rw [Value.lexemes]
    exact wellFormed_plains (fun character hmem => formed_scalar (letters character hmem)) hpost
  | single quote body formed =>
    rw [Value.lexemes]
    exact ⟨formed, fun _ => hmark quote, hpost⟩
  | multi quote body extra formed few =>
    rw [Value.lexemes]
    exact ⟨formed, hmark quote, hpost⟩
  | array items =>
    rw [Value.lexemes]
    exact ⟨formed_close (by decide), trivial, wellFormed_items items hpost⟩
  | inlineTable entries =>
    rw [Value.lexemes]
    exact ⟨formed_close (by decide), trivial, wellFormed_entries entries hpost⟩

theorem wellFormed_items (items : Items) {post : List Lexeme} (hpost : WellFormed post) :
    WellFormed (items.lexemes ++ post) := by
  have hbracket : (Lexeme.plain ']').Formed := formed_close (by decide)
  have hcomma : (Lexeme.plain ',').Formed := formed_close (by decide)
  cases items with
  | close gap =>
    rw [Items.lexemes, List.append_assoc]
    exact wellFormed_gap gap ⟨hbracket, trivial, hpost⟩
  | last before value after =>
    rw [Items.lexemes]
    simp only [List.append_assoc]
    refine wellFormed_gap before (wellFormed_value value ?_ ?_)
    · exact wellFormed_gap after ⟨hbracket, trivial, hpost⟩
    · exact noMark_gap after (noMark_plain hbracket)
  | more before value after rest =>
    rw [Items.lexemes]
    simp only [List.append_assoc, List.cons_append]
    refine wellFormed_gap before (wellFormed_value value ?_ ?_)
    · exact wellFormed_gap after ⟨hcomma, trivial, wellFormed_items rest hpost⟩
    · exact noMark_gap after (noMark_plain hcomma)

theorem wellFormed_entries (entries : Entries) {post : List Lexeme} (hpost : WellFormed post) :
    WellFormed (entries.lexemes ++ post) := by
  have hbrace : (Lexeme.plain '}').Formed := formed_close (by decide)
  have hcomma : (Lexeme.plain ',').Formed := formed_close (by decide)
  cases entries with
  | close blanks =>
    rw [Entries.lexemes, List.append_assoc]
    exact wellFormed_plains blanks.formed ⟨hbrace, trivial, hpost⟩
  | last before key left right value after =>
    rw [Entries.lexemes]
    simp only [List.append_assoc]
    refine wellFormed_plains before.formed (wellFormed_assign key left right
      (wellFormed_value value ?_ ?_))
    · exact wellFormed_plains after.formed ⟨hbrace, trivial, hpost⟩
    · exact noMark_plains after.formed (noMark_plain hbrace)
  | more before key left right value after rest =>
    rw [Entries.lexemes]
    simp only [List.append_assoc, List.cons_append]
    refine wellFormed_plains before.formed (wellFormed_assign key left right
      (wellFormed_value value ?_ ?_))
    · exact wellFormed_plains after.formed ⟨hcomma, trivial, wellFormed_entries rest hpost⟩
    · exact noMark_plains after.formed (noMark_plain hcomma)

end

/-! ### Documents in lexemes -/

theorem formed_brackets {double : Bool} {bracket : Char} (hbracket : bracket ∈ [']', '[']) :
    ∀ character ∈ brackets double bracket, (Lexeme.plain character).Formed := by
  intro character hmem
  obtain rfl := List.eq_of_mem_replicate hmem
  refine formed_close ?_
  rcases List.mem_pair.mp hbracket with rfl | rfl <;> decide

theorem wellFormed_statement (statement : Statement) {post : List Lexeme}
    (hpost : WellFormed post) (hmark : NoMark post) : WellFormed (statement.lexemes ++ post) := by
  cases statement with
  | empty => exact hpost
  | keyValue key left right value =>
    rw [Statement.lexemes, List.append_assoc]
    exact wellFormed_assign key left right (wellFormed_value value hpost hmark)
  | header double left key right =>
    have hclosing : ∀ character ∈ brackets double ']', (Lexeme.plain character).Formed :=
      formed_brackets (by decide)
    rw [Statement.lexemes]
    simp only [List.append_assoc]
    refine wellFormed_plains (formed_brackets (by decide)) (wellFormed_plains left.formed
      (wellFormed_key key ?_ ?_))
    · exact wellFormed_plains right.formed (wellFormed_plains hclosing hpost)
    · exact noMark_plains right.formed (noMark_plains hclosing hmark)

theorem wellFormed_line (line : Line) (ending : LineEnd) {post : List Lexeme}
    (hpost : WellFormed post) (hend : post = [] ∨ ∃ more, post = .newline :: more) :
    WellFormed (line.lexemes ending.carriage ++ post) := by
  have hmark : NoMark post := by
    rcases hend with rfl | ⟨more, rfl⟩
    · exact fun quote hhead => by cases hhead
    · exact noMark_newline
  rw [Line.lexemes]
  simp only [List.append_assoc]
  refine wellFormed_plains line.indent.formed (wellFormed_statement line.statement ?_ ?_)
  · exact wellFormed_tail line.tail ending hpost hend
  · exact noMark_tail line.tail ending hmark

/-- A document falls apart into lexemes. -/
theorem wellFormed_document (document : Document) : WellFormed document.lexemes := by
  induction document with
  | last line =>
    have hline := @wellFormed_line line .lf [] trivial (Or.inl rfl)
    rwa [List.append_nil] at hline
  | more line ending rest ih =>
    rw [Document.lexemes, Line.ended, List.append_assoc]
    exact wellFormed_line line ending ⟨trivial, trivial, ih⟩ (Or.inr ⟨rest.lexemes, rfl⟩)

/-! ### Where brackets stand first -/

section Leads

variable {place : TextPlace} {lead : ℕ × ℕ}

theorem bracket_notMem_class {text : Text} {member : Char → Bool}
    (htext : ∀ character ∈ text, member character = true) (hbracket : member '[' = false) :
    Lexeme.plain '[' ∉ plains text := by
  rw [plain_mem_plains]
  intro hmem
  rw [htext _ hmem] at hbracket
  cases hbracket

theorem bracket_notMem_blanks (blanks : Blanks) : Lexeme.plain '[' ∉ plains blanks.1 :=
  bracket_notMem_class blanks.2 (by decide)

theorem bracket_notMem_tail (tail : Tail) (ending : LineEnd) :
    Lexeme.plain '[' ∉ tail.lexemes ending.carriage := by
  rw [Tail.lexemes, List.mem_append, not_or]
  refine ⟨bracket_notMem_blanks tail.blanks, ?_⟩
  cases tail.comment with
  | none => cases ending <;> simp [LineEnd.carriage, plains]
  | some comment =>
    rw [List.mem_singleton]
    rintro ⟨⟩

theorem bracket_notMem_gap (gap : Gap) : Lexeme.plain '[' ∉ gap.lexemes := by
  rw [Gap.lexemes, List.mem_append, not_or]
  refine ⟨?_, bracket_notMem_blanks gap.blanks⟩
  rw [List.mem_flatMap]
  rintro ⟨line, -, hline⟩
  rcases List.mem_append.mp hline with htail | hnewline
  · exact bracket_notMem_tail line.1 line.2 htail
  · cases List.mem_singleton.mp hnewline

theorem bracket_notMem_key {lexemes : List Lexeme} (hkey : ∀ lexeme ∈ lexemes, lexeme.OfKey) :
    Lexeme.plain '[' ∉ lexemes := by
  intro hmem
  exact (hkey _ hmem).ne (by decide) rfl

theorem bracket_notMem_assign (key : Key) (left right : Blanks) :
    Lexeme.plain '[' ∉ assignLexemes key left right := by
  rw [assignLexemes, List.mem_append, List.mem_append, List.mem_cons]
  rintro (hkey | hleft | hequals | hright)
  · exact bracket_notMem_key (ofKey_key key) hkey
  · exact bracket_notMem_blanks left hleft
  · cases hequals
  · exact bracket_notMem_blanks right hright

/-- A value stands behind its key. -/
theorem stale_assign (key : Key) (left right : Blanks) :
    (place.moveAll (assignLexemes key left right)).fresh = false := by
  rw [assignLexemes, moveAll_append, moveAll_append, moveAll_cons, moveAll_blanks right.2]
  simp [TextPlace.move, Lexeme.freshAfter, isBlank]

mutual

/-- A bracket stands first only where the value does, or an element of an array in it. -/
theorem leads_value (value : Value) {place : TextPlace} {lead : ℕ × ℕ}
    (hlead : lead ∈ leads '[' place value.lexemes) :
    lead.1 ∈ place.freshLine ∨ lead.1 ∈ value.elementLines place := by
  cases value with
  | scalar text letters =>
    rw [Value.lexemes, leads_of_notMem (bracket_notMem_class letters (by decide))] at hlead
    cases hlead
  | single quote body formed => cases hlead
  | multi quote body extra formed few => cases hlead
  | array items =>
    rw [Value.lexemes, leads, List.mem_append] at hlead
    rw [Value.elementLines]
    rcases hlead with hhere | hitems
    · left
      split_ifs at hhere with hleads
      · obtain rfl := List.mem_singleton.mp hhere
        rw [TextPlace.freshLine, if_pos (Bool.and_eq_true_iff.mp hleads).1]
        exact List.mem_singleton_self _
      · cases hhere
    · exact Or.inr (leads_items items hitems)
  | inlineTable entries =>
    rw [Value.lexemes, leads, List.mem_append] at hlead
    rw [Value.elementLines]
    rcases hlead with hhere | hentries
    · rw [Lexeme.Leads, Bool.and_eq_false_imp.mpr fun _ => by decide] at hhere
      cases hhere
    · exact Or.inr (leads_entries entries hentries)

theorem leads_items (items : Items) {place : TextPlace} {lead : ℕ × ℕ}
    (hlead : lead ∈ leads '[' place items.lexemes) : lead.1 ∈ items.elementLines place := by
  cases items with
  | close gap =>
    rw [Items.lexemes, leads_of_notMem] at hlead
    · cases hlead
    · rw [List.mem_append, not_or]
      exact ⟨bracket_notMem_gap gap, by simp⟩
  | last before value after =>
    rw [Items.lexemes, leads_append, leads_append, leads_of_notMem (bracket_notMem_gap before),
      List.nil_append, List.mem_append] at hlead
    rw [Items.elementLines, List.mem_append]
    rcases hlead with hvalue | hafter
    · exact leads_value value hvalue
    · rw [leads_of_notMem] at hafter
      · cases hafter
      · rw [List.mem_append, not_or]
        exact ⟨bracket_notMem_gap after, by simp⟩
  | more before value after rest =>
    rw [Items.lexemes, leads_append, leads_append, leads_append,
      leads_of_notMem (bracket_notMem_gap before), leads_of_notMem (bracket_notMem_gap after),
      List.nil_append, List.nil_append, leads, List.mem_append] at hlead
    rw [Items.elementLines, List.mem_append, List.mem_append, ← or_assoc]
    rcases hlead with hvalue | hrest
    · exact Or.inl (leads_value value hvalue)
    · rw [Lexeme.Leads, Bool.and_eq_false_imp.mpr fun _ => by decide] at hrest
      refine Or.inr (leads_items rest ?_)
      rw [moveAll_append, moveAll_append, moveAll_append]
      exact hrest

theorem leads_entries (entries : Entries) {place : TextPlace} {lead : ℕ × ℕ}
    (hlead : lead ∈ leads '[' place entries.lexemes) : lead.1 ∈ entries.elementLines place := by
  cases entries with
  | close blanks =>
    rw [Entries.lexemes, leads_of_notMem] at hlead
    · cases hlead
    · rw [List.mem_append, not_or]
      exact ⟨bracket_notMem_blanks blanks, by simp⟩
  | last before key left right value after =>
    rw [Entries.lexemes, leads_append, leads_append, leads_append,
      leads_of_notMem (bracket_notMem_blanks before),
      leads_of_notMem (bracket_notMem_assign key left right), List.nil_append, List.nil_append,
      List.mem_append, ← moveAll_append] at hlead
    rw [Entries.elementLines]
    rcases hlead with hvalue | hafter
    · refine (leads_value value hvalue).resolve_left ?_
      rw [TextPlace.freshLine, moveAll_append, stale_assign]
      exact List.not_mem_nil
    · rw [leads_of_notMem] at hafter
      · cases hafter
      · rw [List.mem_append, not_or]
        exact ⟨bracket_notMem_blanks after, by simp⟩
  | more before key left right value after rest =>
    rw [Entries.lexemes, leads_append, leads_append, leads_append, leads_append,
      leads_of_notMem (bracket_notMem_blanks before),
      leads_of_notMem (bracket_notMem_assign key left right),
      leads_of_notMem (bracket_notMem_blanks after), List.nil_append, List.nil_append,
      List.nil_append, List.mem_append, ← moveAll_append] at hlead
    rw [Entries.elementLines, List.mem_append]
    rcases hlead with hvalue | hrest
    · refine Or.inl ((leads_value value hvalue).resolve_left ?_)
      rw [TextPlace.freshLine, moveAll_append, stale_assign]
      exact List.not_mem_nil
    · rw [leads, Lexeme.Leads, Bool.and_eq_false_imp.mpr fun _ => by decide] at hrest
      refine Or.inr (leads_entries rest ?_)
      rw [moveAll_append, moveAll_append, moveAll_append, moveAll_append]
      rw [moveAll_append] at hrest
      exact hrest

end

end Leads

/-! ### Where the lines of a document begin -/

section Lines

variable {place : TextPlace} {lead : ℕ × ℕ} {lexemes : List Lexeme}

theorem newline_notMem_key (hkey : ∀ lexeme ∈ lexemes, lexeme.OfKey) :
    '\n' ∉ render lexemes := by
  intro hmem
  obtain ⟨lexeme, hlexeme, hnewline⟩ := List.mem_flatMap.mp hmem
  have hof := hkey lexeme hlexeme
  cases lexeme with
  | plain character =>
    exact hof.ne (by decide) (List.mem_singleton.mp hnewline).symm
  | single quote body =>
    simp only [Lexeme.render, List.mem_cons, List.mem_append, List.not_mem_nil,
      or_false] at hnewline
    rcases hnewline with hmark | hbody | hmark
    · exact mark_ne_newline quote hmark.symm
    · exact newline_notMem_pieces hof hbody
    · exact mark_ne_newline quote hmark.symm
  | newline => exact hof
  | comment text => exact hof
  | multi quote body extra => exact hof

theorem newline_notMem_blanks (blanks : Blanks) : '\n' ∉ blanks.1 := by
  intro hmem
  exact absurd (blanks.2 _ hmem) (by decide)

theorem newline_notMem_tail (tail : Tail) (ending : LineEnd) :
    '\n' ∉ render (tail.lexemes ending.carriage) := by
  rw [Tail.lexemes, render_append, render_plains, List.mem_append, not_or]
  refine ⟨newline_notMem_blanks tail.blanks, ?_⟩
  cases tail.comment with
  | none =>
    change '\n' ∉ render (plains ending.carriage)
    rw [render_plains]
    exact fun hmem => (ending.formed _ hmem).1 rfl
  | some comment =>
    change '\n' ∉ '#' :: (comment.1 ++ ending.carriage) ++ []
    rw [List.append_nil, List.mem_cons, not_or]
    exact ⟨by decide, notMem_comment comment ending⟩

theorem newline_notMem_brackets {double : Bool} {bracket : Char} (hbracket : bracket ∈ [']', '[']) :
    '\n' ∉ brackets double bracket :=
  fun hmem => (formed_brackets hbracket _ hmem).1 rfl

/-- A header stands on one line. -/
theorem newline_notMem_header (double : Bool) (left : Blanks) (key : Key) (right : Blanks) :
    '\n' ∉ render (Statement.header double left key right).lexemes := by
  simp only [Statement.lexemes, render_append, render_plains, List.mem_append, not_or]
  exact ⟨newline_notMem_brackets (by decide), newline_notMem_blanks left,
    newline_notMem_key (ofKey_key key), newline_notMem_blanks right,
    newline_notMem_brackets (by decide)⟩

/-- A blank or commented line begins with no bracket. -/
theorem leads_empty {line : Line} (hstatement : line.statement = .empty) (ending : LineEnd) :
    leads '[' place (line.lexemes ending.carriage) = [] := by
  rw [Line.lexemes, hstatement]
  refine leads_of_notMem ?_
  rw [Statement.lexemes, List.nil_append, List.mem_append, not_or]
  exact ⟨bracket_notMem_blanks line.indent, bracket_notMem_tail line.tail ending⟩

/-- On the lines of a key-value pair, brackets stand first before elements of arrays only. -/
theorem leads_keyValue {line : Line} {key : Key} {left right : Blanks} {value : Value}
    (hstatement : line.statement = .keyValue key left right value) (ending : LineEnd)
    (hlead : lead ∈ leads '[' place (line.lexemes ending.carriage)) :
    lead.1 ∈ line.elementLines place := by
  rw [Line.lexemes, hstatement, Statement.lexemes, List.append_assoc, leads_append, leads_append,
    leads_append, leads_of_notMem (bracket_notMem_blanks line.indent),
    leads_of_notMem (bracket_notMem_assign key left right),
    leads_of_notMem (bracket_notMem_tail line.tail ending), List.nil_append, List.nil_append,
    List.append_nil, ← moveAll_append] at hlead
  rw [Line.elementLines, hstatement]
  refine (leads_value value hlead).resolve_left ?_
  rw [TextPlace.freshLine, moveAll_append, stale_assign]
  exact List.not_mem_nil

/-- A header line begins with its bracket. -/
theorem leads_header {line : Line} {double : Bool} {left right : Blanks} {key : Key}
    (hstatement : line.statement = .header double left key right) (ending : LineEnd)
    (hfresh : place.fresh = true) :
    leads '[' place (line.lexemes ending.carriage) =
      [(place.line, place.position + line.indent.1.length)] := by
  have hbrackets : ∃ more, (Statement.header double left key right).lexemes =
      .plain '[' :: more := by
    cases double with
    | false => exact ⟨_, rfl⟩
    | true => exact ⟨_, rfl⟩
  obtain ⟨more, hmore⟩ := hbrackets
  have hline : '\n' ∉ render (more ++ line.tail.lexemes ending.carriage) := by
    rw [render_append, List.mem_append, not_or]
    refine ⟨fun hmem => newline_notMem_header double left key right ?_,
      newline_notMem_tail line.tail ending⟩
    rw [hmore, render_cons]
    exact List.mem_append_right _ hmem
  rw [Line.lexemes, hstatement, hmore, leads_append,
    leads_of_notMem (bracket_notMem_blanks line.indent), moveAll_blanks line.indent.2, hfresh]
  change [(place.line, place.position + line.indent.1.length)] ++
    leads '[' _ (more ++ line.tail.lexemes ending.carriage) = _
  rw [leads_of_stale (newline_notMem hline) (by rfl), List.append_nil]

end Lines

end TomlText
