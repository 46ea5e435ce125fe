import CodexMustWork.Library.TomlText

/-!
# The grammar of TOML, down to its lexemes

A document is a list of lines: blank ones, table headers, and key-value pairs.  A value can go
on over several lines only in a multi-line string or in an array, between whose items line
ends and comments may stand.  What a scalar or an escape means is left open, and so is which
headers may follow each other: every document of TOML 1.0 has this form.
-/

namespace TomlText

/-! ### Reading on -/

/-- Where one is after some lexemes. -/
def TextPlace.moveAll (place : TextPlace) (lexemes : List Lexeme) : TextPlace :=
  lexemes.foldl TextPlace.move place

/-- A text in plain characters. -/
def plains (text : Text) : List Lexeme := text.map Lexeme.plain

/-- A line begins outside strings and comments, with blanks and then the character. -/
def BeginsWith (character : Char) (lexemes : List Lexeme) (start : ℕ) : Prop :=
  ∃ before blanks after, lexemes = before ++ (plains blanks ++ .plain character :: after) ∧
    (∀ blank ∈ blanks, isBlank blank = true) ∧ (render before).length = start ∧
    (before = [] ∨ ∃ earlier, before = earlier ++ [.newline])

section Reading

variable {character : Char} {place : TextPlace} {lexemes : List Lexeme}

@[simp] theorem moveAll_nil : place.moveAll [] = place := rfl

@[simp] theorem moveAll_cons (lexeme : Lexeme) :
    place.moveAll (lexeme :: lexemes) = (place.move lexeme).moveAll lexemes := rfl

theorem moveAll_append (first second : List Lexeme) :
    place.moveAll (first ++ second) = (place.moveAll first).moveAll second :=
  List.foldl_append

theorem render_append (first second : List Lexeme) :
    render (first ++ second) = render first ++ render second :=
  List.flatMap_append

theorem leads_append (first second : List Lexeme) :
    leads character place (first ++ second) =
      leads character place first ++ leads character (place.moveAll first) second := by
  induction first generalizing place with
  | nil => rfl
  | cons lexeme rest ih => rw [List.cons_append, leads, leads, ih, List.append_assoc, moveAll_cons]

theorem position_moveAll : (place.moveAll lexemes).position =
    place.position + (render lexemes).length := by
  induction lexemes generalizing place with
  | nil => rfl
  | cons lexeme rest ih =>
    rw [moveAll_cons, ih, render_cons, List.length_append, ← Nat.add_assoc]
    rfl

/-- The end of a line is the beginning of the next one. -/
theorem moveAll_newline (lexemes : List Lexeme) :
    place.moveAll (lexemes ++ [.newline]) =
      ⟨place.position + (render (lexemes ++ [.newline])).length,
        place.position + (render (lexemes ++ [.newline])).length, true⟩ := by
  rw [← position_moveAll, moveAll_append]
  rfl

theorem newline_notMem (hline : '\n' ∉ render lexemes) : Lexeme.newline ∉ lexemes := by
  intro hmem
  exact hline (List.mem_flatMap.mpr ⟨.newline, hmem, List.mem_singleton_self _⟩)

/-- Something on the line stays there until the line ends. -/
theorem stale_moveAll (hline : Lexeme.newline ∉ lexemes) (hstale : place.fresh = false) :
    (place.moveAll lexemes).fresh = false := by
  induction lexemes generalizing place with
  | nil => exact hstale
  | cons lexeme rest ih =>
    rw [List.mem_cons, not_or] at hline
    refine ih hline.2 ?_
    change lexeme.freshAfter place.fresh = false
    rw [hstale]
    cases lexeme with
    | newline => exact absurd rfl hline.1
    | plain character => rfl
    | comment text => rfl
    | single quote body => rfl
    | multi quote body extra => rfl

/-- Nothing stands first on a line on which there is something. -/
theorem leads_of_stale (hline : Lexeme.newline ∉ lexemes) (hstale : place.fresh = false) :
    leads character place lexemes = [] := by
  induction lexemes generalizing place with
  | nil => rfl
  | cons lexeme rest ih =>
    have hmoved : (place.move lexeme).fresh = false := @stale_moveAll place [lexeme] (by
      intro hmem
      exact hline (List.mem_singleton.mp hmem ▸ List.mem_cons_self)) hstale
    have hleads : lexeme.Leads character place.fresh = false := by
      rw [hstale]
      cases lexeme <;> rfl
    rw [leads, hleads, ih (fun hmem => hline (List.mem_cons_of_mem _ hmem)) hmoved]
    rfl

/-- What is not there does not stand first. -/
theorem leads_of_notMem (hnone : Lexeme.plain character ∉ lexemes) :
    leads character place lexemes = [] := by
  induction lexemes generalizing place with
  | nil => rfl
  | cons lexeme rest ih =>
    rw [List.mem_cons, not_or] at hnone
    have hleads : lexeme.Leads character place.fresh = false := by
      cases lexeme with
      | plain found =>
        have hne : found ≠ character := fun heq => hnone.1 (congrArg Lexeme.plain heq.symm)
        simp [Lexeme.Leads, hne]
      | newline => rfl
      | comment text => rfl
      | single quote body => rfl
      | multi quote body extra => rfl
    rw [leads, hleads, ih hnone.2]
    rfl

/-! ### Plain characters -/

@[simp] theorem render_plains (text : Text) : render (plains text) = text := by
  induction text with
  | nil => rfl
  | cons character rest ih =>
    rw [plains, List.map_cons, render_cons]
    exact congrArg (character :: ·) ih

theorem plain_mem_plains {text : Text} : Lexeme.plain character ∈ plains text ↔ character ∈ text :=
  ⟨fun hmem => by
    obtain ⟨found, hfound, heq⟩ := List.mem_map.mp hmem
    exact Lexeme.plain.inj heq ▸ hfound, List.mem_map_of_mem⟩

/-- Blanks change neither the line nor what has been on it. -/
theorem moveAll_blanks {blanks : Text} (hblanks : ∀ blank ∈ blanks, isBlank blank = true) :
    place.moveAll (plains blanks) =
      ⟨place.line, place.position + blanks.length, place.fresh⟩ := by
  induction blanks generalizing place with
  | nil => rfl
  | cons blank rest ih =>
    have hblank := hblanks blank List.mem_cons_self
    have hline : '\n' ∉ [blank] := by
      rw [List.mem_singleton]
      rintro rfl
      exact absurd hblank (by decide)
    have hmove : place.move (.plain blank) = ⟨place.line, place.position + 1, place.fresh⟩ := by
      simp [TextPlace.move, Lexeme.render, Lexeme.freshAfter, hblank, lineAfter_of_notMem hline]
    rw [plains, List.map_cons, moveAll_cons, hmove,
      ← plains, ih fun other hmem => hblanks other (List.mem_cons_of_mem _ hmem)]
    simp only [List.length_cons, Nat.add_assoc, Nat.add_comm 1]

/-- Where a character stands first, a line begins with it. -/
theorem begins_of_leads {lead : ℕ × ℕ} (hlead : lead ∈ leads character place lexemes) :
    (place.fresh = true ∧ lead.1 = place.line ∧ ∃ blanks after,
        (∀ blank ∈ blanks, isBlank blank = true) ∧
        lexemes = plains blanks ++ .plain character :: after) ∨
      ∃ before blanks after, (∀ blank ∈ blanks, isBlank blank = true) ∧
        lexemes = before ++ (.newline :: (plains blanks ++ .plain character :: after)) ∧
        lead.1 = place.position + (render (before ++ [.newline])).length := by
  induction lexemes generalizing place with
  | nil => exact absurd hlead List.not_mem_nil
  | cons lexeme rest ih =>
    rw [leads, List.mem_append] at hlead
    rcases hlead with hhere | hlater
    · left
      split_ifs at hhere with hleads
      · obtain rfl := List.mem_singleton.mp hhere
        cases lexeme with
        | plain found =>
          obtain ⟨hfresh, hfound⟩ := Bool.and_eq_true_iff.mp hleads
          obtain rfl := eq_of_beq hfound
          exact ⟨hfresh, rfl, [], rest, fun blank hmem => absurd hmem List.not_mem_nil, rfl⟩
        | newline => cases hleads
        | comment text => cases hleads
        | single quote body => cases hleads
        | multi quote body extra => cases hleads
      · exact absurd hhere List.not_mem_nil
    · rcases ih hlater with ⟨hfresh, hline, blanks, after, hblanks, rfl⟩ |
        ⟨before, blanks, after, hblanks, rfl, hplace⟩
      · cases lexeme with
        | newline => exact Or.inr ⟨[], blanks, after, hblanks, rfl, hline⟩
        | plain found =>
          obtain ⟨hfresh, hblank⟩ := Bool.and_eq_true_iff.mp hfresh
          have hmoved := congrArg TextPlace.line (@moveAll_blanks place [found] (by
            intro blank hmem
            exact List.mem_singleton.mp hmem ▸ hblank))
          refine Or.inl ⟨hfresh, hline.trans hmoved, found :: blanks, after, ?_, rfl⟩
          intro blank hmem
          rcases List.mem_cons.mp hmem with rfl | hmem
          · exact hblank
          · exact hblanks blank hmem
        | comment text => cases hfresh
        | single quote body => cases hfresh
        | multi quote body extra => cases hfresh
      · refine Or.inr ⟨lexeme :: before, blanks, after, hblanks, rfl, ?_⟩
        rw [hplace, List.cons_append, render_cons, List.length_append, ← Nat.add_assoc]
        rfl

theorem beginsWith_of_leads {lead : ℕ × ℕ} (hlead : lead ∈ leads character ⟨0, 0, true⟩ lexemes) :
    BeginsWith character lexemes lead.1 := by
  rcases begins_of_leads hlead with ⟨-, hline, blanks, after, hblanks, rfl⟩ |
    ⟨before, blanks, after, hblanks, rfl, hplace⟩
  · exact ⟨[], blanks, after, rfl, hblanks, hline.symm, Or.inl rfl⟩
  · refine ⟨before ++ [.newline], blanks, after, ?_, hblanks, ?_, Or.inr ⟨before, rfl⟩⟩
    · rw [List.append_assoc]
      rfl
    · rw [hplace, Nat.zero_add]

end Reading

/-! ### Keys -/

/-- Spaces and tabs. -/
abbrev Blanks := { text : Text // ∀ character ∈ text, isBlank character = true }

def isBare (character : Char) : Bool :=
  character.isAlphanum || character == '-' || character == '_'

/-- A part of a dotted key. -/
inductive KeyPart where
  | bare (text : Text) (nonempty : text ≠ [])
      (letters : ∀ character ∈ text, isBare character = true)
  | quoted (quote : Quote) (body : List Piece) (formed : (Lexeme.single quote body).Formed)

def KeyPart.lexemes : KeyPart → List Lexeme
  | .bare text _ _ => plains text
  | .quoted quote body _ => [.single quote body]

/-- A key: its parts, with dots between them. -/
structure Key where
  first : KeyPart
  rest : List (Blanks × Blanks × KeyPart)

/-- A further part, with the dot before it. -/
def dottedLexemes (part : Blanks × Blanks × KeyPart) : List Lexeme :=
  plains part.1.1 ++ .plain '.' :: (plains part.2.1.1 ++ part.2.2.lexemes)

def Key.lexemes (key : Key) : List Lexeme := key.first.lexemes ++ key.rest.flatMap dottedLexemes

/-! ### Values -/

/-- Control characters other than tabs do not stand in comments. -/
def isCommented (character : Char) : Bool :=
  character == '\t' || (decide (32 ≤ character.toNat) && character.toNat != 127)

abbrev Comment := { text : Text // ∀ character ∈ text, isCommented character = true }

/-- The end of a line, up to the line end itself. -/
structure Tail where
  blanks : Blanks
  comment : Option Comment

inductive LineEnd where
  | lf
  | crlf
deriving DecidableEq

/-- What stands before the newline character. -/
def LineEnd.carriage : LineEnd → Text
  | .lf => []
  | .crlf => ['\r']

/-- The carriage return of a commented line is read as part of the comment. -/
def Tail.lexemes (tail : Tail) (carriage : Text) : List Lexeme :=
  plains tail.blanks.1 ++
    match tail.comment with
    | none => plains carriage
    | some text => [.comment (text.1 ++ carriage)]

/-- What may stand between the items of an array. -/
structure Gap where
  lines : List (Tail × LineEnd)
  blanks : Blanks

def endedLexemes (line : Tail × LineEnd) : List Lexeme :=
  line.1.lexemes line.2.carriage ++ [.newline]

def Gap.lexemes (gap : Gap) : List Lexeme :=
  gap.lines.flatMap endedLexemes ++ plains gap.blanks.1

/-- Numbers, booleans and dates are made of these. -/
def isScalar (character : Char) : Bool :=
  character.isAlphanum || "+-._: ".toList.contains character

mutual

inductive Value where
  | scalar (text : Text) (letters : ∀ character ∈ text, isScalar character = true)
  | single (quote : Quote) (body : List Piece) (formed : (Lexeme.single quote body).Formed)
  | multi (quote : Quote) (body : List Item) (extra : ℕ)
      (formed : (Lexeme.multi quote body extra).Formed) (few : extra ≤ 2)
  | array (items : Items)
  | inlineTable (entries : Entries)

/-- The items of an array, up to its closing bracket. -/
inductive Items where
  | close (gap : Gap)
  | last (before : Gap) (value : Value) (after : Gap)
  | more (before : Gap) (value : Value) (after : Gap) (rest : Items)

/-- The entries of an inline table, up to its closing brace. -/
inductive Entries where
  | close (blanks : Blanks)
  | last (before : Blanks) (key : Key) (left right : Blanks) (value : Value) (after : Blanks)
  | more (before : Blanks) (key : Key) (left right : Blanks) (value : Value) (after : Blanks)
      (rest : Entries)

end

/-- A key with its equals sign. -/
def assignLexemes (key : Key) (left right : Blanks) : List Lexeme :=
  key.lexemes ++ (plains left.1 ++ .plain '=' :: plains right.1)

mutual

def Value.lexemes : Value → List Lexeme
  | .scalar text _ => plains text
  | .single quote body _ => [.single quote body]
  | .multi quote body extra _ _ => [.multi quote body extra]
  | .array items => .plain '[' :: items.lexemes
  | .inlineTable entries => .plain '{' :: entries.lexemes

def Items.lexemes : Items → List Lexeme
  | .close gap => gap.lexemes ++ [.plain ']']
  | .last before value after => before.lexemes ++ (value.lexemes ++ (after.lexemes ++ [.plain ']']))
  | .more before value after rest =>
      before.lexemes ++ (value.lexemes ++ (after.lexemes ++ .plain ',' :: rest.lexemes))

def Entries.lexemes : Entries → List Lexeme
  | .close blanks => plains blanks.1 ++ [.plain '}']
  | .last before key left right value after =>
      plains before.1 ++ (assignLexemes key left right ++
        (value.lexemes ++ (plains after.1 ++ [.plain '}'])))
  | .more before key left right value after rest =>
      plains before.1 ++ (assignLexemes key left right ++
        (value.lexemes ++ (plains after.1 ++ .plain ',' :: rest.lexemes)))

end

/-! ### Lines -/

inductive Statement where
  | empty
  | keyValue (key : Key) (left right : Blanks) (value : Value)
  /-- In single brackets, or in double ones for a table of an array. -/
  | header (double : Bool) (left : Blanks) (key : Key) (right : Blanks)

/-- The brackets of a header, on one side of it. -/
def brackets (double : Bool) (bracket : Char) : Text :=
  List.replicate (if double then 2 else 1) bracket

def Statement.lexemes : Statement → List Lexeme
  | .empty => []
  | .keyValue key left right value => assignLexemes key left right ++ value.lexemes
  | .header double left key right =>
      plains (brackets double '[') ++
        (plains left.1 ++ (key.lexemes ++ (plains right.1 ++ plains (brackets double ']'))))

structure Line where
  indent : Blanks
  statement : Statement
  tail : Tail

def Line.lexemes (line : Line) (carriage : Text) : List Lexeme :=
  plains line.indent.1 ++ (line.statement.lexemes ++ line.tail.lexemes carriage)

/-- The lines; the last one ends with the text. -/
inductive Document where
  | last (line : Line)
  | more (line : Line) (ending : LineEnd) (rest : Document)

/-- A line with its end. -/
def Line.ended (line : Line) (ending : LineEnd) : List Lexeme :=
  line.lexemes ending.carriage ++ [.newline]

def Document.lexemes : Document → List Lexeme
  | .last line => line.lexemes []
  | .more line ending rest => line.ended ending ++ rest.lexemes

def Document.text (document : Document) : Text := render document.lexemes

/-! ### The lines that begin with an element of an array -/

def TextPlace.freshLine (place : TextPlace) : List ℕ := if place.fresh then [place.line] else []

mutual

def Value.elementLines (place : TextPlace) : Value → List ℕ
  | .array items => items.elementLines (place.move (.plain '['))
  | .inlineTable entries => entries.elementLines (place.move (.plain '{'))
  | _ => []

def Items.elementLines (place : TextPlace) : Items → List ℕ
  | .close _ => []
  | .last before value _ =>
      (place.moveAll before.lexemes).freshLine ++
        value.elementLines (place.moveAll before.lexemes)
  | .more before value after rest =>
      (place.moveAll before.lexemes).freshLine ++
        (value.elementLines (place.moveAll before.lexemes) ++
          rest.elementLines (place.moveAll
            (before.lexemes ++ (value.lexemes ++ (after.lexemes ++ [.plain ','])))))

def Entries.elementLines (place : TextPlace) : Entries → List ℕ
  | .close _ => []
  | .last before key left right value _ =>
      value.elementLines (place.moveAll (plains before.1 ++ assignLexemes key left right))
  | .more before key left right value after rest =>
      value.elementLines (place.moveAll (plains before.1 ++ assignLexemes key left right)) ++
        rest.elementLines (place.moveAll (plains before.1 ++ (assignLexemes key left right ++
          (value.lexemes ++ (plains after.1 ++ [.plain ','])))))

end

def Line.elementLines (place : TextPlace) (line : Line) : List ℕ :=
  match line.statement with
  | .keyValue key left right value =>
      value.elementLines (place.moveAll (plains line.indent.1 ++ assignLexemes key left right))
  | _ => []

def Document.elementLines (place : TextPlace) : Document → List ℕ
  | .last line => line.elementLines place
  | .more line ending rest =>
      line.elementLines place ++ rest.elementLines (place.moveAll (line.ended ending))

end TomlText
