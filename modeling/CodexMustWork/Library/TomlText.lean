import Mathlib.Data.List.Basic

/-!
# TOML text as a sequence of lexemes

What a document of the configuration language TOML is made of, as far as it takes to tell
where strings and comments begin and end: line ends, plain characters, comments, one-line
strings and multi-line strings.  A lexeme has its own form, and what follows it must not be
read as part of it.  The physical lines of the text, and the characters that stand first on
one outside strings and comments, are read off the lexemes.
-/

namespace TomlText

abbrev Text := List Char

/-! ### Lexemes -/

/-- The two kinds of strings. -/
inductive Quote where
  | basic
  | literal
deriving DecidableEq

def Quote.mark : Quote → Char
  | .basic => '"'
  | .literal => '\''

/-- A character of a string: itself, or behind a backslash. -/
inductive Piece where
  | plain (character : Char)
  | escaped (character : Char)

def Piece.render : Piece → Text
  | .plain character => [character]
  | .escaped character => ['\\', character]

/-- Only a basic string has escapes, and a backslash in it begins one. -/
def Piece.Within (quote : Quote) : Piece → Prop
  | .plain character => character ≠ quote.mark ∧ (quote = .basic → character ≠ '\\')
  | .escaped _ => quote = .basic

def Piece.OnLine : Piece → Prop
  | .plain character => character ≠ '\n'
  | .escaped character => character ≠ '\n'

/-- A part of a multi-line string: a piece, or marks too few to end it. -/
inductive Item where
  | piece (piece : Piece)
  | marks (count : ℕ)

def Item.render (quote : Quote) : Item → Text
  | .piece part => part.render
  | .marks count => List.replicate count quote.mark

/-- One or two marks, and then a piece. -/
def ItemsWithin (quote : Quote) : List Item → Prop
  | [] => True
  | .piece piece :: rest => piece.Within quote ∧ ItemsWithin quote rest
  | .marks count :: rest =>
      (count = 1 ∨ count = 2) ∧ (∃ piece more, rest = .piece piece :: more) ∧
        ItemsWithin quote rest

/-- The lexemes; a multi-line string can have marks right before those that end it. -/
inductive Lexeme where
  | newline
  | plain (character : Char)
  | comment (text : Text)
  | single (quote : Quote) (body : List Piece)
  | multi (quote : Quote) (body : List Item) (extra : ℕ)

def Lexeme.render : Lexeme → Text
  | .newline => ['\n']
  | .plain character => [character]
  | .comment text => '#' :: text
  | .single quote body => quote.mark :: (body.flatMap Piece.render ++ [quote.mark])
  | .multi quote body extra =>
      List.replicate 3 quote.mark ++ (body.flatMap (Item.render quote) ++
        List.replicate (3 + extra) quote.mark)

/-- The form of a lexeme. -/
def Lexeme.Formed : Lexeme → Prop
  | .newline => True
  | .plain character =>
      character ≠ '\n' ∧ character ≠ '#' ∧ character ≠ '"' ∧ character ≠ '\''
  | .comment text => '\n' ∉ text
  | .single quote body => ∀ piece ∈ body, piece.Within quote ∧ piece.OnLine
  | .multi quote body _ => ItemsWithin quote body

/-- What follows is not read as part of the lexeme. -/
def Lexeme.Apart (rest : Text) : Lexeme → Prop
  | .newline => True
  | .plain _ => True
  | .comment _ => rest = [] ∨ rest.head? = some '\n'
  | .single quote body => body = [] → rest.head? ≠ some quote.mark
  | .multi quote _ _ => rest.head? ≠ some quote.mark

def render (lexemes : List Lexeme) : Text := lexemes.flatMap Lexeme.render

/-- A text in lexemes. -/
def WellFormed : List Lexeme → Prop
  | [] => True
  | lexeme :: rest => lexeme.Formed ∧ lexeme.Apart (render rest) ∧ WellFormed rest

@[simp] theorem render_nil : render [] = [] := rfl

@[simp] theorem render_cons (lexeme : Lexeme) (rest : List Lexeme) :
    render (lexeme :: rest) = lexeme.render ++ render rest := List.flatMap_cons ..

/-! ### Lines -/

/-- Where the line began that one is on after a text, which itself starts at `position`. -/
def lineAfter (line position : ℕ) : Text → ℕ
  | [] => line
  | character :: rest =>
      lineAfter (if character = '\n' then position + 1 else line) (position + 1) rest

/-- Where a text has been read to: the beginning of the line, the position, and whether there
has been nothing but blanks on the line. -/
structure TextPlace where
  line : ℕ
  position : ℕ
  fresh : Bool

def isBlank (character : Char) : Bool := character = ' ' || character = '\t'

/-- Whether the line is fresh after a lexeme. -/
def Lexeme.freshAfter (fresh : Bool) : Lexeme → Bool
  | .newline => true
  | .plain character => fresh && isBlank character
  | _ => false

def TextPlace.move (place : TextPlace) (lexeme : Lexeme) : TextPlace where
  line := lineAfter place.line place.position lexeme.render
  position := place.position + lexeme.render.length
  fresh := lexeme.freshAfter place.fresh

/-- The lexeme is the character, standing first on its line. -/
def Lexeme.Leads (character : Char) (fresh : Bool) : Lexeme → Bool
  | .plain found => fresh && found == character
  | _ => false

/-- The lines on which the character stands first, with its position. -/
def leads (character : Char) (place : TextPlace) : List Lexeme → List (ℕ × ℕ)
  | [] => []
  | lexeme :: rest =>
      (if lexeme.Leads character place.fresh then [(place.line, place.position)] else []) ++
        leads character (place.move lexeme) rest

theorem isBlank_iff {character : Char} :
    isBlank character = true ↔ character = ' ' ∨ character = '\t' := by
  rw [isBlank, Bool.or_eq_true, decide_eq_true_iff, decide_eq_true_iff]

theorem lineAfter_append (line position : ℕ) (first second : Text) :
    lineAfter line position (first ++ second) =
      lineAfter (lineAfter line position first) (position + first.length) second := by
  induction first generalizing line position with
  | nil => rfl
  | cons character rest ih =>
    rw [List.cons_append, lineAfter, lineAfter, ih, List.length_cons, Nat.add_right_comm,
      Nat.add_assoc position]

theorem lineAfter_of_notMem {text : Text} (htext : '\n' ∉ text) (line position : ℕ) :
    lineAfter line position text = line := by
  induction text generalizing position with
  | nil => rfl
  | cons character rest ih =>
    rw [List.mem_cons, not_or] at htext
    rw [lineAfter, if_neg fun heq => htext.1 heq.symm, ih htext.2]

/-! ### Marks and line ends -/

theorem mark_ne_newline (quote : Quote) : quote.mark ≠ '\n' := by
  cases quote with
  | basic => decide
  | literal => decide

theorem mark_ne_backslash (quote : Quote) : quote.mark ≠ '\\' := by
  cases quote with
  | basic => decide
  | literal => decide

theorem newline_notMem_pieces {quote : Quote} {body : List Piece}
    (hbody : ∀ piece ∈ body, piece.Within quote ∧ piece.OnLine) :
    '\n' ∉ body.flatMap Piece.render := by
  rw [List.mem_flatMap]
  rintro ⟨piece, hmem, hnewline⟩
  have honline := (hbody piece hmem).2
  cases piece with
  | plain character => exact honline (List.mem_singleton.mp hnewline).symm
  | escaped character =>
    rcases List.mem_cons.mp hnewline with hbackslash | hnewline
    · exact absurd hbackslash (by decide)
    · exact honline (List.mem_singleton.mp hnewline).symm

/-! ### Runs of marks -/

/-- A run of marks ends where something else follows. -/
theorem takeWhile_run {mark : Char} {count : ℕ} {rest : Text} (hrest : rest.head? ≠ some mark) :
    (List.replicate count mark ++ rest).takeWhile (· == mark) = List.replicate count mark := by
  induction count with
  | zero =>
    cases rest with
    | nil => rfl
    | cons character more =>
      have hne : character ≠ mark := fun heq => hrest (congrArg some heq)
      simp [hne]
  | succ count ih => simp [List.replicate_succ, ih]

end TomlText
