import CodexMustWork.Library.TomlText
import Mathlib.Data.List.DropRight

/-!
# Table headers in the text of a configuration

`scripts/toml_lexical_headers.py`: a scan over the characters of a TOML text that reports the
physical lines which are table headers, and none inside a string or a comment.
-/

namespace CodexMustWork.TomlHeaders

open TomlText

/-! ### Characters and lines -/

/-- The characters that `str.strip` takes away. -/
def isSpace (character : Char) : Bool :=
  let code := character.toNat
  (decide (9 ≤ code) && decide (code ≤ 13)) || (decide (28 ≤ code) && decide (code ≤ 32)) ||
    code == 0x85 || code == 0xa0 || code == 0x1680 ||
    (decide (0x2000 ≤ code) && decide (code ≤ 0x200a)) || code == 0x2028 || code == 0x2029 ||
    code == 0x202f || code == 0x205f || code == 0x3000

/-- `text.lstrip()`. -/
def lstrip (text : Text) : Text := text.dropWhile isSpace

/-- `text.strip()`. -/
def strip (text : Text) : Text := (lstrip text).rdropWhile isSpace

/-- `source.find("\n", index)` and one further, or the length. -/
def bodyStartOf (source : Text) (index : ℕ) : ℕ :=
  let lineEnd := index + ((source.drop index).takeWhile (· != '\n')).length
  if lineEnd < source.length then lineEnd + 1 else source.length

/-- `source[start:stop]`. -/
def slice (source : Text) (start stop : ℕ) : Text := (source.take stop).drop start

/-- `_quote_run`. -/
def quoteRun (source : Text) (index : ℕ) (quote : Char) : ℕ :=
  ((source.drop index).takeWhile (· == quote)).length

/-! ### Headers -/

/-- `HeaderKind`. -/
inductive HeaderKind where
  | table
  | arrayTable
deriving DecidableEq, Repr

/-- `TomlHeader`. -/
structure TomlHeader where
  text : Text
  start : ℕ
  bodyStart : ℕ
  kind : HeaderKind
deriving DecidableEq

/-- The loop of `_header_kind`: what stands behind the closing brackets. -/
def behindClosing (arrayTable : Bool) : Option Char → Bool → Text → Option Text
  | _, _, [] => none
  | some quote, escaped, character :: rest =>
      if quote = '"' ∧ character = '\\' ∧ escaped = false then
        behindClosing arrayTable (some quote) true rest
      else if character = quote ∧ escaped = false then
        behindClosing arrayTable none escaped rest
      else behindClosing arrayTable (some quote) false rest
  | none, escaped, character :: rest =>
      if character = '"' ∨ character = '\'' then
        behindClosing arrayTable (some character) escaped rest
      else if arrayTable then
        if character = ']' ∧ rest.head? = some ']' then some rest.tail
        else behindClosing arrayTable none escaped rest
      else if character = ']' then some rest
      else behindClosing arrayTable none escaped rest

section Scan

variable (loads : Text → Bool)

/-- `_header_kind`; `loads` says whether `tomllib` accepts a text. -/
def headerKind (text : Text) : Option HeaderKind :=
  let arrayTable := "[[".toList.isPrefixOf text
  match behindClosing arrayTable none false (text.drop (if arrayTable then 2 else 1)) with
  | none => none
  | some behind =>
      let suffix := lstrip behind
      if suffix = [] ∨ suffix.head? = some '#' then
        if loads text then some (if arrayTable then .arrayTable else .table) else none
      else none

/-- The header on a line whose first character stands at an index. -/
def headerAt (source : Text) (lineStart index : ℕ) : Option TomlHeader :=
  let bodyStart := bodyStartOf source index
  let text := strip (slice source lineStart bodyStart)
  (headerKind loads text).map fun kind => ⟨text, lineStart, bodyStart, kind⟩

/-! ### The scanner -/

/-- `_State`. -/
inductive LexState where
  | normal
  | comment
  | basic
  | literal
  | multilineBasic
  | multilineLiteral
deriving DecidableEq, Repr

/-- `TomlLexicalError`. -/
structure TomlLexicalError where
  state : LexState
deriving DecidableEq, Repr

/-- `_Scanner`, without its source. -/
structure Scanner where
  headers : List TomlHeader
  state : LexState
  lineStart : ℕ
  atLineStart : Bool
deriving DecidableEq

def Scanner.initial : Scanner := ⟨[], .normal, 0, true⟩

/-- `_newline`. -/
def Scanner.newline (scanner : Scanner) (index : ℕ) : Scanner :=
  { scanner with lineStart := index + 1, atLineStart := true }

/-- `_escape`. -/
def Scanner.escape (source : Text) (scanner : Scanner) (index : ℕ) :
    Except TomlLexicalError (Scanner × ℕ) :=
  match source[index + 1]? with
  | none => .error ⟨scanner.state⟩
  | some following =>
      .ok (if following = '\n' then scanner.newline (index + 1) else scanner, index + 2)

/-- `_open_string`. -/
def Scanner.openString (source : Text) (scanner : Scanner) (index : ℕ) (quote : Char) :
    Scanner × ℕ :=
  let multiline := decide (3 ≤ quoteRun source index quote)
  let state : LexState :=
    if quote = '"' then (if multiline then .multilineBasic else .basic)
    else if multiline then .multilineLiteral else .literal
  ({ scanner with state := state }, index + if multiline then 3 else 1)

/-- `_normal`. -/
def Scanner.normal (source : Text) (scanner : Scanner) (character : Char) (index : ℕ) :
    Scanner × ℕ :=
  if character = '\n' then (scanner.newline index, index + 1)
  else if scanner.atLineStart ∧ (character = ' ' ∨ character = '\t') then (scanner, index + 1)
  else
    let found :=
      if scanner.atLineStart ∧ character = '[' then
        (headerAt loads source scanner.lineStart index).toList
      else []
    let passed := { scanner with headers := scanner.headers ++ found, atLineStart := false }
    if character = '#' then ({ passed with state := .comment }, index + 1)
    else if character = '"' ∨ character = '\'' then passed.openString source index character
    else (passed, index + 1)

/-- `_comment`. -/
def Scanner.comment (scanner : Scanner) (character : Char) (index : ℕ) : Scanner × ℕ :=
  (if character = '\n' then { scanner.newline index with state := .normal } else scanner,
    index + 1)

/-- `_single`. -/
def Scanner.single (source : Text) (scanner : Scanner) (character : Char) (index : ℕ)
    (quote : Char) : Except TomlLexicalError (Scanner × ℕ) :=
  if scanner.state = .basic ∧ character = '\\' then scanner.escape source index
  else if character = quote then .ok ({ scanner with state := .normal }, index + 1)
  else if character = '\n' then .error ⟨scanner.state⟩
  else .ok (scanner, index + 1)

/-- `_multiline`. -/
def Scanner.multiline (source : Text) (scanner : Scanner) (character : Char) (index : ℕ)
    (quote : Char) : Except TomlLexicalError (Scanner × ℕ) :=
  if scanner.state = .multilineBasic ∧ character = '\\' then scanner.escape source index
  else if character = quote then
    let run := quoteRun source index quote
    .ok ({ scanner with
      atLineStart := false
      state := if 3 ≤ run then .normal else scanner.state }, index + run)
  else if character = '\n' then .ok (scanner.newline index, index + 1)
  else if character = ' ' ∨ character = '\t' then .ok (scanner, index + 1)
  else .ok ({ scanner with atLineStart := false }, index + 1)

/-- `_step`. -/
def Scanner.step (source : Text) (scanner : Scanner) (character : Char) (index : ℕ) :
    Except TomlLexicalError (Scanner × ℕ) :=
  match scanner.state with
  | .normal => .ok (scanner.normal loads source character index)
  | .comment => .ok (scanner.comment character index)
  | .basic => scanner.single source character index '"'
  | .literal => scanner.single source character index '\''
  | .multilineBasic => scanner.multiline source character index '"'
  | .multilineLiteral => scanner.multiline source character index '\''

/-- The loop of `scan`, for at most so many rounds. -/
def Scanner.scanFrom (source : Text) :
    ℕ → Scanner → ℕ → Except TomlLexicalError Scanner
  | 0, scanner, _ => .ok scanner
  | rounds + 1, scanner, index =>
      match source[index]? with
      | none => .ok scanner
      | some character =>
          match scanner.step loads source character index with
          | .error failure => .error failure
          | .ok (next, following) => Scanner.scanFrom source rounds next following

/-- `scan_table_headers`; every round passes a character, so there are no more rounds. -/
def scanTableHeaders (source : Text) : Except TomlLexicalError (List TomlHeader) :=
  match Scanner.initial.scanFrom loads source source.length 0 with
  | .error failure => .error failure
  | .ok last =>
      if last.state = .normal ∨ last.state = .comment then .ok last.headers
      else .error ⟨last.state⟩

end Scan

/-! ### Reading on -/

section Reading

variable {loads : Text → Bool} {source rest post : Text} {scanner last : Scanner} {index : ℕ}

theorem getElem?_of_drop {character : Char} (hdrop : source.drop index = character :: rest) :
    source[index]? = some character := by
  have hhead : (source.drop index)[0]? = some character := by rw [hdrop]; rfl
  rwa [List.getElem?_drop, Nat.add_zero] at hhead

theorem drop_of_append {text : Text} (hdrop : source.drop index = text ++ rest) :
    source.drop (index + text.length) = rest := by
  rw [← List.drop_drop, hdrop, List.drop_left]

/-- The scanner gets from one index to another. -/
inductive Advance (loads : Text → Bool) (source : Text) :
    Scanner → ℕ → Scanner → ℕ → Prop where
  | refl (scanner : Scanner) (index : ℕ) : Advance loads source scanner index scanner index
  | step {scanner next last : Scanner} {index following stop : ℕ} {character : Char}
      (hcharacter : source[index]? = some character)
      (hstep : scanner.step loads source character index = .ok (next, following))
      (hlt : index < following) (hrest : Advance loads source next following last stop) :
      Advance loads source scanner index last stop

theorem Advance.le {stop : ℕ} (hadvance : Advance loads source scanner index last stop) :
    index ≤ stop := by
  induction hadvance with
  | refl scanner index => exact Nat.le_refl index
  | step _ _ hlt _ ih => omega

theorem Advance.trans {middle : Scanner} {between stop : ℕ}
    (hfirst : Advance loads source scanner index middle between)
    (hsecond : Advance loads source middle between last stop) :
    Advance loads source scanner index last stop := by
  induction hfirst with
  | refl scanner index => exact hsecond
  | step hcharacter hstep hlt _ ih => exact .step hcharacter hstep hlt (ih hsecond)

/-- There are as many rounds as characters, and no step stands still. -/
theorem scanFrom_of_advance {stop : ℕ} (hadvance : Advance loads source scanner index last stop)
    (hstop : source[stop]? = none) {rounds : ℕ} (hrounds : stop ≤ index + rounds) :
    scanner.scanFrom loads source rounds index = .ok last := by
  induction hadvance generalizing rounds with
  | refl scanner index =>
    cases rounds with
    | zero => rfl
    | succ rounds => rw [Scanner.scanFrom, hstop]
  | step hcharacter hstep hlt hrest ih =>
    cases rounds with
    | zero =>
      have hle := hrest.le
      omega
    | succ rounds =>
      rw [Scanner.scanFrom, hcharacter]
      simp only [hstep]
      exact ih hstop (by omega)

/-- One step. -/
theorem Advance.one {next : Scanner} {character : Char} {following : ℕ}
    (hdrop : source.drop index = character :: rest)
    (hstep : scanner.step loads source character index = .ok (next, following))
    (hlt : index < following) : Advance loads source scanner index next following :=
  .step (getElem?_of_drop hdrop) hstep hlt (.refl next following)

/-! ### Comments -/

theorem comment_advance {text : Text} (htext : '\n' ∉ text)
    (hdrop : source.drop index = text ++ post) (hstate : scanner.state = .comment) :
    Advance loads source scanner index scanner (index + text.length) := by
  induction text generalizing index with
  | nil => exact .refl scanner index
  | cons character rest ih =>
    rw [List.mem_cons, not_or] at htext
    have hstep : scanner.step loads source character index = .ok (scanner, index + 1) := by
      unfold Scanner.step
      rw [hstate]
      simp only [Scanner.comment, if_neg fun heq => htext.1 (Eq.symm heq)]
    have hrest := @drop_of_append source (rest ++ post) index [character] hdrop
    have hgo := ih htext.2 hrest
    rw [List.length_cons, Nat.add_comm rest.length, ← Nat.add_assoc]
    exact (Advance.one hdrop hstep (Nat.lt_succ_self index)).trans hgo

/-! ### Strings -/

/-- The state inside a one-line string. -/
def insideSingle : Quote → LexState
  | .basic => .basic
  | .literal => .literal

/-- The state inside a multi-line string. -/
def insideMulti : Quote → LexState
  | .basic => .multilineBasic
  | .literal => .multilineLiteral

theorem step_insideSingle {quote : Quote} (hstate : scanner.state = insideSingle quote)
    (character : Char) : scanner.step loads source character index =
      scanner.single source character index quote.mark := by
  unfold Scanner.step
  rw [hstate]
  cases quote with
  | basic => rfl
  | literal => rfl

theorem step_insideMulti {quote : Quote} (hstate : scanner.state = insideMulti quote)
    (character : Char) : scanner.step loads source character index =
      scanner.multiline source character index quote.mark := by
  unfold Scanner.step
  rw [hstate]
  cases quote with
  | basic => rfl
  | literal => rfl

/-- One piece of a one-line string. -/
theorem piece_advance {quote : Quote} {piece : Piece} (hwithin : piece.Within quote)
    (honline : piece.OnLine) (hdrop : source.drop index = piece.render ++ post)
    (hstate : scanner.state = insideSingle quote) :
    Advance loads source scanner index scanner (index + piece.render.length) := by
  cases piece with
  | plain character =>
    refine Advance.one hdrop ?_ (Nat.lt_succ_self index)
    rw [step_insideSingle hstate]
    have hescape : ¬ (scanner.state = .basic ∧ character = '\\') := by
      rintro ⟨hbasic, hbackslash⟩
      cases quote with
      | basic => exact hwithin.2 rfl hbackslash
      | literal =>
        rw [hstate] at hbasic
        cases hbasic
    rw [Scanner.single, if_neg hescape, if_neg hwithin.1, if_neg honline]
    rfl
  | escaped character =>
    cases hwithin
    refine Advance.one hdrop ?_ (Nat.lt_add_of_pos_right Nat.two_pos)
    rw [step_insideSingle hstate]
    have hnext : source[index + 1]? = some character :=
      getElem?_of_drop (@drop_of_append source (character :: post) index ['\\'] hdrop)
    rw [Scanner.single, if_pos ⟨hstate, rfl⟩, Scanner.escape, hnext]
    simp only [if_neg honline]
    rfl

theorem single_advance {quote : Quote} {body : List Piece}
    (hbody : ∀ piece ∈ body, piece.Within quote ∧ piece.OnLine)
    (hdrop : source.drop index = body.flatMap Piece.render ++ [quote.mark] ++ post)
    (hstate : scanner.state = insideSingle quote) :
    Advance loads source scanner index { scanner with state := .normal }
      (index + (body.flatMap Piece.render ++ [quote.mark]).length) := by
  induction body generalizing index with
  | nil =>
    refine Advance.one hdrop ?_ (Nat.lt_succ_self index)
    rw [step_insideSingle hstate, Scanner.single, if_neg, if_pos rfl]
    · rfl
    · exact fun hescape => mark_ne_backslash quote hescape.2
  | cons piece rest ih =>
    obtain ⟨hwithin, honline⟩ := hbody piece List.mem_cons_self
    rw [List.flatMap_cons, List.append_assoc, List.append_assoc] at hdrop
    have hrest := drop_of_append hdrop
    rw [← List.append_assoc] at hrest
    have hgo := ih (fun other hmem => hbody other (List.mem_cons_of_mem _ hmem)) hrest
    rw [List.flatMap_cons, List.append_assoc, List.length_append, ← Nat.add_assoc]
    exact (piece_advance hwithin honline hdrop hstate).trans hgo

/-- A run of marks before something else. -/
theorem quoteRun_of_drop {quote : Char} {count : ℕ}
    (hdrop : source.drop index = List.replicate count quote ++ post)
    (hpost : post.head? ≠ some quote) : quoteRun source index quote = count := by
  rw [quoteRun, hdrop, takeWhile_run hpost, List.length_replicate]

theorem piece_head_ne {quote : Quote} {piece : Piece} (hwithin : piece.Within quote)
    (more : Text) : (piece.render ++ more).head? ≠ some quote.mark := by
  intro hhead
  cases piece with
  | plain character => exact hwithin.1 (Option.some.inj hhead)
  | escaped character => exact mark_ne_backslash quote (Option.some.inj hhead).symm

/-- A part of a multi-line string: the line moves on with its line ends. -/
def Scanner.onLine (scanner : Scanner) (line : ℕ) (fresh : Bool) : Scanner :=
  { scanner with lineStart := line, atLineStart := fresh }

theorem piece_advance_multi {quote : Quote} {piece : Piece} (hwithin : piece.Within quote)
    (hdrop : source.drop index = piece.render ++ post)
    (hstate : scanner.state = insideMulti quote) :
    ∃ fresh, Advance loads source scanner index
      (scanner.onLine (lineAfter scanner.lineStart index piece.render) fresh)
      (index + piece.render.length) := by
  cases piece with
  | plain character =>
    have hescape : ¬ (scanner.state = .multilineBasic ∧ character = '\\') := by
      rintro ⟨hbasic, hbackslash⟩
      cases quote with
      | basic => exact hwithin.2 rfl hbackslash
      | literal =>
        rw [hstate] at hbasic
        cases hbasic
    have hstep : ∃ fresh, scanner.step loads source character index = .ok
        (scanner.onLine (lineAfter scanner.lineStart index [character]) fresh, index + 1) := by
      rw [step_insideMulti hstate, Scanner.multiline, if_neg hescape, if_neg hwithin.1]
      simp only [lineAfter]
      split
      · exact ⟨true, rfl⟩
      · split
        · exact ⟨scanner.atLineStart, rfl⟩
        · exact ⟨false, rfl⟩
    obtain ⟨fresh, hstep⟩ := hstep
    exact ⟨fresh, Advance.one hdrop hstep (Nat.lt_succ_self index)⟩
  | escaped character =>
    cases hwithin
    have hnext : source[index + 1]? = some character :=
      getElem?_of_drop (@drop_of_append source (character :: post) index ['\\'] hdrop)
    have hstep : ∃ fresh, scanner.step loads source '\\' index = .ok
        (scanner.onLine (lineAfter scanner.lineStart index ['\\', character]) fresh,
          index + 2) := by
      rw [step_insideMulti hstate, Scanner.multiline, if_pos ⟨hstate, rfl⟩, Scanner.escape, hnext]
      simp only [lineAfter]
      split
      · exact ⟨true, rfl⟩
      · exact ⟨scanner.atLineStart, rfl⟩
    obtain ⟨fresh, hstep⟩ := hstep
    exact ⟨fresh, Advance.one hdrop hstep (Nat.lt_add_of_pos_right Nat.two_pos)⟩

/-- A run of marks in a multi-line string, or at its end. -/
theorem marks_advance {quote : Quote} {count : ℕ} (hcount : count ≠ 0)
    (hdrop : source.drop index = List.replicate count quote.mark ++ post)
    (hpost : post.head? ≠ some quote.mark) (hstate : scanner.state = insideMulti quote) :
    Advance loads source scanner index
      { scanner with
        atLineStart := false
        state := if 3 ≤ count then .normal else scanner.state } (index + count) := by
  obtain ⟨fewer, rfl⟩ := Nat.exists_eq_succ_of_ne_zero hcount
  have hrun := quoteRun_of_drop hdrop hpost
  rw [List.replicate_succ, List.cons_append] at hdrop
  refine Advance.one hdrop ?_ (Nat.lt_add_of_pos_right (Nat.succ_pos fewer))
  rw [step_insideMulti hstate, Scanner.multiline, if_neg, if_pos rfl, hrun]
  exact fun hescape => mark_ne_backslash quote hescape.2

theorem newline_notMem_marks (quote : Quote) (count : ℕ) :
    '\n' ∉ List.replicate count quote.mark := by
  intro hmem
  exact mark_ne_newline quote (List.eq_of_mem_replicate hmem).symm

theorem items_advance {quote : Quote} {items : List Item} (hitems : ItemsWithin quote items)
    (hdrop : source.drop index = items.flatMap (Item.render quote) ++ post)
    (hstate : scanner.state = insideMulti quote) :
    ∃ fresh, Advance loads source scanner index
      (scanner.onLine (lineAfter scanner.lineStart index (items.flatMap (Item.render quote))) fresh)
      (index + (items.flatMap (Item.render quote)).length) := by
  induction items generalizing index scanner with
  | nil => exact ⟨scanner.atLineStart, .refl scanner index⟩
  | cons item rest ih =>
    rw [List.flatMap_cons, List.append_assoc] at hdrop
    rw [List.flatMap_cons, List.length_append, ← Nat.add_assoc, lineAfter_append]
    have hrest := drop_of_append hdrop
    have hfirst : ItemsWithin quote rest ∧ ∃ fresh, Advance loads source scanner index
        (scanner.onLine (lineAfter scanner.lineStart index (item.render quote)) fresh)
        (index + (item.render quote).length) := by
      cases item with
      | piece piece => exact ⟨hitems.2, piece_advance_multi hitems.1 hdrop hstate⟩
      | marks count =>
        obtain ⟨hcount, ⟨piece, more, rfl⟩, hmore⟩ := hitems
        refine ⟨hmore, false, ?_⟩
        have hne : count ≠ 0 := by omega
        have hfew : ¬ 3 ≤ count := by omega
        have hadvance := @marks_advance loads source _ scanner index quote count hne hdrop
          (by
            rw [List.flatMap_cons, List.append_assoc]
            exact piece_head_ne hmore.1 _) hstate
        rw [if_neg hfew] at hadvance
        rw [Item.render, lineAfter_of_notMem (newline_notMem_marks quote count),
          List.length_replicate]
        exact hadvance
    obtain ⟨hmore, fresh, hadvance⟩ := hfirst
    obtain ⟨last, hgo⟩ := @ih (scanner.onLine _ fresh) _ hmore hrest hstate
    exact ⟨last, hadvance.trans hgo⟩

/-- A multi-line string, behind the marks that begin it. -/
theorem multi_advance {quote : Quote} {items : List Item} {extra : ℕ}
    (hitems : ItemsWithin quote items)
    (hdrop : source.drop index = items.flatMap (Item.render quote) ++
      (List.replicate (3 + extra) quote.mark ++ post))
    (hpost : post.head? ≠ some quote.mark) (hstate : scanner.state = insideMulti quote) :
    Advance loads source scanner index
      { scanner.onLine (lineAfter scanner.lineStart index (items.flatMap (Item.render quote)))
          false with state := .normal }
      (index + (items.flatMap (Item.render quote)).length + (3 + extra)) := by
  obtain ⟨fresh, hadvance⟩ := @items_advance loads source _ scanner index quote items hitems hdrop
    hstate
  have hrest := drop_of_append hdrop
  refine hadvance.trans ?_
  have hclosing := @marks_advance loads source post
    (scanner.onLine (lineAfter scanner.lineStart index (items.flatMap (Item.render quote))) fresh)
    _ quote (3 + extra) (by omega) hrest hpost hstate
  rw [if_pos (Nat.le_add_right 3 extra)] at hclosing
  exact hclosing

/-! ### Lexemes -/

/-- What a lexeme between others makes of the scanner. -/
def Scanner.after (loads : Text → Bool) (source : Text) (scanner : Scanner) (index : ℕ)
    (lexeme : Lexeme) : Scanner where
  headers := scanner.headers ++
    if lexeme.Leads '[' scanner.atLineStart then
      (headerAt loads source scanner.lineStart index).toList
    else []
  state := match lexeme with
    | .comment _ => .comment
    | _ => .normal
  lineStart := lineAfter scanner.lineStart index lexeme.render
  atLineStart := lexeme.freshAfter scanner.atLineStart

theorem plain_advance {character : Char} (hformed : (Lexeme.plain character).Formed)
    (hdrop : source.drop index = character :: post) (hstate : scanner.state = .normal) :
    Advance loads source scanner index (scanner.after loads source index (.plain character))
      (index + 1) := by
  obtain ⟨hnewline, hcomment, hbasic, hliteral⟩ := hformed
  refine Advance.one hdrop ?_ (Nat.lt_succ_self index)
  unfold Scanner.step
  rw [hstate]
  simp only [Scanner.normal, if_neg hnewline, if_neg hcomment]
  obtain ⟨headers, state, lineStart, fresh⟩ := scanner
  cases hstate
  by_cases hblank : character = ' ' ∨ character = '\t'
  · cases fresh with
    | true =>
      have hopen : character ≠ '[' := by
        rintro rfl
        exact absurd hblank (by decide)
      simp [hblank, Scanner.after, Lexeme.Leads, Lexeme.freshAfter, isBlank, Lexeme.render,
        lineAfter, hnewline, hopen]
    | false =>
      simp [hbasic, hliteral, Scanner.after, Lexeme.Leads, Lexeme.freshAfter, Lexeme.render,
        lineAfter, hnewline]
  · have hnotBlank : isBlank character = false := by
      rw [← Bool.not_eq_true, isBlank_iff]
      exact hblank
    simp only [hblank, and_false, if_false, hbasic, hliteral, or_self]
    cases fresh with
    | true =>
      simp [Scanner.after, Lexeme.Leads, Lexeme.freshAfter, Lexeme.render, lineAfter, hnewline,
        hnotBlank]
    | false =>
      simp [Scanner.after, Lexeme.Leads, Lexeme.freshAfter, Lexeme.render, lineAfter, hnewline]

theorem newline_advance (hdrop : source.drop index = '\n' :: post)
    (hstate : scanner.state = .normal ∨ scanner.state = .comment) :
    Advance loads source scanner index (scanner.after loads source index .newline)
      (index + 1) := by
  refine Advance.one hdrop ?_ (Nat.lt_succ_self index)
  obtain ⟨headers, state, lineStart, fresh⟩ := scanner
  rcases hstate with rfl | rfl
  · simp [Scanner.step, Scanner.normal, Scanner.newline, Scanner.after, Lexeme.Leads,
      Lexeme.freshAfter, Lexeme.render, lineAfter]
  · simp [Scanner.step, Scanner.comment, Scanner.newline, Scanner.after, Lexeme.Leads,
      Lexeme.freshAfter, Lexeme.render, lineAfter]

theorem comment_after {text : Text} (hformed : (Lexeme.comment text).Formed)
    (hdrop : source.drop index = (Lexeme.comment text).render ++ post)
    (hstate : scanner.state = .normal) :
    Advance loads source scanner index (scanner.after loads source index (.comment text))
      (index + (Lexeme.comment text).render.length) := by
  have hopen : scanner.step loads source '#' index =
      .ok (scanner.after loads source index (.comment text), index + 1) := by
    obtain ⟨headers, state, lineStart, fresh⟩ := scanner
    cases hstate
    have hline : lineAfter lineStart index ('#' :: text) = lineStart := by
      refine lineAfter_of_notMem ?_ _ _
      rw [List.mem_cons, not_or]
      exact ⟨by decide, hformed⟩
    simp [Scanner.step, Scanner.normal, Scanner.after, Lexeme.Leads, Lexeme.freshAfter,
      Lexeme.render, hline]
  have hrest := @drop_of_append source (text ++ post) index ['#'] hdrop
  rw [Lexeme.render, List.length_cons, Nat.add_comm text.length, ← Nat.add_assoc]
  exact (Advance.one hdrop hopen (Nat.lt_succ_self index)).trans
    (comment_advance hformed hrest rfl)

/-- How a string begins. -/
theorem open_step (quote : Quote) (hstate : scanner.state = .normal) :
    scanner.step loads source quote.mark index =
      .ok (Scanner.openString source { scanner with atLineStart := false } index quote.mark) := by
  obtain ⟨headers, state, lineStart, fresh⟩ := scanner
  cases hstate
  cases quote with
  | basic => simp [Scanner.step, Scanner.normal, Quote.mark]
  | literal => simp [Scanner.step, Scanner.normal, Quote.mark]

theorem openString_single {quote : Quote} (hrun : quoteRun source index quote.mark < 3) :
    scanner.openString source index quote.mark =
      ({ scanner with state := insideSingle quote }, index + 1) := by
  have hfew : decide (3 ≤ quoteRun source index quote.mark) = false :=
    decide_eq_false (Nat.not_le.mpr hrun)
  cases quote with
  | basic => simp only [Scanner.openString, Quote.mark] at hfew ⊢; simp [hfew, insideSingle]
  | literal => simp only [Scanner.openString, Quote.mark] at hfew ⊢; simp [hfew, insideSingle]

theorem openString_multi {quote : Quote} (hrun : 3 ≤ quoteRun source index quote.mark) :
    scanner.openString source index quote.mark =
      ({ scanner with state := insideMulti quote }, index + 3) := by
  have hmany : decide (3 ≤ quoteRun source index quote.mark) = true := decide_eq_true hrun
  cases quote with
  | basic => simp only [Scanner.openString, Quote.mark] at hmany ⊢; simp [hmany, insideMulti]
  | literal => simp only [Scanner.openString, Quote.mark] at hmany ⊢; simp [hmany, insideMulti]

/-- A one-line string is not taken for a longer one. -/
theorem single_run {quote : Quote} {body : List Piece}
    (hbody : ∀ piece ∈ body, piece.Within quote ∧ piece.OnLine)
    (hapart : body = [] → post.head? ≠ some quote.mark)
    (hdrop : source.drop index = (Lexeme.single quote body).render ++ post) :
    quoteRun source index quote.mark < 3 := by
  cases body with
  | nil =>
    have hrun := @quoteRun_of_drop source post index quote.mark 2 hdrop (hapart rfl)
    omega
  | cons piece rest =>
    have hhead := piece_head_ne (hbody piece List.mem_cons_self).1
      (rest.flatMap Piece.render ++ [quote.mark] ++ post)
    have hrun := @quoteRun_of_drop source _ index quote.mark 1 (by
      rw [hdrop, Lexeme.render, List.flatMap_cons]
      simp only [List.append_assoc, List.cons_append, List.replicate_one, List.nil_append]) hhead
    omega

theorem single_after {quote : Quote} {body : List Piece}
    (hformed : (Lexeme.single quote body).Formed)
    (hapart : (Lexeme.single quote body).Apart post)
    (hdrop : source.drop index = (Lexeme.single quote body).render ++ post)
    (hstate : scanner.state = .normal) :
    Advance loads source scanner index (scanner.after loads source index (.single quote body))
      (index + (Lexeme.single quote body).render.length) := by
  have hopen := @open_step loads source scanner index quote hstate
  rw [openString_single (single_run hformed hapart hdrop)] at hopen
  have hrest := @drop_of_append source (body.flatMap Piece.render ++ [quote.mark] ++ post) index
    [quote.mark] (by rw [hdrop]; rfl)
  have hgo := @single_advance loads source post
    { scanner with atLineStart := false, state := insideSingle quote } _ quote body hformed hrest
    rfl
  have hline : '\n' ∉ (Lexeme.single quote body).render := by
    simp only [Lexeme.render, List.mem_cons, List.mem_append, not_or]
    exact ⟨(mark_ne_newline quote).symm, newline_notMem_pieces hformed,
      (mark_ne_newline quote).symm, List.not_mem_nil⟩
  have hafter : scanner.after loads source index (.single quote body) =
      { scanner with atLineStart := false, state := .normal } := by
    simp [Scanner.after, Lexeme.Leads, Lexeme.freshAfter, lineAfter_of_notMem hline]
  rw [hafter, Lexeme.render, List.length_cons, Nat.add_comm _ 1, ← Nat.add_assoc]
  exact (Advance.one (by rw [hdrop]; rfl) hopen (Nat.lt_succ_self index)).trans hgo

theorem multi_after {quote : Quote} {body : List Item} {extra : ℕ}
    (hformed : (Lexeme.multi quote body extra).Formed)
    (hapart : (Lexeme.multi quote body extra).Apart post)
    (hdrop : source.drop index = (Lexeme.multi quote body extra).render ++ post)
    (hstate : scanner.state = .normal) :
    Advance loads source scanner index
      (scanner.after loads source index (.multi quote body extra))
      (index + (Lexeme.multi quote body extra).render.length) := by
  have hrun : 3 ≤ quoteRun source index quote.mark := by
    rw [quoteRun, hdrop, Lexeme.render, List.append_assoc, List.append_assoc,
      List.takeWhile_append_of_pos fun character hmem => beq_iff_eq.mpr
        (List.eq_of_mem_replicate hmem), List.length_append, List.length_replicate]
    exact Nat.le_add_right 3 _
  have hopen := @open_step loads source scanner index quote hstate
  rw [openString_multi hrun] at hopen
  have hrest := @drop_of_append source
    (body.flatMap (Item.render quote) ++ (List.replicate (3 + extra) quote.mark ++ post)) index
    (List.replicate 3 quote.mark) (by rw [hdrop, Lexeme.render]; simp only [List.append_assoc])
  rw [List.length_replicate] at hrest
  have hgo := @multi_advance loads source post
    { scanner with atLineStart := false, state := insideMulti quote } _ quote body extra hformed
    hrest hapart rfl
  have hafter : scanner.after loads source index (.multi quote body extra) =
      { scanner with
        lineStart := lineAfter scanner.lineStart (index + 3) (body.flatMap (Item.render quote))
        atLineStart := false
        state := .normal } := by
    simp only [Scanner.after, Lexeme.Leads, Lexeme.freshAfter, Lexeme.render, lineAfter_append,
      lineAfter_of_notMem (newline_notMem_marks quote _), List.length_replicate]
    simp
  rw [hafter, Lexeme.render, List.length_append, List.length_append, List.length_replicate,
    List.length_replicate, ← Nat.add_assoc, ← Nat.add_assoc]
  have hfirst : source.drop index = quote.mark :: (List.replicate 2 quote.mark ++
      (body.flatMap (Item.render quote) ++ List.replicate (3 + extra) quote.mark) ++ post) := by
    rw [hdrop]
    rfl
  exact (Advance.one hfirst hopen (Nat.lt_add_of_pos_right (Nat.succ_pos 2))).trans hgo

/-- Any lexeme, where the scanner is between two of them. -/
theorem lexeme_advance {lexeme : Lexeme} (hformed : lexeme.Formed) (hapart : lexeme.Apart post)
    (hdrop : source.drop index = lexeme.render ++ post)
    (hstate : scanner.state = .normal ∨ scanner.state = .comment ∧ lexeme = .newline) :
    Advance loads source scanner index (scanner.after loads source index lexeme)
      (index + lexeme.render.length) := by
  have hnormal : lexeme ≠ .newline → scanner.state = .normal := by
    intro hne
    rcases hstate with hnormal | ⟨-, hnewline⟩
    · exact hnormal
    · exact absurd hnewline hne
  cases lexeme with
  | newline => exact newline_advance hdrop (hstate.imp_right And.left)
  | plain character => exact plain_advance hformed hdrop (hnormal (by rintro ⟨⟩))
  | comment text => exact comment_after hformed hdrop (hnormal (by rintro ⟨⟩))
  | single quote body => exact single_after hformed hapart hdrop (hnormal (by rintro ⟨⟩))
  | multi quote body extra => exact multi_after hformed hapart hdrop (hnormal (by rintro ⟨⟩))

/-- Only a line end begins with its character. -/
theorem newline_of_head {lexeme : Lexeme} (hformed : lexeme.Formed)
    (hhead : (lexeme.render ++ post).head? = some '\n') : lexeme = .newline := by
  have hhead : lexeme.render.head? = some '\n' := by
    cases lexeme <;> exact hhead
  cases lexeme with
  | newline => rfl
  | plain character => exact absurd (Option.some.inj hhead) hformed.1
  | comment text => exact absurd (Option.some.inj hhead) (by decide)
  | single quote body => exact absurd (Option.some.inj hhead) (mark_ne_newline quote)
  | multi quote body extra => exact absurd (Option.some.inj hhead) (mark_ne_newline quote)

/-- Where the scanner is. -/
def Scanner.place (scanner : Scanner) (index : ℕ) : TextPlace :=
  ⟨scanner.lineStart, index, scanner.atLineStart⟩

/-- The headers on the lines that a bracket leads. -/
def headersAt (loads : Text → Bool) (source : Text) (lines : List (ℕ × ℕ)) : List TomlHeader :=
  lines.filterMap fun line => headerAt loads source line.1 line.2

theorem headersAt_append (loads : Text → Bool) (source : Text) (lines more : List (ℕ × ℕ)) :
    headersAt loads source (lines ++ more) =
      headersAt loads source lines ++ headersAt loads source more :=
  List.filterMap_append

theorem headersAt_lead (leading : Bool) (line position : ℕ) :
    (if leading then (headerAt loads source line position).toList else []) =
      headersAt loads source (if leading then [(line, position)] else []) := by
  cases leading with
  | false => rfl
  | true =>
    change (headerAt loads source line position).toList =
      [(line, position)].filterMap fun line => headerAt loads source line.1 line.2
    rw [List.filterMap_cons, List.filterMap_nil]
    cases headerAt loads source line position with
    | none => rfl
    | some header => rfl

theorem lexemes_advance {lexemes : List Lexeme} (hformed : WellFormed lexemes)
    (hdrop : source.drop index = render lexemes)
    (hstate : scanner.state = .normal ∨ scanner.state = .comment ∧
      (render lexemes = [] ∨ (render lexemes).head? = some '\n')) :
    ∃ last, Advance loads source scanner index last (index + (render lexemes).length) ∧
      last.headers =
        scanner.headers ++ headersAt loads source (leads '[' (scanner.place index) lexemes) ∧
      (last.state = .normal ∨ last.state = .comment) := by
  induction lexemes generalizing scanner index with
  | nil =>
    refine ⟨scanner, .refl scanner index, ?_, hstate.imp_right And.left⟩
    exact (List.append_nil _).symm
  | cons lexeme rest ih =>
    obtain ⟨hlexeme, hapart, hrest⟩ := hformed
    rw [render_cons] at hdrop hstate ⊢
    have hbetween : scanner.state = .normal ∨ scanner.state = .comment ∧ lexeme = .newline := by
      refine hstate.imp_right ?_
      rintro ⟨hcomment, hempty | hhead⟩
      · cases lexeme <;> cases hempty
      · exact ⟨hcomment, newline_of_head hlexeme hhead⟩
    have hadvance := @lexeme_advance loads source _ scanner index lexeme hlexeme hapart hdrop
      hbetween
    have hnext : (scanner.after loads source index lexeme).state = .normal ∨
        (scanner.after loads source index lexeme).state = .comment ∧
          (render rest = [] ∨ (render rest).head? = some '\n') := by
      cases lexeme with
      | comment text => exact Or.inr ⟨rfl, hapart⟩
      | newline => exact Or.inl rfl
      | plain character => exact Or.inl rfl
      | single quote body => exact Or.inl rfl
      | multi quote body extra => exact Or.inl rfl
    obtain ⟨last, hgo, hheaders, hlast⟩ := ih hrest (drop_of_append hdrop) hnext
    refine ⟨last, ?_, ?_, hlast⟩
    · rw [List.length_append, ← Nat.add_assoc]
      exact hadvance.trans hgo
    · rw [hheaders, leads, headersAt_append, ← headersAt_lead, ← List.append_assoc]
      rfl

/-- A scan that gets to the end between strings returns its headers. -/
theorem scan_of_advance
    (hadvance : Advance loads source Scanner.initial 0 last source.length)
    (hlast : last.state = .normal ∨ last.state = .comment) :
    scanTableHeaders loads source = .ok last.headers := by
  have hscan := scanFrom_of_advance hadvance (List.getElem?_eq_none (Nat.le_refl _))
    (Nat.le_add_left _ 0)
  unfold scanTableHeaders
  rw [hscan]
  exact if_pos hlast

/-- The scan of a whole text in lexemes. -/
theorem advance_lexemes (loads : Text → Bool) {lexemes : List Lexeme}
    (hformed : WellFormed lexemes) :
    ∃ last, Advance loads (render lexemes) Scanner.initial 0 last (render lexemes).length ∧
      last.headers = headersAt loads (render lexemes) (leads '[' ⟨0, 0, true⟩ lexemes) ∧
      (last.state = .normal ∨ last.state = .comment) := by
  obtain ⟨last, hadvance, hheaders, hlast⟩ :=
    @lexemes_advance loads (render lexemes) Scanner.initial 0 lexemes hformed rfl (Or.inl rfl)
  rw [Nat.zero_add] at hadvance
  exact ⟨last, hadvance, hheaders, hlast⟩

end Reading

/-- **Headers by lexemes.**  Whatever a TOML text is made of, the scan goes through it without
    an error and reports, in order and once each, the headers on the lines where a bracket
    stands first outside strings and comments. -/
theorem scan_lexemes (loads : Text → Bool) {lexemes : List Lexeme}
    (hformed : WellFormed lexemes) :
    scanTableHeaders loads (render lexemes) =
      .ok (headersAt loads (render lexemes) (leads '[' ⟨0, 0, true⟩ lexemes)) := by
  obtain ⟨last, hadvance, hheaders, hlast⟩ := advance_lexemes loads hformed
  rw [scan_of_advance hadvance hlast, hheaders]

/-- A bracket inside a multi-line string, and a table behind it. -/
def sampleLexemes : List Lexeme :=
  [.plain 'a', .plain '=', .multi .literal [.piece (.plain '\n'), .piece (.plain '[')] 0,
    .comment ['['], .newline, .plain ' ', .plain '[', .plain 'b', .plain ']', .newline]

theorem sampleLexemes_wellFormed : WellFormed sampleLexemes := by
  simp [sampleLexemes, WellFormed, Lexeme.Formed, Lexeme.Apart, Lexeme.render, ItemsWithin,
    Piece.Within, Quote.mark]

theorem scan_lexemes_sample :
    scanTableHeaders (fun _ => true) (render sampleLexemes) =
      .ok (headersAt (fun _ => true) (render sampleLexemes)
        (leads '[' ⟨0, 0, true⟩ sampleLexemes)) :=
  scan_lexemes (fun _ => true) sampleLexemes_wellFormed

end CodexMustWork.TomlHeaders
