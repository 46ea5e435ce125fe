import CodexMustWork.HeaderPlaces
import CodexMustWork.Library.TomlDocuments

/-!
# The headers of a document

`scan_table_headers` on the documents of the TOML grammar.  The scan finds the line of every
table header, with its kind and its place; what else it reports are elements of arrays that
stand first on a line and would be headers there.
-/

namespace CodexMustWork.TomlHeaders

open TomlText

/-! ### The headers by the grammar -/

/-- The kind of a header, by its brackets. -/
def kindOf (double : Bool) : HeaderKind := if double then .arrayTable else .table

/-- The header of a physical line, where it is one. -/
def headerOf (position : ℕ) (line : Line) (text : Text) : Option TomlHeader :=
  match line.statement with
  | .header double _ _ _ =>
      some ⟨strip text, position, position + text.length, kindOf double⟩
  | _ => none

/-- The headers of a document that begins at a position. -/
def documentHeaders (position : ℕ) : Document → List TomlHeader
  | .last line => (headerOf position line (render (line.lexemes []))).toList
  | .more line ending rest =>
      let text := render (line.ended ending)
      (headerOf position line text).toList ++ documentHeaders (position + text.length) rest

/-- `tomllib` accepts the header lines of what it accepts, each by itself. -/
def HeadersAlone (loads : Text → Bool) : Prop :=
  ∀ document : Document, loads document.text = true →
    ∀ header ∈ documentHeaders 0 document, loads header.text = true

/-! ### The text of a line -/

section Lines

variable {loads : Text → Bool} {source before text post : Text} {index : ℕ}

theorem slice_between (hsource : source = before ++ (text ++ post)) :
    slice source before.length (before.length + text.length) = text := by
  rw [slice, hsource, ← List.append_assoc, ← List.length_append, List.take_left, List.drop_left]

theorem takeWhile_line (hline : '\n' ∉ text) :
    (text ++ '\n' :: post).takeWhile (· != '\n') = text := by
  have hpass : ∀ character ∈ text, (character != '\n') = true := by
    rintro character hmem
    refine bne_iff_ne.mpr ?_
    rintro rfl
    exact hline hmem
  rw [List.takeWhile_append_of_pos hpass, List.takeWhile_cons_of_neg (by decide), List.append_nil]

theorem bodyStartOf_ended (hdrop : source.drop index = text ++ '\n' :: post)
    (hline : '\n' ∉ text) : bodyStartOf source index = index + text.length + 1 := by
  have hlength := congrArg List.length hdrop
  rw [List.length_drop, List.length_append, List.length_cons] at hlength
  unfold bodyStartOf
  rw [hdrop, takeWhile_line hline]
  exact if_pos (by omega)

theorem bodyStartOf_last (hdrop : source.drop index = text) (hindex : index ≤ source.length)
    (hline : '\n' ∉ text) : bodyStartOf source index = index + text.length := by
  have hlength := congrArg List.length hdrop
  rw [List.length_drop] at hlength
  have hall : text.takeWhile (· != '\n') = text := by
    refine List.takeWhile_eq_self_iff.mpr ?_
    rintro character hmem
    refine bne_iff_ne.mpr ?_
    rintro rfl
    exact hline hmem
  unfold bodyStartOf
  rw [hdrop, hall]
  simp only
  rw [if_neg (by omega)]
  omega

/-! ### What is stripped -/

theorem isSpace_blank {character : Char} (hblank : isBlank character = true) :
    isSpace character = true := by
  rcases isBlank_iff.mp hblank with rfl | rfl <;> decide

/-- What ends in something else than a space is not stripped on the right. -/
theorem rdropWhile_append_of_end {last : Char} (hlast : isSpace last = false) (rest : Text) :
    (before ++ last :: rest).rdropWhile isSpace = before ++ last :: rest.rdropWhile isSpace := by
  induction rest using List.reverseRecOn with
  | nil =>
    rw [List.rdropWhile_nil, List.rdropWhile_concat_neg]
    rw [hlast]
    decide
  | append_singleton rest character ih =>
    rw [← List.cons_append, ← List.append_assoc, List.rdropWhile_concat, List.rdropWhile_concat, ih]
    split_ifs
    · rfl
    · rw [List.append_assoc, List.cons_append]

/-- What stands behind the closing brackets of a header line. -/
inductive Behind : Text → Prop where
  | blank {text : Text} (hspaces : ∀ character ∈ text, isSpace character = true) : Behind text
  | comment {blanks : Text} (hblanks : ∀ blank ∈ blanks, isBlank blank = true) (rest : Text) :
      Behind (blanks ++ '#' :: rest)

theorem behind_tail (tail : Tail) (ending : LineEnd) {post : Text}
    (hpost : ∀ character ∈ post, isSpace character = true) :
    Behind (render (tail.lexemes ending.carriage) ++ post) := by
  rw [Tail.lexemes, render_append, render_plains, List.append_assoc]
  cases tail.comment with
  | none =>
    change Behind (tail.blanks.1 ++ (render (plains ending.carriage) ++ post))
    rw [render_plains]
    refine .blank fun character hmem => ?_
    rcases List.mem_append.mp hmem with hblank | hmem
    · exact isSpace_blank (tail.blanks.2 character hblank)
    rcases List.mem_append.mp hmem with hcarriage | hmem
    · cases ending with
      | lf => cases hcarriage
      | crlf =>
        obtain rfl := List.mem_singleton.mp hcarriage
        decide
    · exact hpost character hmem
  | some comment => exact .comment tail.blanks.2 _

/-- After stripping, there is nothing or a comment behind the brackets. -/
theorem Behind.stripped {behind : Text} (hbehind : Behind behind) :
    lstrip (behind.rdropWhile isSpace) = [] ∨
      (lstrip (behind.rdropWhile isSpace)).head? = some '#' := by
  cases hbehind with
  | blank hspaces =>
    rw [List.rdropWhile_eq_nil_iff.mpr hspaces]
    exact Or.inl rfl
  | @comment blanks hblanks rest =>
    right
    rw [rdropWhile_append_of_end (by decide), lstrip, List.dropWhile_append_of_pos fun blank hmem =>
      isSpace_blank (hblanks blank hmem), List.dropWhile_cons_of_neg (by decide)]
    rfl

/-! ### The kind of a header line -/

/-- Inside a string the loop looks for the mark that ends it. -/
theorem behindClosing_string {double : Bool} {quote : Quote} {body : List Piece}
    (hbody : ∀ piece ∈ body, piece.Within quote ∧ piece.OnLine) (rest : Text) :
    behindClosing double (some quote.mark) false (body.flatMap Piece.render ++ quote.mark :: rest) =
      behindClosing double none false rest := by
  induction body with
  | nil =>
    rw [List.flatMap_nil, List.nil_append, behindClosing,
      if_neg fun hescape => mark_ne_backslash quote hescape.2.1, if_pos ⟨rfl, rfl⟩]
  | cons piece more ih =>
    have hwithin := (hbody piece List.mem_cons_self).1
    have hmore := ih fun other hmem => hbody other (List.mem_cons_of_mem _ hmem)
    rw [List.flatMap_cons, List.append_assoc]
    cases piece with
    | plain character =>
      rw [Piece.render, List.singleton_append, behindClosing, if_neg, if_neg, hmore]
      · exact fun hmark => hwithin.1 hmark.1
      · rintro ⟨hbasic, hbackslash, -⟩
        cases quote with
        | basic => exact hwithin.2 rfl hbackslash
        | literal => exact absurd hbasic (by decide)
    | escaped character =>
      cases hwithin
      rw [Piece.render, List.cons_append, List.singleton_append, behindClosing,
        if_pos ⟨rfl, rfl, rfl⟩, behindClosing, if_neg (by simp), if_neg (by simp), hmore]

/-- Lexemes of keys are passed. -/
theorem behindClosing_key {double : Bool} {lexemes : List Lexeme}
    (hkey : ∀ lexeme ∈ lexemes, lexeme.OfKey) (rest : Text) :
    behindClosing double none false (render lexemes ++ rest) =
      behindClosing double none false rest := by
  induction lexemes with
  | nil => rfl
  | cons lexeme more ih =>
    have hof := hkey lexeme List.mem_cons_self
    have hmore := ih fun other hmem => hkey other (List.mem_cons_of_mem _ hmem)
    rw [render_cons, List.append_assoc]
    cases lexeme with
    | plain character =>
      have hquote : ¬ (character = '"' ∨ character = '\'') := by
        rintro (heq | heq)
        · exact hof.ne (by decide) heq
        · exact hof.ne (by decide) heq
      have hclose : character ≠ ']' := hof.ne (by decide)
      rw [Lexeme.render, List.singleton_append, behindClosing, if_neg hquote]
      simp only [hclose, false_and, if_false, ite_self, hmore]
    | single quote body =>
      have hquote : quote.mark = '"' ∨ quote.mark = '\'' := by
        cases quote with
        | basic => exact Or.inl rfl
        | literal => exact Or.inr rfl
      rw [Lexeme.render, List.cons_append, behindClosing, if_pos hquote, List.append_assoc,
        List.singleton_append, behindClosing_string hof, hmore]
    | newline => cases hof
    | comment text => cases hof
    | multi quote body extra => cases hof

/-- The inside of a header does not begin with a bracket. -/
theorem head_key {lexemes : List Lexeme} (hkey : ∀ lexeme ∈ lexemes, lexeme.OfKey)
    (hnonempty : lexemes ≠ []) (rest : Text) : (render lexemes ++ rest).head? ≠ some '[' := by
  cases lexemes with
  | nil => exact absurd rfl hnonempty
  | cons lexeme more =>
    intro hhead
    have hof := hkey lexeme List.mem_cons_self
    cases lexeme with
    | plain character => exact hof.ne (by decide) (Option.some.inj hhead)
    | single quote body =>
      have hmark : quote.mark = '[' := Option.some.inj hhead
      cases quote with
      | basic => exact absurd hmark (by decide)
      | literal => exact absurd hmark (by decide)
    | newline => exact hof
    | comment text => exact hof
    | multi quote body extra => exact hof

/-- What stands between the brackets of a header. -/
def insideHeader (left : Blanks) (key : Key) (right : Blanks) : List Lexeme :=
  plains left.1 ++ (key.lexemes ++ plains right.1)

theorem insideHeader_ofKey (left : Blanks) (key : Key) (right : Blanks) :
    ∀ lexeme ∈ insideHeader left key right, lexeme.OfKey := by
  intro lexeme hmem
  rcases List.mem_append.mp hmem with hleft | hmem
  · exact ofKey_blanks left lexeme hleft
  rcases List.mem_append.mp hmem with hkey | hright
  · exact ofKey_key key lexeme hkey
  · exact ofKey_blanks right lexeme hright

theorem insideHeader_ne (left : Blanks) (key : Key) (right : Blanks) :
    insideHeader left key right ≠ [] := by
  intro hempty
  obtain ⟨-, hempty⟩ := List.append_eq_nil_iff.mp hempty
  obtain ⟨hkey, -⟩ := List.append_eq_nil_iff.mp hempty
  obtain ⟨hfirst, -⟩ := List.append_eq_nil_iff.mp hkey
  cases hpart : key.first with
  | bare text nonempty letters =>
    rw [hpart] at hfirst
    exact nonempty (List.map_eq_nil_iff.mp hfirst)
  | quoted quote body formed =>
    rw [hpart] at hfirst
    cases hfirst

/-- The text of a header, without what stands around it. -/
def headerText (double : Bool) (left : Blanks) (key : Key) (right : Blanks) : Text :=
  brackets double '[' ++ (render (insideHeader left key right) ++ brackets double ']')

theorem render_header (double : Bool) (left : Blanks) (key : Key) (right : Blanks) :
    render (Statement.header double left key right).lexemes = headerText double left key right := by
  simp only [Statement.lexemes, headerText, insideHeader, render_append, render_plains,
    List.append_assoc]

theorem headerKind_header {double : Bool} {left right : Blanks} {key : Key} {behind : Text}
    (hbehind : lstrip behind = [] ∨ (lstrip behind).head? = some '#')
    (hloads : loads (headerText double left key right ++ behind) = true) :
    headerKind loads (headerText double left key right ++ behind) = some (kindOf double) := by
  have hinside := insideHeader_ofKey left key right
  have hhead := head_key hinside (insideHeader_ne left key right) (brackets double ']' ++ behind)
  have hdouble : "[[".toList.isPrefixOf (headerText double left key right ++ behind) = double := by
    rw [headerText, List.append_assoc, List.append_assoc]
    cases double with
    | true => rfl
    | false =>
      cases hrest : render (insideHeader left key right) ++ (brackets false ']' ++ behind) with
      | nil => rfl
      | cons character more =>
        rw [hrest] at hhead
        have hne : character ≠ '[' := fun heq => hhead (congrArg some heq)
        change ('[' == '[' && ('[' == character && true)) = false
        rw [beq_false_of_ne hne.symm]
        rfl
  have hdrop : (headerText double left key right ++ behind).drop (if double then 2 else 1) =
      render (insideHeader left key right) ++ (brackets double ']' ++ behind) := by
    rw [headerText, List.append_assoc, List.append_assoc, List.drop_append_of_le_length]
    · cases double <;> rfl
    · cases double <;> exact Nat.le_refl _
  have hclosing : behindClosing double none false
      (render (insideHeader left key right) ++ (brackets double ']' ++ behind)) = some behind := by
    rw [behindClosing_key hinside]
    cases double with
    | true => rfl
    | false => rfl
  unfold headerKind
  simp only [hdouble, hdrop, hclosing]
  rw [if_pos hbehind, if_pos hloads]
  rfl

/-! ### Header lines -/

theorem strip_line {double : Bool} {left right : Blanks} {key : Key} (indent : Blanks)
    (behind : Text) :
    strip (indent.1 ++ (headerText double left key right ++ behind)) =
      headerText double left key right ++ behind.rdropWhile isSpace := by
  have hopening : ∃ more, headerText double left key right ++ behind = '[' :: more := by
    cases double with
    | true => exact ⟨_, rfl⟩
    | false => exact ⟨_, rfl⟩
  have hclosing : ∃ more, headerText double left key right = more ++ [']'] := by
    refine ⟨brackets double '[' ++ (render (insideHeader left key right) ++
      List.replicate (if double then 1 else 0) ']'), ?_⟩
    simp only [headerText, List.append_assoc]
    cases double with
    | true => rfl
    | false => rfl
  obtain ⟨opened, hopened⟩ := hopening
  obtain ⟨closed, hclosed⟩ := hclosing
  rw [strip, lstrip, List.dropWhile_append_of_pos fun blank hmem =>
      isSpace_blank (indent.2 blank hmem), hopened, List.dropWhile_cons_of_neg (by decide),
    ← hopened, hclosed, List.append_assoc, List.append_assoc]
  exact rdropWhile_append_of_end (by decide) behind

/-- A header line is reported, with its kind and its place. -/
theorem headerAt_header {line : Line} {double : Bool} {left right : Blanks} {key : Key}
    (hstatement : line.statement = .header double left key right) (ending : LineEnd)
    {newline : Text} (htext : text = render (line.lexemes ending.carriage) ++ newline)
    (hnewline : newline = ['\n'] ∨ newline = [] ∧ post = [])
    (hsource : source = before ++ (text ++ post)) (hloads : loads (strip text) = true) :
    headerAt loads source before.length (before.length + line.indent.1.length) =
      headerOf before.length line text := by
  obtain ⟨behind, hrest⟩ : ∃ behind, behind = render (line.tail.lexemes ending.carriage) := ⟨_, rfl⟩
  have hline : text = line.indent.1 ++
      (headerText double left key right ++ (behind ++ newline)) := by
    rw [htext, Line.lexemes, hstatement, render_append, render_append, render_plains,
      render_header, hrest]
    simp only [List.append_assoc]
  have hnone : '\n' ∉ headerText double left key right ++ behind := by
    rw [List.mem_append, not_or, ← render_header, hrest]
    exact ⟨newline_notMem_header double left key right, newline_notMem_tail line.tail ending⟩
  have hdrop : source.drop (before.length + line.indent.1.length) =
      headerText double left key right ++ behind ++ (newline ++ post) := by
    rw [hsource, hline, ← List.drop_drop, List.drop_left]
    simp only [List.append_assoc]
    rw [List.drop_left]
  have hbody : bodyStartOf source (before.length + line.indent.1.length) =
      before.length + text.length := by
    rcases hnewline with rfl | ⟨rfl, rfl⟩
    · rw [bodyStartOf_ended hdrop hnone, hline]
      simp only [List.length_append, List.length_singleton]
      omega
    · rw [List.append_nil, List.append_nil] at hdrop
      rw [bodyStartOf_last hdrop ?_ hnone, hline]
      · simp only [List.length_append, List.length_nil]
        omega
      · rw [hsource, hline]
        simp only [List.length_append]
        omega
  have hspaces : ∀ character ∈ newline, isSpace character = true := by
    rcases hnewline with rfl | ⟨rfl, -⟩
    · exact List.forall_mem_singleton.mpr (by decide)
    · exact fun character hmem => absurd hmem List.not_mem_nil
  have hstripped := (hrest ▸ behind_tail line.tail ending hspaces).stripped
  have hkind := @headerKind_header loads double left right key _ hstripped
  rw [hrest, ← strip_line line.indent, ← hrest, ← hline] at hkind
  unfold headerAt headerOf
  simp only [hbody, slice_between hsource, hstatement]
  rw [hkind hloads]
  rfl

/-! ### Documents -/

theorem mem_headersAt {lines : List (ℕ × ℕ)} {header : TomlHeader}
    (hheader : header ∈ headersAt loads source lines) :
    ∃ lead ∈ lines, header.start = lead.1 := by
  obtain ⟨lead, hlead, hfound⟩ := List.mem_filterMap.mp hheader
  obtain ⟨kind, -, rfl⟩ := Option.map_eq_some_iff.mp hfound
  exact ⟨lead, hlead, rfl⟩

/-- One line: its header is found, and else only elements of arrays. -/
theorem line_headers {line : Line} (ending : LineEnd) {newline : Text}
    (htext : text = render (line.lexemes ending.carriage) ++ newline)
    (hnewline : newline = ['\n'] ∨ newline = [] ∧ post = [])
    (hsource : source = before ++ (text ++ post))
    (hloads : ∀ header ∈ headerOf before.length line text, loads header.text = true) :
    (headerOf before.length line text).toList.Sublist (headersAt loads source
        (leads '[' ⟨before.length, before.length, true⟩ (line.lexemes ending.carriage))) ∧
      ∀ header ∈ headersAt loads source
          (leads '[' ⟨before.length, before.length, true⟩ (line.lexemes ending.carriage)),
        header ∈ headerOf before.length line text ∨
          header.start ∈ line.elementLines ⟨before.length, before.length, true⟩ := by
  cases hstatement : line.statement with
  | empty =>
    rw [leads_empty hstatement]
    refine ⟨?_, fun header hmem => absurd hmem List.not_mem_nil⟩
    unfold headerOf
    rw [hstatement]
    exact List.Sublist.refl []
  | keyValue key left right value =>
    refine ⟨?_, fun header hmem => Or.inr ?_⟩
    · unfold headerOf
      rw [hstatement]
      exact List.nil_sublist _
    · obtain ⟨lead, hlead, hstart⟩ := mem_headersAt hmem
      rw [hstart]
      exact leads_keyValue hstatement ending hlead
  | header double left key right =>
    have hexpected : headerOf before.length line text =
        some ⟨strip text, before.length, before.length + text.length, kindOf double⟩ := by
      unfold headerOf
      rw [hstatement]
    have hfound : headersAt loads source
        (leads '[' ⟨before.length, before.length, true⟩ (line.lexemes ending.carriage)) =
        (headerOf before.length line text).toList := by
      have hat := headerAt_header hstatement ending htext hnewline hsource (hloads _ hexpected)
      rw [leads_header hstatement ending rfl, headersAt, List.filterMap_cons, hat, hexpected]
      rfl
    rw [hfound]
    exact ⟨List.Sublist.refl _, fun header hmem => Or.inl (Option.mem_toList.mp hmem)⟩

theorem document_headers (document : Document) (hsource : source = before ++ document.text)
    (hloads : ∀ header ∈ documentHeaders before.length document, loads header.text = true) :
    (documentHeaders before.length document).Sublist (headersAt loads source
        (leads '[' ⟨before.length, before.length, true⟩ document.lexemes)) ∧
      ∀ header ∈ headersAt loads source
          (leads '[' ⟨before.length, before.length, true⟩ document.lexemes),
        header ∈ documentHeaders before.length document ∨
          header.start ∈ document.elementLines ⟨before.length, before.length, true⟩ := by
  induction document generalizing before with
  | last line =>
    have hline := line_headers .lf (List.append_nil _).symm (Or.inr ⟨rfl, rfl⟩)
      (hsource.trans (congrArg (before ++ ·) (List.append_nil _).symm))
      (fun header hmem => hloads header (Option.mem_toList.mpr hmem))
    refine ⟨hline.1, fun header hmem => ?_⟩
    exact (hline.2 header hmem).imp_left Option.mem_toList.mpr
  | more line ending rest ih =>
    obtain ⟨text, htext⟩ : ∃ text, text = render (line.ended ending) := ⟨_, rfl⟩
    rw [documentHeaders, ← htext] at hloads ⊢
    rw [Document.text, Document.lexemes, render_append, ← htext] at hsource
    have hended : text = render (line.lexemes ending.carriage) ++ ['\n'] := by
      rw [htext, Line.ended, render_append]
      rfl
    have hline := line_headers ending hended (Or.inl rfl) hsource
      (fun header hmem => hloads header (List.mem_append_left _ (Option.mem_toList.mpr hmem)))
    have hplace : TextPlace.moveAll ⟨before.length, before.length, true⟩ (line.ended ending) =
        ⟨(before ++ text).length, (before ++ text).length, true⟩ := by
      rw [List.length_append, htext]
      exact moveAll_newline _
    rw [← List.length_append] at hloads ⊢
    have hrest := @ih (before ++ text) (by rw [hsource, List.append_assoc]; rfl)
      (fun header hmem => hloads header (List.mem_append_right _ hmem))
    have hleads : leads '[' ⟨before.length, before.length, true⟩ (line.ended ending) =
        leads '[' ⟨before.length, before.length, true⟩ (line.lexemes ending.carriage) := by
      rw [Line.ended, leads_append]
      exact List.append_nil _
    rw [Document.lexemes, leads_append, headersAt_append, hleads, hplace, Document.elementLines,
      hplace]
    refine ⟨hline.1.append hrest.1, fun header hmem => ?_⟩
    rw [List.mem_append, List.mem_append]
    rcases List.mem_append.mp hmem with hhere | hlater
    · exact (hline.2 header hhere).imp (fun hmem => Or.inl (Option.mem_toList.mpr hmem)) Or.inl
    · exact (hrest.2 header hlater).imp Or.inr Or.inr

end Lines

/-- **Every header of a document.**  The scan goes through any document that `tomllib` accepts
    without an error and, step by step, to its end.  It reports every table header, in order and
    once, with its kind and its place; every line reported begins with a bracket outside strings
    and comments, and is a header line or begins with an element of an array. -/
theorem scan_document (loads : Text → Bool) (hloads : HeadersAlone loads) (document : Document)
    (haccepted : loads document.text = true) :
    ∃ last, Advance loads document.text Scanner.initial 0 last document.text.length ∧
      scanTableHeaders loads document.text = .ok last.headers ∧
      (documentHeaders 0 document).Sublist last.headers ∧
      (last.headers.Pairwise fun first second => first.start < second.start) ∧
      ∀ header ∈ last.headers, BeginsWith '[' document.lexemes header.start ∧
        (header ∈ documentHeaders 0 document ∨
          header.start ∈ document.elementLines ⟨0, 0, true⟩) := by
  obtain ⟨last, hadvance, hheaders, hlast⟩ :=
    advance_lexemes loads (wellFormed_document document)
  have hscan : scanTableHeaders loads document.text = .ok last.headers :=
    scan_of_advance hadvance hlast
  have hdocument := @document_headers loads (render document.lexemes) [] document rfl
    (hloads document haccepted)
  rw [List.length_nil, ← hheaders] at hdocument
  refine ⟨last, hadvance, hscan, hdocument.1, scan_starts hscan, fun header hmem => ⟨?_, ?_⟩⟩
  · rw [hheaders] at hmem
    obtain ⟨lead, hlead, hstart⟩ := mem_headersAt hmem
    rw [hstart]
    exact beginsWith_of_leads hlead
  · exact hdocument.2 header hmem

def noBlanks : Blanks := ⟨[], List.forall_mem_nil _⟩

def bareKey (character : Char) (hbare : isBare character = true) : Key :=
  ⟨.bare [character] (List.cons_ne_nil _ _) (by simpa using hbare), []⟩

/-- A bracket in a multi-line string, an element that stands on a line of its own, and two
    headers: one with a comment, one at the end of the text. -/
def sampleDocument : Document :=
  .more ⟨noBlanks, .keyValue (bareKey 'a' (by decide)) noBlanks noBlanks (.array
      (.more ⟨[], noBlanks⟩
        (.multi .literal [.piece (.plain '\n'), .piece (.plain '[')] 0
          (by simp [Lexeme.Formed, ItemsWithin, Piece.Within, Quote.mark]) (by decide))
        ⟨[], noBlanks⟩
        (.last ⟨[(⟨noBlanks, none⟩, .lf)], noBlanks⟩
          (.array (.last ⟨[], noBlanks⟩ (.scalar ['1'] (List.all_eq_true.mp rfl)) ⟨[], noBlanks⟩))
          ⟨[(⟨noBlanks, none⟩, .lf)], noBlanks⟩))),
    ⟨noBlanks, none⟩⟩ .lf
  (.more ⟨⟨[' '], List.all_eq_true.mp rfl⟩, .header false noBlanks (bareKey 'b' (by decide)) noBlanks,
      ⟨noBlanks, some ⟨['[', ' '], List.all_eq_true.mp rfl⟩⟩⟩ .crlf
    (.last ⟨noBlanks, .header true noBlanks (bareKey 'c' (by decide)) noBlanks,
      ⟨noBlanks, none⟩⟩))

theorem scan_document_sample :
    sampleDocument.text = "a=['''\n[''',\n[1]\n]\n [b]#[ \r\n[[c]]".toList ∧
      ∃ last, Advance (fun _ => true) sampleDocument.text Scanner.initial 0 last
          sampleDocument.text.length ∧
        scanTableHeaders (fun _ => true) sampleDocument.text = .ok last.headers ∧
        (documentHeaders 0 sampleDocument).Sublist last.headers ∧
        (last.headers.Pairwise fun first second => first.start < second.start) ∧
        ∀ header ∈ last.headers, BeginsWith '[' sampleDocument.lexemes header.start ∧
          (header ∈ documentHeaders 0 sampleDocument ∨
            header.start ∈ sampleDocument.elementLines ⟨0, 0, true⟩) :=
  ⟨rfl, scan_document (fun _ => true) (fun _ _ _ _ => rfl) sampleDocument rfl⟩

end CodexMustWork.TomlHeaders
