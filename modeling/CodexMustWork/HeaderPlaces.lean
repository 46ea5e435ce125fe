import CodexMustWork.TomlHeaders

/-!
# The places of the headers

A scan goes on from one physical line to the next, so the lines of the headers it reports
follow each other in the text, whatever the text is and whatever `tomllib` accepts.
-/

namespace CodexMustWork.TomlHeaders

open TomlText

section Places

variable {loads : Text → Bool} {source : Text} {scanner next : Scanner} {index following : ℕ}

/-! ### The end of a line -/

theorem drop_of_getElem? {character : Char} (hcharacter : source[index]? = some character) :
    source.drop index = character :: source.drop (index + 1) := by
  obtain ⟨hlt, hget⟩ := List.getElem?_eq_some_iff.mp hcharacter
  rw [List.drop_eq_getElem_cons hlt, hget]

theorem bodyStartOf_le (source : Text) (index : ℕ) : bodyStartOf source index ≤ source.length := by
  unfold bodyStartOf
  simp only
  split_ifs with hlt
  · exact hlt
  · exact Nat.le_refl _

theorem lt_bodyStartOf {character : Char} (hcharacter : source[index]? = some character) :
    index < bodyStartOf source index := by
  obtain ⟨hlt, -⟩ := List.getElem?_eq_some_iff.mp hcharacter
  unfold bodyStartOf
  simp only
  split_ifs
  · exact Nat.lt_succ_of_le (Nat.le_add_right _ _)
  · exact hlt

theorem bodyStartOf_newline (hnewline : source[index]? = some '\n') :
    bodyStartOf source index = index + 1 := by
  obtain ⟨hlt, -⟩ := List.getElem?_eq_some_iff.mp hnewline
  unfold bodyStartOf
  rw [drop_of_getElem? hnewline, List.takeWhile_cons_of_neg (by decide)]
  exact if_pos hlt

theorem bodyStartOf_pass {character : Char} (hcharacter : source[index]? = some character)
    (hne : character ≠ '\n') : bodyStartOf source index = bodyStartOf source (index + 1) := by
  unfold bodyStartOf
  have hpass : (character != '\n') = true := bne_iff_ne.mpr hne
  rw [drop_of_getElem? hcharacter, @List.takeWhile_cons_of_pos _ (· != '\n') _ _ hpass,
    List.length_cons, Nat.add_comm _ 1, ← Nat.add_assoc]

/-- A line begins at the position. -/
def LineStart (source : Text) (position : ℕ) : Prop :=
  position = 0 ∨ ∃ before, position = before + 1 ∧ source[before]? = some '\n'

/-- A line ends before the position. -/
def LineStop (source : Text) (position : ℕ) : Prop :=
  LineStart source position ∨ position = source.length

theorem getElem?_lineEnd {text : Text}
    (hlt : (text.takeWhile (· != '\n')).length < text.length) :
    text[(text.takeWhile (· != '\n')).length]? = some '\n' := by
  induction text with
  | nil => cases hlt
  | cons character rest ih =>
    by_cases hnewline : character = '\n'
    · subst hnewline
      rw [List.takeWhile_cons_of_neg (by decide)]
      rfl
    · have hpass : (character != '\n') = true := bne_iff_ne.mpr hnewline
      rw [@List.takeWhile_cons_of_pos _ (· != '\n') _ _ hpass] at hlt ⊢
      exact ih (Nat.lt_of_succ_lt_succ hlt)

theorem bodyStartOf_stop (source : Text) (index : ℕ) :
    LineStop source (bodyStartOf source index) := by
  unfold bodyStartOf
  simp only
  split_ifs with hlt
  · refine Or.inl (Or.inr ⟨_, rfl, ?_⟩)
    rw [← List.getElem?_drop]
    refine getElem?_lineEnd ?_
    rw [List.length_drop]
    omega
  · exact Or.inr rfl

/-- The lines of the headers so far are behind the line one is on, or the last is that line
    and the scanner has left its beginning. -/
structure Sound (source : Text) (scanner : Scanner) (index : ℕ) : Prop where
  line : scanner.lineStart ≤ index
  begins : LineStart source scanner.lineStart
  behind : ∀ header ∈ scanner.headers, header.bodyStart ≤ scanner.lineStart ∨
    scanner.atLineStart = false ∧ header.bodyStart = bodyStartOf source index
  ordered : scanner.headers.Pairwise fun first second => first.bodyStart ≤ second.start
  proper : ∀ header ∈ scanner.headers,
    header.start < header.bodyStart ∧ header.bodyStart ≤ source.length
  lines : ∀ header ∈ scanner.headers,
    LineStart source header.start ∧ LineStop source header.bodyStart

/-! ### What one step keeps -/

theorem Sound.newline (hsound : Sound source scanner index)
    (hnewline : source[index]? = some '\n') :
    Sound source (scanner.newline index) (index + 1) where
  line := Nat.le_refl _
  begins := Or.inr ⟨index, rfl, hnewline⟩
  behind := by
    intro header hmem
    refine Or.inl ?_
    rcases hsound.behind header hmem with hline | ⟨-, hbody⟩
    · exact Nat.le_succ_of_le (Nat.le_trans hline hsound.line)
    · rw [hbody, bodyStartOf_newline hnewline]
      exact Nat.le_refl _
  ordered := hsound.ordered
  proper := hsound.proper
  lines := hsound.lines

/-- Past a character on the line. -/
theorem Sound.pass (hsound : Sound source scanner index) {character : Char}
    (hcharacter : source[index]? = some character) (hne : character ≠ '\n') :
    Sound source scanner (index + 1) where
  line := Nat.le_succ_of_le hsound.line
  begins := hsound.begins
  behind := by
    intro header hmem
    rw [← bodyStartOf_pass hcharacter hne]
    exact hsound.behind header hmem
  ordered := hsound.ordered
  proper := hsound.proper
  lines := hsound.lines

/-- Past a run of quotes. -/
theorem Sound.run (hsound : Sound source scanner index) {character : Char} (hne : character ≠ '\n')
    {count : ℕ} (hcount : count ≤ quoteRun source index character) :
    Sound source scanner (index + count) := by
  induction count generalizing index with
  | zero => exact hsound
  | succ count ih =>
    have hfirst : source[index]? = some character := by
      unfold quoteRun at hcount
      cases hdrop : source.drop index with
      | nil =>
        rw [hdrop] at hcount
        cases hcount
      | cons found rest =>
        have hfound : found = character := by
          by_contra hother
          rw [hdrop, List.takeWhile_cons_of_neg (by simpa using hother)] at hcount
          cases hcount
        exact getElem?_of_drop (hfound ▸ hdrop)
    have hrest : count ≤ quoteRun source (index + 1) character := by
      unfold quoteRun at hcount ⊢
      rw [drop_of_getElem? hfirst, @List.takeWhile_cons_of_pos _ (· == character) _ _
        (beq_self_eq_true character), List.length_cons] at hcount
      exact Nat.le_of_succ_le_succ hcount
    rw [Nat.add_comm count 1, ← Nat.add_assoc]
    exact ih (hsound.pass hfirst hne) hrest

/-- The state does not matter, and one can leave the beginning of a line. -/
theorem Sound.enter (hsound : Sound source scanner index) (state : LexState) :
    Sound source { scanner with state := state } index :=
  ⟨hsound.line, hsound.begins, hsound.behind, hsound.ordered, hsound.proper, hsound.lines⟩

theorem Sound.leave (hsound : Sound source scanner index) :
    Sound source { scanner with atLineStart := false } index where
  line := hsound.line
  begins := hsound.begins
  behind := fun header hmem =>
    (hsound.behind header hmem).imp_right fun hlast => ⟨rfl, hlast.2⟩
  ordered := hsound.ordered
  proper := hsound.proper
  lines := hsound.lines

/-- A header is found at the beginning of a line, so those before it are behind. -/
theorem Sound.found (hsound : Sound source scanner index) {character : Char}
    (hcharacter : source[index]? = some character) (hfresh : scanner.atLineStart = true)
    {header : TomlHeader} (hheader : headerAt loads source scanner.lineStart index = some header) :
    Sound source
      { scanner with headers := scanner.headers ++ [header], atLineStart := false } index := by
  have hplace : header.start = scanner.lineStart ∧ header.bodyStart = bodyStartOf source index := by
    obtain ⟨kind, -, rfl⟩ := Option.map_eq_some_iff.mp hheader
    exact ⟨rfl, rfl⟩
  have hbehind : ∀ other ∈ scanner.headers, other.bodyStart ≤ scanner.lineStart := by
    intro other hmem
    rcases hsound.behind other hmem with hline | ⟨hleft, -⟩
    · exact hline
    · rw [hfresh] at hleft
      cases hleft
  refine ⟨hsound.line, hsound.begins, ?_, ?_, ?_, ?_⟩
  · intro other hmem
    rcases List.mem_append.mp hmem with hold | hnew
    · exact Or.inl (hbehind other hold)
    · rw [List.mem_singleton.mp hnew]
      exact Or.inr ⟨rfl, hplace.2⟩
  · refine List.pairwise_append.mpr ⟨hsound.ordered, List.pairwise_singleton _ _, ?_⟩
    intro other hold last hnew
    rw [List.mem_singleton.mp hnew, hplace.1]
    exact hbehind other hold
  · intro other hmem
    rcases List.mem_append.mp hmem with hold | hnew
    · exact hsound.proper other hold
    · rw [List.mem_singleton.mp hnew, hplace.1, hplace.2]
      exact ⟨Nat.lt_of_le_of_lt hsound.line (lt_bodyStartOf hcharacter),
        bodyStartOf_le source index⟩
  · intro other hmem
    rcases List.mem_append.mp hmem with hold | hnew
    · exact hsound.lines other hold
    · rw [List.mem_singleton.mp hnew, hplace.1, hplace.2]
      exact ⟨hsound.begins, bodyStartOf_stop source index⟩

theorem escape_sound (hsound : Sound source scanner index)
    (hbackslash : source[index]? = some '\\')
    (hstep : scanner.escape source index = .ok (next, following)) :
    Sound source next following := by
  unfold Scanner.escape at hstep
  cases hescaped : source[index + 1]? with
  | none =>
    rw [hescaped] at hstep
    cases hstep
  | some escaped =>
    rw [hescaped] at hstep
    have hpassed := hsound.pass hbackslash (by decide)
    cases hstep
    split_ifs with hnewline
    · exact hpassed.newline (hnewline ▸ hescaped)
    · exact hpassed.pass hescaped hnewline

theorem openString_sound (hsound : Sound source scanner index) {quote : Char}
    (hquote : source[index]? = some quote) (hne : quote ≠ '\n') :
    Sound source (scanner.openString source index quote).1
      (scanner.openString source index quote).2 := by
  unfold Scanner.openString
  refine Sound.enter ?_ _
  by_cases hmultiline : 3 ≤ quoteRun source index quote
  · rw [decide_eq_true hmultiline]
    exact hsound.run hne hmultiline
  · rw [decide_eq_false hmultiline]
    exact hsound.pass hquote hne

theorem normal_sound (hsound : Sound source scanner index) {character : Char}
    (hcharacter : source[index]? = some character) :
    Sound source (scanner.normal loads source character index).1
      (scanner.normal loads source character index).2 := by
  unfold Scanner.normal
  by_cases hnewline : character = '\n'
  · rw [if_pos hnewline]
    exact hsound.newline (hnewline ▸ hcharacter)
  rw [if_neg hnewline]
  by_cases hblank : scanner.atLineStart ∧ (character = ' ' ∨ character = '\t')
  · rw [if_pos hblank]
    exact hsound.pass hcharacter hnewline
  rw [if_neg hblank]
  have hpassed : Sound source
      { scanner with
        headers := scanner.headers ++ if scanner.atLineStart ∧ character = '[' then
          (headerAt loads source scanner.lineStart index).toList else []
        atLineStart := false } index := by
    by_cases hlead : scanner.atLineStart ∧ character = '['
    · rw [if_pos hlead]
      cases hheader : headerAt loads source scanner.lineStart index with
      | none =>
        rw [Option.toList_none, List.append_nil]
        exact hsound.leave
      | some header => exact hsound.found hcharacter hlead.1 hheader
    · rw [if_neg hlead, List.append_nil]
      exact hsound.leave
  simp only
  by_cases hcomment : character = '#'
  · rw [if_pos hcomment]
    exact (hpassed.enter .comment).pass hcharacter hnewline
  rw [if_neg hcomment]
  by_cases hquote : character = '"' ∨ character = '\''
  · rw [if_pos hquote]
    exact openString_sound hpassed hcharacter hnewline
  · rw [if_neg hquote]
    exact hpassed.pass hcharacter hnewline

theorem comment_sound (hsound : Sound source scanner index) {character : Char}
    (hcharacter : source[index]? = some character) :
    Sound source (scanner.comment character index).1 (scanner.comment character index).2 := by
  unfold Scanner.comment
  simp only
  split_ifs with hnewline
  · exact (hsound.newline (hnewline ▸ hcharacter)).enter .normal
  · exact hsound.pass hcharacter hnewline

theorem single_sound (hsound : Sound source scanner index) {character quote : Char}
    (hmark : quote ≠ '\n') (hcharacter : source[index]? = some character)
    (hstep : scanner.single source character index quote = .ok (next, following)) :
    Sound source next following := by
  unfold Scanner.single at hstep
  split_ifs at hstep with hescape hquote hnewline
  · exact escape_sound hsound (hescape.2 ▸ hcharacter) hstep
  · cases hstep
    exact (hsound.enter .normal).pass hcharacter (hquote ▸ hmark)
  · cases hstep
    exact hsound.pass hcharacter hnewline

theorem multiline_sound (hsound : Sound source scanner index) {character quote : Char}
    (hquote : quote ≠ '\n') (hcharacter : source[index]? = some character)
    (hstep : scanner.multiline source character index quote = .ok (next, following)) :
    Sound source next following := by
  unfold Scanner.multiline at hstep
  split_ifs at hstep with hescape hmark hnewline hblank
  · exact escape_sound hsound (hescape.2 ▸ hcharacter) hstep
  · cases hstep
    exact (hsound.leave.enter _).run hquote (Nat.le_refl _)
  · cases hstep
    exact hsound.newline (hnewline ▸ hcharacter)
  · cases hstep
    exact hsound.pass hcharacter hnewline
  · cases hstep
    exact hsound.leave.pass hcharacter hnewline

theorem step_sound (hsound : Sound source scanner index) {character : Char}
    (hcharacter : source[index]? = some character)
    (hstep : scanner.step loads source character index = .ok (next, following)) :
    Sound source next following := by
  unfold Scanner.step at hstep
  cases hstate : scanner.state with
  | normal =>
    rw [hstate] at hstep
    have hnormal := @normal_sound loads source scanner index hsound character hcharacter
    rw [Except.ok.inj hstep] at hnormal
    exact hnormal
  | comment =>
    rw [hstate] at hstep
    have hcomment := comment_sound hsound hcharacter
    rw [Except.ok.inj hstep] at hcomment
    exact hcomment
  | basic =>
    rw [hstate] at hstep
    exact single_sound hsound (mark_ne_newline .basic) hcharacter hstep
  | literal =>
    rw [hstate] at hstep
    exact single_sound hsound (mark_ne_newline .literal) hcharacter hstep
  | multilineBasic =>
    rw [hstate] at hstep
    exact multiline_sound hsound (mark_ne_newline .basic) hcharacter hstep
  | multilineLiteral =>
    rw [hstate] at hstep
    exact multiline_sound hsound (mark_ne_newline .literal) hcharacter hstep

/-! ### The whole scan -/

theorem scanFrom_sound {rounds : ℕ} {last : Scanner} (hsound : Sound source scanner index)
    (hscan : scanner.scanFrom loads source rounds index = .ok last) :
    ∃ stop, Sound source last stop := by
  induction rounds generalizing scanner index with
  | zero =>
    cases hscan
    exact ⟨index, hsound⟩
  | succ rounds ih =>
    rw [Scanner.scanFrom] at hscan
    cases hcharacter : source[index]? with
    | none =>
      rw [hcharacter] at hscan
      cases hscan
      exact ⟨index, hsound⟩
    | some character =>
      rw [hcharacter] at hscan
      cases hstep : scanner.step loads source character index with
      | error failure =>
        simp only [hstep] at hscan
        cases hscan
      | ok result =>
        simp only [hstep] at hscan
        exact ih (step_sound hsound hcharacter hstep) hscan

/-- A scan that returns ends in a sound state with its headers. -/
theorem scan_sound {headers : List TomlHeader}
    (hscan : scanTableHeaders loads source = .ok headers) :
    ∃ last stop, Sound source last stop ∧ last.headers = headers := by
  unfold scanTableHeaders at hscan
  have hinitial : Sound source Scanner.initial 0 :=
    ⟨Nat.le_refl 0, Or.inl rfl, fun header hmem => absurd hmem List.not_mem_nil,
      List.Pairwise.nil, fun header hmem => absurd hmem List.not_mem_nil,
      fun header hmem => absurd hmem List.not_mem_nil⟩
  cases hlast : Scanner.initial.scanFrom loads source source.length 0 with
  | error failure =>
    rw [hlast] at hscan
    cases hscan
  | ok last =>
    rw [hlast] at hscan
    obtain ⟨stop, hsound⟩ := scanFrom_sound hinitial hlast
    simp only at hscan
    split_ifs at hscan with hstate
    cases hscan
    exact ⟨last, stop, hsound, rfl⟩

/-- The lines of the headers of a scan follow each other. -/
theorem scan_ordered {headers : List TomlHeader}
    (hscan : scanTableHeaders loads source = .ok headers) :
    (headers.Pairwise fun first second => first.bodyStart ≤ second.start) ∧
      ∀ header ∈ headers, header.start ≤ header.bodyStart ∧ header.bodyStart ≤ source.length := by
  obtain ⟨last, stop, hsound, rfl⟩ := scan_sound hscan
  refine ⟨hsound.ordered, fun header hmem => ?_⟩
  obtain ⟨hstart, hbody⟩ := hsound.proper header hmem
  exact ⟨Nat.le_of_lt hstart, hbody⟩

/-- No two headers of a scan are on one line. -/
theorem scan_starts {headers : List TomlHeader}
    (hscan : scanTableHeaders loads source = .ok headers) :
    headers.Pairwise fun first second => first.start < second.start := by
  obtain ⟨last, stop, hsound, rfl⟩ := scan_sound hscan
  refine List.Pairwise.imp_of_mem ?_ hsound.ordered
  intro first second hfirst _ hfollows
  exact Nat.lt_of_lt_of_le (hsound.proper first hfirst).1 hfollows

/-- Each header of a scan has a line of its own. -/
theorem scan_lines {headers : List TomlHeader}
    (hscan : scanTableHeaders loads source = .ok headers) :
    ∀ header ∈ headers, LineStart source header.start ∧ LineStop source header.bodyStart := by
  obtain ⟨last, stop, hsound, rfl⟩ := scan_sound hscan
  exact hsound.lines

end Places

end CodexMustWork.TomlHeaders
