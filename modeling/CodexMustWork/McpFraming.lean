import CodexMustWork.Library.LineFraming
import CodexMustWork.McpProtocol
import CodexMustWork.PythonValues

/-!
# Bounded framing

`_bounded_lines` of `scripts/mcp_stdio.py`: the standard input, read in chunks of bounded
size and framed into lines of bounded size.

UTF-8 encodes each code point on its own, or not at all, so a line is encoded chunk by
chunk.
-/

namespace CodexMustWork.McpStdio

open LineFraming

def newline : CodePoint := 10

/-! ### The loop -/

def readLimit : Nat := 8192

/-- What `stream.readline(8_192)` returns call by call, before it returns nothing. -/
def streamChunks (limit : Nat) (text : PyText) : List PyText :=
  if _hempty : readline newline text limit = [] then []
  else
    readline newline text limit ::
      streamChunks limit (text.drop (readline newline text limit).length)
termination_by text.length
decreasing_by
  have hread := List.length_pos_iff.mpr _hempty
  have hle := (readline_extends newline text limit).length_le
  rw [List.length_drop]
  omega

/-- The variables of the loop. -/
structure LineBuffer where
  current : List PyText := []
  currentBytes : Nat := 0
  overLimit : Bool := false

/-- A line with its framing error. -/
abbrev BoundedLine := PyText × Bool

/-- `piece_bytes`. -/
def pieceBytes (piece : PyText) : Nat := (utf8Length piece).getD (maxRawLineBytes + 1)

/-- Add a piece of a line. -/
def LineBuffer.add (buffer : LineBuffer) (piece : PyText) : LineBuffer :=
  if buffer.overLimit then buffer
  else if maxRawLineBytes < buffer.currentBytes + pieceBytes piece then
    { buffer with current := [], overLimit := true }
  else
    { buffer with
      current := buffer.current ++ [piece]
      currentBytes := buffer.currentBytes + pieceBytes piece }

/-- What the loop yields with a buffer. -/
def LineBuffer.line (buffer : LineBuffer) : BoundedLine :=
  (buffer.current.flatten, buffer.overLimit)

/-- The loop over the chunks of a stream. -/
def frameChunks (buffer : LineBuffer) : List PyText → List BoundedLine
  | [] => if buffer.current ≠ [] ∨ buffer.overLimit then [buffer.line] else []
  | chunk :: rest =>
      if chunk.getLast? = some newline then
        (buffer.add chunk.dropLast).line :: frameChunks {} rest
      else frameChunks (buffer.add chunk) rest

/-- `_bounded_lines`. -/
def boundedLines (text : PyText) : List BoundedLine :=
  frameChunks {} (streamChunks readLimit text)

/-! ### Lines -/

/-- The line fits when it is encoded within the limit. -/
def Fits (line : PyText) : Prop := ∃ size, utf8Length line = some size ∧ size ≤ maxRawLineBytes

theorem fits_iff {line : PyText} :
    (utf8Length line).any (· ≤ maxRawLineBytes) = true ↔ Fits line := by
  rw [Option.any_eq_true]
  simp only [Fits, decide_eq_true_eq]

instance (line : PyText) : Decidable (Fits line) := decidable_of_iff _ fits_iff

/-- A line as it is framed on its own. -/
def framed (line : PyText) : BoundedLine := if Fits line then (line, false) else ([], true)

theorem utf8Length_append (first second : PyText) :
    utf8Length (first ++ second) = (do
      let size ← utf8Length first
      let more ← utf8Length second
      return size + more) := by
  induction first with
  | nil =>
    rw [List.nil_append, utf8Length]
    cases utf8Length second with
    | none => rfl
    | some more => exact congrArg some (Nat.zero_add more).symm
  | cons point rest ih =>
    rw [List.cons_append, utf8Length, utf8Length, ih]
    cases CodePoint.utf8Size point with
    | none => rfl
    | some size =>
      cases utf8Length rest with
      | none => rfl
      | some middle =>
        cases utf8Length second with
        | none => rfl
        | some more => exact congrArg some (Nat.add_assoc size middle more).symm

/-- A line begins with what fits when it fits. -/
theorem Fits.of_append {first second : PyText} (hfits : Fits (first ++ second)) :
    Fits first := by
  obtain ⟨size, hsize, hle⟩ := hfits
  rw [utf8Length_append] at hsize
  cases hfirst : utf8Length first with
  | none =>
    rw [hfirst] at hsize
    cases hsize
  | some before =>
    rw [hfirst] at hsize
    cases hsecond : utf8Length second with
    | none =>
      rw [hsecond] at hsize
      cases hsize
    | some more =>
      rw [hsecond] at hsize
      have hsum : before + more = size := Option.some.inj hsize
      exact ⟨before, hfirst, by omega⟩

/-- What a buffer knows of the line it is in. -/
structure LineBuffer.Holds (buffer : LineBuffer) (start : PyText) : Prop where
  beyond : buffer.overLimit = true → buffer.current = [] ∧ ¬ Fits start
  within : buffer.overLimit = false → buffer.current.flatten = start ∧
    utf8Length start = some buffer.currentBytes ∧ buffer.currentBytes ≤ maxRawLineBytes

theorem holds_empty : LineBuffer.Holds {} [] :=
  ⟨fun hover => (by cases hover), fun _ => ⟨rfl, rfl, Nat.zero_le _⟩⟩

/-- Adding a piece keeps what is known of the line. -/
theorem LineBuffer.Holds.add {buffer : LineBuffer} {start : PyText}
    (hholds : buffer.Holds start) (piece : PyText) :
    (buffer.add piece).Holds (start ++ piece) := by
  unfold LineBuffer.add
  cases hover : buffer.overLimit with
  | true =>
    rw [if_pos rfl]
    obtain ⟨hcurrent, hlong⟩ := hholds.beyond hover
    refine ⟨fun _ => ⟨hcurrent, fun hfits => hlong hfits.of_append⟩, fun hwithin => ?_⟩
    rw [hover] at hwithin
    cases hwithin
  | false =>
    rw [if_neg Bool.false_ne_true]
    obtain ⟨hcurrent, hbytes, hbound⟩ := hholds.within hover
    have hlength : utf8Length (start ++ piece) =
        (utf8Length piece).map (buffer.currentBytes + ·) := by
      rw [utf8Length_append, hbytes]
      cases utf8Length piece <;> rfl
    split_ifs with hmore
    · refine ⟨fun _ => ⟨rfl, ?_⟩, fun hwithin => by cases hwithin⟩
      rintro ⟨size, hsize, hle⟩
      rw [hlength] at hsize
      obtain ⟨more, hpiece, rfl⟩ := Option.map_eq_some_iff.mp hsize
      rw [pieceBytes, hpiece, Option.getD_some] at hmore
      omega
    · refine ⟨fun hover => (by cases hover), fun _ => ?_⟩
      cases hpiece : utf8Length piece with
      | none =>
        -- a piece that is not encoded counts as longer than a line may be
        rw [pieceBytes, hpiece, Option.getD_none] at hmore
        omega
      | some more =>
        rw [pieceBytes, hpiece, Option.getD_some] at hmore
        refine ⟨?_, ?_, ?_⟩
        · rw [List.flatten_append, hcurrent, List.flatten_singleton]
        · rw [hlength, hpiece, Option.map_some, pieceBytes, hpiece, Option.getD_some]
        · rw [pieceBytes, hpiece, Option.getD_some]
          exact Nat.le_of_not_lt hmore

/-- What is yielded with a buffer is its line, framed on its own. -/
theorem LineBuffer.Holds.line_eq {buffer : LineBuffer} {line : PyText}
    (hholds : buffer.Holds line) : buffer.line = framed line := by
  unfold LineBuffer.line framed
  cases hover : buffer.overLimit with
  | true =>
    obtain ⟨hcurrent, hlong⟩ := hholds.beyond hover
    rw [if_neg hlong, hcurrent, List.flatten_nil]
  | false =>
    obtain ⟨hcurrent, hbytes, hbound⟩ := hholds.within hover
    have hfits : Fits line := ⟨buffer.currentBytes, hbytes, hbound⟩
    rw [if_pos hfits, hcurrent]

/-- At the end of the stream a line is open when something was read of it. -/
theorem LineBuffer.Holds.open_iff {buffer : LineBuffer} {start : PyText}
    (hholds : buffer.Holds start) (hpieces : [] ∉ buffer.current) :
    buffer.current ≠ [] ∨ buffer.overLimit = true ↔ start ≠ [] := by
  cases hover : buffer.overLimit with
  | true =>
    obtain ⟨-, hlong⟩ := hholds.beyond hover
    refine ⟨fun _ hempty => hlong ?_, fun _ => Or.inr rfl⟩
    exact ⟨0, by rw [hempty, utf8Length], Nat.zero_le _⟩
  | false =>
    obtain ⟨hcurrent, -⟩ := hholds.within hover
    rw [← hcurrent]
    constructor
    · rintro (hsome | hfalse) hempty
      · obtain ⟨piece, hpiece⟩ := List.exists_mem_of_ne_nil _ hsome
        rw [List.flatten_eq_nil_iff] at hempty
        exact hpieces (hempty piece hpiece ▸ hpiece)
      · cases hfalse
    · intro hstart
      refine Or.inl fun hnone => hstart ?_
      rw [hnone, List.flatten_nil]

/-- A chunk of a stream: something, with a newline at its end only. -/
def IsChunk (chunk : PyText) : Prop := chunk ≠ [] ∧ newline ∉ chunk.dropLast

/-- The loop frames the lines of what is open and of the chunks to come. -/
theorem frameChunks_eq {chunks : List PyText} (hchunks : ∀ chunk ∈ chunks, IsChunk chunk)
    {buffer : LineBuffer} {start : PyText} (hholds : buffer.Holds start)
    (hpieces : [] ∉ buffer.current) (hfree : newline ∉ start) :
    frameChunks buffer chunks =
      (splitLines newline (start ++ chunks.flatten)).map framed := by
  induction chunks generalizing buffer start with
  | nil =>
    rw [List.flatten_nil, List.append_nil, splitLines_of_free newline hfree, frameChunks]
    have hopen := hholds.open_iff hpieces
    by_cases hstart : start = []
    · rw [if_pos hstart, if_neg (fun hor => hopen.mp hor hstart), List.map_nil]
    · rw [if_neg hstart, if_pos (hopen.mpr hstart), hholds.line_eq, List.map_singleton]
  | cons chunk rest ih =>
    obtain ⟨hsome, hbody⟩ := hchunks chunk List.mem_cons_self
    have hrest : ∀ other ∈ rest, IsChunk other := fun other hother =>
      hchunks other (List.mem_cons_of_mem _ hother)
    have hlast := List.dropLast_append_getLast hsome
    rw [frameChunks, List.flatten_cons]
    split_ifs with hended
    · have hnewline : chunk.getLast hsome = newline := by
        rw [List.getLast?_eq_some_getLast hsome] at hended
        exact Option.some.inj hended
      rw [hnewline] at hlast
      have hline : newline ∉ start ++ chunk.dropLast := by
        rw [List.mem_append]
        exact fun hor => hor.elim hfree hbody
      have hsplit : start ++ (chunk ++ rest.flatten) =
          (start ++ chunk.dropLast) ++ newline :: rest.flatten := by
        nth_rewrite 1 [← hlast]
        simp
      rw [hsplit, splitLines_cons newline hline, List.map_cons, (hholds.add _).line_eq,
        ih hrest holds_empty List.not_mem_nil List.not_mem_nil, List.nil_append]
    · have hwhole : newline ∉ chunk := by
        intro hmem
        rw [← hlast] at hmem
        rcases List.mem_append.mp hmem with hmem | hmem
        · exact hbody hmem
        · rw [List.getLast?_eq_some_getLast hsome, List.mem_singleton.mp hmem] at hended
          exact hended rfl
      have hpieces' : [] ∉ (buffer.add chunk).current := by
        unfold LineBuffer.add
        split_ifs
        · exact hpieces
        · exact List.not_mem_nil
        · rw [List.mem_append, List.mem_singleton]
          exact fun hor => hor.elim hpieces fun hnil => hsome hnil.symm
      have hfree' : newline ∉ start ++ chunk := by
        rw [List.mem_append]
        exact fun hor => hor.elim hfree hwhole
      rw [ih hrest (hholds.add chunk) hpieces' hfree', List.append_assoc]

/-- A stream is read in chunks that make it up. -/
theorem streamChunks_spec {limit : Nat} (hlimit : 0 < limit) (text : PyText) :
    (streamChunks limit text).flatten = text ∧
      ∀ chunk ∈ streamChunks limit text, IsChunk chunk ∧ chunk.length ≤ limit := by
  induction text using streamChunks.induct limit with
  | case1 text hempty =>
    rw [streamChunks, dif_pos hempty]
    rw [readline_eq_nil newline hlimit] at hempty
    exact ⟨hempty.symm, fun chunk hchunk => (List.not_mem_nil hchunk).elim⟩
  | case2 text hsome ih =>
    rw [streamChunks, dif_neg hsome]
    obtain ⟨hflatten, hchunks⟩ := ih
    refine ⟨?_, ?_⟩
    · obtain ⟨rest, hrest⟩ := readline_extends newline text limit
      have hdrop : text.drop (readline newline text limit).length = rest :=
        List.append_cancel_left ((List.prefix_iff_eq_append.mp ⟨rest, hrest⟩).trans hrest.symm)
      rw [List.flatten_cons, hflatten, hdrop, hrest]
    · intro chunk hchunk
      rcases List.mem_cons.mp hchunk with rfl | hchunk
      · exact ⟨⟨hsome, free_dropLast_readline newline text limit⟩,
          length_readline_le newline text limit⟩
      · exact hchunks chunk hchunk

theorem frameChunks_streamChunks {limit : Nat} (hlimit : 0 < limit) (text : PyText) :
    frameChunks {} (streamChunks limit text) = (splitLines newline text).map framed := by
  obtain ⟨hflatten, hchunks⟩ := streamChunks_spec hlimit text
  have hframed := frameChunks_eq (fun chunk hchunk => (hchunks chunk hchunk).1) holds_empty
    List.not_mem_nil List.not_mem_nil
  rwa [List.nil_append, hflatten] at hframed

/-- What a line is framed to says whether it fits, and is the line when it does. -/
theorem framed_spec (line : PyText) :
    ((framed line).2 = true ↔ ¬ Fits line) ∧ ((framed line).2 = false → (framed line).1 = line) := by
  unfold framed
  split_ifs with hfits
  · simp [hfits]
  · simp [hfits]

/-- **Bounded framing.**  A stream is framed into one item for each line, and into what
    that line is framed on its own, whatever the size of the chunks. -/
theorem boundedLines_eq_splitLines (text : PyText) :
    boundedLines text = (splitLines newline text).map framed ∧
      (∀ line, ((framed line).2 = true ↔ ¬ Fits line) ∧
        ((framed line).2 = false → (framed line).1 = line)) ∧
      ∀ limit, 0 < limit → frameChunks {} (streamChunks limit text) = boundedLines text := by
  have hframed := frameChunks_streamChunks (by decide : 0 < readLimit) text
  refine ⟨hframed, framed_spec, fun limit hlimit => ?_⟩
  exact (frameChunks_streamChunks hlimit text).trans hframed.symm

end CodexMustWork.McpStdio
