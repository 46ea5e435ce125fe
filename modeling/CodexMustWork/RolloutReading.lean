import CodexMustWork.WatcherSource

/-!
# Incremental reading of a growing rollout

Codex appends to a rollout while the watcher reads it, each read from the cursor
of the one before.  From the beginning of a line the reads cut the text as
reading it whole would: no record is lost, repeated or reordered, and no read
that finds a complete line comes back empty.
-/

namespace CodexMustWork

open LineFraming

variable {ρ : Type}

/-! ### Readable text -/

/-- A text the reader accepts: every complete line is decoded, and no line, the
    unterminated one included, is too large. -/
structure Readable (format : RecordFormat ρ) (text : List UInt8) : Prop where
  decodes : ∀ line ∈ lines newline text, ∃ record, format.decodeRecord line = .ok record
  bounded : ∀ line ∈ lines newline text, line.length ≤ maxLineBytes
  rest : (unterminated newline text).length ≤ maxLineBytes

namespace Readable

variable {format : RecordFormat ρ}

/-- What was readable before the text grew. -/
theorem of_prefix {text grown : List UInt8} (hreadable : Readable format grown)
    (hextends : text <+: grown) : Readable format text := by
  obtain ⟨hlines, hrest⟩ := lines_of_prefix newline hextends
  refine ⟨fun line hline => hreadable.decodes line (hlines.subset hline),
    fun line hline => hreadable.bounded line (hlines.subset hline), ?_⟩
  rcases hrest with hrest | ⟨line, hline, hrest⟩
  · exact hrest.length_le.trans hreadable.rest
  · exact hrest.length_le.trans (hreadable.bounded line hline)

/-- What follows complete lines. -/
theorem of_append {first second : List UInt8} (hwhole : Whole newline first)
    (hreadable : Readable format (first ++ second)) : Readable format second := by
  have hlines := lines_append newline hwhole second
  refine ⟨fun line hline => hreadable.decodes line ?_,
    fun line hline => hreadable.bounded line ?_, ?_⟩
  · rw [hlines]
    exact List.mem_append_right _ hline
  · rw [hlines]
    exact List.mem_append_right _ hline
  · have hrest := hreadable.rest
    rwa [unterminated_append newline hwhole] at hrest

/-- Complete lines before a readable text. -/
theorem append {first second : List UInt8} (hwhole : Whole newline first)
    (hdecodes : ∀ line ∈ lines newline first, ∃ record, format.decodeRecord line = .ok record)
    (hbounded : ∀ line ∈ lines newline first, line.length ≤ maxLineBytes)
    (hreadable : Readable format second) : Readable format (first ++ second) := by
  have hlines := lines_append newline hwhole second
  refine ⟨?_, ?_, ?_⟩
  · intro line hline
    rw [hlines] at hline
    rcases List.mem_append.mp hline with hline | hline
    · exact hdecodes line hline
    · exact hreadable.decodes line hline
  · intro line hline
    rw [hlines] at hline
    rcases List.mem_append.mp hline with hline | hline
    · exact hbounded line hline
    · exact hreadable.bounded line hline
  · rw [unterminated_append newline hwhole]
    exact hreadable.rest

end Readable

/-- A text without a complete line is readable unless it is too large. -/
theorem readable_of_rest {format : RecordFormat ρ} {text : List UInt8}
    (hfree : newline ∉ text) : Readable format text ↔ text.length ≤ maxLineBytes := by
  have hlines := (lines_eq_nil newline).mpr hfree
  have hrest : unterminated newline text = text := by
    rw [unterminated, hlines, List.flatten_nil, List.length_nil, List.drop_zero]
  constructor
  · intro hreadable
    simpa only [hrest] using hreadable.rest
  · intro hlength
    refine ⟨?_, ?_, hrest.symm ▸ hlength⟩
    · rw [hlines]
      exact fun _ hline => absurd hline List.not_mem_nil
    · rw [hlines]
      exact fun _ hline => absurd hline List.not_mem_nil

/-- The lines of a decoded text are decoded. -/
theorem decodes_of_decodeLines {format : RecordFormat ρ} {text : List UInt8} {records : List ρ}
    (hdecode : decodeLines format text = .ok records) :
    ∀ line ∈ lines newline text, ∃ record, format.decodeRecord line = .ok record := by
  intro line hline
  obtain ⟨record, _, hrecord⟩ := Traversal.exists_result (Traversal.forall₂_of_mapM hdecode) hline
  exact ⟨record, hrecord⟩

/-! ### One read -/

section Loop

variable {format : RecordFormat ρ} (budget sourceBytes offset : Nat) {unread : List UInt8}

/-- A line still being written is left alone. -/
theorem readLoop_of_rest (hfree : newline ∉ unread) (hlength : unread.length ≤ maxLineBytes) :
    readLoop format budget sourceBytes offset unread = .ok ([], offset) := by
  cases budget with
  | zero => rfl
  | succ budget =>
      have hread : readline newline unread (maxLineBytes + 1) = unread := by
        rw [readline_of_free newline hfree]
        exact List.take_of_length_le (by omega)
      rw [readLoop, hread]
      split_ifs with hempty hlarge hpartial
      · rfl
      · omega
      · rfl
      · rfl
      · exfalso
        have hended : unread.getLast? = some newline := by simpa using hpartial
        exact hfree (List.mem_of_getLast? hended)

/-- Unless it is too large already. -/
theorem readLoop_of_largeRest (hfree : newline ∉ unread) (hlength : maxLineBytes < unread.length) :
    readLoop format (budget + 1) sourceBytes offset unread = .error (.rolloutCorrupt .lineTooLarge) := by
  have hread : (readline newline unread (maxLineBytes + 1)).length = maxLineBytes + 1 := by
    rw [readline_of_free newline hfree, List.length_take]
    omega
  have hne : readline newline unread (maxLineBytes + 1) ≠ [] := by
    intro heq
    rw [heq] at hread
    cases hread
  rw [readLoop, if_neg hne, if_pos (by omega)]

theorem readLoop_of_largeLine {line : List UInt8} {more : List (List UInt8)}
    (hlines : lines newline unread = line :: more) (hlength : maxLineBytes < line.length) :
    readLoop format (budget + 1) sourceBytes offset unread = .error (.rolloutCorrupt .lineTooLarge) := by
  have hread : (readline newline unread (maxLineBytes + 1)).length = maxLineBytes + 1 := by
    rw [readline_of_lines newline hlines, List.length_take]
    omega
  have hne : readline newline unread (maxLineBytes + 1) ≠ [] := by
    intro heq
    rw [heq] at hread
    cases hread
  rw [readLoop, if_neg hne, if_pos (by omega)]

/-- A complete line is taken when the batch has room for it. -/
theorem readLoop_of_line {line : List UInt8} {more : List (List UInt8)}
    (hlines : lines newline unread = line :: more) (hlength : line.length ≤ maxLineBytes) :
    readLoop format (budget + 1) sourceBytes offset unread =
      if maxBatchBytes < sourceBytes + line.length then .ok ([], offset)
      else
        match format.decodeRecord line with
        | .error failure => .error failure
        | .ok record =>
            match readLoop format budget (sourceBytes + line.length) (offset + line.length)
                (unread.drop line.length) with
            | .error failure => .error failure
            | .ok (records, next) => .ok (record :: records, next) := by
  obtain ⟨_, _, _, hline, hne⟩ := lines_eq_cons newline hlines
  have hread : readline newline unread (maxLineBytes + 1) = line := by
    rw [readline_of_lines newline hlines]
    exact List.take_of_length_le (by omega)
  have hended := getLast?_of_lines newline hline
  rw [readLoop, hread, if_neg hne, if_neg (by omega)]
  exact if_neg (not_not.mpr hended)

theorem readLoop_offset_le {records : List ρ} {next : Nat}
    (hloop : readLoop format budget sourceBytes offset unread = .ok (records, next)) :
    offset ≤ next := by
  obtain ⟨consumed, _, hnext, _⟩ := readLoop_eq_ok format hloop
  omega

/-- The loop returns on a readable text, and with room left it takes the first line. -/
theorem readLoop_of_readable (hreadable : Readable format unread) :
    ∃ records next, readLoop format budget sourceBytes offset unread = .ok (records, next) ∧
      ∀ line more, lines newline unread = line :: more → 0 < budget →
        sourceBytes + line.length ≤ maxBatchBytes → records ≠ [] ∧ offset < next := by
  induction budget generalizing sourceBytes offset unread with
  | zero => exact ⟨[], offset, rfl, fun _ _ _ hbudget => absurd hbudget (Nat.lt_irrefl 0)⟩
  | succ budget ih =>
      cases hlines : lines newline unread with
      | nil =>
          refine ⟨[], offset, ?_, fun _ _ heq => by cases heq⟩
          have hall : unterminated newline unread = unread := by
            simp [unterminated, hlines]
          apply readLoop_of_rest _ _ _ ((lines_eq_nil newline).mp hlines)
          rw [← hall]
          exact hreadable.rest
      | cons line more =>
          obtain ⟨rest, hsplit, _, hline, hne⟩ := lines_eq_cons newline hlines
          have hmem : line ∈ lines newline unread := hlines ▸ List.mem_cons_self ..
          have hwhole : Whole newline line := by
            rw [Whole, hline, List.flatten_singleton]
          have hrest : Readable format (unread.drop line.length) := by
            rw [hsplit, List.drop_left]
            exact Readable.of_append hwhole (hsplit ▸ hreadable)
          obtain ⟨record, hrecord⟩ := hreadable.decodes line hmem
          obtain ⟨records, next, hloop, _⟩ :=
            ih (sourceBytes + line.length) (offset + line.length) hrest
          have hle := readLoop_offset_le _ _ _ hloop
          have hpositive : 0 < line.length := List.length_pos_iff.mpr hne
          rw [readLoop_of_line _ _ _ hlines (hreadable.bounded line hmem)]
          split_ifs with hbatch
          · refine ⟨[], offset, rfl, ?_⟩
            intro first others heq _ hroom
            obtain ⟨rfl, _⟩ := List.cons.inj heq
            omega
          · rw [hrecord]
            dsimp only
            rw [hloop]
            exact ⟨record :: records, next, rfl, fun _ _ _ _ _ => ⟨by simp, by omega⟩⟩

end Loop

theorem RolloutFile.between_append_between {start middle stop : Nat} (hfirst : start ≤ middle)
    (hsecond : middle ≤ stop) (file : RolloutFile) :
    file.between start middle ++ file.between middle stop = file.between start stop := by
  unfold RolloutFile.between
  have hdrop : file.content.drop middle = (file.content.drop start).drop (middle - start) := by
    rw [List.drop_drop, Nat.add_sub_cancel' hfirst]
  have hsum : stop - start = (middle - start) + (stop - middle) := by omega
  rw [hdrop, hsum, List.take_add]

/-- The text before and after an offset. -/
theorem RolloutFile.drop_eq {file : RolloutFile} {start stop : Nat} (hle : start ≤ stop) :
    file.content.drop start = file.between start stop ++ file.content.drop stop := by
  unfold RolloutFile.between
  have hdrop : file.content.drop stop = (file.content.drop start).drop (stop - start) := by
    rw [List.drop_drop, Nat.add_sub_cancel' hle]
  rw [hdrop, List.take_append_drop]

/-- A cursor of a rollout to which complete lines lead from `base`.  From 0 this says that
    the cursor is at the beginning of a line. -/
structure StartsLine (base : Nat) (file : RolloutFile) (cursor : RolloutCursor) : Prop where
  device : file.device = cursor.device
  fileId : file.fileId = cursor.fileId
  after : base ≤ cursor.offset
  within : cursor.offset ≤ file.content.length
  whole : Whole newline (file.between base cursor.offset)

@[simp] theorem RolloutFile.between_zero (file : RolloutFile) (stop : Nat) :
    file.between 0 stop = file.content.take stop := by
  simp [RolloutFile.between]

/-- Complete lines from a cursor lead to the beginning of a line. -/
theorem StartsLine.next {base : Nat} {file : RolloutFile} {cursor next : RolloutCursor}
    (hstart : StartsLine base file cursor) (hdevice : next.device = cursor.device)
    (hfileId : next.fileId = cursor.fileId) (hle : cursor.offset ≤ next.offset)
    (hwithin : next.offset ≤ file.content.length)
    (hwhole : Whole newline (file.between cursor.offset next.offset)) :
    StartsLine base file next := by
  refine ⟨hstart.device.trans hdevice.symm, hstart.fileId.trans hfileId.symm,
    hstart.after.trans hle, hwithin, ?_⟩
  rw [← RolloutFile.between_append_between hstart.after hle]
  exact hstart.whole.append newline hwhole

/-- A read from the beginning of a line: it returns, comes back to the beginning of a
    line, and brings a record when there is a complete line. -/
theorem readNewRecords_of_readable {format : RecordFormat ρ} {base : Nat} {file : RolloutFile}
    {cursor : RolloutCursor} (hstart : StartsLine base file cursor)
    (hreadable : Readable format (file.content.drop cursor.offset)) :
    ∃ batch, readNewRecords format file cursor = .ok batch ∧ StartsLine base file batch.cursor ∧
      (newline ∈ file.content.drop cursor.offset →
        batch.records ≠ [] ∧ cursor.offset < batch.cursor.offset) := by
  obtain ⟨records, next, hloop, hprogress⟩ :=
    readLoop_of_readable maxBatchRecords 0 cursor.offset hreadable
  have hidentity : ¬ (file.device ≠ cursor.device ∨ file.fileId ≠ cursor.fileId ∨
      file.content.length < cursor.offset) := by
    rintro (hdevice | hfileId | hsize)
    · exact hdevice hstart.device
    · exact hfileId hstart.fileId
    · exact absurd hstart.within (Nat.not_le.mpr hsize)
  have hread : readNewRecords format file cursor =
      .ok ⟨records, { cursor with offset := next }⟩ := by
    rw [readNewRecords, if_neg hidentity, hloop]
  obtain ⟨_, _, _, _, hle, hwithin, hwhole, _⟩ := readNewRecords_eq_ok format hread
  refine ⟨_, hread, hstart.next rfl rfl hle hwithin hwhole, ?_⟩
  intro hmem
  cases hlines : lines newline (file.content.drop cursor.offset) with
  | nil => exact absurd hmem ((lines_eq_nil newline).mp hlines)
  | cons line more =>
      have hlength := hreadable.bounded line (hlines ▸ List.mem_cons_self ..)
      exact hprogress line more hlines (by decide) (by
        rw [Nat.zero_add]
        exact hlength)

/-! ### Reads of a growing rollout -/

/-- The rollout after Codex appended some bytes. -/
def RolloutFile.append (file : RolloutFile) (chunk : List UInt8) : RolloutFile :=
  { file with content := file.content ++ chunk }

theorem RolloutFile.append_append (file : RolloutFile) (first second : List UInt8) :
    (file.append first).append second = file.append (first ++ second) := by
  simp [RolloutFile.append]

/-- One read after each append, each from the cursor of the one before. -/
def readAfterEach (format : RecordFormat ρ) :
    RolloutFile → RolloutCursor → List (List UInt8) → Except ReadFailure (List (RecordBatch ρ))
  | _, _, [] => .ok []
  | file, cursor, chunk :: rest =>
      match readNewRecords format (file.append chunk) cursor with
      | .error failure => .error failure
      | .ok batch =>
          match readAfterEach format (file.append chunk) batch.cursor rest with
          | .error failure => .error failure
          | .ok batches => .ok (batch :: batches)

/-- The cursor after some reads. -/
def lastCursor (cursor : RolloutCursor) (batches : List (RecordBatch ρ)) : RolloutCursor :=
  batches.foldl (fun _ batch => batch.cursor) cursor

/-- A read returns with a record whenever there is a complete line after its cursor. -/
def Progresses (format : RecordFormat ρ) (file : RolloutFile) (cursor : RolloutCursor)
    (chunks : List (List UInt8)) : Prop :=
  ∀ before chunk after, chunks = before ++ chunk :: after →
    ∃ batches batch, readAfterEach format file cursor before = .ok batches ∧
      readNewRecords format (file.append (before.flatten ++ chunk)) (lastCursor cursor batches) =
        .ok batch ∧
      (newline ∈ (file.append (before.flatten ++ chunk)).content.drop
          (lastCursor cursor batches).offset →
        batch.records ≠ [] ∧ (lastCursor cursor batches).offset < batch.cursor.offset)

section Growing

variable {format : RecordFormat ρ} {base : Nat} {file : RolloutFile} {cursor : RolloutCursor}

theorem RolloutFile.append_drop (hwithin : cursor.offset ≤ file.content.length)
    (chunk : List UInt8) :
    (file.append chunk).content.drop cursor.offset =
      file.content.drop cursor.offset ++ chunk :=
  List.drop_append_of_le_length hwithin

/-- What is between two offsets does not change when the rollout grows. -/
theorem RolloutFile.append_between {start stop : Nat} (hle : start ≤ stop)
    (hwithin : stop ≤ file.content.length) (chunk : List UInt8) :
    (file.append chunk).between start stop = file.between start stop := by
  unfold RolloutFile.between RolloutFile.append
  dsimp only
  rw [List.drop_append_of_le_length (hle.trans hwithin), List.take_append_of_le_length]
  rw [List.length_drop]
  omega

/-- The beginning of a line stays one when the rollout grows. -/
theorem StartsLine.append (hstart : StartsLine base file cursor) (chunk : List UInt8) :
    StartsLine base (file.append chunk) cursor := by
  refine ⟨hstart.device, hstart.fileId, hstart.after, ?_, ?_⟩
  · have hwithin := hstart.within
    simp only [RolloutFile.append, List.length_append]
    omega
  · rw [RolloutFile.append_between hstart.after hstart.within]
    exact hstart.whole

/-- What is between two line beginnings is made of complete lines. -/
theorem StartsLine.between_whole {next : RolloutCursor} (hstart : StartsLine base file cursor)
    (hnext : StartsLine base file next) (hle : cursor.offset ≤ next.offset) :
    Whole newline (file.between cursor.offset next.offset) := by
  have hwhole := hnext.whole
  rw [← RolloutFile.between_append_between hstart.after hle, whole_iff_unterminated,
    unterminated_append newline hstart.whole,
    ← whole_iff_unterminated] at hwhole
  exact hwhole

/-- What is readable from a cursor is readable from every later line beginning. -/
theorem StartsLine.readable_of_le {next : RolloutCursor} (hstart : StartsLine base file cursor)
    (hnext : StartsLine base file next) (hle : cursor.offset ≤ next.offset)
    (hreadable : Readable format (file.content.drop cursor.offset)) :
    Readable format (file.content.drop next.offset) := by
  apply Readable.of_append (hstart.between_whole hnext hle)
  rwa [← RolloutFile.drop_eq hle]

/-- **Incremental reading is reading the whole.**  The reads return, and their records
    are those of the complete lines between the first and the last cursor. -/
theorem readAfterEach_of_readable {chunks : List (List UInt8)}
    (hstart : StartsLine base file cursor)
    (hreadable : Readable format ((file.append chunks.flatten).content.drop cursor.offset)) :
    ∃ batches, readAfterEach format file cursor chunks = .ok batches ∧
      cursor.offset ≤ (lastCursor cursor batches).offset ∧
      StartsLine base (file.append chunks.flatten) (lastCursor cursor batches) ∧
      (∀ batch ∈ batches, StartsLine base (file.append chunks.flatten) batch.cursor) ∧
      decodeLines format ((file.append chunks.flatten).between cursor.offset
          (lastCursor cursor batches).offset) = .ok (batches.flatMap RecordBatch.records) := by
  induction chunks generalizing file cursor with
  | nil =>
      have hempty : file.between cursor.offset cursor.offset = [] := by
        simp [RolloutFile.between]
      refine ⟨[], rfl, le_rfl, hstart.append [], by simp, ?_⟩
      change decodeLines format ((file.append []).between cursor.offset cursor.offset) = _
      rw [RolloutFile.append_between le_rfl hstart.within, hempty]
      rfl
  | cons chunk rest ih =>
      rw [List.flatten_cons, ← RolloutFile.append_append] at hreadable ⊢
      have hgrown := hstart.append chunk
      have hnow : Readable format ((file.append chunk).content.drop cursor.offset) := by
        apply hreadable.of_prefix
        rw [RolloutFile.append_drop hgrown.within]
        exact List.prefix_append _ _
      obtain ⟨batch, hread, hbatch, _⟩ := readNewRecords_of_readable hgrown hnow
      obtain ⟨_, _, _, _, hle, hwithin, hwhole, hdecode, _⟩ := readNewRecords_eq_ok format hread
      have hlater : Readable format
          (((file.append chunk).append rest.flatten).content.drop batch.cursor.offset) := by
        exact (hgrown.append rest.flatten).readable_of_le (hbatch.append rest.flatten) hle
          hreadable
      obtain ⟨batches, hreads, hlast, hlastStart, hstarts, hdecodes⟩ := ih hbatch hlater
      refine ⟨batch :: batches, ?_, ?_, hlastStart, ?_, ?_⟩
      · rw [readAfterEach, hread]
        dsimp only
        rw [hreads]
      · exact hle.trans hlast
      · intro item hitem
        rcases List.mem_cons.mp hitem with rfl | hitem
        · exact hbatch.append rest.flatten
        · exact hstarts item hitem
      · change decodeLines format (((file.append chunk).append rest.flatten).between
          cursor.offset (lastCursor batch.cursor batches).offset) = _
        rw [← RolloutFile.between_append_between hle hlast,
          RolloutFile.append_between hle hwithin, decodeLines_append format hwhole, hdecode,
          hdecodes]
        rfl

theorem progresses_of_readable {chunks : List (List UInt8)} (hstart : StartsLine base file cursor)
    (hreadable : Readable format ((file.append chunks.flatten).content.drop cursor.offset)) :
    Progresses format file cursor chunks := by
  rintro before chunk after rfl
  have hflatten : (before ++ chunk :: after).flatten =
      before.flatten ++ (chunk ++ after.flatten) := by simp
  rw [hflatten, ← RolloutFile.append_append] at hreadable
  have hbefore : Readable format
      ((file.append before.flatten).content.drop cursor.offset) := by
    apply hreadable.of_prefix
    rw [RolloutFile.append_drop (hstart.append _).within]
    exact List.prefix_append _ _
  obtain ⟨batches, hreads, hle, hlast, _, _⟩ := readAfterEach_of_readable hstart hbefore
  have hgrown : StartsLine base (file.append (before.flatten ++ chunk))
      (lastCursor cursor batches) := by
    rw [← RolloutFile.append_append]
    exact hlast.append chunk
  have hnow : Readable format
      ((file.append (before.flatten ++ chunk)).content.drop cursor.offset) := by
    apply hreadable.of_prefix
    rw [RolloutFile.append_append, ← List.append_assoc,
      ← RolloutFile.append_append file (before.flatten ++ chunk) after.flatten,
      RolloutFile.append_drop (hstart.append (before.flatten ++ chunk)).within]
    exact List.prefix_append _ _
  obtain ⟨batch, hread, _, hprogress⟩ := readNewRecords_of_readable hgrown
    ((hstart.append _).readable_of_le hgrown hle hnow)
  exact ⟨batches, batch, hreads, hread, hprogress⟩

/-- **The reads of a growing rollout.**  From the beginning of a line, for any appends
    between the reads, the records are those of the complete lines between the first and
    the last cursor, every cursor is at the beginning of a line, and no complete line is
    left waiting. -/
theorem readAfterEach_eq_whole {chunks : List (List UInt8)} (hstart : StartsLine 0 file cursor)
    (hreadable : Readable format ((file.append chunks.flatten).content.drop cursor.offset)) :
    (∃ batches, readAfterEach format file cursor chunks = .ok batches ∧
      (∀ batch ∈ batches, StartsLine 0 (file.append chunks.flatten) batch.cursor) ∧
      decodeLines format ((file.append chunks.flatten).between cursor.offset
          (lastCursor cursor batches).offset) = .ok (batches.flatMap RecordBatch.records)) ∧
      Progresses format file cursor chunks := by
  obtain ⟨batches, hreads, _, _, hstarts, hdecode⟩ := readAfterEach_of_readable hstart hreadable
  exact ⟨⟨batches, hreads, hstarts, hdecode⟩, progresses_of_readable hstart hreadable⟩

end Growing

/-! ### A format with one record -/

/-- The line of an empty object. -/
def sampleLine : List UInt8 := [123, 125, newline]

/-- A format that knows this line only. -/
def sampleFormat : RecordFormat Unit where
  loadLine line := if line = sampleLine then .ok (some ()) else .error .jsonDecodeError
  parseRolloutEvent _ := none

def sampleRollout (content : List UInt8) : RolloutFile := ⟨0, 0, content⟩

theorem startsLine_sample (content : List UInt8) :
    StartsLine 0 (sampleRollout content) ⟨0, 0, 0⟩ :=
  ⟨rfl, rfl, le_rfl, Nat.zero_le _, by simpa using whole_nil newline⟩

theorem readable_sampleLine : Readable sampleFormat sampleLine := by
  have hlines : lines newline sampleLine = [sampleLine] := by decide
  refine ⟨?_, ?_, ?_⟩
  · intro line hline
    rw [hlines] at hline
    obtain rfl := List.mem_singleton.mp hline
    exact ⟨(), rfl⟩
  · intro line hline
    rw [hlines] at hline
    obtain rfl := List.mem_singleton.mp hline
    decide
  · decide

theorem readAfterEach_eq_whole_sample :
    (∃ batches, readAfterEach sampleFormat (sampleRollout []) ⟨0, 0, 0⟩ [[123], [125, newline]] =
        .ok batches ∧
      (∀ batch ∈ batches, StartsLine 0 (sampleRollout sampleLine) batch.cursor) ∧
      decodeLines sampleFormat ((sampleRollout sampleLine).between 0
          (lastCursor ⟨0, 0, 0⟩ batches).offset) = .ok (batches.flatMap RecordBatch.records)) ∧
      Progresses sampleFormat (sampleRollout []) ⟨0, 0, 0⟩ [[123], [125, newline]] :=
  readAfterEach_eq_whole (startsLine_sample []) readable_sampleLine

/-- A line still being written is refused once it is too large, and with it the complete
    lines before it. -/
theorem readAfterEach_sample_largeRest {rest : List UInt8} (hfree : newline ∉ rest)
    (hlength : maxLineBytes < rest.length) :
    readAfterEach sampleFormat (sampleRollout []) ⟨0, 0, 0⟩ [sampleLine ++ rest] =
      .error (.rolloutCorrupt .lineTooLarge) := by
  have hline : lines newline sampleLine = [sampleLine] := by decide
  have hwhole : Whole newline sampleLine := by
    rw [Whole, hline, List.flatten_singleton]
  have hlines : lines newline (sampleLine ++ rest) = [sampleLine] := by
    rw [(lines_append_free newline hwhole hfree).1, hline]
  have hrest : readLoop sampleFormat 511 3 3 rest = .error (.rolloutCorrupt .lineTooLarge) :=
    readLoop_of_largeRest 510 3 3 hfree hlength
  have hloop : readLoop sampleFormat maxBatchRecords 0 0 (sampleLine ++ rest) =
      .error (.rolloutCorrupt .lineTooLarge) := by
    rw [show maxBatchRecords = 511 + 1 from rfl, readLoop_of_line 511 0 0 hlines (by decide),
      List.drop_left, if_neg (by decide),
      show sampleFormat.decodeRecord sampleLine = .ok () from rfl]
    dsimp only
    rw [show 0 + sampleLine.length = 3 from rfl, hrest]
  have hread : readNewRecords sampleFormat (sampleRollout (sampleLine ++ rest)) ⟨0, 0, 0⟩ =
      .error (.rolloutCorrupt .lineTooLarge) := by
    rw [readNewRecords, if_neg (by simp [sampleRollout])]
    dsimp only [sampleRollout]
    rw [List.drop_zero, hloop]
  have hgrown : (sampleRollout []).append (sampleLine ++ rest) =
      sampleRollout (sampleLine ++ rest) := rfl
  rw [readAfterEach, hgrown, hread]

theorem oversizeRest_rejected :
    (∀ line ∈ lines newline (sampleLine ++ List.replicate (maxLineBytes + 1) 123),
      line.length ≤ maxLineBytes ∧ sampleFormat.decodeRecord line = .ok ()) ∧
    newline ∈ sampleLine ++ List.replicate (maxLineBytes + 1) 123 ∧
    readAfterEach sampleFormat (sampleRollout []) ⟨0, 0, 0⟩
        [sampleLine ++ List.replicate (maxLineBytes + 1) 123] =
      .error (.rolloutCorrupt .lineTooLarge) := by
  have hline : lines newline sampleLine = [sampleLine] := by decide
  have hwhole : Whole newline sampleLine := by
    rw [Whole, hline, List.flatten_singleton]
  have hfree : newline ∉ List.replicate (maxLineBytes + 1) (123 : UInt8) :=
    fun hmem => absurd (List.eq_of_mem_replicate hmem) (by decide)
  refine ⟨?_, by simp [sampleLine],
    readAfterEach_sample_largeRest hfree (by rw [List.length_replicate]; exact Nat.lt_succ_self _)⟩
  intro line hmem
  rw [(lines_append_free newline hwhole hfree).1, hline] at hmem
  obtain rfl := List.mem_singleton.mp hmem
  exact ⟨by decide, rfl⟩

end CodexMustWork
