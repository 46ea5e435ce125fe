import CodexMustWork.RolloutReading

/-!
# Opting in at any byte

`initial_cursor` takes the size of the rollout at some instant, whatever Codex
is writing then.  When that instant falls inside a line, the reader takes the
rest of the line for a line of its own.
-/

namespace CodexMustWork

open LineFraming

variable {ρ : Type}

/-- The rollout as it was when it had `instant` bytes. -/
def RolloutFile.at (history : RolloutFile) (instant : Nat) : RolloutFile :=
  { history with content := history.content.take instant }

/-- Opting in at `instant` leaves a rollout healthy: however it grows within `history` and
    whenever it is read, every read returns, and what the reads yield is exactly the
    complete lines that begin at that instant or later. -/
def ReadsFrom (format : RecordFormat ρ) (history : RolloutFile) (instant : Nat) : Prop :=
  ∀ chunks : List (List UInt8),
    history.content.take instant ++ chunks.flatten <+: history.content →
      (∃ batches,
        readAfterEach format (history.at instant) (initialCursor (history.at instant)) chunks =
          .ok batches ∧
        (linesBetween newline instant
            (lastCursor (initialCursor (history.at instant)) batches).offset
            history.content).mapM format.decodeRecord =
          .ok (batches.flatMap RecordBatch.records)) ∧
      Progresses format (history.at instant) (initialCursor (history.at instant)) chunks

/-- The instant falls between two lines, or inside one that is never completed. -/
def BetweenLines (history : RolloutFile) (instant : Nat) : Prop :=
  Whole newline (history.content.take instant) ∨ newline ∉ history.content.drop instant

/-- From `instant` on the reader accepts the text: it decodes every complete line, and no
    line, the last one included, is too large. -/
def ReadableFrom (format : RecordFormat ρ) (history : RolloutFile) (instant : Nat) : Prop :=
  Readable format (history.content.drop instant)

section OptIn

variable {format : RecordFormat ρ} {history : RolloutFile} {instant : Nat}

theorem RolloutFile.at_append (instant : Nat) :
    (history.at instant).append (history.content.drop instant) = history := by
  simp [RolloutFile.at, RolloutFile.append, List.take_append_drop]

theorem initialCursor_at (hinstant : instant ≤ history.content.length) :
    initialCursor (history.at instant) = ⟨history.device, history.fileId, instant⟩ := by
  simp [initialCursor, RolloutFile.at, hinstant]

/-- Between an instant and the beginning of a line lie the lines that begin there, if no
    earlier one is cut. -/
theorem linesBetween_instant {first : List UInt8} {file : RolloutFile} {start stop : Nat}
    (hextends : file.content <+: history.content) (hstop : stop ≤ file.content.length)
    (hstart : start ≤ stop) (hfirst : first = file.content.take start)
    (hwhole : Whole newline first) (hbetween : Whole newline (file.between start stop))
    (hinstant : instant ≤ first.length)
    (hbefore : ∀ placed ∈ placeLines 0 (lines newline first), placed.1 < instant) :
    linesBetween newline instant stop history.content =
      lines newline (file.between start stop) := by
  obtain ⟨rest, hrest⟩ := hextends
  have hlength : first.length + (file.between start stop).length = stop := by
    rw [hfirst, RolloutFile.between, List.length_take, List.length_take, List.length_drop]
    omega
  have hsplit : history.content =
      first ++ (file.between start stop ++ (file.content.drop stop ++ rest)) := by
    rw [← hrest, hfirst, ← List.append_assoc (file.between start stop),
      ← RolloutFile.drop_eq hstart, ← List.append_assoc, List.take_append_drop]
  have hlines := linesBetween_eq newline hwhole hbetween (file.content.drop stop ++ rest)
    hinstant hbefore
  rwa [hlength, ← hsplit] at hlines

/-! ### Instants that do no harm -/

/-- Between two lines the reader starts where a line starts. -/
theorem readsFrom_of_whole (hinstant : instant ≤ history.content.length)
    (hwhole : Whole newline (history.content.take instant))
    (hhistory : ReadableFrom format history instant) : ReadsFrom format history instant := by
  intro chunks hextends
  have hcursor := initialCursor_at hinstant
  have hstart : StartsLine 0 (history.at instant) (initialCursor (history.at instant)) := by
    rw [hcursor]
    refine ⟨rfl, rfl, Nat.zero_le _, ?_, ?_⟩
    · simp [RolloutFile.at, hinstant]
    · simpa [RolloutFile.at, List.take_take] using hwhole
  have hdrop : ((history.at instant).append chunks.flatten).content.drop instant =
      chunks.flatten := by
    have hlength : (history.content.take instant).length = instant := by simp [hinstant]
    change (history.content.take instant ++ chunks.flatten).drop instant = chunks.flatten
    rw [List.drop_append_of_le_length (by omega), List.drop_of_length_le (by omega),
      List.nil_append]
  have hgrown : chunks.flatten <+: history.content.drop instant := by
    obtain ⟨rest, hrest⟩ := hextends
    refine ⟨rest, ?_⟩
    rw [List.append_assoc] at hrest
    have hsplit := List.take_append_drop instant history.content
    exact List.append_cancel_left (hrest.trans hsplit.symm)
  have hreadable : Readable format (((history.at instant).append chunks.flatten).content.drop
      (initialCursor (history.at instant)).offset) := by
    rw [hcursor, hdrop]
    exact Readable.of_prefix hhistory hgrown
  obtain ⟨batches, hreads, hle, hlast, _, hdecode⟩ :=
    readAfterEach_of_readable hstart hreadable
  have hgrownStart := hstart.append chunks.flatten
  have hlines : linesBetween newline instant
      (lastCursor (initialCursor (history.at instant)) batches).offset history.content =
        lines newline (((history.at instant).append chunks.flatten).between
          (initialCursor (history.at instant)).offset
          (lastCursor (initialCursor (history.at instant)) batches).offset) := by
    apply linesBetween_instant hextends hlast.within hle rfl
      (by simpa using hgrownStart.whole)
      (hgrownStart.between_whole hlast hle)
    · rw [hcursor, List.length_take]
      have hwithin := hgrownStart.within
      rw [hcursor] at hwithin
      exact Nat.le_min.mpr ⟨Nat.le_refl _, hwithin⟩
    · intro placed hplaced
      have hbounds := placeLines_bounds (fun line hline => ne_nil_of_mem_lines newline hline)
        hplaced
      have hflatten : Whole newline (((history.at instant).append chunks.flatten).content.take
          (initialCursor (history.at instant)).offset) := by
        simpa using hgrownStart.whole
      rw [show (lines newline _).flatten = _ from hflatten, hcursor, List.length_take] at hbounds
      dsimp only at hbounds
      omega
  refine ⟨⟨batches, hreads, ?_⟩, progresses_of_readable hstart hreadable⟩
  rw [hlines]
  exact hdecode

/-- A line that is never completed is never read. -/
theorem readNewRecords_of_rest {file : RolloutFile} {cursor : RolloutCursor}
    (hdevice : file.device = cursor.device) (hfileId : file.fileId = cursor.fileId)
    (hwithin : cursor.offset ≤ file.content.length)
    (hfree : newline ∉ file.content.drop cursor.offset)
    (hlength : (file.content.drop cursor.offset).length ≤ maxLineBytes) :
    readNewRecords format file cursor = .ok ⟨[], cursor⟩ := by
  have hidentity : ¬ (file.device ≠ cursor.device ∨ file.fileId ≠ cursor.fileId ∨
      file.content.length < cursor.offset) := by
    rintro (hne | hne | hsize)
    · exact hne hdevice
    · exact hne hfileId
    · omega
  rw [readNewRecords, if_neg hidentity, readLoop_of_rest _ _ _ hfree hlength]

theorem readAfterEach_of_rest {file : RolloutFile} {cursor : RolloutCursor}
    {chunks : List (List UInt8)} (hdevice : file.device = cursor.device)
    (hfileId : file.fileId = cursor.fileId) (hwithin : cursor.offset ≤ file.content.length)
    (hfree : newline ∉ (file.append chunks.flatten).content.drop cursor.offset)
    (hlength : ((file.append chunks.flatten).content.drop cursor.offset).length ≤ maxLineBytes) :
    readAfterEach format file cursor chunks = .ok (chunks.map fun _ => ⟨[], cursor⟩) := by
  induction chunks generalizing file with
  | nil => rfl
  | cons chunk rest ih =>
      rw [List.flatten_cons, ← RolloutFile.append_append] at hfree hlength
      have hgrown : cursor.offset ≤ (file.append chunk).content.length := by
        simp only [RolloutFile.append, List.length_append]
        omega
      have hnow : (file.append chunk).content.drop cursor.offset <+:
          ((file.append chunk).append rest.flatten).content.drop cursor.offset := by
        rw [RolloutFile.append_drop hgrown]
        exact List.prefix_append _ _
      have hread : readNewRecords format (file.append chunk) cursor = .ok ⟨[], cursor⟩ :=
        readNewRecords_of_rest hdevice hfileId hgrown (fun hmem => hfree (hnow.subset hmem))
          (hnow.length_le.trans hlength)
      have hlater : readAfterEach format (file.append chunk) cursor rest =
          .ok (rest.map fun _ => ⟨[], cursor⟩) :=
        ih hdevice hfileId hgrown hfree hlength
      rw [readAfterEach, hread]
      dsimp only
      rw [hlater]
      rfl

theorem lastCursor_of_rest (cursor : RolloutCursor) (chunks : List (List UInt8)) :
    lastCursor cursor (chunks.map fun _ => (⟨[], cursor⟩ : RecordBatch ρ)) = cursor := by
  induction chunks with
  | nil => rfl
  | cons chunk rest ih => exact ih

/-- Inside a line that is never completed nothing is ever read. -/
theorem readsFrom_of_rest (hinstant : instant ≤ history.content.length)
    (hfree : newline ∉ history.content.drop instant)
    (hhistory : ReadableFrom format history instant) : ReadsFrom format history instant := by
  intro chunks hextends
  have hcursor := initialCursor_at hinstant
  have hlength : (history.content.take instant).length = instant := by simp [hinstant]
  have hrest : (history.content.drop instant).length ≤ maxLineBytes :=
    (readable_of_rest hfree).mp hhistory
  have hdrop : ∀ grown : List UInt8, history.content.take instant ++ grown <+: history.content →
      newline ∉ ((history.at instant).append grown).content.drop instant ∧
        (((history.at instant).append grown).content.drop instant).length ≤ maxLineBytes := by
    intro grown hgrown
    have hprefixDrop : ((history.at instant).append grown).content.drop instant <+:
        history.content.drop instant := hgrown.drop instant
    exact ⟨fun hmem => hfree (hprefixDrop.subset hmem), hprefixDrop.length_le.trans hrest⟩
  have hreads : ∀ grown : List (List UInt8),
      history.content.take instant ++ grown.flatten <+: history.content →
        readAfterEach format (history.at instant) ⟨history.device, history.fileId, instant⟩ grown =
          .ok (grown.map fun _ => ⟨[], ⟨history.device, history.fileId, instant⟩⟩) := by
    intro grown hgrown
    obtain ⟨hnone, hsmall⟩ := hdrop grown.flatten hgrown
    exact readAfterEach_of_rest rfl rfl (by simp [RolloutFile.at, hinstant]) hnone hsmall
  rw [hcursor]
  refine ⟨⟨_, hreads chunks hextends, ?_⟩, ?_⟩
  · rw [lastCursor_of_rest]
    have hnone : linesBetween newline instant instant history.content = [] := by
      rw [linesBetween, List.map_eq_nil_iff, List.filter_eq_nil_iff]
      intro placed _
      simp
    have hrecords : (chunks.map fun _ => (⟨[], ⟨history.device, history.fileId, instant⟩⟩ :
        RecordBatch ρ)).flatMap RecordBatch.records = [] := by
      rw [List.flatMap_map]
      simp
    rw [hnone, hrecords]
    rfl
  · rintro before chunk after rfl
    have hbefore : history.content.take instant ++ (before.flatten ++ chunk) <+:
        history.content := by
      refine List.IsPrefix.trans ?_ hextends
      simp [← List.append_assoc]
    have hfirst : history.content.take instant ++ before.flatten <+: history.content := by
      refine List.IsPrefix.trans ?_ hbefore
      simp [← List.append_assoc]
    obtain ⟨hnone, hsmall⟩ := hdrop (before.flatten ++ chunk) hbefore
    refine ⟨_, ⟨[], ⟨history.device, history.fileId, instant⟩⟩, hreads before hfirst, ?_, ?_⟩
    · rw [lastCursor_of_rest]
      refine readNewRecords_of_rest rfl rfl ?_ hnone hsmall
      simp [RolloutFile.at, RolloutFile.append, hinstant]
    · rw [lastCursor_of_rest]
      intro hmem
      exact absurd hmem hnone

/-! ### Instants that poison a rollout -/

/-- Inside a line that is completed later, the reader takes its rest for a line. -/
theorem not_readsFrom_of_cut (hinstant : instant ≤ history.content.length)
    (hcut : ¬ Whole newline (history.content.take instant))
    (hcompleted : newline ∈ history.content.drop instant) :
    ¬ ReadsFrom format history instant := by
  intro hreads
  have hcursor := initialCursor_at hinstant
  obtain ⟨⟨batches, hread, hrecords⟩, hprogress⟩ := hreads [history.content.drop instant] (by
    rw [List.flatten_singleton, List.take_append_drop])
  obtain ⟨_, batch, hnone, hbatch, hmore⟩ := hprogress [] _ [] rfl
  obtain rfl := Except.ok.inj hnone
  rw [hcursor] at hread hrecords hbatch hmore
  rw [List.flatten_nil, List.nil_append, RolloutFile.at_append] at hbatch hmore
  rw [readAfterEach, RolloutFile.at_append] at hread
  change readNewRecords format history ⟨history.device, history.fileId, instant⟩ = .ok batch
    at hbatch
  obtain ⟨_, hadvanced⟩ := hmore hcompleted
  rw [hbatch] at hread
  obtain rfl := Except.ok.inj hread
  obtain ⟨_, _, _, _, hle, hwithin, hwhole, hdecode, _⟩ := readNewRecords_eq_ok format hbatch
  change instant < batch.cursor.offset at hadvanced
  dsimp only at hle hwhole hdecode
  -- The first line read is the rest of a line that began earlier.
  cases hlines : lines newline (history.between instant batch.cursor.offset) with
  | nil =>
      rw [Whole, hlines, List.flatten_nil] at hwhole
      have hlength := congrArg List.length hwhole
      rw [RolloutFile.between, List.length_take, List.length_drop, List.length_nil] at hlength
      omega
  | cons line more =>
      obtain ⟨rest, hsplit, hmoreLines, hline, hne⟩ := lines_eq_cons newline hlines
      obtain ⟨hstartSplit, hstartFree⟩ :=
        lines_unterminated newline (history.content.take instant)
      have hstartLines := lines_flatten newline (history.content.take instant)
      have hstartWhole := whole_flatten_lines newline (history.content.take instant)
      have hstartRest : unterminated newline (history.content.take instant) ≠ [] :=
        fun hnil => hcut ((whole_iff_unterminated newline).mpr hnil)
      revert hstartSplit hstartFree hstartLines hstartWhole hstartRest
      generalize (lines newline (history.content.take instant)).flatten = before
      generalize unterminated newline (history.content.take instant) = cut
      intro hstartSplit hstartFree hstartLines hstartWhole hcutNe
      have hlineWhole : Whole newline line := by
        rw [Whole, hline, List.flatten_singleton]
      have hjoined : lines newline (cut ++ line) = [cut ++ line] :=
        lines_free_append newline hstartFree hline
      have hjoinedWhole : Whole newline (cut ++ line) := by
        rw [Whole, hjoined, List.flatten_singleton]
      have hlength : line.length + rest.length = batch.cursor.offset - instant := by
        rw [← List.length_append, ← hsplit, RolloutFile.between, List.length_take,
          List.length_drop]
        omega
      have hmiddle : instant + line.length ≤ batch.cursor.offset := by omega
      have hparts : history.between instant (instant + line.length) = line ∧
          history.between (instant + line.length) batch.cursor.offset = rest := by
        have happend := RolloutFile.between_append_between (Nat.le_add_right _ _) hmiddle history
        rw [hsplit] at happend
        apply List.append_inj happend
        rw [RolloutFile.between, List.length_take, List.length_drop]
        omega
      have hfirst : before ++ (cut ++ line) = history.content.take (instant + line.length) := by
        rw [← List.append_assoc, hstartSplit, List.take_add]
        congr 1
        rw [← hparts.1, RolloutFile.between, Nat.add_sub_cancel_left]
        simp
      have hrestWhole : Whole newline rest := by
        rw [hsplit, whole_iff_unterminated, unterminated_append newline hlineWhole,
          ← whole_iff_unterminated] at hwhole
        exact hwhole
      have hbeforeLength : before.length + cut.length = instant := by
        rw [← List.length_append, hstartSplit, List.length_take]
        omega
      have hcutLength : 0 < cut.length := List.length_pos_iff.mpr hcutNe
      have hwanted : linesBetween newline instant batch.cursor.offset history.content = more := by
        rw [hmoreLines, ← hparts.2]
        apply linesBetween_instant List.prefix_rfl hwithin hmiddle hfirst
          (hstartWhole.append newline hjoinedWhole) (hparts.2 ▸ hrestWhole)
        · simp only [List.length_append]
          omega
        · intro placed hplaced
          rw [lines_append newline hstartWhole, hjoined, placeLines_append, hstartWhole] at hplaced
          rcases List.mem_append.mp hplaced with hplaced | hplaced
          · have hbounds := placeLines_bounds
              (fun item hitem => ne_nil_of_mem_lines newline hitem) hplaced
            rw [show (lines newline before).flatten = before from hstartWhole] at hbounds
            omega
          · obtain rfl := List.mem_singleton.mp hplaced
            dsimp only
            omega
      have hyielded := (Traversal.forall₂_of_mapM hrecords).length_eq.symm
      have hread := (Traversal.forall₂_of_mapM hdecode).length_eq.symm
      change (linesBetween newline instant batch.cursor.offset history.content).mapM _ = _
        at hrecords
      rw [hlines] at hread
      rw [show lastCursor ⟨history.device, history.fileId, instant⟩ [batch] = batch.cursor from rfl,
        hwanted] at hyielded
      simp only [List.flatMap_cons, List.flatMap_nil, List.append_nil, List.length_cons] at *
      omega

/-- A read that returns before something it does not accept has taken a line. -/
theorem readNewRecords_advances {cursor : RolloutCursor} {batch : RecordBatch ρ}
    (hread : readNewRecords format history cursor = .ok batch)
    (hunreadable : ¬ ReadableFrom format history cursor.offset) :
    cursor.offset < batch.cursor.offset := by
  rw [readNewRecords] at hread
  split_ifs at hread
  cases hloop : readLoop format maxBatchRecords 0 cursor.offset
      (history.content.drop cursor.offset) with
  | error failure => simp [hloop] at hread
  | ok result =>
      obtain ⟨records, next⟩ := result
      simp only [hloop, Except.ok.injEq] at hread
      subst hread
      change cursor.offset < next
      cases hlines : lines newline (history.content.drop cursor.offset) with
      | nil =>
          have hfree := (lines_eq_nil newline).mp hlines
          have hlarge : maxLineBytes < (history.content.drop cursor.offset).length :=
            Nat.not_le.mp fun hle => hunreadable ((readable_of_rest hfree).mpr hle)
          rw [show maxBatchRecords = 511 + 1 from rfl,
            readLoop_of_largeRest 511 0 cursor.offset hfree hlarge] at hloop
          cases hloop
      | cons line more =>
          obtain ⟨_, _, _, _, hne⟩ := lines_eq_cons newline hlines
          have hpositive : 0 < line.length := List.length_pos_iff.mpr hne
          by_cases hlength : line.length ≤ maxLineBytes
          · have hroom : ¬ maxBatchBytes < 0 + line.length := by
              rw [Nat.zero_add]
              exact Nat.not_lt.mpr hlength
            rw [show maxBatchRecords = 511 + 1 from rfl,
              readLoop_of_line 511 0 cursor.offset hlines hlength, if_neg hroom] at hloop
            cases hrecord : format.decodeRecord line with
            | error failure =>
                rw [hrecord] at hloop
                cases hloop
            | ok record =>
                rw [hrecord] at hloop
                dsimp only at hloop
                cases hrest : readLoop format 511 (0 + line.length) (cursor.offset + line.length)
                    ((history.content.drop cursor.offset).drop line.length) with
                | error failure =>
                    rw [hrest] at hloop
                    cases hloop
                | ok result =>
                    obtain ⟨others, last⟩ := result
                    simp only [hrest, Except.ok.injEq, Prod.mk.injEq] at hloop
                    have hle := readLoop_offset_le _ _ _ hrest
                    omega
          · rw [show maxBatchRecords = 511 + 1 from rfl,
              readLoop_of_largeLine 511 0 cursor.offset hlines (Nat.not_le.mp hlength)] at hloop
            cases hloop

/-- Reads that go on reach what the reader does not accept, wherever it is. -/
theorem readAfterEach_reaches_unreadable {cursor : RolloutCursor}
    (hstart : StartsLine 0 history cursor)
    (hunreadable : ¬ ReadableFrom format history cursor.offset) :
    ∃ reads, ∀ batches,
      readAfterEach format history cursor (List.replicate reads []) ≠ .ok batches := by
  -- By induction on what is left to read.
  induction hunread : (history.content.drop cursor.offset).length using Nat.strong_induction_on
    generalizing cursor with
  | _ unread ih =>
      have hself : history.append [] = history := by
        simp [RolloutFile.append]
      cases hread : readNewRecords format history cursor with
      | error failure =>
          refine ⟨1, fun batches => ?_⟩
          rw [List.replicate_one, readAfterEach, hself, hread]
          rintro ⟨⟩
      | ok batch =>
          obtain ⟨_, _, hbatchDevice, hbatchFile, hle, hwithin, hwhole, hdecode, hbounded⟩ :=
            readNewRecords_eq_ok format hread
          have hbatch := hstart.next hbatchDevice hbatchFile hle hwithin hwhole
          have hadvanced := readNewRecords_advances hread hunreadable
          have hshorter : (history.content.drop batch.cursor.offset).length < unread := by
            rw [← hunread, List.length_drop, List.length_drop]
            have hinside := hstart.within
            omega
          have hstillUnreadable : ¬ ReadableFrom format history batch.cursor.offset := by
            intro hreadable
            apply hunreadable
            rw [ReadableFrom, RolloutFile.drop_eq hle]
            exact Readable.append hwhole (decodes_of_decodeLines hdecode) hbounded hreadable
          obtain ⟨reads, hreads⟩ := ih _ hshorter hbatch hstillUnreadable rfl
          refine ⟨reads + 1, fun batches => ?_⟩
          rw [List.replicate_succ, readAfterEach, hself, hread]
          dsimp only
          cases hmore : readAfterEach format history batch.cursor (List.replicate reads []) with
          | error failure => rintro ⟨⟩
          | ok more => exact absurd hmore (hreads more)

theorem not_readsFrom_of_unreadable (hinstant : instant ≤ history.content.length)
    (hwhole : Whole newline (history.content.take instant))
    (hunreadable : ¬ ReadableFrom format history instant) :
    ¬ ReadsFrom format history instant := by
  intro hreads
  have hcursor := initialCursor_at hinstant
  have hstart : StartsLine 0 history ⟨history.device, history.fileId, instant⟩ :=
    ⟨rfl, rfl, Nat.zero_le _, hinstant, by simpa using hwhole⟩
  obtain ⟨reads, hnever⟩ := readAfterEach_reaches_unreadable hstart hunreadable
  cases reads with
  | zero => exact hnever [] rfl
  | succ reads =>
      obtain ⟨⟨batches, hread, _⟩, _⟩ :=
        hreads (history.content.drop instant :: List.replicate reads []) (by simp)
      rw [hcursor, readAfterEach, RolloutFile.at_append] at hread
      have hself : history.append [] = history := by
        simp [RolloutFile.append]
      apply hnever batches
      rw [List.replicate_succ, readAfterEach, hself]
      exact hread

/-- A last line that is too large is refused although it is never completed. -/
theorem not_readsFrom_of_largeRest (hinstant : instant ≤ history.content.length)
    (hfree : newline ∉ history.content.drop instant)
    (hunreadable : ¬ ReadableFrom format history instant) :
    ¬ ReadsFrom format history instant := by
  intro hreads
  have hcursor := initialCursor_at hinstant
  obtain ⟨⟨batches, hread, _⟩, _⟩ := hreads [history.content.drop instant] (by simp)
  have hlarge : maxLineBytes < (history.content.drop instant).length :=
    Nat.not_le.mp fun hle => hunreadable ((readable_of_rest hfree).mpr hle)
  have hrejected : readNewRecords format history ⟨history.device, history.fileId, instant⟩ =
      .error (.rolloutCorrupt .lineTooLarge) := by
    rw [readNewRecords, if_neg (by simpa using hinstant),
      show maxBatchRecords = 511 + 1 from rfl, readLoop_of_largeRest 511 0 instant hfree hlarge]
  rw [hcursor, readAfterEach, RolloutFile.at_append, hrejected] at hread
  cases hread

/-- **When opting in does no harm**: exactly between two lines, or inside a line that is
    never completed, and with nothing from there on that the reader does not accept. -/
theorem readsFrom_iff (hinstant : instant ≤ history.content.length) :
    ReadsFrom format history instant ↔
      BetweenLines history instant ∧ ReadableFrom format history instant := by
  by_cases hwhole : Whole newline (history.content.take instant)
  · by_cases hreadable : ReadableFrom format history instant
    · exact ⟨fun _ => ⟨Or.inl hwhole, hreadable⟩,
        fun _ => readsFrom_of_whole hinstant hwhole hreadable⟩
    · exact ⟨fun hreads => absurd hreads
        (not_readsFrom_of_unreadable hinstant hwhole hreadable),
        fun hcondition => absurd hcondition.2 hreadable⟩
  · by_cases hcompleted : newline ∈ history.content.drop instant
    · refine ⟨fun hreads => absurd hreads (not_readsFrom_of_cut hinstant hwhole hcompleted), ?_⟩
      rintro ⟨hline | hfree, _⟩
      · exact absurd hline hwhole
      · exact absurd hcompleted hfree
    · by_cases hreadable : ReadableFrom format history instant
      · exact ⟨fun _ => ⟨Or.inr hcompleted, hreadable⟩,
          fun _ => readsFrom_of_rest hinstant hcompleted hreadable⟩
      · exact ⟨fun hreads => absurd hreads
          (not_readsFrom_of_largeRest hinstant hcompleted hreadable),
          fun hcondition => absurd hcondition.2 hreadable⟩

end OptIn

theorem readsFrom_iff_sample :
    ReadsFrom sampleFormat (sampleRollout sampleLine) 3 ↔
      BetweenLines (sampleRollout sampleLine) 3 ∧
        ReadableFrom sampleFormat (sampleRollout sampleLine) 3 :=
  readsFrom_iff (by decide)

/-- Opting in after the first byte of the only line: the rest of that line is no record. -/
theorem optIn_inside_line :
    (∀ line ∈ lines newline (sampleRollout sampleLine).content,
      ∃ record, sampleFormat.decodeRecord line = .ok record) ∧
    initialCursor ((sampleRollout sampleLine).at 1) = ⟨0, 0, 1⟩ ∧
    readNewRecords sampleFormat (sampleRollout sampleLine) ⟨0, 0, 1⟩ =
      .error (.rolloutCorrupt .invalidJson) ∧
    ¬ ReadsFrom sampleFormat (sampleRollout sampleLine) 1 := by
  refine ⟨readable_sampleLine.decodes, rfl, rfl, not_readsFrom_of_cut (by decide) ?_ (by decide)⟩
  rw [whole_iff_unterminated]
  decide

end CodexMustWork
