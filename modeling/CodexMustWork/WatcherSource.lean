import CodexMustWork.Library.LineFraming
import CodexMustWork.StateRoot
import CodexMustWork.WatcherEvents

/-!
# Bounded incremental reads of one rollout

`scripts/watcher_source.py` and `scripts/watcher_batch.py`: cursors, batches of
complete JSON lines, and the batch a tick reads without holding a lock.

What `json.loads` makes of one line and classifying one record
(`parse_rollout_event`) are parameters of the reader; everything it does with
bytes, offsets and exceptions is here.
-/

namespace CodexMustWork

open LineFraming

/-- Stable file identity plus the next unread byte. -/
structure RolloutCursor where
  device : Nat
  fileId : Nat
  offset : Nat
deriving DecidableEq, Repr

/-- A rollout as opening it shows it. -/
structure RolloutFile where
  device : Nat
  fileId : Nat
  content : List UInt8

inductive RolloutCorruptReason where
  | lineTooLarge
  | invalidJson
  | invalidTopLevel
deriving DecidableEq, Repr

/-- What ends a read: the two failures the watcher catches, and every other one. -/
inductive ReadFailure where
  | rolloutCorrupt (reasonCode : RolloutCorruptReason)
  | rolloutRotated
  | raised (failure : Failure)
deriving DecidableEq, Repr

/-- The exceptions of `line.decode("utf-8")` and `json.loads`.  `valueError` is the plain
    `ValueError` of an integer with too many digits, `recursionError` that of a value
    nested too deep. -/
inductive LoadError where
  | unicodeDecodeError
  | jsonDecodeError
  | nonFiniteNumberError
  | valueError
  | recursionError
deriving DecidableEq, Repr

/-- How one line is loaded, `none` for a value that is no object, and one record
    classified. -/
structure RecordFormat (ρ : Type) where
  loadLine : List UInt8 → Except LoadError (Option ρ)
  parseRolloutEvent : ρ → Option ObservedEvent

structure RecordBatch (ρ : Type) where
  records : List ρ
  cursor : RolloutCursor

/-- `b"\n"`. -/
def newline : UInt8 := 10

def maxLineBytes : Nat := 8 * 1048576

def maxBatchBytes : Nat := 8 * 1048576

def maxBatchRecords : Nat := 512

/-- Start at current EOF so history before opt-in is never replayed. -/
def initialCursor (file : RolloutFile) : RolloutCursor :=
  ⟨file.device, file.fileId, file.content.length⟩

variable {ρ : Type}

/-- The `except` arm of `_decode_record`: two exceptions of `json.loads` are not caught. -/
def loadFailure : LoadError → ReadFailure
  | .unicodeDecodeError | .jsonDecodeError | .nonFiniteNumberError => .rolloutCorrupt .invalidJson
  | .valueError => .raised .valueError
  | .recursionError => .raised .recursionError

/-- `_decode_record`. -/
def RecordFormat.decodeRecord (format : RecordFormat ρ) (line : List UInt8) :
    Except ReadFailure ρ :=
  match format.loadLine line with
  | .error error => .error (loadFailure error)
  | .ok none => .error (.rolloutCorrupt .invalidTopLevel)
  | .ok (some record) => .ok record

/-- What is decoded is what was loaded as an object. -/
theorem RecordFormat.decodeRecord_eq_ok {format : RecordFormat ρ} {line : List UInt8}
    {record : ρ} : format.decodeRecord line = .ok record ↔
      format.loadLine line = .ok (some record) := by
  unfold RecordFormat.decodeRecord
  cases hload : format.loadLine line with
  | error error => exact ⟨nofun, nofun⟩
  | ok loaded =>
      cases loaded with
      | none => exact ⟨nofun, nofun⟩
      | some found =>
          constructor
          · rintro ⟨⟩
            rfl
          · rintro ⟨⟩
            rfl

/-- The loop of `read_new_records` over the unread bytes, with the number of
    records it may still take. -/
def readLoop (format : RecordFormat ρ) :
    Nat → Nat → Nat → List UInt8 → Except ReadFailure (List ρ × Nat)
  | 0, _, offset, _ => .ok ([], offset)
  | budget + 1, sourceBytes, offset, unread =>
      let line := readline newline unread (maxLineBytes + 1)
      if line = [] then .ok ([], offset)
      else if maxLineBytes < line.length then .error (.rolloutCorrupt .lineTooLarge)
      else if line.getLast? ≠ some newline then .ok ([], offset)
      else if maxBatchBytes < sourceBytes + line.length then .ok ([], offset)
      else
        match format.decodeRecord line with
        | .error failure => .error failure
        | .ok record =>
            match readLoop format budget (sourceBytes + line.length) (offset + line.length)
                (unread.drop line.length) with
            | .error failure => .error failure
            | .ok (records, next) => .ok (record :: records, next)

/-- Decode complete new JSON lines without advancing across partial input. -/
def readNewRecords (format : RecordFormat ρ) (file : RolloutFile) (cursor : RolloutCursor) :
    Except ReadFailure (RecordBatch ρ) :=
  if file.device ≠ cursor.device ∨ file.fileId ≠ cursor.fileId ∨
      file.content.length < cursor.offset then
    .error .rolloutRotated
  else
    match readLoop format maxBatchRecords 0 cursor.offset (file.content.drop cursor.offset) with
    | .error failure => .error failure
    | .ok (records, next) => .ok ⟨records, { cursor with offset := next }⟩

/-! ### Cursor files -/

def cursorNumber (field : Field Int) (path : String) : Except Failure Nat :=
  match field with
  | .value number => if number < 0 then .error (invalidValue path) else .ok number.toNat
  | _ => .error (invalidValue path)

/-- Load a persisted cursor or return `none` before the first watcher pass. -/
def loadCursor (H : Digest) (root : StateRoot) (sessionId : String) :
    Except Failure (Option RolloutCursor) :=
  let path := sessionFilename H sessionId
  match root.cursors.lookup path with
  | none => .ok none
  | some (.error failure) => .error failure
  | some (.ok values) => do
      let device ← cursorNumber values.device path
      let fileId ← cursorNumber values.fileId path
      let offset ← cursorNumber values.offset path
      return some ⟨device, fileId, offset⟩

def cursorValues (cursor : RolloutCursor) : CursorValues :=
  ⟨.value cursor.device, .value cursor.fileId, .value cursor.offset⟩

/-- Persist the next unread byte.  A cursor file that does not load is never
    replaced. -/
def saveCursor (H : Digest) (fault : Option Failure) (root : StateRoot) (sessionId : String)
    (cursor : RolloutCursor) : StateRoot × Except Failure Unit :=
  let path := sessionFilename H sessionId
  match fault, root.cursors.lookup path with
  | some failure, _ => (root, .error failure)
  | none, some (.error failure) => (root, .error failure)
  | none, _ => (root.setCursor path (cursorValues cursor), .ok ())

/-! ### Batches -/

/-- One uncommitted cursor transition and its sanitized events. -/
structure TargetBatch where
  previousCursor : Option RolloutCursor
  nextCursor : RolloutCursor
  events : List ObservedEvent

/-- Read one bounded batch without changing persisted state.  `rollout` is what
    opening a path gives. -/
def readTargetBatch (H : Digest) (format : RecordFormat ρ)
    (rollout : String → Except Failure RolloutFile) (root : StateRoot) (target : RuntimeTarget) :
    Except ReadFailure TargetBatch :=
  match loadCursor H root target.sessionId with
  | .error failure => .error (.raised failure)
  | .ok cursor =>
      match rollout target.rolloutFile with
      | .error failure => .error (.raised failure)
      | .ok file =>
          match cursor with
          | none => .ok ⟨none, initialCursor file, []⟩
          | some cursor =>
              match readNewRecords format file cursor with
              | .error failure => .error failure
              | .ok batch =>
                  .ok ⟨some cursor, batch.cursor,
                    batch.records.filterMap format.parseRolloutEvent⟩

/-- Persist a cursor only after the matching runtime snapshot is revalidated. -/
def commitTargetCursor (H : Digest) (fault : Option Failure) (root : StateRoot)
    (target : RuntimeTarget) (batch : TargetBatch) : StateRoot × Except Failure Unit :=
  if batch.previousCursor = some batch.nextCursor then (root, .ok ())
  else saveCursor H fault root target.sessionId batch.nextCursor

/-! ### What a batch covers -/

/-- The records of the complete lines of a text. -/
def decodeLines (format : RecordFormat ρ) (text : List UInt8) :
    Except ReadFailure (List ρ) :=
  (lines newline text).mapM format.decodeRecord

@[simp] theorem decodeLines_nil (format : RecordFormat ρ) : decodeLines format [] = .ok [] := rfl

theorem decodeLines_append (format : RecordFormat ρ) {first : List UInt8}
    (hwhole : Whole newline first) (second : List UInt8) :
    decodeLines format (first ++ second) = do
      let records ← decodeLines format first
      let more ← decodeLines format second
      return records ++ more := by
  rw [decodeLines, lines_append newline hwhole, List.mapM_append]
  rfl

/-- A read that succeeds consumed whole lines, and returned their records in order. -/
theorem readLoop_eq_ok (format : RecordFormat ρ) {budget sourceBytes offset next : Nat}
    {unread : List UInt8} {records : List ρ}
    (hread : readLoop format budget sourceBytes offset unread = .ok (records, next)) :
    ∃ consumed, consumed <+: unread ∧ next = offset + consumed.length ∧
      Whole newline consumed ∧ decodeLines format consumed = .ok records ∧
      ∀ line ∈ lines newline consumed, line.length ≤ maxLineBytes := by
  induction budget generalizing sourceBytes offset unread records with
  | zero =>
      simp only [readLoop, Except.ok.injEq, Prod.mk.injEq] at hread
      obtain ⟨rfl, rfl⟩ := hread
      exact ⟨[], List.nil_prefix, rfl, whole_nil _, rfl, by simp⟩
  | succ budget ih =>
      have hstop : ([], offset) = (records, next) →
          ∃ consumed, consumed <+: unread ∧ next = offset + consumed.length ∧
            Whole newline consumed ∧ decodeLines format consumed = .ok records ∧
            ∀ line ∈ lines newline consumed, line.length ≤ maxLineBytes := by
        rintro ⟨⟩
        exact ⟨[], List.nil_prefix, rfl, whole_nil _, rfl, by simp⟩
      rw [readLoop] at hread
      split_ifs at hread with hempty hlarge hpartial hbatch
      · exact hstop (Except.ok.inj hread)
      · exact hstop (Except.ok.inj hread)
      · exact hstop (Except.ok.inj hread)
      · have hended : (readline newline unread (maxLineBytes + 1)).getLast? = some newline := by
          simpa using hpartial
        have hline := whole_readline newline hended
        obtain ⟨hsplit, _⟩ := lines_of_readline newline hended
        revert hread hsplit hline hlarge
        generalize readline newline unread (maxLineBytes + 1) = line
        intro hlarge hread hline hsplit
        cases hrecord : format.decodeRecord line with
        | error failure => simp [hrecord] at hread
        | ok record =>
            simp only [hrecord] at hread
            cases hrest : readLoop format budget (sourceBytes + line.length)
                (offset + line.length) (unread.drop line.length) with
            | error failure => simp [hrest] at hread
            | ok result =>
                obtain ⟨rest, last⟩ := result
                simp only [hrest, Except.ok.injEq, Prod.mk.injEq] at hread
                obtain ⟨rfl, rfl⟩ := hread
                obtain ⟨consumed, hextends, hlast, hwhole, hdecode, hbounded⟩ := ih hrest
                have hwholeLine : Whole newline line := by
                  unfold Whole
                  rw [hline, List.flatten_singleton]
                refine ⟨line ++ consumed, ?_, ?_, hwholeLine.append newline hwhole, ?_, ?_⟩
                · rw [hsplit]
                  exact (List.prefix_append_right_inj line).mpr hextends
                · rw [hlast, List.length_append, Nat.add_assoc]
                · have hfirst : decodeLines format line = .ok [record] := by
                    rw [decodeLines, hline, List.mapM_cons, hrecord]
                    rfl
                  rw [decodeLines_append format hwholeLine, hfirst, hdecode]
                  rfl
                · intro item hitem
                  rw [lines_append newline hwholeLine, hline] at hitem
                  rcases List.mem_append.mp hitem with hitem | hitem
                  · rw [List.mem_singleton.mp hitem]
                    exact Nat.not_lt.mp hlarge
                  · exact hbounded item hitem

/-- The bytes of a rollout between two offsets. -/
def RolloutFile.between (file : RolloutFile) (start stop : Nat) : List UInt8 :=
  (file.content.drop start).take (stop - start)

/-- A batch covers the bytes between its cursors: whole lines, whose records it
    returned in file order. -/
theorem readNewRecords_eq_ok (format : RecordFormat ρ) {file : RolloutFile}
    {cursor : RolloutCursor} {batch : RecordBatch ρ}
    (hread : readNewRecords format file cursor = .ok batch) :
    file.device = cursor.device ∧ file.fileId = cursor.fileId ∧
      batch.cursor.device = cursor.device ∧ batch.cursor.fileId = cursor.fileId ∧
      cursor.offset ≤ batch.cursor.offset ∧ batch.cursor.offset ≤ file.content.length ∧
      Whole newline (file.between cursor.offset batch.cursor.offset) ∧
      decodeLines format (file.between cursor.offset batch.cursor.offset) =
        .ok batch.records ∧
      ∀ line ∈ lines newline (file.between cursor.offset batch.cursor.offset),
        line.length ≤ maxLineBytes := by
  rw [readNewRecords] at hread
  split_ifs at hread with hidentity
  · push Not at hidentity
    obtain ⟨hdevice, hfileId, hsize⟩ := hidentity
    cases hloop : readLoop format maxBatchRecords 0 cursor.offset
        (file.content.drop cursor.offset) with
    | error failure => simp [hloop] at hread
    | ok result =>
        obtain ⟨records, next⟩ := result
        simp only [hloop, Except.ok.injEq] at hread
        subst hread
        obtain ⟨consumed, hextends, hnext, hwhole, hdecode, hbounded⟩ :=
          readLoop_eq_ok format hloop
        have hlength := hextends.length_le
        have hbetween : file.between cursor.offset next = consumed := by
          rw [RolloutFile.between, hnext, Nat.add_sub_cancel_left]
          exact (List.prefix_iff_eq_take.mp hextends).symm
        rw [List.length_drop] at hlength
        refine ⟨hdevice, hfileId, rfl, rfl, ?_, ?_, ?_, ?_, ?_⟩
        · exact hnext ▸ Nat.le_add_right _ _
        · change next ≤ file.content.length
          omega
        · exact hbetween.symm ▸ hwhole
        · exact hbetween.symm ▸ hdecode
        · exact hbetween.symm ▸ hbounded

end CodexMustWork
