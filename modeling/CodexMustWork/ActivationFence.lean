import CodexMustWork.Library.Machine
import CodexMustWork.RolloutReading
import Mathlib.Data.List.DropRight

/-!
# The fence of an activation

`scripts/activation_fence.py`: the turn in which a session is activated is found in the tail
of its rollout, and a handoff waits for its end.  The wait reads what is appended batch by
batch; a daemon that starts again reads the tail once more.  The two do not decide alike, and
this module says where they agree.
-/

namespace CodexMustWork.ActivationFences

open LineFraming

/-! ### Verdicts -/

inductive ActivationFenceStatus where
  | pending
  | completed
  | aborted
  | superseded
deriving DecidableEq, Repr

/-- `ActivationFenceError`, with the failures of the reader that are not caught here. -/
inductive FenceFailure where
  | turnNotObservable
  | turnAmbiguous
  | rolloutInvalid
  | read (failure : ReadFailure)
deriving DecidableEq, Repr

/-- An exact open turn, and the next unread byte of its rollout. -/
structure ActivationFence where
  turnId : String
  cursor : RolloutCursor
deriving DecidableEq, Repr

/-- The end of a turn, as a status. -/
def endStatus : EventKind → Option ActivationFenceStatus
  | .turnCompleted => some .completed
  | .turnAborted => some .aborted
  | _ => none

/-- What the loop of `poll` makes of one event. -/
def verdict (turnId : String) (event : ObservedEvent) : Option ActivationFenceStatus :=
  if event.childId ≠ none then none
  else if event.kind = .turnStarted ∧ event.turnId ≠ some turnId then some .superseded
  else if event.turnId ≠ some turnId then none
  else endStatus event.kind

/-- The loop of `poll`. -/
def classify (turnId : String) : List ObservedEvent → ActivationFenceStatus
  | [] => .pending
  | event :: rest =>
      match verdict turnId event with
      | some status => status
      | none => classify turnId rest

variable {ρ : Type}

/-- `poll`. -/
def ActivationFence.poll (format : RecordFormat ρ) (fence : ActivationFence)
    (rollout : RolloutFile) : Except ReadFailure (ActivationFenceStatus × ActivationFence) :=
  match readNewRecords format rollout fence.cursor with
  | .error failure => .error failure
  | .ok batch =>
      .ok (classify fence.turnId (batch.records.filterMap format.parseRolloutEvent),
        ⟨fence.turnId, batch.cursor⟩)

/-! ### The tail of a rollout -/

/-- `_MAX_SCAN_BYTES`. -/
def maxScanBytes : ℕ := 16 * 1048576

/-- The `_decode_record` of the scan: what the reader finds corrupt is invalid here, and what
it does not catch is not caught here either. -/
def scanRecord (format : RecordFormat ρ) (line : List UInt8) : Except FenceFailure ρ :=
  match format.loadLine line with
  | .error .unicodeDecodeError | .error .jsonDecodeError | .error .nonFiniteNumberError =>
      .error .rolloutInvalid
  | .error .valueError => .error (.read (.raised .valueError))
  | .error .recursionError => .error (.read (.raised .recursionError))
  | .ok none => .error .rolloutInvalid
  | .ok (some record) => .ok record

/-- `_complete_lines` and the loop over it, from an offset: what is decoded, and where the
last line ends.  The fuel is the number of the bytes that are left. -/
def scanLines (format : RecordFormat ρ) : ℕ → ℕ → List UInt8 →
    Except FenceFailure (List ρ × ℕ)
  | 0, offset, _ => .ok ([], offset)
  | fuel + 1, offset, unread =>
      let line := readline newline unread (maxLineBytes + 1)
      if line = [] then .ok ([], offset)
      else if maxLineBytes < line.length then .ok ([], offset)
      else if line.getLast? ≠ some newline then .ok ([], offset)
      else
        match scanRecord format line with
        | .error failure => .error failure
        | .ok record =>
            match scanLines format fuel (offset + line.length) (unread.drop line.length) with
            | .error failure => .error failure
            | .ok (records, last) => .ok (record :: records, last)

/-- Where the scan begins: behind what may be a part of a line. -/
def scanStart (rollout : RolloutFile) : ℕ :=
  if rollout.content.length ≤ maxScanBytes then 0
  else
    let start := rollout.content.length - maxScanBytes
    start + (readline newline (rollout.content.drop start) (maxLineBytes + 1)).length

/-- The loop of `_snapshot_tail`. -/
def snapshotFrom (format : RecordFormat ρ) (rollout : RolloutFile) (start : ℕ) :
    Except FenceFailure (RolloutCursor × List ρ) :=
  match scanLines format (rollout.content.length - start) start (rollout.content.drop start) with
  | .error failure => .error failure
  | .ok (records, last) => .ok (⟨rollout.device, rollout.fileId, last⟩, records)

/-- `_snapshot_tail`. -/
def snapshotTail (format : RecordFormat ρ) (rollout : RolloutFile) :
    Except FenceFailure (RolloutCursor × List ρ) :=
  snapshotFrom format rollout (scanStart rollout)

/-! ### Capture -/

/-- The turns of `open_turns`, in the order in which a `dict` has them, after an event. -/
def trackOpenTurns (openTurns : List String) (event : ObservedEvent) : List String :=
  match event.childId, event.turnId with
  | none, some turn =>
      if event.kind = .turnStarted then
        if turn ∈ openTurns then openTurns else openTurns ++ [turn]
      else if event.kind = .turnCompleted ∨ event.kind = .turnAborted then openTurns.erase turn
      else openTurns
  | _, _ => openTurns

def openTurns (events : List ObservedEvent) : List String := events.foldl trackOpenTurns []

/-- The turn that `capture_activation_fence` takes. -/
def captureTurn (events : List ObservedEvent) : Except FenceFailure String :=
  match openTurns events with
  | [] => .error .turnNotObservable
  | [turn] => .ok turn
  | _ => .error .turnAmbiguous

/-- `capture_activation_fence`. -/
def captureActivationFence (format : RecordFormat ρ) (rollout : RolloutFile) :
    Except FenceFailure ActivationFence :=
  match snapshotTail format rollout with
  | .error failure => .error failure
  | .ok (cursor, records) =>
      match captureTurn (records.filterMap format.parseRolloutEvent) with
      | .error failure => .error failure
      | .ok turn => .ok ⟨turn, cursor⟩

/-! ### Recovery -/

/-- What the loop of `recover_activation_fence` carries from event to event. -/
structure Recovery where
  seen : Bool
  status : ActivationFenceStatus
deriving DecidableEq, Repr

/-- One round of the loop of `recover_activation_fence`. -/
def Recovery.observe (turnId : String) (recovery : Recovery) (event : ObservedEvent) : Recovery :=
  if event.childId ≠ none then recovery
  else if event.kind = .turnStarted then
    if event.turnId = some turnId then ⟨true, .pending⟩
    else if recovery.seen ∧ recovery.status = .pending then ⟨recovery.seen, .superseded⟩
    else recovery
  else if event.turnId = some turnId then
    match endStatus event.kind with
    | some status => ⟨recovery.seen, status⟩
    | none => recovery
  else recovery

/-- The loop of `recover_activation_fence`, and its check. -/
def recoverStatus (turnId : String) (events : List ObservedEvent) :
    Except FenceFailure ActivationFenceStatus :=
  let recovery := events.foldl (Recovery.observe turnId) ⟨false, .pending⟩
  if recovery.seen then .ok recovery.status else .error .turnNotObservable

/-- `recover_activation_fence`. -/
def recoverActivationFence (format : RecordFormat ρ) (rollout : RolloutFile) (turnId : String) :
    Except FenceFailure (ActivationFenceStatus × ActivationFence) :=
  match snapshotTail format rollout with
  | .error failure => .error failure
  | .ok (cursor, records) =>
      match recoverStatus turnId (records.filterMap format.parseRolloutEvent) with
      | .error failure => .error failure
      | .ok status => .ok (status, ⟨turnId, cursor⟩)

/-! ### Polling -/

/-- Polls until one of them decides. -/
def watch (format : RecordFormat ρ) : ActivationFence → List RolloutFile →
    Except ReadFailure (ActivationFenceStatus × ActivationFence)
  | fence, [] => .ok (.pending, fence)
  | fence, rollout :: later =>
      match fence.poll format rollout with
      | .error failure => .error failure
      | .ok (.pending, next) => watch format next later
      | .ok decided => .ok decided

theorem verdict_ne_pending (turnId : String) (event : ObservedEvent) :
    verdict turnId event ≠ some .pending := by
  unfold verdict endStatus
  split
  · rintro ⟨⟩
  · split
    · rintro ⟨⟩
    · split
      · rintro ⟨⟩
      · split <;> rintro ⟨⟩

theorem classify_cons_of_none {turnId : String} {event : ObservedEvent} {rest : List ObservedEvent}
    (hverdict : verdict turnId event = none) :
    classify turnId (event :: rest) = classify turnId rest := by
  simp only [classify, hverdict]

theorem classify_cons_of_some {turnId : String} {event : ObservedEvent} {rest : List ObservedEvent}
    {status : ActivationFenceStatus} (hverdict : verdict turnId event = some status) :
    classify turnId (event :: rest) = status := by
  simp only [classify, hverdict]

/-- A wait goes on as long as no event decides. -/
theorem classify_eq_pending_iff {turnId : String} {events : List ObservedEvent} :
    classify turnId events = .pending ↔ ∀ event ∈ events, verdict turnId event = none := by
  induction events with
  | nil => exact iff_of_true rfl fun _ hmem => absurd hmem List.not_mem_nil
  | cons event rest ih =>
    rw [List.forall_mem_cons]
    cases hverdict : verdict turnId event with
    | none => rw [classify_cons_of_none hverdict, ih, and_iff_right rfl]
    | some status =>
      rw [classify_cons_of_some hverdict]
      refine iff_of_false ?_ ?_
      · rintro rfl
        exact verdict_ne_pending turnId event hverdict
      · rintro ⟨⟨⟩, -⟩

theorem classify_append (turnId : String) (first second : List ObservedEvent) :
    classify turnId (first ++ second) =
      if classify turnId first = .pending then classify turnId second
      else classify turnId first := by
  induction first with
  | nil => exact (if_pos rfl).symm
  | cons event rest ih =>
    rw [List.cons_append]
    cases hverdict : verdict turnId event with
    | none => rw [classify_cons_of_none hverdict, classify_cons_of_none hverdict, ih]
    | some status =>
      rw [classify_cons_of_some hverdict, classify_cons_of_some hverdict, if_neg]
      rintro rfl
      exact verdict_ne_pending turnId event hverdict

/-- A text that is still being written, at offsets that are there already. -/
theorem between_of_prefix {rollout whole : RolloutFile} (hgrown : rollout.content <+: whole.content)
    {start stop : ℕ} (hstop : stop ≤ rollout.content.length) :
    whole.between start stop = rollout.between start stop := by
  obtain ⟨more, hmore⟩ := hgrown
  unfold RolloutFile.between
  rw [← hmore]
  by_cases hstart : start ≤ stop
  · rw [List.drop_append_of_le_length (by omega), List.take_append_of_le_length]
    rw [List.length_drop]
    omega
  · rw [Nat.sub_eq_zero_of_le (by omega), List.take_zero, List.take_zero]

/-! ### Stretches of a rollout -/

/-- The events of the complete lines between two offsets. -/
def EventsBetween (format : RecordFormat ρ) (whole : RolloutFile) (start stop : ℕ)
    (events : List ObservedEvent) : Prop :=
  start ≤ stop ∧ stop ≤ whole.content.length ∧ Whole newline (whole.between start stop) ∧
    ∃ records, decodeLines format (whole.between start stop) = .ok records ∧
      records.filterMap format.parseRolloutEvent = events

namespace EventsBetween

variable {format : RecordFormat ρ} {whole : RolloutFile} {start middle stop : ℕ}
  {first second events : List ObservedEvent}

theorem nil (hwithin : start ≤ whole.content.length) : EventsBetween format whole start start [] := by
  refine ⟨le_refl _, hwithin, ?_, [], ?_, rfl⟩
  all_goals
    unfold RolloutFile.between
    rw [Nat.sub_self, List.take_zero]
    rfl

theorem append (hfirst : EventsBetween format whole start middle first)
    (hsecond : EventsBetween format whole middle stop second) :
    EventsBetween format whole start stop (first ++ second) := by
  obtain ⟨hle, -, hwhole, records, hdecode, rfl⟩ := hfirst
  obtain ⟨hle', hwithin, hwhole', records', hdecode', rfl⟩ := hsecond
  have hbetween := RolloutFile.between_append_between hle hle' whole
  refine ⟨hle.trans hle', hwithin, ?_, records ++ records', ?_, List.filterMap_append⟩
  · rw [← hbetween]
    exact hwhole.append newline hwhole'
  · rw [← hbetween, decodeLines_append format hwhole, hdecode, hdecode']
    rfl

/-- What is between two offsets is there once. -/
theorem unique (hfirst : EventsBetween format whole start stop first)
    (hsecond : EventsBetween format whole start stop second) : first = second := by
  obtain ⟨-, -, -, records, hdecode, rfl⟩ := hfirst
  obtain ⟨-, -, -, records', hdecode', rfl⟩ := hsecond
  rw [hdecode, Except.ok.injEq] at hdecode'
  rw [hdecode']

/-- The events at the beginning of a line that is not the first. -/
theorem split (hevents : EventsBetween format whole start stop events) (hstart : start ≤ middle)
    (hstop : middle ≤ stop) (hmiddle : Whole newline (whole.between start middle)) :
    ∃ first second, EventsBetween format whole start middle first ∧
      EventsBetween format whole middle stop second ∧ events = first ++ second := by
  obtain ⟨-, hwithin, hwhole, records, hdecode, rfl⟩ := hevents
  rw [← RolloutFile.between_append_between hstart hstop] at hwhole hdecode
  have hrest := whole_of_append newline hmiddle hwhole
  rw [decodeLines_append format hmiddle] at hdecode
  cases hbefore : decodeLines format (whole.between start middle) with
  | error reason =>
    rw [hbefore] at hdecode
    cases hdecode
  | ok before =>
    cases hafter : decodeLines format (whole.between middle stop) with
    | error reason =>
      rw [hbefore, hafter] at hdecode
      cases hdecode
    | ok after =>
      rw [hbefore, hafter] at hdecode
      obtain rfl : before ++ after = records := Except.ok.inj hdecode
      exact ⟨_, _, ⟨hstart, hstop.trans hwithin, hmiddle, before, hbefore, rfl⟩,
        ⟨hstop, hwithin, hrest, after, hafter, rfl⟩, List.filterMap_append⟩

/-- The same lines in a text that has grown. -/
theorem of_prefix {rollout : RolloutFile} (hgrown : rollout.content <+: whole.content)
    (hevents : EventsBetween format rollout start stop events) :
    EventsBetween format whole start stop events := by
  obtain ⟨hle, hwithin, hwhole, hrecords⟩ := hevents
  rw [← between_of_prefix hgrown hwithin] at hwhole hrecords
  exact ⟨hle, hwithin.trans hgrown.length_le, hwhole, hrecords⟩

end EventsBetween

/-! ### Polls of a rollout that grows -/

section

variable {format : RecordFormat ρ} {fence next : ActivationFence} {rollout whole : RolloutFile}
  {status : ActivationFenceStatus}

/-- The status of a stretch of a rollout. -/
def StretchStatus (format : RecordFormat ρ) (turnId : String) (whole : RolloutFile)
    (start stop : ℕ) (status : ActivationFenceStatus) : Prop :=
  ∃ events, EventsBetween format whole start stop events ∧ classify turnId events = status

/-- One poll goes over the complete lines between its cursors. -/
theorem poll_stretch (hgrown : rollout.content <+: whole.content)
    (hpoll : fence.poll format rollout = .ok (status, next)) :
    next.turnId = fence.turnId ∧
      StretchStatus format fence.turnId whole fence.cursor.offset next.cursor.offset status := by
  unfold ActivationFence.poll at hpoll
  cases hread : readNewRecords format rollout fence.cursor with
  | error failure =>
    rw [hread] at hpoll
    cases hpoll
  | ok batch =>
    rw [hread] at hpoll
    obtain ⟨-, -, -, -, hle, hwithin, hwhole, hdecode, -⟩ := readNewRecords_eq_ok format hread
    cases hpoll
    have hevents : EventsBetween format rollout fence.cursor.offset batch.cursor.offset _ :=
      ⟨hle, hwithin, hwhole, batch.records, hdecode, rfl⟩
    exact ⟨rfl, _, hevents.of_prefix hgrown, rfl⟩

/-- A stretch behind one that did not decide. -/
theorem StretchStatus.append {turnId : String} {start middle stop : ℕ}
    (hfirst : StretchStatus format turnId whole start middle .pending)
    (hsecond : StretchStatus format turnId whole middle stop status) :
    StretchStatus format turnId whole start stop status := by
  obtain ⟨first, hevents, hpending⟩ := hfirst
  obtain ⟨second, hevents', hstatus⟩ := hsecond
  refine ⟨first ++ second, hevents.append hevents', ?_⟩
  rw [classify_append, if_pos hpending]
  exact hstatus

/-- The polls of a rollout that grows, however they cut it, decide by what is written between
the first and the last cursor. -/
theorem watch_stretch {rollouts : List RolloutFile}
    (hgrown : ∀ rollout ∈ rollouts, rollout.content <+: whole.content)
    (hwithin : fence.cursor.offset ≤ whole.content.length)
    (hwatch : watch format fence rollouts = .ok (status, next)) :
    next.turnId = fence.turnId ∧
      StretchStatus format fence.turnId whole fence.cursor.offset next.cursor.offset status := by
  induction rollouts generalizing fence with
  | nil =>
    cases hwatch
    exact ⟨rfl, [], EventsBetween.nil hwithin, rfl⟩
  | cons rollout later ih =>
    obtain ⟨hfirst, hlater⟩ := List.forall_mem_cons.mp hgrown
    unfold watch at hwatch
    split at hwatch
    · cases hwatch
    · next between hpoll =>
      obtain ⟨hturn, events, hevents, hpending⟩ := poll_stretch hfirst hpoll
      obtain ⟨hturn', hrest⟩ := ih hlater hevents.2.1 hwatch
      rw [hturn] at hturn' hrest
      exact ⟨hturn', StretchStatus.append ⟨events, hevents, hpending⟩ hrest⟩
    · next decided _ hpoll =>
      cases hwatch
      exact poll_stretch hfirst hpoll

/-- The first stretch that decides has the status of every longer one. -/
theorem StretchStatus.mono {turnId : String} {start stop later : ℕ}
    {status' : ActivationFenceStatus} (hfirst : StretchStatus format turnId whole start stop status)
    (hdecided : status ≠ .pending)
    (hsecond : StretchStatus format turnId whole start later status') (hle : stop ≤ later) :
    status' = status := by
  obtain ⟨first, hevents, rfl⟩ := hfirst
  obtain ⟨second, hevents', rfl⟩ := hsecond
  obtain ⟨first', more, hfirst', -, rfl⟩ := hevents'.split hevents.1 hle hevents.2.2.1
  rw [hfirst'.unique hevents, classify_append, if_neg hdecided]

end

/-- Whatever two daemons find in a rollout while it grows, and however often they look, they
    decide alike about a turn when both decide: by the first event behind the fence that does. -/
theorem watch_agrees (format : RecordFormat ρ) {fence first second : ActivationFence}
    {whole : RolloutFile} {rollouts others : List RolloutFile}
    {status other : ActivationFenceStatus}
    (hwithin : fence.cursor.offset ≤ whole.content.length)
    (hgrown : ∀ rollout ∈ rollouts, rollout.content <+: whole.content)
    (hothers : ∀ rollout ∈ others, rollout.content <+: whole.content)
    (hwatch : watch format fence rollouts = .ok (status, first))
    (hother : watch format fence others = .ok (other, second)) :
    StretchStatus format fence.turnId whole fence.cursor.offset first.cursor.offset status ∧
      (status ≠ .pending → other ≠ .pending → status = other) := by
  obtain ⟨-, hstretch⟩ := watch_stretch hgrown hwithin hwatch
  obtain ⟨-, hstretch'⟩ := watch_stretch hothers hwithin hother
  refine ⟨hstretch, fun hdecided hdecided' => ?_⟩
  rcases Nat.le_total first.cursor.offset second.cursor.offset with hle | hle
  · exact (hstretch.mono hdecided hstretch' hle).symm
  · exact hstretch'.mono hdecided' hstretch hle

/-! ### The captured turn -/

/-- The event begins a turn of the main agent. -/
def startsTurn (turnId : String) (event : ObservedEvent) : Bool :=
  event.childId.isNone && decide (event.kind = .turnStarted) && decide (event.turnId = some turnId)

/-- The event begins another turn of the main agent. -/
def startsOther (turnId : String) (event : ObservedEvent) : Bool :=
  event.childId.isNone && decide (event.kind = .turnStarted) && decide (event.turnId ≠ some turnId)

/-- How the event ends a turn of the main agent. -/
def endsTurn (turnId : String) (event : ObservedEvent) : Option ActivationFenceStatus :=
  if event.childId = none ∧ event.turnId = some turnId then endStatus event.kind else none

/-- A turn has begun and has not ended since. -/
def OpenTurn (events : List ObservedEvent) (turnId : String) : Prop :=
  Since (fun event => startsTurn turnId event = true) (fun event => endsTurn turnId event = none)
    events

theorem endStatus_eq_none {kind : EventKind} :
    endStatus kind = none ↔ ¬ (kind = .turnCompleted ∨ kind = .turnAborted) := by
  cases kind <;> simp [endStatus]

theorem startsTurn_iff {turnId : String} {event : ObservedEvent} :
    startsTurn turnId event = true ↔
      event.childId = none ∧ event.kind = .turnStarted ∧ event.turnId = some turnId := by
  simp [startsTurn, and_assoc]

theorem endsTurn_eq_none {turnId : String} {event : ObservedEvent} :
    endsTurn turnId event = none ↔
      ¬ (event.childId = none ∧ event.turnId = some turnId ∧
        (event.kind = .turnCompleted ∨ event.kind = .turnAborted)) := by
  unfold endsTurn
  split
  · next hown => rw [endStatus_eq_none, and_iff_right hown.1, and_iff_right hown.2]
  · next hown => exact iff_of_true rfl fun hends => hown ⟨hends.1, hends.2.1⟩

theorem trackOpenTurns_nodup {turns : List String} (hnodup : turns.Nodup)
    (event : ObservedEvent) : (trackOpenTurns turns event).Nodup := by
  unfold trackOpenTurns
  split
  · split
    · split
      · exact hnodup
      · next hnew => exact hnodup.append (List.nodup_singleton _) (by simpa using hnew)
    · split
      · exact hnodup.erase _
      · exact hnodup
  · exact hnodup

theorem mem_trackOpenTurns {turns : List String} (hnodup : turns.Nodup) (event : ObservedEvent)
    (turnId : String) :
    turnId ∈ trackOpenTurns turns event ↔
      startsTurn turnId event = true ∨ (turnId ∈ turns ∧ endsTurn turnId event = none) := by
  rw [startsTurn_iff, endsTurn_eq_none]
  unfold trackOpenTurns
  split
  · next turn hchild hturn =>
    rw [hchild, hturn, and_iff_right rfl, and_iff_right rfl, Option.some_inj]
    split
    · next hkind =>
      have hopens : turnId ∈ (if turn ∈ turns then turns else turns ++ [turn]) ↔
          turn = turnId ∨ turnId ∈ turns := by
        split
        · next hmem => exact ⟨Or.inr, fun h => h.elim (fun heq => heq ▸ hmem) id⟩
        · rw [List.mem_append, List.mem_singleton, eq_comm, or_comm]
      rw [hopens, hkind]
      simp
    · next hkind =>
      split
      · next hends =>
        rw [hnodup.mem_erase_iff]
        simp only [hkind, hends, false_and, false_or, and_true]
        exact ⟨fun h => ⟨h.2, fun heq => h.1 heq.symm⟩, fun h => ⟨fun heq => h.2 heq.symm, h.1⟩⟩
      · next hends => simp [hkind, hends]
  · next hnot =>
    have hother : ¬ (event.childId = none ∧ event.turnId = some turnId) :=
      fun h => hnot turnId h.1 h.2
    constructor
    · intro hmem
      exact Or.inr ⟨hmem, fun h => hother ⟨h.1, h.2.1⟩⟩
    · rintro (h | h)
      · exact absurd ⟨h.1, h.2.2⟩ hother
      · exact h.1

/-- The turns that `open_turns` has are those that are open, and each is there once. -/
theorem openTurns_spec (events : List ObservedEvent) :
    (openTurns events).Nodup ∧ ∀ turnId, turnId ∈ openTurns events ↔ OpenTurn events turnId := by
  induction events using List.reverseRecOn with
  | nil =>
    exact ⟨List.nodup_nil, fun turnId => iff_of_false List.not_mem_nil Since.not_nil⟩
  | append_singleton past event ih =>
    obtain ⟨hnodup, hopen⟩ := ih
    have hstep : openTurns (past ++ [event]) = trackOpenTurns (openTurns past) event := by
      simp only [openTurns, List.foldl_append, List.foldl_cons, List.foldl_nil]
    rw [hstep]
    refine ⟨trackOpenTurns_nodup hnodup event, fun turnId => ?_⟩
    rw [mem_trackOpenTurns hnodup, hopen turnId, OpenTurn, OpenTurn, Since.concat_iff]

/-- The turn that is captured is open, and no other is. -/
theorem captureTurn_eq_ok {events : List ObservedEvent} {turnId : String} :
    captureTurn events = .ok turnId ↔ ∀ turn, OpenTurn events turn ↔ turn = turnId := by
  obtain ⟨hnodup, hopen⟩ := openTurns_spec events
  simp only [← hopen]
  unfold captureTurn
  split
  · next hturns =>
    rw [hturns]
    refine iff_of_false ?_ fun h => List.not_mem_nil ((h turnId).mpr rfl)
    rintro ⟨⟩
  · next turn hturns =>
    rw [hturns, Except.ok.injEq]
    constructor
    · rintro rfl other
      exact List.mem_singleton
    · intro h
      exact (h turn).mp (List.mem_singleton.mpr rfl)
  · next hnil hone =>
    refine iff_of_false ?_ fun h => ?_
    · rintro ⟨⟩
    · cases hturns : openTurns events with
      | nil => exact hnil hturns
      | cons turn rest =>
        rw [hturns] at hnodup h
        have hturn : turn = turnId := (h turn).mp List.mem_cons_self
        cases rest with
        | nil => exact hone turn hturns
        | cons second rest =>
          have hsecond : second = turnId :=
            (h second).mp (List.mem_cons_of_mem _ List.mem_cons_self)
          exact (List.nodup_cons.mp hnodup).1
            (hturn.trans hsecond.symm ▸ List.mem_cons_self)

/-! ### What recovery decides -/

/-- The status of a turn after the events behind its start: its last end, if there is one. -/
def statusAfter (turnId : String) (events : List ObservedEvent) : ActivationFenceStatus :=
  ((events.filterMap (endsTurn turnId)).getLast?).getD
    (if events.any (startsOther turnId) then .superseded else .pending)

theorem startsOther_iff {turnId : String} {event : ObservedEvent} :
    startsOther turnId event = true ↔
      event.childId = none ∧ event.kind = .turnStarted ∧ event.turnId ≠ some turnId := by
  simp [startsOther, and_assoc]

theorem endStatus_ne_pending (kind : EventKind) : endStatus kind ≠ some .pending := by
  cases kind <;> rintro ⟨⟩

theorem endsTurn_ne_pending (turnId : String) (event : ObservedEvent) :
    endsTurn turnId event ≠ some .pending := by
  unfold endsTurn
  split
  · exact endStatus_ne_pending event.kind
  · rintro ⟨⟩

theorem statusAfter_concat (turnId : String) (events : List ObservedEvent)
    (event : ObservedEvent) :
    statusAfter turnId (events ++ [event]) =
      match endsTurn turnId event with
      | some status => status
      | none =>
          if startsOther turnId event = true ∧ statusAfter turnId events = .pending then .superseded
          else statusAfter turnId events := by
  unfold statusAfter
  rw [List.filterMap_append, List.any_append, List.any_cons, List.any_nil, Bool.or_false]
  cases hends : endsTurn turnId event with
  | some status =>
    have hlast : [event].filterMap (endsTurn turnId) = [status] := by simp [hends]
    rw [hlast, List.getLast?_concat]
    rfl
  | none =>
    have hlast : [event].filterMap (endsTurn turnId) = [] := by simp [hends]
    rw [hlast, List.append_nil]
    cases hearlier : (events.filterMap (endsTurn turnId)).getLast? with
    | some status =>
      refine (if_neg ?_).symm
      rintro ⟨-, hpending⟩
      obtain ⟨earlier, -, heq⟩ := List.mem_filterMap.mp (List.mem_of_getLast? hearlier)
      exact endsTurn_ne_pending turnId earlier (heq.trans (congrArg some hpending))
    | none => cases events.any (startsOther turnId) <;> cases startsOther turnId event <;> rfl

theorem recovery_start {turnId : String} {start : ObservedEvent}
    (hstart : startsTurn turnId start = true) (recovery : Recovery) :
    recovery.observe turnId start = ⟨true, .pending⟩ := by
  obtain ⟨hchild, hkind, hturn⟩ := startsTurn_iff.mp hstart
  rw [Recovery.observe, if_neg (not_not.mpr hchild), if_pos hkind, if_pos hturn]

theorem recovery_other {turnId : String} {event : ObservedEvent}
    (hother : startsTurn turnId event = false) (recovery : Recovery) :
    recovery.observe turnId event = ⟨recovery.seen,
      match endsTurn turnId event with
      | some status => status
      | none =>
          if startsOther turnId event = true ∧ recovery.seen = true ∧ recovery.status = .pending
          then .superseded else recovery.status⟩ := by
  rw [← Bool.not_eq_true, startsTurn_iff] at hother
  simp only [startsOther_iff]
  unfold Recovery.observe endsTurn
  by_cases hchild : event.childId = none
  · by_cases hkind : event.kind = .turnStarted
    · have hturn : event.turnId ≠ some turnId := fun hturn => hother ⟨hchild, hkind, hturn⟩
      have hends : ¬ (event.childId = none ∧ event.turnId = some turnId) := fun h => hturn h.2
      rw [if_neg (not_not.mpr hchild), if_pos hkind, if_neg hturn, if_neg hends]
      simp only [hchild, hkind, hturn, ne_eq, not_false_eq_true, true_and]
      split <;> rfl
    · rw [if_neg (not_not.mpr hchild), if_neg hkind]
      by_cases hturn : event.turnId = some turnId
      · rw [if_pos hturn, if_pos ⟨hchild, hturn⟩]
        cases endStatus event.kind with
        | none => simp only [hkind, false_and, and_false, if_false]
        | some status => rfl
      · rw [if_neg hturn, if_neg fun h => hturn h.2]
        simp only [hkind, false_and, and_false, if_false]
  · rw [if_pos hchild, if_neg fun h => hchild h.1]
    simp only [hchild, false_and, if_false]

theorem recovery_since {turnId : String} {since : List ObservedEvent}
    (honce : ∀ event ∈ since, startsTurn turnId event = false) :
    since.foldl (Recovery.observe turnId) ⟨true, .pending⟩ = ⟨true, statusAfter turnId since⟩ := by
  induction since using List.reverseRecOn with
  | nil => rfl
  | append_singleton past event ih =>
    obtain ⟨hpast, hevent⟩ := List.forall_mem_append.mp honce
    rw [List.foldl_append, ih hpast, List.foldl_cons, List.foldl_nil,
      recovery_other (hevent event (List.mem_singleton_self event)), statusAfter_concat]
    simp only [true_and]

/-- Recovery decides by what follows the last start of the turn. -/
theorem recoverStatus_of_start {turnId : String} {past since : List ObservedEvent}
    {start : ObservedEvent} (hstart : startsTurn turnId start = true)
    (honce : ∀ event ∈ since, startsTurn turnId event = false) :
    recoverStatus turnId (past ++ start :: since) = .ok (statusAfter turnId since) := by
  unfold recoverStatus
  rw [List.foldl_append, List.foldl_cons, recovery_start hstart, recovery_since honce]
  rfl

theorem recovery_unseen {turnId : String} {events : List ObservedEvent}
    (hnone : ∀ event ∈ events, startsTurn turnId event = false) (recovery : Recovery) :
    (events.foldl (Recovery.observe turnId) recovery).seen = recovery.seen := by
  induction events generalizing recovery with
  | nil => rfl
  | cons event rest ih =>
    obtain ⟨hevent, hrest⟩ := List.forall_mem_cons.mp hnone
    rw [List.foldl_cons, ih hrest, recovery_other hevent]

theorem recoverStatus_seen {turnId : String} {events : List ObservedEvent}
    {status : ActivationFenceStatus} (hrecover : recoverStatus turnId events = .ok status) :
    ∃ event ∈ events, startsTurn turnId event = true := by
  by_contra hnone
  have hunseen : ∀ event ∈ events, startsTurn turnId event = false := by
    intro event hmem
    rw [← Bool.not_eq_true]
    exact fun hstart => hnone ⟨event, hmem, hstart⟩
  have hseen := recovery_unseen hunseen ⟨false, .pending⟩
  unfold recoverStatus at hrecover
  dsimp only at hrecover
  rw [hseen] at hrecover
  cases hrecover

/-! ### The scan of a tail -/

/-- A text whose lines the reader has room for. -/
structure LinesFit (text : List UInt8) : Prop where
  bounded : ∀ line ∈ lines newline text, line.length ≤ maxLineBytes
  rest : (unterminated newline text).length ≤ maxLineBytes

theorem LinesFit.of_append {first second : List UInt8} (hwhole : Whole newline first)
    (hfit : LinesFit (first ++ second)) : LinesFit second := by
  have hlines := lines_append newline hwhole second
  refine ⟨fun line hline => hfit.bounded line ?_, ?_⟩
  · rw [hlines]
    exact List.mem_append_right _ hline
  · have hrest := hfit.rest
    rwa [unterminated_append newline hwhole] at hrest

/-- The two `_decode_record` decode the same lines, to the same records. -/
theorem decodeRecord_of_scanRecord {format : RecordFormat ρ} {line : List UInt8} {record : ρ}
    (hrecord : scanRecord format line = .ok record) : format.decodeRecord line = .ok record := by
  rw [RecordFormat.decodeRecord_eq_ok]
  unfold scanRecord at hrecord
  split at hrecord
  all_goals cases hrecord
  assumption

/-- The scan takes complete lines, and all of them where none is too long. -/
theorem scanLines_eq_ok {format : RecordFormat ρ} {fuel offset last : ℕ} {unread : List UInt8}
    {records : List ρ} (hfuel : unread.length ≤ fuel)
    (hscan : scanLines format fuel offset unread = .ok (records, last)) :
    ∃ consumed rest, unread = consumed ++ rest ∧ last = offset + consumed.length ∧
      Whole newline consumed ∧ decodeLines format consumed = .ok records ∧
      (LinesFit unread → newline ∉ rest) := by
  induction fuel generalizing offset unread records with
  | zero =>
    obtain rfl : unread = [] := List.length_eq_zero_iff.mp (Nat.le_zero.mp hfuel)
    cases hscan
    exact ⟨[], [], rfl, rfl, whole_nil _, rfl, fun _ => List.not_mem_nil⟩
  | succ fuel ih =>
    have hstop : (LinesFit unread → newline ∉ unread) → ([], offset) = (records, last) →
        ∃ consumed rest, unread = consumed ++ rest ∧ last = offset + consumed.length ∧
          Whole newline consumed ∧ decodeLines format consumed = .ok records ∧
          (LinesFit unread → newline ∉ rest) := by
      rintro hfree ⟨⟩
      exact ⟨[], unread, rfl, rfl, whole_nil _, rfl, hfree⟩
    rw [scanLines] at hscan
    split_ifs at hscan with hempty hlarge hpartial
    · refine hstop (fun _ => ?_) (Except.ok.inj hscan)
      rw [(readline_eq_nil newline (by decide)).mp hempty]
      exact List.not_mem_nil
    · refine hstop (fun hfit hmem => ?_) (Except.ok.inj hscan)
      cases hlines : lines newline unread with
      | nil => exact (lines_eq_nil newline).mp hlines hmem
      | cons line more =>
        have hbounded := hfit.bounded line (hlines ▸ List.mem_cons_self)
        rw [readline_of_lines newline hlines, List.length_take] at hlarge
        omega
    · refine hstop (fun hfit hmem => ?_) (Except.ok.inj hscan)
      cases hlines : lines newline unread with
      | nil => exact (lines_eq_nil newline).mp hlines hmem
      | cons line more =>
        have hbounded := hfit.bounded line (hlines ▸ List.mem_cons_self)
        obtain ⟨rest, -, -, hline, -⟩ := lines_eq_cons newline hlines
        rw [readline_of_lines newline hlines, List.take_of_length_le (by omega)] at hpartial
        exact hpartial (getLast?_of_lines newline hline)
    · have hended : (readline newline unread (maxLineBytes + 1)).getLast? = some newline :=
        not_not.mp hpartial
      have hline := whole_readline newline hended
      obtain ⟨hsplit, -⟩ := lines_of_readline newline hended
      revert hscan hsplit hline hempty
      generalize readline newline unread (maxLineBytes + 1) = line
      intro hempty hscan hline hsplit
      have hwholeLine : Whole newline line := by
        unfold Whole
        rw [hline, List.flatten_singleton]
      have hpositive : 0 < line.length := List.length_pos_iff.mpr hempty
      cases hrecord : scanRecord format line with
      | error failure =>
        rw [hrecord] at hscan
        cases hscan
      | ok record =>
        rw [hrecord] at hscan
        cases hrest : scanLines format fuel (offset + line.length) (unread.drop line.length) with
        | error failure =>
          simp only [hrest] at hscan
          cases hscan
        | ok result =>
          obtain ⟨more, final⟩ := result
          simp only [hrest, Except.ok.injEq, Prod.mk.injEq] at hscan
          obtain ⟨rfl, rfl⟩ := hscan
          have hshorter : (unread.drop line.length).length ≤ fuel := by
            rw [List.length_drop]
            omega
          obtain ⟨consumed, rest, hdrop, hfinal, hwhole, hdecode, hfree⟩ := ih hshorter hrest
          rw [hdrop] at hsplit
          refine ⟨line ++ consumed, rest, ?_, ?_, hwholeLine.append newline hwhole, ?_, ?_⟩
          · rw [hsplit, List.append_assoc]
          · rw [hfinal, List.length_append, Nat.add_assoc]
          · have hfirst : decodeLines format line = .ok [record] := by
              rw [decodeLines, hline, List.mapM_cons, decodeRecord_of_scanRecord hrecord]
              rfl
            rw [decodeLines_append format hwholeLine, hfirst, hdecode]
            rfl
          · intro hfit
            rw [hdrop] at hfree
            rw [hsplit] at hfit
            exact hfree (hfit.of_append hwholeLine)

theorem LinesFit.of_prefix {text grown : List UInt8} (hfit : LinesFit grown)
    (hextends : text <+: grown) : LinesFit text := by
  obtain ⟨hlines, hrest⟩ := lines_of_prefix newline hextends
  refine ⟨fun line hline => hfit.bounded line (hlines.subset hline), ?_⟩
  rcases hrest with hrest | ⟨line, hline, hrest⟩
  · exact hrest.length_le.trans hfit.rest
  · exact hrest.length_le.trans (hfit.bounded line hline)

/-- The scan begins at the beginning of a line, unless there is none. -/
theorem scanStart_spec {rollout : RolloutFile} (hfit : LinesFit rollout.content) :
    Whole newline (rollout.content.take (scanStart rollout)) ∨
      rollout.content.drop (scanStart rollout) = [] := by
  unfold scanStart
  dsimp only
  split
  · exact Or.inl (by rw [List.take_zero]; exact whole_nil _)
  · generalize rollout.content.length - maxScanBytes = start
    have hcut := List.take_append_drop start rollout.content
    have hfit' := hfit
    rw [← hcut] at hfit'
    cases hlines : lines newline (rollout.content.drop start) with
    | nil =>
      have hfree := (lines_eq_nil newline).mp hlines
      have hshort := (length_le_unterminated newline hfree).trans hfit'.rest
      have hall : (rollout.content.drop start).take (maxLineBytes + 1) =
          rollout.content.drop start := List.take_of_length_le (by omega)
      rw [readline_of_free newline hfree, hall, ← List.drop_drop]
      exact Or.inr List.drop_length
    | cons line more =>
      obtain ⟨whole, hwhole, hle⟩ := length_le_of_cut newline hlines
      have hshort := hle.trans (hfit'.bounded whole hwhole)
      obtain ⟨rest, hdrop, -, hline, -⟩ := lines_eq_cons newline hlines
      have hall : line.take (maxLineBytes + 1) = line := List.take_of_length_le (by omega)
      have hread : readline newline (line ++ rest) (maxLineBytes + 1) = line := by
        rw [← hdrop, readline_of_lines newline hlines, hall]
      left
      rw [hdrop, hread, List.take_add, hdrop, List.take_left]
      apply whole_of_getLast?
      rw [List.getLast?_append, getLast?_of_lines newline hline]
      rfl

theorem scanStart_le (rollout : RolloutFile) : scanStart rollout ≤ rollout.content.length := by
  unfold scanStart
  dsimp only
  split
  · exact Nat.zero_le _
  · have hle := (readline_extends newline (rollout.content.drop
      (rollout.content.length - maxScanBytes)) (maxLineBytes + 1)).length_le
    rw [List.length_drop] at hle
    omega

theorem scanLines_nil (format : RecordFormat ρ) (fuel offset : ℕ) :
    scanLines format fuel offset [] = .ok ([], offset) := by
  cases fuel with
  | zero => rfl
  | succ fuel => rw [scanLines, readline, if_pos rfl]

/-- The events of a scan, which ends with the last complete line. -/
theorem scanLines_events {format : RecordFormat ρ} {rollout : RolloutFile} {start last : ℕ}
    {records : List ρ} (hstart : start ≤ rollout.content.length)
    (hscan : scanLines format (rollout.content.length - start) start
      (rollout.content.drop start) = .ok (records, last)) :
    EventsBetween format rollout start last (records.filterMap format.parseRolloutEvent) ∧
      (LinesFit (rollout.content.drop start) → newline ∉ rollout.content.drop last) := by
  obtain ⟨consumed, rest, hdrop, hlast, hwhole, hdecode, hfree⟩ :=
    scanLines_eq_ok (List.length_drop.le) hscan
  have hlength := congrArg List.length hdrop
  rw [List.length_drop, List.length_append] at hlength
  have hbetween : rollout.between start last = consumed := by
    unfold RolloutFile.between
    rw [hdrop, hlast, Nat.add_sub_cancel_left, List.take_left]
  have hrest : rollout.content.drop last = rest := by
    rw [hlast, ← List.drop_drop, hdrop, List.drop_left]
  refine ⟨⟨by omega, by omega, ?_, records, ?_, rfl⟩, ?_⟩
  · rw [hbetween]
    exact hwhole
  · rw [hbetween]
    exact hdecode
  · rw [hrest]
    exact hfree

theorem snapshotFrom_spec {format : RecordFormat ρ} {rollout : RolloutFile} {start : ℕ}
    {cursor : RolloutCursor} {records : List ρ} (hstart : start ≤ rollout.content.length)
    (hbegin : LinesFit rollout.content → Whole newline (rollout.content.take start) ∨
      rollout.content.drop start = [])
    (hsnapshot : snapshotFrom format rollout start = .ok (cursor, records)) :
    EventsBetween format rollout start cursor.offset
        (records.filterMap format.parseRolloutEvent) ∧
      (LinesFit rollout.content → records ≠ [] →
        Whole newline (rollout.content.take start) ∧
          newline ∉ rollout.content.drop cursor.offset) := by
  unfold snapshotFrom at hsnapshot
  split at hsnapshot
  · cases hsnapshot
  · next decoded last hscan =>
    cases hsnapshot
    obtain ⟨hevents, hfree⟩ := scanLines_events hstart hscan
    refine ⟨hevents, fun hfit hne => ?_⟩
    rcases hbegin hfit with hwhole | hempty
    · refine ⟨hwhole, hfree ?_⟩
      rw [← List.take_append_drop start rollout.content] at hfit
      exact hfit.of_append hwhole
    · rw [hempty, scanLines_nil] at hscan
      cases hscan
      exact absurd rfl hne

/-- The events of a tail: from the beginning of a line to the end of the last one. -/
theorem snapshotTail_spec {format : RecordFormat ρ} {rollout : RolloutFile}
    {cursor : RolloutCursor} {records : List ρ}
    (hsnapshot : snapshotTail format rollout = .ok (cursor, records)) :
    EventsBetween format rollout (scanStart rollout) cursor.offset
        (records.filterMap format.parseRolloutEvent) ∧
      (LinesFit rollout.content → records ≠ [] →
        Whole newline (rollout.content.take (scanStart rollout)) ∧
          newline ∉ rollout.content.drop cursor.offset) :=
  snapshotFrom_spec (scanStart_le rollout) scanStart_spec hsnapshot

/-- Complete lines end where the last of them does. -/
theorem whole_le {rollout : RolloutFile} {first last : ℕ}
    (hfirst : Whole newline (rollout.content.take first))
    (hlast : Whole newline (rollout.content.take last)) (hwithin : first ≤ rollout.content.length)
    (hfree : newline ∉ rollout.content.drop last) : first ≤ last := by
  by_contra hlt
  have hsplit : rollout.content.take first =
      rollout.content.take last ++ rollout.between last first := by
    rw [← RolloutFile.between_zero rollout first, ← RolloutFile.between_zero rollout last]
    exact (RolloutFile.between_append_between (Nat.zero_le last) (by omega) rollout).symm
  have hbetween : newline ∉ rollout.between last first :=
    fun hmem => hfree (List.mem_of_mem_take hmem)
  rw [hsplit] at hfirst
  have hempty := (lines_append_free newline hlast hbetween).2
  rw [(whole_iff_unterminated newline).mp hfirst] at hempty
  have hlength := congrArg List.length hempty
  unfold RolloutFile.between at hlength
  rw [List.length_take, List.length_drop, List.length_nil] at hlength
  omega

/-- Complete lines up to two offsets, and between them. -/
theorem whole_between {rollout : RolloutFile} {first last : ℕ} (hle : first ≤ last)
    (hfirst : Whole newline (rollout.content.take first)) :
    Whole newline (rollout.content.take last) ↔ Whole newline (rollout.between first last) := by
  rw [← RolloutFile.between_zero rollout last, ← RolloutFile.between_append_between
    (Nat.zero_le first) hle rollout, RolloutFile.between_zero]
  exact ⟨whole_of_append newline hfirst, hfirst.append newline⟩

/-! ### Polls and recovery -/

theorem verdict_eq_none_of {turnId : String} {event : ObservedEvent}
    (hother : startsOther turnId event = false) (hends : endsTurn turnId event = none) :
    verdict turnId event = none := by
  rw [← Bool.not_eq_true, startsOther_iff] at hother
  unfold verdict
  unfold endsTurn at hends
  split
  · rfl
  · next hchild =>
    split
    · next hstart => exact absurd ⟨not_not.mp hchild, hstart⟩ hother
    · split
      · rfl
      · next hturn => rwa [if_pos ⟨not_not.mp hchild, not_not.mp hturn⟩] at hends

theorem endsTurn_of_verdict {turnId : String} {event : ObservedEvent}
    {status : ActivationFenceStatus} (hverdict : verdict turnId event = some status)
    (hended : status = .completed ∨ status = .aborted) : endsTurn turnId event ≠ none := by
  unfold verdict at hverdict
  unfold endsTurn
  split at hverdict
  · cases hverdict
  · next hchild =>
    split at hverdict
    · cases hverdict
      rcases hended with ⟨⟨⟩⟩ | ⟨⟨⟩⟩
    · split at hverdict
      · cases hverdict
      · next hturn =>
        rw [if_pos ⟨not_not.mp hchild, not_not.mp hturn⟩, hverdict]
        rintro ⟨⟩

theorem classify_mem {turnId : String} {events : List ObservedEvent}
    (hdecided : classify turnId events ≠ .pending) :
    ∃ event ∈ events, verdict turnId event = some (classify turnId events) := by
  induction events with
  | nil => exact absurd rfl hdecided
  | cons event rest ih =>
    cases hverdict : verdict turnId event with
    | none =>
      rw [classify_cons_of_none hverdict] at hdecided ⊢
      obtain ⟨later, hmem, hlater⟩ := ih hdecided
      exact ⟨later, List.mem_cons_of_mem _ hmem, hlater⟩
    | some status =>
      rw [classify_cons_of_some hverdict]
      exact ⟨event, List.mem_cons_self, hverdict⟩

theorem endsTurn_eq_some {turnId : String} {event : ObservedEvent}
    {status : ActivationFenceStatus} (hends : endsTurn turnId event = some status) :
    status = .completed ∨ status = .aborted := by
  unfold endsTurn at hends
  split at hends
  · cases hkind : event.kind <;> rw [hkind] at hends <;> cases hends
    · exact Or.inl rfl
    · exact Or.inr rfl
  · cases hends

/-- The end of a turn is not forgotten. -/
theorem statusAfter_of_end {turnId : String} {events : List ObservedEvent} {event : ObservedEvent}
    (hmem : event ∈ events) (hends : endsTurn turnId event ≠ none) :
    statusAfter turnId events = .completed ∨ statusAfter turnId events = .aborted := by
  obtain ⟨status, hstatus⟩ := Option.ne_none_iff_exists'.mp hends
  have hne : events.filterMap (endsTurn turnId) ≠ [] :=
    List.ne_nil_of_mem (List.mem_filterMap.mpr ⟨event, hmem, hstatus⟩)
  have hlast := List.getLast?_eq_some_getLast hne
  obtain ⟨final, -, hfinal⟩ := List.mem_filterMap.mp (List.getLast_mem hne)
  unfold statusAfter
  rw [hlast]
  exact endsTurn_eq_some hfinal

/-- What decides a wait decides a recovery. -/
theorem classify_of_statusAfter {turnId : String} {since after : List ObservedEvent}
    (hpending : statusAfter turnId (since ++ after) = .pending) :
    classify turnId after = .pending := by
  rw [classify_eq_pending_iff]
  intro event hmem
  have hboth : event ∈ since ++ after := List.mem_append_right _ hmem
  have hends : endsTurn turnId event = none := by
    by_contra hends
    rcases statusAfter_of_end hboth hends with hended | hended
    all_goals
      rw [hpending] at hended
      cases hended
  have hnone : (since ++ after).filterMap (endsTurn turnId) = [] := by
    rw [List.filterMap_eq_nil_iff]
    intro other hother
    by_contra hends
    rcases statusAfter_of_end hother hends with hended | hended
    all_goals
      rw [hpending] at hended
      cases hended
  refine verdict_eq_none_of ?_ hends
  rw [← Bool.not_eq_true]
  intro hother
  unfold statusAfter at hpending
  rw [hnone, if_pos (List.any_eq_true.mpr ⟨event, hboth, hother⟩)] at hpending
  cases hpending

section

variable {format : RecordFormat ρ} {before whole : RolloutFile} {fence recovered : ActivationFence}
  {status : ActivationFenceStatus}

/-- What a fence is captured from: the turn has begun, and neither ended nor begun again. -/
theorem capture_spec (hfit : LinesFit before.content)
    (hcapture : captureActivationFence format before = .ok fence) :
    ∃ past start since,
      EventsBetween format before (scanStart before) fence.cursor.offset (past ++ start :: since) ∧
      startsTurn fence.turnId start = true ∧
      (∀ event ∈ since,
        endsTurn fence.turnId event = none ∧ ¬ startsTurn fence.turnId event = true) ∧
      Whole newline (before.content.take (scanStart before)) := by
  unfold captureActivationFence at hcapture
  split at hcapture
  · cases hcapture
  · next cursor records hsnapshot =>
    split at hcapture
    · cases hcapture
    · next turn hturn =>
      cases hcapture
      obtain ⟨hevents, hwhole⟩ := snapshotTail_spec hsnapshot
      have hopen : OpenTurn (records.filterMap format.parseRolloutEvent) turn :=
        (captureTurn_eq_ok.mp hturn turn).mpr rfl
      obtain ⟨past, start, since, hsplit, hstart, hsince⟩ := hopen.strict
      rw [hsplit] at hevents
      refine ⟨past, start, since, hevents, hstart, hsince, (hwhole hfit ?_).1⟩
      rintro rfl
      cases past <;> cases hsplit

/-- What a recovery decides by. -/
theorem recover_spec {turnId : String} (hfit : LinesFit whole.content)
    (hrecover : recoverActivationFence format whole turnId = .ok (status, recovered)) :
    ∃ events, EventsBetween format whole (scanStart whole) recovered.cursor.offset events ∧
      recoverStatus turnId events = .ok status ∧
      Whole newline (whole.content.take (scanStart whole)) ∧
      newline ∉ whole.content.drop recovered.cursor.offset := by
  unfold recoverActivationFence at hrecover
  split at hrecover
  · cases hrecover
  · next cursor records hsnapshot =>
    split at hrecover
    · cases hrecover
    · next decided hdecided =>
      cases hrecover
      obtain ⟨hevents, hwhole⟩ := snapshotTail_spec hsnapshot
      obtain ⟨event, hmem, -⟩ := recoverStatus_seen hdecided
      refine ⟨_, hevents, hdecided, hwhole hfit ?_⟩
      rintro rfl
      cases hmem

/-- The turn does not start at an offset or behind it. -/
def NotStartedFrom (format : RecordFormat ρ) (turnId : String) (whole : RolloutFile)
    (offset : ℕ) : Prop :=
  ∀ start stop events, offset ≤ start → EventsBetween format whole start stop events →
    ∀ event ∈ events, startsTurn turnId event = false

variable {turnId : String} {first second fenced last : ℕ} {past since events : List ObservedEvent}
  {start : ObservedEvent}

/-- Wherever a second scan begins, it ends with the start of the turn and what follows it,
if it sees the turn start. -/
theorem scan_from_start
    (hcaptured : EventsBetween format whole first fenced (past ++ start :: since))
    (hfirst : Whole newline (whole.content.take first))
    (hscan : EventsBetween format whole second last events)
    (hsecond : Whole newline (whole.content.take second)) (hle : fenced ≤ last)
    (hsince : ∀ event ∈ since, ¬ startsTurn turnId event = true)
    (honce : NotStartedFrom format turnId whole fenced)
    (hseen : ∃ event ∈ events, startsTurn turnId event = true) :
    ∃ earlier after, EventsBetween format whole fenced last after ∧
      events = earlier ++ start :: (since ++ after) := by
  obtain ⟨seen, hmem, hseen⟩ := hseen
  have hfenced : Whole newline (whole.content.take fenced) :=
    (whole_between hcaptured.1 hfirst).mpr hcaptured.2.2.1
  by_cases hlate : fenced ≤ second
  · have hnot := honce second last events hlate hscan seen hmem
    rw [hseen] at hnot
    cases hnot
  · have hsecondLe : second ≤ fenced := by omega
    obtain ⟨kept, after, hkept, hafter, rfl⟩ :=
      hscan.split hsecondLe hle ((whole_between hsecondLe hsecond).mp hfenced)
    rcases Nat.le_total second first with horder | horder
    · obtain ⟨extra, same, -, hsame, rfl⟩ :=
        hkept.split horder hcaptured.1 ((whole_between horder hsecond).mp hfirst)
      rw [hsame.unique hcaptured]
      exact ⟨extra ++ past, after, hafter, by simp⟩
    · obtain ⟨dropped, same, -, hsame, hsplit⟩ :=
        hcaptured.split horder hsecondLe ((whole_between horder hfirst).mp hsecond)
      obtain rfl := hsame.unique hkept
      have hseenKept : seen ∈ same := by
        rcases List.mem_append.mp hmem with hmem | hmem
        · exact hmem
        · have hnot := honce fenced last after (le_refl _) hafter seen hmem
          rw [hseen] at hnot
          cases hnot
      -- a cut behind the start would leave no start of the turn
      rcases List.append_eq_append_iff.mp hsplit with ⟨middle, hpast, hsame⟩ | ⟨middle, -, hsame⟩
      · cases middle with
        | nil =>
          rw [List.nil_append] at hsame
          exact ⟨[], after, hafter, by rw [← hsame]; simp⟩
        | cons head middle =>
          obtain ⟨rfl, rfl⟩ := List.cons.inj hsame
          exact absurd hseen (hsince seen (List.mem_append_right _ hseenKept))
      · exact ⟨middle, after, hafter, by rw [hsame]; simp⟩

end

/-- **Polls and recovery agree.**  A daemon that waits behind a captured fence, and one that
    starts again and recovers the turn from a later tail: recovery decides by the last end of
    the turn and by what began since the turn did, and a wait that has decided is not taken
    back.  An end that a wait saw is an end for recovery too. -/
theorem recover_agrees (format : RecordFormat ρ) {before whole : RolloutFile}
    {rollouts : List RolloutFile} {fence next recovered : ActivationFence}
    {polled status : ActivationFenceStatus} (hfit : LinesFit whole.content)
    (hbefore : before.content <+: whole.content)
    (hrollouts : ∀ rollout ∈ rollouts, rollout.content <+: whole.content)
    (honce : NotStartedFrom format fence.turnId whole fence.cursor.offset)
    (hcapture : captureActivationFence format before = .ok fence)
    (hwatch : watch format fence rollouts = .ok (polled, next))
    (hrecover : recoverActivationFence format whole fence.turnId = .ok (status, recovered)) :
    (∃ past start since after,
      EventsBetween format before (scanStart before) fence.cursor.offset (past ++ start :: since) ∧
      EventsBetween format whole fence.cursor.offset recovered.cursor.offset after ∧
      startsTurn fence.turnId start = true ∧
      (∀ event ∈ since, endsTurn fence.turnId event = none) ∧
      status = statusAfter fence.turnId (since ++ after)) ∧
    (polled ≠ .pending → status ≠ .pending) ∧
    (polled = .completed ∨ polled = .aborted → status = .completed ∨ status = .aborted) := by
  obtain ⟨past, start, since, hcaptured, hstart, hsince, hfirst⟩ :=
    capture_spec (hfit.of_prefix hbefore) hcapture
  obtain ⟨events, hscan, hdecided, hsecond, hfree⟩ := recover_spec hfit hrecover
  have hcaptured' := hcaptured.of_prefix hbefore
  have hfirst' : Whole newline (whole.content.take (scanStart before)) := by
    rwa [← RolloutFile.between_zero, between_of_prefix hbefore (scanStart_le before),
      RolloutFile.between_zero]
  have hlast : Whole newline (whole.content.take recovered.cursor.offset) :=
    (whole_between hscan.1 hsecond).mpr hscan.2.2.1
  have hfenced : Whole newline (whole.content.take fence.cursor.offset) :=
    (whole_between hcaptured'.1 hfirst').mpr hcaptured'.2.2.1
  have hle := whole_le hfenced hlast hcaptured'.2.1 hfree
  obtain ⟨earlier, after, hafter, rfl⟩ := scan_from_start hcaptured' hfirst' hscan hsecond hle
    (fun event hmem => (hsince event hmem).2) honce (recoverStatus_seen hdecided)
  have hnone : ∀ event ∈ since ++ after, startsTurn fence.turnId event = false := by
    intro event hmem
    rcases List.mem_append.mp hmem with hmem | hmem
    · exact Bool.eq_false_iff.mpr (hsince event hmem).2
    · exact honce _ _ after (le_refl _) hafter event hmem
  rw [recoverStatus_of_start hstart hnone, Except.ok.injEq] at hdecided
  obtain ⟨-, hpolled⟩ := watch_stretch hrollouts hcaptured'.2.1 hwatch
  have hnextLe : next.cursor.offset ≤ recovered.cursor.offset := by
    obtain ⟨polledEvents, hstretch, -⟩ := hpolled
    exact whole_le ((whole_between hstretch.1 hfenced).mpr hstretch.2.2.1) hlast hstretch.2.1 hfree
  have hclassify : polled ≠ .pending → classify fence.turnId after = polled :=
    fun hpending => hpolled.mono hpending ⟨after, hafter, rfl⟩ hnextLe
  refine ⟨⟨past, start, since, after, hcaptured, hafter, hstart,
    fun event hmem => (hsince event hmem).1, hdecided.symm⟩, ?_, ?_⟩
  · rintro hpending rfl
    exact hpending ((hclassify hpending).symm.trans (classify_of_statusAfter hdecided))
  · intro hended
    have hpending : polled ≠ .pending := by rcases hended with rfl | rfl <;> rintro ⟨⟩
    have hsame := hclassify hpending
    obtain ⟨event, hmem, hverdict⟩ := classify_mem (hsame.symm ▸ hpending)
    rw [hsame] at hverdict
    rw [← hdecided]
    exact statusAfter_of_end (List.mem_append_right _ hmem) (endsTurn_of_verdict hverdict hended)

/-! ### A turn of two lines -/

/-- Lines of one letter: a turn starts, or ends. -/
def letterFormat : RecordFormat UInt8 where
  loadLine
    | [letter, 10] => .ok (some letter)
    | _ => .error .jsonDecodeError
  parseRolloutEvent letter :=
    if letter = 83 then some { kind := .turnStarted, occurredAt := 0, turnId := some "turn" }
    else if letter = 69 then some { kind := .turnCompleted, occurredAt := 1, turnId := some "turn" }
    else none

def startedRollout : RolloutFile := ⟨1, 2, [83, 10]⟩

def endedRollout : RolloutFile := ⟨1, 2, [83, 10, 69, 10]⟩

theorem endedRollout_once : NotStartedFrom letterFormat "turn" endedRollout 2 := by
  rintro start stop events hstart ⟨hle, hwithin, -, records, hdecode, rfl⟩
  have hstop : stop ≤ 4 := hwithin
  have hcases : (start = 2 ∧ stop = 2 ∨ start = 2 ∧ stop = 3 ∨ start = 2 ∧ stop = 4 ∨
      start = 3 ∧ stop = 3 ∨ start = 4 ∧ stop = 4) ∨ start = 3 ∧ stop = 4 := by omega
  rcases hcases with hwhole | ⟨rfl, rfl⟩
  · rcases hwhole with ⟨rfl, rfl⟩ | ⟨rfl, rfl⟩ | ⟨rfl, rfl⟩ | ⟨rfl, rfl⟩ | ⟨rfl, rfl⟩
    all_goals
      cases hdecode
      decide
  · cases hdecode

theorem watch_agrees_ended :
    StretchStatus letterFormat "turn" endedRollout 2 4 .completed ∧
      (ActivationFenceStatus.completed ≠ .pending → ActivationFenceStatus.completed ≠ .pending →
        ActivationFenceStatus.completed = .completed) :=
  @watch_agrees _ letterFormat ⟨"turn", ⟨1, 2, 2⟩⟩ ⟨"turn", ⟨1, 2, 4⟩⟩ ⟨"turn", ⟨1, 2, 4⟩⟩
    endedRollout [startedRollout, endedRollout] [endedRollout] _ _ (by decide) (by decide)
    (by decide) (by decide) (by decide)

theorem recover_agrees_ended :
    (∃ past start since after,
      EventsBetween letterFormat startedRollout (scanStart startedRollout) 2
        (past ++ start :: since) ∧
      EventsBetween letterFormat endedRollout 2 4 after ∧
      startsTurn "turn" start = true ∧
      (∀ event ∈ since, endsTurn "turn" event = none) ∧
      .completed = statusAfter "turn" (since ++ after)) ∧
    (ActivationFenceStatus.completed ≠ .pending → ActivationFenceStatus.completed ≠ .pending) ∧
    (ActivationFenceStatus.completed = .completed ∨ ActivationFenceStatus.completed = .aborted →
      ActivationFenceStatus.completed = .completed ∨
        ActivationFenceStatus.completed = .aborted) :=
  @recover_agrees _ letterFormat startedRollout endedRollout [startedRollout, endedRollout]
    ⟨"turn", ⟨1, 2, 2⟩⟩ ⟨"turn", ⟨1, 2, 4⟩⟩ ⟨"turn", ⟨1, 2, 4⟩⟩ _ _
    ⟨by decide, by decide⟩ (by decide) (by decide) endedRollout_once (by decide) (by decide)
    (by decide)

end CodexMustWork.ActivationFences
