import CodexMustWork.TerminalMonitors
import CodexMustWork.TurnHandshake

/-!
# The watcher among the writers of a document

What the modelled watcher writes into the document of a session: it reads the members it
knows, which are those of its monitors, of the turn it watches and of the completion it
claims, and writes back the ones it has changed.  The revision is not among these, and the
handshake has no member there.
-/

namespace CodexMustWork.ManagedTurns

open ExactOwnership HookState

/-! ### Members as fields -/

/-- How a value under a key is taken for a type, and how one is put in its place; a rendering
is given the value it replaces, whose other members it keeps. -/
structure MemberCodec (α : Type) where
  take : PyValue → Option α
  render : Option PyValue → α → PyValue

namespace MemberCodec

variable {α : Type} (codec : MemberCodec α)

/-- What `dict.get` finds. -/
def field : Option PyValue → Field α
  | none => .absent
  | some .none => .null
  | some found =>
      match codec.take found with
      | some value => .value value
      | none => .mistyped

variable [DecidableEq α]

/-- A field that has changed is written to its member; the watcher takes none away. -/
def putChanged (key : String) (changed : Field α) (values : PyDict) : PyDict :=
  if changed = codec.field (values.find key) then values
  else
    match changed with
    | .value found => values.put key (codec.render (values.find key) found)
    | .null => values.put key .none
    | .absent | .mistyped => values

variable {codec}

theorem putChanged_same {key : String} {values : PyDict} :
    codec.putChanged key (codec.field (values.find key)) values = values :=
  if_pos rfl

theorem find_putChanged {key other : String} {changed : Field α} {values : PyDict}
    (hne : other ≠ key) : (codec.putChanged key changed values).find other = values.find other := by
  unfold putChanged
  split
  · rfl
  · cases changed with
    | value found => exact values.find_put_of_ne hne _
    | null => exact values.find_put_of_ne hne _
    | absent => rfl
    | mistyped => rfl

end MemberCodec

/-- The types that the members of a runtime document have. -/
structure DocumentCodec where
  flag : MemberCodec Bool
  text : MemberCodec String
  number : MemberCodec Int
  monitor : MemberCodec MonitorValues
  children : MemberCodec ChildValues

namespace DocumentCodec

variable (codec : DocumentCodec)

/-- The fields of a document. -/
def read (values : PyDict) : RuntimeValues where
  enabled := codec.flag.field (values.find "enabled")
  sessionId := codec.text.field (values.find "session_id")
  transcriptPath := codec.text.field (values.find "transcript_path")
  parentTurnId := codec.text.field (values.find "parent_turn_id")
  parentComplete := codec.flag.field (values.find "parent_complete")
  warningAfterMs := codec.number.field (values.find "warning_after_ms")
  criticalAfterMs := codec.number.field (values.find "critical_after_ms")
  restartAfterMs := codec.number.field (values.find "restart_after_ms")
  turnActivityEpoch := codec.number.field (values.find "turn_activity_epoch")
  revision := codec.number.field (values.find "revision")
  completionEventId := codec.text.field (values.find "completion_event_id")
  parent := codec.monitor.field (values.find "parent")
  children := codec.children.field (values.find "children")

/-- A document with the fields that have changed. -/
def write (values : PyDict) (after : RuntimeValues) : PyDict :=
  codec.flag.putChanged "enabled" after.enabled <|
  codec.text.putChanged "session_id" after.sessionId <|
  codec.text.putChanged "transcript_path" after.transcriptPath <|
  codec.text.putChanged "parent_turn_id" after.parentTurnId <|
  codec.flag.putChanged "parent_complete" after.parentComplete <|
  codec.number.putChanged "warning_after_ms" after.warningAfterMs <|
  codec.number.putChanged "critical_after_ms" after.criticalAfterMs <|
  codec.number.putChanged "restart_after_ms" after.restartAfterMs <|
  codec.number.putChanged "turn_activity_epoch" after.turnActivityEpoch <|
  codec.text.putChanged "completion_event_id" after.completionEventId <|
  codec.monitor.putChanged "parent" after.parent <|
  codec.children.putChanged "children" after.children <|
  codec.number.putChanged "revision" after.revision values

/-- One run of the processor of the engine over a document. -/
def tick (H : Digest) (context : TickContext) (target : RuntimeTarget)
    (events : List ObservedEvent) (watcher : WatcherState) (values : PyDict) :
    Except TurnFailure PyDict :=
  match (tickTarget H context target (codec.read values) events watcher).2 with
  | .error failure => .error (.state failure)
  | .ok (after, _) => .ok (codec.write values after)

variable {codec}

/-- Without a change of the revision, neither it nor the handshake is written. -/
theorem find_write {values : PyDict} {after : RuntimeValues}
    (hrevision : after.revision = (codec.read values).revision) {key : String}
    (hkey : key ∈ "revision" :: turnKeys) :
    (codec.write values after).find key = values.find key := by
  have hkept : codec.number.putChanged "revision" after.revision values = values := by
    rw [hrevision]
    exact MemberCodec.putChanged_same
  have hne : ∀ {other : String}, other ∉ "revision" :: turnKeys → key ≠ other := by
    rintro other hother rfl
    exact hother hkey
  unfold write
  rw [hkept]
  iterate 12 rw [MemberCodec.find_putChanged (hne (by decide))]

end DocumentCodec

/-! ### The watcher as a writer -/

section Watchers

variable (codec : DocumentCodec) (H : Digest) (context : TickContext) (target : RuntimeTarget)
  (events : List ObservedEvent) (watcher : WatcherState)

/-- The watcher writes no member of the handshake and no revision. -/
theorem tick_frame {values after : PyDict}
    (htick : codec.tick H context target events watcher values = .ok after) :
    ∀ key ∈ "revision" :: turnKeys, after.find key = values.find key := by
  unfold DocumentCodec.tick at htick
  cases hrun : tickTarget H context target (codec.read values) events watcher with
  | mk left outcome =>
    rw [hrun] at htick
    cases outcome with
    | error failure => cases htick
    | ok pair =>
      obtain ⟨fields, active⟩ := pair
      cases htick
      obtain ⟨hends, -, -⟩ := tickTarget_ends hrun
      exact fun key hkey => DocumentCodec.find_write hends.revision hkey

/-- The watcher of the engine as a writer of the document. -/
def watcherProcessor : Processor where
  process := codec.tick H context target events watcher
  frame := tick_frame codec H context target events watcher

/-- A commit of the watcher leaves who owns a turn. -/
theorem watcher_keeps_owner (path : String) (past : List Write) (snapshotRevision : ℤ) :
    (writeMachine.step (writeMachine.after ⟨path, none, []⟩ past)
      (.commit (watcherProcessor codec H context target events watcher)
        snapshotRevision)).1.owner = (writeMachine.after ⟨path, none, []⟩ past).owner := by
  obtain ⟨-, move, hmove, hallowed⟩ := write_sound (runs_sound path past)
    (.commit (watcherProcessor codec H context target events watcher) snapshotRevision)
  have hkeep : move = .keep := by
    rcases hmove with rfl | rfl
    · rfl
    · rfl
  rw [hkeep] at hallowed
  exact hallowed

end Watchers

end CodexMustWork.ManagedTurns
