import CodexMustWork.Library.DecimalText
import CodexMustWork.StateFiles

/-!
# The files of the diagnostic log

`scripts/monitor_diagnostics.py`: a log of JSON lines, one for each event, with a bound on
its size and two backups.  An event with an identity is written only when none of the three
files mentions the identity.
-/

namespace CodexMustWork.MonitorDiagnostics

open DisturbedRuns StateFiles

/-! ### Events -/

/-- `DiagnosticCode`. -/
inductive Code where
  | watcherStarted
  | heartbeatActive
  | watcherCompleted
  | observableProgressSilence
  | bottleneckCritical
  | progressRecovered
  | discordNotificationFailed
  | rolloutCorrupt
  | rolloutRotated
  | stateUnavailable
deriving DecidableEq, Repr

def Code.value : Code → String
  | .watcherStarted => "watcher_started"
  | .heartbeatActive => "heartbeat_active"
  | .watcherCompleted => "watcher_completed"
  | .observableProgressSilence => "observable_progress_silence"
  | .bottleneckCritical => "bottleneck_critical"
  | .progressRecovered => "progress_recovered"
  | .discordNotificationFailed => "discord_notification_failed"
  | .rolloutCorrupt => "rollout_corrupt"
  | .rolloutRotated => "rollout_rotated"
  | .stateUnavailable => "state_unavailable"

/-- `MonitorState`. -/
inductive State where
  | active
  | paused
  | completed
  | failedClosed
deriving DecidableEq, Repr

def State.value : State → String
  | .active => "active"
  | .paused => "paused"
  | .completed => "completed"
  | .failedClosed => "failed_closed"

/-- `_is_sha256`. -/
def isSha256 (value : String) : Bool :=
  decide (value.length = 64) && value.toList.all fun c => "0123456789abcdef".toList.contains c

/-- A text that `_is_sha256` accepts. -/
structure Sha256 where
  text : String
  valid : isSha256 text = true
deriving DecidableEq

/-- A time in UTC. -/
structure UtcTime where
  year : ℕ
  month : ℕ
  day : ℕ
  hour : ℕ
  minute : ℕ
  second : ℕ
  microsecond : ℕ
deriving DecidableEq, Repr

/-- Decimal digits, with zeros before them up to a width. -/
def padded (width number : ℕ) : String :=
  String.ofList (List.replicate (width - (Nat.toDigits 10 number).length) '0' ++
    Nat.toDigits 10 number)

/-- `isoformat().replace("+00:00", "Z")`. -/
def UtcTime.isoformat (time : UtcTime) : String :=
  padded 4 time.year ++ "-" ++ padded 2 time.month ++ "-" ++ padded 2 time.day ++ "T" ++
    padded 2 time.hour ++ ":" ++ padded 2 time.minute ++ ":" ++ padded 2 time.second ++
    (if time.microsecond = 0 then "" else "." ++ padded 6 time.microsecond) ++ "Z"

/-- An event whose hashes and identity passed `__post_init__`. -/
structure Event where
  occurredAt : UtcTime
  code : Code
  state : State
  sessionHash : Sha256
  childHash : Option Sha256
  elapsedMs : Option ℕ
  eventId : Option Sha256
deriving DecidableEq

/-! ### Lines -/

/-- The bytes of an ASCII text. -/
def ascii (text : String) : List UInt8 := text.toList.map fun c => c.toNat.toUInt8

def lineEnd : UInt8 := 10

def quote : UInt8 := 34

def jsonText (text : String) : List UInt8 := quote :: (ascii text ++ [quote])

def jsonHash : Option Sha256 → List UInt8
  | none => ascii "null"
  | some hash => jsonText hash.text

def jsonMember (key : String) (value : List UInt8) : List UInt8 :=
  jsonText key ++ (ascii ":" ++ value)

/-- The line of an event, without its end; the members are sorted by their keys. -/
def lineText (event : Event) : List UInt8 :=
  ascii "\x7b" ++
    ((ascii ",").intercalate [
      jsonMember "child_hash" (jsonHash event.childHash),
      jsonMember "code" (jsonText event.code.value),
      jsonMember "elapsed_ms" (match event.elapsedMs with
        | none => ascii "null"
        | some elapsed => ascii elapsed.repr),
      jsonMember "event_id" (jsonHash event.eventId),
      jsonMember "schema_version" (ascii "1"),
      jsonMember "session_hash" (jsonText event.sessionHash.text),
      jsonMember "state" (jsonText event.state.value),
      jsonMember "timestamp" (jsonText event.occurredAt.isoformat)] ++ ascii "\x7d")

/-- `_encode`. -/
def encode (event : Event) : List UInt8 := lineText event ++ [lineEnd]

/-! ### The log -/

def maxLogBytes : ℤ := 1048576

/-- `InvalidDiagnosticError`. -/
def invalid (reason : String) : StateFailure := .diagnostic reason

def logsPath (root : StatePath) : StatePath := root ++ ["logs"]

/-- `diagnostic.jsonl`. -/
def logPath (root : StatePath) : StatePath := logsPath root ++ ["diagnostic.jsonl"]

/-- `path.with_name` of a backup. -/
def backupPath (path : StatePath) (index : ℕ) : StatePath :=
  sibling path fun name => name ++ "." ++ index.repr

/-- `_log_paths`. -/
def logPaths (path : StatePath) : List StatePath := [path, backupPath path 1, backupPath path 2]

section Functions

variable (token : String) (root path : StatePath)

/-- `_ensure_direct_file`. -/
def ensureDirectFile (site : LogStep) (path : StatePath) : Call Unit :=
  Run.look (.log site) fun disk =>
    match disk path with
    | .missing => .ok ()
    | .file _ links => if links = 1 then .ok () else .error (.unsafeDiagnostic path)
    | _ => .error (.unsafeDiagnostic path)

/-- `_diagnostic_path`. -/
def diagnosticPath : Call Unit := do
  Run.forEach [root, logsPath root] fun candidate =>
    Run.look (.log (.candidate candidate)) fun disk =>
      if disk candidate = .redirect then .error (.unsafeDiagnostic candidate) else .ok ()
  Run.forEach (logsPath root).inits makeDirectory
  touch (.chmod root)
  touch (.chmod (logsPath root))
  ensureDirectFile .opening (logPath root)

/-- The bytes up to the last line end. -/
def completeLines (content : List UInt8) : List UInt8 :=
  (content.reverse.dropWhile (· ≠ lineEnd)).reverse

/-- `_complete_bytes`; what a redirect leads to is not modelled. -/
def completeBytes (site : LogStep) (path : StatePath) (maxBytes : ℤ) : Call (List UInt8) :=
  Run.look (.log site) fun disk =>
    match disk path with
    | .missing => .ok []
    | .file content _ =>
        if maxBytes < content.length then .error (invalid "log_size_invalid")
        else .ok (completeLines content)
    | _ => .error .osError

/-- `needle in content`. -/
def contains (needle content : List UInt8) : Bool := decide (needle <:+: content)

def needleOf (eventId : Sha256) : List UInt8 :=
  jsonText "event_id" ++ (ascii ":" ++ jsonText eventId.text)

/-- `any(needle in _complete_bytes(candidate, MAX_LOG_BYTES) for candidate in paths)`. -/
def anyContains (needle : List UInt8) : List StatePath → Call Bool
  | [] => pure false
  | candidate :: rest => do
      let content ← completeBytes (.search candidate) candidate maxLogBytes
      if contains needle content then return true else anyContains needle rest

/-- `_contains_event_id`, where there is an identity to look for. -/
def containsEventId (eventId : Option Sha256) : Call Bool :=
  match eventId with
  | none => pure false
  | some eventId => anyContains (needleOf eventId) (logPaths path)

/-- `path.replace`. -/
def moveFile (site : LogStep) (source target : StatePath) : Call Unit :=
  Run.act (.log site) fun disk =>
    match disk source with
    | .missing => .error .osError
    | entry =>
        if disk target = .directory then .error .osError
        else .ok (Function.update (Function.update disk target entry) source .missing)

/-- A backup takes the next place, where there is one. -/
def shiftBackup (index : ℕ) : Call Unit := do
  let source := backupPath path index
  let found ← Run.look (.log .isFile) fun disk =>
    match disk source with
    | .file _ _ => .ok true
    | _ => .ok false
  if found then moveFile .shift source (backupPath path (index + 1)) else pure ()

/-- `_rotate`. -/
def rotate : Call Unit := do
  Run.forEach (logPaths path) fun candidate => ensureDirectFile (.rotating candidate) candidate
  Run.act (.log .unlinkOldest) fun disk =>
    if disk (backupPath path 2) = .directory then .error .osError
    else .ok (Function.update disk (backupPath path 2) .missing)
  shiftBackup path 1
  moveFile .retire path (backupPath path 1)

/-- Rotate when the line does not fit, and append it. -/
def writeEvent (maxBytes : ℤ) (encoded : List UInt8) : Call Unit := do
  let existing ← completeBytes .existing path maxBytes
  if maxBytes < (existing.length + encoded.length : ℕ) then do
    rotate path
    replaceFile token path (.ok encoded)
  else replaceFile token path (.ok (existing ++ encoded))

/-- The body of `with ExclusiveWriteLock(path)`. -/
def lockedAppend (event : Event) (maxBytes : ℤ) : Call Bool := do
  ensureDirectFile .locked path
  if ← containsEventId path event.eventId then return false
  else do
    writeEvent token path maxBytes (encode event)
    return true

/-- Append a unique bounded event and report whether it was newly written. -/
def appendDiagnosticOnce (event : Event) (maxBytes : ℤ) : Call Bool := do
  if maxBytes < 1 then Run.raise (invalid "max_bytes_invalid")
  else do
    diagnosticPath root
    if maxBytes < (encode event).length then Run.raise (invalid "record_exceeds_limit")
    else withLock (logPath root) (lockedAppend token (logPath root) event maxBytes)

/-- `diagnostic_event_exists`, of an identity that `_is_sha256` accepts. -/
def diagnosticEventExists (eventId : Sha256) : Call Bool := do
  diagnosticPath root
  withLock (logPath root) (containsEventId (logPath root) (some eventId))

end Functions

end CodexMustWork.MonitorDiagnostics
