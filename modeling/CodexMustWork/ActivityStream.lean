import CodexMustWork.AppServerEvents
import CodexMustWork.Library.RetainedLog

/-!
# The activity of an app-server client

`AppServerActivityStream` of `scripts/app_server_activity.py`: the messages of one
connection after another, and the bounded deque of what they were about.  Every call is made
under the condition of the stream, so that a run of the stream is a list of calls, in
whatever order the readers of the connections and the callers come.
-/

namespace CodexMustWork.ActivityStream

open AppServerEvents

/-! ### Activities -/

inductive AppServerActivityKind where
  | turnStarted
  | turnProgress
  | turnCompleted
  | serverRequest
  | connectionClosed
deriving DecidableEq, Repr

structure AppServerActivity where
  kind : AppServerActivityKind
  threadId : Option PyText
  turnId : Option PyText
  outcome : Option TurnOutcome
deriving DecidableEq

structure ActivityObservation where
  generation : ℕ
  sequence : ℕ
  activity : AppServerActivity
deriving DecidableEq

/-- `_thread_id`: a member `thread` hides the member `turn`, also when it has no `id`. -/
def threadId (params : PyDict) : Option PyText :=
  (string params "threadId" <|> string params "conversationId") <|>
    match object params "thread" with
    | some thread => string thread "id"
    | none => (object params "turn").bind fun turn =>
        string turn "threadId" <|> string turn "conversationId"

/-- `_is_response`. -/
def isResponse (message : PyDict) : Bool :=
  (message.find "result").isSome || (message.find "error").isSome

/-- What `_classify` says of a notification once its thread is known. -/
def classifyTurn (method turn : PyText) (thread : Option PyText) (outcome : Option TurnOutcome) :
    AppServerActivity :=
  if method = pyText "turn/started" then ⟨.turnStarted, thread, some turn, none⟩
  else if method = pyText "turn/completed" then ⟨.turnCompleted, thread, some turn, outcome⟩
  else ⟨.turnProgress, thread, some turn, none⟩

/-- `_classify`, with the events that its look at the correlations leaves. -/
def classify (message : PyDict) (events : AppServerEventState) (now : ℚ) :
    AppServerEventState × Option AppServerActivity :=
  match string message "method" with
  | none => (events, none)
  | some method =>
      if (string message "id").isSome && !isResponse message then
        let ownership := (object message "params").getD []
        (events, some ⟨.serverRequest, threadId ownership, turnId ownership, none⟩)
      else
        match object message "params" with
        | none => (events, none)
        | some params =>
            match turnId params, threadId params with
            | none, _ => (events, none)
            | some turn, some thread =>
                (events, some (classifyTurn method turn (some thread)
                  (events.turnOutcomes.get turn)))
            | some turn, none =>
                let swept := events.expireCorrelations now
                (swept, some (classifyTurn method turn
                  ((swept.turnCorrelations.get turn).map TurnCorrelation.threadId)
                  (swept.turnOutcomes.get turn)))

/-! ### One connection -/

/-- What is called on the events of one connection, with the readings of the clock. -/
inductive ConnectionCall where
  | message (body : PyDict) (now later : ℚ)
  | takeResponse (requestId : PyText)
  | bindStartedTurn (thread turn : PyText) (now : ℚ)
  | correlateTurn (thread turn : PyText) (now : ℚ)

inductive ConnectionReply where
  | classified (activity : Option AppServerActivity)
  | response (message : Option PyDict)
  | events (reply : Reply)

/-- The activity that is to be published. -/
def ConnectionReply.activity : ConnectionReply → Option AppServerActivity
  | .classified activity => activity
  | _ => none

/-- A call on the events of one connection: a message is recorded, and classified unless
this raises. -/
def connectionStep (events : AppServerEventState) : ConnectionCall →
    AppServerEventState × ConnectionReply
  | .message body now later =>
      match events.record body now with
      | (recorded, .raised message) => (recorded, .events (.raised message))
      | (recorded, _) =>
          ((classify body recorded later).1, .classified (classify body recorded later).2)
  | .takeResponse requestId =>
      ({ events with responses := events.responses.erase requestId },
        .response (events.responses.get requestId))
  | .bindStartedTurn thread turn now =>
      ((events.bindStartedTurn thread turn now).1,
        .events (events.bindStartedTurn thread turn now).2)
  | .correlateTurn thread turn now =>
      ((events.correlateTurn thread turn now).1,
        .events (match (events.correlateTurn thread turn now).2 with
          | some message => .raised message
          | none => .done))

/-- One connection. -/
def connection : Machine AppServerEventState ConnectionCall ConnectionReply := ⟨connectionStep⟩

/-! ### The stream -/

/-- `_MAX_OBSERVATIONS`. -/
def maxObservations : ℕ := 512

structure AppServerActivityStream where
  events : AppServerEventState
  observations : List ActivityObservation
  sequence : ℕ
  generation : ℕ
  closedError : Option String
  closedActivityEmitted : Bool

def AppServerActivityStream.initial : AppServerActivityStream :=
  ⟨.initial, [], 0, 0, none, false⟩

/-- A call, where a message or a close of a connection names its generation if it has one. -/
inductive StreamCall where
  | reset
  | call (generation : Option ℕ) (body : ConnectionCall)
  | markClosed (reason : String) (generation : Option ℕ)
  | waitActivity (afterSequence : ℕ)

inductive StreamReply where
  | generation (number : ℕ)
  | ignored
  | connection (reply : ConnectionReply)
  | closed
  | observation (found : Option ActivityObservation)

/-- What a call returns, and what it publishes. -/
structure StreamOutput where
  reply : StreamReply
  published : Option ActivityObservation

namespace AppServerActivityStream

/-- The next observation. -/
def observe (stream : AppServerActivityStream) (activity : AppServerActivity) :
    ActivityObservation :=
  ⟨stream.generation, stream.sequence + 1, activity⟩

/-- `_publish`: a deque of bounded length drops its first item. -/
def publish (stream : AppServerActivityStream) (activity : AppServerActivity) :
    AppServerActivityStream :=
  { stream with
    sequence := stream.sequence + 1
    observations := RetainedLog.latest maxObservations
      (stream.observations ++ [stream.observe activity]) }

/-- `reset`. -/
def reset (stream : AppServerActivityStream) : AppServerActivityStream :=
  { stream with
    generation := stream.generation + 1
    events := .initial
    closedError := none
    closedActivityEmitted := false }

/-- A generation that a caller names, or the current one. -/
def target (stream : AppServerActivityStream) (generation : Option ℕ) : ℕ :=
  generation.getD stream.generation

/-- `_after`. -/
def «after» (stream : AppServerActivityStream) (sequence : ℕ) : Option ActivityObservation :=
  stream.observations.find? fun item => decide (sequence < item.sequence)

/-- The stream with what a call leaves of the events of the connection. -/
def received (stream : AppServerActivityStream) (body : ConnectionCall) :
    AppServerActivityStream :=
  { stream with events := (connectionStep stream.events body).1 }

/-- `record`, `read_stdout` and the calls that reach the events of the connection. -/
def onConnection (stream : AppServerActivityStream) (body : ConnectionCall) :
    AppServerActivityStream × StreamOutput :=
  match (connectionStep stream.events body).2.activity with
  | some activity =>
      ((stream.received body).publish activity,
        ⟨.connection (connectionStep stream.events body).2, some (stream.observe activity)⟩)
  | none =>
      (stream.received body, ⟨.connection (connectionStep stream.events body).2, none⟩)

def closedActivity : AppServerActivity := ⟨.connectionClosed, none, none, none⟩

/-- The stream with the reason of a close. -/
def marked (stream : AppServerActivityStream) (reason : String) : AppServerActivityStream :=
  { stream with closedError := some reason, closedActivityEmitted := true }

def step (stream : AppServerActivityStream) : StreamCall → AppServerActivityStream × StreamOutput
  | .reset => (stream.reset, ⟨.generation (stream.generation + 1), none⟩)
  | .call generation body =>
      if stream.target generation = stream.generation then stream.onConnection body
      else (stream, ⟨.ignored, none⟩)
  | .markClosed reason generation =>
      if stream.target generation ≠ stream.generation ∨ stream.closedActivityEmitted then
        (stream, ⟨.ignored, none⟩)
      else
        ((stream.marked reason).publish closedActivity,
          ⟨.closed, some (stream.observe closedActivity)⟩)
  | .waitActivity afterSequence => (stream, ⟨.observation (stream.after afterSequence), none⟩)

end AppServerActivityStream

/-- The stream of one client. -/
def stream : Machine AppServerActivityStream StreamCall StreamOutput :=
  ⟨AppServerActivityStream.step⟩

/-- What a run of the stream publishes. -/
def publishedBy (calls : List StreamCall) : List ActivityObservation :=
  (stream.outputs .initial calls).filterMap StreamOutput.published

/-! ### What is published -/

namespace AppServerActivityStream

/-- The deque has the last of a log, whose observations are numbered from one. -/
structure Logged (stream : AppServerActivityStream) (log : List ActivityObservation) : Prop where
  kept : stream.observations = RetainedLog.latest maxObservations log
  count : stream.sequence = log.length
  numbered : log.map ActivityObservation.sequence = List.range' 1 log.length

theorem publish_observations (stream : AppServerActivityStream) (activity : AppServerActivity) :
    (stream.publish activity).observations = RetainedLog.latest maxObservations
      (stream.observations ++ [stream.observe activity]) := by
  simp only [publish]

@[simp] theorem publish_generation (stream : AppServerActivityStream)
    (activity : AppServerActivity) : (stream.publish activity).generation = stream.generation := by
  simp only [publish]

@[simp] theorem publish_events (stream : AppServerActivityStream) (activity : AppServerActivity) :
    (stream.publish activity).events = stream.events := by
  simp only [publish]

theorem observe_received (stream : AppServerActivityStream) (body : ConnectionCall)
    (activity : AppServerActivity) :
    (stream.received body).observe activity = stream.observe activity := rfl

/-- What a call leaves of the deque, and what it publishes. -/
theorem step_published (stream : AppServerActivityStream) (call : StreamCall) :
    ((stream.step call).2.published = none ∧
        (stream.step call).1.observations = stream.observations ∧
        (stream.step call).1.sequence = stream.sequence) ∨
      ∃ activity, (stream.step call).2.published = some (stream.observe activity) ∧
        (stream.step call).1.observations = RetainedLog.latest maxObservations
          (stream.observations ++ [stream.observe activity]) ∧
        (stream.step call).1.sequence = stream.sequence + 1 := by
  cases call with
  | reset => exact Or.inl ⟨rfl, rfl, rfl⟩
  | waitActivity afterSequence => exact Or.inl ⟨rfl, rfl, rfl⟩
  | call generation body =>
    unfold step
    dsimp only
    split
    · unfold onConnection
      split
      · next activity _ =>
        refine Or.inr ⟨activity, rfl, ?_, rfl⟩
        rw [publish_observations, observe_received]
        rfl
      · exact Or.inl ⟨rfl, rfl, rfl⟩
    · exact Or.inl ⟨rfl, rfl, rfl⟩
  | markClosed reason generation =>
    unfold step
    dsimp only
    split
    · exact Or.inl ⟨rfl, rfl, rfl⟩
    · refine Or.inr ⟨closedActivity, rfl, ?_, rfl⟩
      rw [publish_observations]
      rfl

theorem Logged.step {stream : AppServerActivityStream} {log : List ActivityObservation}
    (hlogged : stream.Logged log) (call : StreamCall) :
    (stream.step call).1.Logged (log ++ (stream.step call).2.published.toList) := by
  rcases stream.step_published call with ⟨hnone, hkept, hcount⟩ | ⟨activity, hsome, hkept, hcount⟩
  · rw [hnone, Option.toList_none, List.append_nil]
    exact ⟨hkept.trans hlogged.kept, hcount.trans hlogged.count, hlogged.numbered⟩
  · rw [hsome, Option.toList_some]
    refine ⟨?_, ?_, ?_⟩
    · rw [hkept, hlogged.kept, RetainedLog.latest_latest_concat]
    · rw [hcount, hlogged.count, List.length_append, List.length_singleton]
    · rw [List.map_append, hlogged.numbered, List.length_append, List.length_singleton,
        List.range'_concat, Nat.one_mul, Nat.add_comm 1, ← hlogged.count, List.map_singleton,
        observe]

end AppServerActivityStream

theorem publishedBy_concat (past : List StreamCall) (call : StreamCall) :
    publishedBy (past ++ [call]) =
      publishedBy past ++ ((stream.after .initial past).step call).2.published.toList := by
  unfold publishedBy
  rw [Machine.outputs_concat, List.filterMap_append]
  congr 1

/-- The stream keeps the last of what it has published. -/
theorem logged_after (calls : List StreamCall) :
    (stream.after .initial calls).Logged (publishedBy calls) := by
  induction calls using List.reverseRecOn with
  | nil => exact ⟨rfl, rfl, rfl⟩
  | append_singleton past call ih =>
    rw [Machine.after_concat, publishedBy_concat]
    exact ih.step call

/-! ### A consumer -/

theorem find_consecutive {α : Type*} (number : α → ℕ) (seen : ℕ) {items : List α} {start : ℕ}
    (hnumbered : items.map number = List.range' (start + 1) items.length) :
    (items.find? fun item => decide (seen < number item)) = items[seen - start]? := by
  induction items generalizing start with
  | nil => rfl
  | cons item rest ih =>
    rw [List.map_cons, List.length_cons, List.range'_succ] at hnumbered
    obtain ⟨hitem, hrest⟩ := List.cons.inj hnumbered
    by_cases hlater : seen < number item
    · have hzero : seen - start = 0 := by omega
      rw [List.find?_cons_of_pos (by simpa using hlater), hzero]
      rfl
    · have hsucc : seen - start = seen - (start + 1) + 1 := by omega
      rw [List.find?_cons_of_neg (by simpa using hlater), ih hrest, hsucc,
        List.getElem?_cons_succ]

/-- The first observation that is kept behind a number. -/
theorem AppServerActivityStream.Logged.after_eq {stream : AppServerActivityStream}
    {log : List ActivityObservation} (hlogged : stream.Logged log) (seen : ℕ) :
    stream.after seen = log[max seen (log.length - maxObservations)]? := by
  have hnumbered : (RetainedLog.latest maxObservations log).map ActivityObservation.sequence =
      List.range' (log.length - maxObservations + 1)
        (RetainedLog.latest maxObservations log).length := by
    unfold RetainedLog.latest
    rw [List.map_drop, hlogged.numbered, List.drop_range', List.length_drop, Nat.mul_one,
      Nat.add_comm 1]
  unfold AppServerActivityStream.after
  rw [hlogged.kept, find_consecutive _ _ hnumbered]
  unfold RetainedLog.latest
  have hplace : log.length - maxObservations + (seen - (log.length - maxObservations)) =
      max seen (log.length - maxObservations) := by omega
  rw [List.getElem?_drop, hplace]

/-- A caller that waits for the observations behind the last one that it has seen. -/
structure Follower where
  stream : AppServerActivityStream
  seen : ℕ

inductive FollowerCall where
  | other (call : StreamCall)
  | wait

/-- A call of somebody else, or one look of the follower. -/
def Follower.step (follower : Follower) : FollowerCall → Follower × Option ActivityObservation
  | .other call => ({ follower with stream := (follower.stream.step call).1 }, none)
  | .wait =>
      match follower.stream.after follower.seen with
      | some found => ({ follower with seen := found.sequence }, some found)
      | none => (follower, none)

def followed : Machine Follower FollowerCall (Option ActivityObservation) := ⟨Follower.step⟩

/-- The calls of the others. -/
def FollowerCall.others : FollowerCall → Option StreamCall
  | .other call => some call
  | .wait => none

/-- The follower looks no more than a deque behind the last observation. -/
def KeepsUp (follower : Follower) (call : FollowerCall) : Prop :=
  call = .wait → follower.stream.sequence ≤ follower.seen + maxObservations

/-- The numbers follow each other behind a number. -/
def Gapless (start : ℕ) (received : List ActivityObservation) : Prop :=
  received.map ActivityObservation.sequence = List.range' (start + 1) received.length

theorem gapless_concat {start : ℕ} {received : List ActivityObservation}
    {found : ActivityObservation} : Gapless start (received ++ [found]) ↔
      Gapless start received ∧ found.sequence = start + received.length + 1 := by
  unfold Gapless
  rw [List.map_append, List.length_append, List.map_singleton, List.length_singleton,
    List.range'_concat, Nat.one_mul]
  constructor
  · intro hsame
    obtain ⟨hpast, hlast⟩ := List.append_inj' hsame rfl
    refine ⟨hpast, ?_⟩
    rw [List.singleton_inj.mp hlast]
    omega
  · rintro ⟨hpast, hlast⟩
    have hnumber : start + 1 + received.length = found.sequence := by omega
    rw [hpast, hnumber]

/-- Items of a list that a function tells apart are known by its values on them. -/
theorem eq_of_map_eq {α β : Type*} {f : α → β} {items first second : List α}
    (hnodup : (items.map f).Nodup) (hfirst : first ⊆ items) (hsecond : second ⊆ items)
    (hsame : first.map f = second.map f) : first = second := by
  induction first generalizing second with
  | nil => exact (List.map_eq_nil_iff.mp hsame.symm).symm
  | cons item rest ih =>
    obtain ⟨other, tail, rfl, hitem, hrest⟩ := List.map_eq_cons_iff.mp hsame.symm
    obtain ⟨hmem, hsub⟩ := List.cons_subset.mp hfirst
    obtain ⟨hmem', hsub'⟩ := List.cons_subset.mp hsecond
    rw [List.inj_on_of_nodup_map hnodup hmem hmem' hitem.symm, ih hsub hsub' hrest.symm]

/-- Items of a numbered log are without a gap when they are the first ones of a rest of it. -/
theorem gapless_iff {log received : List ActivityObservation} {start : ℕ}
    (hnumbered : log.map ActivityObservation.sequence = List.range' 1 log.length)
    (hsublist : received.Sublist (log.drop start)) :
    received = (log.drop start).take received.length ↔ Gapless start received := by
  have hrest : (log.drop start).map ActivityObservation.sequence =
      List.range' (start + 1) (log.drop start).length := by
    rw [List.map_drop, hnumbered, List.drop_range', List.length_drop, Nat.mul_one, Nat.add_comm 1]
  have hfirst : ((log.drop start).take received.length).map ActivityObservation.sequence =
      List.range' (start + 1) received.length := by
    rw [List.map_take, hrest, List.take_range'_of_length_ge hsublist.length_le]
  unfold Gapless
  constructor
  · intro hsame
    conv_lhs => rw [hsame]
    exact hfirst
  · intro hgapless
    have hnodup : ((log.drop start).map ActivityObservation.sequence).Nodup := by
      rw [hrest]
      exact List.nodup_range'
    exact eq_of_map_eq hnodup hsublist.subset (List.take_subset _ _) (hgapless.trans hfirst.symm)

/-- What a follower has received of a log, and whether it has kept up. -/
structure Follower.Received (follower : Follower) (log : List ActivityObservation) (start : ℕ)
    (received : List ActivityObservation) (keptUp : Prop) : Prop where
  logged : follower.stream.Logged log
  later : start ≤ follower.seen
  passed : received.Sublist ((log.take follower.seen).drop start)
  place : Gapless start received → follower.seen = start + received.length
  gapless : Gapless start received ↔ keptUp

section

variable {follower : Follower} {log : List ActivityObservation} {start : ℕ}
  {received : List ActivityObservation} {keptUp : Prop}

/-- A call of somebody else adds to the log at most. -/
theorem Follower.Received.other (hreceived : follower.Received log start received keptUp)
    (call : StreamCall) :
    (follower.step (.other call)).1.Received (log ++ (follower.stream.step call).2.published.toList)
      start received keptUp where
  logged := hreceived.logged.step call
  later := hreceived.later
  passed := by
    refine hreceived.passed.trans (List.Sublist.drop ?_ start)
    exact (List.IsPrefix.take (List.prefix_append _ _) _).sublist
  place := hreceived.place
  gapless := hreceived.gapless

/-- A look that finds something finds the first observation that is left behind what the
follower has seen. -/
theorem Follower.Received.found (hreceived : follower.Received log start received keptUp)
    {found : ActivityObservation} (hfound : follower.stream.after follower.seen = some found) :
    (follower.step .wait).1.Received log start (received ++ [found])
      (keptUp ∧ KeepsUp follower .wait) := by
  have hplace := hfound
  rw [hreceived.logged.after_eq] at hplace
  obtain ⟨hbound, hget⟩ := List.getElem?_eq_some_iff.mp hplace
  have hnumber : found.sequence = max follower.seen (log.length - maxObservations) + 1 := by
    have hmap := congrArg (fun numbers => numbers[max follower.seen
      (log.length - maxObservations)]?) hreceived.logged.numbered
    simp only [List.getElem?_map, hplace, Option.map_some] at hmap
    rw [List.getElem?_range' hbound] at hmap
    have hsome := Option.some.inj hmap
    omega
  have hstep : follower.step .wait = ({ follower with seen := found.sequence }, some found) := by
    simp only [Follower.step, hfound]
  have hcount := hreceived.logged.count
  rw [hstep]
  have hlater := hreceived.later
  refine ⟨hreceived.logged, ?_, ?_, ?_, ?_⟩
  · change start ≤ found.sequence
    omega
  · change List.Sublist _ ((log.take found.sequence).drop start)
    have htake : log.take found.sequence =
        log.take (max follower.seen (log.length - maxObservations)) ++ [found] := by
      rw [hnumber, List.take_add_one, hplace, Option.toList_some]
    have hlength : start ≤
        (log.take (max follower.seen (log.length - maxObservations))).length := by
      rw [List.length_take]
      omega
    rw [htake, List.drop_append_of_le_length hlength]
    refine List.Sublist.append (hreceived.passed.trans (List.Sublist.drop ?_ start))
      (List.Sublist.refl _)
    exact (List.take_prefix_take_left (le_max_left _ _)).sublist
  · intro hgapless
    obtain ⟨-, hlast⟩ := gapless_concat.mp hgapless
    rw [List.length_append, List.length_singleton]
    exact hlast
  · rw [gapless_concat, ← hreceived.gapless]
    refine and_congr_right fun hgapless => ?_
    have hseen := hreceived.place hgapless
    unfold KeepsUp
    refine ⟨fun hlast _ => ?_, fun hkeeps => ?_⟩
    · omega
    · have := hkeeps rfl
      omega

/-- A look that finds nothing has seen all that was published. -/
theorem Follower.Received.idle (hreceived : follower.Received log start received keptUp) :
    follower.stream.after follower.seen = none ↔ log.length ≤ follower.seen := by
  rw [hreceived.logged.after_eq, List.getElem?_eq_none_iff]
  unfold maxObservations
  omega

theorem Follower.Received.waited (hreceived : follower.Received log start received keptUp) :
    (follower.step .wait).1.Received log start
      (received ++ (follower.step .wait).2.toList) (keptUp ∧ KeepsUp follower .wait) := by
  cases hfound : follower.stream.after follower.seen with
  | some found =>
    have hstep : (follower.step .wait).2 = some found := by simp only [Follower.step, hfound]
    rw [hstep, Option.toList_some]
    exact hreceived.found hfound
  | none =>
    have hstep : follower.step .wait = (follower, none) := by simp only [Follower.step, hfound]
    have hkeeps : KeepsUp follower .wait := by
      intro _
      have hcount := hreceived.logged.count
      have hseen := hreceived.idle.mp hfound
      omega
    rw [hstep, Option.toList_none, List.append_nil, and_iff_left hkeeps]
    exact hreceived

end

/-- The calls of the others move the stream of a follower as they move a stream alone. -/
theorem stream_followed (before : List StreamCall) (start : ℕ) (calls : List FollowerCall) :
    (followed.after ⟨stream.after .initial before, start⟩ calls).stream =
      stream.after .initial (before ++ calls.filterMap FollowerCall.others) := by
  induction calls using List.reverseRecOn with
  | nil => rw [List.filterMap_nil, List.append_nil]; rfl
  | append_singleton past call ih =>
    rw [Machine.after_concat, List.filterMap_append, ← List.append_assoc, Machine.after_append,
      ← ih]
    cases call with
    | other call => rfl
    | wait =>
      change (Follower.step _ .wait).1.stream = _
      unfold Follower.step
      dsimp only
      split <;> rfl

/-- What the follower has received after a run. -/
theorem received_after (before : List StreamCall) (start : ℕ) (calls : List FollowerCall) :
    (followed.after ⟨stream.after .initial before, start⟩ calls).Received
      (publishedBy (before ++ calls.filterMap FollowerCall.others)) start
      ((followed.outputs ⟨stream.after .initial before, start⟩ calls).filterMap id)
      (followed.Guarded KeepsUp ⟨stream.after .initial before, start⟩ calls) := by
  induction calls using List.reverseRecOn with
  | nil =>
    refine ⟨?_, le_refl _, List.nil_sublist _, fun _ => rfl, iff_of_true rfl trivial⟩
    rw [List.filterMap_nil, List.append_nil]
    exact logged_after before
  | append_singleton past call ih =>
    rw [Machine.after_concat, Machine.outputs_concat, List.filterMap_append, List.filterMap_append,
      Machine.guarded_append]
    cases call with
    | other call =>
      have hnext := ih.other call
      rw [stream_followed, ← publishedBy_concat, List.append_assoc] at hnext
      have hfree : followed.Guarded KeepsUp
          (followed.after ⟨stream.after .initial before, start⟩ past) [.other call] :=
        ⟨fun hwait => (by cases hwait), trivial⟩
      rw [and_iff_left hfree]
      change Follower.Received _ _ _ (_ ++ []) _
      rw [List.append_nil]
      exact hnext
    | wait =>
      have hnext := ih.waited
      have hlast : ∀ reply : Option ActivityObservation, [reply].filterMap id = reply.toList := by
        rintro (_ | found) <;> rfl
      rw [hlast]
      change Follower.Received _ (publishedBy (before ++ (_ ++ []))) _ _ (_ ∧ _ ∧ True)
      rw [List.append_nil, and_true]
      exact hnext

/-- What a follower receives is published behind what it had seen, in its order and each once;
    nothing is missing exactly when the follower is never more than a deque behind, and a look
    that finds nothing is behind nothing. -/
theorem follow_received (before : List StreamCall) (start : ℕ) (calls : List FollowerCall) :
    let log := publishedBy (before ++ calls.filterMap FollowerCall.others)
    let joined : Follower := ⟨stream.after .initial before, start⟩
    let received := (followed.outputs joined calls).filterMap id
    let left := followed.after joined calls
    received.Sublist (log.drop start) ∧
      (received = (log.drop start).take received.length ↔ followed.Guarded KeepsUp joined calls) ∧
      (left.stream.after left.seen = none ↔ log.length ≤ left.seen) := by
  intro log joined received left
  have hreceived := received_after before start calls
  have hsublist : received.Sublist (log.drop start) :=
    hreceived.passed.trans ((List.take_sublist _ _).drop start)
  refine ⟨hsublist, ?_, hreceived.idle⟩
  rw [← hreceived.gapless]
  exact gapless_iff hreceived.logged.numbered hsublist

/-! ### Generations -/

/-- The generation that a run has come to, and the calls that reach its connection. -/
structure Epoch where
  generation : ℕ
  calls : List ConnectionCall

/-- A reset opens a connection; a call for another generation reaches none. -/
def Epoch.next (epoch : Epoch) : StreamCall → Epoch
  | .reset => ⟨epoch.generation + 1, []⟩
  | .call generation body =>
      if generation.getD epoch.generation = epoch.generation then
        ⟨epoch.generation, epoch.calls ++ [body]⟩
      else epoch
  | .markClosed _ _ => epoch
  | .waitActivity _ => epoch

def epochOf (calls : List StreamCall) : Epoch := calls.foldl Epoch.next ⟨0, []⟩

/-- An observation is the close of a generation. -/
def ActivityObservation.closes (generation : ℕ) (observation : ActivityObservation) : Bool :=
  decide (observation.generation = generation) &&
    decide (observation.activity.kind = .connectionClosed)

theorem classifyTurn_kind_ne (method turn : PyText) (thread : Option PyText)
    (outcome : Option TurnOutcome) :
    (classifyTurn method turn thread outcome).kind ≠ .connectionClosed := by
  unfold classifyTurn
  split
  · rintro ⟨⟩
  · split
    · rintro ⟨⟩
    · rintro ⟨⟩

/-- No message is the close of a connection. -/
theorem connectionStep_kind_ne (events : AppServerEventState) (body : ConnectionCall)
    {activity : AppServerActivity} (hactivity : (connectionStep events body).2.activity =
      some activity) : activity.kind ≠ .connectionClosed := by
  cases body with
  | message message now later =>
    unfold connectionStep at hactivity
    dsimp only at hactivity
    split at hactivity
    · cases hactivity
    · next recorded _ _ _ =>
      change (classify message recorded later).2 = some activity at hactivity
      unfold classify at hactivity
      split at hactivity
      · cases hactivity
      · split at hactivity
        · cases hactivity
          rintro ⟨⟩
        · split at hactivity
          · cases hactivity
          · split at hactivity
            · cases hactivity
            · cases hactivity
              exact classifyTurn_kind_ne _ _ _ _
            · cases hactivity
              exact classifyTurn_kind_ne _ _ _ _
  | takeResponse requestId => cases hactivity
  | bindStartedTurn thread turn now => cases hactivity
  | correlateTurn thread turn now => cases hactivity

/-- The connections of a run are apart from each other. -/
structure AppServerActivityStream.Separate (stream : AppServerActivityStream) (epoch : Epoch)
    (log : List ActivityObservation) : Prop where
  generation : stream.generation = epoch.generation
  events : stream.events = connection.after .initial epoch.calls
  past : ∀ observation ∈ log, observation.generation ≤ stream.generation
  ordered : log.Pairwise fun first second => first.generation ≤ second.generation
  once : ∀ generation, log.countP (ActivityObservation.closes generation) ≤ 1
  emitted : stream.closedActivityEmitted = true ↔
    0 < log.countP (ActivityObservation.closes stream.generation)
  error : stream.closedError.isSome = stream.closedActivityEmitted

namespace AppServerActivityStream.Separate

variable {stream : AppServerActivityStream} {epoch : Epoch} {log : List ActivityObservation}

/-- An observation of the current generation comes after all others. -/
theorem ordered_concat (hseparate : stream.Separate epoch log) (activity : AppServerActivity) :
    (log ++ [stream.observe activity]).Pairwise
      fun first second => first.generation ≤ second.generation := by
  refine List.pairwise_append.mpr ⟨hseparate.ordered, List.pairwise_singleton _ _, ?_⟩
  intro first hfirst second hsecond
  rw [List.mem_singleton.mp hsecond]
  exact hseparate.past first hfirst

theorem past_concat (hseparate : stream.Separate epoch log) (activity : AppServerActivity) :
    ∀ observation ∈ log ++ [stream.observe activity],
      observation.generation ≤ stream.generation := by
  intro observation hmem
  rcases List.mem_append.mp hmem with hpast | hlast
  · exact hseparate.past observation hpast
  · rw [List.mem_singleton.mp hlast]
    rfl

theorem reset (hseparate : stream.Separate epoch log) :
    stream.reset.Separate (epoch.next .reset) log where
  generation := congrArg (· + 1) hseparate.generation
  events := rfl
  past observation hmem := Nat.le_succ_of_le (hseparate.past observation hmem)
  ordered := hseparate.ordered
  once := hseparate.once
  emitted := by
    refine iff_of_false (by rintro ⟨⟩) ?_
    rw [Nat.not_lt, Nat.le_zero, List.countP_eq_zero]
    intro observation hmem hcloses
    have hgeneration := (Bool.and_eq_true_iff.mp hcloses).1
    have hle := hseparate.past observation hmem
    have hsame : observation.generation = stream.generation + 1 := of_decide_eq_true hgeneration
    omega
  error := rfl

/-- A call that reaches the connection. -/
theorem onConnection (hseparate : stream.Separate epoch log) (body : ConnectionCall) :
    (stream.onConnection body).1.Separate ⟨epoch.generation, epoch.calls ++ [body]⟩
      (log ++ (stream.onConnection body).2.published.toList) := by
  have hevents : (connectionStep stream.events body).1 =
      connection.after .initial (epoch.calls ++ [body]) := by
    rw [Machine.after_concat, ← hseparate.events]
    rfl
  unfold AppServerActivityStream.onConnection
  split
  · next activity hactivity =>
    have hcount : ∀ generation, (log ++ [stream.observe activity]).countP
        (ActivityObservation.closes generation) =
          log.countP (ActivityObservation.closes generation) := by
      intro generation
      have hnot : ¬ (stream.observe activity).closes generation = true := by
        intro hcloses
        have hkind := (Bool.and_eq_true_iff.mp hcloses).2
        exact connectionStep_kind_ne _ _ hactivity (of_decide_eq_true hkind)
      rw [List.countP_append, List.countP_singleton, if_neg hnot, Nat.add_zero]
    exact {
      generation := hseparate.generation
      events := hevents
      past := hseparate.past_concat activity
      ordered := hseparate.ordered_concat activity
      once := fun generation => (hcount generation).symm ▸ hseparate.once generation
      emitted := (hcount _).symm ▸ hseparate.emitted
      error := hseparate.error }
  · change Separate _ _ (log ++ [])
    rw [List.append_nil]
    exact {
      generation := hseparate.generation
      events := hevents
      past := hseparate.past
      ordered := hseparate.ordered
      once := hseparate.once
      emitted := hseparate.emitted
      error := hseparate.error }

/-- The first close of a generation. -/
theorem close (hseparate : stream.Separate epoch log) (reason : String)
    (hopen : stream.closedActivityEmitted = false) :
    ((stream.marked reason).publish closedActivity).Separate epoch
      (log ++ [stream.observe closedActivity]) := by
  have hcloses : ∀ generation, (stream.observe closedActivity).closes generation = true ↔
      stream.generation = generation := by
    intro generation
    have hkind : decide ((stream.observe closedActivity).activity.kind =
        .connectionClosed) = true := decide_eq_true rfl
    unfold ActivityObservation.closes
    rw [hkind, Bool.and_true, decide_eq_true_iff]
    exact Iff.rfl
  have hnone : log.countP (ActivityObservation.closes stream.generation) = 0 := by
    have hemitted := mt hseparate.emitted.mpr (by rw [hopen]; exact Bool.false_ne_true)
    omega
  exact {
    generation := (publish_generation _ _).trans hseparate.generation
    events := (publish_events _ _).trans hseparate.events
    past := by
      rw [publish_generation]
      exact hseparate.past_concat closedActivity
    ordered := hseparate.ordered_concat closedActivity
    once := by
      intro generation
      rw [List.countP_append, List.countP_singleton]
      split
      · next hsame =>
        rw [← (hcloses generation).mp hsame, hnone]
      · exact hseparate.once generation
    emitted := by
      rw [publish_generation]
      refine iff_of_true (by simp only [publish, marked]) ?_
      change 0 < (log ++ [stream.observe closedActivity]).countP
        (ActivityObservation.closes stream.generation)
      rw [List.countP_append, List.countP_singleton, if_pos ((hcloses _).mpr rfl)]
      exact Nat.succ_pos _
    error := by simp only [publish, marked, Option.isSome_some] }

theorem step (hseparate : stream.Separate epoch log) (call : StreamCall) :
    (stream.step call).1.Separate (epoch.next call)
      (log ++ (stream.step call).2.published.toList) := by
  cases call with
  | reset =>
    change stream.reset.Separate _ (log ++ [])
    rw [List.append_nil]
    exact hseparate.reset
  | waitActivity afterSequence =>
    change stream.Separate epoch (log ++ [])
    rw [List.append_nil]
    exact hseparate
  | call generation body =>
    unfold AppServerActivityStream.step Epoch.next target
    dsimp only
    rw [← hseparate.generation]
    split
    · rw [hseparate.generation]
      exact hseparate.onConnection body
    · rw [Option.toList_none, List.append_nil]
      exact hseparate
  | markClosed reason generation =>
    unfold AppServerActivityStream.step
    dsimp only
    split
    · rw [Option.toList_none, List.append_nil]
      exact hseparate
    · next hfirst =>
      rw [Option.toList_some]
      exact hseparate.close reason (Bool.eq_false_iff.mpr fun hemitted => hfirst (Or.inr hemitted))

end AppServerActivityStream.Separate

/-- Whatever readers of earlier connections do, the events are those of the calls for the
    current one; observations of the connections do not mix, and each connection is reported
    as closed once at most, which is when the stream has an error for it. -/
theorem generations_separate (calls : List StreamCall) :
    let final := stream.after .initial calls
    let log := publishedBy calls
    final.generation = (epochOf calls).generation ∧
      final.events = connection.after .initial (epochOf calls).calls ∧
      (log.Pairwise fun first second => first.generation ≤ second.generation) ∧
      (∀ generation, log.countP (ActivityObservation.closes generation) ≤ 1) ∧
      (final.closedError.isSome = true ↔
        0 < log.countP (ActivityObservation.closes final.generation)) := by
  intro final log
  have hseparate : final.Separate (epochOf calls) log := by
    induction calls using List.reverseRecOn with
    | nil => exact ⟨rfl, rfl, fun _ hmem => absurd hmem List.not_mem_nil, List.Pairwise.nil,
        fun _ => Nat.zero_le _, iff_of_false (by rintro ⟨⟩) (Nat.lt_irrefl 0), rfl⟩
    | append_singleton past call ih =>
      change (stream.after .initial (past ++ [call])).Separate (epochOf (past ++ [call]))
        (publishedBy (past ++ [call]))
      rw [Machine.after_concat, publishedBy_concat, epochOf, List.foldl_append]
      exact ih.step call
  refine ⟨hseparate.generation, hseparate.events, hseparate.ordered, hseparate.once, ?_⟩
  rw [hseparate.error]
  exact hseparate.emitted

end CodexMustWork.ActivityStream
