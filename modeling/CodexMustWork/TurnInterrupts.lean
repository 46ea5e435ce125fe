import CodexMustWork.Library.Machine
import CodexMustWork.Library.OrderedTable
import Mathlib.Algebra.Order.Field.Rat
import Mathlib.Logic.Function.Basic

/-!
# Interrupting a turn once

`_interrupt_once` of `scripts/daemon_registry.py`, called by any number of threads.  A call
claims the attempt for its turn under the registry lock, sends the request without it, and
publishes the result under it again; callers that find an attempt running wait for it and
look again.  Every piece between two of these points is one step, in any order among the
threads, with a reading of the clock.
-/

namespace CodexMustWork.TurnInterrupts

/-! ### The registry -/

/-- The identity of an `Event`. -/
abbrev AttemptId := ℕ

/-- What `_refresh_turn_owners` reads: the turns with a durable owner, or that it raised. -/
abbrev OwnersReading := Option (List String)

/-- Where a thread is in a call for a turn. -/
inductive Phase where
  | idle
  | looking (thread : Option String) (turn : String)
  | waiting (thread : Option String) (turn : String) (attempt : AttemptId)
  | claimed (thread : Option String) (turn : String) (attempt : AttemptId)
  | ready (thread : Option String) (turn : String) (attempt : AttemptId)
  | requesting (turn : String) (attempt : AttemptId) (sentAt : ℚ)
  | ended (turn : String) (attempt : AttemptId) (succeeded : Bool)
  | reporting (turn : String)
deriving DecidableEq, Repr

/-- A claimed attempt, and the durable owners its caller read under the lock. -/
structure Claim where
  turn : String
  attempt : AttemptId
  owners : List String
deriving DecidableEq, Repr

/-- A request that came back, or raised. -/
structure Request where
  turn : String
  attempt : AttemptId
  sentAt : ℚ
  endedAt : ℚ
  succeeded : Bool
deriving DecidableEq, Repr

/-- The tables of the registry, the events that were set, where the threads are, the last
    reading of the clock, and what was claimed and what came back so far. -/
structure Registry where
  interruptedTurns : OrderedTable String ℚ
  interruptAttempts : OrderedTable String AttemptId
  created : ℕ
  isSet : AttemptId → Bool
  phase : ℕ → Phase
  clock : ℚ
  claims : List Claim
  requests : List Request

def Registry.initial (start : ℚ) : Registry :=
  ⟨.empty, .empty, 0, fun _ => false, fun _ => .idle, start, [], []⟩

/-- `_CORRELATION_EXPIRY_SECONDS`. -/
def correlationExpirySeconds : ℚ := 600

/-- `_MAX_TURN_CORRELATIONS`. -/
def maxTurnCorrelations : ℕ := 2048

/-! ### Steps -/

/-- The steps of a call: it begins, it looks and claims, it is woken, it gets the client or
    raises, it sends, the request comes back or raises, it publishes, and it reports. -/
inductive Action where
  | call (thread : Option String) (turn : String)
  | claim (owners : OwnersReading)
  | wake
  | getClient (available : Bool)
  | send
  | reply (succeeded : Bool)
  | publish
  | report (owners : OwnersReading)
deriving DecidableEq, Repr

/-- One step of a thread at a reading of the clock. -/
structure Step where
  caller : ℕ
  now : ℚ
  action : Action
deriving DecidableEq, Repr

/-- What a step shows. -/
inductive Output where
  | silent
  | owned (turn : String)
  | remembered (turn : String)
  | waits (turn : String) (attempt : AttemptId)
  | claims (turn : String) (attempt : AttemptId)
  | sends (thread : Option String) (turn : String)
  | replied (turn : String) (succeeded : Bool)
  | released (turn : String) (attempt : AttemptId)
  | raises
deriving DecidableEq, Repr

namespace Registry

variable (registry : Registry) (caller : ℕ)

def tick (now : ℚ) : Registry := { registry with clock := now }

def setPhase (phase : Phase) : Registry :=
  { registry with phase := Function.update registry.phase caller phase }

/-- The loop over the expired turns. -/
def expire : Registry :=
  { registry with
    interruptedTurns := registry.interruptedTurns.filter fun _ interruptedAt =>
      decide (registry.clock - interruptedAt ≤ correlationExpirySeconds) }

/-- A new attempt in the table. -/
def newAttempt (thread : Option String) (turn : String) (owners : List String) : Registry :=
  { registry with
    created := registry.created + 1
    interruptAttempts := registry.interruptAttempts.set turn registry.created
    claims := registry.claims ++ [⟨turn, registry.created, owners⟩]
    phase := Function.update registry.phase caller (.claimed thread turn registry.created) }

/-- `_claim_interrupt_attempt`, and where its answer leads the caller. -/
def claimInterruptAttempt (thread : Option String) (turn : String) (owners : List String) :
    Registry × Output :=
  let expired := registry.expire
  match expired.interruptedTurns.get turn, expired.interruptAttempts.get turn with
  | some _, _ => (expired.setPhase caller .idle, .remembered turn)
  | none, some existing =>
      (expired.setPhase caller (.waiting thread turn existing), .waits turn existing)
  | none, none =>
      if maxTurnCorrelations ≤
          expired.interruptedTurns.size + expired.interruptAttempts.size then
        (expired.setPhase caller .idle, .raises)
      else (expired.newAttempt caller thread turn owners, .claims turn expired.created)

/-- The first section under the lock. -/
def look (thread : Option String) (turn : String) : OwnersReading → Registry × Output
  | none => (registry.setPhase caller .idle, .raises)
  | some owners =>
      if turn ∈ owners then (registry.setPhase caller .idle, .owned turn)
      else registry.claimInterruptAttempt caller thread turn owners

/-- The request is over. -/
def reply (turn : String) (attempt : AttemptId) (sentAt : ℚ) (succeeded : Bool) : Registry :=
  { registry with
    requests := registry.requests ++ [⟨turn, attempt, sentAt, registry.clock, succeeded⟩]
    phase := Function.update registry.phase caller (.ended turn attempt succeeded) }

/-- The table of the attempts without this one, whose event is set. -/
def release (turn : String) (attempt : AttemptId) (succeeded : Bool) : Registry :=
  { registry with
    interruptedTurns :=
      if succeeded then registry.interruptedTurns.set turn registry.clock
      else registry.interruptedTurns
    interruptAttempts := registry.interruptAttempts.erase turn
    isSet := Function.update registry.isSet attempt true }

/-- Where a call goes on behind its `finally` clause. -/
def behindFinally (turn : String) (succeeded : Bool) : Phase :=
  if succeeded then .reporting turn else .idle

/-- The section of the `finally` clause. -/
def publish (turn : String) (attempt : AttemptId) (succeeded : Bool) : Registry × Output :=
  if registry.interruptAttempts.get turn = some attempt then
    ((registry.release turn attempt succeeded).setPhase caller (behindFinally turn succeeded),
      .released turn attempt)
  else (registry.setPhase caller (behindFinally turn succeeded), .silent)

/-- The last section under the lock. -/
def report (turn : String) : OwnersReading → Output
  | none => .raises
  | some owners => if turn ∈ owners then .owned turn else .silent

/-- What a thread does; one that cannot stays where it is. -/
def act (action : Action) : Registry × Output :=
  match registry.phase caller, action with
  | .idle, .call thread turn => (registry.setPhase caller (.looking thread turn), .silent)
  | .looking thread turn, .claim owners => registry.look caller thread turn owners
  | .waiting thread turn attempt, .wake =>
      if registry.isSet attempt then (registry.setPhase caller (.looking thread turn), .silent)
      else (registry, .silent)
  | .claimed thread turn attempt, .getClient available =>
      if available then (registry.setPhase caller (.ready thread turn attempt), .silent)
      else (registry.setPhase caller (.ended turn attempt false), .silent)
  | .ready thread turn attempt, .send =>
      (registry.setPhase caller (.requesting turn attempt registry.clock), .sends thread turn)
  | .requesting turn attempt sentAt, .reply succeeded =>
      (registry.reply caller turn attempt sentAt succeeded, .replied turn succeeded)
  | .ended turn attempt succeeded, .publish => registry.publish caller turn attempt succeeded
  | .reporting turn, .report owners =>
      (registry.setPhase caller .idle, report turn owners)
  | _, _ => (registry, .silent)

def step (registry : Registry) (input : Step) : Registry × Output :=
  (registry.tick input.now).act input.caller input.action

end Registry

/-- The threads and the registry they share. -/
def interrupts : Machine Registry Step Output := ⟨Registry.step⟩

/-! ### What holds between two steps -/

/-- The attempt a thread has to release. -/
def Phase.holds : Phase → Option (String × AttemptId)
  | .claimed _ turn attempt => some (turn, attempt)
  | .ready _ turn attempt => some (turn, attempt)
  | .requesting turn attempt _ => some (turn, attempt)
  | .ended turn attempt _ => some (turn, attempt)
  | _ => none

/-- Every successful request for the turn came back before the window. -/
def Registry.Clear (registry : Registry) (turn : String) (moment : ℚ) : Prop :=
  ∀ request ∈ registry.requests, request.turn = turn → request.succeeded = true →
    correlationExpirySeconds < moment - request.endedAt

/-- What is true of a thread at its place. -/
def Registry.Placed (registry : Registry) : Phase → Prop
  | .waiting _ turn attempt =>
      registry.interruptAttempts.get turn = some attempt ∨ registry.isSet attempt = true
  | .claimed _ turn _ => registry.Clear turn registry.clock
  | .ready _ turn _ => registry.Clear turn registry.clock
  | .requesting turn _ sentAt => registry.Clear turn sentAt ∧ sentAt ≤ registry.clock
  | .ended turn _ succeeded => succeeded = false → registry.Clear turn registry.clock
  | _ => True

/-- A request behind a successful one for the same turn was sent after the window. -/
def Spaced (requests : List Request) : Prop :=
  requests.Pairwise fun first second => first.turn = second.turn → first.succeeded = true →
    correlationExpirySeconds < second.sentAt - first.endedAt

/-- The registry between two steps. -/
structure Registry.Valid (registry : Registry) : Prop where
  placed : ∀ caller, registry.Placed (registry.phase caller)
  held : ∀ caller turn attempt, (registry.phase caller).holds = some (turn, attempt) →
    registry.interruptAttempts.get turn = some attempt
  holder : ∀ turn attempt, registry.interruptAttempts.get turn = some attempt →
    ∃ caller, (registry.phase caller).holds = some (turn, attempt)
  exclusive : ∀ first second turn attempt other,
    (registry.phase first).holds = some (turn, attempt) →
    (registry.phase second).holds = some (turn, other) → first = second
  claimed : ∀ turn attempt, registry.interruptAttempts.get turn = some attempt →
    attempt < registry.created ∧ registry.isSet attempt = false ∧
      ∃ claim ∈ registry.claims, claim.turn = turn ∧ claim.attempt = attempt
  distinct : ∀ turn other attempt, registry.interruptAttempts.get turn = some attempt →
    registry.interruptAttempts.get other = some attempt → turn = other
  set_lt : ∀ attempt, registry.isSet attempt = true → attempt < registry.created
  apart : ∀ turn, registry.interruptAttempts.get turn ≠ none →
    registry.interruptedTurns.get turn = none
  bounded : registry.interruptedTurns.size + registry.interruptAttempts.size ≤ maxTurnCorrelations
  unowned : ∀ claim ∈ registry.claims, claim.turn ∉ claim.owners
  past : ∀ request ∈ registry.requests, request.endedAt ≤ registry.clock ∧
    ∃ claim ∈ registry.claims, claim.turn = request.turn ∧ claim.attempt = request.attempt
  recent : ∀ request ∈ registry.requests, request.succeeded = true →
    (∃ interruptedAt, registry.interruptedTurns.get request.turn = some interruptedAt ∧
      request.endedAt ≤ interruptedAt) ∨
    (∃ caller attempt, registry.phase caller = .ended request.turn attempt true) ∨
    correlationExpirySeconds < registry.clock - request.endedAt
  spaced : Spaced registry.requests

theorem initial_valid (start : ℚ) : (Registry.initial start).Valid := by
  refine ⟨?_, ?_, ?_, ?_, ?_, ?_, ?_, ?_, ?_, ?_, ?_, ?_, ?_⟩ <;>
    simp [Registry.initial, Registry.Placed, Phase.holds, Spaced]

/-! ### Steps keep it -/

namespace Registry

variable {registry : Registry} {caller : ℕ} {turn : String} {attempt : AttemptId}

theorem Clear.later {moment later : ℚ} (hclear : registry.Clear turn moment)
    (hlater : moment ≤ later) : registry.Clear turn later := by
  intro request hrequest hturn hsucceeded
  exact (hclear request hrequest hturn hsucceeded).trans_le (sub_le_sub_right hlater _)

theorem Valid.tick {now : ℚ} (hvalid : registry.Valid) (hnow : registry.clock ≤ now) :
    (registry.tick now).Valid := by
  refine { hvalid with placed := ?_, past := ?_, recent := ?_ }
  · intro other
    have hplaced := hvalid.placed other
    revert hplaced
    show registry.Placed (registry.phase other) → (registry.tick now).Placed (registry.phase other)
    cases registry.phase other with
    | waiting thread turn attempt => exact id
    | claimed thread turn attempt => exact fun hclear => Clear.later hclear hnow
    | ready thread turn attempt => exact fun hclear => Clear.later hclear hnow
    | requesting turn attempt sentAt => exact fun hboth => ⟨hboth.1, hboth.2.trans hnow⟩
    | ended turn attempt succeeded =>
      exact fun hclear hfailed => Clear.later (hclear hfailed) hnow
    | idle => exact id
    | looking thread turn => exact id
    | reporting turn => exact id
  · intro request hrequest
    obtain ⟨hended, hclaim⟩ := hvalid.past request hrequest
    exact ⟨hended.trans hnow, hclaim⟩
  · intro request hrequest hsucceeded
    rcases hvalid.recent request hrequest hsucceeded with hkept | hending | hgap
    · exact Or.inl hkept
    · exact Or.inr (Or.inl hending)
    · exact Or.inr (Or.inr (hgap.trans_le (sub_le_sub_right hnow _)))

theorem placed_setPhase {phase other : Phase} :
    (registry.setPhase caller phase).Placed other ↔ registry.Placed other := by
  cases other <;> exact Iff.rfl

/-- A thread moves without taking or giving up an attempt. -/
theorem Valid.setPhase {phase : Phase} (hvalid : registry.Valid) (hplaced : registry.Placed phase)
    (hholds : phase.holds = (registry.phase caller).holds)
    (hended : ∀ turn attempt, registry.phase caller ≠ .ended turn attempt true) :
    (registry.setPhase caller phase).Valid := by
  have hsame : ∀ other, ((registry.setPhase caller phase).phase other).holds =
      (registry.phase other).holds := by
    intro other
    by_cases hother : other = caller
    · subst hother
      show (Function.update registry.phase other phase other).holds = _
      rw [Function.update_self, hholds]
    · show (Function.update registry.phase caller phase other).holds = _
      rw [Function.update_of_ne hother]
  refine { hvalid with placed := ?_, held := ?_, holder := ?_, exclusive := ?_, recent := ?_ }
  · intro other
    rw [placed_setPhase]
    by_cases hother : other = caller
    · subst hother
      show registry.Placed (Function.update registry.phase other phase other)
      rwa [Function.update_self]
    · show registry.Placed (Function.update registry.phase caller phase other)
      rw [Function.update_of_ne hother]
      exact hvalid.placed other
  · intro other turn attempt hother
    rw [hsame] at hother
    exact hvalid.held other turn attempt hother
  · intro turn attempt hget
    obtain ⟨other, hother⟩ := hvalid.holder turn attempt hget
    exact ⟨other, (hsame other).trans hother⟩
  · intro first second turn attempt other hfirst hsecond
    rw [hsame] at hfirst hsecond
    exact hvalid.exclusive first second turn attempt other hfirst hsecond
  · intro request hrequest hsucceeded
    rcases hvalid.recent request hrequest hsucceeded with hkept | ⟨other, attempt, hother⟩ | hgap
    · exact Or.inl hkept
    · refine Or.inr (Or.inl ⟨other, attempt, ?_⟩)
      have hne : other ≠ caller := fun hsame => hended _ _ (hsame ▸ hother)
      show Function.update registry.phase caller phase other = _
      rw [Function.update_of_ne hne]
      exact hother
    · exact Or.inr (Or.inr hgap)

theorem Valid.expire (hvalid : registry.Valid) : registry.expire.Valid := by
  refine { hvalid with placed := ?_, apart := ?_, bounded := ?_, recent := ?_ }
  · intro other
    have hplaced := hvalid.placed other
    revert hplaced
    show registry.Placed (registry.phase other) → registry.expire.Placed (registry.phase other)
    cases registry.phase other <;> exact id
  · intro turn hthere
    have hnone := hvalid.apart turn hthere
    refine Option.eq_none_iff_forall_not_mem.mpr fun interruptedAt hfound => ?_
    have hbefore := (OrderedTable.mem_filter_iff.mp hfound).1
    rw [hnone] at hbefore
    cases hbefore
  · exact (Nat.add_le_add_right (OrderedTable.size_filter_le _) _).trans hvalid.bounded
  · intro request hrequest hsucceeded
    rcases hvalid.recent request hrequest hsucceeded with ⟨interruptedAt, hget, hended⟩ | hrest
    · by_cases hkept : registry.clock - interruptedAt ≤ correlationExpirySeconds
      · refine Or.inl ⟨interruptedAt, ?_, hended⟩
        exact OrderedTable.mem_filter_iff.mpr ⟨hget, decide_eq_true hkept⟩
      · exact Or.inr (Or.inr ((not_le.mp hkept).trans_le (sub_le_sub_left hended _)))
    · exact Or.inr hrest

/-- A turn without an attempt in the table has none that a thread holds. -/
theorem Valid.holds_ne (hvalid : registry.Valid)
    (hfree : registry.interruptAttempts.get turn = none) {other : ℕ} {held : String × AttemptId}
    (hholds : (registry.phase other).holds = some held) : held.1 ≠ turn := by
  intro hturn
  have hheld := hvalid.held other held.1 held.2 hholds
  rw [hturn, hfree] at hheld
  cases hheld

/-- Where the turn is neither remembered nor running, every success is out of the window. -/
theorem Valid.clear (hvalid : registry.Valid)
    (hforgotten : registry.interruptedTurns.get turn = none)
    (hidle : registry.interruptAttempts.get turn = none) :
    registry.Clear turn registry.clock := by
  rintro request hrequest rfl hsucceeded
  rcases hvalid.recent request hrequest hsucceeded with
    ⟨interruptedAt, hget, -⟩ | ⟨other, attempt, hother⟩ | hgap
  · rw [hforgotten] at hget
    cases hget
  · have hholds : (registry.phase other).holds = some (request.turn, attempt) := by
      rw [hother]
      rfl
    exact absurd rfl (hvalid.holds_ne hidle hholds)
  · exact hgap

/-- A new attempt for an idle turn leaves the other threads at their places. -/
theorem Placed.newAttempt {thread : Option String} {owners : List String} {phase : Phase}
    (hfree : registry.interruptAttempts.get turn = none) (hplaced : registry.Placed phase) :
    (registry.newAttempt caller thread turn owners).Placed phase := by
  cases phase with
  | waiting waiter waited attempt =>
    rcases hplaced with hrunning | hset
    · left
      have hturn : waited ≠ turn := by
        rintro rfl
        rw [hfree] at hrunning
        cases hrunning
      exact (OrderedTable.get_set_of_ne hturn).trans hrunning
    · exact Or.inr hset
  | claimed thread turn attempt => exact hplaced
  | ready thread turn attempt => exact hplaced
  | requesting turn attempt sentAt => exact hplaced
  | ended turn attempt succeeded => exact hplaced
  | idle => trivial
  | looking thread turn => trivial
  | reporting turn => trivial

theorem newAttempt_get {thread : Option String} {owners : List String} (other : String) :
    (registry.newAttempt caller thread turn owners).interruptAttempts.get other =
      if other = turn then some registry.created else registry.interruptAttempts.get other :=
  OrderedTable.get_set _ _ _ _

/-- An attempt in the table is claimed and not set: the new one, and the others still. -/
theorem Valid.claimed_newAttempt {thread : Option String} {owners : List String}
    (hvalid : registry.Valid) {held : String} {attempt : AttemptId}
    (hattempt : (registry.newAttempt caller thread turn owners).interruptAttempts.get held =
      some attempt) :
    attempt < registry.created + 1 ∧ registry.isSet attempt = false ∧
      ∃ claim ∈ (registry.newAttempt caller thread turn owners).claims,
        claim.turn = held ∧ claim.attempt = attempt := by
  rw [newAttempt_get] at hattempt
  split at hattempt
  · rename_i hturn
    cases hattempt
    refine ⟨Nat.lt_succ_self _, ?_, ⟨turn, registry.created, owners⟩, ?_, hturn.symm, rfl⟩
    · rw [← Bool.not_eq_true]
      exact fun hset => Nat.lt_irrefl _ (hvalid.set_lt _ hset)
    · exact List.mem_append_right _ (List.mem_singleton_self _)
  · obtain ⟨hlt, hunset, claim, hclaim, hboth⟩ := hvalid.claimed held attempt hattempt
    exact ⟨Nat.lt_succ_of_lt hlt, hunset, claim, List.mem_append_left _ hclaim, hboth⟩

/-- The number of the new attempt is no other's. -/
theorem Valid.distinct_newAttempt {thread : Option String} {owners : List String}
    (hvalid : registry.Valid) {held other : String} {attempt : AttemptId}
    (hheld : (registry.newAttempt caller thread turn owners).interruptAttempts.get held =
      some attempt)
    (hother : (registry.newAttempt caller thread turn owners).interruptAttempts.get other =
      some attempt) : held = other := by
  rw [newAttempt_get] at hheld hother
  split at hheld
  · rename_i hturn
    cases hheld
    split at hother
    · rename_i hotherTurn
      rw [hturn, hotherTurn]
    · exact absurd (hvalid.claimed other _ hother).1 (Nat.lt_irrefl _)
  · split at hother
    · cases hother
      exact absurd (hvalid.claimed held _ hheld).1 (Nat.lt_irrefl _)
    · exact hvalid.distinct held other attempt hheld hother

theorem Valid.newAttempt {thread : Option String} {owners : List String} (hvalid : registry.Valid)
    (hidle : (registry.phase caller).holds = none)
    (hforgotten : registry.interruptedTurns.get turn = none)
    (hfree : registry.interruptAttempts.get turn = none)
    (hroom : registry.interruptedTurns.size + registry.interruptAttempts.size < maxTurnCorrelations)
    (howners : turn ∉ owners) : (registry.newAttempt caller thread turn owners).Valid := by
  have hclear := hvalid.clear hforgotten hfree
  have hphase : ∀ other, other ≠ caller →
      (registry.newAttempt caller thread turn owners).phase other = registry.phase other :=
    fun other hother => Function.update_of_ne hother _ _
  have hcaller : (registry.newAttempt caller thread turn owners).phase caller =
      .claimed thread turn registry.created := Function.update_self _ _ _
  have hother : ∀ other held, (registry.phase other).holds = some held → other ≠ caller ∧
      held.1 ≠ turn := by
    intro other held hholds
    constructor
    · rintro rfl
      rw [hidle] at hholds
      cases hholds
    · exact hvalid.holds_ne hfree hholds
  refine
    { placed := ?placed, held := ?held, holder := ?holder, exclusive := ?exclusive
      claimed := ?claimed, distinct := ?distinct, set_lt := ?set_lt, apart := ?apart
      bounded := ?bounded, unowned := ?unowned, past := ?past, recent := ?recent
      spaced := hvalid.spaced }
  case placed =>
    intro other
    by_cases hsame : other = caller
    · rw [hsame, hcaller]
      exact hclear
    · rw [hphase other hsame]
      exact (hvalid.placed other).newAttempt hfree
  case held =>
    intro other held attempt hholds
    by_cases hsame : other = caller
    · rw [hsame, hcaller] at hholds
      cases hholds
      rw [newAttempt_get, if_pos rfl]
    · rw [hphase other hsame] at hholds
      rw [newAttempt_get, if_neg (hother other _ hholds).2]
      exact hvalid.held other held attempt hholds
  case holder =>
    intro held attempt hattempt
    rw [newAttempt_get] at hattempt
    split at hattempt
    · rename_i hturn
      cases hattempt
      refine ⟨caller, ?_⟩
      rw [hcaller, hturn]
      rfl
    · obtain ⟨other, hholds⟩ := hvalid.holder held attempt hattempt
      refine ⟨other, ?_⟩
      rw [hphase other (hother other _ hholds).1]
      exact hholds
  case exclusive =>
    intro first second held attempt third hfirst hsecond
    by_cases hfirstSame : first = caller
    · by_cases hsecondSame : second = caller
      · rw [hfirstSame, hsecondSame]
      · rw [hfirstSame, hcaller] at hfirst
        rw [hphase second hsecondSame] at hsecond
        cases hfirst
        exact absurd rfl (hother second _ hsecond).2
    · rw [hphase first hfirstSame] at hfirst
      by_cases hsecondSame : second = caller
      · rw [hsecondSame, hcaller] at hsecond
        cases hsecond
        exact absurd rfl (hother first _ hfirst).2
      · rw [hphase second hsecondSame] at hsecond
        exact hvalid.exclusive first second held attempt third hfirst hsecond
  case claimed => exact fun held attempt hattempt => hvalid.claimed_newAttempt hattempt
  case distinct =>
    exact fun held third attempt hheld hthird => hvalid.distinct_newAttempt hheld hthird
  case set_lt =>
    exact fun attempt hset => Nat.lt_succ_of_lt (hvalid.set_lt attempt hset)
  case apart =>
    intro held hthere
    rw [newAttempt_get] at hthere
    split at hthere
    · rename_i hturn
      rw [hturn]
      exact hforgotten
    · exact hvalid.apart held hthere
  case bounded =>
    show registry.interruptedTurns.size + (registry.interruptAttempts.set turn _).size ≤ _
    rw [OrderedTable.size_set_of_new hfree]
    exact hroom
  case unowned =>
    intro claim hclaim
    rcases List.mem_append.mp hclaim with hold | hnew
    · exact hvalid.unowned claim hold
    · rw [List.mem_singleton.mp hnew]
      exact howners
  case past =>
    intro request hrequest
    obtain ⟨hended, claim, hclaim, hboth⟩ := hvalid.past request hrequest
    exact ⟨hended, claim, List.mem_append_left _ hclaim, hboth⟩
  case recent =>
    intro request hrequest hsucceeded
    rcases hvalid.recent request hrequest hsucceeded with hkept | ⟨other, attempt, hending⟩ | hgap
    · exact Or.inl hkept
    · refine Or.inr (Or.inl ⟨other, attempt, ?_⟩)
      have hholds : (registry.phase other).holds = some (request.turn, attempt) := by
        rw [hending]
        rfl
      rw [hphase other (hother other _ hholds).1]
      exact hending
    · exact Or.inr (Or.inr hgap)

/-- The requests with the one that came back. -/
def record (registry : Registry) (request : Request) : Registry :=
  { registry with requests := registry.requests ++ [request] }

theorem reply_eq {sentAt : ℚ} {succeeded : Bool} :
    registry.reply caller turn attempt sentAt succeeded =
      (registry.setPhase caller (.ended turn attempt succeeded)).record
        ⟨turn, attempt, sentAt, registry.clock, succeeded⟩ := rfl

theorem Clear.record {moment : ℚ} {request : Request} (hclear : registry.Clear turn moment)
    (hother : request.turn ≠ turn ∨ request.succeeded = false) :
    (registry.record request).Clear turn moment := by
  intro earlier hearlier hturn hsucceeded
  rcases List.mem_append.mp hearlier with hold | hnew
  · exact hclear earlier hold hturn hsucceeded
  · rw [List.mem_singleton.mp hnew] at hturn hsucceeded
    rcases hother with hne | hfailed
    · exact absurd hturn hne
    · rw [hfailed] at hsucceeded
      cases hsucceeded

theorem Valid.record {request : Request} (hvalid : registry.Valid)
    (hphase : registry.phase caller = .ended request.turn request.attempt request.succeeded)
    (hclear : registry.Clear request.turn request.sentAt) (hnow : request.endedAt = registry.clock) :
    (registry.record request).Valid := by
  have hheld := hvalid.held caller request.turn request.attempt (by rw [hphase]; rfl)
  refine { hvalid with placed := ?_, past := ?_, recent := ?_, spaced := ?_ }
  · intro other
    have hapart : ∀ held attempt, (registry.phase other).holds = some (held, attempt) →
        other ≠ caller → request.turn ≠ held := by
      rintro held attempt hholds hne rfl
      exact hne (hvalid.exclusive other caller request.turn attempt request.attempt hholds
        (by rw [hphase]; rfl))
    have hplaced := hvalid.placed other
    by_cases hsame : other = caller
    · rw [hsame, hphase] at hplaced
      show (registry.record request).Placed (registry.phase other)
      rw [hsame, hphase]
      exact fun hfailed => (hplaced hfailed).record (Or.inr hfailed)
    · show (registry.record request).Placed (registry.phase other)
      cases hother : registry.phase other with
      | waiting thread turn attempt =>
        rw [hother] at hplaced
        exact hplaced
      | claimed thread turn attempt =>
        rw [hother] at hplaced hapart
        exact Clear.record hplaced (Or.inl (hapart turn attempt rfl hsame))
      | ready thread turn attempt =>
        rw [hother] at hplaced hapart
        exact Clear.record hplaced (Or.inl (hapart turn attempt rfl hsame))
      | requesting turn attempt sentAt =>
        rw [hother] at hplaced hapart
        exact ⟨hplaced.1.record (Or.inl (hapart turn attempt rfl hsame)), hplaced.2⟩
      | ended turn attempt succeeded =>
        rw [hother] at hplaced hapart
        exact fun hfailed => (hplaced hfailed).record (Or.inl (hapart turn attempt rfl hsame))
      | idle => trivial
      | looking thread turn => trivial
      | reporting turn => trivial
  · intro earlier hearlier
    rcases List.mem_append.mp hearlier with hold | hnew
    · exact hvalid.past earlier hold
    · rw [List.mem_singleton.mp hnew]
      exact ⟨hnow.le, (hvalid.claimed _ _ hheld).2.2⟩
  · intro earlier hearlier hsucceeded
    rcases List.mem_append.mp hearlier with hold | hnew
    · exact hvalid.recent earlier hold hsucceeded
    · rw [List.mem_singleton.mp hnew] at hsucceeded ⊢
      refine Or.inr (Or.inl ⟨caller, request.attempt, ?_⟩)
      show registry.phase caller = _
      rw [hphase, hsucceeded]
  · refine List.pairwise_append.mpr ⟨hvalid.spaced, List.pairwise_singleton _ _, ?_⟩
    intro earlier hearlier later hlater hturn hsucceeded
    rw [List.mem_singleton.mp hlater] at hturn ⊢
    exact hclear earlier hearlier hturn hsucceeded

theorem Valid.reply {sentAt : ℚ} {succeeded : Bool} (hvalid : registry.Valid)
    (hphase : registry.phase caller = .requesting turn attempt sentAt) :
    (registry.reply caller turn attempt sentAt succeeded).Valid := by
  have hplaced : registry.Placed (.requesting turn attempt sentAt) := hphase ▸ hvalid.placed caller
  have hmoved : (registry.setPhase caller (.ended turn attempt succeeded)).Valid := by
    refine hvalid.setPhase (fun _ => hplaced.1.later hplaced.2) ?_ ?_
    · rw [hphase]
      rfl
    · rw [hphase]
      exact fun _ _ hended => by cases hended
  rw [reply_eq]
  exact hmoved.record (Function.update_self _ _ _) hplaced.1 rfl

/-- Giving up the attempt in the table leaves the other threads at their places. -/
theorem Placed.publish {succeeded : Bool} {next phase : Phase}
    (hheld : registry.interruptAttempts.get turn = some attempt)
    (hplaced : registry.Placed phase) :
    ((registry.release turn attempt succeeded).setPhase caller next).Placed phase := by
  cases phase with
  | waiting waiter waited awaited =>
    rcases hplaced with hrunning | hset
    · by_cases hturn : waited = turn
      · right
        rw [hturn, hheld] at hrunning
        cases hrunning
        exact Function.update_self _ _ _
      · exact Or.inl ((OrderedTable.get_erase_of_ne hturn).trans hrunning)
    · right
      show Function.update registry.isSet attempt true awaited = true
      by_cases hsame : awaited = attempt
      · rw [hsame, Function.update_self]
      · rw [Function.update_of_ne hsame]
        exact hset
  | claimed thread turn attempt => exact hplaced
  | ready thread turn attempt => exact hplaced
  | requesting turn attempt sentAt => exact hplaced
  | ended turn attempt succeeded => exact hplaced
  | idle => trivial
  | looking thread turn => trivial
  | reporting turn => trivial

/-- Other turns are remembered as they were. -/
theorem remembered_release {succeeded : Bool} {other : String} (hother : other ≠ turn) :
    (registry.release turn attempt succeeded).interruptedTurns.get other =
      registry.interruptedTurns.get other := by
  show (if succeeded then registry.interruptedTurns.set turn registry.clock
    else registry.interruptedTurns).get other = _
  split
  · exact OrderedTable.get_set_of_ne hother
  · rfl

/-- What is remembered of an attempt takes the room that the attempt gives up. -/
theorem size_release_le {succeeded : Bool}
    (hheld : registry.interruptAttempts.get turn = some attempt) :
    (registry.release turn attempt succeeded).interruptedTurns.size +
        (registry.release turn attempt succeeded).interruptAttempts.size ≤
      registry.interruptedTurns.size + registry.interruptAttempts.size := by
  have hfewer : (registry.interruptAttempts.erase turn).size < registry.interruptAttempts.size :=
    OrderedTable.size_erase_lt hheld
  have hmore : (registry.release turn attempt succeeded).interruptedTurns.size ≤
      registry.interruptedTurns.size + 1 := by
    show (if succeeded then registry.interruptedTurns.set turn registry.clock
      else registry.interruptedTurns).size ≤ _
    split
    · exact OrderedTable.size_set_le
    · exact Nat.le_succ _
  show (registry.release turn attempt succeeded).interruptedTurns.size +
    (registry.interruptAttempts.erase turn).size ≤ _
  omega

/-- A success is remembered, and the others stay remembered, ending or out of the window. -/
theorem Valid.recent_publish {succeeded : Bool} (hvalid : registry.Valid)
    (hphase : registry.phase caller = .ended turn attempt succeeded) {next : Phase}
    {request : Request} (hrequest : request ∈ registry.requests)
    (hsucceeded : request.succeeded = true) :
    (∃ interruptedAt, (registry.release turn attempt succeeded).interruptedTurns.get request.turn =
      some interruptedAt ∧ request.endedAt ≤ interruptedAt) ∨
    (∃ other attempt, Function.update registry.phase caller next other =
      .ended request.turn attempt true) ∨
    correlationExpirySeconds < registry.clock - request.endedAt := by
  have hheld := hvalid.held caller turn attempt (by rw [hphase]; rfl)
  by_cases hnew : request.turn = turn ∧ succeeded = true
  · refine Or.inl ⟨registry.clock, ?_, (hvalid.past request hrequest).1⟩
    show (if succeeded then registry.interruptedTurns.set turn registry.clock
      else registry.interruptedTurns).get request.turn = _
    rw [if_pos hnew.2, hnew.1, OrderedTable.get_set_same]
  · rcases hvalid.recent request hrequest hsucceeded with
      ⟨interruptedAt, hremains, hended⟩ | ⟨other, otherAttempt, hending⟩ | hgap
    · have hturn : request.turn ≠ turn := by
        intro hturn
        have happart := hvalid.apart turn (by rw [hheld]; simp)
        rw [hturn, happart] at hremains
        cases hremains
      exact Or.inl ⟨interruptedAt, (remembered_release hturn).trans hremains, hended⟩
    · refine Or.inr (Or.inl ⟨other, otherAttempt, ?_⟩)
      rw [Function.update_of_ne ?_]
      · exact hending
      · rintro rfl
        rw [hphase] at hending
        cases hending
        exact hnew ⟨rfl, rfl⟩
    · exact Or.inr (Or.inr hgap)

/-- The section of the `finally` clause gives the attempt up and remembers a success. -/
theorem Valid.publish {succeeded : Bool} (hvalid : registry.Valid)
    (hphase : registry.phase caller = .ended turn attempt succeeded) :
    ((registry.release turn attempt succeeded).setPhase caller
      (behindFinally turn succeeded)).Valid := by
  let published := (registry.release turn attempt succeeded).setPhase caller
    (behindFinally turn succeeded)
  have hholds : (registry.phase caller).holds = some (turn, attempt) := by
    rw [hphase]
    rfl
  have hheld := hvalid.held caller turn attempt hholds
  have hcaller : published.phase caller = behindFinally turn succeeded := Function.update_self _ _ _
  have hothers : ∀ other, other ≠ caller → published.phase other = registry.phase other :=
    fun other hother => Function.update_of_ne hother _ _
  have hnone : (behindFinally turn succeeded).holds = none := by
    cases succeeded <;> rfl
  have hget : ∀ other, published.interruptAttempts.get other =
      if other = turn then none else registry.interruptAttempts.get other :=
    fun other => OrderedTable.get_erase _ _ _
  have hkept : ∀ other held, (published.phase other).holds = some held →
      other ≠ caller ∧ held.1 ≠ turn ∧ (registry.phase other).holds = some held := by
    intro other held hother
    have hne : other ≠ caller := by
      rintro rfl
      rw [hcaller, hnone] at hother
      cases hother
    rw [hothers other hne] at hother
    refine ⟨hne, ?_, hother⟩
    intro hturn
    obtain ⟨heldTurn, heldAttempt⟩ := held
    subst hturn
    exact hne (hvalid.exclusive other caller heldTurn heldAttempt attempt hother hholds)
  refine
    { placed := ?placed, held := ?held, holder := ?holder, exclusive := ?exclusive
      claimed := ?claimed, distinct := ?distinct, set_lt := ?set_lt, apart := ?apart
      bounded := ?bounded, unowned := hvalid.unowned, past := hvalid.past, recent := ?recent
      spaced := hvalid.spaced }
  case placed =>
    intro other
    show published.Placed (published.phase other)
    by_cases hsame : other = caller
    · rw [hsame, hcaller]
      cases succeeded <;> trivial
    · rw [hothers other hsame]
      exact (hvalid.placed other).publish hheld
  case held =>
    intro other held heldAttempt hother
    obtain ⟨hne, hturn, hbefore⟩ := hkept other _ hother
    show published.interruptAttempts.get held = _
    rw [hget, if_neg hturn]
    exact hvalid.held other held heldAttempt hbefore
  case holder =>
    intro held heldAttempt hentry
    have hattempt : published.interruptAttempts.get held = some heldAttempt := hentry
    rw [hget] at hattempt
    split at hattempt
    · cases hattempt
    · rename_i hturn
      obtain ⟨other, hother⟩ := hvalid.holder held heldAttempt hattempt
      refine ⟨other, ?_⟩
      show (published.phase other).holds = _
      rw [hothers other ?_]
      · exact hother
      · rintro rfl
        rw [hholds] at hother
        cases hother
        exact hturn rfl
  case exclusive =>
    intro first second held heldAttempt third hfirst hsecond
    exact hvalid.exclusive first second held heldAttempt third (hkept first _ hfirst).2.2
      (hkept second _ hsecond).2.2
  case claimed =>
    intro held heldAttempt hentry
    have hattempt : published.interruptAttempts.get held = some heldAttempt := hentry
    rw [hget] at hattempt
    split at hattempt
    · cases hattempt
    · rename_i hturn
      obtain ⟨hlt, hunset, hclaim⟩ := hvalid.claimed held heldAttempt hattempt
      refine ⟨hlt, ?_, hclaim⟩
      show Function.update registry.isSet attempt true heldAttempt = false
      rw [Function.update_of_ne ?_]
      · exact hunset
      · intro hsame
        exact hturn (hvalid.distinct held turn attempt (hsame ▸ hattempt) hheld)
  case distinct =>
    intro held third heldAttempt hentry hthirdEntry
    have hattempt : published.interruptAttempts.get held = some heldAttempt := hentry
    have hthird : published.interruptAttempts.get third = some heldAttempt := hthirdEntry
    rw [hget] at hattempt hthird
    split at hattempt
    · cases hattempt
    · split at hthird
      · cases hthird
      · exact hvalid.distinct held third heldAttempt hattempt hthird
  case set_lt =>
    intro other hentry
    have hset : Function.update registry.isSet attempt true other = true := hentry
    by_cases hsameAttempt : other = attempt
    · rw [hsameAttempt]
      exact (hvalid.claimed turn attempt hheld).1
    · rw [Function.update_of_ne hsameAttempt] at hset
      exact hvalid.set_lt other hset
  case apart =>
    intro held hentry
    have hthere : published.interruptAttempts.get held ≠ none := hentry
    rw [hget] at hthere
    split at hthere
    · exact absurd rfl hthere
    · rename_i hturn
      show (registry.release turn attempt succeeded).interruptedTurns.get held = none
      rw [remembered_release hturn]
      exact hvalid.apart held hthere
  case bounded => exact (size_release_le hheld).trans hvalid.bounded
  case recent => exact fun request hrequest => hvalid.recent_publish hphase hrequest

/-- Under the lock the attempt of a call whose request is over is the one in the table. -/
theorem Valid.publish_eq {succeeded : Bool} (hvalid : registry.Valid)
    (hphase : registry.phase caller = .ended turn attempt succeeded) :
    registry.publish caller turn attempt succeeded =
      ((registry.release turn attempt succeeded).setPhase caller (behindFinally turn succeeded),
        .released turn attempt) := by
  refine if_pos (hvalid.held caller turn attempt ?_)
  rw [hphase]
  rfl

/-- A thread that holds nothing goes where it holds nothing. -/
theorem Valid.leave {phase : Phase} (hvalid : registry.Valid)
    (hidle : (registry.phase caller).holds = none) (hnone : phase.holds = none)
    (hplaced : registry.Placed phase) : (registry.setPhase caller phase).Valid := by
  refine hvalid.setPhase hplaced (hnone.trans hidle.symm) ?_
  intro turn attempt hended
  rw [hended] at hidle
  cases hidle

theorem Valid.claim {thread : Option String} {owners : List String} (hvalid : registry.Valid)
    (hphase : registry.phase caller = .looking thread turn) (howners : turn ∉ owners) :
    (registry.claimInterruptAttempt caller thread turn owners).1.Valid := by
  have hexpired := hvalid.expire
  have hidle : (registry.expire.phase caller).holds = none := by
    show (registry.phase caller).holds = none
    rw [hphase]
    rfl
  unfold claimInterruptAttempt
  simp only
  split
  · exact hexpired.leave hidle rfl trivial
  · rename_i hforgotten hrunning
    exact hexpired.leave hidle rfl (Or.inl hrunning)
  · rename_i hforgotten hfree
    split
    · exact hexpired.leave hidle rfl trivial
    · rename_i hroom
      exact hexpired.newAttempt hidle hforgotten hfree (not_le.mp hroom) howners

theorem Valid.look {thread : Option String} {owners : OwnersReading} (hvalid : registry.Valid)
    (hphase : registry.phase caller = .looking thread turn) :
    (registry.look caller thread turn owners).1.Valid := by
  have hidle : (registry.phase caller).holds = none := by
    rw [hphase]
    rfl
  cases owners with
  | none => exact hvalid.leave hidle rfl trivial
  | some owners =>
    unfold Registry.look
    simp only
    by_cases howners : turn ∈ owners
    · rw [if_pos howners]
      exact hvalid.leave hidle rfl trivial
    · rw [if_neg howners]
      exact hvalid.claim hphase howners

theorem Valid.act (hvalid : registry.Valid) (action : Action) :
    (registry.act caller action).1.Valid := by
  unfold Registry.act
  split
  · rename_i hphase
    exact hvalid.leave (by rw [hphase]; rfl) rfl trivial
  · rename_i hphase
    exact hvalid.look hphase
  · rename_i hphase
    split
    · exact hvalid.leave (by rw [hphase]; rfl) rfl trivial
    · exact hvalid
  · rename_i thread turn attempt available hphase
    have hclear : registry.Clear turn registry.clock := by
      have hplaced := hvalid.placed caller
      rwa [hphase] at hplaced
    split
    · refine hvalid.setPhase hclear ?_ ?_
      · rw [hphase]
        rfl
      · rw [hphase]
        exact fun _ _ hended => by cases hended
    · refine hvalid.setPhase (fun _ => hclear) ?_ ?_
      · rw [hphase]
        rfl
      · rw [hphase]
        exact fun _ _ hended => by cases hended
  · rename_i thread turn attempt hphase
    have hclear : registry.Clear turn registry.clock := by
      have hplaced := hvalid.placed caller
      rwa [hphase] at hplaced
    refine hvalid.setPhase ⟨hclear, le_rfl⟩ ?_ ?_
    · rw [hphase]
      rfl
    · rw [hphase]
      exact fun _ _ hended => by cases hended
  · rename_i hphase
    exact hvalid.reply hphase
  · rename_i hphase
    rw [hvalid.publish_eq hphase]
    exact hvalid.publish hphase
  · rename_i hphase
    exact hvalid.leave (by rw [hphase]; rfl) rfl trivial
  · exact hvalid

theorem Valid.step {input : Step} (hvalid : registry.Valid) (hnow : registry.clock ≤ input.now) :
    (registry.step input).1.Valid :=
  (hvalid.tick hnow).act input.action

end Registry

/-! ### Runs -/

/-- What is promised of the registry at every moment. -/
structure Registry.InterruptsOnce (registry : Registry) : Prop where
  /-- Between a successful request and the next for its turn lies the window. -/
  spaced : Spaced registry.requests
  /-- One request of a turn is on its way. -/
  alone : ∀ first second turn attempt other firstSent secondSent,
    registry.phase first = .requesting turn attempt firstSent →
    registry.phase second = .requesting turn other secondSent → first = second
  /-- A request on its way is out of the window of every successful one. -/
  late : ∀ caller turn attempt sentAt, registry.phase caller = .requesting turn attempt sentAt →
    registry.Clear turn sentAt
  /-- Who comes while an attempt is held waits for it, and the event is not set before. -/
  meanwhile : ∀ caller now thread turn attempt holder owners,
    (registry.phase holder).holds = some (turn, attempt) →
    registry.phase caller = .looking thread turn → turn ∉ owners →
    registry.isSet attempt = false ∧
      ((registry.step ⟨caller, now, .claim (some owners)⟩).1.phase caller =
        .waiting thread turn attempt ∧
      (registry.step ⟨caller, now, .claim (some owners)⟩).2 = .waits turn attempt)
  /-- Who waits waits for an attempt that somebody holds, or can go on. -/
  awaited : ∀ caller thread turn attempt, registry.phase caller = .waiting thread turn attempt →
    (∃ holder, (registry.phase holder).holds = some (turn, attempt)) ∨
      registry.isSet attempt = true
  /-- Every request, back or on its way, was claimed where its turn had no durable owner. -/
  unowned : (∀ request ∈ registry.requests, ∃ claim ∈ registry.claims,
      claim.turn = request.turn ∧ claim.attempt = request.attempt ∧ claim.turn ∉ claim.owners) ∧
    ∀ caller turn attempt, (registry.phase caller).holds = some (turn, attempt) →
      ∃ claim ∈ registry.claims, claim.turn = turn ∧ claim.attempt = attempt ∧
        claim.turn ∉ claim.owners
  /-- A claimed attempt is held by a call, and released when its request is over. -/
  released : (∀ turn attempt, registry.interruptAttempts.get turn = some attempt →
      ∃ caller, (registry.phase caller).holds = some (turn, attempt)) ∧
    ∀ caller now turn attempt succeeded, registry.phase caller = .ended turn attempt succeeded →
      (registry.step ⟨caller, now, .publish⟩).1.interruptAttempts.get turn = none ∧
        (registry.step ⟨caller, now, .publish⟩).1.isSet attempt = true
  bounded : registry.interruptedTurns.size + registry.interruptAttempts.size ≤ maxTurnCorrelations

namespace Registry

variable {registry : Registry} {caller : ℕ} {turn : String} {attempt : AttemptId}

/-- A caller that looks while the attempt of its turn runs waits for it. -/
theorem Valid.waits {thread : Option String} {owners : List String} (hvalid : registry.Valid)
    (hrunning : registry.interruptAttempts.get turn = some attempt)
    (hphase : registry.phase caller = .looking thread turn) (howners : turn ∉ owners) (now : ℚ) :
    (registry.step ⟨caller, now, .claim (some owners)⟩).1.phase caller =
        .waiting thread turn attempt ∧
      (registry.step ⟨caller, now, .claim (some owners)⟩).2 = .waits turn attempt := by
  have hforgotten : (registry.tick now).expire.interruptedTurns.get turn = none := by
    refine Option.eq_none_iff_forall_not_mem.mpr fun interruptedAt hfound => ?_
    have hbefore := (OrderedTable.mem_filter_iff.mp hfound).1
    have hnone := hvalid.apart turn (by rw [hrunning]; simp)
    rw [show (registry.tick now).interruptedTurns = registry.interruptedTurns from rfl, hnone]
      at hbefore
    cases hbefore
  have hstep : registry.step ⟨caller, now, .claim (some owners)⟩ =
      ((registry.tick now).expire.setPhase caller (.waiting thread turn attempt),
        .waits turn attempt) := by
    have hact : registry.step ⟨caller, now, .claim (some owners)⟩ =
        (registry.tick now).look caller thread turn (some owners) := by
      unfold Registry.step Registry.act
      rw [show (registry.tick now).phase caller = .looking thread turn from hphase]
    have hattempt : (registry.tick now).expire.interruptAttempts.get turn = some attempt := hrunning
    rw [hact]
    unfold Registry.look claimInterruptAttempt
    simp only [if_neg howners, hforgotten, hattempt]
  rw [hstep]
  exact ⟨Function.update_self _ _ _, rfl⟩

theorem Valid.interruptsOnce (hvalid : registry.Valid) : registry.InterruptsOnce := by
  have hunowned : ∀ turn attempt, registry.interruptAttempts.get turn = some attempt →
      ∃ claim ∈ registry.claims, claim.turn = turn ∧ claim.attempt = attempt ∧
        claim.turn ∉ claim.owners := by
    intro turn attempt hget
    obtain ⟨-, -, claim, hclaim, hturn, hattempt⟩ := hvalid.claimed turn attempt hget
    exact ⟨claim, hclaim, hturn, hattempt, hvalid.unowned claim hclaim⟩
  refine ⟨hvalid.spaced, ?_, ?_, ?_, ?_, ⟨?_, ?_⟩, ⟨hvalid.holder, ?_⟩, hvalid.bounded⟩
  · intro first second turn attempt other firstSent secondSent hfirst hsecond
    refine hvalid.exclusive first second turn attempt other ?_ ?_
    · rw [hfirst]
      rfl
    · rw [hsecond]
      rfl
  · intro caller turn attempt sentAt hphase
    have hplaced := hvalid.placed caller
    rw [hphase] at hplaced
    exact hplaced.1
  · intro caller now thread turn attempt holder owners hholds hphase howners
    have hrunning := hvalid.held holder turn attempt hholds
    exact ⟨(hvalid.claimed turn attempt hrunning).2.1, hvalid.waits hrunning hphase howners now⟩
  · intro caller thread turn attempt hphase
    have hplaced := hvalid.placed caller
    rw [hphase] at hplaced
    rcases hplaced with hrunning | hset
    · exact Or.inl (hvalid.holder turn attempt hrunning)
    · exact Or.inr hset
  · intro request hrequest
    obtain ⟨-, claim, hclaim, hturn, hattempt⟩ := hvalid.past request hrequest
    exact ⟨claim, hclaim, hturn, hattempt, hvalid.unowned claim hclaim⟩
  · intro caller turn attempt hholds
    exact hunowned turn attempt (hvalid.held caller turn attempt hholds)
  · intro caller now turn attempt succeeded hphase
    have hstep : registry.step ⟨caller, now, .publish⟩ =
        (registry.tick now).publish caller turn attempt succeeded := by
      unfold Registry.step Registry.act
      rw [show (registry.tick now).phase caller = .ended turn attempt succeeded from hphase]
    have hheld := hvalid.held caller turn attempt (by rw [hphase]; rfl)
    have hpublish : (registry.tick now).publish caller turn attempt succeeded = _ := if_pos hheld
    rw [hstep, hpublish]
    exact ⟨OrderedTable.get_erase_same _ _, Function.update_self _ _ _⟩

end Registry

theorem clock_act (registry : Registry) (caller : ℕ) (action : Action) :
    (registry.act caller action).1.clock = registry.clock := by
  have hclaim : ∀ thread turn owners,
      (registry.claimInterruptAttempt caller thread turn owners).1.clock = registry.clock := by
    intro thread turn owners
    unfold Registry.claimInterruptAttempt
    simp only
    split
    · rfl
    · rfl
    · split <;> rfl
  unfold Registry.act
  split
  · rfl
  · rename_i thread turn owners _
    cases owners with
    | none => rfl
    | some owners =>
      unfold Registry.look
      simp only
      split
      · rfl
      · exact hclaim thread turn owners
  · split <;> rfl
  · split <;> rfl
  · rfl
  · rfl
  · unfold Registry.publish
    split <;> rfl
  · rfl
  · rfl

/-- The readings of the clock do not go back. -/
def ClockForward (start : ℚ) (steps : List Step) : Prop :=
  List.IsChain (· ≤ ·) (start :: steps.map Step.now)

theorem valid_after {registry : Registry} (hvalid : registry.Valid) {steps : List Step}
    (hforward : ClockForward registry.clock steps) : (interrupts.after registry steps).Valid := by
  induction steps generalizing registry with
  | nil => exact hvalid
  | cons input rest ih =>
    obtain ⟨hnow, hrest⟩ := List.isChain_cons_cons.mp hforward
    refine ih (hvalid.step hnow) ?_
    have hclock : (registry.step input).1.clock = input.now := clock_act _ _ _
    show ClockForward (registry.step input).1.clock rest
    rw [hclock]
    exact hrest

/-- Whatever the threads do and however their requests end, while the clock does not go
    back, a turn is interrupted at most once in a window. -/
theorem interruptsOnce_run (start : ℚ) (steps : List Step) (hforward : ClockForward start steps) :
    (interrupts.after (.initial start) steps).InterruptsOnce :=
  (valid_after (initial_valid start) hforward).interruptsOnce

/-- Two threads interrupt one turn; the second waits, and finds it interrupted. -/
theorem interruptsOnce_twoCallers :
    (interrupts.after (.initial 5) [
      ⟨0, 5, .call none "turn"⟩, ⟨1, 6, .call (some "thread") "turn"⟩,
      ⟨0, 6, .claim (some [])⟩, ⟨1, 7, .claim (some ["other"])⟩, ⟨0, 7, .getClient true⟩,
      ⟨0, 8, .send⟩, ⟨0, 9, .reply true⟩, ⟨0, 9, .publish⟩, ⟨1, 10, .wake⟩,
      ⟨1, 11, .claim (some [])⟩, ⟨0, 12, .report (some [])⟩]).InterruptsOnce := by
  refine interruptsOnce_run 5 _ ?_
  unfold ClockForward
  decide

end CodexMustWork.TurnInterrupts
