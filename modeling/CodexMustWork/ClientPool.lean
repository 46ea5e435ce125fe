import CodexMustWork.Library.Machine
import CodexMustWork.Library.OrderedTable
import Mathlib.Algebra.Order.Ring.Int
import Mathlib.Logic.Function.Basic

/-!
# The pool of the shared client

`SharedClientPool` of `scripts/daemon_client_pool.py`, with the gates of
`daemon_client_close.py` and the reservation of `daemon_reservation.py`.  A client lives as
long as a reference is borrowed or installed; the last one that goes becomes the obligation
to close it, which any caller can try to fulfil.  Sections under a lock are steps, and so
are the call of the factory, and the beginning and the end of a close.
-/

namespace CodexMustWork.ClientPool

/-! ### References, clients and gates -/

abbrev ReferenceId := ℕ

abbrev ClientId := ℕ

/-- `_PoolReferenceState`. -/
inductive ReferenceState where
  | borrowed
  | installed
  | closing
deriving DecidableEq, Repr

/-- `_ReferenceRecord`.  The gate goes with the reference; the identity makes two records
    that were made apart different. -/
structure ReferenceRecord where
  client : ClientId
  state : ReferenceState
  identity : ℕ
deriving DecidableEq, Repr

/-- `_PooledClient`. -/
structure PooledClient where
  client : ClientId
  fingerprint : String
deriving DecidableEq, Repr

/-- `CloseGate`: its worker is about to close the client, or closes it, or left an error
    behind, or has closed it. -/
inductive CloseGate where
  | idle
  | started (client : ClientId)
  | closing (client : ClientId)
  | failed
  | succeeded (client : ClientId)
deriving DecidableEq, Repr

/-- A reference and the record by which its client is to be closed. -/
structure Obligation where
  reference : ReferenceId
  record : ReferenceRecord
deriving DecidableEq, Repr

/-! ### The state -/

/-- Where a thread is.  Behind its reservation a borrow whose factory failed cleans up, and
    closes the client it finds; `checking`, `finishing` and `settling` are the parts of
    `_finish_close`, with the obligations that come after. -/
inductive Phase where
  | idle
  | reserving (fingerprint : String) (reference : ReferenceId)
  | looking (fingerprint : String) (reference : ReferenceId)
  | creating (fingerprint : String) (reference : ReferenceId)
  | created (fingerprint : String) (reference : ReferenceId) (client : ClientId)
  | leaving (failed : Option ReferenceId)
  | cleaning (reference : ReferenceId)
  | discarding (client : ClientId)
  | discardingClosed (client : ClientId)
  | checking (obligations : List Obligation)
  | finishing (obligation : Obligation) (rest : List Obligation)
  | settling (obligation : Obligation) (rest : List Obligation)
deriving DecidableEq, Repr

/-- What happened, for the statements: a reference was given up, a close of a client was
    invoked while so many references to it were borrowed or installed, and succeeded. -/
inductive Event where
  | givenUp (reference : ReferenceId)
  | invoked (client : ClientId) (active : ℕ)
  | closed (client : ClientId)
deriving DecidableEq, Repr

/-- The fields of the pool and its reservation, the gates, where the threads are, what was
    made so far, and the events, the last one last. -/
structure Pool where
  reserved : Option ℕ
  pooled : Option PooledClient
  references : OrderedTable ReferenceId ReferenceRecord
  gate : ReferenceId → CloseGate
  phase : ℕ → Phase
  nextReference : ℕ
  nextRecord : ℕ
  nextClient : ℕ
  events : List Event

def Pool.initial : Pool := ⟨none, none, .empty, fun _ => .idle, fun _ => .idle, 0, 0, 0, []⟩

/-- How the factory ends: with a client, with an exception that `borrow` catches, or with
    another one. -/
inductive FactoryResult where
  | returns
  | fails
  | raises
deriving DecidableEq, Repr

inductive Action where
  | borrow (fingerprint : String)
  | enter
  | look
  | factory (result : FactoryResult)
  | register
  | leave
  | cleanUp
  | discard
  | discarded (succeeded : Bool)
  | commit (reference : ReferenceId)
  | release (reference : ReferenceId)
  | releaseInstalled (count : ℤ)
  | check
  | finish
  | settle
  | invoke (reference : ReferenceId)
  | ended (reference : ReferenceId) (succeeded : Bool)
deriving DecidableEq, Repr

structure Step where
  thread : ℕ
  action : Action
deriving DecidableEq, Repr

def ReferenceRecord.isActive (record : ReferenceRecord) : Bool := decide (record.state ≠ .closing)

namespace Pool

variable (pool : Pool) (thread : ℕ)

def setPhase (phase : Phase) : Pool :=
  { pool with phase := Function.update pool.phase thread phase }

def setGate (reference : ReferenceId) (gate : CloseGate) : Pool :=
  { pool with gate := Function.update pool.gate reference gate }

def emit (events : List Event) : Pool := { pool with events := pool.events ++ events }

/-- A new record of a reference. -/
def record (reference : ReferenceId) (client : ClientId) (state : ReferenceState) : Pool :=
  { pool with
    references := pool.references.set reference ⟨client, state, pool.nextRecord⟩
    nextRecord := pool.nextRecord + 1 }

/-- The references to a client that are borrowed or installed. -/
def activeCount (client : ClientId) : ℕ :=
  (pool.references.entries.filter fun entry =>
    entry.2.isActive && decide (entry.2.client = client)).length

/-! ### Borrowing -/

/-- The first section of `borrow`, without a pooled client the factory is next. -/
def look (fingerprint : String) (reference : ReferenceId) : Pool :=
  match pool.pooled with
  | some pooled =>
      if pooled.fingerprint = fingerprint then
        (pool.record reference pooled.client .borrowed).setPhase thread (.leaving none)
      else pool.setPhase thread (.leaving none)
  | none => pool.setPhase thread (.creating fingerprint reference)

/-- The factory is over. -/
def factory (fingerprint : String) (reference : ReferenceId) : FactoryResult → Pool
  | .returns =>
      { pool with nextClient := pool.nextClient + 1 }.setPhase thread
        (.created fingerprint reference pool.nextClient)
  | .fails => pool.setPhase thread (.leaving (some reference))
  | .raises => pool.setPhase thread (.leaving none)

/-- The second section of `borrow`. -/
def register (fingerprint : String) (reference : ReferenceId) (client : ClientId) : Pool :=
  ({ pool with pooled := some ⟨client, fingerprint⟩ }.record reference client .borrowed).setPhase
    thread (.leaving none)

/-- Where `borrow` goes on behind its reservation. -/
def behindReservation : Option ReferenceId → Phase
  | some reference => .cleaning reference
  | none => .idle

/-- The section of the `except` clause; the factory failed, so that no client was created. -/
def cleanUp (reference : ReferenceId) : Pool :=
  { pool with references := pool.references.erase reference, pooled := none }.setPhase thread
    (match pool.pooled with
      | some pooled => .discarding pooled.client
      | none => .idle)

/-! ### Installing and releasing -/

/-- `commit`; it raises for a reference that is not there or is installed. -/
def commit (reference : ReferenceId) : Pool :=
  match pool.references.get reference with
  | none => pool
  | some record =>
      if record.state = .installed then pool
      else pool.record reference record.client .installed

/-- Another reference is borrowed or installed. -/
def othersActive (references : List ReferenceId) : Bool :=
  pool.references.entries.any fun entry =>
    decide (entry.1 ∉ references) && entry.2.isActive

/-- A reference becomes the obligation to close the client, which leaves the pool. -/
def oblige (reference : ReferenceId) (client : ClientId) : Pool :=
  { pool.record reference client .closing with pooled := none }

/-- `_release_active`, and where its answer leads `release`. -/
def releaseActive (reference : ReferenceId) : Pool :=
  if pool.othersActive [reference] then
    { pool with references := pool.references.erase reference }.emit [.givenUp reference]
  else
    match pool.pooled with
    | none => { pool with references := pool.references.erase reference }.emit [.givenUp reference]
    | some pooled =>
        ((pool.oblige reference pooled.client).emit [.givenUp reference]).setPhase thread
          (.checking [⟨reference, ⟨pooled.client, .closing, pool.nextRecord⟩⟩])

/-- The section of `release`. -/
def release (reference : ReferenceId) : Pool :=
  match pool.references.get reference with
  | none => pool
  | some record =>
      if record.state = .closing then pool.setPhase thread (.checking [⟨reference, record⟩])
      else pool.releaseActive thread reference

/-- The installed references, in their order. -/
def installed : List ReferenceId :=
  (pool.references.entries.filter fun entry => decide (entry.2.state = .installed)).map Prod.fst

/-- References are deleted. -/
def delete (references : List ReferenceId) : Pool :=
  { pool with references := references.foldl OrderedTable.erase pool.references }

/-- The obligations there are. -/
def obligations : List Obligation :=
  (pool.references.entries.filter fun entry => decide (entry.2.state = .closing)).map fun entry =>
    ⟨entry.1, entry.2⟩

/-- The selected references are released; the last one becomes the obligation if no other
    reference is active. -/
def releaseSelected (selected : List ReferenceId) : Pool :=
  match selected.getLast?, pool.othersActive selected with
  | some reference, false =>
      match pool.pooled with
      | some pooled => (pool.delete selected.dropLast).oblige reference pooled.client
      | none => pool.delete selected
  | _, _ => pool.delete selected

/-- The section of `release_installed`. -/
def releaseInstalled (count : ℤ) : Pool :=
  if count < 0 ∨ (pool.installed.length : ℤ) < count then pool
  else
    let selected := pool.installed.take count.toNat
    let released := (pool.releaseSelected selected).emit (selected.map .givenUp)
    released.setPhase thread (.checking released.obligations)

/-! ### Closing -/

/-- The first section of `_finish_close`; without an obligation left the call is over. -/
def check : List Obligation → Pool
  | [] => pool.setPhase thread .idle
  | obligation :: rest =>
      if pool.references.get obligation.reference = some obligation.record then
        { pool with
          pooled := if pool.pooled.map PooledClient.client = some obligation.record.client then none
            else pool.pooled }.setPhase thread (.finishing obligation rest)
      else pool.setPhase thread (.checking rest)

/-- One turn of the loop of `CloseGate.finish`; the obligations behind one that raises are
    taken up too. -/
def finish (obligation : Obligation) (rest : List Obligation) : Pool :=
  match pool.gate obligation.reference with
  | .started _ => pool
  | .closing _ => pool
  | .succeeded _ => pool.setPhase thread (.settling obligation rest)
  | .failed => (pool.setGate obligation.reference .idle).setPhase thread (.checking rest)
  | .idle => pool.setGate obligation.reference (.started obligation.record.client)

/-- The last section of `_finish_close`. -/
def settle (obligation : Obligation) (rest : List Obligation) : Pool :=
  if pool.references.get obligation.reference = some obligation.record then
    { pool with references := pool.references.erase obligation.reference }.setPhase thread
      (.checking rest)
  else pool.setPhase thread (.checking rest)

/-- The worker of a gate calls `close`. -/
def invoke (reference : ReferenceId) : Pool :=
  match pool.gate reference with
  | .started client =>
      (pool.setGate reference (.closing client)).emit [.invoked client (pool.activeCount client)]
  | _ => pool

/-- The call of `close` is over, and the worker. -/
def ended (reference : ReferenceId) (succeeded : Bool) : Pool :=
  match pool.gate reference with
  | .closing client =>
      if succeeded then (pool.setGate reference (.succeeded client)).emit [.closed client]
      else pool.setGate reference .failed
  | _ => pool

/-- What a thread does; one that cannot stays where it is. -/
def act (action : Action) : Pool :=
  match pool.phase thread, action with
  | .idle, .borrow fingerprint =>
      { pool with nextReference := pool.nextReference + 1 }.setPhase thread
        (.reserving fingerprint pool.nextReference)
  | .reserving fingerprint reference, .enter =>
      if pool.reserved = none then
        { pool with reserved := some thread }.setPhase thread (.looking fingerprint reference)
      else pool
  | .looking fingerprint reference, .look => pool.look thread fingerprint reference
  | .creating fingerprint reference, .factory result =>
      pool.factory thread fingerprint reference result
  | .created fingerprint reference client, .register =>
      pool.register thread fingerprint reference client
  | .leaving failed, .leave =>
      { pool with reserved := none }.setPhase thread (behindReservation failed)
  | .cleaning reference, .cleanUp => pool.cleanUp thread reference
  | .discarding client, .discard =>
      (pool.setPhase thread (.discardingClosed client)).emit
        [.invoked client (pool.activeCount client)]
  | .discardingClosed client, .discarded succeeded =>
      (pool.setPhase thread .idle).emit (if succeeded then [.closed client] else [])
  | .idle, .commit reference => pool.commit reference
  | .idle, .release reference => pool.release thread reference
  | .idle, .releaseInstalled count => pool.releaseInstalled thread count
  | .checking obligations, .check => pool.check thread obligations
  | .finishing obligation rest, .finish => pool.finish thread obligation rest
  | .settling obligation rest, .settle => pool.settle thread obligation rest
  | _, .invoke reference => pool.invoke reference
  | _, .ended reference succeeded => pool.ended reference succeeded
  | _, _ => pool

end Pool

/-- The threads and the pool they share. -/
def sharing : Machine Pool Step Unit := ⟨fun pool step => (pool.act step.thread step.action, ())⟩

end CodexMustWork.ClientPool
