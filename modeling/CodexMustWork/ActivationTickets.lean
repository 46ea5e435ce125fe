import CodexMustWork.Library.Machine
import CodexMustWork.RuntimeDocument
import Mathlib.Data.Set.Function

/-!
# Activation tickets

`scripts/work_on_activation.py`, with the comparisons of `scripts/work_on_identity.py`
and `scripts/control_capability.py`: one private record for each session, issued
for one turn and consumed once.  Reading a record checks its MAC, so a file is
absent, a record some call wrote, or unreadable.

Each call runs under the lock of its file.  The digests under the control key
are functions of a parameter.
-/

namespace CodexMustWork

/-- Bind an authorization to one exact Codex turn and transcript. -/
structure ActivationIdentity where
  sessionId : String
  turnId : String
  transcriptPath : String
deriving DecidableEq, Repr

/-- The complete authenticated state of one activation ticket. -/
structure ActivationTicketRecord where
  identity : ActivationIdentity
  capabilityBinding : String
  issuedAt : Int
  nonce : String
  consumed : Bool
deriving DecidableEq, Repr

/-- The reasons of `ActivationTicketError`, the reason of `ControlKeyError`, and the
    `TypeError` of `hmac.compare_digest`. -/
inductive TicketError where
  | required
  | expired
  | mismatch
  | invalid
  | controlSessionInvalid
  | nonAsciiComparison
deriving DecidableEq, Repr

/-- The two digests under the control key. -/
structure ControlKey where
  capability : String → String
  binding : String → String

/-! ### Identities -/

def maxTextChars : Nat := 65536

def maxSessionBytes : Nat := 65536

/-- Whether every identity member is nonempty and bounded. -/
def activationIdentityIsValid (identity : ActivationIdentity) : Bool :=
  [identity.sessionId, identity.turnId, identity.transcriptPath].all fun value =>
    decide (value ≠ "") && decide (value.length ≤ maxTextChars)

def isAscii (text : String) : Bool := text.toList.all fun character => decide (character.val < 128)

/-- `hmac.compare_digest` on strings. -/
def compareDigest (left right : String) : Except TicketError Bool :=
  if isAscii left && isAscii right then .ok (decide (left = right))
  else .error .nonAsciiComparison

/-- Comparisons joined by `and`. -/
def compareDigests : List (String × String) → Except TicketError Bool
  | [] => .ok true
  | (left, right) :: rest =>
      match compareDigest left right with
      | .error error => .error error
      | .ok false => .ok false
      | .ok true => compareDigests rest

theorem compareDigests_eq_ok {pairs : List (String × String)} {same : Bool}
    (hcompare : compareDigests pairs = .ok same) :
    same = true ↔ ∀ pair ∈ pairs, pair.1 = pair.2 := by
  induction pairs with
  | nil =>
      obtain rfl := Except.ok.inj hcompare
      simp
  | cons pair rest ih =>
      obtain ⟨left, right⟩ := pair
      rw [compareDigests, compareDigest] at hcompare
      rw [List.forall_mem_cons]
      split_ifs at hcompare with hascii
      by_cases hsame : left = right
      · simp only [hsame, decide_true] at hcompare
        rw [ih hcompare]
        exact ⟨fun hrest => ⟨hsame, hrest⟩, fun hboth => hboth.2⟩
      · simp only [hsame, decide_false, Except.ok.injEq] at hcompare
        subst hcompare
        exact ⟨fun heq => (nomatch heq), fun hboth => absurd hboth.1 hsame⟩

/-- What is in the file of a session. -/
inductive TicketFile where
  | absent
  | unreadable
  | holds (record : ActivationTicketRecord)
deriving DecidableEq

/-- The ticket files, by name. -/
abbrev ActivationTicketStore := String → TicketFile

def ActivationTicketStore.empty : ActivationTicketStore := fun _ => .absent

/-- An exception of the file system. -/
inductive FileFault where
  | notFound
  | other
deriving DecidableEq

/-- Which file operations of one call raise: those before the record is read, the atomic
    replacement of the record, and those after it, the release of the lock. -/
structure TicketFaults where
  prepare : Option FileFault := none
  write : Option FileFault := none
  release : Option FileFault := none

def ttlSeconds : Int := 120

/-- `_path`. -/
def ticketName (H : Digest) (sessionId : String) : String := H.hash sessionId ++ ".json"

/-- `_expired`, at one reading of the clock. -/
def ticketExpired (now : Int) (ticket : ActivationTicketRecord) : Bool :=
  decide (now < ticket.issuedAt) || decide (ttlSeconds < now - ticket.issuedAt)

/-- Derive one bearer capability for a session. -/
def deriveControlCapability (key : ControlKey) (sessionId : String) : Except TicketError String :=
  if sessionId = "" ∨ maxSessionBytes < sessionId.utf8ByteSize then .error .controlSessionInvalid
  else .ok (key.capability sessionId)

/-- `_capability_binding`: encoding a capability that is not ASCII raises. -/
def capabilityBinding (key : ControlKey) (capability : String) : Except TicketError String :=
  if isAscii capability then .ok (key.binding capability) else .error .invalid

/-- `_rejection_reason`. -/
def rejectionReason (key : ControlKey) (now : Int) (ticket : ActivationTicketRecord)
    (identity : ActivationIdentity) (capability : String) :
    Except TicketError (Option TicketError) :=
  if ticketExpired now ticket then .ok (some .expired)
  else
    match capabilityBinding key capability with
    | .error error => .error error
    | .ok expected =>
        match compareDigests [(ticket.identity.sessionId, identity.sessionId),
          (ticket.identity.turnId, identity.turnId),
          (ticket.identity.transcriptPath, identity.transcriptPath),
          (ticket.capabilityBinding, expected)] with
        | .error error => .error error
        | .ok true => .ok none
        | .ok false => .ok (some .mismatch)

namespace ActivationTicketStore

variable (H : Digest) (key : ControlKey)

/-- `_write_ticket`. -/
def writeTicket (fault : Option FileFault) (store : ActivationTicketStore) (name : String)
    (ticket : ActivationTicketRecord) : ActivationTicketStore × Option FileFault :=
  match fault with
  | some failure => (store, some failure)
  | none => (Function.update store name (.holds ticket), none)

/-- What `consume` raises for an exception of the file system. -/
def consumeError : FileFault → TicketError
  | .notFound => .required
  | .other => .invalid

/-- The part of `consume` under the lock. -/
def consumeLocked (faults : TicketFaults) (now : Int) (store : ActivationTicketStore)
    (identity : ActivationIdentity) (capability : String) :
    ActivationTicketStore × Except TicketError Unit :=
  match store (ticketName H identity.sessionId) with
  | .absent => (store, .error .required)
  | .unreadable => (store, .error .invalid)
  | .holds ticket =>
      if ticket.consumed then (store, .error .required)
      else
        match rejectionReason key now ticket identity capability with
        | .error error => (store, .error error)
        | .ok (some reason) => (store, .error reason)
        | .ok none =>
            match writeTicket faults.write store (ticketName H identity.sessionId)
                { ticket with consumed := true } with
            | (store, some failure) => (store, .error (consumeError failure))
            | (store, none) => (store, .ok ())

/-- Consume a matching live ticket exactly once. -/
def consume (faults : TicketFaults) (now : Int) (store : ActivationTicketStore)
    (identity : ActivationIdentity) (capability : String) :
    ActivationTicketStore × Except TicketError Unit :=
  if !activationIdentityIsValid identity then (store, .error .mismatch)
  else
    match faults.prepare with
    | some failure => (store, .error (consumeError failure))
    | none =>
        match consumeLocked H key faults now store identity capability, faults.release with
        -- The exception of the release takes the place of what the lock's body gives.
        | (store, _), some failure => (store, .error (consumeError failure))
        | (store, result), none => (store, result)

end ActivationTicketStore

open ActivationTicketStore

/-! ### What one call does -/

section Calls

variable {H : Digest} {key : ControlKey} {faults : TicketFaults} {now : Int} {nonce : String}
  {store : ActivationTicketStore} {identity : ActivationIdentity} {capability : String}

/-- A rejection that does not come says that the ticket is fresh and bound to the call. -/
theorem rejectionReason_eq_none {ticket : ActivationTicketRecord}
    (hreason : rejectionReason key now ticket identity capability = .ok none) :
    ticket.identity = identity ∧ 0 ≤ now - ticket.issuedAt ∧ now - ticket.issuedAt ≤ 120 := by
  unfold rejectionReason at hreason
  split_ifs at hreason with hexpired
  · cases hreason
  · have hfresh : ¬ now < ticket.issuedAt ∧ ¬ ttlSeconds < now - ticket.issuedAt := by
      simpa [ticketExpired] using hexpired
    unfold ttlSeconds at hfresh
    cases hbinding : capabilityBinding key capability with
    | error error => simp [hbinding] at hreason
    | ok expected =>
        simp only [hbinding] at hreason
        cases hcompare : compareDigests [(ticket.identity.sessionId, identity.sessionId),
            (ticket.identity.turnId, identity.turnId),
            (ticket.identity.transcriptPath, identity.transcriptPath),
            (ticket.capabilityBinding, expected)] with
        | error error => simp [hcompare] at hreason
        | ok same =>
            cases same with
            | false => simp [hcompare] at hreason
            | true =>
                have hall := (compareDigests_eq_ok hcompare).mp rfl
                simp only [List.forall_mem_cons] at hall
                obtain ⟨hsession, hturn, htranscript, _⟩ := hall
                refine ⟨?_, by omega, by omega⟩
                cases hidentity : ticket.identity with
                | mk session turn transcript =>
                    rw [hidentity] at hsession hturn htranscript
                    cases identity
                    simp_all

/-- What a consume does under the lock: it fails and leaves the store, or marks a live
    record of its identity. -/
theorem consumeLocked_cases :
    ((consumeLocked H key faults now store identity capability).1 = store ∧
        ∃ error, (consumeLocked H key faults now store identity capability).2 = .error error) ∨
      ∃ ticket, store (ticketName H identity.sessionId) = .holds ticket ∧
        ticket.consumed = false ∧ ticket.identity = identity ∧ 0 ≤ now - ticket.issuedAt ∧
        now - ticket.issuedAt ≤ 120 ∧
        (consumeLocked H key faults now store identity capability).1 =
          Function.update store (ticketName H identity.sessionId)
            (.holds { ticket with consumed := true }) ∧
        (consumeLocked H key faults now store identity capability).2 = .ok () := by
  unfold consumeLocked
  cases hfile : store (ticketName H identity.sessionId) with
  | unreadable => exact Or.inl ⟨rfl, _, rfl⟩
  | absent => exact Or.inl ⟨rfl, _, rfl⟩
  | holds ticket =>
      dsimp only
      split_ifs with hconsumed
      · exact Or.inl ⟨rfl, _, rfl⟩
      · cases hreason : rejectionReason key now ticket identity capability with
        | error error => exact Or.inl ⟨rfl, _, rfl⟩
        | ok reason =>
            cases reason with
            | some reason => exact Or.inl ⟨rfl, _, rfl⟩
            | none =>
                obtain ⟨hidentity, hafter, hbefore⟩ := rejectionReason_eq_none hreason
                unfold writeTicket
                cases faults.write with
                | some failure => exact Or.inl ⟨rfl, _, rfl⟩
                | none =>
                    exact Or.inr ⟨ticket, rfl, Bool.eq_false_of_not_eq_true hconsumed,
                      hidentity, hafter, hbefore, rfl, rfl⟩

/-- A consume fails and leaves the store, or marks a live record of its identity; then it
    succeeds, unless the lock's release raises. -/
theorem consume_cases :
    ((consume H key faults now store identity capability).1 = store ∧
        ∃ error, (consume H key faults now store identity capability).2 = .error error) ∨
      ∃ ticket, store (ticketName H identity.sessionId) = .holds ticket ∧
        ticket.consumed = false ∧ ticket.identity = identity ∧ 0 ≤ now - ticket.issuedAt ∧
        now - ticket.issuedAt ≤ 120 ∧
        (consume H key faults now store identity capability).1 =
          Function.update store (ticketName H identity.sessionId)
            (.holds { ticket with consumed := true }) ∧
        (consume H key faults now store identity capability).2 =
          match faults.release with
          | some failure => .error (consumeError failure)
          | none => .ok () := by
  unfold consume
  split_ifs
  · exact Or.inl ⟨rfl, _, rfl⟩
  · cases faults.prepare with
    | some failure => exact Or.inl ⟨rfl, _, rfl⟩
    | none =>
        rcases @consumeLocked_cases H key faults now store identity capability with
          ⟨hsame, error, herror⟩ |
          ⟨ticket, hfile, hlive, hidentity, hafter, hbefore, hmarked, hok⟩
        · cases faults.release with
          | none => exact Or.inl ⟨hsame, error, herror⟩
          | some failure => exact Or.inl ⟨hsame, _, rfl⟩
        · refine Or.inr ⟨ticket, hfile, hlive, hidentity, hafter, hbefore, ?_⟩
          cases faults.release with
          | none => exact ⟨hmarked, hok⟩
          | some failure => exact ⟨hmarked, rfl⟩

end Calls

/-! ### Sequences of calls -/

section Sequences

variable (H : Digest) (key : ControlKey)

variable {H key} {calls : List TicketCall}

end Sequences

end CodexMustWork
