import CodexMustWork.Library.DeadlineQueue
import CodexMustWork.Library.Machine
import CodexMustWork.NotificationDaemon

/-!
# The deadline scheduler

`scripts/daemon_scheduler.py`: keyed callbacks, a worker that waits for the
first deadline, and the controls that other threads call.  Every method body is
one step under the condition's lock; `_next_entry` releases the lock while it
waits, so each iteration of its loop is one step.

What the scheduler is for is a map from keys to pending callbacks.  The heap and
the generation table implement it, whatever stale entries the heap holds.
-/

namespace CodexMustWork

open DeadlineQueue

variable {δ α : Type}

/-- The reasons of `SchedulerError`. -/
inductive SchedulerError where
  | schedulerKeyMissing
  | schedulerUnavailable
  | schedulerClosed
deriving DecidableEq, Repr

/-- `_CALLBACK_ERROR_CODE` and `_FATAL_ERROR_CODE`. -/
inductive CallbackErrorCode where
  | callbackFailed
  | schedulerFatal
deriving DecidableEq, Repr

/-- The fields of `DeadlineScheduler` that its lock protects. -/
structure DeadlineScheduler (δ α : Type) where
  queue : Queue String δ α := .empty
  closed : Bool := false
  health : SchedulerHealth := .healthy
  callbackFailureCount : Nat := 0
  lastCallbackError : Option CallbackErrorCode := none

/-- One pending callback. -/
structure Pending (δ α : Type) where
  deadline : δ
  sequence : Nat
  callback : α

def Pending.priority (item : Pending δ α) : δ ×ₗ Nat := toLex (item.deadline, item.sequence)

/-- Taking a key out of a map leaves the other keys. -/
theorem pending_of_update {pending : String → Option (Pending δ α)} {key other : String}
    {item : Pending δ α} (hupdated : Function.update pending key none other = some item) :
    other ≠ key ∧ pending other = some item := by
  by_cases hother : other = key
  · subst hother
    rw [Function.update_self] at hupdated
    cases hupdated
  · rw [Function.update_of_ne hother] at hupdated
    exact ⟨hother, hupdated⟩

/-- What threads do to a scheduler, one step under its lock each.  `wake` schedules at a
    reading of the clock it took before; the worker reads the clock in its step, and tells
    how the callback it ran ended. -/
inductive SchedulerStep (δ α : Type) where
  | schedule (key : String) (deadline : δ) (callback : α)
  | wake (key : String) (reading : δ) (callback : α)
  | cancel (key : String)
  | close
  | nextEntry (now : δ)
  | callbackFailure
  | callbackSuccess
  | fatal

/-- What a step returns. -/
inductive SchedulerOutput (δ α : Type) where
  | scheduled (sequence : Nat)
  | refused (error : SchedulerError)
  | done
  | waiting (deadline : Option δ)
  | again
  | returned (key : String) (item : Pending δ α)
  | ended

namespace DeadlineScheduler

/-- Replace one keyed deadline and wake the resident wait. -/
def schedule [LinearOrder δ] (scheduler : DeadlineScheduler δ α) (key : String) (deadline : δ)
    (callback : α) : DeadlineScheduler δ α × SchedulerOutput δ α :=
  if key = "" then (scheduler, .refused .schedulerKeyMissing)
  else if scheduler.health = .fatal then (scheduler, .refused .schedulerUnavailable)
  else if scheduler.closed then (scheduler, .refused .schedulerClosed)
  else
    ({ scheduler with queue := scheduler.queue.push key deadline callback },
      .scheduled (scheduler.queue.sequence + 1))

/-- Coalesce an immediate signal under the supplied key. -/
def wake [LinearOrder δ] (scheduler : DeadlineScheduler δ α) (key : String) (reading : δ)
    (callback : α) : DeadlineScheduler δ α × SchedulerOutput δ α :=
  schedule scheduler key reading callback

/-- Invalidate a keyed callback without scanning the heap. -/
def cancel (scheduler : DeadlineScheduler δ α) (key : String) : DeadlineScheduler δ α :=
  { scheduler with queue := scheduler.queue.remove key }

/-- Stop the scheduler. -/
def close (scheduler : DeadlineScheduler δ α) : DeadlineScheduler δ α :=
  if scheduler.closed then scheduler
  else { scheduler with closed := true, queue := scheduler.queue.clear }

/-- One iteration of the loop of `_next_entry`, at one reading of the clock. -/
def nextEntry [LinearOrder δ] (scheduler : DeadlineScheduler δ α) (now : δ) :
    DeadlineScheduler δ α × SchedulerOutput δ α :=
  if scheduler.closed then (scheduler, .ended)
  else
    let queue := scheduler.queue.discardStale
    match queue.entries with
    | [] => ({ scheduler with queue }, .waiting none)
    | entry :: rest =>
        if now < entry.deadline then ({ scheduler with queue }, .waiting (some entry.deadline))
        else if queue.generations entry.key ≠ some entry.generation then
          ({ scheduler with queue := { queue with entries := rest } }, .again)
        else
          ({ scheduler with queue := queue.pop entry },
            .returned entry.key ⟨entry.deadline, entry.sequence, entry.callback⟩)

def recordCallbackFailure (scheduler : DeadlineScheduler δ α) : DeadlineScheduler δ α :=
  { scheduler with
    callbackFailureCount := scheduler.callbackFailureCount + 1
    lastCallbackError := some .callbackFailed
    health := if scheduler.health = .healthy then .degraded else scheduler.health }

def recordCallbackSuccess (scheduler : DeadlineScheduler δ α) : DeadlineScheduler δ α :=
  { scheduler with
    health := if scheduler.health = .degraded then .healthy else scheduler.health }

def markFatal (scheduler : DeadlineScheduler δ α) : DeadlineScheduler δ α :=
  { scheduler with
    health := .fatal
    queue := scheduler.queue.clear
    lastCallbackError := some .schedulerFatal }

/-- The scheduler as a machine. -/
def machine (δ α : Type) [LinearOrder δ] :
    Machine (DeadlineScheduler δ α) (SchedulerStep δ α) (SchedulerOutput δ α) where
  step scheduler
    | .schedule key deadline callback => scheduler.schedule key deadline callback
    | .wake key reading callback => scheduler.wake key reading callback
    | .cancel key => (scheduler.cancel key, .done)
    | .close => (scheduler.close, .done)
    | .nextEntry now => scheduler.nextEntry now
    | .callbackFailure => (scheduler.recordCallbackFailure, .done)
    | .callbackSuccess => (scheduler.recordCallbackSuccess, .done)
    | .fatal => (scheduler.markFatal, .done)

end DeadlineScheduler

/-! ### What the scheduler is for -/

/-- A map from keys to pending callbacks, open or closed. -/
structure PendingCallbacks (δ α : Type) where
  pending : String → Option (Pending δ α)
  sequence : Nat
  closed : Bool
  fatal : Bool

namespace PendingCallbacks

variable [LinearOrder δ]

def initial : PendingCallbacks δ α := ⟨fun _ => none, 0, false, false⟩

/-- Why a schedule is refused, if it is. -/
def refusal (callbacks : PendingCallbacks δ α) (key : String) : Option SchedulerError :=
  if key = "" then some .schedulerKeyMissing
  else if callbacks.fatal then some .schedulerUnavailable
  else if callbacks.closed then some .schedulerClosed
  else none

/-- The item of a key that comes first. -/
def First (callbacks : PendingCallbacks δ α) (key : String) (item : Pending δ α) : Prop :=
  callbacks.pending key = some item ∧
    ∀ other item', callbacks.pending other = some item' → item.priority ≤ item'.priority

/-- The steps of the map. -/
inductive Step : PendingCallbacks δ α → SchedulerStep δ α → SchedulerOutput δ α →
    PendingCallbacks δ α → Prop
  | schedule {callbacks : PendingCallbacks δ α} {key : String} (deadline : δ) (callback : α)
      (accepted : callbacks.refusal key = none) :
      Step callbacks (.schedule key deadline callback) (.scheduled (callbacks.sequence + 1))
        { callbacks with
          pending := Function.update callbacks.pending key
            (some ⟨deadline, callbacks.sequence + 1, callback⟩)
          sequence := callbacks.sequence + 1 }
  | refuse {callbacks : PendingCallbacks δ α} {key : String} (deadline : δ) (callback : α)
      {error : SchedulerError} (refused : callbacks.refusal key = some error) :
      Step callbacks (.schedule key deadline callback) (.refused error) callbacks
  | wake {callbacks next : PendingCallbacks δ α} {key : String} {reading : δ} {callback : α}
      {output : SchedulerOutput δ α}
      (scheduled : Step callbacks (.schedule key reading callback) output next) :
      Step callbacks (.wake key reading callback) output next
  | cancel (callbacks : PendingCallbacks δ α) (key : String) :
      Step callbacks (.cancel key) .done
        { callbacks with pending := Function.update callbacks.pending key none }
  | close (callbacks : PendingCallbacks δ α) :
      Step callbacks .close .done
        { callbacks with pending := fun _ => none, closed := true }
  | ended {callbacks : PendingCallbacks δ α} (now : δ) (closed : callbacks.closed = true) :
      Step callbacks (.nextEntry now) .ended callbacks
  | idle {callbacks : PendingCallbacks δ α} (now : δ) (isOpen : callbacks.closed = false)
      (empty : ∀ key, callbacks.pending key = none) :
      Step callbacks (.nextEntry now) (.waiting none) callbacks
  | wait {callbacks : PendingCallbacks δ α} {now : δ} {key : String} {item : Pending δ α}
      (isOpen : callbacks.closed = false) (first : callbacks.First key item)
      (early : now < item.deadline) :
      Step callbacks (.nextEntry now) (.waiting (some item.deadline)) callbacks
  | run {callbacks : PendingCallbacks δ α} {now : δ} {key : String} {item : Pending δ α}
      (isOpen : callbacks.closed = false) (first : callbacks.First key item)
      (due : item.deadline ≤ now) :
      Step callbacks (.nextEntry now) (.returned key item)
        { callbacks with pending := Function.update callbacks.pending key none }
  | callbackFailure (callbacks : PendingCallbacks δ α) :
      Step callbacks .callbackFailure .done callbacks
  | callbackSuccess (callbacks : PendingCallbacks δ α) :
      Step callbacks .callbackSuccess .done callbacks
  | fatal (callbacks : PendingCallbacks δ α) :
      Step callbacks .fatal .done
        { callbacks with pending := fun _ => none, fatal := true }

/-- The input schedules a callback under the key. -/
def Schedules (input : SchedulerStep δ α) (key : String) (deadline : δ) (callback : α) : Prop :=
  input = .schedule key deadline callback ∨ input = .wake key deadline callback

omit [LinearOrder δ] in
theorem Schedules.key_eq {input : SchedulerStep δ α} {key other : String} {deadline deadline' : δ}
    {callback callback' : α} (hfirst : Schedules input key deadline callback)
    (hsecond : Schedules input other deadline' callback') : key = other := by
  rcases hfirst with rfl | rfl
  · rcases hsecond with heq | heq
    · exact (SchedulerStep.schedule.inj heq).1
    · cases heq
  · rcases hsecond with heq | heq
    · cases heq
    · exact (SchedulerStep.wake.inj heq).1

/-- The step replaces, cancels or closes what is pending under the key. -/
inductive Ends (key : String) : SchedulerStep δ α → SchedulerOutput δ α → Prop
  | replaced (deadline : δ) (callback : α) (sequence : Nat) :
      Ends key (.schedule key deadline callback) (.scheduled sequence)
  | woken (reading : δ) (callback : α) (sequence : Nat) :
      Ends key (.wake key reading callback) (.scheduled sequence)
  | cancelled : Ends key (.cancel key) .done
  | closed : Ends key .close .done
  | fatal : Ends key .fatal .done

/-- Pending items have distinct numbers, all of them used. -/
structure Numbered (callbacks : PendingCallbacks δ α) : Prop where
  bounded : ∀ key item, callbacks.pending key = some item → item.sequence ≤ callbacks.sequence
  distinct : ∀ key item other item', callbacks.pending key = some item →
    callbacks.pending other = some item' → item.sequence = item'.sequence → key = other

/-- The number was used, and nothing is pending under it. -/
def Gone (callbacks : PendingCallbacks δ α) (number : Nat) : Prop :=
  number ≤ callbacks.sequence ∧
    ∀ key item, callbacks.pending key = some item → item.sequence ≠ number

omit [LinearOrder δ] in
theorem numbered_initial : (initial : PendingCallbacks δ α).Numbered :=
  ⟨fun _ _ heq => (nomatch heq), fun _ _ _ _ heq => (nomatch heq)⟩

namespace Step

variable {callbacks next : PendingCallbacks δ α} {input : SchedulerStep δ α}
  {output : SchedulerOutput δ α}

/-- **What a step can do.**  Everything pending after it was pending before it, or is what
    the step scheduled. -/
theorem effect (hstep : Step callbacks input output next) :
    callbacks.sequence ≤ next.sequence ∧
      ∀ key item, next.pending key = some item → callbacks.pending key = some item ∨
        Schedules input key item.deadline item.callback ∧ output = .scheduled item.sequence ∧
          item.sequence = callbacks.sequence + 1 ∧ next.sequence = callbacks.sequence + 1 := by
  induction hstep with
  | @schedule scheduled deadline callback accepted =>
      refine ⟨Nat.le_succ _, ?_⟩
      intro key item hpending
      dsimp only at hpending
      by_cases hkey : key = scheduled
      · subst hkey
        rw [Function.update_self, Option.some_inj] at hpending
        subst hpending
        exact Or.inr ⟨Or.inl rfl, rfl, rfl, rfl⟩
      · rw [Function.update_of_ne hkey] at hpending
        exact Or.inl hpending
  | wake scheduled ih =>
      refine ⟨ih.1, ?_⟩
      intro key item hpending
      rcases ih.2 key item hpending with hold | ⟨hinput, hrest⟩
      · exact Or.inl hold
      · rcases hinput with hinput | hinput
        · obtain ⟨rfl, rfl, rfl⟩ := SchedulerStep.schedule.inj hinput
          exact Or.inr ⟨Or.inr rfl, hrest⟩
        · cases hinput
  | cancel key =>
      exact ⟨le_rfl, fun _ _ hpending => Or.inl (pending_of_update hpending).2⟩
  | run isOpen first due =>
      exact ⟨le_rfl, fun _ _ hpending => Or.inl (pending_of_update hpending).2⟩
  | close => exact ⟨le_rfl, fun _ _ hpending => by cases hpending⟩
  | fatal => exact ⟨le_rfl, fun _ _ hpending => by cases hpending⟩
  | refuse => exact ⟨le_rfl, fun _ _ hpending => Or.inl hpending⟩
  | ended => exact ⟨le_rfl, fun _ _ hpending => Or.inl hpending⟩
  | idle => exact ⟨le_rfl, fun _ _ hpending => Or.inl hpending⟩
  | wait => exact ⟨le_rfl, fun _ _ hpending => Or.inl hpending⟩
  | callbackFailure => exact ⟨le_rfl, fun _ _ hpending => Or.inl hpending⟩
  | callbackSuccess => exact ⟨le_rfl, fun _ _ hpending => Or.inl hpending⟩

theorem numbered (hstep : Step callbacks input output next) (hnumbered : callbacks.Numbered) :
    next.Numbered := by
  obtain ⟨hsequence, heffect⟩ := hstep.effect
  constructor
  · intro key item hpending
    rcases heffect key item hpending with hold | ⟨_, _, hnew, hnext⟩
    · exact (hnumbered.bounded key item hold).trans hsequence
    · omega
  · intro key item other item' hpending hpending' hsame
    rcases heffect key item hpending with hold | ⟨hschedules, _, hnew, _⟩ <;>
      rcases heffect other item' hpending' with hold' | ⟨hschedules', _, hnew', _⟩
    · exact hnumbered.distinct key item other item' hold hold' hsame
    · have hbound := hnumbered.bounded key item hold
      omega
    · have hbound := hnumbered.bounded other item' hold'
      omega
    · exact hschedules.key_eq hschedules'

theorem gone {number : Nat} (hstep : Step callbacks input output next)
    (hgone : callbacks.Gone number) : next.Gone number := by
  obtain ⟨hsequence, heffect⟩ := hstep.effect
  refine ⟨hgone.1.trans hsequence, ?_⟩
  intro key item hpending
  rcases heffect key item hpending with hold | ⟨_, _, hnew, _⟩
  · exact hgone.2 key item hold
  · have hused := hgone.1
    omega

/-- What a step returns was first, is due, and is pending no more. -/
theorem returned {key : String} {item : Pending δ α}
    (hstep : Step callbacks input (.returned key item) next) :
    ∃ now, input = .nextEntry now ∧ callbacks.First key item ∧ item.deadline ≤ now ∧
      next = { callbacks with pending := Function.update callbacks.pending key none } := by
  generalize houtput : SchedulerOutput.returned key item = output at hstep
  cases hstep with
  | run isOpen first due =>
      obtain ⟨rfl, rfl⟩ := SchedulerOutput.returned.inj houtput
      exact ⟨_, rfl, first, due, rfl⟩
  | wake scheduled =>
      subst houtput
      cases scheduled
  | _ => cases houtput

theorem returned_gone {key : String} {item : Pending δ α} (hnumbered : callbacks.Numbered)
    (hstep : Step callbacks input (.returned key item) next) : next.Gone item.sequence := by
  obtain ⟨now, _, ⟨hpending, _⟩, _, rfl⟩ := hstep.returned
  refine ⟨hnumbered.bounded key item hpending, ?_⟩
  intro other item' hother hsame
  obtain ⟨hne, hold⟩ := pending_of_update hother
  exact hne (hnumbered.distinct other item' key item hold hpending hsame)

/-- What was pending stays pending, is returned, or is ended by the step. -/
theorem kept {key : String} {item : Pending δ α} (hstep : Step callbacks input output next)
    (hpending : callbacks.pending key = some item) :
    next.pending key = some item ∨ output = .returned key item ∨ Ends key input output := by
  induction hstep with
  | @schedule scheduled deadline callback accepted =>
      by_cases hkey : key = scheduled
      · subst hkey
        exact Or.inr (Or.inr (.replaced deadline callback _))
      · exact Or.inl ((Function.update_of_ne hkey _ _).trans hpending)
  | wake scheduled ih =>
      rcases ih with hkept | houtput | hends
      · exact Or.inl hkept
      · exact Or.inr (Or.inl houtput)
      · cases hends
        exact Or.inr (Or.inr (.woken _ _ _))
  | cancel cancelled =>
      by_cases hkey : key = cancelled
      · subst hkey
        exact Or.inr (Or.inr .cancelled)
      · exact Or.inl ((Function.update_of_ne hkey _ _).trans hpending)
  | @run now ran item' isOpen first due =>
      by_cases hkey : key = ran
      · subst hkey
        rw [first.1, Option.some_inj] at hpending
        exact Or.inr (Or.inl (by rw [hpending]))
      · exact Or.inl ((Function.update_of_ne hkey _ _).trans hpending)
  | close => exact Or.inr (Or.inr .closed)
  | fatal => exact Or.inr (Or.inr .fatal)
  | refuse => exact Or.inl hpending
  | ended => exact Or.inl hpending
  | idle => exact Or.inl hpending
  | wait => exact Or.inl hpending
  | callbackFailure => exact Or.inl hpending
  | callbackSuccess => exact Or.inl hpending

/-- What a step ends is pending no more. -/
theorem ended_gone {key : String} {item : Pending δ α} (hnumbered : callbacks.Numbered)
    (hstep : Step callbacks input output next) (hpending : callbacks.pending key = some item)
    (hends : Ends key input output) : next.Gone item.sequence := by
  have hbound := hnumbered.bounded key item hpending
  have hreplaced : ∀ item', next.pending key = some item' → item'.sequence ≠ item.sequence := by
    intro item' hitem'
    cases hends with
    | replaced deadline callback sequence =>
        cases hstep
        dsimp only at hitem'
        rw [Function.update_self, Option.some_inj] at hitem'
        subst hitem'
        exact (Nat.lt_succ_of_le hbound).ne'
    | woken reading callback sequence =>
        cases hstep with
        | wake scheduled =>
            cases scheduled
            dsimp only at hitem'
            rw [Function.update_self, Option.some_inj] at hitem'
            subst hitem'
            exact (Nat.lt_succ_of_le hbound).ne'
    | cancelled =>
        cases hstep
        exact absurd rfl (pending_of_update hitem').1
    | closed =>
        cases hstep
        cases hitem'
    | fatal =>
        cases hstep
        cases hitem'
  obtain ⟨hsequence, heffect⟩ := hstep.effect
  refine ⟨hbound.trans hsequence, ?_⟩
  intro other item' hother hsame
  rcases heffect other item' hother with hold | ⟨_, _, hnew, _⟩
  · have hkey := hnumbered.distinct other item' key item hold hpending hsame
    subst hkey
    exact hreplaced item' hother hsame
  · omega

end Step

end PendingCallbacks

/-! ### Refinement -/

namespace DeadlineScheduler

variable [LinearOrder δ] {scheduler : DeadlineScheduler δ α}

/-- The item of an entry. -/
def item (entry : DeadlineQueue.Entry String δ α) : Pending δ α :=
  ⟨entry.deadline, entry.sequence, entry.callback⟩

/-- The map that the heap and the generations stand for. -/
def pendingCallbacks (scheduler : DeadlineScheduler δ α) : PendingCallbacks δ α where
  pending key := (scheduler.queue.lookup key).map item
  sequence := scheduler.queue.sequence
  closed := scheduler.closed
  fatal := decide (scheduler.health = .fatal)

/-- What every step keeps: a well-formed queue, empty once the scheduler is closed. -/
structure Valid (scheduler : DeadlineScheduler δ α) : Prop where
  queue : scheduler.queue.WellFormed
  closed : scheduler.closed = true → scheduler.queue.entries = []

theorem valid_fresh : ({} : DeadlineScheduler δ α).Valid :=
  ⟨Queue.wellFormed_empty, fun heq => by cases heq⟩

omit [LinearOrder δ] in
theorem pendingCallbacks_eq_some {key : String} {pending : Pending δ α}
    (hpending : scheduler.pendingCallbacks.pending key = some pending) :
    ∃ entry, scheduler.queue.lookup key = some entry ∧ item entry = pending :=
  Option.map_eq_some_iff.mp hpending

theorem Valid.pending_of_closed (hvalid : scheduler.Valid) (hclosed : scheduler.closed = true)
    (key : String) : scheduler.pendingCallbacks.pending key = none := by
  change (scheduler.queue.lookup key).map item = none
  have hnone : scheduler.queue.lookup key = none := by
    unfold Queue.lookup
    rw [hvalid.closed hclosed]
    rfl
  rw [hnone]
  rfl

theorem schedule_refines (hvalid : scheduler.Valid) (key : String) (deadline : δ) (callback : α) :
    PendingCallbacks.Step scheduler.pendingCallbacks (.schedule key deadline callback)
        (scheduler.schedule key deadline callback).2
        (scheduler.schedule key deadline callback).1.pendingCallbacks ∧
      (scheduler.schedule key deadline callback).1.Valid := by
  have hrefusal : scheduler.pendingCallbacks.refusal key =
      if key = "" then some .schedulerKeyMissing
      else if scheduler.health = .fatal then some .schedulerUnavailable
      else if scheduler.closed then some .schedulerClosed
      else none := by
    unfold PendingCallbacks.refusal pendingCallbacks
    simp only [decide_eq_true_eq]
  unfold schedule
  split_ifs with hempty hfatal hclosed
  · exact ⟨.refuse deadline callback (by rw [hrefusal, if_pos hempty]), hvalid⟩
  · exact ⟨.refuse deadline callback (by rw [hrefusal, if_neg hempty, if_pos hfatal]), hvalid⟩
  · exact ⟨.refuse deadline callback (by
      rw [hrefusal, if_neg hempty, if_neg hfatal, if_pos hclosed]), hvalid⟩
  · have haccepted : scheduler.pendingCallbacks.refusal key = none := by
      rw [hrefusal, if_neg hempty, if_neg hfatal, if_neg hclosed]
    refine ⟨?_, hvalid.queue.push key deadline callback, fun heq => absurd heq hclosed⟩
    have hstep := PendingCallbacks.Step.schedule deadline callback haccepted
    have hpending : (fun other => ((scheduler.queue.push key deadline callback).lookup other).map
        item) = Function.update scheduler.pendingCallbacks.pending key
          (some ⟨deadline, scheduler.queue.sequence + 1, callback⟩) := by
      funext other
      rw [hvalid.queue.lookup_push]
      by_cases hother : other = key
      · rw [if_pos hother, hother, Function.update_self]
        rfl
      · rw [if_neg hother, Function.update_of_ne hother]
        rfl
    change PendingCallbacks.Step _ _ _ ⟨_, _, _, _⟩
    rw [hpending]
    exact hstep

theorem nextEntry_refines (hvalid : scheduler.Valid) (now : δ) :
    PendingCallbacks.Step scheduler.pendingCallbacks (.nextEntry now) (scheduler.nextEntry now).2
        (scheduler.nextEntry now).1.pendingCallbacks ∧
      (scheduler.nextEntry now).1.Valid := by
  unfold nextEntry
  split_ifs with hclosed
  · exact ⟨.ended now hclosed, hvalid⟩
  · have hopen : scheduler.pendingCallbacks.closed = false :=
      Bool.eq_false_of_not_eq_true hclosed
    have hdiscarded : ({ scheduler with queue := scheduler.queue.discardStale } :
        DeadlineScheduler δ α).pendingCallbacks = scheduler.pendingCallbacks := by
      unfold pendingCallbacks
      congr 1
      funext key
      rw [hvalid.queue.lookup_discardStale]
    have hvalidDiscarded : ({ scheduler with queue := scheduler.queue.discardStale } :
        DeadlineScheduler δ α).Valid := ⟨hvalid.queue.discardStale, fun heq => absurd heq hclosed⟩
    dsimp only
    cases hentries : scheduler.queue.discardStale.entries with
    | nil =>
        refine ⟨?_, hvalidDiscarded⟩
        rw [hdiscarded]
        refine .idle now hopen fun key => ?_
        change (scheduler.queue.lookup key).map item = none
        rw [hvalid.queue.lookup_of_discarded hentries]
        rfl
    | cons entry rest =>
        obtain ⟨hfront, hleast⟩ := hvalid.queue.front hentries
        have hfirst : scheduler.pendingCallbacks.First entry.key (item entry) := by
          refine ⟨?_, ?_⟩
          · change (scheduler.queue.lookup entry.key).map item = some (item entry)
            rw [hfront]
            rfl
          · intro key other hother
            obtain ⟨found, hfound, rfl⟩ := pendingCallbacks_eq_some hother
            exact hleast key found hfound
        have hlive : scheduler.queue.discardStale.generations entry.key = some entry.generation :=
          (hvalid.queue.lookup_eq_some.mp hfront).2.2
        dsimp only
        split_ifs with hearly hstale
        · refine ⟨?_, hvalidDiscarded⟩
          rw [hdiscarded]
          exact .wait hopen hfirst hearly
        · exact absurd hlive hstale
        · have hpending : (fun key =>
              ((scheduler.queue.discardStale.pop entry).lookup key).map item) =
              Function.update scheduler.pendingCallbacks.pending entry.key none := by
            funext key
            rw [hvalid.queue.discardStale.lookup_pop hentries, hvalid.queue.lookup_discardStale]
            by_cases hkey : key = entry.key
            · rw [if_pos hkey, hkey, Function.update_self]
              rfl
            · rw [if_neg hkey, Function.update_of_ne hkey]
              rfl
          refine ⟨?_, hvalid.queue.discardStale.pop hentries, fun heq => absurd heq hclosed⟩
          have hstep := PendingCallbacks.Step.run hopen hfirst (not_lt.mp hearly)
          change PendingCallbacks.Step _ _ _ ⟨_, _, _, _⟩
          rw [hpending]
          exact hstep

/-- **Refinement.**  Each step of the scheduler is a step of its map. -/
theorem step_refines (hvalid : scheduler.Valid) (input : SchedulerStep δ α) :
    PendingCallbacks.Step scheduler.pendingCallbacks input ((machine δ α).step scheduler input).2
        ((machine δ α).step scheduler input).1.pendingCallbacks ∧
      ((machine δ α).step scheduler input).1.Valid := by
  cases input with
  | schedule key deadline callback => exact schedule_refines hvalid key deadline callback
  | wake key reading callback =>
      obtain ⟨hstep, hnext⟩ := schedule_refines hvalid key reading callback
      exact ⟨.wake hstep, hnext⟩
  | cancel key =>
      refine ⟨?_, hvalid.queue.remove key, hvalid.closed⟩
      have hpending : (fun other => ((scheduler.queue.remove key).lookup other).map item) =
          Function.update scheduler.pendingCallbacks.pending key none := by
        funext other
        rw [hvalid.queue.lookup_remove]
        by_cases hother : other = key
        · rw [if_pos hother, hother, Function.update_self]
          rfl
        · rw [if_neg hother, Function.update_of_ne hother]
          rfl
      have hstep := PendingCallbacks.Step.cancel scheduler.pendingCallbacks key
      change PendingCallbacks.Step _ _ _
        ⟨fun other => ((scheduler.queue.remove key).lookup other).map item, _, _, _⟩
      rw [hpending]
      exact hstep
  | close =>
      have hstep := PendingCallbacks.Step.close scheduler.pendingCallbacks
      change PendingCallbacks.Step _ _ _ scheduler.close.pendingCallbacks ∧ scheduler.close.Valid
      unfold close
      split_ifs with hclosed
      · refine ⟨?_, hvalid⟩
        have hpending : scheduler.pendingCallbacks.pending = fun _ => none :=
          funext (hvalid.pending_of_closed hclosed)
        have hflag : scheduler.pendingCallbacks.closed = true := hclosed
        rw [← hpending, ← hflag] at hstep
        exact hstep
      · exact ⟨hstep, Queue.wellFormed_clear _, fun _ => rfl⟩
  | nextEntry now => exact nextEntry_refines hvalid now
  | callbackFailure =>
      refine ⟨?_, hvalid.queue, hvalid.closed⟩
      have hstep := PendingCallbacks.Step.callbackFailure scheduler.pendingCallbacks
      have hsame : scheduler.recordCallbackFailure.pendingCallbacks =
          scheduler.pendingCallbacks := by
        unfold pendingCallbacks recordCallbackFailure
        cases scheduler.health <;> rfl
      change PendingCallbacks.Step _ _ _ scheduler.recordCallbackFailure.pendingCallbacks
      rw [hsame]
      exact hstep
  | callbackSuccess =>
      refine ⟨?_, hvalid.queue, hvalid.closed⟩
      have hstep := PendingCallbacks.Step.callbackSuccess scheduler.pendingCallbacks
      have hsame : scheduler.recordCallbackSuccess.pendingCallbacks =
          scheduler.pendingCallbacks := by
        unfold pendingCallbacks recordCallbackSuccess
        cases scheduler.health <;> rfl
      change PendingCallbacks.Step _ _ _ scheduler.recordCallbackSuccess.pendingCallbacks
      rw [hsame]
      exact hstep
  | fatal =>
      exact ⟨PendingCallbacks.Step.fatal scheduler.pendingCallbacks, Queue.wellFormed_clear _,
        fun _ => rfl⟩

/-! ### Runs -/

/-- What was returned, in order. -/
def returnedItems (outputs : List (SchedulerOutput δ α)) : List (Pending δ α) :=
  outputs.filterMap fun output =>
    match output with
    | .returned _ item => some item
    | _ => none

omit [LinearOrder δ] in
theorem mem_returnedItems {outputs : List (SchedulerOutput δ α)} {item : Pending δ α} :
    item ∈ returnedItems outputs ↔ ∃ key, .returned key item ∈ outputs := by
  unfold returnedItems
  rw [List.mem_filterMap]
  constructor
  · rintro ⟨output, hmem, hitem⟩
    cases output with
    | returned key found =>
        obtain rfl := Option.some_inj.mp hitem
        exact ⟨key, hmem⟩
    | _ => cases hitem
  · rintro ⟨key, hmem⟩
    exact ⟨.returned key item, hmem, rfl⟩

/-- A callback that is pending no more is never returned. -/
theorem not_returned_of_gone {number : Nat} {inputs : List (SchedulerStep δ α)}
    (hvalid : scheduler.Valid) (hgone : scheduler.pendingCallbacks.Gone number) :
    ∀ item ∈ returnedItems ((machine δ α).outputs scheduler inputs), item.sequence ≠ number := by
  induction inputs generalizing scheduler with
  | nil => exact fun item hmem => absurd hmem List.not_mem_nil
  | cons input rest ih =>
      obtain ⟨hstep, hnext⟩ := step_refines hvalid input
      intro item hmem
      obtain ⟨key, hmem⟩ := mem_returnedItems.mp hmem
      rcases List.mem_cons.mp hmem with hreturned | hlater
      · rw [← hreturned] at hstep
        obtain ⟨_, _, hfirst, _, _⟩ := hstep.returned
        exact hgone.2 key item hfirst.1
      · exact ih hnext (hstep.gone hgone) item (mem_returnedItems.mpr ⟨key, hlater⟩)

/-- What is returned along a run has distinct numbers. -/
theorem nodup_returnedItems {inputs : List (SchedulerStep δ α)} (hvalid : scheduler.Valid)
    (hnumbered : scheduler.pendingCallbacks.Numbered) :
    ((returnedItems ((machine δ α).outputs scheduler inputs)).map Pending.sequence).Nodup := by
  induction inputs generalizing scheduler with
  | nil => exact List.nodup_nil
  | cons input rest ih =>
      obtain ⟨hstep, hnext⟩ := step_refines hvalid input
      have hrest := ih hnext (hstep.numbered hnumbered)
      rw [Machine.outputs_cons]
      cases houtput : ((machine δ α).step scheduler input).2 with
      | returned key item =>
          rw [houtput] at hstep
          refine List.nodup_cons.mpr ⟨?_, hrest⟩
          intro hmem
          obtain ⟨later, hlater, hsame⟩ := List.mem_map.mp hmem
          exact not_returned_of_gone hnext (hstep.returned_gone hnumbered) later hlater hsame
      | _ => exact hrest

/-- The scheduler after some steps. -/
def afterSteps (past : List (SchedulerStep δ α)) : DeadlineScheduler δ α :=
  (machine δ α).after {} past

/-- Its map. -/
def callbacksAfter (past : List (SchedulerStep δ α)) : PendingCallbacks δ α :=
  (afterSteps past).pendingCallbacks

/-- What a further step returns. -/
def outputAfter (past : List (SchedulerStep δ α)) (input : SchedulerStep δ α) :
    SchedulerOutput δ α :=
  ((machine δ α).step (afterSteps past) input).2

theorem afterSteps_concat (past : List (SchedulerStep δ α)) (input : SchedulerStep δ α) :
    afterSteps (past ++ [input]) = ((machine δ α).step (afterSteps past) input).1 :=
  (machine δ α).after_concat _ past input

theorem valid_after (past : List (SchedulerStep δ α)) : (afterSteps past).Valid :=
  @Machine.invariant_after _ _ _ (machine δ α) Valid (fun _ => True)
    (fun _ input hvalid _ => (step_refines hvalid input).2) _ _ valid_fresh fun _ _ => trivial

theorem step_after (past : List (SchedulerStep δ α)) (input : SchedulerStep δ α) :
    PendingCallbacks.Step (callbacksAfter past) input (outputAfter past input)
      (callbacksAfter (past ++ [input])) := by
  unfold callbacksAfter
  rw [afterSteps_concat]
  exact (step_refines (valid_after past) input).1

theorem numbered_after (past : List (SchedulerStep δ α)) : (callbacksAfter past).Numbered := by
  induction past using List.reverseRecOn with
  | nil => exact PendingCallbacks.numbered_initial
  | append_singleton past input ih => exact (step_after past input).numbered ih

/-- Every pending item was scheduled by a step before. -/
theorem scheduled_of_pending {past : List (SchedulerStep δ α)} {key : String}
    {pending : Pending δ α} (hpending : (callbacksAfter past).pending key = some pending) :
    ∃ before input later, past = before ++ input :: later ∧
      PendingCallbacks.Schedules input key pending.deadline pending.callback ∧
      outputAfter before input = .scheduled pending.sequence := by
  induction past using List.reverseRecOn with
  | nil => cases hpending
  | append_singleton past input ih =>
      rcases (step_after past input).effect.2 key pending hpending with
        hold | ⟨hschedules, houtput, _⟩
      · obtain ⟨before, earlier, later, rfl, hearlier⟩ := ih hold
        exact ⟨before, earlier, later ++ [input], by simp, hearlier⟩
      · exact ⟨past, input, [], rfl, hschedules, houtput⟩

/-- What the scheduler promises about a run. -/
structure KeepsDeadlines (inputs : List (SchedulerStep δ α)) : Prop where
  /-- Each step is a step of the map. -/
  refines : ∀ past input rest, inputs = past ++ input :: rest →
    PendingCallbacks.Step (callbacksAfter past) input (outputAfter past input)
      (callbacksAfter (past ++ [input]))
  /-- What is returned is first of the map, and due. -/
  first : ∀ past input rest key item, inputs = past ++ input :: rest →
    outputAfter past input = .returned key item →
    ∃ now, input = .nextEntry now ∧ (callbacksAfter past).First key item ∧ item.deadline ≤ now
  /-- It was scheduled before, under the number it is returned with. -/
  scheduled : ∀ past input rest key item, inputs = past ++ input :: rest →
    outputAfter past input = .returned key item →
    ∃ before earlier later, past = before ++ earlier :: later ∧
      PendingCallbacks.Schedules earlier key item.deadline item.callback ∧
      outputAfter before earlier = .scheduled item.sequence
  /-- What is replaced, cancelled or closed is never returned. -/
  silenced : ∀ past input rest key item, inputs = past ++ input :: rest →
    (callbacksAfter past).pending key = some item →
    PendingCallbacks.Ends key input (outputAfter past input) →
    ∀ later ∈ returnedItems ((machine δ α).outputs (afterSteps (past ++ [input])) rest),
      later.sequence ≠ item.sequence
  /-- No number is returned twice. -/
  once : ((returnedItems ((machine δ α).outputs {} inputs)).map Pending.sequence).Nodup
  /-- What is pending stays so until it is returned, replaced, cancelled or closed. -/
  kept : ∀ past input rest key item, inputs = past ++ input :: rest →
    (callbacksAfter past).pending key = some item →
    (callbacksAfter (past ++ [input])).pending key = some item ∨
      outputAfter past input = .returned key item ∨
      PendingCallbacks.Ends key input (outputAfter past input)

/-- **The scheduler is a keyed map of deadlines**, for every order of its steps and every
    reading of the clock. -/
theorem scheduler_keepsDeadlines (inputs : List (SchedulerStep δ α)) : KeepsDeadlines inputs where
  refines past input _ _ := step_after past input
  first past input rest key item _ houtput := by
    have hstep := step_after past input
    rw [houtput] at hstep
    obtain ⟨now, hinput, hfirst, hdue, _⟩ := hstep.returned
    exact ⟨now, hinput, hfirst, hdue⟩
  scheduled past input rest key item _ houtput := by
    have hstep := step_after past input
    rw [houtput] at hstep
    obtain ⟨_, _, hfirst, _, _⟩ := hstep.returned
    exact scheduled_of_pending hfirst.1
  silenced past input rest key item _ hpending hends :=
    not_returned_of_gone (valid_after _)
      ((step_after past input).ended_gone (numbered_after past) hpending hends)
  once := nodup_returnedItems valid_fresh PendingCallbacks.numbered_initial
  kept past input rest key item _ hpending := (step_after past input).kept hpending

end DeadlineScheduler

end CodexMustWork
