import Mathlib.Data.List.Sort
import Mathlib.Data.List.TakeWhile
import Mathlib.Data.Prod.Lex

/-!
# Queues of keyed deadlines with lazy deletion

A queue holds entries ordered by deadline, and for each key the generation of
the entry that counts.  Scheduling a key again, or removing it, leaves the old
entry where it is: an entry whose generation is not its key's is stale, and is
discarded when it comes to the front.  Read through `lookup`, such a queue is a
map from keys to entries, whatever stale entries it holds.

The front of a binary heap is its least entry; the list here is kept in order.
-/

namespace DeadlineQueue

variable {κ δ α : Type*}

structure Entry (κ δ α : Type*) where
  deadline : δ
  sequence : Nat
  key : κ
  generation : Nat
  callback : α

/-- Entries compare by deadline, then by sequence number. -/
def Entry.priority (entry : Entry κ δ α) : δ ×ₗ Nat := toLex (entry.deadline, entry.sequence)

/-- Pending entries, the generation that counts for each key, and the last number used. -/
structure Queue (κ δ α : Type*) where
  entries : List (Entry κ δ α)
  generations : κ → Option Nat
  sequence : Nat

namespace Queue

def empty : Queue κ δ α := ⟨[], fun _ => none, 0⟩

section Operations

variable [DecidableEq κ]

/-- The entry counts for its key. -/
def live (queue : Queue κ δ α) (entry : Entry κ δ α) : Bool :=
  decide (queue.generations entry.key = some entry.generation)

/-- The entry of a key, among the stale ones. -/
def lookup (queue : Queue κ δ α) (key : κ) : Option (Entry κ δ α) :=
  queue.entries.find? fun entry => decide (entry.key = key) && queue.live entry

/-- Replace the entry of a key. -/
def push [LinearOrder δ] (queue : Queue κ δ α) (key : κ) (deadline : δ) (callback : α) :
    Queue κ δ α :=
  let entry := ⟨deadline, queue.sequence + 1, key, queue.sequence + 1, callback⟩
  { entries := queue.entries.orderedInsert (fun a b => a.priority ≤ b.priority) entry
    generations := Function.update queue.generations key (some (queue.sequence + 1))
    sequence := queue.sequence + 1 }

/-- Invalidate the entry of a key without looking for it. -/
def remove (queue : Queue κ δ α) (key : κ) : Queue κ δ α :=
  { queue with generations := Function.update queue.generations key none }

def clear (queue : Queue κ δ α) : Queue κ δ α :=
  { queue with entries := [], generations := fun _ => none }

/-- Drop the stale entries at the front. -/
def discardStale (queue : Queue κ δ α) : Queue κ δ α :=
  { queue with entries := queue.entries.dropWhile fun entry => !queue.live entry }

/-- Take the first entry off, and with it the generation of its key. -/
def pop (queue : Queue κ δ α) (entry : Entry κ δ α) : Queue κ δ α :=
  { queue with
    entries := queue.entries.tail
    generations := Function.update queue.generations entry.key none }

end Operations

/-- What is dropped was stale. -/
theorem mem_discardStale {queue : Queue κ δ α} {entry : Entry κ δ α} (hmem : entry ∈ queue.entries)
    (hlive : queue.generations entry.key = some entry.generation) :
    entry ∈ queue.discardStale.entries := by
  have hsplit := List.takeWhile_append_dropWhile
    (p := fun entry => !queue.live entry) (l := queue.entries)
  rw [← hsplit] at hmem
  rcases List.mem_append.mp hmem with hdropped | hkept
  · have hstale := List.mem_takeWhile_imp hdropped
    simp [live, hlive] at hstale
  · exact hkept

/-! ### Well-formed queues -/

/-- What every operation keeps: the order, distinct numbers, and an entry for each
    generation that counts. -/
structure WellFormed [LinearOrder δ] (queue : Queue κ δ α) : Prop where
  sorted : queue.entries.Pairwise fun a b => a.priority ≤ b.priority
  nodup : (queue.entries.map Entry.sequence).Nodup
  generation : ∀ entry ∈ queue.entries, entry.generation = entry.sequence
  bounded : ∀ entry ∈ queue.entries, entry.sequence ≤ queue.sequence
  held : ∀ key number, queue.generations key = some number →
    ∃ entry ∈ queue.entries, entry.key = key ∧ entry.generation = number

theorem wellFormed_empty [LinearOrder δ] : (empty : Queue κ δ α).WellFormed :=
  ⟨List.Pairwise.nil, List.nodup_nil, fun _ hmem => absurd hmem List.not_mem_nil,
    fun _ hmem => absurd hmem List.not_mem_nil, fun _ _ heq => by cases heq⟩

theorem wellFormed_clear [LinearOrder δ] (queue : Queue κ δ α) : queue.clear.WellFormed :=
  ⟨List.Pairwise.nil, List.nodup_nil, fun _ hmem => absurd hmem List.not_mem_nil,
    fun _ hmem => absurd hmem List.not_mem_nil, fun _ _ heq => by cases heq⟩

section WellFormed

variable [LinearOrder δ] {queue : Queue κ δ α}

theorem WellFormed.eq_of_sequence (hqueue : queue.WellFormed) {entry other : Entry κ δ α}
    (hentry : entry ∈ queue.entries) (hother : other ∈ queue.entries)
    (hsame : entry.sequence = other.sequence) : entry = other :=
  List.inj_on_of_nodup_map hqueue.nodup hentry hother hsame

theorem WellFormed.discardStale (hqueue : queue.WellFormed) : queue.discardStale.WellFormed := by
  have hsublist : queue.discardStale.entries.Sublist queue.entries :=
    List.dropWhile_sublist _
  refine ⟨hqueue.sorted.sublist hsublist, hqueue.nodup.sublist (hsublist.map _),
    fun entry hmem => hqueue.generation entry (hsublist.subset hmem),
    fun entry hmem => hqueue.bounded entry (hsublist.subset hmem), ?_⟩
  intro key number hnumber
  obtain ⟨entry, hentry, rfl, rfl⟩ := hqueue.held key number hnumber
  exact ⟨entry, mem_discardStale hentry hnumber, rfl, rfl⟩

variable [DecidableEq κ]

/-- The map that a queue stands for. -/
theorem WellFormed.lookup_eq_some (hqueue : queue.WellFormed) {key : κ} {entry : Entry κ δ α} :
    queue.lookup key = some entry ↔
      entry ∈ queue.entries ∧ entry.key = key ∧ queue.generations key = some entry.generation := by
  have hfinds : ∀ found, queue.lookup key = some found → found ∈ queue.entries ∧
      found.key = key ∧ queue.generations key = some found.generation := by
    intro found hfound
    have hmem := List.mem_of_find?_eq_some hfound
    have hlive := List.find?_some hfound
    simp only [live, Bool.and_eq_true, decide_eq_true_eq] at hlive
    exact ⟨hmem, hlive.1, hlive.1 ▸ hlive.2⟩
  constructor
  · exact hfinds entry
  · rintro ⟨hmem, hkey, hgeneration⟩
    cases hlookup : queue.lookup key with
    | none =>
        have hnone := List.find?_eq_none.mp hlookup entry hmem
        simp [live, hkey, hgeneration] at hnone
    | some found =>
        obtain ⟨hfound, _, hnumber⟩ := hfinds found hlookup
        rw [hgeneration, Option.some_inj] at hnumber
        have hsame := hqueue.eq_of_sequence hfound hmem (by
          rw [← hqueue.generation found hfound, ← hqueue.generation entry hmem, hnumber])
        rw [hsame]

/-! ### Operations on the map -/

theorem WellFormed.push (hqueue : queue.WellFormed) (key : κ) (deadline : δ) (callback : α) :
    (queue.push key deadline callback).WellFormed := by
  have hperm := List.perm_orderedInsert (fun a b : Entry κ δ α => a.priority ≤ b.priority)
    ⟨deadline, queue.sequence + 1, key, queue.sequence + 1, callback⟩ queue.entries
  refine ⟨?_, ?_, ?_, ?_, ?_⟩
  · exact hqueue.sorted.orderedInsert _ _
  · refine (hperm.map Entry.sequence).nodup_iff.mpr (List.nodup_cons.mpr ⟨?_, hqueue.nodup⟩)
    intro hmem
    obtain ⟨entry, hentry, hsame⟩ := List.mem_map.mp hmem
    have hbound := hqueue.bounded entry hentry
    change entry.sequence = queue.sequence + 1 at hsame
    omega
  · intro entry hmem
    rcases List.mem_cons.mp (hperm.mem_iff.mp hmem) with rfl | hold
    · rfl
    · exact hqueue.generation entry hold
  · intro entry hmem
    rcases List.mem_cons.mp (hperm.mem_iff.mp hmem) with rfl | hold
    · exact le_rfl
    · exact (hqueue.bounded entry hold).trans (Nat.le_succ _)
  · intro other number hnumber
    by_cases hother : other = key
    · subst hother
      have hnew : some (queue.sequence + 1) = some number := by
        simpa [Queue.push] using hnumber
      exact ⟨_, hperm.mem_iff.mpr (List.mem_cons_self ..), rfl, Option.some_inj.mp hnew⟩
    · have hold : queue.generations other = some number := by
        simpa [Queue.push, Function.update_of_ne hother] using hnumber
      obtain ⟨entry, hentry, hkey, hgeneration⟩ := hqueue.held other number hold
      exact ⟨entry, hperm.mem_iff.mpr (List.mem_cons_of_mem _ hentry), hkey, hgeneration⟩

/-- Pushing replaces the entry of the key. -/
theorem WellFormed.lookup_push (hqueue : queue.WellFormed) (key other : κ) (deadline : δ)
    (callback : α) :
    (queue.push key deadline callback).lookup other =
      if other = key then
        some ⟨deadline, queue.sequence + 1, key, queue.sequence + 1, callback⟩
      else queue.lookup other := by
  have hperm := List.perm_orderedInsert (fun a b : Entry κ δ α => a.priority ≤ b.priority)
    ⟨deadline, queue.sequence + 1, key, queue.sequence + 1, callback⟩ queue.entries
  have hpushed := hqueue.push key deadline callback
  split_ifs with hother
  · subst hother
    refine hpushed.lookup_eq_some.mpr ⟨hperm.mem_iff.mpr (List.mem_cons_self ..), rfl, ?_⟩
    simp [Queue.push]
  · apply Option.ext
    intro entry
    rw [hpushed.lookup_eq_some, hqueue.lookup_eq_some]
    have hgenerations : (queue.push key deadline callback).generations other =
        queue.generations other := Function.update_of_ne hother _ _
    rw [hgenerations]
    constructor
    · rintro ⟨hmem, hkey, hlive⟩
      rcases List.mem_cons.mp (hperm.mem_iff.mp hmem) with rfl | hold
      · exact absurd hkey.symm hother
      · exact ⟨hold, hkey, hlive⟩
    · rintro ⟨hold, hkey, hlive⟩
      exact ⟨hperm.mem_iff.mpr (List.mem_cons_of_mem _ hold), hkey, hlive⟩

theorem WellFormed.remove (hqueue : queue.WellFormed) (key : κ) :
    (queue.remove key).WellFormed := by
  refine ⟨hqueue.sorted, hqueue.nodup, hqueue.generation, hqueue.bounded, ?_⟩
  intro other number hnumber
  by_cases hother : other = key
  · subst hother
    simp [Queue.remove] at hnumber
  · exact hqueue.held other number (by
      simpa [Queue.remove, Function.update_of_ne hother] using hnumber)

theorem WellFormed.lookup_remove (hqueue : queue.WellFormed) (key other : κ) :
    (queue.remove key).lookup other = if other = key then none else queue.lookup other := by
  have hremoved := hqueue.remove key
  apply Option.ext
  intro entry
  rw [hremoved.lookup_eq_some]
  split_ifs with hother
  · subst hother
    simp [Queue.remove]
  · rw [hqueue.lookup_eq_some]
    simp [Queue.remove, Function.update_of_ne hother]

/-- Discarding stale entries does not change the map. -/
theorem WellFormed.lookup_discardStale (hqueue : queue.WellFormed) (key : κ) :
    queue.discardStale.lookup key = queue.lookup key := by
  apply Option.ext
  intro entry
  rw [hqueue.discardStale.lookup_eq_some, hqueue.lookup_eq_some]
  constructor
  · rintro ⟨hmem, hkey, hlive⟩
    exact ⟨(List.dropWhile_sublist _).subset hmem, hkey, hlive⟩
  · rintro ⟨hmem, rfl, hlive⟩
    exact ⟨mem_discardStale hmem hlive, rfl, hlive⟩

/-- When all is stale, nothing is pending. -/
theorem WellFormed.lookup_of_discarded (hqueue : queue.WellFormed)
    (hempty : queue.discardStale.entries = []) (key : κ) : queue.lookup key = none := by
  cases hlookup : queue.lookup key with
  | none => rfl
  | some entry =>
      rw [← hqueue.lookup_discardStale] at hlookup
      have hmem := (hqueue.discardStale.lookup_eq_some.mp hlookup).1
      rw [hempty] at hmem
      exact absurd hmem List.not_mem_nil

/-- The front of a queue without stale entries at its front is the least pending entry. -/
theorem WellFormed.front (hqueue : queue.WellFormed) {entry : Entry κ δ α}
    {rest : List (Entry κ δ α)} (hfront : queue.discardStale.entries = entry :: rest) :
    queue.lookup entry.key = some entry ∧
      ∀ key other, queue.lookup key = some other → entry.priority ≤ other.priority := by
  have hdiscarded := hqueue.discardStale
  have hlive : queue.generations entry.key = some entry.generation := by
    have hhead : queue.discardStale.entries.head? = some entry := by rw [hfront]; rfl
    have hkept := List.head?_dropWhile_not (fun entry => !queue.live entry) queue.entries
    rw [show queue.entries.dropWhile (fun entry => !queue.live entry) =
      queue.discardStale.entries from rfl, hhead] at hkept
    simpa [live] using hkept
  refine ⟨?_, ?_⟩
  · rw [← hqueue.lookup_discardStale, hdiscarded.lookup_eq_some]
    exact ⟨hfront ▸ List.mem_cons_self .., rfl, hlive⟩
  · intro key other hother
    rw [← hqueue.lookup_discardStale] at hother
    have hmem := (hdiscarded.lookup_eq_some.mp hother).1
    have hsorted := hdiscarded.sorted
    rw [hfront] at hmem hsorted
    rcases List.mem_cons.mp hmem with rfl | hmem
    · exact le_rfl
    · exact (List.pairwise_cons.mp hsorted).1 other hmem

theorem WellFormed.pop (hqueue : queue.WellFormed) {entry : Entry κ δ α}
    {rest : List (Entry κ δ α)} (hfront : queue.entries = entry :: rest) :
    (queue.pop entry).WellFormed := by
  have hsublist : (queue.pop entry).entries.Sublist queue.entries := List.tail_sublist _
  refine ⟨hqueue.sorted.sublist hsublist, hqueue.nodup.sublist (hsublist.map _),
    fun other hmem => hqueue.generation other (hsublist.subset hmem),
    fun other hmem => hqueue.bounded other (hsublist.subset hmem), ?_⟩
  intro key number hnumber
  by_cases hkey : key = entry.key
  · subst hkey
    simp [Queue.pop] at hnumber
  · have hold : queue.generations key = some number := by
      simpa [Queue.pop, Function.update_of_ne hkey] using hnumber
    obtain ⟨other, hother, hotherKey, hgeneration⟩ := hqueue.held key number hold
    refine ⟨other, ?_, hotherKey, hgeneration⟩
    rw [hfront] at hother
    rcases List.mem_cons.mp hother with rfl | hother
    · exact absurd hotherKey.symm hkey
    · change other ∈ queue.entries.tail
      rw [hfront]
      exact hother

/-- Popping the front takes its key out of the map. -/
theorem WellFormed.lookup_pop (hqueue : queue.WellFormed) {entry : Entry κ δ α}
    {rest : List (Entry κ δ α)} (hfront : queue.entries = entry :: rest) (key : κ) :
    (queue.pop entry).lookup key = if key = entry.key then none else queue.lookup key := by
  apply Option.ext
  intro other
  rw [(hqueue.pop hfront).lookup_eq_some]
  split_ifs with hkey
  · subst hkey
    simp [Queue.pop]
  · rw [hqueue.lookup_eq_some, hfront]
    have hentries : (queue.pop entry).entries = rest := by
      change queue.entries.tail = rest
      rw [hfront]
      rfl
    have hgenerations : (queue.pop entry).generations key = queue.generations key :=
      Function.update_of_ne hkey _ _
    rw [hentries, hgenerations]
    constructor
    · rintro ⟨hmem, hother, hlive⟩
      exact ⟨List.mem_cons_of_mem _ hmem, hother, hlive⟩
    · rintro ⟨hmem, hother, hlive⟩
      rcases List.mem_cons.mp hmem with rfl | hmem
      · exact absurd hother.symm hkey
      · exact ⟨hmem, hother, hlive⟩

end WellFormed

end Queue

end DeadlineQueue
