import CodexMustWork.RuntimeDocument
import Mathlib.Data.List.Sort

/-!
# The state root and its locked mutations

`scripts/state.py` over the two directories the watcher uses, `runtime/` and
`cursors/`.  A file is what loading it gives: its document, or the exception
`load_state` raises on it.  The operating system enters through faults: each
locked mutation is told which of its own file operations raise.
-/

namespace CodexMustWork

/-- A file of `runtime/`. -/
abbrev RuntimeFile := Except Failure RuntimeValues

/-- The document of a cursor file. -/
structure CursorValues where
  device : Field Int
  fileId : Field Int
  offset : Field Int
deriving DecidableEq

/-- A file of `cursors/`. -/
abbrev CursorFile := Except Failure CursorValues

/-- The files of one state root, by file name. -/
structure StateRoot where
  runtime : AList fun _ : String => RuntimeFile
  cursors : AList fun _ : String => CursorFile

namespace StateRoot

def empty : StateRoot := ⟨∅, ∅⟩

def setRuntime (root : StateRoot) (path : String) (values : RuntimeValues) : StateRoot :=
  { root with runtime := root.runtime.insert path (.ok values) }

def setCursor (root : StateRoot) (path : String) (values : CursorValues) : StateRoot :=
  { root with cursors := root.cursors.insert path (.ok values) }

@[simp] theorem setRuntime_cursors (root : StateRoot) (path : String) (values : RuntimeValues) :
    (root.setRuntime path values).cursors = root.cursors := rfl

@[simp] theorem setCursor_runtime (root : StateRoot) (path : String) (values : CursorValues) :
    (root.setCursor path values).runtime = root.runtime := rfl

@[simp] theorem setRuntime_lookup (root : StateRoot) (path : String) (values : RuntimeValues) :
    (root.setRuntime path values).runtime.lookup path = some (.ok values) :=
  AList.lookup_insert _

theorem setRuntime_lookup_ne (root : StateRoot) {path other : String} (values : RuntimeValues)
    (hne : other ≠ path) :
    (root.setRuntime path values).runtime.lookup other = root.runtime.lookup other :=
  AList.lookup_insert_ne hne

@[simp] theorem setCursor_lookup (root : StateRoot) (path : String) (values : CursorValues) :
    (root.setCursor path values).cursors.lookup path = some (.ok values) :=
  AList.lookup_insert _

theorem setCursor_lookup_ne (root : StateRoot) {path other : String} (values : CursorValues)
    (hne : other ≠ path) :
    (root.setCursor path values).cursors.lookup other = root.cursors.lookup other :=
  AList.lookup_insert_ne hne

end StateRoot

/-- `discover_runtime_files`: the names in `runtime/`, sorted. -/
def discoverRuntimeFiles (root : StateRoot) : List String :=
  root.runtime.keys.insertionSort (· ≤ ·)

theorem mem_discoverRuntimeFiles {root : StateRoot} {path : String} :
    path ∈ discoverRuntimeFiles root ↔ path ∈ root.runtime := by
  rw [discoverRuntimeFiles, List.mem_insertionSort, AList.mem_keys]

theorem nodup_discoverRuntimeFiles (root : StateRoot) :
    (discoverRuntimeFiles root).Nodup := by
  have hperm := List.perm_insertionSort (· ≤ ·) root.runtime.keys
  exact hperm.nodup_iff.mpr root.runtime.keys_nodup

/-! ### Locked mutation -/

/-- Which operations of one locked mutation raise: taking the lock, replacing the
    document, saving the cursor afterwards, and releasing the lock. -/
structure MutationFaults where
  lock : Option Failure := none
  write : Option Failure := none
  cursor : Option Failure := none
  release : Option Failure := none

/-- What a mutation leaves: the files, the memory of its callbacks and the outcome. -/
structure Mutation (σ α : Type) where
  root : StateRoot
  memory : σ
  result : Except Failure α

variable {σ α : Type}

/-- The lock is left with the outcome of what was done under it, or by raising. -/
def MutationFaults.leave (faults : MutationFaults) (outcome : Except Failure α) :
    Except Failure α :=
  match faults.release with
  | some failure => .error failure
  | none => outcome

theorem MutationFaults.leave_of_released {faults : MutationFaults}
    (hrelease : faults.release = none) (outcome : Except Failure α) :
    faults.leave outcome = outcome := by
  unfold MutationFaults.leave
  rw [hrelease]

@[simp] theorem MutationFaults.leave_error (faults : MutationFaults) (failure : Failure) :
    faults.leave (.error failure : Except Failure α) =
      .error (faults.release.getD failure) := by
  unfold MutationFaults.leave
  cases faults.release <;> rfl

theorem MutationFaults.map_leave {β : Type} (faults : MutationFaults) (f : α → β)
    (outcome : Except Failure α) :
    (faults.leave outcome).map f = faults.leave (outcome.map f) := by
  unfold MutationFaults.leave
  cases faults.release <;> rfl

theorem MutationFaults.leave_eq_ok {faults : MutationFaults} {outcome : Except Failure α}
    {result : α} : faults.leave outcome = .ok result ↔
      faults.release = none ∧ outcome = .ok result := by
  unfold MutationFaults.leave
  cases faults.release <;> simp

/-- What `mutate_existing_state` does under the lock.  The mutator works on a copy of the
    values and on a memory of its own; `afterCommit` runs once the document is written. -/
def mutateLocked (faults : MutationFaults) (root : StateRoot) (path : String) (file : RuntimeFile)
    (memory : σ) (mutator : σ → RuntimeValues → σ × Except Failure (RuntimeValues × α))
    (afterCommit : StateRoot → α → StateRoot × Except Failure Unit) :
    Mutation σ (Option α) :=
  match file with
  | .error failure => ⟨root, memory, .error failure⟩
  | .ok original =>
      match mutator memory original with
      | (memory, .error failure) => ⟨root, memory, .error failure⟩
      | (memory, .ok (values, result)) =>
          let written : Except Failure StateRoot :=
            if values = original then .ok root
            else
              match faults.write with
              | some failure => .error failure
              | none => .ok (root.setRuntime path values)
          match written with
          | .error failure => ⟨root, memory, .error failure⟩
          | .ok root =>
              match afterCommit root result with
              | (root, .error failure) => ⟨root, memory, .error failure⟩
              | (root, .ok _) => ⟨root, memory, .ok (some result)⟩

/-- `mutate_existing_state`.  Leaving the lock can raise when all is done; a raise just
    behind the replacement of the document leaves what a raising cursor save does. -/
def mutateExistingState (faults : MutationFaults) (root : StateRoot) (path : String)
    (memory : σ) (mutator : σ → RuntimeValues → σ × Except Failure (RuntimeValues × α))
    (afterCommit : StateRoot → α → StateRoot × Except Failure Unit) :
    Mutation σ (Option α) :=
  match root.runtime.lookup path with
  | none => ⟨root, memory, .ok none⟩
  | some file =>
      match faults.lock with
      | some failure => ⟨root, memory, .error failure⟩
      | none =>
          let mutated := mutateLocked faults root path file memory mutator afterCommit
          { mutated with result := faults.leave mutated.result }

/-- No after-commit step. -/
def noCommit (root : StateRoot) (_ : α) : StateRoot × Except Failure Unit := (root, .ok ())

section Mutate

variable {faults : MutationFaults} {root : StateRoot} {path : String} {memory : σ}
  {mutator : σ → RuntimeValues → σ × Except Failure (RuntimeValues × α)}
  {afterCommit : StateRoot → α → StateRoot × Except Failure Unit}

theorem mutateExistingState_of_absent (habsent : root.runtime.lookup path = none) :
    mutateExistingState faults root path memory mutator afterCommit =
      ⟨root, memory, .ok none⟩ := by
  simp [mutateExistingState, habsent]

theorem mutateExistingState_of_lock {file : RuntimeFile} {failure : Failure}
    (hfile : root.runtime.lookup path = some file) (hlock : faults.lock = some failure) :
    mutateExistingState faults root path memory mutator afterCommit =
      ⟨root, memory, .error failure⟩ := by
  simp [mutateExistingState, hfile, hlock]

theorem mutateExistingState_of_unreadable {failure : Failure} (hlock : faults.lock = none)
    (hfile : root.runtime.lookup path = some (.error failure)) :
    mutateExistingState faults root path memory mutator afterCommit =
      ⟨root, memory, .error (faults.release.getD failure)⟩ := by
  simp [mutateExistingState, mutateLocked, hfile, hlock]

theorem mutateExistingState_of_raised {original : RuntimeValues} {after : σ}
    {failure : Failure} (hlock : faults.lock = none)
    (hfile : root.runtime.lookup path = some (.ok original))
    (hmutator : mutator memory original = (after, .error failure)) :
    mutateExistingState faults root path memory mutator afterCommit =
      ⟨root, after, .error (faults.release.getD failure)⟩ := by
  simp [mutateExistingState, mutateLocked, hfile, hlock, hmutator]

/-- A mutation that returns the values it was given writes nothing. -/
theorem mutateExistingState_of_unchanged {original : RuntimeValues} {after : σ} {result : α}
    (hlock : faults.lock = none) (hfile : root.runtime.lookup path = some (.ok original))
    (hmutator : mutator memory original = (after, .ok (original, result)))
    (hcommit : afterCommit root result = (root, .ok ())) :
    mutateExistingState faults root path memory mutator afterCommit =
      ⟨root, after, faults.leave (.ok (some result))⟩ := by
  simp [mutateExistingState, mutateLocked, hfile, hlock, hmutator, hcommit]

theorem mutateExistingState_noCommit_of_unchanged {original : RuntimeValues} {after : σ}
    {result : α} (hlock : faults.lock = none)
    (hfile : root.runtime.lookup path = some (.ok original))
    (hmutator : mutator memory original = (after, .ok (original, result))) :
    mutateExistingState faults root path memory mutator noCommit =
      ⟨root, after, faults.leave (.ok (some result))⟩ :=
  mutateExistingState_of_unchanged hlock hfile hmutator rfl

/-- The values are persisted, unless nothing changed, and the commit step runs. -/
theorem mutateExistingState_of_persisted {original values : RuntimeValues} {after : σ}
    {result : α} (hlock : faults.lock = none)
    (hfile : root.runtime.lookup path = some (.ok original))
    (hmutator : mutator memory original = (after, .ok (values, result)))
    (hpersisted : values = original ∨ faults.write = none) :
    mutateExistingState faults root path memory mutator afterCommit =
      ⟨(afterCommit (if values = original then root else root.setRuntime path values) result).1,
        after, faults.leave ((afterCommit
          (if values = original then root else root.setRuntime path values) result).2.map
            fun _ => some result)⟩ := by
  have hwritten : (if values = original then Except.ok root
      else match faults.write with
        | some failure => .error failure
        | none => .ok (root.setRuntime path values)) =
      .ok (if values = original then root else root.setRuntime path values) := by
    rcases hpersisted with hsame | hwrite
    · rw [if_pos hsame, if_pos hsame]
    · simp only [hwrite]
      split_ifs <;> rfl
  simp only [mutateExistingState, mutateLocked, hfile, hlock, hmutator, hwritten]
  cases afterCommit (if values = original then root else root.setRuntime path values) result with
  | mk committed outcome => cases outcome <;> rfl

/-- Nothing raises before the commit step: the values are persisted, then it runs. -/
theorem mutateExistingState_of_returned {original values : RuntimeValues} {after : σ}
    {result : α} (hlock : faults.lock = none) (hwrite : faults.write = none)
    (hfile : root.runtime.lookup path = some (.ok original))
    (hmutator : mutator memory original = (after, .ok (values, result))) :
    mutateExistingState faults root path memory mutator afterCommit =
      ⟨(afterCommit (if values = original then root else root.setRuntime path values) result).1,
        after, faults.leave ((afterCommit
          (if values = original then root else root.setRuntime path values) result).2.map
            fun _ => some result)⟩ :=
  mutateExistingState_of_persisted hlock hfile hmutator (Or.inr hwrite)

/-- What a mutation leaves when its mutator returns and the write succeeds, whatever
    the commit step does. -/
theorem mutateExistingState_returned {original values : RuntimeValues} {after : σ}
    {result : α} (hlock : faults.lock = none) (hwrite : faults.write = none)
    (hfile : root.runtime.lookup path = some (.ok original))
    (hmutator : mutator memory original = (after, .ok (values, result))) :
    (mutateExistingState faults root path memory mutator afterCommit).memory = after ∧
      (mutateExistingState faults root path memory mutator afterCommit).root =
        (afterCommit (if values = original then root else root.setRuntime path values)
          result).1 := by
  rw [mutateExistingState_of_returned hlock hwrite hfile hmutator]
  exact ⟨rfl, rfl⟩

/-- A write that raises loses the new values but not what the mutator did to its
    memory. -/
theorem mutateExistingState_of_write {original values : RuntimeValues} {after : σ}
    {result : α} {failure : Failure} (hlock : faults.lock = none)
    (hwrite : faults.write = some failure)
    (hfile : root.runtime.lookup path = some (.ok original))
    (hmutator : mutator memory original = (after, .ok (values, result)))
    (hchanged : values ≠ original) :
    mutateExistingState faults root path memory mutator afterCommit =
      ⟨root, after, .error (faults.release.getD failure)⟩ := by
  simp [mutateExistingState, mutateLocked, hfile, hlock, hmutator, hchanged, hwrite]

/-- **One locked mutation.**  It does nothing on an absent file, it raises with the files
    as they were, or its mutator returned: then the values are persisted, the commit step
    has run, and only that step and the release of the lock can still raise. -/
theorem mutateExistingState_cases {out : Mutation σ (Option α)}
    (hout : mutateExistingState faults root path memory mutator afterCommit = out) :
    (root.runtime.lookup path = none ∧ out = ⟨root, memory, .ok none⟩) ∨
      (out.root = root ∧ (∃ failure, out.result = .error failure) ∧
        (out.memory = memory ∨ ∃ original, root.runtime.lookup path = some (.ok original) ∧
          out.memory = (mutator memory original).1)) ∨
      ∃ original values result, root.runtime.lookup path = some (.ok original) ∧
        mutator memory original = (out.memory, .ok (values, result)) ∧
        out.root = (afterCommit (if values = original then root else root.setRuntime path values)
          result).1 ∧
        out.result = faults.leave ((afterCommit
          (if values = original then root else root.setRuntime path values) result).2.map
            fun _ => some result) := by
  subst hout
  cases hfile : root.runtime.lookup path with
  | none => exact Or.inl ⟨rfl, mutateExistingState_of_absent hfile⟩
  | some file =>
      right
      cases hlock : faults.lock with
      | some failure =>
          rw [mutateExistingState_of_lock hfile hlock]
          exact Or.inl ⟨rfl, ⟨_, rfl⟩, Or.inl rfl⟩
      | none =>
          cases file with
          | error failure =>
              rw [mutateExistingState_of_unreadable hlock hfile]
              exact Or.inl ⟨rfl, ⟨_, rfl⟩, Or.inl rfl⟩
          | ok original =>
              cases hmutator : mutator memory original with
              | mk after outcome =>
                  cases outcome with
                  | error failure =>
                      rw [mutateExistingState_of_raised hlock hfile hmutator]
                      exact Or.inl ⟨rfl, ⟨_, rfl⟩, Or.inr ⟨original, rfl, by rw [hmutator]⟩⟩
                  | ok output =>
                      obtain ⟨values, result⟩ := output
                      by_cases hpersisted : values = original ∨ faults.write = none
                      · rw [mutateExistingState_of_persisted hlock hfile hmutator hpersisted]
                        exact Or.inr ⟨original, values, result, rfl, hmutator, rfl, rfl⟩
                      · obtain ⟨hchanged, hwrite⟩ := not_or.mp hpersisted
                        obtain ⟨failure, hfailure⟩ := Option.ne_none_iff_exists'.mp hwrite
                        rw [mutateExistingState_of_write hlock hfailure hfile hmutator hchanged]
                        exact Or.inl ⟨rfl, ⟨_, rfl⟩,
                          Or.inr ⟨original, rfl, by rw [hmutator]⟩⟩

/-- The memory a mutation leaves was left by its mutator, if not by nobody. -/
theorem mutateExistingState_memory_cases :
    (mutateExistingState faults root path memory mutator afterCommit).memory = memory ∨
      ∃ values, root.runtime.lookup path = some (.ok values) ∧
        (mutateExistingState faults root path memory mutator afterCommit).memory =
          (mutator memory values).1 := by
  rcases mutateExistingState_cases (Eq.refl (mutateExistingState faults root path memory mutator
    afterCommit)) with ⟨_, habsent⟩ | ⟨_, _, hmemory⟩ | ⟨original, _, _, hfile, hmutator, _⟩
  · exact Or.inl (by rw [habsent])
  · exact hmemory
  · exact Or.inr ⟨original, hfile, by rw [hmutator]⟩

/-- The files a mutation leaves: untouched, or the commit step of the old or of new
    values. -/
theorem mutateExistingState_root_cases :
    (mutateExistingState faults root path memory mutator afterCommit).root = root ∨
      ∃ result, (mutateExistingState faults root path memory mutator afterCommit).root =
          (afterCommit root result).1 ∨
        ∃ values, (mutateExistingState faults root path memory mutator afterCommit).root =
          (afterCommit (root.setRuntime path values) result).1 := by
  rcases mutateExistingState_cases (Eq.refl (mutateExistingState faults root path memory mutator
    afterCommit)) with ⟨_, habsent⟩ | ⟨hroot, _⟩ | ⟨original, values, result, _, _, hroot, _⟩
  · exact Or.inl (by rw [habsent])
  · exact Or.inl hroot
  · right
    refine ⟨result, ?_⟩
    by_cases hsame : values = original
    · exact Or.inl (by rw [hroot, if_pos hsame])
    · exact Or.inr ⟨values, by rw [hroot, if_neg hsame]⟩

/-- A mutator that sees its memory through a view leaves the same files and result. -/
theorem mutateExistingState_map {τ : Type} (view : σ → τ)
    {viewed : τ → RuntimeValues → τ × Except Failure (RuntimeValues × α)}
    (hview : ∀ values, viewed (view memory) values =
      (view (mutator memory values).1, (mutator memory values).2)) :
    (mutateExistingState faults root path memory mutator afterCommit).root =
        (mutateExistingState faults root path (view memory) viewed afterCommit).root ∧
      view (mutateExistingState faults root path memory mutator afterCommit).memory =
        (mutateExistingState faults root path (view memory) viewed afterCommit).memory ∧
      (mutateExistingState faults root path memory mutator afterCommit).result =
        (mutateExistingState faults root path (view memory) viewed afterCommit).result := by
  unfold mutateExistingState mutateLocked
  cases root.runtime.lookup path with
  | none => exact ⟨rfl, rfl, rfl⟩
  | some file =>
      cases faults.lock with
      | some failure => exact ⟨rfl, rfl, rfl⟩
      | none =>
          cases file with
          | error failure => exact ⟨rfl, rfl, rfl⟩
          | ok original =>
              dsimp only
              rw [hview]
              cases mutator memory original with
              | mk left outcome =>
                  cases outcome with
                  | error failure => exact ⟨rfl, rfl, rfl⟩
                  | ok output =>
                      dsimp only
                      split
                      · exact ⟨rfl, rfl, rfl⟩
                      · split <;> exact ⟨rfl, rfl, rfl⟩

theorem mutateExistingState_noCommit_cursors :
    (mutateExistingState faults root path memory mutator noCommit).root.cursors =
      root.cursors := by
  rcases @mutateExistingState_root_cases _ _ faults root path memory mutator noCommit with
    hroot | ⟨_, hroot | ⟨values, hroot⟩⟩ <;>
    rw [hroot] <;>
    rfl

end Mutate

end CodexMustWork
