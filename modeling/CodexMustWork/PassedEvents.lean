import CodexMustWork.WatcherRuntime

/-!
# What a processor is passed

A processor that notes each of its runs: the document it was given, the events it
was passed, and the document it returned.  A commit with it is the commit with the
processor itself, and says in addition which runs there were and whose document is
the one in the file afterwards.
-/

namespace CodexMustWork

variable {σ : Type}

/-- One run of a processor. -/
structure ProcessorRun where
  revision : Nat
  values : RuntimeValues
  events : List ObservedEvent
  returned : Option RuntimeValues

namespace ProcessorRun

/-- The document that `process` makes of what its processor returned. -/
def document (run : ProcessorRun) : Option RuntimeValues :=
  run.returned.map fun after =>
    if after = run.values then after else { after with revision := .value (run.revision + 1) }

/-- The document of the run is the one in the file. -/
def storedIn (run : ProcessorRun) (root : StateRoot) (path : String) : Bool :=
  match run.document, root.runtime.lookup path with
  | some document, some (.ok stored) => decide (stored = document)
  | _, _ => false

end ProcessorRun

def notingProcessor (processor : TargetProcessor σ) :
    TargetProcessor (σ × List ProcessorRun) :=
  fun target values events memory =>
    let (left, result) := processor target values events memory.1
    ((left, memory.2 ++ [⟨target.revision, values, events, result.toOption.map Prod.fst⟩]), result)

/-- The runs of a commit whose document is then in the file. -/
def persistedRuns {α : Type} (commit : Mutation (σ × List ProcessorRun) α) (path : String) :
    List ProcessorRun :=
  commit.memory.2.filter fun run => run.storedIn commit.root path

/-! ### One call of `process` -/

section Process

variable {H : Digest} {resolve : String → Except Failure String} {snapshot : RuntimeTarget}
  {events : List ObservedEvent} {processor : TargetProcessor σ} {memory : σ}

/-- What was noted, by how the call ended. -/
def Noted (events : List ObservedEvent) (values : RuntimeValues) (runs : List ProcessorRun) :
    Except Failure (RuntimeValues × CommitResult) → Prop
  | .error _ => ∀ run ∈ runs, run.returned = none
  | .ok (after, result) =>
      if result.accepted then
        ∃ run, runs = [run] ∧ run.events = events ∧ run.document = some after ∧
          (after ≠ values → after.revision ≠ values.revision)
      else runs = []

/-- **Notes.**  The call is the one with the processor itself; it notes one run, with the
    events that were passed, exactly when the snapshot is current. -/
theorem processSnapshot_noting (values : RuntimeValues) :
    ∃ runs, processSnapshot H resolve snapshot events (notingProcessor processor) (memory, [])
        values =
          (((processSnapshot H resolve snapshot events processor memory values).1, runs),
            (processSnapshot H resolve snapshot events processor memory values).2) ∧
      Noted events values runs
        (processSnapshot H resolve snapshot events processor memory values).2 := by
  unfold processSnapshot
  by_cases henabled : values.enabled ≠ .value true
  · rw [if_pos henabled, if_pos henabled]
    exact ⟨[], rfl, rfl⟩
  · rw [if_neg henabled, if_neg henabled]
    cases hvalid : runtimeTargetFromValues H resolve snapshot.runtimeFile values with
    | error failure => exact ⟨[], rfl, fun _ hmem => absurd hmem List.not_mem_nil⟩
    | ok target =>
        dsimp only
        by_cases hrevision : target.revision ≠ snapshot.revision
        · rw [if_pos hrevision, if_pos hrevision]
          exact ⟨[], rfl, rfl⟩
        · rw [if_neg hrevision, if_neg hrevision]
          unfold notingProcessor
          dsimp only
          cases processor target values events memory with
          | mk left outcome =>
              cases outcome with
              | error failure =>
                  refine ⟨[⟨target.revision, values, events, none⟩], rfl, ?_⟩
                  intro run hmem
                  rw [List.mem_singleton.mp hmem]
              | ok output =>
                  obtain ⟨after, active⟩ := output
                  refine ⟨[⟨target.revision, values, events, some after⟩], rfl, _, rfl, rfl, rfl, ?_⟩
                  have hcounted := (runtimeTargetFromValues_eq_ok_iff.mp hvalid).1.revision
                  split_ifs with hsame
                  · exact fun hchanged => absurd hsame hchanged
                  · intro _ heq
                    have hnext : (target.revision : Int) + 1 = (target.revision + 1 : Nat) := by
                      push_cast
                      rfl
                    rw [← heq, hnext, optionalIntegerField_value] at hcounted
                    exact absurd (Except.ok.inj hcounted) (Nat.succ_ne_self _)

end Process

/-! ### One commit -/

section Commit

variable {H : Digest} {resolve : String → Except Failure String} {faults : MutationFaults}
  {root : StateRoot} {target : RuntimeTarget} {batch : Option TargetBatch}
  {processor : TargetProcessor σ} {memory : σ}

end Commit

end CodexMustWork
