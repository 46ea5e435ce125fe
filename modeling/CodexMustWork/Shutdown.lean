import CodexMustWork.DaemonLifecycle

/-!
# Shutdown

Whatever the threads do: no operation is admitted behind the first close, everything is
closed once and while nobody is admitted, and everybody sees the same report.  The
invariant says where the close is, and what the threads, the counter and the events are
there.
-/

namespace CodexMustWork.DaemonLifecycle

/-! ### Where the close is -/

inductive Position where
  | notStarted
  | draining (owner : ℕ)
  | closing (owner : ℕ) (stage : Stage) (diagnostics : List String)
  | escaped (owner : ℕ)
  | finished
deriving DecidableEq, Repr

def Frame.closes : Frame → Bool
  | .draining => true
  | .closing _ _ => true
  | _ => false

def Frame.listens : Frame → Bool
  | .leaving _ _ => true
  | .waiting => true
  | _ => false

def Frame.isAdmitted : Frame → Bool
  | .admission _ admitted => admitted
  | _ => false

namespace Position

/-- The frames of the close in the stack of a thread. -/
def frames : Position → ℕ → List Frame
  | .draining owner, thread => if thread = owner then [.draining] else []
  | .closing owner stage diagnostics, thread =>
      if thread = owner then [.closing stage diagnostics] else []
  | _, _ => []

def owner : Position → Option ℕ
  | .draining owner => some owner
  | .closing owner _ _ => some owner
  | .escaped owner => some owner
  | _ => none

/-- The owner has seen that nobody is admitted. -/
def drained : Position → Bool
  | .notStarted => false
  | .draining _ => false
  | _ => true

end Position

/-- All that is closed, in its order. -/
def plan : Option DetachedResources → List Target
  | none => [.scheduler, .registry]
  | some detached => .scheduler :: .registry :: detached.resources.map .resource

def Event.attempted : Event → Option (Target × ℤ)
  | .attempt target active => some (target, active)
  | _ => none

def attempts (events : List Event) : List (Target × ℤ) := events.filterMap Event.attempted

/-- What has been called at a stage. -/
def StageReached (detached : Option DetachedResources) (reached : List Target) : Stage → Prop
  | .scheduler => reached = [] ∧ detached = none
  | .inScheduler => reached = [.scheduler] ∧ detached = none
  | .registry => reached = [.scheduler] ∧ detached = none
  | .inRegistry => reached = [.scheduler, .registry] ∧ detached = none
  | .resources left collected => detached ≠ none ∧ reached ++ left.map .resource = plan detached ∧
      collected.length ≤ maxDiagnostics
  | .inResource _ left collected => detached ≠ none ∧
      reached ++ left.map .resource = plan detached ∧ collected.length ≤ maxDiagnostics

/-- What has been called at a position. -/
def Reached (detached : Option DetachedResources) (reached : List Target) : Position → Prop
  | .notStarted => reached = [] ∧ detached = none
  | .draining _ => reached = [] ∧ detached = none
  | .closing _ stage diagnostics => StageReached detached reached stage ∧
      diagnostics.length ≤ maxDiagnostics
  | .escaped _ => reached <+: plan detached
  | .finished => detached ≠ none ∧ reached = plan detached

def Event.isCloseStarted : Event → Bool
  | .closeStarted _ => true
  | _ => false

def Event.isAdmitted : Event → Bool
  | .admitted _ => true
  | _ => false

/-- Behind the start of the close nothing is admitted, and no other close starts. -/
def InOrder (events : List Event) : Prop :=
  events.Pairwise fun earlier later => earlier.isCloseStarted = true →
    later.isAdmitted = false ∧ later.isCloseStarted = false

/-- The report an event shows. -/
def Event.report : Event → Option CloseReport
  | .closed _ report => some report
  | .left _ report _ => some report
  | _ => none

theorem reached_within_plan {detached : Option DetachedResources} {reached : List Target}
    {stage : Stage} (hreached : StageReached detached reached stage) :
    reached <+: plan detached := by
  cases stage with
  | scheduler =>
    rw [hreached.1]
    exact List.nil_prefix
  | inScheduler =>
    rw [hreached.1, hreached.2]
    exact ⟨[.registry], rfl⟩
  | registry =>
    rw [hreached.1, hreached.2]
    exact ⟨[.registry], rfl⟩
  | inRegistry =>
    rw [hreached.1, hreached.2]
    exact List.prefix_refl _
  | resources left collected => exact ⟨_, hreached.2.1⟩
  | inResource resource left collected => exact ⟨_, hreached.2.1⟩

/-- The fields and the stacks, with the close at the position. -/
structure Lifecycle.StandsAt (lifecycle : Lifecycle) (position : Position) : Prop where
  started : lifecycle.closeStarted = true ↔ position ≠ .notStarted
  finished : lifecycle.closeFinished = true ↔ position = .finished
  owner : lifecycle.closeOwner = position.owner
  frames : ∀ thread, (lifecycle.stack thread).filter Frame.closes = position.frames thread
  blocked : ∀ owner, position = .draining owner → (lifecycle.stack owner).head? = some .draining
  listeners : ∀ thread, ∀ frame ∈ lifecycle.stack thread, frame.listens = true →
    position ≠ .notStarted ∧ position.owner ≠ some thread
  counted : ∃ admitted : List ℕ, lifecycle.activeAdmissions = admitted.length ∧
    ∀ thread, (lifecycle.stack thread).countP Frame.isAdmitted = admitted.count thread
  zero : position.drained = true → lifecycle.activeAdmissions = 0
  bounded : lifecycle.closeReport.diagnostics.length ≤ maxDiagnostics

/-- The events, with the close at the position. -/
structure RecordedAt (events : List Event) (detached : Option DetachedResources)
    (report : CloseReport) (position : Position) : Prop where
  reached : Reached detached ((attempts events).map Prod.fst) position
  alone : ∀ attempt ∈ attempts events, attempt.2 = 0
  begun : ∀ event ∈ events, event.isCloseStarted = true → position ≠ .notStarted
  beginner : ∀ owner, position.owner = some owner → .closeStarted owner ∈ events
  abandoned : ∀ owner, position = .escaped owner → .abandoned owner ∈ events
  inOrder : InOrder events
  reentries : ∀ thread, .reentered thread ∈ events → .closeStarted thread ∈ events
  reports : ∀ event ∈ events, ∀ shown, event.report = some shown →
    position = .finished ∧ shown = report

/-- The lifecycle with its close at the position. -/
structure Lifecycle.At (lifecycle : Lifecycle) (position : Position) : Prop where
  stands : lifecycle.StandsAt position
  recorded : RecordedAt lifecycle.events lifecycle.detached lifecycle.closeReport position

theorem initial_at : Lifecycle.initial.At .notStarted := by
  constructor
  · refine ⟨by simp [Lifecycle.initial], by simp [Lifecycle.initial], rfl, fun _ => rfl, ?_, ?_,
      ⟨[], rfl, fun _ => rfl⟩, ?_, Nat.zero_le _⟩
    · intro owner hposition
      cases hposition
    · intro thread frame hframe
      exact absurd hframe List.not_mem_nil
    · intro hdrained
      cases hdrained
  · refine ⟨⟨rfl, rfl⟩, ?_, ?_, ?_, ?_, List.Pairwise.nil, ?_, ?_⟩
    · intro attempt hattempt
      exact absurd hattempt List.not_mem_nil
    · intro event hevent
      exact absurd hevent List.not_mem_nil
    · intro owner howner
      cases howner
    · intro owner hescaped
      cases hescaped
    · intro thread hevent
      exact absurd hevent List.not_mem_nil
    · intro event hevent
      exact absurd hevent List.not_mem_nil

/-! ### Diagnostics -/

theorem length_appendReason_le {diagnostics : List String} (reason : String)
    (hbounded : diagnostics.length ≤ maxDiagnostics) :
    (appendReason diagnostics reason).length ≤ maxDiagnostics := by
  unfold appendReason
  have hmax : maxDiagnostics = 3 := rfl
  split
  · rw [List.length_append, List.length_dropLast, List.length_singleton]
    omega
  · rw [List.length_append, List.length_singleton]
    omega

theorem length_foldl_appendReason_le (reasons : List String) {diagnostics : List String}
    (hbounded : diagnostics.length ≤ maxDiagnostics) :
    (reasons.foldl appendReason diagnostics).length ≤ maxDiagnostics := by
  induction reasons generalizing diagnostics with
  | nil => exact hbounded
  | cons reason rest ih => exact ih (length_appendReason_le reason hbounded)

theorem length_collect_le {diagnostics collected : List String} {kind : String}
    {result : CallResult} (hbounded : diagnostics.length ≤ maxDiagnostics)
    (hcollect : Lifecycle.collect diagnostics kind result = some collected) :
    collected.length ≤ maxDiagnostics := by
  cases result with
  | returns =>
    cases hcollect
    exact hbounded
  | raises errorType =>
    cases hcollect
    exact length_appendReason_le _ hbounded
  | escapes => cases hcollect

/-! ### Positions -/

theorem Position.frames_of_owner_ne {position : Position} {thread : ℕ}
    (howner : position.owner ≠ some thread) : position.frames thread = [] := by
  cases position with
  | draining owner => exact if_neg fun heq => howner (congrArg some heq.symm)
  | closing owner stage diagnostics => exact if_neg fun heq => howner (congrArg some heq.symm)
  | notStarted => rfl
  | escaped owner => rfl
  | finished => rfl

theorem Position.eq_draining_of_frames {position : Position} {thread : ℕ} {rest : List Frame}
    (hframes : position.frames thread = .draining :: rest) : position = .draining thread := by
  cases position with
  | draining owner =>
    by_cases heq : thread = owner
    · rw [heq]
    · rw [Position.frames, if_neg heq] at hframes
      cases hframes
  | closing owner stage diagnostics =>
    change (if thread = owner then _ else _) = _ at hframes
    split at hframes <;> cases hframes
  | notStarted => cases hframes
  | escaped owner => cases hframes
  | finished => cases hframes

theorem Position.eq_closing_of_frames {position : Position} {thread : ℕ} {stage : Stage}
    {diagnostics : List String} {rest : List Frame}
    (hframes : position.frames thread = .closing stage diagnostics :: rest) :
    position = .closing thread stage diagnostics ∧ rest = [] := by
  cases position with
  | closing owner stage' diagnostics' =>
    by_cases heq : thread = owner
    · rw [Position.frames, if_pos heq] at hframes
      cases hframes
      rw [heq]
      exact ⟨rfl, rfl⟩
    · rw [Position.frames, if_neg heq] at hframes
      cases hframes
  | draining owner =>
    change (if thread = owner then _ else _) = _ at hframes
    split at hframes <;> cases hframes
  | notStarted => cases hframes
  | escaped owner => cases hframes
  | finished => cases hframes

/-! ### Stacks -/

theorem Lifecycle.forall_stack {lifecycle : Lifecycle} {thread : ℕ} {frames : List Frame}
    {Q : ℕ → List Frame → Prop} (hthread : Q thread frames)
    (hothers : ∀ other, other ≠ thread → Q other (lifecycle.stack other)) (other : ℕ) :
    Q other ((lifecycle.setStack thread frames).stack other) := by
  by_cases heq : other = thread
  · subst heq
    change Q other (Function.update lifecycle.stack other frames other)
    rw [Function.update_self]
    exact hthread
  · change Q other (Function.update lifecycle.stack thread frames other)
    rw [Function.update_of_ne heq]
    exact hothers other heq

namespace Lifecycle.StandsAt

variable {lifecycle : Lifecycle} {position next : Position} {thread : ℕ} {frames : List Frame}

theorem emit (hat : lifecycle.StandsAt position) (event : Event) :
    (lifecycle.emit event).StandsAt position :=
  ⟨hat.started, hat.finished, hat.owner, hat.frames, hat.blocked, hat.listeners, hat.counted,
    hat.zero, hat.bounded⟩

theorem detach (hat : lifecycle.StandsAt position) (detached : DetachedResources) :
    { lifecycle with detached := some detached }.StandsAt position :=
  ⟨hat.started, hat.finished, hat.owner, hat.frames, hat.blocked, hat.listeners, hat.counted,
    hat.zero, hat.bounded⟩

/-- A thread's stack changes, but neither its part in the close nor its admissions. -/
theorem move (hat : lifecycle.StandsAt position) (hblocked : position ≠ .draining thread)
    (hcloses : frames.filter Frame.closes = (lifecycle.stack thread).filter Frame.closes)
    (hadmitted : frames.countP Frame.isAdmitted = (lifecycle.stack thread).countP Frame.isAdmitted)
    (hlistens : ∀ frame ∈ frames, frame.listens = true → frame ∈ lifecycle.stack thread ∨
      position ≠ .notStarted ∧ position.owner ≠ some thread) :
    (lifecycle.setStack thread frames).StandsAt position := by
  obtain ⟨admitted, hactive, hcount⟩ := hat.counted
  refine ⟨hat.started, hat.finished, hat.owner, ?_, ?_, ?_, ⟨admitted, hactive, ?_⟩, hat.zero,
    hat.bounded⟩
  · exact forall_stack (Q := fun other frames => frames.filter Frame.closes = position.frames other)
      (hcloses.trans (hat.frames thread)) fun other _ => hat.frames other
  · intro owner hposition
    have hne : owner ≠ thread := fun heq => hblocked (heq ▸ hposition)
    change (Function.update lifecycle.stack thread frames owner).head? = _
    rw [Function.update_of_ne hne]
    exact hat.blocked owner hposition
  · refine forall_stack (Q := fun other frames => ∀ frame ∈ frames, frame.listens = true →
      position ≠ .notStarted ∧ position.owner ≠ some other) ?_ fun other _ => hat.listeners other
    intro frame hframe hlisten
    rcases hlistens frame hframe hlisten with hold | hnew
    · exact hat.listeners thread frame hold hlisten
    · exact hnew
  · exact forall_stack
      (Q := fun other frames => frames.countP Frame.isAdmitted = admitted.count other)
      (hadmitted.trans (hcount thread)) fun other _ => hcount other

/-- The owner of the close goes on. -/
theorem advance (hat : lifecycle.StandsAt position) (howner : position.owner = some thread)
    (hnext : next.owner = some thread) (hzero : lifecycle.activeAdmissions = 0)
    (hunblocked : ∀ owner, next ≠ .draining owner)
    (hcloses : frames.filter Frame.closes = next.frames thread)
    (hadmitted : frames.countP Frame.isAdmitted = (lifecycle.stack thread).countP Frame.isAdmitted)
    (hlistens : ∀ frame ∈ frames, frame.listens = true → frame ∈ lifecycle.stack thread) :
    (lifecycle.setStack thread frames).StandsAt next := by
  have hbegun : position ≠ .notStarted := by
    rintro rfl
    cases howner
  have hopen : position ≠ .finished := by
    rintro rfl
    cases howner
  have hbegun' : next ≠ .notStarted := by
    rintro rfl
    cases hnext
  have hopen' : next ≠ .finished := by
    rintro rfl
    cases hnext
  obtain ⟨admitted, hactive, hcount⟩ := hat.counted
  refine ⟨?_, ?_, ?_, ?_, ?_, ?_, ⟨admitted, hactive, ?_⟩, fun _ => hzero, hat.bounded⟩
  · exact hat.started.trans (iff_of_true hbegun hbegun')
  · exact hat.finished.trans (iff_of_false hopen hopen')
  · exact hat.owner.trans (howner.trans hnext.symm)
  · refine forall_stack (Q := fun other frames => frames.filter Frame.closes = next.frames other)
      hcloses fun other hother => ?_
    have hne : some thread ≠ some other := fun heq => hother (Option.some.inj heq).symm
    rw [hat.frames, Position.frames_of_owner_ne (howner ▸ hne),
      Position.frames_of_owner_ne (hnext ▸ hne)]
  · intro owner hposition
    exact absurd hposition (hunblocked owner)
  · refine forall_stack (Q := fun other frames => ∀ frame ∈ frames, frame.listens = true →
      next ≠ .notStarted ∧ next.owner ≠ some other) ?_ fun other _ => ?_
    · intro frame hframe hlisten
      exact absurd howner (hat.listeners thread frame (hlistens frame hframe hlisten) hlisten).2
    · intro frame hframe hlisten
      have hothers := (hat.listeners other frame hframe hlisten).2
      rw [howner] at hothers
      exact ⟨hbegun', hnext ▸ hothers⟩
  · exact forall_stack
      (Q := fun other frames => frames.countP Frame.isAdmitted = admitted.count other)
      (hadmitted.trans (hcount thread)) fun other _ => hcount other

/-- A frame of the close on top of a stack is all the close has there. -/
theorem closing_top (hat : lifecycle.StandsAt position) {stage : Stage}
    {diagnostics : List String}
    (hstack : lifecycle.stack thread = .closing stage diagnostics :: frames) :
    position = .closing thread stage diagnostics ∧ frames.filter Frame.closes = [] := by
  have hframes := hat.frames thread
  rw [hstack, List.filter_cons_of_pos rfl] at hframes
  exact Position.eq_closing_of_frames hframes.symm

theorem draining_top (hat : lifecycle.StandsAt position)
    (hstack : lifecycle.stack thread = .draining :: frames) :
    position = .draining thread ∧ frames.filter Frame.closes = [] := by
  have hframes := hat.frames thread
  rw [hstack, List.filter_cons_of_pos rfl] at hframes
  have hposition := Position.eq_draining_of_frames hframes.symm
  subst hposition
  rw [Position.frames, if_pos rfl] at hframes
  exact ⟨rfl, (List.cons.inj hframes).2⟩

/-- The owner goes on closing. -/
theorem goOn {stage after : Stage} {diagnostics collected : List String}
    (hat : lifecycle.StandsAt (.closing thread stage diagnostics))
    (hstack : lifecycle.stack thread = .closing stage diagnostics :: frames) :
    (lifecycle.setStack thread (.closing after collected :: frames)).StandsAt
      (.closing thread after collected) := by
  refine hat.advance rfl rfl (hat.zero rfl) nofun ?_ ?_ ?_
  · rw [List.filter_cons_of_pos rfl, (hat.closing_top hstack).2, Position.frames, if_pos rfl]
  · rw [hstack]
    rfl
  · intro frame hframe hlisten
    rcases List.mem_cons.mp hframe with rfl | hframe
    · cases hlisten
    · exact hstack ▸ List.mem_cons_of_mem _ hframe

/-- The owner gives the close up. -/
theorem goOff {stage : Stage} {diagnostics : List String}
    (hat : lifecycle.StandsAt (.closing thread stage diagnostics))
    (hstack : lifecycle.stack thread = .closing stage diagnostics :: frames) :
    (lifecycle.setStack thread frames).StandsAt (.escaped thread) := by
  refine hat.advance rfl rfl (hat.zero rfl) nofun (hat.closing_top hstack).2 ?_ ?_
  · rw [hstack]
    rfl
  · intro frame hframe _
    exact hstack ▸ List.mem_cons_of_mem _ hframe

/-- A thread that runs code is not the one that waits for the others to leave. -/
theorem not_draining (hat : lifecycle.StandsAt position)
    (hcall : canCall (lifecycle.stack thread) = true) : position ≠ .draining thread := by
  intro hposition
  have hhead := hat.blocked thread hposition
  cases hstack : lifecycle.stack thread with
  | nil =>
    rw [hstack] at hhead
    cases hhead
  | cons frame rest =>
    rw [hstack] at hhead hcall
    cases Option.some.inj hhead
    cases hcall

theorem not_draining_of_top (hat : lifecycle.StandsAt position) {frame : Frame}
    (hstack : lifecycle.stack thread = frame :: frames) (hframe : frame ≠ .draining) :
    position ≠ .draining thread := by
  intro hposition
  have hhead := hat.blocked thread hposition
  rw [hstack] at hhead
  exact hframe (Option.some.inj hhead)

/-- As long as an admission is active, the close has not begun to close anything. -/
theorem admitted_top (hat : lifecycle.StandsAt position) {required : Bool}
    (hstack : lifecycle.stack thread = .admission required true :: frames) :
    0 < lifecycle.activeAdmissions := by
  obtain ⟨admitted, hactive, hcount⟩ := hat.counted
  have hmem : thread ∈ admitted := by
    apply List.count_pos_iff.mp
    rw [← hcount thread, hstack, List.countP_cons_of_pos rfl]
    exact Nat.succ_pos _
  rw [hactive]
  exact_mod_cast List.length_pos_of_mem hmem

/-- A call is over that neither closes nor was admitted. -/
theorem pop (hat : lifecycle.StandsAt position) {frame : Frame}
    (hstack : lifecycle.stack thread = frame :: frames) (hcloses : frame.closes = false)
    (hadmitted : frame.isAdmitted = false) :
    (lifecycle.setStack thread frames).StandsAt position := by
  refine hat.move (hat.not_draining_of_top hstack ?_) ?_ ?_ ?_
  · rintro rfl
    cases hcloses
  · rw [hstack, List.filter_cons_of_neg (Bool.eq_false_iff.mp hcloses)]
  · rw [hstack, List.countP_cons_of_neg (Bool.eq_false_iff.mp hadmitted)]
  · intro other hother _
    rw [hstack]
    exact Or.inl (List.mem_cons_of_mem _ hother)

/-- A thread whose admission is active is not the one that closes. -/
theorem owner_ne_of_admitted (hat : lifecycle.StandsAt position) {required : Bool}
    (hstack : lifecycle.stack thread = .admission required true :: frames) :
    position.drained = false ∧ position.owner ≠ some thread := by
  have hactive := hat.admitted_top hstack
  have hundrained : position.drained = false := by
    by_contra hdrained
    have hzero := hat.zero (Bool.eq_true_of_not_eq_false hdrained)
    omega
  refine ⟨hundrained, fun howner => ?_⟩
  cases position with
  | draining owner =>
    cases howner
    exact hat.not_draining_of_top hstack nofun rfl
  | notStarted => cases howner
  | closing owner stage diagnostics => cases hundrained
  | escaped owner => cases hundrained
  | finished => cases hundrained

/-- An admission is over. -/
theorem depart (hat : lifecycle.StandsAt position) {required : Bool} {left : List Frame}
    (hstack : lifecycle.stack thread = .admission required true :: frames)
    (hcloses : left.filter Frame.closes = frames.filter Frame.closes)
    (hadmitted : left.countP Frame.isAdmitted = frames.countP Frame.isAdmitted)
    (hlistens : ∀ frame ∈ left, frame.listens = true → frame ∈ frames ∨ position ≠ .notStarted) :
    ({ lifecycle with activeAdmissions := lifecycle.activeAdmissions - 1 }.setStack thread
      left).StandsAt position := by
  obtain ⟨hundrained, howner⟩ := hat.owner_ne_of_admitted hstack
  obtain ⟨admitted, hactive, hcount⟩ := hat.counted
  have hthread := hcount thread
  rw [hstack, List.countP_cons_of_pos rfl] at hthread
  have hmem : thread ∈ admitted := List.count_pos_iff.mp (hthread ▸ Nat.succ_pos _)
  have hlength := List.length_erase_add_one hmem
  refine ⟨hat.started, hat.finished, hat.owner, ?_, ?_, ?_, ⟨admitted.erase thread, ?_, ?_⟩, ?_,
    hat.bounded⟩
  · refine forall_stack
      (Q := fun other frames => frames.filter Frame.closes = position.frames other)
      ?_ fun other _ => hat.frames other
    rw [hcloses, ← hat.frames thread, hstack]
    rfl
  · intro owner hposition
    have hne : owner ≠ thread := by
      rintro rfl
      exact hat.not_draining_of_top hstack nofun hposition
    change (Function.update lifecycle.stack thread left owner).head? = _
    rw [Function.update_of_ne hne]
    exact hat.blocked owner hposition
  · refine forall_stack (Q := fun other frames => ∀ frame ∈ frames, frame.listens = true →
      position ≠ .notStarted ∧ position.owner ≠ some other) ?_ fun other _ => hat.listeners other
    intro frame hframe hlisten
    rcases hlistens frame hframe hlisten with hold | hbegun
    · exact hat.listeners thread frame (hstack ▸ List.mem_cons_of_mem _ hold) hlisten
    · exact ⟨hbegun, howner⟩
  · change lifecycle.activeAdmissions - 1 = _
    rw [hactive]
    omega
  · refine forall_stack
      (Q := fun other frames =>
        frames.countP Frame.isAdmitted = (admitted.erase thread).count other)
      ?_ fun other hother => ?_
    · rw [hadmitted, List.count_erase_self, ← hthread, Nat.add_sub_cancel]
    · rw [List.count_erase_of_ne hother]
      exact hcount other
  · intro hdrained
    rw [hundrained] at hdrained
    cases hdrained

end Lifecycle.StandsAt

/-! ### Events -/

theorem attempts_concat (events : List Event) {event : Event} (hquiet : event.attempted = none) :
    attempts (events ++ [event]) = attempts events := by
  unfold attempts
  rw [List.filterMap_append, List.filterMap_cons_none hquiet, List.filterMap_nil,
    List.append_nil]

theorem attempts_attempt (events : List Event) (target : Target) (active : ℤ) :
    attempts (events ++ [.attempt target active]) = attempts events ++ [(target, active)] := by
  unfold attempts
  rw [List.filterMap_append]
  rfl

namespace RecordedAt

variable {events : List Event} {detached : Option DetachedResources} {report : CloseReport}
  {position next : Position} {event : Event}

theorem inOrder_concat (hrecorded : RecordedAt events detached report position)
    (hevent : position ≠ .notStarted → event.isAdmitted = false ∧ event.isCloseStarted = false) :
    InOrder (events ++ [event]) := by
  refine List.pairwise_append.mpr ⟨hrecorded.inOrder, List.pairwise_singleton _ _, ?_⟩
  intro earlier hearlier later hlater hstarts
  rw [List.mem_singleton.mp hlater]
  exact hevent (hrecorded.begun earlier hearlier hstarts)

theorem emit (hrecorded : RecordedAt events detached report position)
    (hquiet : event.attempted = none) (hstart : event.isCloseStarted = false)
    (hadmits : event.isAdmitted = true → position = .notStarted)
    (hreentry : ∀ thread, event = .reentered thread → .closeStarted thread ∈ events)
    (hreport : ∀ shown, event.report = some shown → position = .finished ∧ shown = report) :
    RecordedAt (events ++ [event]) detached report position := by
  refine ⟨?_, ?_, ?_, ?_, ?_, ?_, ?_, ?_⟩
  · rw [attempts_concat events hquiet]
    exact hrecorded.reached
  · rw [attempts_concat events hquiet]
    exact hrecorded.alone
  · intro earlier hearlier hstarts
    rcases List.mem_append.mp hearlier with hearlier | hlast
    · exact hrecorded.begun earlier hearlier hstarts
    · rw [List.mem_singleton.mp hlast, hstart] at hstarts
      cases hstarts
  · intro owner howner
    exact List.mem_append_left _ (hrecorded.beginner owner howner)
  · intro owner hescaped
    exact List.mem_append_left _ (hrecorded.abandoned owner hescaped)
  · refine hrecorded.inOrder_concat fun hbegun => ⟨?_, hstart⟩
    exact Bool.eq_false_iff.mpr fun hadmitted => hbegun (hadmits hadmitted)
  · intro thread hmem
    rcases List.mem_append.mp hmem with hmem | hlast
    · exact List.mem_append_left _ (hrecorded.reentries thread hmem)
    · exact List.mem_append_left _ (hreentry thread (List.mem_singleton.mp hlast).symm)
  · intro earlier hearlier shown hshown
    rcases List.mem_append.mp hearlier with hearlier | hlast
    · exact hrecorded.reports earlier hearlier shown hshown
    · rw [List.mem_singleton.mp hlast] at hshown
      exact hreport shown hshown

/-- The owner of the close goes on, and nothing happens. -/
theorem advance {owner : ℕ} {detached' : Option DetachedResources}
    (hrecorded : RecordedAt events detached report position)
    (howner : position.owner = some owner) (hnext : next.owner = some owner)
    (hescaped : next = .escaped owner → .abandoned owner ∈ events)
    (hreached : Reached detached' ((attempts events).map Prod.fst) next) :
    RecordedAt events detached' report next := by
  refine ⟨hreached, hrecorded.alone, ?_, ?_, ?_, hrecorded.inOrder, hrecorded.reentries, ?_⟩
  · rintro event hevent hstarts rfl
    cases hnext
  · intro other hother
    exact hrecorded.beginner other (howner.trans (hnext.symm.trans hother))
  · rintro other rfl
    cases hnext
    exact hescaped rfl
  · intro event hevent shown hshown
    have hfinished := (hrecorded.reports event hevent shown hshown).1
    rw [hfinished] at howner
    cases howner

/-- The owner of the close calls a target. -/
theorem attempt {owner : ℕ} {target : Target}
    (hrecorded : RecordedAt events detached report position)
    (howner : position.owner = some owner) (hnext : next.owner = some owner)
    (hescaped : next ≠ .escaped owner)
    (hreached : Reached detached ((attempts events).map Prod.fst ++ [target]) next) :
    RecordedAt (events ++ [.attempt target 0]) detached report next := by
  have hattempts := attempts_attempt events target 0
  refine ⟨?_, ?_, ?_, ?_, ?_, ?_, ?_, ?_⟩
  · rw [hattempts, List.map_append]
    exact hreached
  · rw [hattempts]
    intro attempt hattempt
    rcases List.mem_append.mp hattempt with hearlier | hlast
    · exact hrecorded.alone attempt hearlier
    · rw [List.mem_singleton.mp hlast]
  · rintro event hevent hstarts rfl
    cases hnext
  · intro other hother
    exact List.mem_append_left _ (hrecorded.beginner other (howner.trans (hnext.symm.trans hother)))
  · rintro other rfl
    cases hnext
    exact absurd rfl hescaped
  · exact hrecorded.inOrder_concat fun _ => ⟨rfl, rfl⟩
  · intro thread hmem
    rcases List.mem_append.mp hmem with hmem | hlast
    · exact List.mem_append_left _ (hrecorded.reentries thread hmem)
    · cases List.mem_singleton.mp hlast
  · intro event hevent shown hshown
    rcases List.mem_append.mp hevent with hearlier | hlast
    · have hfinished := (hrecorded.reports event hearlier shown hshown).1
      rw [hfinished] at howner
      cases howner
    · rw [List.mem_singleton.mp hlast] at hshown
      cases hshown

/-- The first close starts. -/
theorem start (thread : ℕ) (hrecorded : RecordedAt events detached report .notStarted) :
    RecordedAt (events ++ [.closeStarted thread]) detached report (.draining thread) := by
  have hattempts : attempts (events ++ [.closeStarted thread]) = attempts events :=
    attempts_concat events rfl
  refine ⟨?_, ?_, ?_, ?_, nofun, ?_, ?_, ?_⟩
  · rw [hattempts]
    exact hrecorded.reached
  · rw [hattempts]
    exact hrecorded.alone
  · intro event hevent hstarts hposition
    cases hposition
  · intro owner howner
    cases howner
    exact List.mem_append_right _ (List.mem_singleton_self _)
  · exact hrecorded.inOrder_concat fun hbegun => absurd rfl hbegun
  · intro other hmem
    rcases List.mem_append.mp hmem with hmem | hlast
    · exact List.mem_append_left _ (hrecorded.reentries other hmem)
    · cases List.mem_singleton.mp hlast
  · intro event hevent shown hshown
    rcases List.mem_append.mp hevent with hearlier | hlast
    · cases (hrecorded.reports event hearlier shown hshown).1
    · rw [List.mem_singleton.mp hlast] at hshown
      cases hshown

/-- The owner publishes its report. -/
theorem publish {owner : ℕ} {detached : DetachedResources} (published : CloseReport)
    (hrecorded : RecordedAt events (some detached) report position)
    (howner : position.owner = some owner)
    (hreached : (attempts events).map Prod.fst = plan (some detached)) :
    RecordedAt (events ++ [.closed owner published]) (some detached) published .finished := by
  have hattempts : attempts (events ++ [.closed owner published]) = attempts events :=
    attempts_concat events rfl
  refine ⟨?_, ?_, ?_, ?_, nofun, ?_, ?_, ?_⟩
  · rw [hattempts]
    exact ⟨nofun, hreached⟩
  · rw [hattempts]
    exact hrecorded.alone
  · intro event hevent hstarts hposition
    cases hposition
  · intro other hother
    cases hother
  · exact hrecorded.inOrder_concat fun _ => ⟨rfl, rfl⟩
  · intro other hmem
    rcases List.mem_append.mp hmem with hmem | hlast
    · exact List.mem_append_left _ (hrecorded.reentries other hmem)
    · cases List.mem_singleton.mp hlast
  · intro event hevent shown hshown
    rcases List.mem_append.mp hevent with hearlier | hlast
    · have hfinished := (hrecorded.reports event hearlier shown hshown).1
      rw [hfinished] at howner
      cases howner
    · rw [List.mem_singleton.mp hlast] at hshown
      cases hshown
      exact ⟨rfl, rfl⟩

end RecordedAt

/-! ### Steps -/

/-- The close is somewhere. -/
def Lifecycle.Valid (lifecycle : Lifecycle) : Prop := ∃ position, lifecycle.At position

namespace Lifecycle.At

variable {lifecycle : Lifecycle} {position : Position} {thread : ℕ} {frames : List Frame}

theorem enter (required : Bool) (hat : lifecycle.At position)
    (hcall : canCall (lifecycle.stack thread) = true) :
    (lifecycle.enter thread required (lifecycle.stack thread)).At position := by
  unfold Lifecycle.enter
  split
  · split
    · exact hat
    · refine ⟨hat.stands.move (hat.stands.not_draining hcall) rfl rfl ?_, hat.recorded⟩
      intro frame hframe hlisten
      rcases List.mem_cons.mp hframe with rfl | hframe
      · cases hlisten
      · exact Or.inl hframe
  · next hstarted =>
    have hposition : position = .notStarted := by
      by_contra hbegun
      exact hstarted (hat.stands.started.mpr hbegun)
    subst hposition
    constructor
    · refine StandsAt.emit ?_ _
      obtain ⟨admitted, hactive, hcount⟩ := hat.stands.counted
      refine ⟨hat.stands.started, hat.stands.finished, hat.stands.owner, ?_, ?_, ?_,
        ⟨thread :: admitted, ?_, ?_⟩, ?_, hat.stands.bounded⟩
      · exact forall_stack
          (Q := fun other frames => frames.filter Frame.closes = Position.notStarted.frames other)
          (hat.stands.frames thread) fun other _ => hat.stands.frames other
      · intro owner hposition
        cases hposition
      · refine forall_stack (Q := fun other frames => ∀ frame ∈ frames, frame.listens = true →
          Position.notStarted ≠ .notStarted ∧ Position.notStarted.owner ≠ some other) ?_
          fun other _ => hat.stands.listeners other
        intro frame hframe hlisten
        rcases List.mem_cons.mp hframe with rfl | hframe
        · cases hlisten
        · exact hat.stands.listeners thread frame hframe hlisten
      · change lifecycle.activeAdmissions + 1 = _
        rw [hactive, List.length_cons]
        push_cast
        rfl
      · refine forall_stack
          (Q := fun other frames =>
            frames.countP Frame.isAdmitted = (thread :: admitted).count other)
          ?_ fun other hother => ?_
        · rw [List.countP_cons_of_pos rfl, hcount, List.count_cons_self]
        · rw [List.count_cons_of_ne hother.symm]
          exact hcount other
      · intro hdrained
        cases hdrained
    · exact hat.recorded.emit rfl rfl (fun _ => rfl) (fun _ hevent => by cases hevent)
        (fun _ hshown => by cases hshown)

theorem leave (required admitted failed : Bool) (hat : lifecycle.At position)
    (hstack : lifecycle.stack thread = .admission required admitted :: frames) :
    (lifecycle.leave thread required admitted failed frames).At position := by
  unfold Lifecycle.leave
  cases admitted with
  | false =>
    rw [if_neg Bool.false_ne_true]
    exact ⟨hat.stands.pop hstack rfl rfl, hat.recorded⟩
  | true =>
    rw [if_pos rfl]
    refine ⟨hat.stands.depart hstack ?_ ?_ ?_, hat.recorded⟩
    · split <;> rfl
    · split <;> rfl
    · intro frame hframe _
      split at hframe
      · next hstarted => exact Or.inr (hat.stands.started.mp hstarted)
      · exact Or.inl hframe

theorem waitClosed (required failed : Bool) (hat : lifecycle.At position)
    (hstack : lifecycle.stack thread = .leaving required failed :: frames) :
    (lifecycle.waitClosed thread required failed frames).At position := by
  have hlistener := hat.stands.listeners thread (.leaving required failed)
    (hstack ▸ List.mem_cons_self) rfl
  unfold Lifecycle.waitClosed
  rw [if_neg fun howner => hlistener.2 (hat.stands.owner.symm.trans howner.1)]
  split
  · next hfinished =>
    have hposition := hat.stands.finished.mp hfinished
    refine ⟨(hat.stands.pop hstack rfl rfl).emit _, hat.recorded.emit rfl rfl nofun nofun ?_⟩
    intro shown hshown
    cases hshown
    exact ⟨hposition, rfl⟩
  · exact hat

theorem observe (hat : lifecycle.At position)
    (hstack : lifecycle.stack thread = .waiting :: frames) :
    (lifecycle.observe thread frames).At position := by
  unfold Lifecycle.observe
  split
  · next hfinished =>
    have hposition := hat.stands.finished.mp hfinished
    refine ⟨(hat.stands.pop hstack rfl rfl).emit _, hat.recorded.emit rfl rfl nofun nofun ?_⟩
    intro shown hshown
    cases hshown
    exact ⟨hposition, rfl⟩
  · exact hat

theorem startClose (hat : lifecycle.At position)
    (hcall : canCall (lifecycle.stack thread) = true) :
    (lifecycle.startClose thread (lifecycle.stack thread)).Valid := by
  unfold Lifecycle.startClose
  split
  · next hstarted =>
    split
    · next howner =>
      refine ⟨position, hat.stands.emit _, hat.recorded.emit rfl rfl nofun ?_ nofun⟩
      intro other hevent
      cases hevent
      exact hat.recorded.beginner _ (hat.stands.owner.symm.trans howner.1)
    · next hother =>
      have hnot : position.owner ≠ some thread := by
        intro howner
        refine hother ⟨hat.stands.owner.trans howner, ?_⟩
        refine Bool.eq_false_iff.mpr fun hfinished => ?_
        rw [hat.stands.finished.mp hfinished] at howner
        cases howner
      refine ⟨position, hat.stands.move (hat.stands.not_draining hcall) rfl rfl ?_, hat.recorded⟩
      intro frame hframe hlisten
      rcases List.mem_cons.mp hframe with rfl | hframe
      · exact Or.inr ⟨hat.stands.started.mp hstarted, hnot⟩
      · exact Or.inl hframe
  · next hstarted =>
    have hposition : position = .notStarted := by
      by_contra hbegun
      exact hstarted (hat.stands.started.mpr hbegun)
    subst hposition
    refine ⟨.draining thread, ?_, hat.recorded.start thread⟩
    refine StandsAt.emit ?_ _
    obtain ⟨admitted, hactive, hcount⟩ := hat.stands.counted
    refine ⟨iff_of_true rfl nofun, ?_, rfl, ?_, ?_, ?_, ⟨admitted, hactive, ?_⟩, nofun,
      hat.stands.bounded⟩
    · exact hat.stands.finished.trans (iff_of_false nofun nofun)
    · refine forall_stack
        (Q := fun other frames =>
          frames.filter Frame.closes = (Position.draining thread).frames other)
        ?_ fun other hother => ?_
      · change _ = if thread = thread then [Frame.draining] else []
        rw [if_pos rfl, List.filter_cons_of_pos rfl, hat.stands.frames thread]
        rfl
      · rw [Position.frames, if_neg hother]
        exact hat.stands.frames other
    · intro owner hposition
      cases hposition
      change (Function.update lifecycle.stack thread _ thread).head? = _
      rw [Function.update_self]
      rfl
    · have hsilent := hat.stands.listeners
      refine forall_stack (Q := fun other frames => ∀ frame ∈ frames, frame.listens = true →
        Position.draining thread ≠ .notStarted ∧ (Position.draining thread).owner ≠ some other) ?_
        fun other _ => ?_
      · intro frame hframe hlisten
        rcases List.mem_cons.mp hframe with rfl | hframe
        · cases hlisten
        · exact absurd rfl (hsilent thread frame hframe hlisten).1
      · intro frame hframe hlisten
        exact absurd rfl (hsilent other frame hframe hlisten).1
    · exact forall_stack
        (Q := fun other frames => frames.countP Frame.isAdmitted = admitted.count other)
        (hcount thread) fun other _ => hcount other

theorem drain (hat : lifecycle.At position)
    (hstack : lifecycle.stack thread = .draining :: frames) :
    (lifecycle.drain thread frames).Valid := by
  obtain ⟨rfl, hrest⟩ := hat.stands.draining_top hstack
  unfold Lifecycle.drain
  split
  · next hzero =>
    refine ⟨.closing thread .scheduler [], ?_, ?_⟩
    · refine hat.stands.advance rfl rfl hzero nofun ?_ ?_ ?_
      · rw [List.filter_cons_of_pos rfl, hrest, Position.frames, if_pos rfl]
      · rw [hstack]
        rfl
      · intro frame hframe hlisten
        rcases List.mem_cons.mp hframe with rfl | hframe
        · cases hlisten
        · exact hstack ▸ List.mem_cons_of_mem _ hframe
    · exact hat.recorded.advance rfl rfl nofun ⟨hat.recorded.reached, Nat.zero_le _⟩
  · exact ⟨_, hat⟩

/-- The owner of the close calls a target. -/
theorem callTarget {stage next : Stage} {diagnostics : List String} {target : Target}
    (hat : lifecycle.At (.closing thread stage diagnostics))
    (hstack : lifecycle.stack thread = .closing stage diagnostics :: frames)
    (hreached : StageReached lifecycle.detached
      ((attempts lifecycle.events).map Prod.fst ++ [target]) next) :
    (lifecycle.callTarget thread target next diagnostics frames).Valid := by
  have hzero : lifecycle.activeAdmissions = 0 := hat.stands.zero rfl
  refine ⟨.closing thread next diagnostics, ?_, ?_⟩
  · exact (hat.stands.goOn hstack).emit _
  · unfold Lifecycle.callTarget
    rw [hzero]
    exact hat.recorded.attempt rfl rfl nofun ⟨hreached, hat.recorded.reached.2⟩

theorem call (stage : Stage) (diagnostics : List String) (hat : lifecycle.At position)
    (hstack : lifecycle.stack thread = .closing stage diagnostics :: frames) :
    (lifecycle.call thread stage diagnostics frames).Valid := by
  obtain ⟨rfl, _⟩ := hat.stands.closing_top hstack
  have hreached := hat.recorded.reached.1
  cases stage with
  | scheduler =>
    refine hat.callTarget hstack ⟨?_, hreached.2⟩
    rw [hreached.1]
    rfl
  | registry =>
    refine hat.callTarget hstack ⟨?_, hreached.2⟩
    rw [hreached.1]
    rfl
  | resources left collected =>
    cases left with
    | nil => exact ⟨_, hat⟩
    | cons resource left =>
      refine hat.callTarget hstack ⟨hreached.1, ?_, hreached.2.2⟩
      rw [List.append_assoc]
      exact hreached.2.1
  | inScheduler => exact ⟨_, hat⟩
  | inRegistry => exact ⟨_, hat⟩
  | inResource resource left collected => exact ⟨_, hat⟩

/-- The owner of the close goes on behind a call. -/
theorem goOn {stage next : Stage} {diagnostics after : List String}
    (hat : lifecycle.At (.closing thread stage diagnostics))
    (hstack : lifecycle.stack thread = .closing stage diagnostics :: frames)
    (hreached : StageReached lifecycle.detached ((attempts lifecycle.events).map Prod.fst) next)
    (hbounded : after.length ≤ maxDiagnostics) :
    (lifecycle.setStack thread (.closing next after :: frames)).Valid := by
  refine ⟨.closing thread next after, ?_, ?_⟩
  · exact hat.stands.goOn hstack
  · exact hat.recorded.advance rfl rfl nofun ⟨hreached, hbounded⟩

/-- A call escapes, and the close with it. -/
theorem escape {stage : Stage} {diagnostics : List String}
    (hat : lifecycle.At (.closing thread stage diagnostics))
    (hstack : lifecycle.stack thread = .closing stage diagnostics :: frames) :
    (lifecycle.abandon thread frames).Valid := by
  refine ⟨.escaped thread, ?_, ?_⟩
  · exact (hat.stands.goOff hstack).emit _
  · have hquiet : attempts (lifecycle.events ++ [.abandoned thread]) = attempts lifecycle.events :=
      attempts_concat _ rfl
    have hemitted : RecordedAt (lifecycle.events ++ [.abandoned thread]) lifecycle.detached
        lifecycle.closeReport (.closing thread stage diagnostics) :=
      hat.recorded.emit rfl rfl nofun nofun nofun
    refine hemitted.advance rfl rfl (fun _ => ?_) ?_
    · exact List.mem_append_right _ (List.mem_singleton_self _)
    · rw [hquiet]
      exact reached_within_plan hat.recorded.reached.1

theorem result (stage : Stage) (diagnostics : List String) (result : CallResult)
    (hat : lifecycle.At position)
    (hstack : lifecycle.stack thread = .closing stage diagnostics :: frames) :
    (lifecycle.result thread stage diagnostics frames result).Valid := by
  obtain ⟨rfl, _⟩ := hat.stands.closing_top hstack
  obtain ⟨hreached, hbounded⟩ := hat.recorded.reached
  cases stage with
  | inScheduler =>
    unfold Lifecycle.result
    dsimp only
    split
    · next collected hcollect =>
      exact hat.goOn hstack hreached (length_collect_le hbounded hcollect)
    · exact hat.escape hstack
  | inResource resource left collected =>
    unfold Lifecycle.result
    dsimp only
    split
    · next after hcollect =>
      refine hat.goOn hstack ⟨hreached.1, hreached.2.1, ?_⟩ hbounded
      exact length_collect_le hreached.2.2 hcollect
    · exact hat.escape hstack
  | scheduler => exact ⟨_, hat⟩
  | registry => exact ⟨_, hat⟩
  | inRegistry => exact ⟨_, hat⟩
  | resources left collected => exact ⟨_, hat⟩

theorem detachResult (diagnostics : List String) (result : CallResult)
    (resources : DetachedResources) (hat : lifecycle.At position)
    (hstack : lifecycle.stack thread = .closing .inRegistry diagnostics :: frames) :
    (lifecycle.detachResult thread diagnostics frames result resources).Valid := by
  obtain ⟨rfl, _⟩ := hat.stands.closing_top hstack
  obtain ⟨hreached, hbounded⟩ := hat.recorded.reached
  unfold Lifecycle.detachResult
  generalize (if result = .returns then resources else ⟨0, false⟩) = detached
  dsimp only
  split
  · next after hcollect =>
    refine ⟨.closing thread (.resources detached.resources []) after, ?_, ?_⟩
    · exact (hat.stands.detach detached).goOn hstack
    · refine hat.recorded.advance rfl rfl nofun ⟨⟨nofun, ?_, Nat.zero_le _⟩, ?_⟩
      · rw [hreached.1]
        rfl
      · exact length_collect_le hbounded hcollect
  · exact hat.escape hstack

theorem publish (collected diagnostics : List String) (hat : lifecycle.At position)
    (hstack : lifecycle.stack thread = .closing (.resources [] collected) diagnostics :: frames) :
    (lifecycle.publish thread collected diagnostics frames).Valid := by
  obtain ⟨rfl, hrest⟩ := hat.stands.closing_top hstack
  obtain ⟨⟨hdetached, hplan, _⟩, hbounded⟩ := hat.recorded.reached
  obtain ⟨admitted, hactive, hcount⟩ := hat.stands.counted
  refine ⟨.finished, ?_, ?_⟩
  · refine StandsAt.emit ?_ _
    refine ⟨?_, iff_of_true rfl rfl, rfl, ?_, nofun, ?_, ⟨admitted, hactive, ?_⟩, ?_, ?_⟩
    · exact hat.stands.started.trans (iff_of_true nofun nofun)
    · refine forall_stack (Q := fun other frames => frames.filter Frame.closes = []) hrest
        fun other hother => ?_
      rw [hat.stands.frames other]
      exact if_neg hother
    · refine forall_stack (Q := fun other frames => ∀ frame ∈ frames, frame.listens = true →
        Position.finished ≠ .notStarted ∧ Position.finished.owner ≠ some other) ?_ fun other _ => ?_
      · exact fun _ _ _ => ⟨nofun, nofun⟩
      · exact fun _ _ _ => ⟨nofun, nofun⟩
    · refine forall_stack
        (Q := fun other frames => frames.countP Frame.isAdmitted = admitted.count other)
        ?_ fun other _ => hcount other
      rw [← hcount thread, hstack]
      rfl
    · exact fun _ => hat.stands.zero rfl
    · exact length_foldl_appendReason_le collected hbounded
  · unfold Lifecycle.publish Lifecycle.emit Lifecycle.setStack
    dsimp only
    cases hresources : lifecycle.detached with
    | none => exact absurd hresources hdetached
    | some resources =>
      have hrecorded := hat.recorded
      rw [hresources] at hrecorded hplan
      exact hrecorded.publish _ rfl ((List.append_nil _).symm.trans hplan)

end Lifecycle.At

/-! ### Runs -/

theorem valid_act {lifecycle : Lifecycle} (thread : ℕ) (action : Action)
    (hvalid : lifecycle.Valid) : (lifecycle.act thread action).Valid := by
  obtain ⟨position, hat⟩ := hvalid
  unfold Lifecycle.act
  split
  · split
    · next hcall => exact ⟨position, hat.enter _ hcall⟩
    · exact ⟨position, hat⟩
  · split
    · next hcall => exact hat.startClose hcall
    · exact ⟨position, hat⟩
  · next hstack => exact ⟨position, hat.leave _ _ _ hstack⟩
  · next hstack => exact ⟨position, hat.waitClosed _ _ hstack⟩
  · next hstack => exact ⟨position, hat.observe hstack⟩
  · next hstack => exact hat.drain hstack
  · next hstack => exact hat.call _ _ hstack
  · next hstack => exact hat.result _ _ _ hstack
  · next hstack => exact hat.detachResult _ _ _ hstack
  · next hstack => exact hat.publish _ _ hstack
  · exact ⟨position, hat⟩

theorem valid_after (steps : List Step) : (shutdown.after .initial steps).Valid := by
  have hstep : ∀ lifecycle step, lifecycle.Valid → True → (shutdown.step lifecycle step).1.Valid :=
    fun lifecycle step hvalid _ => valid_act step.thread step.action hvalid
  exact shutdown.invariant_after hstep ⟨_, initial_at⟩ fun _ _ => trivial

@[simp] theorem Lifecycle.stack_setStack_self (lifecycle : Lifecycle) (thread : ℕ)
    (frames : List Frame) : (lifecycle.setStack thread frames).stack thread = frames :=
  Function.update_self ..

/-- What the owner still does when the resources are being closed, by how their calls end. -/
def resourceActions (outcome : Target → CallResult) (left : List Resource) : List Action :=
  left.flatMap (fun resource => [.call, .result (outcome (.resource resource))]) ++ [.publish]

def registryActions (outcome : Target → CallResult) (resources : DetachedResources) :
    List Action :=
  .detachResult (outcome .registry) resources :: resourceActions outcome
    (if outcome .registry = .returns then resources.resources else [])

/-- What the owner still does from a stage on. -/
def Stage.actions (outcome : Target → CallResult) (resources : DetachedResources) :
    Stage → List Action
  | .scheduler =>
      .call :: .result (outcome .scheduler) :: .call :: registryActions outcome resources
  | .inScheduler => .result (outcome .scheduler) :: .call :: registryActions outcome resources
  | .registry => .call :: registryActions outcome resources
  | .inRegistry => registryActions outcome resources
  | .resources left _ => resourceActions outcome left
  | .inResource resource left _ =>
      .result (outcome (.resource resource)) :: resourceActions outcome left

/-- The lifecycle after actions of one thread. -/
def Lifecycle.afterOwn (lifecycle : Lifecycle) (thread : ℕ) (actions : List Action) : Lifecycle :=
  shutdown.after lifecycle (actions.map (⟨thread, ·⟩))

/-- The call of `close` has returned its report. -/
structure Lifecycle.Closed (lifecycle : Lifecycle) (thread : ℕ) (frames : List Frame) : Prop where
  finished : lifecycle.closeFinished = true
  returned : lifecycle.stack thread = frames
  seen : .closed thread lifecycle.closeReport ∈ lifecycle.events

section Completing

variable {lifecycle : Lifecycle} {thread : ℕ} {frames : List Frame} {stage : Stage}
  {diagnostics : List String} {outcome : Target → CallResult} {resources : DetachedResources}

theorem collect_of_caught {kind : String} {result : CallResult} (hcaught : result ≠ .escapes) :
    ∃ after, Lifecycle.collect diagnostics kind result = some after := by
  cases result with
  | returns => exact ⟨_, rfl⟩
  | raises errorType => exact ⟨_, rfl⟩
  | escapes => exact absurd rfl hcaught

theorem Lifecycle.act_call (hstack : lifecycle.stack thread = .closing stage diagnostics :: frames) :
    lifecycle.act thread .call = lifecycle.call thread stage diagnostics frames := by
  unfold Lifecycle.act
  rw [hstack]

theorem Lifecycle.act_result {result : CallResult}
    (hstack : lifecycle.stack thread = .closing stage diagnostics :: frames) :
    lifecycle.act thread (.result result) =
      lifecycle.result thread stage diagnostics frames result := by
  unfold Lifecycle.act
  rw [hstack]

theorem closed_resources (hcaught : ∀ target, outcome target ≠ .escapes) (left : List Resource)
    {collected : List String}
    (hstack : lifecycle.stack thread = .closing (.resources left collected) diagnostics :: frames) :
    (lifecycle.afterOwn thread (resourceActions outcome left)).Closed thread frames := by
  induction left generalizing lifecycle collected with
  | nil =>
    have hact : lifecycle.act thread .publish =
        lifecycle.publish thread collected diagnostics frames := by
      unfold Lifecycle.act
      rw [hstack]
    change (lifecycle.act thread .publish).Closed thread frames
    rw [hact]
    exact ⟨rfl, Lifecycle.stack_setStack_self _ _ _, List.mem_append_right _ List.mem_cons_self⟩
  | cons resource left ih =>
    change (((lifecycle.act thread .call).act thread
      (.result (outcome (.resource resource)))).afterOwn thread (resourceActions outcome left)).Closed
      thread frames
    have hcalled : (lifecycle.act thread .call).stack thread =
        .closing (.inResource resource left collected) diagnostics :: frames := by
      rw [Lifecycle.act_call hstack]
      exact Lifecycle.stack_setStack_self _ _ _
    obtain ⟨after, hcollect⟩ := @collect_of_caught collected (Lifecycle.Resource.kind resource) _
      (hcaught (.resource resource))
    have hnext : ((lifecycle.act thread .call).act thread
        (.result (outcome (.resource resource)))).stack thread =
        .closing (.resources left after) diagnostics :: frames := by
      rw [Lifecycle.act_result hcalled]
      unfold Lifecycle.result
      simp only [hcollect]
      exact Lifecycle.stack_setStack_self _ _ _
    exact ih hnext

theorem closed_registry (hcaught : ∀ target, outcome target ≠ .escapes)
    (hstack : lifecycle.stack thread = .closing .inRegistry diagnostics :: frames) :
    (lifecycle.afterOwn thread (registryActions outcome resources)).Closed thread frames := by
  have hact : lifecycle.act thread (.detachResult (outcome .registry) resources) =
      lifecycle.detachResult thread diagnostics frames (outcome .registry) resources := by
    unfold Lifecycle.act
    rw [hstack]
  obtain ⟨after, hcollect⟩ := @collect_of_caught diagnostics "registry" _ (hcaught .registry)
  have hleft : (if outcome .registry = .returns then resources else ⟨0, false⟩).resources =
      if outcome .registry = .returns then resources.resources else [] := by
    split <;> rfl
  have hnext : (lifecycle.act thread (.detachResult (outcome .registry) resources)).stack thread =
      .closing (.resources (if outcome .registry = .returns then resources.resources else []) [])
        after :: frames := by
    rw [hact]
    unfold Lifecycle.detachResult
    simp only [hcollect, hleft]
    exact Lifecycle.stack_setStack_self _ _ _
  exact closed_resources hcaught _ hnext

theorem closed_afterCall (hcaught : ∀ target, outcome target ≠ .escapes)
    (hstack : lifecycle.stack thread = .closing .registry diagnostics :: frames) :
    (lifecycle.afterOwn thread (.call :: registryActions outcome resources)).Closed thread
      frames := by
  have hnext : (lifecycle.act thread .call).stack thread =
      .closing .inRegistry diagnostics :: frames := by
    rw [Lifecycle.act_call hstack]
    exact Lifecycle.stack_setStack_self _ _ _
  exact closed_registry hcaught hnext

theorem closed_inScheduler (hcaught : ∀ target, outcome target ≠ .escapes)
    (hstack : lifecycle.stack thread = .closing .inScheduler diagnostics :: frames) :
    (lifecycle.afterOwn thread (Stage.inScheduler.actions outcome resources)).Closed thread
      frames := by
  obtain ⟨after, hcollect⟩ := @collect_of_caught diagnostics "scheduler" _ (hcaught .scheduler)
  have hnext : (lifecycle.act thread (.result (outcome .scheduler))).stack thread =
      .closing .registry after :: frames := by
    rw [Lifecycle.act_result hstack]
    unfold Lifecycle.result
    simp only [hcollect]
    exact Lifecycle.stack_setStack_self _ _ _
  exact closed_afterCall hcaught hnext

end Completing

/-- Wherever the close is, its owner publishes when the calls that are left do not escape. -/
def Lifecycle.Completes (lifecycle : Lifecycle) : Prop :=
  ∀ thread stage diagnostics frames outcome resources,
    lifecycle.stack thread = .closing stage diagnostics :: frames →
    (∀ target, outcome target ≠ .escapes) →
    (lifecycle.afterOwn thread (stage.actions outcome resources)).Closed thread frames

theorem Lifecycle.completes (lifecycle : Lifecycle) : lifecycle.Completes := by
  intro thread stage diagnostics frames outcome resources hstack hcaught
  cases stage with
  | scheduler =>
    have hnext : (lifecycle.act thread .call).stack thread =
        .closing .inScheduler diagnostics :: frames := by
      rw [Lifecycle.act_call hstack]
      exact Lifecycle.stack_setStack_self _ _ _
    exact closed_inScheduler hcaught hnext
  | inScheduler => exact closed_inScheduler hcaught hstack
  | registry => exact closed_afterCall hcaught hstack
  | inRegistry => exact closed_registry hcaught hstack
  | resources left collected => exact closed_resources hcaught left hstack
  | inResource resource left collected =>
    obtain ⟨after, hcollect⟩ := @collect_of_caught collected (Lifecycle.Resource.kind resource) _
      (hcaught (.resource resource))
    have hnext : (lifecycle.act thread (.result (outcome (.resource resource)))).stack thread =
        .closing (.resources left after) diagnostics :: frames := by
      rw [Lifecycle.act_result hstack]
      unfold Lifecycle.result
      simp only [hcollect]
      exact Lifecycle.stack_setStack_self _ _ _
    exact closed_resources hcaught left hnext

end CodexMustWork.DaemonLifecycle
