import CodexMustWork.TargetView
import Mathlib.Data.List.Nodup

/-!
# One target, watched by several detectors

The epoch, the anchor and the record of a target are shared; the detector and
the open calls are remembered by each watcher alone.  A watcher whose target
somebody else has counted progress for since is overtaken: what it remembers is
older than what is shared.
-/

namespace CodexMustWork

/-! ### What one watcher remembers -/

namespace TargetView

variable {thresholds : Thresholds} {view : TargetView} {input : TickInput} {offset : Int}

/-- What is remembered is not older than what is shared: the latest progress is the anchor,
    and a warning is one of the current epoch. -/
structure UpToDate (offset : Int) (view : TargetView) : Prop where
  latest : ∀ detector, view.detector = some detector → detector.latest + offset = view.anchor
  warned : ∀ detector, view.detector = some detector → detector.warned = true →
    view.recorded ⟨.suspected, view.epoch⟩ = true

/-- What is remembered decides nothing in this tick: when progress is counted, no warning is
    remembered; otherwise the target waits or is suspected already, or the silence that is
    remembered is too short. -/
def MemoryUnused (thresholds : Thresholds) (view : TargetView) (input : TickInput) : Prop :=
  ∀ detector, view.detector = some detector →
    if view.progresses input then detector.warned = false
    else view.waiting input = true ∨ view.warned input = true ∨
      input.now - detector.latest < thresholds.warning

instance : Decidable (view.MemoryUnused thresholds input) :=
  match hdetector : view.detector with
  | none => isTrue fun _ hsome => by
      rw [hdetector] at hsome
      cases hsome
  | some detector =>
      decidable_of_iff
        (if view.progresses input then detector.warned = false
          else view.waiting input = true ∨ view.warned input = true ∨
            input.now - detector.latest < thresholds.warning)
        ⟨fun hdecides other hother => by
            rw [hdetector] at hother
            obtain rfl := Option.some.inj hother
            exact hdecides,
          fun hunused => hunused detector hdetector⟩

/-- A watcher that remembers nothing is not older than what is shared. -/
theorem upToDate_of_none (hnone : view.detector = none) : view.UpToDate offset := by
  constructor
  · intro detector hsome
    rw [hnone] at hsome
    cases hsome
  · intro detector hsome
    rw [hnone] at hsome
    cases hsome

/-- The detector a tick starts from has the shared anchor. -/
theorem UpToDate.prior_latest (hup : view.UpToDate offset)
    (hclocks : input.wallTime = input.now + offset) (hanchor : view.anchor ≤ input.wallTime) :
    (view.prior input.now input.wallTime).latest + offset = view.anchor := by
  unfold prior
  cases hdetector : view.detector with
  | none =>
      change input.now - max 0 (input.wallTime - view.anchor) + offset = view.anchor
      rw [max_eq_right (by omega)]
      omega
  | some detector => exact hup.latest detector hdetector

/-- A warning it starts from is one of the current epoch. -/
theorem UpToDate.warned_iff (hup : view.UpToDate offset) :
    view.warned input = true ↔ view.recorded ⟨.suspected, view.epoch⟩ = true := by
  unfold TargetView.warned
  rw [Bool.or_eq_true]
  refine or_iff_right_of_imp fun hwarned => ?_
  unfold prior at hwarned
  cases hdetector : view.detector with
  | none =>
      rw [hdetector] at hwarned
      cases hwarned
  | some detector =>
      rw [hdetector] at hwarned
      exact hup.warned detector hdetector hwarned

/-- A silence that becomes suspected has lasted since the shared anchor, unless an overtaken
    watcher decided it from what it remembers. -/
theorem anchor_of_suspected (hremembers : view.UpToDate offset ∨ view.MemoryUnused thresholds input)
    (hclocks : input.wallTime = input.now + offset) (hanchor : view.anchor ≤ input.wallTime)
    (hdue : view.due thresholds input = some .suspected) :
    view.anchor + thresholds.warning ≤ input.wallTime := by
  have hquiet := not_progresses_of_due hdue
  obtain ⟨hpaused, hlong, hunwarned⟩ := DetectorView.due_eq_suspected_iff.mp hdue
  rw [counted_paused] at hpaused
  have hcounted : (view.counted input).latest = (view.prior input.now input.wallTime).latest ∧
      (view.counted input).warned = view.warned input := by
    unfold counted
    rw [hquiet]
    exact ⟨rfl, rfl⟩
  rw [hcounted.1] at hlong
  rw [hcounted.2] at hunwarned
  have hsince : view.UpToDate offset → view.anchor + thresholds.warning ≤ input.wallTime := by
    intro hup
    have hlatest := hup.prior_latest hclocks hanchor
    omega
  rcases hremembers with hup | hunused
  · exact hsince hup
  · cases hdetector : view.detector with
    | none => exact hsince (upToDate_of_none hdetector)
    | some detector =>
        have hprior : (view.prior input.now input.wallTime).latest = detector.latest := by
          unfold prior
          rw [hdetector]
          rfl
        have hdecides := hunused detector hdetector
        rw [hquiet, if_neg Bool.false_ne_true] at hdecides
        rcases hdecides with hwaits | hwarned | hshort
        · rw [hwaits] at hpaused
          cases hpaused
        · rw [hwarned] at hunwarned
          cases hunwarned
        · omega

/-- Progress recovers the epoch exactly when the epoch is suspected. -/
theorem recovered_mem_marks_iff
    (hremembers : view.UpToDate offset ∨ view.MemoryUnused thresholds input) {epoch : Nat} :
    ⟨.recovered, epoch⟩ ∈ view.marks thresholds input ↔
      epoch = view.epoch ∧ view.progresses input = true ∧
        view.recorded ⟨.suspected, view.epoch⟩ = true := by
  rw [mem_marks_recovered]
  refine and_congr_right fun _ => and_congr_right fun hprogress => ?_
  rcases hremembers with hup | hunused
  · exact hup.warned_iff
  · cases hdetector : view.detector with
    | none => exact (@upToDate_of_none view offset hdetector).warned_iff
    | some detector =>
        have hdecides := hunused detector hdetector
        rw [hprogress, if_pos rfl] at hdecides
        have hprior : (view.prior input.now input.wallTime).warned = false := by
          unfold prior
          rw [hdetector]
          exact hdecides
        unfold TargetView.warned
        rw [hprior, Bool.false_or]

/-- After its own tick a watcher is up to date if it was, and in any case when it counted
    progress. -/
theorem upToDate_next (hremembers : view.UpToDate offset ∨ view.progresses input = true)
    (hclocks : input.wallTime = input.now + offset) (hanchor : view.anchor ≤ input.wallTime) :
    (view.next thresholds input).UpToDate offset := by
  have hdetector : ∀ detector, (view.next thresholds input).detector = some detector →
      detector = (view.counted input).emit (view.due thresholds input) := by
    intro detector hsome
    rw [next_detector] at hsome
    exact (Option.some.inj hsome).symm
  constructor
  · intro detector hsome
    rw [hdetector detector hsome, next_latest, next_anchor]
    by_cases hprogress : view.progresses input = true
    · rw [if_pos hprogress, if_pos hprogress, hclocks]
    · rw [if_neg hprogress, if_neg hprogress]
      exact (hremembers.resolve_right hprogress).prior_latest hclocks hanchor
  · intro detector hsome hwarned
    rw [hdetector detector hsome] at hwarned
    unfold DetectorView.emit at hwarned
    by_cases hprogress : view.progresses input = true
    · rw [due_of_progresses hprogress] at hwarned
      unfold counted at hwarned
      rw [if_pos hprogress] at hwarned
      cases hwarned
    · have hup := hremembers.resolve_right hprogress
      have hcounted : (view.counted input).warned = view.warned input := by
        unfold counted
        rw [if_neg hprogress]
      rw [hcounted, Bool.or_eq_true, decide_eq_true_eq, hup.warned_iff] at hwarned
      rw [next_epoch, if_neg hprogress, next_recorded_of_ne_recovered (by decide), Bool.or_eq_true,
        decide_eq_true_eq]
      exact hwarned

end TargetView

/-! ### What all of them share -/

/-- A target with the memory of each of its watchers. -/
@[ext] structure SharedTarget where
  epoch : Nat
  anchor : Int
  recorded : Mark → Bool
  detector : Nat → Option DetectorView
  openCalls : Nat → Finset String

namespace SharedTarget

variable {thresholds : Thresholds} {offset : Int} {target : SharedTarget} {watcher : Nat}
  {input : TickInput} {overtaken : Nat → Bool} {progressedAt : List Int} {queued : List Mark}

/-- The target as one watcher sees it. -/
def view (target : SharedTarget) (watcher : Nat) : TargetView :=
  ⟨target.epoch, target.anchor, target.detector watcher, target.openCalls watcher,
    target.recorded⟩

/-- One watcher ticks. -/
def tick (thresholds : Thresholds) (target : SharedTarget) (watcher : Nat) (input : TickInput) :
    SharedTarget :=
  let next := (target.view watcher).next thresholds input
  { epoch := next.epoch
    anchor := next.anchor
    recorded := next.recorded
    detector := Function.update target.detector watcher next.detector
    openCalls := Function.update target.openCalls watcher next.openCalls }

@[simp] theorem view_tick_self :
    (target.tick thresholds watcher input).view watcher =
      (target.view watcher).next thresholds input := by
  unfold tick view
  simp only [Function.update_self]

theorem view_tick_of_ne {other : Nat} (hother : other ≠ watcher) :
    (target.tick thresholds watcher input).view other =
      { target.view other with
        epoch := ((target.view watcher).next thresholds input).epoch
        anchor := ((target.view watcher).next thresholds input).anchor
        recorded := ((target.view watcher).next thresholds input).recorded } := by
  unfold tick view
  simp only [Function.update_of_ne hother]

/-- What one watcher sees as its next view, and the others remember as before, is a tick. -/
theorem eq_tick {next : SharedTarget}
    (hview : next.view watcher = (target.view watcher).next thresholds input)
    (hothers : ∀ other, other ≠ watcher →
      next.detector other = target.detector other ∧ next.openCalls other = target.openCalls other) :
    next = target.tick thresholds watcher input := by
  unfold view at hview
  ext1
  · exact congrArg TargetView.epoch hview
  · exact congrArg TargetView.anchor hview
  · exact congrArg TargetView.recorded hview
  · funext other
    by_cases hsame : other = watcher
    · subst hsame
      exact (congrArg TargetView.detector hview).trans (congrArg TargetView.detector
        (@view_tick_self thresholds target other input).symm)
    · exact (hothers other hsame).1.trans (Function.update_of_ne hsame _ _).symm
  · funext other
    by_cases hsame : other = watcher
    · subst hsame
      exact (congrArg TargetView.openCalls hview).trans (congrArg TargetView.openCalls
        (@view_tick_self thresholds target other input).symm)
    · exact (hothers other hsame).2.trans (Function.update_of_ne hsame _ _).symm

/-- Who is overtaken after a tick of one watcher: everybody else when it counted progress; when
    it only began to remember the target, it is not. -/
def overtake (watcher : Nat) (progressed remembers : Bool) (overtaken : Nat → Bool) : Nat → Bool :=
  if progressed then fun other => decide (other ≠ watcher)
  else if remembers then overtaken
  else Function.update overtaken watcher false

/-- The state is consistent: whoever is not overtaken is up to date, no counted progress is
    after the anchor, what is recorded was queued once, and the recovered epochs are the
    suspected ones that are over. -/
structure Consistent (offset : Int) (target : SharedTarget) (overtaken : Nat → Bool)
    (progressedAt : List Int) (queued : List Mark) : Prop where
  memory : ∀ watcher, overtaken watcher = false → (target.view watcher).UpToDate offset
  progress : ∀ instant ∈ progressedAt, instant + offset ≤ target.anchor
  listed : ∀ mark, mark ∈ queued ↔ target.recorded mark = true
  nodup : queued.Nodup
  recovered : ∀ epoch, target.recorded ⟨.recovered, epoch⟩ = true ↔
    target.recorded ⟨.suspected, epoch⟩ = true ∧ epoch < target.epoch
  reached : ∀ epoch, target.recorded ⟨.suspected, epoch⟩ = true → epoch ≤ target.epoch

namespace Consistent

/-- A new target: nothing is remembered or recorded. -/
theorem initial (hdetector : ∀ watcher, target.detector watcher = none)
    (hrecorded : ∀ mark, target.recorded mark = false) :
    Consistent offset target (fun _ => false) [] [] := by
  refine ⟨fun watcher _ => TargetView.upToDate_of_none (hdetector watcher), ?_, ?_,
    List.nodup_nil, ?_, ?_⟩
  · intro instant hmem
    exact absurd hmem List.not_mem_nil
  · intro mark
    rw [hrecorded]
    exact iff_of_false List.not_mem_nil Bool.false_ne_true
  · intro epoch
    rw [hrecorded, hrecorded]
    exact iff_of_false Bool.false_ne_true fun hboth => Bool.false_ne_true hboth.1
  · intro epoch hsuspected
    rw [hrecorded] at hsuspected
    cases hsuspected

/-- A watcher that forgets everything is up to date. -/
theorem forget {next : SharedTarget} (hconsistent : Consistent offset target overtaken progressedAt
    queued) (watcher : Nat) (hnext : next = { target with
      detector := Function.update target.detector watcher none
      openCalls := Function.update target.openCalls watcher ∅ }) :
    Consistent offset next overtaken progressedAt queued := by
  subst hnext
  refine { hconsistent with memory := fun other hother => ?_ }
  by_cases hsame : other = watcher
  · subst hsame
    exact TargetView.upToDate_of_none (Function.update_self ..)
  · have hup := hconsistent.memory other hother
    unfold view at hup ⊢
    dsimp only
    rw [Function.update_of_ne hsame, Function.update_of_ne hsame]
    exact hup

/-- Whoever remembers nothing is not overtaken. -/
theorem unmark (hconsistent : Consistent offset target overtaken progressedAt queued)
    (watcher : Nat) : Consistent offset target
      (overtake watcher false (target.detector watcher).isSome overtaken) progressedAt queued := by
  refine { hconsistent with memory := fun other hother => ?_ }
  unfold overtake at hother
  rw [if_neg Bool.false_ne_true] at hother
  cases hdetector : target.detector watcher with
  | some detector =>
      rw [hdetector] at hother
      exact hconsistent.memory other hother
  | none =>
      rw [hdetector, if_neg (by decide)] at hother
      by_cases hsame : other = watcher
      · subst hsame
        exact TargetView.upToDate_of_none hdetector
      · rw [Function.update_of_ne hsame] at hother
        exact hconsistent.memory other hother

/-- The watcher that ticks is up to date, or what it remembers decides nothing. -/
theorem remembers (hconsistent : Consistent offset target overtaken progressedAt queued)
    (hunused : overtaken watcher = true →
      (target.view watcher).MemoryUnused thresholds input) :
    (target.view watcher).UpToDate offset ∨
      (target.view watcher).MemoryUnused thresholds input := by
  cases hovertaken : overtaken watcher with
  | false => exact Or.inl (hconsistent.memory watcher hovertaken)
  | true => exact Or.inr (hunused hovertaken)

/-- A suspicion comes the warning time after all counted progress. -/
theorem silence (hconsistent : Consistent offset target overtaken progressedAt queued)
    (hunused : overtaken watcher = true → (target.view watcher).MemoryUnused thresholds input)
    (hclocks : input.wallTime = input.now + offset) (hanchor : target.anchor ≤ input.wallTime)
    {epoch : Nat} (hmark : ⟨.suspected, epoch⟩ ∈ (target.view watcher).marks thresholds input) :
    ∀ instant ∈ progressedAt, instant + thresholds.warning ≤ input.now := by
  intro instant hmem
  have hdue := ((TargetView.mem_marks_of_ne_recovered (by decide)).mp hmark).2
  have hsince : target.anchor + thresholds.warning ≤ input.wallTime :=
    TargetView.anchor_of_suspected (hconsistent.remembers hunused) hclocks hanchor hdue
  have hbefore := hconsistent.progress instant hmem
  omega

/-- What is recorded after a tick. -/
theorem recorded_tick {mark : Mark} :
    (target.tick thresholds watcher input).recorded mark = true ↔
      target.recorded mark = true ∨ mark ∈ (target.view watcher).marks thresholds input := by
  change (target.recorded mark || decide (mark ∈ (target.view watcher).marks thresholds input)) =
    true ↔ _
  rw [Bool.or_eq_true, decide_eq_true_eq]

theorem epoch_tick : (target.tick thresholds watcher input).epoch =
    if (target.view watcher).progresses input then target.epoch + 1 else target.epoch := rfl

/-- The recovered epochs are still the suspected ones that are over. -/
theorem recovered_tick (hconsistent : Consistent offset target overtaken progressedAt queued)
    (hremembers : (target.view watcher).UpToDate offset ∨
      (target.view watcher).MemoryUnused thresholds input) (epoch : Nat) :
    (target.tick thresholds watcher input).recorded ⟨.recovered, epoch⟩ = true ↔
      (target.tick thresholds watcher input).recorded ⟨.suspected, epoch⟩ = true ∧
        epoch < (target.tick thresholds watcher input).epoch := by
  have hepoch : (target.view watcher).epoch = target.epoch := rfl
  have hrecorded : (target.view watcher).recorded = target.recorded := rfl
  rw [recorded_tick, recorded_tick, epoch_tick, TargetView.recovered_mem_marks_iff hremembers,
    TargetView.mem_marks_of_ne_recovered (by decide), hconsistent.recovered, hepoch, hrecorded]
  by_cases hprogress : (target.view watcher).progresses input = true
  · rw [if_pos hprogress, TargetView.due_of_progresses hprogress]
    constructor
    · rintro (⟨hsuspected, hover⟩ | ⟨rfl, _, hsuspected⟩)
      · exact ⟨Or.inl hsuspected, Nat.lt_succ_of_lt hover⟩
      · exact ⟨Or.inl hsuspected, Nat.lt_succ_self _⟩
    · rintro ⟨hsuspected | ⟨_, hnone⟩, hover⟩
      · rcases Nat.lt_succ_iff_lt_or_eq.mp hover with hearlier | rfl
        · exact Or.inl ⟨hsuspected, hearlier⟩
        · exact Or.inr ⟨rfl, hprogress, hsuspected⟩
      · cases hnone
  · rw [if_neg hprogress]
    constructor
    · rintro (⟨hsuspected, hover⟩ | ⟨_, hcounted, _⟩)
      · exact ⟨Or.inl hsuspected, hover⟩
      · exact absurd hcounted hprogress
    · rintro ⟨hsuspected | ⟨rfl, _⟩, hover⟩
      · exact Or.inl ⟨hsuspected, hover⟩
      · exact absurd hover (Nat.lt_irrefl _)

/-- No epoch is suspected before it is reached. -/
theorem reached_tick (hconsistent : Consistent offset target overtaken progressedAt queued)
    (epoch : Nat)
    (hsuspected : (target.tick thresholds watcher input).recorded ⟨.suspected, epoch⟩ = true) :
    epoch ≤ (target.tick thresholds watcher input).epoch := by
  have hgrows : target.epoch ≤ (target.tick thresholds watcher input).epoch := by
    rw [epoch_tick]
    split_ifs
    · exact Nat.le_succ _
    · exact Nat.le_refl _
  rcases recorded_tick.mp hsuspected with hbefore | hmark
  · exact (hconsistent.reached epoch hbefore).trans hgrows
  · exact (TargetView.epoch_of_mem_marks hmark).trans_le hgrows

/-- **One tick.**  A tick of a watcher that is not overtaken, or whose memory decides nothing,
    keeps the state consistent. -/
theorem tick (hconsistent : Consistent offset target overtaken progressedAt queued)
    (hunused : overtaken watcher = true → (target.view watcher).MemoryUnused thresholds input)
    (hclocks : input.wallTime = input.now + offset) (hanchor : target.anchor ≤ input.wallTime) :
    Consistent offset (target.tick thresholds watcher input)
      (overtake watcher ((target.view watcher).progresses input) (target.detector watcher).isSome
        overtaken)
      (if (target.view watcher).progresses input then input.now :: progressedAt else progressedAt)
      (queued ++ (target.view watcher).queued thresholds input) := by
  have hremembers := hconsistent.remembers hunused
  have hnext : ∀ mark, (target.tick thresholds watcher input).recorded mark = true ↔
      target.recorded mark = true ∨ mark ∈ (target.view watcher).queued thresholds input :=
    fun mark => TargetView.next_recorded
  refine ⟨?_, ?_, ?_, ?_, ?_, ?_⟩
  · intro other hother
    by_cases hsame : other = watcher
    · subst hsame
      rw [view_tick_self]
      refine TargetView.upToDate_next ?_ hclocks hanchor
      cases hprogress : (target.view other).progresses input with
      | true => exact Or.inr rfl
      | false =>
          left
          unfold overtake at hother
          rw [hprogress, if_neg Bool.false_ne_true] at hother
          cases hdetector : target.detector other with
          | none => exact TargetView.upToDate_of_none hdetector
          | some detector =>
              rw [hdetector] at hother
              exact hconsistent.memory other hother
    · rw [view_tick_of_ne hsame]
      unfold overtake at hother
      cases hprogress : (target.view watcher).progresses input with
      | true =>
          rw [hprogress, if_pos rfl, decide_eq_false_iff_not] at hother
          exact absurd hsame hother
      | false =>
          rw [hprogress, if_neg Bool.false_ne_true] at hother
          have hbefore : overtaken other = false := by
            split_ifs at hother
            · exact hother
            · rwa [Function.update_of_ne hsame] at hother
          obtain ⟨hlatest, hwarned⟩ := hconsistent.memory other hbefore
          rw [TargetView.next_epoch, TargetView.next_anchor, hprogress]
          refine ⟨hlatest, fun detector hsome hwarns => ?_⟩
          exact TargetView.next_recorded.mpr (Or.inl (hwarned detector hsome hwarns))
  · change ∀ instant ∈ _, instant + offset ≤ ((target.view watcher).next thresholds input).anchor
    rw [TargetView.next_anchor]
    have hold : ∀ instant ∈ progressedAt, instant + offset ≤ input.wallTime := fun instant hmem =>
      (hconsistent.progress instant hmem).trans hanchor
    split_ifs with hprogress
    · intro instant hmem
      rcases List.mem_cons.mp hmem with rfl | hmem
      · exact hclocks.ge
      · exact hold instant hmem
    · exact hconsistent.progress
  · intro mark
    rw [hnext, List.mem_append, hconsistent.listed]
  · have hnodup : ((target.view watcher).queued thresholds input).Nodup := by
      have hshort : ((target.view watcher).queued thresholds input).length ≤ 1 :=
        TargetView.queued_length_le_one
      match hqueued : (target.view watcher).queued thresholds input, hshort with
      | [], _ => exact List.nodup_nil
      | [mark], _ => exact List.nodup_singleton mark
    refine hconsistent.nodup.append hnodup fun mark hold hnew => ?_
    have hunrecorded : target.recorded mark = false := (TargetView.mem_queued.mp hnew).2
    rw [(hconsistent.listed mark).mp hold] at hunrecorded
    cases hunrecorded
  · exact hconsistent.recovered_tick hremembers
  · exact hconsistent.reached_tick

end Consistent

end SharedTarget

end CodexMustWork
