import CodexMustWork.Library.FailingRuns
import CodexMustWork.UninstallConvergence
import CodexMustWork.UninstallPublication

/-!
# Failing calls of an uninstall

A call that fails before the configuration is replaced ends the plan where dying there would,
with every root whole at one of its names.  The `except` clause of `_execute_plan` then rolls
back by the record, as long as the configuration on disk is still the one that was read: it is
where `write_config_bytes` fails up to the move of `config.toml`, and it is not where the link
after the move fails.
-/

namespace CodexMustWork

open DisturbedRuns

section Failing

variable {Digest : Type} {weather : Disturbance Spot (Disk Digest) UninstallError}

/-! ### Where a plan may fail -/

/-- The calls up to the replacement of the configuration, whose own calls fail in a weather of
    their own; the record is on disk before it is flushed, so that its flush is not one of
    them. -/
def Spot.Early : Spot → Bool
  | .root .plan _ _ => true
  | .root .quarantine _ _ => true
  | .record .prepared .make => true
  | .record .prepared .publish => true
  | .writeConfig => true
  | _ => false

/-- Nothing happens but that early calls fail. -/
structure FailsEarly (weather : Disturbance Spot (Disk Digest) UninstallError) : Prop where
  fails : weather.OnlyFails
  late : ∀ spot : Spot, spot.Early = false → weather.fault spot = none

/-! ### Calls that fail -/

section Calls

variable {α : Type} {body : Uninstalling Digest α} {reason : String}

theorem orElse_cut (hbody : Cut weather body) : Cut weather (orElse reason body) := by
  refine Cut.rethrow hbody fun error => ?_
  cases error with
  | os => exact ⟨_, rfl⟩
  | install other => exact ⟨_, rfl⟩

theorem orElse_quiet (hbody : Quiet weather body) : Quiet weather (orElse reason body) := by
  refine Quiet.attempt hbody fun error => ?_
  cases error with
  | os => exact Quiet.raise
  | install other => exact Quiet.raise

end Calls

variable {spot : Spot} {path source target : RootPath} {index : ℕ} {root : QuarantinedRoot}

theorem check_cut (hfails : weather.OnlyFails) : Cut weather (check spot) :=
  Cut.look hfails

theorem identityAt_cut (hfails : weather.OnlyFails) : Cut weather (identityAt spot path) :=
  Cut.look hfails

theorem renameNoReplace_cut (hfails : weather.OnlyFails) :
    Cut weather (renameNoReplace spot source target) :=
  Cut.act hfails

theorem pathTaken_cut (hfails : weather.OnlyFails) : Cut weather (pathTaken spot path) :=
  orElse_cut (Cut.look hfails)

theorem planQuarantine_cut (hfails : weather.OnlyFails) {token : String} {owned : OwnedRoot} :
    Cut weather (planQuarantine index token owned) := by
  refine orElse_cut (Cut.bind (check_cut hfails) fun _ => ?_)
  refine Cut.bind (identityAt_cut hfails) fun found => Cut.ite Cut.raise ?_
  exact Cut.bind (pathTaken_cut hfails) fun taken => Cut.ite Cut.raise Cut.pure

theorem planQuarantines_cut (hfails : weather.OnlyFails) {token : ℕ → String}
    {items : List (OwnedRoot × ℕ)} : Cut weather (planQuarantines token items) := by
  induction items with
  | nil => exact Cut.pure
  | cons item rest ih =>
    exact Cut.bind (planQuarantine_cut hfails) fun _ => Cut.bind ih fun _ => Cut.pure

theorem quarantineOwnedRoot_cut (hfails : weather.OnlyFails) :
    Cut weather (quarantineOwnedRoot index root) := by
  refine orElse_cut (Cut.bind (check_cut hfails) fun _ => ?_)
  refine Cut.bind (identityAt_cut hfails) fun found => Cut.ite Cut.raise ?_
  refine Cut.bind (pathTaken_cut hfails) fun taken => Cut.ite Cut.raise ?_
  refine Cut.bind (renameNoReplace_cut hfails) fun _ => ?_
  refine Cut.bind (identityAt_cut hfails) fun moved => ?_
  exact Cut.bind (check_cut hfails) fun _ => Cut.ite Cut.raise Cut.pure

/-! ### Calls that do not fail -/

theorem check_quiet (hfails : weather.OnlyFails) (hfault : weather.fault spot = none) :
    Quiet weather (check spot) :=
  Quiet.look hfails hfault

theorem identityAt_quiet (hfails : weather.OnlyFails) (hfault : weather.fault spot = none) :
    Quiet weather (identityAt spot path) :=
  Quiet.look hfails hfault

theorem renameNoReplace_quiet (hfails : weather.OnlyFails) (hfault : weather.fault spot = none) :
    Quiet weather (renameNoReplace spot source target) :=
  Quiet.act hfails hfault

theorem pathTaken_quiet (hfails : weather.OnlyFails) (hfault : weather.fault spot = none) :
    Quiet weather (pathTaken spot path) :=
  orElse_quiet (Quiet.look hfails hfault)

theorem optionalIdentity_quiet (hfails : weather.OnlyFails) (hfault : weather.fault spot = none) :
    Quiet weather (optionalIdentity spot path) :=
  orElse_quiet (Quiet.look hfails hfault)

theorem liftExcept_quiet {α : Type} (found : Except UninstallError α) :
    Quiet weather (liftExcept found) := by
  cases found with
  | ok value => exact Quiet.pure
  | error error => exact Quiet.raise

theorem writeSignedRecord_quiet (hfails : weather.OnlyFails) {which : SignedRecord}
    {store : Disk Digest → Disk Digest}
    (hfault : ∀ step, weather.fault (.record which step) = none) :
    Quiet weather (writeSignedRecord which store) := by
  refine orElse_quiet (Quiet.bind (check_quiet hfails (hfault .make)) fun _ => ?_)
  exact Quiet.bind (Quiet.act hfails (hfault .publish)) fun _ =>
    check_quiet hfails (hfault .flush)

theorem removeRecord_quiet (hfails : weather.OnlyFails) {which : RemovedRecord}
    {present : Disk Digest → Bool} {erase : Disk Digest → Disk Digest}
    (hfault : ∀ step, weather.fault (.remove which step) = none) :
    Quiet weather (removeRecord which present erase) := by
  refine orElse_quiet (Quiet.bind (Quiet.look hfails (hfault .lstat)) fun found => ?_)
  refine Quiet.ite (Quiet.bind (Quiet.act hfails (hfault .unlink)) fun _ => ?_) Quiet.pure
  exact check_quiet hfails (hfault .flush)

theorem loadPending_quiet (hfails : weather.OnlyFails) (hfault : weather.fault spot = none) :
    Quiet weather (loadPending spot : Uninstalling Digest _) := by
  refine Quiet.bind (Quiet.look hfails hfault) fun found => ?_
  cases found with
  | none => exact Quiet.pure
  | some pending => exact Quiet.ite Quiet.pure Quiet.raise

section Roots

variable {task : RootTask} (hfails : weather.OnlyFails)
  (hfault : ∀ index step, weather.fault (.root task index step) = none)

include hfails hfault

theorem rootState_quiet : Quiet weather (rootState task index root) := by
  refine Quiet.bind (optionalIdentity_quiet hfails (hfault index .original)) fun _ => ?_
  refine Quiet.bind (optionalIdentity_quiet hfails (hfault index .quarantine)) fun _ => ?_
  exact liftExcept_quiet _

theorem restoreQuarantinedRoot_quiet : Quiet weather (restoreQuarantinedRoot task index root) := by
  refine orElse_quiet (Quiet.bind (pathTaken_quiet hfails (hfault index .parent)) fun _ => ?_)
  refine Quiet.ite Quiet.raise (Quiet.bind (identityAt_quiet hfails (hfault index .parentAgain))
    fun _ => Quiet.ite Quiet.raise ?_)
  refine Quiet.bind (renameNoReplace_quiet hfails (hfault index .rename)) fun _ => ?_
  exact Quiet.bind (identityAt_quiet hfails (hfault index .moved)) fun _ =>
    Quiet.ite Quiet.raise Quiet.pure

theorem rollbackRoot_quiet : Quiet weather (rollbackRoot task index root) :=
  Quiet.bind (rootState_quiet hfails hfault) fun _ =>
    Quiet.ite (restoreQuarantinedRoot_quiet hfails hfault) (Quiet.ite Quiet.pure Quiet.raise)

theorem rollbackEach_quiet {items : List (ℕ × QuarantinedRoot)} {failure : Option UninstallError} :
    Quiet weather (rollbackEach task items failure) := by
  induction items generalizing failure with
  | nil => exact Quiet.pure
  | cons item rest ih =>
    refine Quiet.bind (Quiet.attempt (Quiet.bind (rollbackRoot_quiet hfails hfault) fun _ =>
      Quiet.pure) fun error => ?_) fun _ => ih
    cases error with
    | os => exact Quiet.raise
    | install reason => exact Quiet.pure

theorem rollbackPending_quiet {pending : PendingUninstall Digest} :
    Quiet weather (rollbackPending task pending) := by
  refine Quiet.bind (rollbackEach_quiet hfails hfault) fun failure => ?_
  cases failure with
  | none => exact Quiet.pure
  | some error => exact Quiet.raise

theorem deleteEntries_quiet {entries : List Entry} :
    Quiet weather (deleteEntries task index path entries : Uninstalling Digest Unit) := by
  induction entries with
  | nil => exact Quiet.pure
  | cons entry rest ih =>
    exact Quiet.ite Quiet.raise (Quiet.bind (Quiet.act hfails (hfault index _)) fun _ => ih)

theorem deleteQuarantinedRoot_quiet : Quiet weather (deleteQuarantinedRoot task index root) := by
  refine orElse_quiet (Quiet.bind (identityAt_quiet hfails (hfault index .moved)) fun _ =>
    Quiet.ite Quiet.raise ?_)
  refine Quiet.bind (check_quiet hfails (hfault index .openParent)) fun _ => ?_
  refine Quiet.bind (identityAt_quiet hfails (hfault index .openRoot)) fun _ =>
    Quiet.ite Quiet.raise ?_
  refine Quiet.bind (Quiet.look hfails (hfault index .scan)) fun _ => ?_
  refine Quiet.bind (deleteEntries_quiet hfails hfault) fun _ => ?_
  refine Quiet.bind (identityAt_quiet hfails (hfault index .named)) fun _ =>
    Quiet.ite Quiet.raise ?_
  exact Quiet.act hfails (hfault index .rmdir)

end Roots

/-! ### After a failure -/

variable {sha256 : Bytes → Digest} {sourceRoot : String}
  {token : ℕ → String} {plan : ExecutionPlan} {start last : Disk Digest}
  {roots : List QuarantinedRoot} {error : UninstallError}

theorem afterFailedPlan_quiet [DecidableEq Digest] (hearly : FailsEarly weather) :
    Quiet weather (afterFailedPlan sha256 error) := by
  refine Quiet.bind (Quiet.look hearly.fails (hearly.late _ rfl)) fun config => ?_
  refine Quiet.bind (loadPending_quiet hearly.fails (hearly.late _ rfl)) fun found => ?_
  refine Quiet.bind ?_ fun _ => Quiet.raise
  cases found with
  | none => exact Quiet.pure
  | some pending =>
    refine Quiet.bind (liftExcept_quiet _) fun progress => Quiet.ite ?_ Quiet.pure
    exact Quiet.bind (rollbackPending_quiet hearly.fails fun _ _ => hearly.late _ rfl) fun _ =>
      removeRecord_quiet hearly.fails fun _ => hearly.late _ rfl

/-- With the configuration that was read, the `except` clause takes everything back. -/
theorem afterFailedPlan_restores [DecidableEq Digest]
    (hroots : Quarantines start.tree roots) (hpending : start.pending = none) :
    Triple .undisturbed ((preparedDisk sha256 plan start roots).Keeping start.tree roots)
      (afterFailedPlan sha256 error)
      ⟨fun _ _ => False, fun found disk => found = error ∧ disk = start,
        (Disturbance.undisturbed : Disturbance Spot (Disk Digest) UninstallError).Dying
          fun _ => True⟩ := by
  have hdies := @Disturbance.undisturbed_onlyDies Spot (Disk Digest) UninstallError
  refine Triple.bind_known start.config _ (Triple.look_dying hdies (fun _ _ => trivial) ?_) ?_
  · rintro disk ⟨tree, -, rfl⟩
    rfl
  refine Triple.bind_known (some (plan.pending sha256 start.config roots .prepared)) _
    (loadPending_dying hdies (fun _ _ => trivial) ?_ ?_) ?_
  · rintro disk ⟨tree, -, rfl⟩
    rfl
  · rintro pending hsome
    cases hsome
    exact hroots.wellFormed
  refine Triple.bind_known () (· = start) ?_ (Triple.raise ?_)
  · simp only [undoPrepared, currentPhase_prepared, liftExcept, pure_then]
    refine Triple.ite (fun _ => ?_) fun hnot => (hnot trivial).elim
    refine Triple.bind (rollbackPending_dying (plan.pending sha256 start.config roots .prepared)
      hdies hroots fun _ _ => trivial) fun _ => ?_
    refine Triple.weaken (removeRecord_dying (· = start) hdies (fun _ _ => trivial)
      (fun _ _ => trivial) ?_ ?_) (fun _ hdisk => hdisk) (fun _ _ hdisk => ⟨trivial, hdisk⟩)
      (fun _ _ hpost => hpost) fun _ hpost => hpost
    · rintro disk rfl -
      rw [← hpending]
      rfl
    · rintro disk rfl habsent
      cases habsent
  · rintro disk rfl
    exact ⟨rfl, rfl⟩

/-! ### The plan -/

/-- What `_execute_plan` does once the record is committed. -/
def finishPlan (sourceRoot : String) (before : Bytes) (plan : ExecutionPlan)
    (planned : List QuarantinedRoot) : Uninstalling Digest UninstallReceipt := do
  Run.forEach (numbered planned) fun item => deleteQuarantinedRoot .delete item.1 item.2
  markUninstallComplete sourceRoot plan.completionDataRoots plan.purgeData
  removeInstallReceipt
  removePending .pending
  let preserved ← preservedRoots plan.purgeData
  pure ⟨decide (plan.replacement ≠ before), plan.cacheRoots.length, plan.runtimeRoots.length,
    plan.dataRoots.length, preserved⟩

theorem finishPlan_quiet (hearly : FailsEarly weather) (before : Bytes)
    (planned : List QuarantinedRoot) :
    Quiet weather (finishPlan sourceRoot before plan planned) := by
  refine Quiet.bind (Quiet.forEach fun item =>
    deleteQuarantinedRoot_quiet hearly.fails fun _ _ => hearly.late _ rfl) fun _ => ?_
  refine Quiet.bind (writeSignedRecord_quiet hearly.fails fun _ => hearly.late _ rfl) fun _ => ?_
  refine Quiet.bind (removeRecord_quiet hearly.fails fun _ => hearly.late _ rfl) fun _ => ?_
  refine Quiet.bind (removeRecord_quiet hearly.fails fun _ => hearly.late _ rfl) fun _ => ?_
  refine Quiet.bind (Quiet.ite Quiet.pure ?_) fun _ => Quiet.pure
  exact Quiet.look hearly.fails (hearly.late _ rfl)

/-- The prepared record is written, or the disk is left as it is. -/
theorem writePrepared_early (hearly : FailsEarly weather) (before : Bytes) (disk : Disk Digest) :
    writePending sha256 plan before roots .prepared .prepared weather disk =
        .returned () { disk with pending := some (plan.pending sha256 before roots .prepared) } ∨
      ∃ error, writePending sha256 plan before roots .prepared .prepared weather disk =
        .raised error disk := by
  have hflush := hearly.late (.record .prepared .flush) rfl
  have hcut : ∀ body : Uninstalling Digest Unit, (∃ error, body weather disk = .raised error disk) →
      ∃ error, orElse recordWriteFailed body weather disk = .raised error disk := by
    rintro body ⟨error, hraised⟩
    unfold orElse Run.attempt
    rw [hraised]
    cases error with
    | os => exact ⟨_, rfl⟩
    | install reason => exact ⟨_, rfl⟩
  unfold writePending writeSignedRecord
  cases hmake : weather.fault (.record .prepared .make) with
  | some error =>
    refine Or.inr (hcut _ ⟨error, ?_⟩)
    simp [bind_run, check, Run.look, Run.operation, hearly.fails.alive, hearly.fails.before, hmake]
  | none =>
    cases hpublish : weather.fault (.record .prepared .publish) with
    | some error =>
      refine Or.inr (hcut _ ⟨error, ?_⟩)
      simp [bind_run, check, Run.look, Run.act, Run.operation, hearly.fails.alive,
        hearly.fails.before, hmake, hpublish, Except.map]
    | none =>
      refine Or.inl ?_
      simp [orElse, Run.attempt, bind_run, check, Run.look, Run.act, Run.operation,
        hearly.fails.alive, hearly.fails.before, hmake, hpublish, hflush, Except.map]

/-- Once the roots are moved away only the write of the configuration can fail. -/
theorem publishConfig_early (hearly : FailsEarly weather)
    {write : Bytes → Bytes → Uninstalling Digest Unit} {before : Bytes} {disk : Disk Digest}
    (hwrite : plan.replacement ≠ before → ActsAtOnce write weather before plan.replacement)
    (hconfig : disk.config = before) :
    ((if plan.replacement ≠ before then write before plan.replacement else pure ()) >>=
        fun _ => writePending sha256 plan before roots .committed .committed) weather disk =
        ((if plan.replacement ≠ before then writeConfig before plan.replacement else pure ()) >>=
          fun _ => writePending sha256 plan before roots .committed .committed)
          .undisturbed disk ∨
      (∃ error, ((if plan.replacement ≠ before then write before plan.replacement else pure ()) >>=
          fun _ => writePending sha256 plan before roots .committed .committed) weather disk =
          .raised error disk) ∨
      ∃ last, ((if plan.replacement ≠ before then write before plan.replacement else pure ()) >>=
          fun _ => writePending sha256 plan before roots .committed .committed) weather disk =
          .crashed last := by
  have hwritten : Quiet weather (writePending sha256 plan before roots .committed .committed) :=
    writeSignedRecord_quiet hearly.fails fun _ => hearly.late _ rfl
  split
  case isTrue hdifferent =>
    rw [bind_run, bind_run]
    rcases hwrite hdifferent disk hconfig with hsame | ⟨error, hraised⟩ | ⟨last, hcrashed⟩
    · refine Or.inl ?_
      rw [hsame]
      cases writeConfig before plan.replacement .undisturbed disk with
      | returned value mid => exact hwritten mid
      | raised error mid => rfl
      | crashed mid => rfl
    · rw [hraised]
      exact Or.inr (Or.inl ⟨error, rfl⟩)
    · rw [hcrashed]
      exact Or.inr (Or.inr ⟨last, rfl⟩)
  case isFalse => exact Or.inl (Quiet.bind Quiet.pure (fun _ => hwritten) disk)

/-- The plan is published as without failing calls, or every root is still whole. -/
theorem publishPlan_early (hearly : FailsEarly weather)
    {write : Bytes → Bytes → Uninstalling Digest Unit}
    (hwrite : plan.replacement ≠ start.config →
      ActsAtOnce write weather start.config plan.replacement)
    (hroots : Quarantines start.tree roots) :
    publishPlanWith write sha256 plan start.config roots weather
        (preparedDisk sha256 plan start roots) =
        publishPlan sha256 plan start.config roots .undisturbed
          (preparedDisk sha256 plan start roots) ∨
      (∃ error disk, publishPlanWith write sha256 plan start.config roots weather
          (preparedDisk sha256 plan start roots) = .raised error disk ∧
        (preparedDisk sha256 plan start roots).Keeping start.tree roots disk) ∨
      ∃ disk, publishPlanWith write sha256 plan start.config roots weather
        (preparedDisk sha256 plan start roots) = .crashed disk := by
  have hcut : Cut weather (Run.forEach (numbered roots) fun item =>
      @quarantineOwnedRoot Digest item.1 item.2) :=
    Cut.forEach fun item => quarantineOwnedRoot_cut hearly.fails
  have hquarantined : ∀ other : Disturbance Spot (Disk Digest) UninstallError, other.OnlyDies →
      (Run.forEach (numbered roots) (fun item => quarantineOwnedRoot item.1 item.2) other
        (preparedDisk sha256 plan start roots)).Meets
        ⟨fun _ => (preparedDisk sha256 plan start roots).Quarantining start.tree roots [],
          fun _ _ => False,
          other.Dying ((preparedDisk sha256 plan start roots).Keeping start.tree roots)⟩ :=
    fun other hdies => quarantineAll_dying hdies hroots (fun _ hdisk => hdisk) _
      (preparedDisk_quarantining hroots)
  unfold publishPlan publishPlanWith
  rw [bind_run, bind_run]
  rcases hcut (preparedDisk sha256 plan start roots) with ⟨hsame, -⟩ | ⟨error, disk, hraised, hdied⟩
  · -- Every root is moved away, so only the configuration is left.
    have hmeets := hquarantined .undisturbed Disturbance.undisturbed_onlyDies
    rw [hsame]
    cases hrun : Run.forEach (numbered roots) (fun item => quarantineOwnedRoot item.1 item.2)
        Disturbance.undisturbed (preparedDisk sha256 plan start roots) with
    | raised error disk => exact Or.inl rfl
    | crashed disk => exact Or.inl rfl
    | returned value disk =>
      rw [hrun] at hmeets
      have hconfig : disk.config = start.config := by
        obtain ⟨tree, -, rfl⟩ := hmeets
        rfl
      rcases publishConfig_early hearly hwrite hconfig with hpublished | ⟨error, hfailed⟩ | hdead
      · exact Or.inl hpublished
      · exact Or.inr (Or.inl ⟨error, disk, hfailed, Disk.Quarantining.all_keeping hmeets⟩)
      · exact Or.inr (Or.inr hdead)
  · have hmeets := hquarantined weather.deaths weather.deaths_onlyDies
    rw [hdied] at hmeets
    rw [hraised]
    exact Or.inr (Or.inl ⟨error, disk, rfl, hmeets.1⟩)

section Planning

variable (hrooted : plan.Rooted start.tree) (hfresh : plan.Fresh token start.tree)

include hrooted hfresh

theorem planQuarantines_start {other : Disturbance Spot (Disk Digest) UninstallError}
    (hdies : other.OnlyDies) :
    (planQuarantines token plan.targets.zipIdx other start).Meets
      ⟨fun planned disk => planned = plan.quarantines token ∧ disk = start, fun _ _ => False,
        other.Dying (Eq start)⟩ :=
  planTargets_dying hdies rfl hrooted hfresh start rfl

theorem planQuarantines_undisturbed :
    planQuarantines token plan.targets.zipIdx .undisturbed start =
      .returned (plan.quarantines token) start := by
  have hmeets := planQuarantines_start hrooted hfresh Disturbance.undisturbed_onlyDies
  cases hrun : planQuarantines token plan.targets.zipIdx .undisturbed start with
  | returned planned disk =>
    rw [hrun] at hmeets
    rw [hmeets.1, hmeets.2]
  | raised error disk =>
    rw [hrun] at hmeets
    exact hmeets.elim
  | crashed disk =>
    rw [hrun] at hmeets
    exact (Disturbance.undisturbed_not_dying hmeets).elim

/-- Every root is planned, or nothing is done. -/
theorem planQuarantines_early (hearly : FailsEarly weather) :
    planQuarantines token plan.targets.zipIdx weather start =
        .returned (plan.quarantines token) start ∨
      ∃ error, planQuarantines token plan.targets.zipIdx weather start =
        .raised error start := by
  have hcut : Cut weather (planQuarantines token plan.targets.zipIdx) :=
    planQuarantines_cut hearly.fails
  rcases hcut start with ⟨hsame, -⟩ | ⟨error, disk, hraised, hdied⟩
  · exact Or.inl (hsame.trans (planQuarantines_undisturbed hrooted hfresh))
  · have hmeets := planQuarantines_start hrooted hfresh weather.deaths_onlyDies
    rw [hdied] at hmeets
    rw [hraised, ← show start = disk from hmeets.1]
    exact Or.inr ⟨error, rfl⟩

end Planning

theorem undisturbed_failsEarly :
    FailsEarly (Disturbance.undisturbed : Disturbance Spot (Disk Digest) UninstallError) :=
  ⟨⟨fun _ _ => rfl, fun _ => rfl⟩, fun _ _ => rfl⟩

theorem writePrepared_undisturbed (before : Bytes) (disk : Disk Digest) :
    writePending sha256 plan before roots .prepared .prepared .undisturbed disk =
      .returned () { disk with pending := some (plan.pending sha256 before roots .prepared) } :=
  rfl

/-- With the record written, what is left is the `try` and what follows it. -/
theorem executePlan_prepared [DecidableEq Digest]
    {write : Bytes → Bytes → Uninstalling Digest Unit}
    (hplanned : planQuarantines token plan.targets.zipIdx weather start = .returned roots start)
    (hwritten : writePending sha256 plan start.config roots .prepared .prepared weather start =
      .returned () (preparedDisk sha256 plan start roots)) :
    executePlanWith write sha256 sourceRoot token start.config plan weather start =
      (Run.attempt (publishPlanWith write sha256 plan start.config roots) (afterFailedPlan sha256)
        weather (preparedDisk sha256 plan start roots)).andThen
        fun _ => finishPlan sourceRoot start.config plan roots weather := by
  unfold executePlanWith
  rw [bind_run, hplanned, returned_andThen, bind_run, hwritten, returned_andThen, bind_run]
  rfl

/-- An undisturbed plan does not raise. -/
theorem executePlan_undisturbed [DecidableEq Digest] (hrooted : plan.Rooted start.tree)
    (hfresh : plan.Fresh token start.tree) (hremovals : start.removals = []) :
    executePlan sha256 sourceRoot token start.config plan .undisturbed start ≠
      .raised error last := by
  intro hraised
  have hmeets := @executePlan_dying Digest .undisturbed (fun _ _ => False) sha256 sourceRoot plan
    start token _ Disturbance.undisturbed_onlyDies hrooted hfresh hremovals start rfl
  rw [hraised] at hmeets
  exact hmeets

/-- A plan that raises leaves the disk as it was, if its write acts at once. -/
theorem executePlanWith_rolls_back [DecidableEq Digest] (hearly : FailsEarly weather)
    {write : Bytes → Bytes → Uninstalling Digest Unit}
    (hwrite : plan.replacement ≠ start.config →
      ActsAtOnce write weather start.config plan.replacement)
    (hrooted : plan.Rooted start.tree) (hfresh : plan.Fresh token start.tree)
    (hpending : start.pending = none) (hremovals : start.removals = [])
    (hraised : executePlanWith write sha256 sourceRoot token start.config plan weather start =
      .raised error last) : last = start := by
  have hroots := quarantines_of_fresh hrooted hfresh
  rcases planQuarantines_early hrooted hfresh hearly with hplanned | ⟨failed, hplanned⟩
  swap
  · unfold executePlanWith at hraised
    rw [bind_run, hplanned] at hraised
    cases hraised
    rfl
  have hrecord := @writePrepared_early Digest weather sha256 plan (plan.quarantines token) hearly
    start.config start
  rcases hrecord with hwritten | ⟨failed, hwritten⟩
  swap
  · unfold executePlanWith at hraised
    rw [bind_run, hplanned, returned_andThen, bind_run, hwritten] at hraised
    cases hraised
    rfl
  have hpublish := @publishPlan_early Digest weather sha256 plan start (plan.quarantines token)
    hearly write hwrite hroots
  rcases hpublish with hsame | ⟨failed, disk, hfailed, hkeeping⟩ | ⟨disk, hcrashed⟩
  · -- No call failed, so the run is the undisturbed one, which does not raise.
    have hequal : executePlanWith write sha256 sourceRoot token start.config plan weather start =
        executePlan sha256 sourceRoot token start.config plan .undisturbed start := by
      unfold executePlan
      rw [executePlan_prepared hplanned hwritten,
        executePlan_prepared (planQuarantines_undisturbed hrooted hfresh)
          (writePrepared_undisturbed start.config start)]
      unfold Run.attempt
      rw [hsame]
      unfold publishPlan
      cases publishPlanWith writeConfig sha256 plan start.config (plan.quarantines token)
          .undisturbed (preparedDisk sha256 plan start (plan.quarantines token)) with
      | returned value disk => exact finishPlan_quiet hearly start.config _ disk
      | raised error disk =>
        exact Quiet.bind (afterFailedPlan_quiet hearly)
          (fun _ => finishPlan_quiet hearly start.config _) disk
      | crashed disk => rfl
    exact (executePlan_undisturbed hrooted hfresh hremovals (hequal.symm.trans hraised)).elim
  · rw [executePlan_prepared hplanned hwritten] at hraised
    unfold Run.attempt at hraised
    rw [hfailed] at hraised
    simp only [afterFailedPlan_quiet hearly disk] at hraised
    have hmeets := @afterFailedPlan_restores Digest sha256 plan start (plan.quarantines token)
      failed _ hroots hpending disk hkeeping
    cases hrun : afterFailedPlan sha256 failed .undisturbed disk with
    | returned value mid =>
      rw [hrun] at hmeets
      exact hmeets.elim
    | raised found mid =>
      rw [hrun] at hmeets hraised
      cases hraised
      exact hmeets.2
    | crashed mid =>
      rw [hrun] at hmeets
      exact (@Disturbance.undisturbed_not_dying _ _ _ (fun _ => True) mid hmeets).elim
  · rw [executePlan_prepared hplanned hwritten] at hraised
    unfold Run.attempt at hraised
    rw [hcrashed] at hraised
    cases hraised

/-- **A failed uninstall rolls back.**  With `write_config_bytes` call by call, a plan that
    raises before the replacement is on its way leaves the disk as it was. -/
theorem executePlan_rolls_back [DecidableEq Digest] (hearly : FailsEarly weather)
    {publication : Disturbance Place Home PublicationError} {home : Home} {identity : ℕ}
    {lease : InstallerLease} {creation : PosixMetadata}
    (hstops : StopsBeforeMove publication)
    (hhome : plan.replacement ≠ start.config →
      home.Unused identity ∧ home.configBytes = start.config)
    (hrooted : plan.Rooted start.tree) (hfresh : plan.Fresh token start.tree)
    (hpending : start.pending = none) (hremovals : start.removals = [])
    (hraised : executePlanWith (publishConfig publication home lease creation) sha256 sourceRoot
      token start.config plan weather start = .raised error last) : last = start := by
  refine executePlanWith_rolls_back hearly (fun hdifferent => ?_) hrooted hfresh hpending
    hremovals hraised
  obtain ⟨hunused, hbytes⟩ := hhome hdifferent
  exact publishConfig_actsAtOnce hstops hunused hbytes hdifferent

end Failing

/-! ### Plans that are not rolled back -/

/-- One call of the uninstall fails. -/
def failsAt (spot : Spot) : Disturbance Spot (Disk Bytes) UninstallError where
  before _ := id
  fault place := if place = spot then some .os else none
  crash _ := false

/-- One call of the configuration write fails. -/
def writeFailsAt (place : Place) : Disturbance Place Home PublicationError where
  before _ := id
  fault other := if other = place then some .os else none
  crash _ := false

/-- Another process changes the configuration just before it is compared. -/
def rewritesConfig : Disturbance Place Home PublicationError :=
  racing (.capture .first .lstat) ⟨.rewriting, [36], ⟨1000, 1000, 0o644⟩⟩

/-- The home of `installedDisk`. -/
def installedHome : Home := onlyConfig installedDisk.config ⟨1000, 1000, 0o644⟩

/-- What the plan of `installedDisk` leaves. -/
def samplePlanEnds (weather : Disturbance Spot (Disk Bytes) UninstallError)
    (publication : Disturbance Place Home PublicationError) :
    Outcome (Disk Bytes) UninstallError UninstallReceipt :=
  executePlanWith (publishConfig publication installedHome liveLease ⟨1000, 1000, 0o600⟩) id
    "source" sampleNames installedDisk.config samplePlan weather installedDisk

theorem writeFailsAt_stops {place : Place} (hplace : place.upToMove = true) :
    StopsBeforeMove (writeFailsAt place) where
  solitary _ _ := rfl
  io other error hfault := by
    simp only [writeFailsAt, Option.ite_none_right_eq_some] at hfault
    exact (Option.some.inj hfault.2).symm
  alive _ := rfl
  early := Or.inl ⟨place, hplace, by simp [writeFailsAt]⟩

/-- The error a run raises. -/
def raisedError {σ ε α : Type} : Outcome σ ε α → Option ε
  | .raised error _ => some error
  | _ => none

theorem eq_raised_of_raisedError {σ ε α : Type} {outcome : Outcome σ ε α} {error : ε}
    (hraises : raisedError outcome = some error) : outcome = .raised error outcome.state := by
  cases outcome with
  | raised found state =>
    cases hraises
    rfl
  | returned value state => cases hraises
  | crashed state => cases hraises

theorem samplePlan_rooted : samplePlan.Rooted installedDisk.tree :=
  (planUninstall_sound (installedDisk_planned sampleOrder)).rooted

theorem executePlan_rolls_back_installedDisk :
    (samplePlanEnds .undisturbed (writeFailsAt (.publish .rename))).state = installedDisk :=
  executePlan_rolls_back undisturbed_failsEarly (writeFailsAt_stops rfl)
    (fun _ => ⟨onlyConfig_unused _ _, rfl⟩) samplePlan_rooted samplePlan_fresh rfl rfl
    (@eq_raised_of_raisedError _ _ _
      (samplePlanEnds .undisturbed (writeFailsAt (.publish .rename)))
      (.install publicationFailed) (by decide +kernel))

/-- A foreign change leaves the plugin moved away, and the next uninstall refuses; so does a
    failing link, which leaves no configuration either; a record that could not be flushed
    stays. -/
theorem executePlan_leaves_record :
    (raisedError (samplePlanEnds .undisturbed rewritesConfig) =
        some (.install pendingConfigConflict) ∧
      (samplePlanEnds .undisturbed rewritesConfig).state.tree sampleCache = none ∧
      (samplePlanEnds .undisturbed rewritesConfig).state.pending.isSome = true ∧
      raisedError (uninstall sampleChecks sampleOrder id "source" sampleNames false .undisturbed
        (samplePlanEnds .undisturbed rewritesConfig).state) =
          some (.install pendingConfigConflict)) ∧
      (raisedError (samplePlanEnds .undisturbed (writeFailsAt (.publish .link))) =
          some (.install pendingConfigConflict) ∧
        (samplePlanEnds .undisturbed (writeFailsAt (.publish .link))).state.config = [] ∧
        (samplePlanEnds .undisturbed (writeFailsAt (.publish .link))).state.tree sampleCache =
          none ∧
        (samplePlanEnds .undisturbed (writeFailsAt (.publish .link))).state.pending.isSome = true ∧
        raisedError (uninstall sampleChecks sampleOrder id "source" sampleNames false .undisturbed
          (samplePlanEnds .undisturbed (writeFailsAt (.publish .link))).state) =
            some (.install pendingConfigConflict)) ∧
      raisedError (samplePlanEnds (failsAt (.record .prepared .flush)) .undisturbed) =
        some (.install recordWriteFailed) ∧
      (samplePlanEnds (failsAt (.record .prepared .flush)) .undisturbed).state.pending.isSome =
        true := by
  refine ⟨⟨?_, ?_, ?_, ?_⟩, ⟨?_, ?_, ?_, ?_, ?_⟩, ?_, ?_⟩ <;> decide +kernel

end CodexMustWork
