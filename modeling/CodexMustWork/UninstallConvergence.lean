import CodexMustWork.Library.Traversal
import CodexMustWork.UninstallCrashes
import Mathlib.Logic.Relation

/-!
# Uninstalling converges

What planning decides it decides from the disk alone, and it finds nothing more to do
on the disk of a finished uninstall.  So an uninstall that is tried again after any
crashes ends where one that was never interrupted ends.
-/

namespace CodexMustWork

open DisturbedRuns

variable {Digest : Type} {checks : Checks} {order : SetOrder} {sourceRoot : String} {purge : Bool}

/-! ### Planning only reads -/

theorem liftExcept_reads {α : Type} (found : Except UninstallError α) :
    Reads (liftExcept found : Uninstalling Digest α) := by
  cases found with
  | ok value => exact Reads.pure
  | error error => exact Reads.raise

theorem tryInstallReceipt_reads :
    Reads (tryInstallReceipt checks sourceRoot : Uninstalling Digest _) := by
  refine Reads.attempt (Reads.map Reads.look) fun error => ?_
  cases error with
  | os => exact Reads.raise
  | install reason => exact Reads.pure

theorem planWithoutReceipt_reads (config : Bytes) (reason : String) :
    Reads (planWithoutReceipt checks order sourceRoot purge config reason : Uninstalling Digest _) := by
  refine Reads.bind Reads.look fun completion => ?_
  cases completion with
  | some completion =>
    exact Reads.ite Reads.raise (Reads.ite (Reads.map Reads.look) Reads.pure)
  | none =>
    refine Reads.ite Reads.raise (Reads.bind Reads.look fun present => ?_)
    refine Reads.ite Reads.raise (Reads.bind Reads.look fun targets => ?_)
    exact Reads.ite Reads.raise Reads.pure

theorem planWithReceipt_reads (config : Bytes) (receipt : InstallReceipt) :
    Reads (planWithReceipt checks purge config receipt : Uninstalling Digest _) := by
  refine Reads.bind Reads.look fun caches => ?_
  refine Reads.bind Reads.look fun runtimes => ?_
  refine Reads.bind Reads.look fun dataRoots => ?_
  exact Reads.bind (liftExcept_reads _) fun replacement => Reads.pure

theorem planUninstall_reads (config : Bytes) :
    Reads (planUninstall checks order sourceRoot purge config : Uninstalling Digest _) := by
  refine Reads.bind tryInstallReceipt_reads fun found => ?_
  cases found with
  | error reason => exact planWithoutReceipt_reads config reason
  | ok receipt => exact planWithReceipt_reads config receipt

/-! ### What a plan is made of -/

/-- What planning makes sure of. -/
structure ExecutionPlan.Sound (purge : Bool) (trees : Trees) (plan : ExecutionPlan) : Prop where
  rooted : plan.Rooted trees
  purges : plan.purgeData = purge
  bound : (plan.completionDataRoots.map OwnedRoot.path).Nodup
  candidates : ∀ root ∈ plan.completionDataRoots, root.path ∈ dataCandidates
  purged : purge = true → ∀ path ∈ dataCandidates, (trees path).isSome →
    path ∈ plan.targets.map OwnedRoot.path

/-- The data roots that were found at the candidate paths. -/
structure FoundData (checks : Checks) (trees : Trees) (paths : List RootPath)
    (roots : List OwnedRoot) : Prop where
  names : roots.map OwnedRoot.path = paths.filter fun path => (trees path).isSome
  present : ∀ root ∈ roots, ∃ found, trees root.path = some found ∧
    found.identity = root.identity ∧ found.Safe

theorem plannedData_eq_ok {trees : Trees} {path : RootPath} {root : OwnedRoot}
    (hplanned : plannedData checks trees path = .ok root) :
    root.path = path ∧ ∃ found, trees root.path = some found ∧ found.identity = root.identity ∧
      found.Safe := by
  unfold plannedData at hplanned
  cases hdata : checks.data path trees with
  | error error =>
    rw [hdata] at hplanned
    cases hplanned
  | ok done =>
    rw [hdata] at hplanned
    cases hfound : trees path with
    | none =>
      rw [hfound] at hplanned
      cases hplanned
    | some found =>
      rw [hfound] at hplanned
      cases hplanned
      exact ⟨rfl, found, hfound, rfl, checks.data_sound path trees hdata found hfound⟩

theorem foundData_of_mapM {trees : Trees} {paths : List RootPath} {roots : List OwnedRoot}
    {find : RootPath → Except UninstallError OwnedRoot}
    (hfind : ∀ path root, find path = .ok root → plannedData checks trees path = .ok root)
    (hmap : (paths.filter fun path => (trees path).isSome).mapM find = .ok roots) :
    FoundData checks trees paths roots := by
  have hall := Traversal.forall₂_of_mapM hmap
  constructor
  · symm
    rw [← List.forall₂_eq_eq_eq, List.forall₂_map_right_iff]
    exact hall.imp fun path root hroot => (plannedData_eq_ok (hfind path root hroot)).1.symm
  · intro root hroot
    obtain ⟨path, -, hpath⟩ := Traversal.exists_item hall hroot
    exact (plannedData_eq_ok (hfind path root hpath)).2

theorem plannedDataRoots_eq_ok {trees : Trees} {roots : List OwnedRoot}
    (hplanned : plannedDataRoots checks trees = .ok roots) :
    FoundData checks trees dataCandidates roots :=
  foundData_of_mapM (fun _ _ hroot => hroot) hplanned

theorem boundDataRoot_eq_ok {bound : List OwnedRoot} {trees : Trees} {path : RootPath}
    {root : OwnedRoot} (hbound : boundDataRoot checks bound trees path = .ok root) :
    plannedData checks trees path = .ok root := by
  unfold boundDataRoot at hbound
  split at hbound
  · cases hbound
  · cases hplanned : plannedData checks trees path with
    | error error =>
      rw [hplanned] at hbound
      cases hbound
    | ok current =>
      rw [hplanned] at hbound
      change (if _ then _ else _) = _ at hbound
      split at hbound
      · cases hbound
      · exact hbound

theorem validateBoundDataRoots_eq_ok {bound roots : List OwnedRoot} {trees : Trees}
    (hbound : validateBoundDataRoots checks order bound trees = .ok roots) :
    FoundData checks trees order.paths roots ∧ (bound.map OwnedRoot.path).Nodup ∧
      ∀ root ∈ bound, root.path ∈ dataCandidates := by
  unfold validateBoundDataRoots at hbound
  split at hbound
  · cases hbound
  · rename_i hvalid
    rw [not_or, not_not] at hvalid
    refine ⟨foundData_of_mapM (fun _ _ hroot => boundDataRoot_eq_ok hroot) hbound, hvalid.1, ?_⟩
    intro root hroot
    by_contra hforeign
    exact hvalid.2 (List.any_eq_true.mpr ⟨root, hroot, decide_eq_true hforeign⟩)

theorem candidates_nodup : dataCandidates.Nodup := by decide

theorem candidates_short : ∀ path ∈ dataCandidates, path.length ≤ 3 := by decide

theorem FoundData.path_mem {trees : Trees} {paths : List RootPath} {roots : List OwnedRoot}
    (hdata : FoundData checks trees paths roots) {path : RootPath} :
    path ∈ roots.map OwnedRoot.path ↔ path ∈ paths ∧ (trees path).isSome = true := by
  rw [hdata.names, List.mem_filter]

theorem FoundData.nodup {trees : Trees} {paths : List RootPath} {roots : List OwnedRoot}
    (hdata : FoundData checks trees paths roots) (hpaths : paths.Nodup) :
    (roots.map OwnedRoot.path).Nodup := by
  rw [hdata.names]
  exact hpaths.filter _

theorem purgePlan_sound {config : Bytes} {roots bound : List OwnedRoot} {trees : Trees}
    {plan : ExecutionPlan} (hbound : validateBoundDataRoots checks order bound trees = .ok roots)
    (hplan : purgePlan config roots bound = some plan) : plan.Sound true trees := by
  obtain ⟨hdata, hnodup, hcandidates⟩ := validateBoundDataRoots_eq_ok hbound
  unfold purgePlan at hplan
  split at hplan
  · cases hplan
  · cases hplan
    refine ⟨⟨hdata.present, ?_⟩, rfl, hnodup, hcandidates, ?_⟩
    · exact hdata.nodup (order.perm.nodup_iff.mpr candidates_nodup)
    · intro _ path hpath hfound
      exact hdata.path_mem.mpr ⟨order.perm.mem_iff.mpr hpath, hfound⟩

theorem plannedCacheGenerations_eq_ok {receipt : InstallReceipt} {trees : Trees}
    {roots : List OwnedRoot} (hplanned : plannedCacheGenerations checks receipt trees = .ok roots) :
    receipt.cachePath.dropLast = cacheParent ∧
      roots = [⟨receipt.cachePath, receipt.cacheIdentity⟩] ∧
      ∃ found, trees receipt.cachePath = some found ∧ found.identity = receipt.cacheIdentity ∧
        found.Safe := by
  unfold plannedCacheGenerations at hplanned
  split at hplanned
  · cases hplanned
  · rename_i hparent
    cases hcache : checks.cache receipt trees with
    | error error =>
      rw [hcache] at hplanned
      cases hplanned
    | ok done =>
      rw [hcache] at hplanned
      cases hplanned
      exact ⟨not_ne_iff.mp hparent, rfl, checks.cache_sound receipt trees hcache⟩

theorem plannedRuntimeRoots_eq_ok {receipt : InstallReceipt} {trees : Trees}
    {roots : List OwnedRoot} (hplanned : plannedRuntimeRoots checks receipt trees = .ok roots) :
    receipt.runtimePath.dropLast.dropLast = dataParent ∧
      roots = [⟨receipt.runtimePath, receipt.runtimeIdentity⟩] ∧
      ∃ found, trees receipt.runtimePath = some found ∧
        found.identity = receipt.runtimeIdentity ∧ found.Safe := by
  unfold plannedRuntimeRoots at hplanned
  split at hplanned
  · cases hplanned
  · rename_i hparent
    cases hruntime : checks.runtime receipt trees with
    | error error =>
      rw [hruntime] at hplanned
      cases hplanned
    | ok done =>
      rw [hruntime] at hplanned
      cases hplanned
      exact ⟨not_ne_iff.mp hparent, rfl, checks.runtime_sound receipt trees hruntime⟩

/-- A path below the parent of the generations is longer than a data root's. -/
theorem length_of_cacheParent {path : RootPath} (hparent : path.dropLast = cacheParent) :
    path.length = 5 := by
  have hlength := congrArg List.length hparent
  rw [List.length_dropLast] at hlength
  have hfour : cacheParent.length = 4 := rfl
  omega

theorem length_of_dataParent {path : RootPath} (hparent : path.dropLast.dropLast = dataParent) :
    path.length = 4 := by
  have hlength := congrArg List.length hparent
  rw [List.length_dropLast, List.length_dropLast] at hlength
  have htwo : dataParent.length = 2 := rfl
  omega

theorem planWithReceipt_sound {config : Bytes} {receipt : InstallReceipt} {disk last : Disk Digest}
    {plan : ExecutionPlan}
    (hplan : planWithReceipt checks purge config receipt .undisturbed disk =
      .returned (some plan) last) : plan.Sound purge disk.tree := by
  obtain ⟨caches, hlook, hplan⟩ := Reads.look.bind_returned hplan
  obtain ⟨hcaches, -⟩ := look_undisturbed_returned.mp hlook
  obtain ⟨runtimes, hlook, hplan⟩ := Reads.look.bind_returned hplan
  obtain ⟨hruntimes, -⟩ := look_undisturbed_returned.mp hlook
  obtain ⟨dataRoots, hlook, hplan⟩ := Reads.look.bind_returned hplan
  obtain ⟨hdata, -⟩ := look_undisturbed_returned.mp hlook
  obtain ⟨replacement, -, hplan⟩ := (liftExcept_reads _).bind_returned hplan
  obtain ⟨hplan, -⟩ := pure_returned.mp hplan
  cases hplan
  obtain ⟨hcacheParent, rfl, hcache⟩ := plannedCacheGenerations_eq_ok hcaches
  have hdata := plannedDataRoots_eq_ok hdata
  have hnodup := hdata.nodup candidates_nodup
  have hcandidate : ∀ root ∈ dataRoots, root.path ∈ dataCandidates := fun root hroot =>
    (hdata.path_mem.mp (List.mem_map_of_mem hroot)).1
  have hshort : ∀ root ∈ dataRoots, root.path.length ≤ 3 := fun root hroot =>
    candidates_short _ (hcandidate root hroot)
  have hcacheLength := length_of_cacheParent hcacheParent
  cases purge with
  | true =>
    cases hruntimes
    refine ⟨⟨?_, ?_⟩, rfl, hnodup, hcandidate, ?_⟩
    · intro root hroot
      rcases List.mem_cons.mp hroot with rfl | hroot
      · exact hcache
      · exact hdata.present root hroot
    · refine List.nodup_cons.mpr ⟨?_, hnodup⟩
      intro hmem
      obtain ⟨root, hroot, hsame⟩ := List.mem_map.mp hmem
      have hle := hshort root hroot
      rw [hsame] at hle
      simp only at hle
      omega
    · intro _ path hpath hfound
      exact List.mem_cons_of_mem _ (hdata.path_mem.mpr ⟨hpath, hfound⟩)
  | false =>
    obtain ⟨hruntimeParent, rfl, hruntime⟩ := plannedRuntimeRoots_eq_ok hruntimes
    have hruntimeLength := length_of_dataParent hruntimeParent
    refine ⟨⟨?_, ?_⟩, rfl, hnodup, hcandidate, fun htrue => nomatch htrue⟩
    · intro root hroot
      rcases List.mem_cons.mp hroot with rfl | hroot
      · exact hcache
      · rw [List.mem_singleton.mp hroot]
        exact hruntime
    · refine List.nodup_cons.mpr ⟨?_, List.nodup_singleton _⟩
      intro hmem
      have hsame := congrArg List.length (List.mem_singleton.mp hmem)
      simp only at hsame
      omega

theorem planWithoutReceipt_sound {config : Bytes} {reason : String} {disk last : Disk Digest}
    {plan : ExecutionPlan}
    (hplan : planWithoutReceipt checks order sourceRoot purge config reason .undisturbed disk =
      .returned (some plan) last) : plan.Sound purge disk.tree := by
  obtain ⟨completion, -, hplan⟩ := Reads.look.bind_returned hplan
  cases completion with
  | some completion =>
    simp only at hplan
    split at hplan
    · exact absurd hplan not_raise_returned
    split at hplan
    · rename_i hpurge
      obtain ⟨roots, hlook, hpurged⟩ := DisturbedRuns.map_returned.mp hplan
      rw [hpurge]
      obtain ⟨hbound, -⟩ := look_undisturbed_returned.mp hlook
      exact purgePlan_sound hbound hpurged
    · cases (pure_returned.mp hplan).1
  | none =>
    simp only at hplan
    split at hplan
    · exact absurd hplan not_raise_returned
    obtain ⟨present, -, hplan⟩ := Reads.look.bind_returned hplan
    split at hplan
    · exact absurd hplan not_raise_returned
    obtain ⟨targets, -, hplan⟩ := Reads.look.bind_returned hplan
    split at hplan
    · exact absurd hplan not_raise_returned
    · cases (pure_returned.mp hplan).1

theorem planUninstall_sound {config : Bytes} {disk : Disk Digest} {plan : ExecutionPlan}
    (hplan : planUninstall checks order sourceRoot purge config .undisturbed disk =
      .returned (some plan) disk) : plan.Sound purge disk.tree := by
  obtain ⟨found, -, hplan⟩ := tryInstallReceipt_reads.bind_returned hplan
  cases found with
  | ok receipt => exact planWithReceipt_sound hplan
  | error reason => exact planWithoutReceipt_sound hplan

/-! ### Another process -/

/-- Where one process finds its data roots bound, another finds them bound in its order. -/
theorem validateBoundDataRoots_perm (other : SetOrder) {bound roots : List OwnedRoot}
    {trees : Trees} (hbound : validateBoundDataRoots checks order bound trees = .ok roots) :
    ∃ found, validateBoundDataRoots checks other bound trees = .ok found ∧ found.Perm roots := by
  unfold validateBoundDataRoots at hbound ⊢
  split at hbound
  · cases hbound
  · rename_i hvalid
    rw [if_neg hvalid]
    exact Traversal.mapM_perm ((other.perm.trans order.perm.symm).filter _) hbound

theorem planWithoutReceipt_alike (other : SetOrder) {config : Bytes} {reason : String}
    {disk last : Disk Digest} {plan : ExecutionPlan}
    (hplan : planWithoutReceipt checks order sourceRoot purge config reason .undisturbed disk =
      .returned (some plan) last) :
    ∃ found, planWithoutReceipt checks other sourceRoot purge config reason .undisturbed disk =
      .returned (some found) last ∧ plan.Alike found := by
  obtain ⟨completion, hlook, hplan⟩ := Reads.look.bind_returned hplan
  cases completion with
  | some completion =>
    simp only at hplan
    split at hplan
    · exact absurd hplan not_raise_returned
    rename_i hreason
    split at hplan
    · rename_i hpurge
      obtain ⟨roots, hroots, hpurged⟩ := DisturbedRuns.map_returned.mp hplan
      obtain ⟨hbound, hlast⟩ := look_undisturbed_returned.mp hroots
      obtain ⟨found, hfound, hperm⟩ := validateBoundDataRoots_perm other hbound
      unfold purgePlan at hpurged
      split at hpurged
      · cases hpurged
      rename_i hsome
      cases hpurged
      refine ⟨⟨config, [], [], found, completion.dataRoots, true⟩, ?_, rfl, hperm⟩
      refine bind_returned.mpr ⟨_, disk, hlook, ?_⟩
      simp only [if_neg hreason, if_pos hpurge]
      refine DisturbedRuns.map_returned.mpr
        ⟨found, look_undisturbed_returned.mpr ⟨hfound, hlast⟩, ?_⟩
      exact if_neg fun hnone => hsome (List.Perm.nil_eq (hnone ▸ hperm)).symm
    · cases (pure_returned.mp hplan).1
  | none => exact ⟨plan, bind_returned.mpr ⟨_, disk, hlook, hplan⟩, rfl, .refl _⟩

/-- Two processes plan the same, but for the order of the data roots. -/
theorem planUninstall_alike (other : SetOrder) {config : Bytes} {disk last : Disk Digest}
    {plan : ExecutionPlan}
    (hplan : planUninstall checks order sourceRoot purge config .undisturbed disk =
      .returned (some plan) last) :
    ∃ found, planUninstall checks other sourceRoot purge config .undisturbed disk =
      .returned (some found) last ∧ plan.Alike found := by
  obtain ⟨found, hfound, hplan⟩ := tryInstallReceipt_reads.bind_returned hplan
  cases found with
  | ok receipt => exact ⟨plan, bind_returned.mpr ⟨_, disk, hfound, hplan⟩, rfl, .refl _⟩
  | error reason =>
    obtain ⟨planned, hplanned, halike⟩ := planWithoutReceipt_alike other hplan
    exact ⟨planned, bind_returned.mpr ⟨_, disk, hfound, hplanned⟩, halike⟩

/-! ### Nothing left to do -/

variable {plan : ExecutionPlan} {start disk : Disk Digest}

/-- A purge has left no data root. -/
theorem Uninstalled.no_data (hsound : plan.Sound true start.tree)
    (hdisk : Uninstalled sourceRoot plan start disk) {path : RootPath}
    (hpath : path ∈ dataCandidates) : disk.tree path = none := by
  by_cases htarget : path ∈ plan.targets.map OwnedRoot.path
  · obtain ⟨root, hroot, rfl⟩ := List.mem_map.mp htarget
    exact hdisk.removed root hroot
  · rw [hdisk.others path htarget, ← Option.not_isSome_iff_eq_none]
    exact fun hfound => htarget (hsound.purged rfl path hpath hfound)

theorem validateBoundDataRoots_nil {bound : List OwnedRoot} {trees : Trees}
    (hnodup : (bound.map OwnedRoot.path).Nodup) (hbound : ∀ root ∈ bound, root.path ∈ dataCandidates)
    (hnone : ∀ path ∈ dataCandidates, trees path = none) :
    validateBoundDataRoots checks order bound trees = .ok [] := by
  have hany : ¬ bound.any (fun root => root.path ∉ dataCandidates) = true := by
    intro hforeign
    obtain ⟨root, hroot, hnot⟩ := List.any_eq_true.mp hforeign
    exact of_decide_eq_true hnot (hbound root hroot)
  have hempty : (order.paths.filter fun path => (trees path).isSome) = [] := by
    rw [List.filter_eq_nil_iff]
    intro path hpath
    rw [hnone path (order.perm.mem_iff.mp hpath)]
    decide
  unfold validateBoundDataRoots
  rw [if_neg (not_or.mpr ⟨not_not.mpr hnodup, hany⟩), hempty]
  rfl

theorem tryInstallReceipt_gone (hreceipt : disk.receipt = none) :
    tryInstallReceipt checks sourceRoot .undisturbed disk =
      .returned (.error reinstallRequired) disk := by
  have hload : loadInstallReceipt checks sourceRoot disk = .error (.install reinstallRequired) := by
    unfold loadInstallReceipt
    rw [hreceipt]
  refine attempt_returned.mpr (Or.inr ⟨.install reinstallRequired, disk, ?_, rfl⟩)
  change (Run.look _ _ >>= _) .undisturbed disk = _
  rw [bind_run, Run.look, operation_run (Disturbance.undisturbed_calm _), hload]
  rfl

theorem planUninstall_uninstalled (hsound : plan.Sound purge start.tree)
    (hdisk : Uninstalled sourceRoot plan start disk) (config : Bytes) :
    planUninstall checks order sourceRoot purge config .undisturbed disk = .returned none disk := by
  have hload : loadUninstallCompletion sourceRoot disk =
      .ok (some (plan.completion sourceRoot)) := by
    unfold loadUninstallCompletion
    rw [hdisk.completion]
    exact if_neg (not_ne_iff.mpr rfl)
  refine bind_returned.mpr ⟨_, disk, tryInstallReceipt_gone hdisk.receipt, ?_⟩
  refine bind_returned.mpr ⟨_, disk, look_undisturbed_returned.mpr ⟨hload, rfl⟩, ?_⟩
  simp only [ne_eq, not_true_eq_false, if_false]
  cases purge with
  | false => rfl
  | true =>
    refine DisturbedRuns.map_returned.mpr ⟨[], look_undisturbed_returned.mpr ⟨?_, rfl⟩, rfl⟩
    exact validateBoundDataRoots_nil hsound.bound hsound.candidates fun path hpath =>
      hdisk.no_data hsound hpath

/-! ### Runs that may die -/

variable {weather : Disturbance Spot (Disk Digest) UninstallError}
  {raised : UninstallError → Disk Digest → Prop}

theorem loadPending_dying {inv crashed : Disk Digest → Prop}
    {found : Option (PendingUninstall Digest)} (hdies : weather.OnlyDies)
    (hcrashed : ∀ disk, inv disk → crashed disk)
    (hpending : ∀ disk, inv disk → disk.pending = found)
    (hformed : ∀ pending, found = some pending → ∀ root ∈ pending.roots, root.wellFormed = true) :
    Triple weather inv (loadPending (.read .pending))
      ⟨fun loaded disk => loaded = found ∧ inv disk, raised, weather.Dying crashed⟩ := by
  refine Triple.bind_known found inv (Triple.look_dying hdies hcrashed fun disk hdisk => ?_) ?_
  · rw [hpending disk hdisk]
  · cases found with
    | none => exact Triple.pure fun disk hdisk => ⟨rfl, hdisk⟩
    | some pending =>
      have hall : pending.roots.all QuarantinedRoot.wellFormed = true :=
        List.all_eq_true.mpr (hformed pending rfl)
      refine Triple.ite (fun _ => ?_) fun hnot => absurd hall hnot
      exact Triple.pure fun disk hdisk => ⟨rfl, hdisk⟩

variable [DecidableEq Digest] {sha256 : Bytes → Digest} {token : ℕ → String}

/-- An uninstall that starts anew, of a plan or of nothing. -/
theorem freshUninstall_start (hdies : weather.OnlyDies) (hfresh : plan.Fresh token start.tree)
    (hremovals : start.removals = [])
    (hplan : planUninstall checks order sourceRoot purge start.config .undisturbed start =
      .returned (some plan) start) :
    Triple weather (· = start)
      (freshUninstall checks order sha256 sourceRoot token purge start.config)
      ⟨fun _ => Uninstalled sourceRoot plan start, raised,
        weather.Dying (Recoverable sha256 sourceRoot plan start)⟩ := by
  refine Triple.bind_known (some plan) (· = start)
    ((planUninstall_reads _).triple hdies hplan .unstarted) ?_
  exact executePlan_dying hdies (planUninstall_sound hplan).rooted hfresh hremovals

theorem freshUninstall_uninstalled (hdies : weather.OnlyDies)
    (hsound : plan.Sound purge start.tree) (hdisk : Uninstalled sourceRoot plan start disk)
    (config : Bytes) :
    Triple weather (· = disk) (freshUninstall checks order sha256 sourceRoot token purge config)
      ⟨fun _ => Uninstalled sourceRoot plan start, raised,
        weather.Dying (Recoverable sha256 sourceRoot plan start)⟩ := by
  refine Triple.bind_known none (· = disk)
    ((planUninstall_reads _).triple hdies (planUninstall_uninstalled hsound hdisk config)
      (.uninstalled hdisk)) ?_
  refine Triple.weaken (preserved_dying hdies) ?_ (fun _ _ hpost => hpost)
    (fun _ _ hpost => hpost) fun _ hpost => hpost
  rintro _ rfl
  exact hdisk

theorem currentPhase_prepared (roots : List QuarantinedRoot) :
    currentPhase sha256 (plan.pending sha256 start.config roots .prepared) start.config =
      .ok .before := by
  unfold currentPhase
  split
  · rfl
  · exact if_pos rfl

theorem currentPhase_published (roots : List QuarantinedRoot) {phase : Phase}
    (hcollision : sha256 start.config = sha256 plan.replacement →
      start.config = plan.replacement)
    (hphase : phase = .prepared → start.config ≠ plan.replacement) :
    currentPhase sha256 (plan.pending sha256 start.config roots phase) plan.replacement =
      .ok .after := by
  unfold currentPhase
  by_cases hsame : sha256 start.config = sha256 plan.replacement
  · have hcommitted : phase = .committed := by
      cases phase with
      | committed => rfl
      | prepared => exact absurd (hcollision hsame) (hphase rfl)
    rw [if_pos ⟨hsame, rfl⟩]
    exact if_pos hcommitted
  · rw [if_neg fun hboth => hsame hboth.1]
    exact (if_neg (Ne.symm hsame)).trans (if_pos rfl)

/-- One run, from whatever the runs of its plan before it left. -/
theorem uninstall_planned (hdies : weather.OnlyDies) (hfresh : plan.Fresh token start.tree)
    (hpending : start.pending = none) (hremovals : start.removals = [])
    (hplan : planUninstall checks order sourceRoot purge start.config .undisturbed start =
      .returned (some plan) start)
    (hcollision : sha256 start.config = sha256 plan.replacement →
      start.config = plan.replacement) :
    Triple weather (Recoverable sha256 sourceRoot plan start)
      (uninstall checks order sha256 sourceRoot token purge)
      ⟨fun _ => Uninstalled sourceRoot plan start, raised,
        weather.Dying (Recoverable sha256 sourceRoot plan start)⟩ := by
  have hsound := planUninstall_sound hplan
  intro disk hdisk
  cases hdisk with
  | unstarted =>
    refine (?_ : Triple weather (· = start) _ _) start rfl
    refine Triple.bind_known start.config (· = start) (Triple.look_dying hdies ?_ ?_) ?_
    · rintro _ rfl
      exact .unstarted
    · rintro _ rfl
      rfl
    refine Triple.bind_known none (· = start) (loadPending_dying hdies ?_ ?_ ?_) ?_
    · rintro _ rfl
      exact .unstarted
    · rintro _ rfl
      exact hpending
    · exact fun _ hsome => nomatch hsome
    exact freshUninstall_start hdies hfresh hremovals hplan
  | @prepared roots _ hroots hdisk =>
    have hprepared : ∀ disk, (preparedDisk sha256 plan start roots).Keeping start.tree roots disk →
        Recoverable sha256 sourceRoot plan start disk := fun disk hdisk => .prepared hroots hdisk
    refine Triple.bind_known start.config _ (Triple.look_dying hdies hprepared ?_) ?_ disk hdisk
    · rintro disk ⟨tree, -, rfl⟩
      rfl
    refine Triple.bind_known (some (plan.pending sha256 start.config roots .prepared)) _
      (loadPending_dying hdies hprepared ?_ ?_) ?_
    · rintro disk ⟨tree, -, rfl⟩
      rfl
    · rintro pending hsome
      cases hsome
      exact hroots.wellFormed
    simp only [currentPhase_prepared, liftExcept, pure_then]
    refine takeBack_dying hdies hpending hroots ?_
    refine Triple.bind_known start.config (· = start) (Triple.look_dying hdies ?_ ?_) ?_
    · rintro _ rfl
      exact .unstarted
    · rintro _ rfl
      rfl
    exact freshUninstall_start hdies hfresh hremovals hplan
  | @published roots phase completion receipt _ hroots hnames hphase hdisk =>
    have hpublished : ∀ disk,
        (publishedDisk sha256 plan start roots phase completion receipt).Clearing start.tree roots
          disk → Recoverable sha256 sourceRoot plan start disk :=
      fun disk hdisk => .published hroots hnames hphase hdisk
    refine Triple.bind_known plan.replacement _ (Triple.look_dying hdies hpublished ?_) ?_ disk
      hdisk
    · rintro disk ⟨tree, removals, -, -, rfl⟩
      rfl
    refine Triple.bind_known (some (plan.pending sha256 start.config roots phase)) _
      (loadPending_dying hdies hpublished ?_ ?_) ?_
    · rintro disk ⟨tree, removals, -, -, rfl⟩
      rfl
    · rintro pending hsome
      cases hsome
      exact hroots.wellFormed
    simp only [currentPhase_published roots hcollision hphase, liftExcept, pure_then]
    exact finishPending_dying hdies hroots hnames hphase
  | uninstalled huninstalled =>
    have hleft : ∀ other : Disk Digest, other = disk →
        Recoverable sha256 sourceRoot plan start other := by
      rintro _ rfl
      exact .uninstalled huninstalled
    refine (?_ : Triple weather (· = disk) _ _) disk rfl
    refine Triple.bind_known disk.config (· = disk) (Triple.look_dying hdies hleft ?_) ?_
    · rintro _ rfl
      rfl
    refine Triple.bind_known none (· = disk) (loadPending_dying hdies hleft ?_ ?_) ?_
    · rintro _ rfl
      exact huninstalled.pending
    · exact fun _ hsome => nomatch hsome
    exact freshUninstall_uninstalled hdies hsound huninstalled _

/-- The random names of a run are not in use when it plans. -/
def FreshNames (checks : Checks) (order : SetOrder) (sourceRoot : String) (purge : Bool)
    (start : Disk Digest) (token : ℕ → String) : Prop :=
  ∀ plan, planUninstall checks order sourceRoot purge start.config .undisturbed start =
    .returned (some plan) start → plan.Fresh token start.tree

/-- One run of any process, from whatever the runs before it left. -/
theorem uninstall_dying {other : SetOrder} (hdies : weather.OnlyDies)
    (hfresh : FreshNames checks other sourceRoot purge start token)
    (hpending : start.pending = none) (hremovals : start.removals = [])
    (hplan : planUninstall checks order sourceRoot purge start.config .undisturbed start =
      .returned (some plan) start)
    (hcollision : sha256 start.config = sha256 plan.replacement →
      start.config = plan.replacement) :
    Triple weather (Recoverable sha256 sourceRoot plan start)
      (uninstall checks other sha256 sourceRoot token purge)
      ⟨fun _ => Uninstalled sourceRoot plan start, raised,
        weather.Dying (Recoverable sha256 sourceRoot plan start)⟩ := by
  -- The plan of this process lists the same roots, so its runs leave the same states.
  obtain ⟨found, hfound, halike⟩ := planUninstall_alike other hplan
  rw [← halike.replacement_eq] at hcollision
  refine Triple.weaken
    (uninstall_planned hdies (hfresh found hfound) hpending hremovals hfound hcollision)
    (fun _ hdisk => halike.symm.recoverable hdisk) (fun _ _ hdisk => halike.uninstalled hdisk)
    (fun _ _ hraised => hraised) fun _ hdied => ?_
  exact ⟨halike.recoverable hdied.1, hdied.2⟩

/-! ### Any number of crashes -/

/-- A run of some process that died, with random names that were not in use. -/
def DiedRun (checks : Checks) (sha256 : Bytes → Digest) (sourceRoot : String) (purge : Bool)
    (start before after : Disk Digest) : Prop :=
  ∃ (weather : Disturbance Spot (Disk Digest) UninstallError) (order : SetOrder)
    (token : ℕ → String),
    weather.OnlyDies ∧ FreshNames checks order sourceRoot purge start token ∧
      uninstall checks order sha256 sourceRoot token purge weather before = .crashed after

theorem recoverable_of_crashes (hpending : start.pending = none) (hremovals : start.removals = [])
    (hplan : planUninstall checks order sourceRoot purge start.config .undisturbed start =
      .returned (some plan) start)
    (hcollision : sha256 start.config = sha256 plan.replacement →
      start.config = plan.replacement)
    (hcrashes : Relation.ReflTransGen (DiedRun checks sha256 sourceRoot purge start) start
      disk) : Recoverable sha256 sourceRoot plan start disk := by
  induction hcrashes with
  | refl => exact .unstarted
  | @tail before after _ hrun ih =>
    obtain ⟨weather, other, token, hdies, hfresh, hend⟩ := hrun
    have hmeets := (uninstall_dying hdies hfresh hpending hremovals hplan hcollision :
      Triple weather _ _ ⟨_, fun _ _ => False, _⟩) before ih
    rw [hend] at hmeets
    exact hmeets.1

/-- A run to which nothing happens carries the plan out. -/
theorem uninstall_undisturbed {other : SetOrder}
    (hfresh : FreshNames checks other sourceRoot purge start token)
    (hpending : start.pending = none) (hremovals : start.removals = [])
    (hplan : planUninstall checks order sourceRoot purge start.config .undisturbed start =
      .returned (some plan) start)
    (hcollision : sha256 start.config = sha256 plan.replacement →
      start.config = plan.replacement)
    (hdisk : Recoverable sha256 sourceRoot plan start disk) :
    ∃ receipt final, uninstall checks other sha256 sourceRoot token purge .undisturbed disk =
      .returned receipt final ∧ Uninstalled sourceRoot plan start final := by
  have hmeets := (uninstall_dying Disturbance.undisturbed_onlyDies hfresh hpending hremovals hplan
    hcollision : Triple .undisturbed _ _ ⟨_, fun _ _ => False, _⟩) disk hdisk
  revert hmeets
  cases uninstall checks other sha256 sourceRoot token purge .undisturbed disk with
  | returned receipt final => exact fun hfinal => ⟨receipt, final, rfl, hfinal⟩
  | raised error last => exact False.elim
  | crashed last => exact fun hdying => absurd hdying Disturbance.undisturbed_not_dying

/-- Whatever crashes came before, each in a process that met the candidate paths in its own
    order, every deletion so far was of a root the pending record named, and a run that is not
    interrupted ends where one from the start ends. -/
theorem uninstall_converges {other : SetOrder} (hpending : start.pending = none)
    (hremovals : start.removals = [])
    (hplan : planUninstall checks order sourceRoot purge start.config .undisturbed start =
      .returned (some plan) start)
    (hcollision : sha256 start.config = sha256 plan.replacement →
      start.config = plan.replacement)
    (hcrashes : Relation.ReflTransGen (DiedRun checks sha256 sourceRoot purge start) start
      disk) (hfresh : FreshNames checks other sourceRoot purge start token) :
    (∀ removal ∈ disk.removals, removal.Signed) ∧
      ∃ receipt final, uninstall checks other sha256 sourceRoot token purge .undisturbed disk =
          .returned receipt final ∧ Uninstalled sourceRoot plan start final ∧
        ∃ receipt' clean, uninstall checks other sha256 sourceRoot token purge .undisturbed start =
          .returned receipt' clean ∧ final = { clean with removals := final.removals } := by
  have hdisk := recoverable_of_crashes hpending hremovals hplan hcollision hcrashes
  obtain ⟨receipt, final, hrun, hfinal⟩ :=
    uninstall_undisturbed hfresh hpending hremovals hplan hcollision hdisk
  obtain ⟨receipt', clean, hclean, huninstalled⟩ :=
    uninstall_undisturbed hfresh hpending hremovals hplan hcollision
      (.unstarted : Recoverable sha256 sourceRoot plan start start)
  exact ⟨hdisk.signed hremovals, receipt, final, hrun, hfinal, receipt', clean, hclean,
    hfinal.same huninstalled⟩

/-! ### An installed plugin -/

instance (tree : Tree) : Decidable tree.Safe :=
  inferInstanceAs (Decidable (∀ entry ∈ tree.entries, entry ≠ .unsafeObject))

/-- There under its identity and safe to delete. -/
def seen (path : RootPath) (identity : CacheIdentity) (trees : Trees) :
    Except UninstallError Unit :=
  match trees path with
  | none => .error .os
  | some tree => if tree.identity = identity ∧ tree.Safe then .ok () else .error .os

theorem seen_sound {path : RootPath} {identity : CacheIdentity} {trees : Trees}
    (hseen : seen path identity trees = .ok ()) :
    ∃ tree, trees path = some tree ∧ tree.identity = identity ∧ tree.Safe := by
  unfold seen at hseen
  cases htree : trees path with
  | none =>
    rw [htree] at hseen
    cases hseen
  | some tree =>
    rw [htree] at hseen
    simp only at hseen
    split at hseen
    · rename_i hboth
      exact ⟨tree, rfl, hboth⟩
    · cases hseen

/-- Checks of roots that only look at what is deleted. -/
def sampleChecks : Checks where
  receipt _ _ := .ok ()
  cache receipt trees := seen receipt.cachePath receipt.cacheIdentity trees
  runtime receipt trees := seen receipt.runtimePath receipt.runtimeIdentity trees
  data path trees :=
    match trees path with
    | none => .error .os
    | some tree => if tree.Safe then .ok () else .error .os
  removal _ _ := .ok [35]
  hasTargets _ := .ok true
  cachePresent _ := .ok true
  cache_sound _ _ := seen_sound
  runtime_sound _ _ := seen_sound
  data_sound := by
    intro path trees hdata tree htree
    rw [htree] at hdata
    simp only at hdata
    split at hdata
    · assumption
    · cases hdata

def sampleOrder : SetOrder := ⟨dataCandidates, List.Perm.refl _⟩

def sampleCache : RootPath := cacheParent ++ ["1.0.0"]

def sampleRuntime : RootPath := dataParent ++ ["codex-must-work-simdorei", "runtime-1"]

/-- An installed plugin with a runtime. -/
def installedDisk : Disk Bytes where
  config := [35, 120]
  tree := fun path =>
    if path = sampleCache then some ⟨⟨1, 10⟩, [.regular, .directory]⟩
    else if path = sampleRuntime then some ⟨⟨1, 20⟩, [.regular]⟩
    else none
  pending := none
  completion := none
  receipt := some ⟨sampleCache, "1.0.0", ⟨1, 10⟩, "digest", "source", [], sampleRuntime,
    ⟨1, 20⟩, "runtime-1"⟩
  removals := []

def sampleNames (index : ℕ) : String := String.ofList (List.replicate index 'a')

def samplePlan : ExecutionPlan :=
  ⟨[35], [⟨sampleCache, ⟨1, 10⟩⟩], [⟨sampleRuntime, ⟨1, 20⟩⟩], [], [], false⟩

def diesAt (spot : Spot) : Disturbance Spot (Disk Bytes) UninstallError where
  before _ := id
  fault _ := none
  crash place := decide (place = spot)

/-- Between the two entries of the quarantined cache. -/
def midDeletion : Spot := .root .delete 0 (.entry 0)

theorem samplePlan_fresh : samplePlan.Fresh sampleNames installedDisk.tree := by
  constructor
  · decide +kernel
  · decide +kernel

theorem installedDisk_planned (order : SetOrder) :
    planUninstall sampleChecks order "source" false installedDisk.config .undisturbed
      installedDisk = .returned (some samplePlan) installedDisk := rfl

theorem sampleNames_fresh (order : SetOrder) :
    FreshNames sampleChecks order "source" false installedDisk sampleNames := by
  intro plan hplan
  rw [installedDisk_planned] at hplan
  cases hplan
  exact samplePlan_fresh

/-- The disk that dying between two deletions leaves. -/
def midDeletionDisk : Disk Bytes :=
  (uninstall sampleChecks sampleOrder id "source" sampleNames false (diesAt midDeletion)
    installedDisk).state

theorem uninstall_converges_installedDisk :
    (∀ removal ∈ midDeletionDisk.removals, removal.Signed) ∧
      ∃ receipt final, uninstall sampleChecks sampleOrder id "source" sampleNames false
          .undisturbed midDeletionDisk = .returned receipt final ∧
        Uninstalled "source" samplePlan installedDisk final ∧
        ∃ receipt' clean, uninstall sampleChecks sampleOrder id "source" sampleNames false
          .undisturbed installedDisk = .returned receipt' clean ∧
          final = { clean with removals := final.removals } :=
  uninstall_converges rfl rfl (installedDisk_planned sampleOrder) id (Relation.ReflTransGen.single
    ⟨diesAt midDeletion, sampleOrder, sampleNames, ⟨fun _ _ => rfl, fun _ => rfl⟩,
      sampleNames_fresh _, rfl⟩)
    (sampleNames_fresh _)

end CodexMustWork
