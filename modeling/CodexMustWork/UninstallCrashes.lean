import CodexMustWork.UninstallSteps

/-!
# Uninstalling and crashes

The process may die at any call of an uninstall, and of the uninstall that is tried
next, any number of times.  Whatever state that leaves, the record on disk says how
to go on: a prepared record is taken back, a committed one or a changed
configuration is finished.
-/

namespace CodexMustWork

open DisturbedRuns

section Recovery

variable {Digest : Type} {weather : Disturbance Spot (Disk Digest) UninstallError}
  {inv crashed : Disk Digest → Prop} {raised : UninstallError → Disk Digest → Prop}

/-! ### Records -/

theorem writeSignedRecord_dying {which : SignedRecord} {store : Disk Digest → Disk Digest}
    (after : Disk Digest → Prop) (hdies : weather.OnlyDies)
    (hbefore : ∀ disk, inv disk → crashed disk) (hafter : ∀ disk, after disk → crashed disk)
    (hstore : ∀ disk, inv disk → after (store disk)) :
    Triple weather inv (writeSignedRecord which store)
      ⟨fun _ => after, raised, weather.Dying crashed⟩ := by
  refine Triple.attempt_safe ?_
  refine Triple.bind_known () _ (check_dying hdies hbefore) ?_
  refine Triple.bind (Triple.act_dying hdies hbefore fun disk hdisk =>
    ⟨_, rfl, hstore disk hdisk⟩) fun _ => ?_
  refine Triple.weaken (check_dying hdies hafter) (fun _ hdisk => hdisk)
    (fun _ _ hpost => hpost.2) (fun _ _ hpost => hpost) fun _ hpost => hpost

theorem removeRecord_dying {which : RemovedRecord} {present : Disk Digest → Bool}
    {erase : Disk Digest → Disk Digest} (after : Disk Digest → Prop) (hdies : weather.OnlyDies)
    (hbefore : ∀ disk, inv disk → crashed disk) (hafter : ∀ disk, after disk → crashed disk)
    (hpresent : ∀ disk, inv disk → present disk = true → after (erase disk))
    (habsent : ∀ disk, inv disk → present disk = false → after disk) :
    Triple weather inv (removeRecord which present erase)
      ⟨fun _ => after, raised, weather.Dying crashed⟩ := by
  refine Triple.attempt_safe ?_
  refine Triple.bind (Triple.look_dying_sees hdies hbefore fun _ _ => ⟨_, rfl⟩) fun found => ?_
  cases found with
  | false =>
    refine Triple.ite (fun htrue => by cases htrue) fun _ => Triple.pure ?_
    rintro disk ⟨hfound, hdisk⟩
    exact habsent disk hdisk (Except.ok.inj hfound)
  | true =>
    refine Triple.ite (fun _ => ?_) fun hnot => absurd rfl hnot
    refine Triple.bind (Triple.act_dying hdies (fun disk hdisk => hbefore disk hdisk.2)
      fun disk hdisk => ⟨_, rfl, hpresent disk hdisk.2 (Except.ok.inj hdisk.1)⟩) fun _ => ?_
    refine Triple.weaken (check_dying hdies hafter) (fun _ hdisk => hdisk)
      (fun _ _ hpost => hpost.2) (fun _ _ hpost => hpost) fun _ hpost => hpost

/-! ### Quarantine names -/

/-- The quarantine of one target of a plan. -/
def quarantineFor (token : ℕ → String) (item : OwnedRoot × ℕ) : QuarantinedRoot :=
  ⟨item.1.path, quarantineName item.1.path (token item.2), item.1.identity⟩

def ExecutionPlan.quarantines (plan : ExecutionPlan) (token : ℕ → String) :
    List QuarantinedRoot :=
  plan.targets.zipIdx.map (quarantineFor token)

/-- Every root of the plan is there under its identity and can be deleted, and no two
    are at one path. -/
structure ExecutionPlan.Rooted (plan : ExecutionPlan) (trees : Trees) : Prop where
  present : ∀ root ∈ plan.targets, ∃ found, trees root.path = some found ∧
    found.identity = root.identity ∧ found.Safe
  distinct : (plan.targets.map OwnedRoot.path).Nodup

/-- The random names of a run are not in use. -/
structure ExecutionPlan.Fresh (plan : ExecutionPlan) (token : ℕ → String) (trees : Trees) :
    Prop where
  free : ∀ root ∈ plan.quarantines token, trees root.quarantine = none
  names : ((plan.quarantines token).map QuarantinedRoot.quarantine).Nodup

theorem quarantineFor_wellFormed (token : ℕ → String) (item : OwnedRoot × ℕ) :
    (quarantineFor token item).wellFormed = true := by
  simp [QuarantinedRoot.wellFormed, quarantineFor, quarantineName]

theorem quarantines_original (plan : ExecutionPlan) (token : ℕ → String) :
    (plan.quarantines token).map QuarantinedRoot.original = plan.targets.map OwnedRoot.path := by
  have hcomp : (QuarantinedRoot.original ∘ quarantineFor token) = OwnedRoot.path ∘ Prod.fst := rfl
  rw [ExecutionPlan.quarantines, List.map_map, hcomp, ← List.map_map, List.zipIdx_map_fst]

theorem quarantines_of_fresh {plan : ExecutionPlan} {token : ℕ → String} {trees : Trees}
    (hrooted : plan.Rooted trees) (hfresh : plan.Fresh token trees) :
    Quarantines trees (plan.quarantines token) := by
  refine ⟨?_, hfresh.free, ?_, hfresh.names, ?_⟩
  · intro root hroot
    obtain ⟨item, hitem, rfl⟩ := List.mem_map.mp hroot
    exact hrooted.present item.1 (List.fst_mem_of_mem_zipIdx hitem)
  · rw [quarantines_original]
    exact hrooted.distinct
  · intro root hroot
    obtain ⟨item, -, rfl⟩ := List.mem_map.mp hroot
    exact quarantineFor_wellFormed token item

theorem planQuarantines_dying {start : Disk Digest} {token : ℕ → String}
    (hdies : weather.OnlyDies) (hcrashed : crashed start) {items : List (OwnedRoot × ℕ)}
    (hpresent : ∀ item ∈ items, ∃ found, start.tree item.1.path = some found ∧
      found.identity = item.1.identity)
    (hfree : ∀ item ∈ items, start.tree (quarantineFor token item).quarantine = none) :
    Triple weather (· = start) (planQuarantines token items)
      ⟨fun planned disk => planned = items.map (quarantineFor token) ∧ disk = start, raised,
        weather.Dying crashed⟩ := by
  have hstart : ∀ disk, disk = start → crashed disk := fun disk hdisk => hdisk ▸ hcrashed
  induction items with
  | nil => exact Triple.pure fun disk hdisk => ⟨rfl, hdisk⟩
  | cons item rest ih =>
    obtain ⟨root, index⟩ := item
    have hrest := ih (fun other hother => hpresent other (List.mem_cons_of_mem _ hother))
      fun other hother => hfree other (List.mem_cons_of_mem _ hother)
    refine Triple.bind_known (quarantineFor token (root, index)) (· = start) ?_ ?_
    · refine Triple.attempt_safe ?_
      refine Triple.bind_known () _ (check_dying hdies hstart) ?_
      refine Triple.bind_known root.identity _ (identityAt_dying hdies hstart ?_) ?_
      · rintro disk rfl
        exact hpresent (root, index) List.mem_cons_self
      refine Triple.ite (fun hdifferent => absurd rfl hdifferent) fun _ => ?_
      refine Triple.bind_known false _ (pathTaken_dying hdies hstart ?_) ?_
      · rintro disk rfl
        exact hfree (root, index) List.mem_cons_self
      refine Triple.ite (fun htaken => by cases htaken) fun _ => ?_
      exact Triple.pure fun disk hdisk => ⟨rfl, hdisk⟩
    · refine Triple.bind_known (rest.map (quarantineFor token)) (· = start) hrest ?_
      exact Triple.pure fun disk hdisk => ⟨rfl, hdisk⟩

/-- With the roots in place and unused names every root is planned. -/
theorem planTargets_dying {plan : ExecutionPlan} {start : Disk Digest} {token : ℕ → String}
    (hdies : weather.OnlyDies) (hcrashed : crashed start) (hrooted : plan.Rooted start.tree)
    (hfresh : plan.Fresh token start.tree) :
    Triple weather (· = start) (planQuarantines token plan.targets.zipIdx)
      ⟨fun planned disk => planned = plan.quarantines token ∧ disk = start, raised,
        weather.Dying crashed⟩ := by
  refine planQuarantines_dying hdies hcrashed ?_ ?_
  · intro item hitem
    obtain ⟨found, hfound, hidentity, -⟩ :=
      hrooted.present item.1 (List.fst_mem_of_mem_zipIdx hitem)
    exact ⟨found, hfound, hidentity⟩
  · exact fun item hitem => hfresh.free _ (List.mem_map_of_mem hitem)

/-! ### States to go on from -/

variable {sha256 : Bytes → Digest} {sourceRoot : String}
  {plan : ExecutionPlan} {start : Disk Digest}

/-- The disk while a plan is prepared. -/
def preparedDisk (sha256 : Bytes → Digest) (plan : ExecutionPlan) (start : Disk Digest)
    (roots : List QuarantinedRoot) : Disk Digest :=
  { start with pending := some (plan.pending sha256 start.config roots .prepared) }

/-- The disk once the configuration is replaced. -/
def publishedDisk (sha256 : Bytes → Digest) (plan : ExecutionPlan) (start : Disk Digest)
    (roots : List QuarantinedRoot) (phase : Phase) (completion : Option UninstallCompletion)
    (receipt : Option InstallReceipt) : Disk Digest :=
  { start with
    config := plan.replacement
    pending := some (plan.pending sha256 start.config roots phase)
    completion := completion
    receipt := receipt }

/-- The completion record of a plan. -/
def ExecutionPlan.completion (plan : ExecutionPlan) (sourceRoot : String) : UninstallCompletion :=
  ⟨sourceRoot, plan.completionDataRoots, plan.purgeData⟩

/-- The plan is carried out. -/
structure Uninstalled (sourceRoot : String) (plan : ExecutionPlan) (start disk : Disk Digest) :
    Prop where
  config : disk.config = plan.replacement
  pending : disk.pending = none
  receipt : disk.receipt = none
  completion : disk.completion = some (plan.completion sourceRoot)
  removed : ∀ root ∈ plan.targets, disk.tree root.path = none
  others : ∀ path, path ∉ plan.targets.map OwnedRoot.path → disk.tree path = start.tree path
  signed : ∀ removal ∈ disk.removals, removal.Signed

/-- What runs that died can leave of a plan. -/
inductive Recoverable (sha256 : Bytes → Digest) (sourceRoot : String) (plan : ExecutionPlan)
    (start : Disk Digest) : Disk Digest → Prop where
  | unstarted : Recoverable sha256 sourceRoot plan start start
  | prepared {roots : List QuarantinedRoot} {disk : Disk Digest}
      (hroots : Quarantines start.tree roots)
      (hdisk : (preparedDisk sha256 plan start roots).Keeping start.tree roots disk) :
      Recoverable sha256 sourceRoot plan start disk
  | published {roots : List QuarantinedRoot} {phase : Phase}
      {completion : Option UninstallCompletion} {receipt : Option InstallReceipt}
      {disk : Disk Digest} (hroots : Quarantines start.tree roots)
      (hnames : (roots.map QuarantinedRoot.original).Perm (plan.targets.map OwnedRoot.path))
      (hphase : phase = .prepared → start.config ≠ plan.replacement)
      (hdisk : (publishedDisk sha256 plan start roots phase completion receipt).Clearing
        start.tree roots disk) : Recoverable sha256 sourceRoot plan start disk
  | uninstalled {disk : Disk Digest} (hdisk : Uninstalled sourceRoot plan start disk) :
      Recoverable sha256 sourceRoot plan start disk

/-! ### Plans that differ in an order -/

/-- Plans that list the same data roots in two orders. -/
structure ExecutionPlan.Alike (plan other : ExecutionPlan) : Prop where
  same : other = { plan with dataRoots := other.dataRoots }
  perm : other.dataRoots.Perm plan.dataRoots

namespace ExecutionPlan.Alike

variable {other : ExecutionPlan} (halike : plan.Alike other)
include halike

theorem symm : other.Alike plan := by
  refine ⟨?_, halike.perm.symm⟩
  rw [halike.same]

theorem targets : other.targets.Perm plan.targets := by
  rw [halike.same]
  exact halike.perm.append_left _

theorem replacement_eq : other.replacement = plan.replacement := by
  rw [halike.same]

theorem pending_eq (before : Bytes) (roots : List QuarantinedRoot) (phase : Phase) :
    other.pending sha256 before roots phase = plan.pending sha256 before roots phase := by
  unfold ExecutionPlan.pending
  rw [halike.perm.length_eq, halike.same]

theorem completion_eq : other.completion sourceRoot = plan.completion sourceRoot := by
  rw [halike.same]
  rfl

theorem preparedDisk_eq (roots : List QuarantinedRoot) :
    preparedDisk sha256 other start roots = preparedDisk sha256 plan start roots := by
  unfold preparedDisk
  rw [halike.pending_eq]

theorem publishedDisk_eq (roots : List QuarantinedRoot) (phase : Phase)
    (completion : Option UninstallCompletion) (receipt : Option InstallReceipt) :
    publishedDisk sha256 other start roots phase completion receipt =
      publishedDisk sha256 plan start roots phase completion receipt := by
  unfold publishedDisk
  rw [halike.pending_eq, halike.replacement_eq]

theorem uninstalled {disk : Disk Digest} (hdisk : Uninstalled sourceRoot other start disk) :
    Uninstalled sourceRoot plan start disk where
  config := hdisk.config.trans halike.replacement_eq
  pending := hdisk.pending
  receipt := hdisk.receipt
  completion := by rw [hdisk.completion, halike.completion_eq]
  removed := fun root hroot => hdisk.removed root (halike.targets.mem_iff.mpr hroot)
  others := fun path hpath => hdisk.others path fun hmem =>
    hpath ((halike.targets.map OwnedRoot.path).mem_iff.mp hmem)
  signed := hdisk.signed

/-- What runs of one plan can leave, runs of the other can leave. -/
theorem recoverable {disk : Disk Digest} (hdisk : Recoverable sha256 sourceRoot other start disk) :
    Recoverable sha256 sourceRoot plan start disk := by
  cases hdisk with
  | unstarted => exact .unstarted
  | prepared hroots hkeeping =>
    rw [halike.preparedDisk_eq] at hkeeping
    exact .prepared hroots hkeeping
  | published hroots hnames hphase hclearing =>
    rw [halike.publishedDisk_eq] at hclearing
    rw [halike.replacement_eq] at hphase
    exact .published hroots (hnames.trans (halike.targets.map OwnedRoot.path)) hphase hclearing
  | uninstalled huninstalled => exact .uninstalled (halike.uninstalled huninstalled)

end ExecutionPlan.Alike

theorem Disk.WithSigned.signed {base disk : Disk Digest} {pred : Trees → Prop}
    (hdisk : base.WithSigned pred disk) : ∀ removal ∈ disk.removals, removal.Signed := by
  obtain ⟨tree, removals, -, hsigned, rfl⟩ := hdisk
  exact hsigned

theorem Recoverable.signed {disk : Disk Digest} (hremovals : start.removals = [])
    (hdisk : Recoverable sha256 sourceRoot plan start disk) :
    ∀ removal ∈ disk.removals, removal.Signed := by
  cases hdisk with
  | unstarted =>
    rw [hremovals]
    exact fun removal hremoval => (List.not_mem_nil hremoval).elim
  | prepared hroots hkeeping =>
    obtain ⟨tree, -, rfl⟩ := hkeeping
    change ∀ removal ∈ start.removals, removal.Signed
    rw [hremovals]
    exact fun removal hremoval => (List.not_mem_nil hremoval).elim
  | published hroots hnames hphase hclearing => exact hclearing.signed
  | uninstalled huninstalled => exact huninstalled.signed

/-- Two disks on which the plan is carried out differ in the deletions it took at most. -/
theorem Uninstalled.same {disk other : Disk Digest}
    (hdisk : Uninstalled sourceRoot plan start disk)
    (hother : Uninstalled sourceRoot plan start other) :
    disk = { other with removals := disk.removals } := by
  have htree : disk.tree = other.tree := by
    funext path
    by_cases htarget : path ∈ plan.targets.map OwnedRoot.path
    · obtain ⟨root, hroot, rfl⟩ := List.mem_map.mp htarget
      rw [hdisk.removed root hroot, hother.removed root hroot]
    · rw [hdisk.others path htarget, hother.others path htarget]
  have hconfig := hdisk.config.trans hother.config.symm
  have hpending := hdisk.pending.trans hother.pending.symm
  have hcompletion := hdisk.completion.trans hother.completion.symm
  have hreceipt := hdisk.receipt.trans hother.receipt.symm
  obtain ⟨config, tree, pending, completion, receipt, removals⟩ := disk
  simp only at htree hconfig hpending hcompletion hreceipt
  rw [htree, hconfig, hpending, hcompletion, hreceipt]

/-! ### Executing a plan -/

variable {roots : List QuarantinedRoot} {phase : Phase} {completion : Option UninstallCompletion}
  {receipt : Option InstallReceipt}

/-- With every root deleted, the disk is that of the finished uninstall but for the
    records. -/
theorem Disk.Deleting.removed {base disk : Disk Digest} {todo : QuarantinedRoot → Trees → Prop}
    (hroots : Quarantines start.tree roots)
    (hnames : (roots.map QuarantinedRoot.original).Perm (plan.targets.map OwnedRoot.path))
    (hdisk : base.Deleting start.tree roots [] todo disk) :
    (∀ root ∈ plan.targets, disk.tree root.path = none) ∧
      ∀ path, path ∉ plan.targets.map OwnedRoot.path → disk.tree path = start.tree path := by
  obtain ⟨tree, removals, hlayout, -, rfl⟩ := hdisk
  constructor
  · intro target htarget
    have hpath : target.path ∈ roots.map QuarantinedRoot.original := by
      rw [hnames.mem_iff]
      exact List.mem_map_of_mem htarget
    obtain ⟨root, hroot, hsame⟩ := List.mem_map.mp hpath
    rw [← hsame]
    exact (hlayout.finished root hroot).1
  · intro path hpath
    rw [← hnames.mem_iff] at hpath
    by_cases hquarantine : ∃ root ∈ roots, path = root.quarantine
    · obtain ⟨root, hroot, rfl⟩ := hquarantine
      rw [hroots.free root hroot]
      exact (hlayout.finished root hroot).2
    · refine hlayout.beyond path fun root hroot => ⟨?_, fun hsame => hquarantine ⟨root, ?_, hsame⟩⟩
      · rintro rfl
        rw [List.append_nil] at hroot
        exact hpath (List.mem_map_of_mem hroot)
      · rwa [List.append_nil] at hroot

/-- The last three records, from a disk on which every root is deleted. -/
theorem finishRecords_dying {α : Type} {todo : QuarantinedRoot → Trees → Prop}
    {rest : Uninstalling Digest α} {returned : α → Disk Digest → Prop} (hdies : weather.OnlyDies)
    (hroots : Quarantines start.tree roots)
    (hnames : (roots.map QuarantinedRoot.original).Perm (plan.targets.map OwnedRoot.path))
    (hphase : phase = .prepared → start.config ≠ plan.replacement)
    (htodo : ∀ root tree, todo root tree → root.Away tree)
    (hrest : Triple weather (Uninstalled sourceRoot plan start) rest
      ⟨returned, raised, weather.Dying (Recoverable sha256 sourceRoot plan start)⟩) :
    Triple weather
      ((publishedDisk sha256 plan start roots phase completion receipt).Deleting start.tree roots
        [] todo)
      (do
        markUninstallComplete sourceRoot plan.completionDataRoots plan.purgeData
        removeInstallReceipt
        removePending .pending
        rest)
      ⟨returned, raised, weather.Dying (Recoverable sha256 sourceRoot plan start)⟩ := by
  have hrecoverable : ∀ {completion : Option UninstallCompletion} {receipt : Option InstallReceipt}
      (disk : Disk Digest),
      (publishedDisk sha256 plan start roots phase completion receipt).Deleting start.tree roots
        [] todo disk → Recoverable sha256 sourceRoot plan start disk := by
    intro completion receipt disk hdisk
    have hclearing := hdisk.clearing htodo
    rw [List.append_nil] at hclearing
    exact .published hroots hnames hphase hclearing
  refine Triple.bind (writeSignedRecord_dying ((publishedDisk sha256 plan start roots phase
    (some (plan.completion sourceRoot)) receipt).Deleting start.tree roots [] todo) hdies
    hrecoverable hrecoverable ?_) fun _ => ?_
  · rintro disk ⟨tree, removals, hlayout, hsigned, rfl⟩
    exact ⟨tree, removals, hlayout, hsigned, rfl⟩
  refine Triple.bind (removeRecord_dying ((publishedDisk sha256 plan start roots phase
    (some (plan.completion sourceRoot)) none).Deleting start.tree roots [] todo) hdies
    hrecoverable hrecoverable ?_ ?_) fun _ => ?_
  · rintro disk ⟨tree, removals, hlayout, hsigned, rfl⟩ -
    exact ⟨tree, removals, hlayout, hsigned, rfl⟩
  · rintro disk ⟨tree, removals, hlayout, hsigned, rfl⟩ habsent
    have hnone : receipt = none := by
      cases receipt with
      | none => rfl
      | some found => cases habsent
    exact ⟨tree, removals, hlayout, hsigned, by rw [hnone]⟩
  refine Triple.bind (removeRecord_dying (Uninstalled sourceRoot plan start) hdies
    hrecoverable (fun disk hdisk => .uninstalled hdisk) ?_ ?_) fun _ => hrest
  · rintro disk hdisk -
    obtain ⟨hremoved, hothers⟩ := hdisk.removed hroots hnames
    have hsigned := hdisk.signed
    obtain ⟨tree, removals, -, -, rfl⟩ := hdisk
    exact ⟨rfl, rfl, rfl, rfl, hremoved, hothers, hsigned⟩
  · rintro disk ⟨tree, removals, hlayout, hsigned, rfl⟩ habsent
    cases habsent

/-- Reading the preserved roots at the end. -/
theorem preserved_dying {purge : Bool} {make : List RootPath → UninstallReceipt}
    (hdies : weather.OnlyDies) :
    Triple weather (Uninstalled sourceRoot plan start)
      (do
        let preserved ← preservedRoots purge
        pure (make preserved))
      ⟨fun _ => Uninstalled sourceRoot plan start, raised,
        weather.Dying (Recoverable sha256 sourceRoot plan start)⟩ := by
  refine Triple.bind (Triple.ite (fun _ => Triple.pure fun _ hdisk => hdisk) fun _ => ?_)
    fun preserved => Triple.pure fun _ hdisk => hdisk
  refine Triple.weaken (Triple.look_dying_sees hdies (fun disk hdisk => .uninstalled hdisk)
    fun _ _ => ⟨_, rfl⟩) (fun _ hdisk => hdisk) (fun _ _ hpost => hpost.2)
    (fun _ _ hpost => hpost) fun _ hpost => hpost

/-- A root moved away whole can be deleted. -/
theorem shrunk_of_moved {old tree : Trees} {root : QuarantinedRoot}
    (hroots : Quarantines old roots) (hroot : root ∈ roots) (hmoved : root.Moved old tree) :
    root.Shrunk tree := by
  obtain ⟨found, hfound, hidentity, hsafe⟩ := hroots.present root hroot
  exact ⟨hmoved.1, found, hmoved.2.trans hfound, hidentity, hsafe⟩

theorem Disk.Quarantining.deleting {base disk : Disk Digest} (hroots : Quarantines start.tree roots)
    (hremovals : base.removals = []) (hdisk : base.Quarantining start.tree roots [] disk) :
    base.Deleting start.tree [] roots QuarantinedRoot.Shrunk disk := by
  obtain ⟨tree, hlayout, rfl⟩ := hdisk
  refine ⟨tree, [], ⟨fun root hroot => (List.not_mem_nil hroot).elim, ?_, ?_⟩,
    fun removal hremoval => (List.not_mem_nil hremoval).elim, ?_⟩
  · exact fun root hroot => shrunk_of_moved hroots hroot (hlayout.finished root hroot)
  · have hbeyond := hlayout.beyond
    rwa [List.append_nil] at hbeyond
  · rw [← hremovals]

theorem Disk.Quarantining.all_keeping {base disk : Disk Digest} {old : Trees}
    (hdisk : base.Quarantining old roots [] disk) : base.Keeping old roots disk := by
  have hkeeping := hdisk.keeping
  rwa [List.append_nil] at hkeeping

/-- Before the first root is moved away. -/
theorem preparedDisk_quarantining (hroots : Quarantines start.tree roots) :
    (preparedDisk sha256 plan start roots).Quarantining start.tree [] roots
      (preparedDisk sha256 plan start roots) :=
  ⟨start.tree, ⟨fun _ hroot => (List.not_mem_nil hroot).elim,
    fun root hroot => ⟨rfl, hroots.free root hroot⟩, fun _ _ => rfl⟩, rfl⟩

theorem not_committed_prepared {goal : Prop} (hphase : Phase.committed = .prepared) : goal := by
  cases hphase

theorem publishPlan_dying (hdies : weather.OnlyDies) (hroots : Quarantines start.tree roots)
    (hnames : (roots.map QuarantinedRoot.original).Perm (plan.targets.map OwnedRoot.path))
    (hremovals : start.removals = []) :
    Triple weather (· = preparedDisk sha256 plan start roots)
      (publishPlan sha256 plan start.config roots)
      ⟨fun _ => (publishedDisk sha256 plan start roots .committed start.completion
        start.receipt).Quarantining start.tree roots [], raised,
        weather.Dying (Recoverable sha256 sourceRoot plan start)⟩ := by
  have hpublished : ∀ {phase : Phase} (disk : Disk Digest),
      (phase = .prepared → start.config ≠ plan.replacement) →
      (publishedDisk sha256 plan start roots phase start.completion start.receipt).Quarantining
        start.tree roots [] disk → Recoverable sha256 sourceRoot plan start disk := by
    intro phase disk hphase hdisk
    have hbase : (publishedDisk sha256 plan start roots phase start.completion
        start.receipt).removals = [] := hremovals
    exact .published hroots hnames hphase ((hdisk.deleting hroots hbase).clearing
      fun _ _ hshrunk => Or.inl hshrunk)
  have hprepared : ∀ disk, (preparedDisk sha256 plan start roots).Keeping start.tree roots disk →
      Recoverable sha256 sourceRoot plan start disk := fun disk hdisk => .prepared hroots hdisk
  have hquarantined : ∀ disk,
      (preparedDisk sha256 plan start roots).Quarantining start.tree roots [] disk →
      Recoverable sha256 sourceRoot plan start disk :=
    fun disk hdisk => hprepared disk hdisk.all_keeping
  -- Replaced or not, the configuration is the replacement before the record is committed.
  have hconfigured : ∀ disk,
      (publishedDisk sha256 plan start roots .prepared start.completion
        start.receipt).Quarantining start.tree roots [] disk →
      Recoverable sha256 sourceRoot plan start disk := by
    intro disk hdisk
    by_cases hsame : start.config = plan.replacement
    · refine hquarantined disk ?_
      obtain ⟨tree, hlayout, rfl⟩ := hdisk
      refine ⟨tree, hlayout, ?_⟩
      simp only [publishedDisk, preparedDisk, ← hsame]
    · exact hpublished disk (fun _ => hsame) hdisk
  refine Triple.bind (Triple.weaken (quarantineAll_dying hdies hroots hprepared) ?_
    (fun _ _ hpost => hpost) (fun _ _ hpost => hpost) fun _ hpost => hpost) fun _ => ?_
  · rintro disk rfl
    exact preparedDisk_quarantining hroots
  have hconfig : Triple weather
      ((preparedDisk sha256 plan start roots).Quarantining start.tree roots [])
      (if plan.replacement ≠ start.config then writeConfig start.config plan.replacement
        else pure () : Uninstalling Digest Unit)
      ⟨fun _ => (publishedDisk sha256 plan start roots .prepared start.completion
        start.receipt).Quarantining start.tree roots [], raised,
        weather.Dying (Recoverable sha256 sourceRoot plan start)⟩ := by
    refine Triple.ite (fun _ => Triple.act_dying hdies hquarantined ?_) fun hsame => Triple.pure ?_
    · rintro disk ⟨tree, hlayout, rfl⟩
      exact ⟨_, if_pos rfl, tree, hlayout, rfl⟩
    · rintro disk ⟨tree, hlayout, rfl⟩
      refine ⟨tree, hlayout, ?_⟩
      simp only [publishedDisk, preparedDisk, not_ne_iff.mp hsame]
  refine Triple.bind hconfig fun _ => ?_
  refine writeSignedRecord_dying ((publishedDisk sha256 plan start roots .committed
    start.completion start.receipt).Quarantining start.tree roots []) hdies hconfigured ?_ ?_
  · exact fun disk hdisk => hpublished disk not_committed_prepared hdisk
  · rintro disk ⟨tree, hlayout, rfl⟩
    exact ⟨tree, hlayout, rfl⟩

/-- A run of a plan carries it out or leaves it recoverable. -/
theorem executePlan_dying {token : ℕ → String} [DecidableEq Digest] (hdies : weather.OnlyDies)
    (hrooted : plan.Rooted start.tree) (hfresh : plan.Fresh token start.tree)
    (hremovals : start.removals = []) :
    Triple weather (· = start) (executePlan sha256 sourceRoot token start.config plan)
      ⟨fun _ => Uninstalled sourceRoot plan start, raised,
        weather.Dying (Recoverable sha256 sourceRoot plan start)⟩ := by
  have hroots := quarantines_of_fresh hrooted hfresh
  have hnames := List.Perm.of_eq (quarantines_original plan token)
  refine Triple.bind_known (plan.quarantines token) (· = start)
    (planTargets_dying hdies .unstarted hrooted hfresh) ?_
  refine Triple.bind (writeSignedRecord_dying
    (· = preparedDisk sha256 plan start (plan.quarantines token)) hdies ?_ ?_ ?_) fun _ => ?_
  · rintro disk rfl
    exact .unstarted
  · rintro disk rfl
    exact .prepared hroots (preparedDisk_quarantining hroots).keeping
  · rintro disk rfl
    rfl
  refine Triple.bind (Triple.attempt_safe (publishPlan_dying hdies hroots hnames hremovals))
    fun _ => ?_
  have hpending : (publishedDisk sha256 plan start (plan.quarantines token) .committed
      start.completion start.receipt).pending =
      some (plan.pending sha256 start.config (plan.quarantines token) .committed) := rfl
  have hrecoverable : ∀ disk, (publishedDisk sha256 plan start (plan.quarantines token) .committed
      start.completion start.receipt).Clearing start.tree (plan.quarantines token) disk →
      Recoverable sha256 sourceRoot plan start disk :=
    fun disk hdisk => .published hroots hnames not_committed_prepared hdisk
  refine Triple.bind (Triple.weaken (deleteAll_dying _ hdies hroots hpending hrecoverable)
    (fun disk hdisk => Disk.Quarantining.deleting hroots hremovals hdisk)
    (fun _ _ hpost => hpost) (fun _ _ hpost => hpost) fun _ hpost => hpost) fun _ => ?_
  exact finishRecords_dying hdies hroots hnames not_committed_prepared
    (fun _ _ hshrunk => Or.inl hshrunk) (preserved_dying hdies)

/-! ### Finishing and taking back -/

/-- Finishing the run of a published plan. -/
theorem finishPending_dying (hdies : weather.OnlyDies) (hroots : Quarantines start.tree roots)
    (hnames : (roots.map QuarantinedRoot.original).Perm (plan.targets.map OwnedRoot.path))
    (hphase : phase = .prepared → start.config ≠ plan.replacement) :
    Triple weather
      ((publishedDisk sha256 plan start roots phase completion receipt).Clearing start.tree roots)
      (finishPending sourceRoot (plan.pending sha256 start.config roots phase))
      ⟨fun _ => Uninstalled sourceRoot plan start, raised,
        weather.Dying (Recoverable sha256 sourceRoot plan start)⟩ := by
  have hpending : (publishedDisk sha256 plan start roots phase completion receipt).pending =
      some (plan.pending sha256 start.config roots phase) := rfl
  have hrecoverable : ∀ disk,
      (publishedDisk sha256 plan start roots phase completion receipt).Clearing start.tree roots
        disk → Recoverable sha256 sourceRoot plan start disk :=
    fun disk hdisk => .published hroots hnames hphase hdisk
  refine Triple.bind (Triple.weaken (cleanupAll_dying hdies hroots hpending hrecoverable) ?_
    (fun _ _ hpost => hpost) (fun _ _ hpost => hpost) fun _ hpost => hpost) fun _ => ?_
  · rintro disk ⟨tree, removals, hlayout, hsigned, rfl⟩
    exact ⟨tree, removals, ⟨fun root hroot => (List.not_mem_nil hroot).elim, hlayout.remaining,
      hlayout.beyond⟩, hsigned, rfl⟩
  exact finishRecords_dying hdies hroots hnames hphase (fun _ _ haway => haway)
    (preserved_dying hdies)

/-- Taking a prepared plan back leaves the disk it started on. -/
theorem takeBack_dying {α : Type} {rest : Uninstalling Digest α}
    {returned : α → Disk Digest → Prop} (hdies : weather.OnlyDies)
    (hnone : start.pending = none) (hroots : Quarantines start.tree roots)
    (hrest : Triple weather (· = start) rest
      ⟨returned, raised, weather.Dying (Recoverable sha256 sourceRoot plan start)⟩) :
    Triple weather ((preparedDisk sha256 plan start roots).Keeping start.tree roots)
      (do
        rollbackPending .rollback (plan.pending sha256 start.config roots .prepared)
        removePending .rolledBack
        rest)
      ⟨returned, raised, weather.Dying (Recoverable sha256 sourceRoot plan start)⟩ := by
  have hprepared : ∀ disk, (preparedDisk sha256 plan start roots).Keeping start.tree roots disk →
      Recoverable sha256 sourceRoot plan start disk := fun disk hdisk => .prepared hroots hdisk
  refine Triple.bind (rollbackPending_dying
    (plan.pending sha256 start.config roots .prepared) hdies hroots hprepared) fun _ => ?_
  refine Triple.bind (removeRecord_dying (· = start) hdies ?_ ?_ ?_ ?_) fun _ => hrest
  · rintro disk rfl
    exact hprepared _ ⟨start.tree, ⟨fun root hroot => (List.not_mem_nil hroot).elim,
      fun root hroot => Or.inl ⟨rfl, hroots.free root hroot⟩, fun _ _ => rfl⟩, rfl⟩
  · rintro disk rfl
    exact .unstarted
  · rintro disk rfl -
    rw [← hnone]
    rfl
  · rintro disk rfl habsent
    cases habsent

end Recovery

end CodexMustWork
