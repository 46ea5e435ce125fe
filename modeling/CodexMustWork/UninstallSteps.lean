import CodexMustWork.Uninstall
import Mathlib.Data.List.Nodup

/-!
# The steps of an uninstall that may die

Where a root stands while an uninstall is under way, and what each call does to it
when the process may die at any call and nothing else happens.  A root is moved or
deleted by calls on its own two names, so every other root stands where it stood.
-/

namespace CodexMustWork

open DisturbedRuns

/-! ### Where a root stands -/

section Standing

variable (old : Trees) (root : QuarantinedRoot)

/-- At its original name. -/
def QuarantinedRoot.Untouched (tree : Trees) : Prop :=
  tree root.original = old root.original ∧ tree root.quarantine = none

/-- At its quarantine name, whole. -/
def QuarantinedRoot.Moved (tree : Trees) : Prop :=
  tree root.original = none ∧ tree root.quarantine = old root.original

/-- At its quarantine name, perhaps with entries deleted. -/
def QuarantinedRoot.Shrunk (tree : Trees) : Prop :=
  tree root.original = none ∧
    ∃ found, tree root.quarantine = some found ∧ found.identity = root.identity ∧ found.Safe

/-- Deleted. -/
def QuarantinedRoot.Gone (tree : Trees) : Prop :=
  tree root.original = none ∧ tree root.quarantine = none

/-- Still whole. -/
def QuarantinedRoot.Kept (tree : Trees) : Prop :=
  root.Untouched old tree ∨ root.Moved old tree

/-- No longer at its original name. -/
def QuarantinedRoot.Away (tree : Trees) : Prop :=
  root.Shrunk tree ∨ root.Gone tree

end Standing

/-- The roots of a plan with their quarantine names, on the disk they were planned for. -/
structure Quarantines (old : Trees) (roots : List QuarantinedRoot) : Prop where
  present : ∀ root ∈ roots, ∃ found, old root.original = some found ∧
    found.identity = root.identity ∧ found.Safe
  free : ∀ root ∈ roots, old root.quarantine = none
  originals : (roots.map QuarantinedRoot.original).Nodup
  names : (roots.map QuarantinedRoot.quarantine).Nodup
  wellFormed : ∀ root ∈ roots, root.wellFormed = true

/-- Nothing else has changed. -/
def Trees.Beyond (roots : List QuarantinedRoot) (old tree : Trees) : Prop :=
  ∀ path, (∀ root ∈ roots, path ≠ root.original ∧ path ≠ root.quarantine) → tree path = old path

/-- Only the two names of a root have changed. -/
def Trees.OnlyAt (root : QuarantinedRoot) (before after : Trees) : Prop :=
  ∀ path, path ≠ root.original → path ≠ root.quarantine → after path = before path

section Facts

variable {old before after : Trees} {roots : List QuarantinedRoot} {root other : QuarantinedRoot}

theorem Quarantines.original_ne_quarantine (hroots : Quarantines old roots) (hroot : root ∈ roots)
    (hother : other ∈ roots) : root.original ≠ other.quarantine := by
  intro hsame
  obtain ⟨found, hfound, -⟩ := hroots.present root hroot
  rw [hsame, hroots.free other hother] at hfound
  cases hfound

/-- The names of two roots of one plan are apart. -/
theorem Quarantines.apart {passed left : List QuarantinedRoot}
    (hroots : Quarantines old (passed ++ root :: left)) (hother : other ∈ passed ++ left) :
    (other.original ≠ root.original ∧ other.original ≠ root.quarantine) ∧
      other.quarantine ≠ root.original ∧ other.quarantine ≠ root.quarantine := by
  have hroot : root ∈ passed ++ root :: left := by simp
  have hmem : other ∈ passed ++ root :: left := by
    rcases List.mem_append.mp hother with hpassed | hleft
    · exact List.mem_append_left _ hpassed
    · exact List.mem_append_right _ (List.mem_cons_of_mem _ hleft)
  have hdistinct : ∀ name : QuarantinedRoot → RootPath,
      ((passed ++ root :: left).map name).Nodup → name other ≠ name root := by
    intro name hnodup hsame
    have hperm : ((passed ++ root :: left).map name).Perm
        (name root :: (passed ++ left).map name) := by
      simp
    have hfresh := (List.nodup_cons.mp (hperm.nodup_iff.mp hnodup)).1
    exact hfresh (hsame ▸ List.mem_map_of_mem hother)
  exact ⟨⟨hdistinct _ hroots.originals, hroots.original_ne_quarantine hmem hroot⟩,
    (hroots.original_ne_quarantine hroot hmem).symm, hdistinct _ hroots.names⟩

/-- A statement about a root looks at its two names only. -/
def Local (stands : QuarantinedRoot → Trees → Prop) : Prop :=
  ∀ root before after, after root.original = before root.original →
    after root.quarantine = before root.quarantine → stands root before → stands root after

/-- Where the roots of a plan stand when some of them have been dealt with. -/
structure Layout (old : Trees) (passed left : List QuarantinedRoot)
    (done todo : QuarantinedRoot → Trees → Prop) (tree : Trees) : Prop where
  finished : ∀ root ∈ passed, done root tree
  remaining : ∀ root ∈ left, todo root tree
  beyond : Trees.Beyond (passed ++ left) old tree

theorem Layout.step {passed left : List QuarantinedRoot}
    {done todo : QuarantinedRoot → Trees → Prop} (hdone : Local done) (htodo : Local todo)
    (hroots : Quarantines old (passed ++ root :: left))
    (hlayout : Layout old passed (root :: left) done todo before)
    (honly : Trees.OnlyAt root before after) (hroot : done root after) :
    Layout old (passed ++ [root]) left done todo after := by
  have hsame : ∀ other ∈ passed ++ left, after other.original = before other.original ∧
      after other.quarantine = before other.quarantine := by
    intro other hother
    obtain ⟨horiginal, hquarantine⟩ := hroots.apart hother
    exact ⟨honly _ horiginal.1 horiginal.2, honly _ hquarantine.1 hquarantine.2⟩
  refine ⟨?_, ?_, ?_⟩
  · intro other hother
    rcases List.mem_append.mp hother with hpassed | hlast
    · obtain ⟨horiginal, hquarantine⟩ := hsame other (List.mem_append_left _ hpassed)
      exact hdone other before after horiginal hquarantine (hlayout.finished other hpassed)
    · rw [List.mem_singleton.mp hlast]
      exact hroot
  · intro other hother
    obtain ⟨horiginal, hquarantine⟩ := hsame other (List.mem_append_right _ hother)
    exact htodo other before after horiginal hquarantine
      (hlayout.remaining other (List.mem_cons_of_mem _ hother))
  · intro path hpath
    rw [List.append_assoc] at hpath
    obtain ⟨horiginal, hquarantine⟩ := hpath root (by simp)
    rw [honly path horiginal hquarantine]
    exact hlayout.beyond path hpath

/-- A root that is not dealt with yet may change where it stands. -/
theorem Layout.stay {passed left : List QuarantinedRoot}
    {done todo : QuarantinedRoot → Trees → Prop} (hdone : Local done) (htodo : Local todo)
    (hroots : Quarantines old (passed ++ root :: left))
    (hlayout : Layout old passed (root :: left) done todo before)
    (honly : Trees.OnlyAt root before after) (hroot : todo root after) :
    Layout old passed (root :: left) done todo after := by
  have hsame : ∀ other ∈ passed ++ left, after other.original = before other.original ∧
      after other.quarantine = before other.quarantine := by
    intro other hother
    obtain ⟨horiginal, hquarantine⟩ := hroots.apart hother
    exact ⟨honly _ horiginal.1 horiginal.2, honly _ hquarantine.1 hquarantine.2⟩
  refine ⟨?_, ?_, ?_⟩
  · intro other hother
    obtain ⟨horiginal, hquarantine⟩ := hsame other (List.mem_append_left _ hother)
    exact hdone other before after horiginal hquarantine (hlayout.finished other hother)
  · intro other hother
    rcases List.mem_cons.mp hother with rfl | hleft
    · exact hroot
    · obtain ⟨horiginal, hquarantine⟩ := hsame other (List.mem_append_right _ hleft)
      exact htodo other before after horiginal hquarantine (hlayout.remaining other hother)
  · intro path hpath
    obtain ⟨horiginal, hquarantine⟩ := hpath root (by simp)
    rw [honly path horiginal hquarantine]
    exact hlayout.beyond path hpath

/-- Every root of a layout, dealt with or not. -/
theorem Layout.all {passed left : List QuarantinedRoot}
    {done todo either : QuarantinedRoot → Trees → Prop} {tree : Trees}
    (hlayout : Layout old passed left done todo tree)
    (hdone : ∀ root, done root tree → either root tree)
    (htodo : ∀ root, todo root tree → either root tree) :
    Layout old [] (passed ++ left) either either tree := by
  refine ⟨fun root hroot => (List.not_mem_nil hroot).elim, ?_, hlayout.beyond⟩
  intro root hroot
  rcases List.mem_append.mp hroot with hpassed | hleft
  · exact hdone root (hlayout.finished root hpassed)
  · exact htodo root (hlayout.remaining root hleft)

theorem untouched_local : Local fun root => root.Untouched old := by
  intro root before after horiginal hquarantine hstands
  exact ⟨horiginal.trans hstands.1, hquarantine.trans hstands.2⟩

theorem moved_local : Local fun root => root.Moved old := by
  intro root before after horiginal hquarantine hstands
  exact ⟨horiginal.trans hstands.1, hquarantine.trans hstands.2⟩

theorem kept_local : Local fun root => root.Kept old := by
  intro root before after horiginal hquarantine hstands
  rcases hstands with huntouched | hmoved
  · exact Or.inl (untouched_local root before after horiginal hquarantine huntouched)
  · exact Or.inr (moved_local root before after horiginal hquarantine hmoved)

theorem shrunk_local : Local QuarantinedRoot.Shrunk := by
  intro root before after horiginal hquarantine hstands
  refine ⟨horiginal.trans hstands.1, ?_⟩
  rw [hquarantine]
  exact hstands.2

theorem gone_local : Local QuarantinedRoot.Gone := by
  intro root before after horiginal hquarantine hstands
  exact ⟨horiginal.trans hstands.1, hquarantine.trans hstands.2⟩

theorem away_local : Local QuarantinedRoot.Away := by
  intro root before after horiginal hquarantine hstands
  rcases hstands with hshrunk | hgone
  · exact Or.inl (shrunk_local root before after horiginal hquarantine hshrunk)
  · exact Or.inr (gone_local root before after horiginal hquarantine hgone)

/-! ### Moving a root -/

theorem move_onlyAt : Trees.OnlyAt root before
    (Trees.move before root.original root.quarantine) := by
  intro path horiginal hquarantine
  rw [Trees.move, Function.update_of_ne horiginal, Function.update_of_ne hquarantine]

theorem move_back_onlyAt : Trees.OnlyAt root before
    (Trees.move before root.quarantine root.original) := by
  intro path horiginal hquarantine
  rw [Trees.move, Function.update_of_ne hquarantine, Function.update_of_ne horiginal]

theorem move_moved (hne : root.original ≠ root.quarantine)
    (huntouched : root.Untouched old before) :
    root.Moved old (Trees.move before root.original root.quarantine) := by
  refine ⟨?_, ?_⟩
  · rw [Trees.move, Function.update_self]
  · rw [Trees.move, Function.update_of_ne hne.symm, Function.update_self, huntouched.1]

theorem move_untouched (hne : root.original ≠ root.quarantine) (hmoved : root.Moved old before) :
    root.Untouched old (Trees.move before root.quarantine root.original) := by
  refine ⟨?_, ?_⟩
  · rw [Trees.move, Function.update_of_ne hne, Function.update_self, hmoved.2]
  · rw [Trees.move, Function.update_self]

end Facts

/-! ### Calls -/

section Dying

variable {Digest α : Type} {weather : Disturbance Spot (Disk Digest) UninstallError}
  {inv crashed : Disk Digest → Prop} {raised : UninstallError → Disk Digest → Prop}

theorem check_dying {spot : Spot} (hdies : weather.OnlyDies)
    (hcrashed : ∀ disk, inv disk → crashed disk) :
    Triple weather inv (check spot)
      ⟨fun found disk => found = () ∧ inv disk, raised, weather.Dying crashed⟩ :=
  Triple.look_dying hdies hcrashed fun _ _ => rfl

theorem identityAt_dying {spot : Spot} {path : RootPath} {identity : CacheIdentity}
    (hdies : weather.OnlyDies) (hcrashed : ∀ disk, inv disk → crashed disk)
    (hfound : ∀ disk, inv disk →
      ∃ tree, disk.tree path = some tree ∧ tree.identity = identity) :
    Triple weather inv (identityAt spot path)
      ⟨fun found disk => found = identity ∧ inv disk, raised, weather.Dying crashed⟩ := by
  refine Triple.look_dying hdies hcrashed fun disk hdisk => ?_
  obtain ⟨tree, htree, hidentity⟩ := hfound disk hdisk
  rw [htree, ← hidentity]

theorem pathTaken_dying {spot : Spot} {path : RootPath} (hdies : weather.OnlyDies)
    (hcrashed : ∀ disk, inv disk → crashed disk)
    (hfound : ∀ disk, inv disk → disk.tree path = none) :
    Triple weather inv (pathTaken spot path)
      ⟨fun found disk => found = false ∧ inv disk, raised, weather.Dying crashed⟩ := by
  refine Triple.attempt_safe (Triple.look_dying hdies hcrashed fun disk hdisk => ?_)
  rw [hfound disk hdisk]
  rfl

theorem optionalIdentity_dying {spot : Spot} {path : RootPath} {identity : Option CacheIdentity}
    (hdies : weather.OnlyDies) (hcrashed : ∀ disk, inv disk → crashed disk)
    (hfound : ∀ disk, inv disk → (disk.tree path).map Tree.identity = identity) :
    Triple weather inv (optionalIdentity spot path)
      ⟨fun found disk => found = identity ∧ inv disk, raised, weather.Dying crashed⟩ := by
  refine Triple.attempt_safe (Triple.look_dying hdies hcrashed fun disk hdisk => ?_)
  rw [hfound disk hdisk]

theorem renameNoReplace_dying {spot : Spot} {source target : RootPath}
    (after : Disk Digest → Prop) (hdies : weather.OnlyDies)
    (hcrashed : ∀ disk, inv disk → crashed disk)
    (hrename : ∀ disk, inv disk → (disk.tree source).isSome ∧ (disk.tree target).isNone ∧
      after { disk with tree := Trees.move disk.tree source target }) :
    Triple weather inv (renameNoReplace spot source target)
      ⟨fun _ => after, raised, weather.Dying crashed⟩ := by
  refine Triple.act_dying hdies hcrashed fun disk hdisk => ?_
  obtain ⟨hsource, htarget, hafter⟩ := hrename disk hdisk
  exact ⟨_, if_pos ⟨hsource, htarget⟩, hafter⟩

/-- The disk of which only the roots are left open. -/
def Disk.With (base : Disk Digest) (pred : Trees → Prop) (disk : Disk Digest) : Prop :=
  ∃ tree, pred tree ∧ disk = { base with tree := tree }

/-! ### Moving a root away and back -/

variable {old : Trees} {passed left : List QuarantinedRoot} {root : QuarantinedRoot}
  {base : Disk Digest} {index : ℕ} {task : RootTask}

theorem Quarantines.mem_middle (hroots : Quarantines old (passed ++ root :: left)) :
    (∃ found, old root.original = some found ∧ found.identity = root.identity ∧ found.Safe) ∧
      root.original ≠ root.quarantine := by
  have hroot : root ∈ passed ++ root :: left := by simp
  exact ⟨hroots.present root hroot, hroots.original_ne_quarantine hroot hroot⟩

/-- The disk while the roots of a plan are being moved away. -/
def Disk.Quarantining (base : Disk Digest) (old : Trees) (passed left : List QuarantinedRoot)
    (disk : Disk Digest) : Prop :=
  base.With (Layout old passed left (fun root => root.Moved old) fun root => root.Untouched old)
    disk

/-- The disk while every root of a plan is whole, at one of its names. -/
def Disk.Keeping (base : Disk Digest) (old : Trees) (roots : List QuarantinedRoot)
    (disk : Disk Digest) : Prop :=
  base.With (Layout old [] roots (fun root => root.Kept old) fun root => root.Kept old) disk

theorem Disk.Quarantining.keeping {disk : Disk Digest}
    (hdisk : base.Quarantining old passed left disk) : base.Keeping old (passed ++ left) disk := by
  obtain ⟨tree, hlayout, rfl⟩ := hdisk
  exact ⟨tree, hlayout.all (fun _ hmoved => Or.inr hmoved) fun _ huntouched => Or.inl huntouched,
    rfl⟩

theorem quarantineOwnedRoot_dying (hdies : weather.OnlyDies)
    (hroots : Quarantines old (passed ++ root :: left))
    (hcrashed : ∀ disk, base.Keeping old (passed ++ root :: left) disk → crashed disk) :
    Triple weather (base.Quarantining old passed (root :: left)) (quarantineOwnedRoot index root)
      ⟨fun _ => base.Quarantining old (passed ++ [root]) left, raised, weather.Dying crashed⟩ := by
  obtain ⟨⟨found, hfound, hidentity, -⟩, hne⟩ := hroots.mem_middle
  have hbefore : ∀ disk, base.Quarantining old passed (root :: left) disk → crashed disk :=
    fun disk hdisk => hcrashed disk hdisk.keeping
  have hafter : ∀ disk, base.Quarantining old (passed ++ [root]) left disk → crashed disk := by
    intro disk hdisk
    have hkeeping := hdisk.keeping
    rw [List.append_assoc] at hkeeping
    exact hcrashed disk hkeeping
  have huntouched : ∀ disk, base.Quarantining old passed (root :: left) disk →
      root.Untouched old disk.tree := by
    rintro disk ⟨tree, hlayout, rfl⟩
    exact hlayout.remaining root List.mem_cons_self
  have hmoved : ∀ disk, base.Quarantining old (passed ++ [root]) left disk →
      root.Moved old disk.tree := by
    rintro disk ⟨tree, hlayout, rfl⟩
    exact hlayout.finished root (by simp)
  refine Triple.attempt_safe ?_
  refine Triple.bind_known () _ (check_dying hdies hbefore) ?_
  refine Triple.bind_known root.identity _ (identityAt_dying hdies hbefore fun disk hdisk =>
    ⟨found, (huntouched disk hdisk).1.trans hfound, hidentity⟩) ?_
  refine Triple.ite (fun hdifferent => absurd rfl hdifferent) fun _ => ?_
  refine Triple.bind_known false _ (pathTaken_dying hdies hbefore fun disk hdisk =>
    (huntouched disk hdisk).2) ?_
  refine Triple.ite (fun htaken => by cases htaken) fun _ => ?_
  refine Triple.bind (renameNoReplace_dying (base.Quarantining old (passed ++ [root]) left) hdies
    hbefore fun disk hdisk => ?_) fun _ => ?_
  · refine ⟨?_, ?_, ?_⟩
    · rw [(huntouched disk hdisk).1, hfound]
      rfl
    · rw [(huntouched disk hdisk).2]
      rfl
    · obtain ⟨tree, hlayout, rfl⟩ := hdisk
      exact ⟨_, hlayout.step moved_local untouched_local hroots move_onlyAt
        (move_moved hne (hlayout.remaining root List.mem_cons_self)), rfl⟩
  refine Triple.bind_known root.identity _ (identityAt_dying hdies hafter fun disk hdisk =>
    ⟨found, (hmoved disk hdisk).2.trans hfound, hidentity⟩) ?_
  refine Triple.bind_known () _ (check_dying hdies hafter) ?_
  refine Triple.ite (fun hdifferent => absurd rfl hdifferent) fun _ => ?_
  exact Triple.pure fun _ hdisk => hdisk

/-- The disk while the roots of a plan are being put back. -/
def Disk.Restoring (base : Disk Digest) (old : Trees) (passed left : List QuarantinedRoot)
    (disk : Disk Digest) : Prop :=
  base.With (Layout old passed left (fun root => root.Untouched old) fun root => root.Kept old)
    disk

theorem Disk.Restoring.keeping {disk : Disk Digest}
    (hdisk : base.Restoring old passed left disk) : base.Keeping old (passed ++ left) disk := by
  obtain ⟨tree, hlayout, rfl⟩ := hdisk
  exact ⟨tree, hlayout.all (fun _ huntouched => Or.inl huntouched) fun _ hkept => hkept, rfl⟩

theorem rootState_dying {state : RootState} (original quarantine : Option CacheIdentity)
    (hdies : weather.OnlyDies) (hcrashed : ∀ disk, inv disk → crashed disk)
    (horiginal : ∀ disk, inv disk → (disk.tree root.original).map Tree.identity = original)
    (hquarantine : ∀ disk, inv disk →
      (disk.tree root.quarantine).map Tree.identity = quarantine)
    (hstate : RootState.of root.identity original quarantine = .ok state) :
    Triple weather inv (rootState task index root)
      ⟨fun found disk => found = state ∧ inv disk, raised, weather.Dying crashed⟩ := by
  refine Triple.bind_known original _ (optionalIdentity_dying hdies hcrashed horiginal) ?_
  refine Triple.bind_known quarantine _ (optionalIdentity_dying hdies hcrashed hquarantine) ?_
  rw [hstate]
  exact Triple.pure fun _ hdisk => ⟨rfl, hdisk⟩

theorem rollbackRoot_dying (hdies : weather.OnlyDies)
    (hroots : Quarantines old (passed ++ root :: left))
    (hcrashed : ∀ disk, base.Keeping old (passed ++ root :: left) disk → crashed disk) :
    Triple weather (base.Restoring old passed (root :: left)) (rollbackRoot task index root)
      ⟨fun _ => base.Restoring old (passed ++ [root]) left, raised, weather.Dying crashed⟩ := by
  obtain ⟨⟨found, hfound, hidentity, -⟩, hne⟩ := hroots.mem_middle
  have hbefore : ∀ disk, base.Restoring old passed (root :: left) disk → crashed disk :=
    fun disk hdisk => hcrashed disk hdisk.keeping
  have hafter : ∀ disk, base.Restoring old (passed ++ [root]) left disk → crashed disk := by
    intro disk hdisk
    have hkeeping := hdisk.keeping
    rw [List.append_assoc] at hkeeping
    exact hcrashed disk hkeeping
  have hstep : ∀ {tree after : Trees},
      Layout old passed (root :: left) (fun root => root.Untouched old)
        (fun root => root.Kept old) tree →
      Trees.OnlyAt root tree after → root.Untouched old after →
      base.Restoring old (passed ++ [root]) left { base with tree := after } :=
    fun hlayout honly huntouched => ⟨_, hlayout.step untouched_local kept_local hroots honly
      huntouched, rfl⟩
  refine Triple.cases_pre
    (fun disk => base.Restoring old passed (root :: left) disk ∧ root.Untouched old disk.tree)
    (fun disk => base.Restoring old passed (root :: left) disk ∧ root.Moved old disk.tree) ?_ ?_ ?_
  · intro disk hdisk
    have hkept : root.Kept old disk.tree := by
      obtain ⟨tree, hlayout, rfl⟩ := hdisk
      exact hlayout.remaining root List.mem_cons_self
    exact hkept.imp (fun huntouched => ⟨hdisk, huntouched⟩) fun hmoved => ⟨hdisk, hmoved⟩
  · refine Triple.bind_known .untouched _ (rootState_dying (some root.identity) none hdies
      (fun disk hdisk => hbefore disk hdisk.1) (fun disk hdisk => ?_) (fun disk hdisk => ?_) ?_)
      ?_
    · rw [hdisk.2.1, hfound, ← hidentity]
      rfl
    · rw [hdisk.2.2]
      rfl
    · simp [RootState.of]
    · refine Triple.ite (fun hmoved => by cases hmoved) fun _ => ?_
      refine Triple.ite (fun _ => ?_) fun hnot => absurd rfl hnot
      refine Triple.pure ?_
      rintro disk ⟨⟨tree, hlayout, rfl⟩, huntouched⟩
      exact hstep hlayout (fun _ _ _ => rfl) huntouched
  · refine Triple.bind_known .moved _ (rootState_dying none (some root.identity) hdies
      (fun disk hdisk => hbefore disk hdisk.1) (fun disk hdisk => ?_) (fun disk hdisk => ?_) ?_)
      ?_
    · rw [hdisk.2.1]
      rfl
    · rw [hdisk.2.2, hfound, ← hidentity]
      rfl
    · simp [RootState.of]
    · refine Triple.ite (fun _ => ?_) fun hnot => absurd rfl hnot
      refine Triple.attempt_safe ?_
      refine Triple.bind_known false _ (pathTaken_dying hdies
        (fun disk hdisk => hbefore disk hdisk.1) fun disk hdisk => hdisk.2.1) ?_
      refine Triple.ite (fun htaken => by cases htaken) fun _ => ?_
      refine Triple.bind_known root.identity _ (identityAt_dying hdies
        (fun disk hdisk => hbefore disk hdisk.1) fun disk hdisk =>
          ⟨found, hdisk.2.2.trans hfound, hidentity⟩) ?_
      refine Triple.ite (fun hdifferent => absurd rfl hdifferent) fun _ => ?_
      refine Triple.bind (renameNoReplace_dying (base.Restoring old (passed ++ [root]) left) hdies
        (fun disk hdisk => hbefore disk hdisk.1) fun disk hdisk => ?_) fun _ => ?_
      · refine ⟨?_, ?_, ?_⟩
        · rw [hdisk.2.2, hfound]
          rfl
        · rw [hdisk.2.1]
          rfl
        · obtain ⟨⟨tree, hlayout, rfl⟩, hmoved⟩ := hdisk
          exact hstep hlayout move_back_onlyAt (move_untouched hne hmoved)
      refine Triple.bind_known root.identity _ (identityAt_dying hdies hafter fun disk hdisk => ?_)
        ?_
      · obtain ⟨tree, hlayout, rfl⟩ := hdisk
        exact ⟨found, (hlayout.finished root (by simp)).1.trans hfound, hidentity⟩
      refine Triple.ite (fun hdifferent => absurd rfl hdifferent) fun _ => ?_
      exact Triple.pure fun _ hdisk => hdisk

/-! ### Deleting a root -/

/-- The pending record at the time of the deletion names the root. -/
def Removal.Signed (removal : Removal Digest) : Prop :=
  ∃ pending, removal.signed = some pending ∧
    ∃ root ∈ pending.roots, root.identity = removal.identity

/-- The disk of which the roots are left open, and every deletion made was signed. -/
def Disk.WithSigned (base : Disk Digest) (pred : Trees → Prop) (disk : Disk Digest) : Prop :=
  ∃ tree removals, pred tree ∧ (∀ removal ∈ removals, removal.Signed) ∧
    disk = { base with tree := tree, removals := removals }

/-- The disk while the roots of a plan are being deleted. -/
def Disk.Deleting (base : Disk Digest) (old : Trees) (passed left : List QuarantinedRoot)
    (todo : QuarantinedRoot → Trees → Prop) (disk : Disk Digest) : Prop :=
  base.WithSigned (Layout old passed left QuarantinedRoot.Gone todo) disk

/-- The disk while no root of a plan is at its original name. -/
def Disk.Clearing (base : Disk Digest) (old : Trees) (roots : List QuarantinedRoot)
    (disk : Disk Digest) : Prop :=
  base.WithSigned (Layout old [] roots QuarantinedRoot.Away QuarantinedRoot.Away) disk

theorem Disk.Deleting.clearing {todo : QuarantinedRoot → Trees → Prop} {disk : Disk Digest}
    (htodo : ∀ root tree, todo root tree → root.Away tree)
    (hdisk : base.Deleting old passed left todo disk) : base.Clearing old (passed ++ left) disk := by
  obtain ⟨tree, removals, hlayout, hsigned, rfl⟩ := hdisk
  exact ⟨tree, removals, hlayout.all (fun _ hgone => Or.inr hgone) fun root hroot =>
    htodo root tree hroot, hsigned, rfl⟩

section Deleting

variable {todo : QuarantinedRoot → Trees → Prop} {pending : PendingUninstall Digest}

/-- The disk while one root is being deleted, with the entries that are left. -/
def Disk.Emptying (base : Disk Digest) (old : Trees) (passed left : List QuarantinedRoot)
    (todo : QuarantinedRoot → Trees → Prop) (root : QuarantinedRoot) (entries : List Entry)
    (disk : Disk Digest) : Prop :=
  base.WithSigned (fun tree => Layout old passed (root :: left) QuarantinedRoot.Gone todo tree ∧
    tree root.original = none ∧ tree root.quarantine = some ⟨root.identity, entries⟩) disk

theorem Disk.Emptying.deleting {entries : List Entry} {disk : Disk Digest}
    (hdisk : base.Emptying old passed left todo root entries disk) :
    base.Deleting old passed (root :: left) todo disk := by
  obtain ⟨tree, removals, ⟨hlayout, -⟩, hsigned, rfl⟩ := hdisk
  exact ⟨tree, removals, hlayout, hsigned, rfl⟩

theorem Disk.Emptying.shows {entries : List Entry} {disk : Disk Digest}
    (hdisk : base.Emptying old passed left todo root entries disk) :
    disk.tree root.quarantine = some ⟨root.identity, entries⟩ := by
  obtain ⟨tree, removals, ⟨-, -, hshows⟩, -, rfl⟩ := hdisk
  exact hshows

theorem update_onlyAt {tree : Trees} (found : Option Tree) :
    Trees.OnlyAt root tree (Function.update tree root.quarantine found) :=
  fun _ _ hquarantine => Function.update_of_ne hquarantine _ _

/-- The deletion of something in a root the record names. -/
theorem signed_cons {removals : List (Removal Digest)}
    (hpending : base.pending = some pending) (hroot : root ∈ pending.roots)
    (hsigned : ∀ removal ∈ removals, removal.Signed) :
    ∀ removal ∈ (⟨root.identity, base.pending⟩ : Removal Digest) :: removals,
      removal.Signed := by
  intro removal hremoval
  rcases List.mem_cons.mp hremoval with rfl | hbefore
  · exact ⟨pending, hpending, root, hroot, rfl⟩
  · exact hsigned removal hbefore

theorem deleteEntries_dying (hdies : weather.OnlyDies)
    (hroots : Quarantines old (passed ++ root :: left))
    (hlocal : Local todo) (hshrunk : ∀ root tree, root.Shrunk tree → todo root tree)
    (hpending : base.pending = some pending) (hroot : root ∈ pending.roots)
    (hcrashed : ∀ disk, base.Deleting old passed (root :: left) todo disk → crashed disk)
    {entries : List Entry} (hsafe : ∀ entry ∈ entries, entry ≠ .unsafeObject) :
    Triple weather (base.Emptying old passed left todo root entries)
      (deleteEntries task index root.quarantine entries)
      ⟨fun _ => base.Emptying old passed left todo root [], raised, weather.Dying crashed⟩ := by
  have hne := hroots.mem_middle.2
  induction entries with
  | nil => exact Triple.pure fun _ hdisk => hdisk
  | cons entry rest ih =>
    have hentry : entry ≠ .unsafeObject := hsafe entry List.mem_cons_self
    have hrest : ∀ other ∈ rest, other ≠ .unsafeObject := fun other hother =>
      hsafe other (List.mem_cons_of_mem _ hother)
    refine Triple.ite (fun hunsafe => absurd hunsafe hentry) fun _ => ?_
    refine Triple.bind (Triple.act_dying hdies (fun disk hdisk => hcrashed disk hdisk.deleting)
      fun disk hdisk => ?_) fun _ => ih hrest
    obtain ⟨tree, removals, ⟨hlayout, horiginal, hshows⟩, hsigned, rfl⟩ := hdisk
    refine ⟨{ base with
        tree := Function.update tree root.quarantine (some ⟨root.identity, rest⟩)
        removals := ⟨root.identity, base.pending⟩ :: removals }, ?_, _, _, ⟨?_, ?_, ?_⟩,
      signed_cons hpending hroot hsigned, rfl⟩
    · simp [Disk.unlinkEntry, hshows]
    · refine hlayout.stay gone_local hlocal hroots (update_onlyAt _) (hshrunk _ _ ⟨?_, ?_⟩)
      · rw [Function.update_of_ne hne, horiginal]
      · exact ⟨_, Function.update_self _ _ _, rfl, hrest⟩
    · rw [Function.update_of_ne hne, horiginal]
    · rw [Function.update_self]

theorem deleteQuarantinedRoot_dying (hdies : weather.OnlyDies)
    (hroots : Quarantines old (passed ++ root :: left))
    (hlocal : Local todo) (hshrunk : ∀ root tree, root.Shrunk tree → todo root tree)
    (haway : ∀ root tree, todo root tree → root.Away tree)
    (hpending : base.pending = some pending) (hroot : root ∈ pending.roots)
    (hcrashed : ∀ disk, base.Clearing old (passed ++ root :: left) disk → crashed disk) :
    Triple weather
      (fun disk => base.Deleting old passed (root :: left) todo disk ∧ root.Shrunk disk.tree)
      (deleteQuarantinedRoot task index root)
      ⟨fun _ => base.Deleting old (passed ++ [root]) left todo, raised, weather.Dying crashed⟩ := by
  have hne := hroots.mem_middle.2
  have hdeleting : ∀ disk, base.Deleting old passed (root :: left) todo disk → crashed disk :=
    fun disk hdisk => hcrashed disk (hdisk.clearing haway)
  have hpre : ∀ disk, base.Deleting old passed (root :: left) todo disk ∧ root.Shrunk disk.tree →
      crashed disk := fun disk hdisk => hdeleting disk hdisk.1
  have hidentity : ∀ disk : Disk Digest,
      base.Deleting old passed (root :: left) todo disk ∧ root.Shrunk disk.tree →
      ∃ tree, disk.tree root.quarantine = some tree ∧ tree.identity = root.identity := by
    rintro disk ⟨-, -, found, hfound, hsame, -⟩
    exact ⟨found, hfound, hsame⟩
  refine Triple.attempt_safe ?_
  refine Triple.bind_known root.identity _ (identityAt_dying hdies hpre hidentity) ?_
  refine Triple.ite (fun hdifferent => absurd rfl hdifferent) fun _ => ?_
  refine Triple.bind_known () _ (check_dying hdies hpre) ?_
  refine Triple.bind_known root.identity _ (identityAt_dying hdies hpre hidentity) ?_
  refine Triple.ite (fun hdifferent => absurd rfl hdifferent) fun _ => ?_
  refine Triple.bind (Triple.look_dying_sees hdies hpre fun _ _ => ⟨_, rfl⟩) fun entries => ?_
  -- The entries that were found are those the root has now.
  have hentries : ∀ disk : Disk Digest,
      (.ok (((disk.tree root.quarantine).map Tree.entries).getD []) :
        Except UninstallError (List Entry)) = .ok entries ∧
        base.Deleting old passed (root :: left) todo disk ∧ root.Shrunk disk.tree →
      base.Emptying old passed left todo root entries disk ∧
        ∀ entry ∈ entries, entry ≠ .unsafeObject := by
    rintro disk ⟨hfound, ⟨tree, removals, hlayout, hsigned, rfl⟩, horiginal, found, hshows, hsame,
      hsafe⟩
    change tree root.quarantine = some found at hshows
    have hsome : found.entries = entries := by
      simpa [hshows] using hfound
    subst hsome
    refine ⟨⟨tree, removals, ⟨hlayout, horiginal, ?_⟩, hsigned, rfl⟩, hsafe⟩
    rw [hshows, ← hsame]
  intro disk hdisk
  obtain ⟨hemptying, hsafe⟩ := hentries disk hdisk
  refine Triple.bind (deleteEntries_dying hdies hroots hlocal hshrunk hpending hroot hdeleting
    hsafe) (fun _ => ?_) disk hemptying
  refine Triple.bind_known root.identity _ (identityAt_dying hdies
    (fun disk hdisk => hdeleting disk hdisk.deleting) fun disk hdisk => ⟨_, hdisk.shows, rfl⟩) ?_
  refine Triple.ite (fun hdifferent => absurd rfl hdifferent) fun _ => ?_
  refine Triple.act_dying hdies (fun disk hdisk => hdeleting disk hdisk.deleting)
    fun disk hdisk => ?_
  obtain ⟨tree, removals, ⟨hlayout, horiginal, hshows⟩, hsigned, rfl⟩ := hdisk
  refine ⟨{ base with
      tree := Function.update tree root.quarantine none
      removals := ⟨root.identity, base.pending⟩ :: removals }, ?_, _, _, ?_,
    signed_cons hpending hroot hsigned, rfl⟩
  · simp [Disk.removeRoot, hshows]
  refine hlayout.step gone_local hlocal hroots (update_onlyAt none) ⟨?_, ?_⟩
  · rw [Function.update_of_ne hne, horiginal]
  · rw [Function.update_self]

theorem cleanupRoot_dying (hdies : weather.OnlyDies)
    (hroots : Quarantines old (passed ++ root :: left))
    (hpending : base.pending = some pending) (hroot : root ∈ pending.roots)
    (hcrashed : ∀ disk, base.Clearing old (passed ++ root :: left) disk → crashed disk) :
    Triple weather (base.Deleting old passed (root :: left) QuarantinedRoot.Away)
      (cleanupRoot (index, root))
      ⟨fun _ => base.Deleting old (passed ++ [root]) left QuarantinedRoot.Away, raised,
        weather.Dying crashed⟩ := by
  have hdeleting : ∀ disk, base.Deleting old passed (root :: left) QuarantinedRoot.Away disk →
      crashed disk := fun disk hdisk => hcrashed disk (hdisk.clearing fun _ _ haway => haway)
  refine Triple.cases_pre
    (fun disk => base.Deleting old passed (root :: left) QuarantinedRoot.Away disk ∧
      root.Shrunk disk.tree)
    (fun disk => base.Deleting old passed (root :: left) QuarantinedRoot.Away disk ∧
      root.Gone disk.tree) ?_ ?_ ?_
  · intro disk hdisk
    have haway : root.Away disk.tree := by
      obtain ⟨tree, removals, hlayout, hsigned, rfl⟩ := hdisk
      exact hlayout.remaining root List.mem_cons_self
    exact haway.imp (fun hshrunk => ⟨hdisk, hshrunk⟩) fun hgone => ⟨hdisk, hgone⟩
  · refine Triple.bind_known .moved _ (rootState_dying none (some root.identity) hdies
      (fun disk hdisk => hdeleting disk hdisk.1) (fun disk hdisk => ?_) (fun disk hdisk => ?_) ?_)
      ?_
    · rw [hdisk.2.1]
      rfl
    · obtain ⟨found, hfound, hsame, -⟩ := hdisk.2.2
      rw [hfound, ← hsame]
      rfl
    · simp [RootState.of]
    · refine Triple.ite (fun hcleaned => by simp at hcleaned) fun _ => ?_
      refine Triple.ite (fun hnot => by simp at hnot) fun _ => ?_
      exact deleteQuarantinedRoot_dying hdies hroots away_local (fun _ _ hshrunk => Or.inl hshrunk)
        (fun _ _ haway => haway) hpending hroot hcrashed
  · refine Triple.bind_known .cleaned _ (rootState_dying none none hdies
      (fun disk hdisk => hdeleting disk hdisk.1) (fun disk hdisk => ?_) (fun disk hdisk => ?_) ?_)
      ?_
    · rw [hdisk.2.1]
      rfl
    · rw [hdisk.2.2]
      rfl
    · simp [RootState.of]
    · refine Triple.ite (fun _ => ?_) fun hnot => by simp at hnot
      refine Triple.pure ?_
      rintro disk ⟨⟨tree, removals, hlayout, hsigned, rfl⟩, hgone⟩
      exact ⟨tree, removals, hlayout.step gone_local away_local hroots (fun _ _ _ => rfl) hgone,
        hsigned, rfl⟩

end Deleting

/-! ### All roots of a record -/

section Loops

variable {roots : List QuarantinedRoot} {pending : PendingUninstall Digest}

theorem numbered_snd (roots : List QuarantinedRoot) : (numbered roots).map Prod.snd = roots := by
  simp [numbered, Function.comp_def]

/-- What is known after each root of a record, whatever its number. -/
theorem forEach_numbered (known : List QuarantinedRoot → List QuarantinedRoot → Disk Digest → Prop)
    {body : ℕ × QuarantinedRoot → Uninstalling Digest Unit}
    (hbody : ∀ passed root left index, passed ++ root :: left = roots →
      Triple weather (known passed (root :: left)) (body (index, root))
        ⟨fun _ => known (passed ++ [root]) left, raised, weather.Dying crashed⟩) :
    Triple weather (known [] roots) (Run.forEach (numbered roots) body)
      ⟨fun _ => known roots [], raised, weather.Dying crashed⟩ := by
  have hloop : Triple weather (known (([] : List (ℕ × QuarantinedRoot)).map Prod.snd)
      ((numbered roots).map Prod.snd)) (Run.forEach (numbered roots) body)
      ⟨fun _ => known roots [], raised, weather.Dying crashed⟩ := by
    refine Triple.forEach_progress
      (fun passed left => known (passed.map Prod.snd) (left.map Prod.snd)) ?_ ?_
    · intro disk hdisk
      rwa [List.nil_append, numbered_snd] at hdisk
    · rintro before ⟨index, root⟩ after hsplit
      have hmiddle : before.map Prod.snd ++ root :: after.map Prod.snd = roots := by
        rw [← numbered_snd roots, ← List.nil_append (numbered roots), ← hsplit]
        simp
      have hstep := hbody (before.map Prod.snd) root (after.map Prod.snd) index hmiddle
      simpa using hstep
  rwa [List.map_nil, numbered_snd] at hloop

theorem quarantineAll_dying (hdies : weather.OnlyDies) (hroots : Quarantines old roots)
    (hcrashed : ∀ disk, base.Keeping old roots disk → crashed disk) :
    Triple weather (base.Quarantining old [] roots)
      (Run.forEach (numbered roots) fun item => quarantineOwnedRoot item.1 item.2)
      ⟨fun _ => base.Quarantining old roots [], raised, weather.Dying crashed⟩ := by
  refine forEach_numbered (base.Quarantining old) fun passed root left index hsplit => ?_
  subst hsplit
  exact quarantineOwnedRoot_dying hdies hroots hcrashed

theorem cleanupAll_dying (hdies : weather.OnlyDies) (hroots : Quarantines old pending.roots)
    (hpending : base.pending = some pending)
    (hcrashed : ∀ disk, base.Clearing old pending.roots disk → crashed disk) :
    Triple weather (base.Deleting old [] pending.roots QuarantinedRoot.Away)
      (cleanupPending pending)
      ⟨fun _ => base.Deleting old pending.roots [] QuarantinedRoot.Away, raised,
        weather.Dying crashed⟩ := by
  refine forEach_numbered (fun passed left => base.Deleting old passed left QuarantinedRoot.Away)
    fun passed root left index hsplit => ?_
  rw [← hsplit] at hroots hcrashed
  refine cleanupRoot_dying hdies hroots hpending ?_ hcrashed
  rw [← hsplit]
  exact List.mem_append_right _ List.mem_cons_self

theorem deleteAll_dying (pending : PendingUninstall Digest) (hdies : weather.OnlyDies)
    (hroots : Quarantines old pending.roots) (hpending : base.pending = some pending)
    (hcrashed : ∀ disk, base.Clearing old pending.roots disk → crashed disk) :
    Triple weather (base.Deleting old [] pending.roots QuarantinedRoot.Shrunk)
      (Run.forEach (numbered pending.roots) fun item =>
        deleteQuarantinedRoot .delete item.1 item.2)
      ⟨fun _ => base.Deleting old pending.roots [] QuarantinedRoot.Shrunk, raised,
        weather.Dying crashed⟩ := by
  refine forEach_numbered (fun passed left => base.Deleting old passed left QuarantinedRoot.Shrunk)
    fun passed root left index hsplit => ?_
  rw [← hsplit] at hroots hcrashed
  have hroot : root ∈ pending.roots := by
    rw [← hsplit]
    exact List.mem_append_right _ List.mem_cons_self
  refine Triple.weaken (deleteQuarantinedRoot_dying hdies hroots shrunk_local
    (fun _ _ hshrunk => hshrunk) (fun _ _ hshrunk => Or.inl hshrunk) hpending hroot hcrashed)
    (fun disk hdisk => ⟨hdisk, ?_⟩) (fun _ _ hpost => hpost) (fun _ _ hpost => hpost)
    fun _ hpost => hpost
  obtain ⟨tree, removals, hlayout, hsigned, rfl⟩ := hdisk
  exact hlayout.remaining root List.mem_cons_self

/-- Putting back what is left of the roots, in any order. -/
theorem rollbackEach_dying (hdies : weather.OnlyDies) {items : List (ℕ × QuarantinedRoot)}
    {passed : List QuarantinedRoot} (hroots : Quarantines old (passed ++ items.map Prod.snd))
    (hcrashed : ∀ disk, base.Keeping old (passed ++ items.map Prod.snd) disk → crashed disk) :
    Triple weather (base.Restoring old passed (items.map Prod.snd)) (rollbackEach task items none)
      ⟨fun failure disk => failure = none ∧
        base.Restoring old (passed ++ items.map Prod.snd) [] disk, raised,
          weather.Dying crashed⟩ := by
  induction items generalizing passed with
  | nil =>
    refine Triple.pure fun disk hdisk => ⟨rfl, ?_⟩
    rwa [List.map_nil, List.append_nil]
  | cons item rest ih =>
    obtain ⟨index, root⟩ := item
    simp only [List.map_cons] at hroots hcrashed ⊢
    have hassoc : passed ++ root :: rest.map Prod.snd = (passed ++ [root]) ++ rest.map Prod.snd := by
      simp
    refine Triple.bind_known none (base.Restoring old (passed ++ [root]) (rest.map Prod.snd)) ?_ ?_
    · refine Triple.attempt_safe (Triple.bind (rollbackRoot_dying hdies hroots hcrashed)
        fun _ => ?_)
      exact Triple.pure fun disk hdisk => ⟨rfl, hdisk⟩
    · rw [hassoc] at hroots hcrashed ⊢
      exact ih hroots hcrashed

theorem Quarantines.reverse (hroots : Quarantines old roots) : Quarantines old roots.reverse := by
  refine ⟨?_, ?_, ?_, ?_, ?_⟩
  · exact fun root hroot => hroots.present root (List.mem_reverse.mp hroot)
  · exact fun root hroot => hroots.free root (List.mem_reverse.mp hroot)
  · rw [List.map_reverse, List.nodup_reverse]
    exact hroots.originals
  · rw [List.map_reverse, List.nodup_reverse]
    exact hroots.names
  · exact fun root hroot => hroots.wellFormed root (List.mem_reverse.mp hroot)

/-- The order of the roots does not matter for where they stand. -/
theorem Layout.reverse {stands : QuarantinedRoot → Trees → Prop}
    {done : QuarantinedRoot → Trees → Prop} {tree : Trees}
    (hlayout : Layout old [] roots done stands tree) :
    Layout old [] roots.reverse done stands tree := by
  refine ⟨fun root hroot => (List.not_mem_nil hroot).elim, ?_, ?_⟩
  · exact fun root hroot => hlayout.remaining root (List.mem_reverse.mp hroot)
  · intro path hpath
    exact hlayout.beyond path fun root hroot => hpath root (by simpa using hroot)

/-- With every root back, the roots are what they were. -/
theorem Disk.Restoring.restored (hroots : Quarantines old roots) {disk : Disk Digest}
    (hdisk : base.Restoring old roots [] disk) : disk = { base with tree := old } := by
  obtain ⟨tree, hlayout, rfl⟩ := hdisk
  have htree : tree = old := by
    funext path
    by_cases hpath : ∀ root ∈ roots, path ≠ root.original ∧ path ≠ root.quarantine
    · exact hlayout.beyond path (by rwa [List.append_nil])
    · simp only [not_forall, not_and_or, not_not] at hpath
      obtain ⟨root, hroot, rfl | rfl⟩ := hpath
      · exact (hlayout.finished root hroot).1
      · rw [(hlayout.finished root hroot).2, hroots.free root hroot]
  rw [htree]

/-- Rolling back puts every root back. -/
theorem rollbackPending_dying (pending : PendingUninstall Digest) (hdies : weather.OnlyDies)
    (hroots : Quarantines old pending.roots)
    (hcrashed : ∀ disk, base.Keeping old pending.roots disk → crashed disk) :
    Triple weather (base.Keeping old pending.roots) (rollbackPending task pending)
      ⟨fun _ disk => disk = { base with tree := old }, raised, weather.Dying crashed⟩ := by
  have hitems : (numbered pending.roots).reverse.map Prod.snd = pending.roots.reverse := by
    rw [List.map_reverse, numbered_snd]
  have heach : Triple weather
      (base.Restoring old [] ((numbered pending.roots).reverse.map Prod.snd))
      (rollbackEach task (numbered pending.roots).reverse none)
      ⟨fun failure disk => failure = none ∧
        base.Restoring old ([] ++ (numbered pending.roots).reverse.map Prod.snd) [] disk, raised,
        weather.Dying crashed⟩ := by
    refine rollbackEach_dying hdies ?_ ?_
    · rw [List.nil_append, hitems]
      exact hroots.reverse
    · rw [List.nil_append, hitems]
      rintro disk ⟨tree, hlayout, rfl⟩
      have hreverse := hlayout.reverse
      rw [List.reverse_reverse] at hreverse
      exact hcrashed _ ⟨tree, hreverse, rfl⟩
  rw [hitems, List.nil_append] at heach
  refine Triple.bind_known none (base.Restoring old pending.roots.reverse []) ?_ ?_
  · refine heach.weaken ?_ (fun _ _ hpost => hpost) (fun _ _ hpost => hpost) fun _ hpost => hpost
    rintro disk ⟨tree, hlayout, rfl⟩
    have hreverse := hlayout.reverse
    exact ⟨tree, ⟨fun root hroot => (List.not_mem_nil hroot).elim, hreverse.remaining,
      hreverse.beyond⟩, rfl⟩
  · exact Triple.pure fun disk hdisk => hdisk.restored hroots.reverse

end Loops

end Dying

end CodexMustWork
