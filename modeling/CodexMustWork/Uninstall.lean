import CodexMustWork.UninstallRun

/-!
# Planning an uninstall

What is removed comes from the signed install receipt, or, once that is gone, from
the completion record.  The checks of live objects that planning makes are taken as
they are: each either passes or refuses, looking at the roots on disk, and one that
passes has seen the root under its identity and found only what can be deleted.
-/

namespace CodexMustWork

open DisturbedRuns

/-- The validations planning relies on. -/
structure Checks where
  /-- The live objects of the receipt, as `load_install_receipt` revalidates them. -/
  receipt : InstallReceipt → Trees → Except UninstallError Unit
  /-- `snapshot_retained_cache` and the manifest against the receipt. -/
  cache : InstallReceipt → Trees → Except UninstallError Unit
  /-- `validate_runtime_tree` against the receipt. -/
  runtime : InstallReceipt → Trees → Except UninstallError Unit
  /-- `_planned`: a private root with its marker and a safe tree. -/
  data : RootPath → Trees → Except UninstallError Unit
  /-- `render_config_removal` with the evidence of the receipt. -/
  removal : Bytes → InstallReceipt → Except UninstallError Bytes
  /-- `has_uninstall_targets`. -/
  hasTargets : Bytes → Except UninstallError Bool
  /-- `_cache_installation_present`. -/
  cachePresent : Trees → Except UninstallError Bool
  cache_sound : ∀ found trees, cache found trees = .ok () →
    ∃ tree, trees found.cachePath = some tree ∧ tree.identity = found.cacheIdentity ∧ tree.Safe
  runtime_sound : ∀ found trees, runtime found trees = .ok () →
    ∃ tree, trees found.runtimePath = some tree ∧ tree.identity = found.runtimeIdentity ∧
      tree.Safe
  data_sound : ∀ path trees, data path trees = .ok () → ∀ tree, trees path = some tree → tree.Safe

/-- The order in which a process meets the set of the candidate paths. -/
structure SetOrder where
  paths : List RootPath
  perm : paths.Perm dataCandidates

variable {Digest : Type} (checks : Checks) (order : SetOrder)

/-! ### Data roots -/

/-- `_planned` with the identity it returns. -/
def plannedData (trees : Trees) (path : RootPath) : Except UninstallError OwnedRoot := do
  checks.data path trees
  match trees path with
  | none => .error .os
  | some tree => .ok ⟨path, tree.identity⟩

/-- `planned_data_roots`. -/
def plannedDataRoots (trees : Trees) : Except UninstallError (List OwnedRoot) :=
  (dataCandidates.filter fun path => (trees path).isSome).mapM (plannedData checks trees)

/-- One candidate of `validate_bound_data_roots`. -/
def boundDataRoot (bound : List OwnedRoot) (trees : Trees) (path : RootPath) :
    Except UninstallError OwnedRoot :=
  match bound.find? fun root => root.path = path with
  | none => .error (.install dataOwnershipUnknown)
  | some expected => do
      let current ← plannedData checks trees path
      if current.identity ≠ expected.identity then .error (.install dataOwnershipUnknown)
      else .ok current

/-- `validate_bound_data_roots`. -/
def validateBoundDataRoots (bound : List OwnedRoot) (trees : Trees) :
    Except UninstallError (List OwnedRoot) :=
  if ¬ (bound.map OwnedRoot.path).Nodup ∨ bound.any (fun root => root.path ∉ dataCandidates) then
    .error (.install dataOwnershipUnknown)
  else
    (order.paths.filter fun path => (trees path).isSome).mapM (boundDataRoot checks bound trees)

/-! ### Receipts -/

def cacheParent : RootPath := ["plugins", "cache", "simdorei", "codex-must-work"]

def dataParent : RootPath := ["plugins", "data"]

/-- `load_install_receipt`. -/
def loadInstallReceipt (sourceRoot : String) (disk : Disk Digest) :
    Except UninstallError InstallReceipt :=
  match disk.receipt with
  | none => .error (.install reinstallRequired)
  | some receipt =>
      if receipt.sourceRoot ≠ sourceRoot ∨
          receipt.cachePath.dropLast.getLast? ≠ some pluginName then
        .error (.install receiptInvalid)
      else do
        checks.receipt receipt disk.tree
        .ok receipt

/-- `load_uninstall_completion`. -/
def loadUninstallCompletion (sourceRoot : String) (disk : Disk Digest) :
    Except UninstallError (Option UninstallCompletion) :=
  match disk.completion with
  | none => .ok none
  | some completion =>
      if completion.sourceRoot ≠ sourceRoot then .error (.install receiptInvalid)
      else .ok (some completion)

/-- `planned_cache_generations`. -/
def plannedCacheGenerations (receipt : InstallReceipt) (trees : Trees) :
    Except UninstallError (List OwnedRoot) :=
  if receipt.cachePath.dropLast ≠ cacheParent then .error (.install cacheOwnershipUnknown)
  else do
    checks.cache receipt trees
    .ok [⟨receipt.cachePath, receipt.cacheIdentity⟩]

/-- `planned_runtime_roots`. -/
def plannedRuntimeRoots (receipt : InstallReceipt) (trees : Trees) :
    Except UninstallError (List OwnedRoot) :=
  if receipt.runtimePath.dropLast.dropLast ≠ dataParent then
    .error (.install runtimeOwnershipUnknown)
  else do
    checks.runtime receipt trees
    .ok [⟨receipt.runtimePath, receipt.runtimeIdentity⟩]

/-! ### The decision -/

/-- Purge what the completion record is bound to. -/
def purgePlan (config : Bytes) (roots completionRoots : List OwnedRoot) : Option ExecutionPlan :=
  if roots = [] then none
  else some ⟨config, [], [], roots, completionRoots, true⟩

/-- The `except` clause around `load_install_receipt`; nothing means that nothing is
    left to remove. -/
def planWithoutReceipt (sourceRoot : String) (purge : Bool) (config : Bytes) (reason : String) :
    Uninstalling Digest (Option ExecutionPlan) := do
  let completion ← Run.look (.read .completion) (loadUninstallCompletion sourceRoot)
  match completion with
  | some completion =>
      if reason ≠ reinstallRequired then refuse reason
      else if purge = true then
        (fun roots => purgePlan config roots completion.dataRoots) <$>
          Run.look (.read .boundRoots) fun disk =>
            validateBoundDataRoots checks order completion.dataRoots disk.tree
      else pure none
  | none =>
      if reason ≠ reinstallRequired ∨ purge = true then refuse reason
      else do
        let present ← Run.look (.read .cachePresent) fun disk => checks.cachePresent disk.tree
        if present = true then refuse reason
        else do
          let targets ← Run.look (.read .targets) fun _ => checks.hasTargets config
          if targets = true then refuse reason else pure none

/-- The plan from a receipt. -/
def planWithReceipt (purge : Bool) (config : Bytes) (receipt : InstallReceipt) :
    Uninstalling Digest (Option ExecutionPlan) := do
  let caches ← Run.look (.read .cachePlan) fun disk =>
    plannedCacheGenerations checks receipt disk.tree
  let runtimes ← Run.look (.read .runtimePlan) fun disk =>
    if purge = true then .ok [] else plannedRuntimeRoots checks receipt disk.tree
  let completionRoots ← Run.look (.read .dataPlan) fun disk => plannedDataRoots checks disk.tree
  let replacement ← liftExcept (checks.removal config receipt)
  pure (some ⟨replacement, caches, runtimes, if purge = true then completionRoots else [],
    completionRoots, purge⟩)

/-- `load_install_receipt` with its installer errors caught. -/
def tryInstallReceipt (sourceRoot : String) :
    Uninstalling Digest (Except String InstallReceipt) :=
  Run.attempt (.ok <$> Run.look (.read .receipt) (loadInstallReceipt checks sourceRoot)) fun error =>
    match error with
    | .os => Run.raise .os
    | .install reason => pure (.error reason)

/-- What a run of `uninstall` without a pending record has to do. -/
def planUninstall (sourceRoot : String) (purge : Bool) (config : Bytes) :
    Uninstalling Digest (Option ExecutionPlan) := do
  let found ← tryInstallReceipt checks sourceRoot
  match found with
  | .error reason => planWithoutReceipt checks order sourceRoot purge config reason
  | .ok receipt => planWithReceipt checks purge config receipt

/-! ### The command -/

variable [DecidableEq Digest] (sha256 : Bytes → Digest) (sourceRoot : String)

/-- `uninstall` without a pending record: plan and execute. -/
def freshUninstall (token : ℕ → String) (purge : Bool) (config : Bytes) :
    Uninstalling Digest UninstallReceipt := do
  let plan ← planUninstall checks order sourceRoot purge config
  match plan with
  | none => do
      let preserved ← preservedRoots purge
      pure ⟨false, 0, 0, 0, preserved⟩
  | some plan => executePlan sha256 sourceRoot token config plan

/-- Finish the run that wrote the pending record. -/
def finishPending (pending : PendingUninstall Digest) : Uninstalling Digest UninstallReceipt := do
  cleanupPending pending
  markUninstallComplete sourceRoot pending.completionDataRoots pending.purgeData
  removeInstallReceipt
  removePending .pending
  let preserved ← preservedRoots pending.purgeData
  pure ⟨true, pending.cacheCount, pending.runtimeCount, pending.dataCount, preserved⟩

/-- Take the run that wrote the pending record back, and start anew. -/
def restartPending (token : ℕ → String) (purge : Bool) (pending : PendingUninstall Digest) :
    Uninstalling Digest UninstallReceipt := do
  rollbackPending .rollback pending
  removePending .rolledBack
  let config ← Run.look (.read .configAgain) fun disk => .ok disk.config
  freshUninstall checks order sha256 sourceRoot token purge config

/-- `uninstall`. -/
def uninstall (token : ℕ → String) (purge : Bool) : Uninstalling Digest UninstallReceipt := do
  let config ← Run.look (.read .config) fun disk => .ok disk.config
  let pending ← loadPending (.read .pending)
  match pending with
  | none => freshUninstall checks order sha256 sourceRoot token purge config
  | some pending => do
      let progress ← liftExcept (currentPhase sha256 pending config)
      match progress with
      | .before => restartPending checks order sha256 sourceRoot token purge pending
      | .after => finishPending sourceRoot pending

end CodexMustWork
