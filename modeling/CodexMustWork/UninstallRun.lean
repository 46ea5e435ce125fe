import CodexMustWork.UninstallDisk

/-!
# Uninstalling

`uninstall` first looks for a pending record of an earlier run and takes that run
back or finishes it, by the digest of `config.toml` and the phase of the record.
Then it plans what to remove and executes the plan: a signed record of the plan,
every root moved to its quarantine name, the configuration replaced, the record
committed, the quarantined roots deleted, the completion recorded and the other
records removed.
-/

namespace CodexMustWork

open DisturbedRuns

variable {Digest : Type}

/-! ### Roots -/

/-- The random quarantine name beside a root. -/
def quarantineName (path : RootPath) (token : String) : RootPath :=
  path.dropLast ++ [".cmw-uninstall-" ++ token]

/-- `plan_quarantine`. -/
def planQuarantine (index : ℕ) (token : String) (root : OwnedRoot) :
    Uninstalling Digest QuarantinedRoot :=
  orElse deleteRace do
    check (.root .plan index .parent)
    let found ← identityAt (.root .plan index .original) root.path
    if found ≠ root.identity then refuse deleteRace
    else do
      let taken ← pathTaken (.root .plan index .quarantine) (quarantineName root.path token)
      if taken = true then refuse deleteRace
      else pure ⟨root.path, quarantineName root.path token, root.identity⟩

/-- `quarantine_owned_root`. -/
def quarantineOwnedRoot (index : ℕ) (root : QuarantinedRoot) : Uninstalling Digest Unit :=
  orElse deleteRace do
    check (.root .quarantine index .parent)
    let found ← identityAt (.root .quarantine index .original) root.original
    if found ≠ root.identity then refuse deleteRace
    else do
      let taken ← pathTaken (.root .quarantine index .quarantine) root.quarantine
      if taken = true then refuse deleteRace
      else do
        renameNoReplace (.root .quarantine index .rename) root.original root.quarantine
        let moved ← identityAt (.root .quarantine index .moved) root.quarantine
        check (.root .quarantine index .parentAgain)
        if moved ≠ root.identity then refuse deleteRace else pure ()

/-- `restore_quarantined_root`. -/
def restoreQuarantinedRoot (task : RootTask) (index : ℕ) (root : QuarantinedRoot) :
    Uninstalling Digest Unit :=
  orElse rollbackFailed do
    let taken ← pathTaken (.root task index .parent) root.original
    if taken = true then refuse rollbackConflict
    else do
      let found ← identityAt (.root task index .parentAgain) root.quarantine
      if found ≠ root.identity then refuse rollbackConflict
      else do
        renameNoReplace (.root task index .rename) root.quarantine root.original
        let back ← identityAt (.root task index .moved) root.original
        if back ≠ root.identity then refuse rollbackConflict else pure ()

/-- One entry less. -/
def Disk.unlinkEntry (path : RootPath) (disk : Disk Digest) :
    Except UninstallError (Disk Digest) :=
  match disk.tree path with
  | none => .error .os
  | some tree =>
      .ok { disk with
        tree := Function.update disk.tree path (some { tree with entries := tree.entries.tail })
        removals := ⟨tree.identity, disk.pending⟩ :: disk.removals }

/-- `os.rmdir` of a root. -/
def Disk.removeRoot (path : RootPath) (disk : Disk Digest) :
    Except UninstallError (Disk Digest) :=
  match disk.tree path with
  | none => .error .os
  | some tree =>
      if tree.entries ≠ [] then .error .os
      else .ok { disk with
        tree := Function.update disk.tree path none
        removals := ⟨tree.identity, disk.pending⟩ :: disk.removals }

/-- `_delete_children`, for the entries that were found. -/
def deleteEntries (task : RootTask) (index : ℕ) (path : RootPath) :
    List Entry → Uninstalling Digest Unit
  | [] => pure ()
  | entry :: rest =>
      if entry = .unsafeObject then Run.raise .os
      else do
        Run.act (.root task index (.entry rest.length)) (Disk.unlinkEntry path)
        deleteEntries task index path rest

/-- `_delete_posix_tree`. -/
def deleteRuntimeTree (task : RootTask) (index : ℕ) (path : RootPath)
    (expected : CacheIdentity) : Uninstalling Digest Unit := do
  check (.root task index .openParent)
  let opened ← identityAt (.root task index .openRoot) path
  if opened ≠ expected then Run.raise .os
  else do
    let entries ← Run.look (.root task index .scan) fun disk =>
      .ok (((disk.tree path).map Tree.entries).getD [])
    deleteEntries task index path entries
    let named ← identityAt (.root task index .named) path
    if named ≠ expected then Run.raise .os
    else Run.act (.root task index .rmdir) (Disk.removeRoot path)

/-- `delete_quarantined_root`. -/
def deleteQuarantinedRoot (task : RootTask) (index : ℕ) (root : QuarantinedRoot) :
    Uninstalling Digest Unit :=
  orElse deleteRace do
    let found ← identityAt (.root task index .moved) root.quarantine
    if found ≠ root.identity then refuse deleteRace
    else deleteRuntimeTree task index root.quarantine root.identity

/-! ### The pending record -/

/-- The states of `_root_state`. -/
inductive RootState where
  | untouched
  | moved
  | movedWithNewcomer
  | cleaned
  | cleanedWithNewcomer
deriving DecidableEq, Repr

/-- The decision of `_root_state`. -/
def RootState.of (identity : CacheIdentity) (original quarantine : Option CacheIdentity) :
    Except UninstallError RootState :=
  if quarantine ≠ none ∧ quarantine ≠ some identity then .error (.install pendingInvalid)
  else if original = some identity ∧ quarantine = none then .ok .untouched
  else if original = none ∧ quarantine = some identity then .ok .moved
  else if original ≠ none ∧ original ≠ some identity ∧ quarantine = some identity then
    .ok .movedWithNewcomer
  else if original = none ∧ quarantine = none then .ok .cleaned
  else if original ≠ none ∧ original ≠ some identity ∧ quarantine = none then
    .ok .cleanedWithNewcomer
  else .error (.install pendingInvalid)

def liftExcept {α : Type} : Except UninstallError α → Uninstalling Digest α
  | .ok value => pure value
  | .error error => Run.raise error

/-- `_root_state`. -/
def rootState (task : RootTask) (index : ℕ) (root : QuarantinedRoot) :
    Uninstalling Digest RootState := do
  let original ← optionalIdentity (.root task index .original) root.original
  let quarantine ← optionalIdentity (.root task index .quarantine) root.quarantine
  liftExcept (RootState.of root.identity original quarantine)

/-- One root of `rollback_pending`. -/
def rollbackRoot (task : RootTask) (index : ℕ) (root : QuarantinedRoot) :
    Uninstalling Digest Unit := do
  let state ← rootState task index root
  if state = .moved then restoreQuarantinedRoot task index root
  else if state = .untouched then pure ()
  else refuse pendingInvalid

/-- The loop of `rollback_pending`: the first failure is kept and the others go on. -/
def rollbackEach (task : RootTask) :
    List (ℕ × QuarantinedRoot) → Option UninstallError →
      Uninstalling Digest (Option UninstallError)
  | [], failure => pure failure
  | (index, root) :: rest, failure => do
      let caught ← Run.attempt ((fun _ => none) <$> rollbackRoot task index root) fun error =>
        match error with
        | .os => Run.raise .os
        | .install reason => pure (some (.install reason))
      rollbackEach task rest (failure.or caught)

/-- The roots of a record with their positions. -/
def numbered (roots : List QuarantinedRoot) : List (ℕ × QuarantinedRoot) :=
  roots.zipIdx.map fun item => (item.2, item.1)

/-- `rollback_pending`. -/
def rollbackPending (task : RootTask) (pending : PendingUninstall Digest) :
    Uninstalling Digest Unit := do
  let failure ← rollbackEach task (numbered pending.roots).reverse none
  match failure with
  | none => pure ()
  | some error => Run.raise error

/-- One root of `cleanup_pending`. -/
def cleanupRoot (item : ℕ × QuarantinedRoot) : Uninstalling Digest Unit := do
  let state ← rootState .cleanup item.1 item.2
  if state = .cleaned ∨ state = .cleanedWithNewcomer then pure ()
  else if state ≠ .moved ∧ state ≠ .movedWithNewcomer then refuse pendingInvalid
  else deleteQuarantinedRoot .cleanup item.1 item.2

/-- `cleanup_pending`. -/
def cleanupPending (pending : PendingUninstall Digest) : Uninstalling Digest Unit :=
  Run.forEach (numbered pending.roots) cleanupRoot

/-- The classes of `current_phase`. -/
inductive Progress where
  | before
  | after
deriving DecidableEq, Repr

variable [DecidableEq Digest]

/-- `current_phase`. -/
def currentPhase (sha256 : Bytes → Digest) (pending : PendingUninstall Digest) (config : Bytes) :
    Except UninstallError Progress :=
  if pending.beforeDigest = pending.afterDigest ∧ pending.afterDigest = sha256 config then
    if pending.phase = .committed then .ok .after else .ok .before
  else if sha256 config = pending.beforeDigest then
    if pending.phase ≠ .prepared then .error (.install pendingConfigConflict) else .ok .before
  else if sha256 config = pending.afterDigest then .ok .after
  else .error (.install pendingConfigConflict)

/-- The checks of `load_pending_uninstall` on a root that the signature leaves open. -/
def QuarantinedRoot.wellFormed (root : QuarantinedRoot) : Bool :=
  decide (root.quarantine.dropLast = root.original.dropLast) &&
    match root.quarantine.getLast? with
    | none => false
    | some name => ".cmw-uninstall-".toList.isPrefixOf name.toList

/-- `load_pending_uninstall`. -/
def loadPending (spot : Spot) : Uninstalling Digest (Option (PendingUninstall Digest)) := do
  let found ← Run.look spot fun disk => .ok disk.pending
  match found with
  | none => pure none
  | some pending =>
      if pending.roots.all QuarantinedRoot.wellFormed = true then pure (some pending)
      else refuse pendingInvalid

/-- `remove_pending_uninstall`. -/
def removePending (which : RemovedRecord) : Uninstalling Digest Unit :=
  removeRecord which (fun disk => disk.pending.isSome) fun disk => { disk with pending := none }

/-- `remove_install_receipt`. -/
def removeInstallReceipt : Uninstalling Digest Unit :=
  removeRecord .receipt (fun disk => disk.receipt.isSome) fun disk => { disk with receipt := none }

/-- `mark_uninstall_complete`. -/
def markUninstallComplete (sourceRoot : String) (dataRoots : List OwnedRoot)
    (dataPurged : Bool) : Uninstalling Digest Unit :=
  writeSignedRecord .completion fun disk =>
    { disk with completion := some ⟨sourceRoot, dataRoots, dataPurged⟩ }

/-! ### Executing a plan -/

/-- `ExecutionPlan`. -/
structure ExecutionPlan where
  replacement : Bytes
  cacheRoots : List OwnedRoot
  runtimeRoots : List OwnedRoot
  dataRoots : List OwnedRoot
  completionDataRoots : List OwnedRoot
  purgeData : Bool
deriving DecidableEq, Repr

def ExecutionPlan.targets (plan : ExecutionPlan) : List OwnedRoot :=
  plan.cacheRoots ++ plan.runtimeRoots ++ plan.dataRoots

/-- The record of `write_pending_uninstall`. -/
def ExecutionPlan.pending (sha256 : Bytes → Digest) (plan : ExecutionPlan) (before : Bytes)
    (roots : List QuarantinedRoot) (phase : Phase) : PendingUninstall Digest where
  beforeDigest := sha256 before
  afterDigest := sha256 plan.replacement
  roots := roots
  cacheCount := plan.cacheRoots.length
  runtimeCount := plan.runtimeRoots.length
  dataCount := plan.dataRoots.length
  phase := phase
  purgeData := plan.purgeData
  completionDataRoots := plan.completionDataRoots

/-- `write_pending_uninstall`. -/
def writePending (sha256 : Bytes → Digest) (plan : ExecutionPlan) (before : Bytes)
    (roots : List QuarantinedRoot) (which : SignedRecord) (phase : Phase) :
    Uninstalling Digest Unit :=
  writeSignedRecord which fun disk =>
    { disk with pending := some (plan.pending sha256 before roots phase) }

/-- `plan_quarantine` for each target. -/
def planQuarantines (token : ℕ → String) :
    List (OwnedRoot × ℕ) → Uninstalling Digest (List QuarantinedRoot)
  | [] => pure []
  | (root, index) :: rest => do
      let planned ← planQuarantine index (token index) root
      let others ← planQuarantines token rest
      pure (planned :: others)

/-- `write_config_bytes` as one call: all of the replacement is published, or it is
    refused because the configuration is not the one that was read. -/
def writeConfig (before replacement : Bytes) : Uninstalling Digest Unit :=
  Run.act .writeConfig fun disk =>
    if disk.config = before then .ok { disk with config := replacement }
    else .error (.install configChanged)

/-- The `try` of `_execute_plan`, for one way `write_config_bytes` runs. -/
def publishPlanWith (write : Bytes → Bytes → Uninstalling Digest Unit) (sha256 : Bytes → Digest)
    (plan : ExecutionPlan) (before : Bytes) (roots : List QuarantinedRoot) :
    Uninstalling Digest Unit := do
  Run.forEach (numbered roots) fun item => quarantineOwnedRoot item.1 item.2
  (if plan.replacement ≠ before then write before plan.replacement else pure ())
  writePending sha256 plan before roots .committed .committed

/-- The `try` with the write as one call. -/
def publishPlan (sha256 : Bytes → Digest) (plan : ExecutionPlan) (before : Bytes)
    (roots : List QuarantinedRoot) : Uninstalling Digest Unit :=
  publishPlanWith writeConfig sha256 plan before roots

/-- The roll back of the `except` clause of `_execute_plan`. -/
def undoPrepared (sha256 : Bytes → Digest) (config : Bytes) :
    Option (PendingUninstall Digest) → Uninstalling Digest Unit
  | none => pure ()
  | some pending => do
      let progress ← liftExcept (currentPhase sha256 pending config)
      if progress = .before then do
        rollbackPending .undo pending
        removePending .undone
      else pure ()

/-- The `except` clause of `_execute_plan`. -/
def afterFailedPlan (sha256 : Bytes → Digest) (error : UninstallError) :
    Uninstalling Digest Unit := do
  let current ← Run.look (.read .failedConfig) fun disk => .ok disk.config
  let pending ← loadPending (.read .failedPending)
  undoPrepared sha256 current pending
  Run.raise error

/-- `UninstallReceipt`. -/
structure UninstallReceipt where
  configChanged : Bool
  removedCacheGenerations : ℕ
  removedRuntimeRoots : ℕ
  purgedDataRoots : ℕ
  preservedDataRoots : List RootPath
deriving DecidableEq, Repr

/-- `_candidates`, which are also the candidates of `_present_data_roots`. -/
def dataCandidates : List RootPath :=
  [["plugins", "data", "codex-must-work-simdorei"],
    ["plugins", "data", "codex-must-work-codex-must-work-local"], ["codex-must-work"]]

/-- `_present_data_roots`. -/
def presentDataRoots : Uninstalling Digest (List RootPath) :=
  Run.look (.read .presentRoots) fun disk =>
    .ok (dataCandidates.filter fun path => (disk.tree path).isSome)

/-- `() if purge_data else _present_data_roots(home)`. -/
def preservedRoots (purge : Bool) : Uninstalling Digest (List RootPath) :=
  if purge = true then pure [] else presentDataRoots

/-- `_execute_plan`, for one way `write_config_bytes` runs. -/
def executePlanWith (write : Bytes → Bytes → Uninstalling Digest Unit) (sha256 : Bytes → Digest)
    (sourceRoot : String) (token : ℕ → String) (before : Bytes) (plan : ExecutionPlan) :
    Uninstalling Digest UninstallReceipt := do
  let planned ← planQuarantines token plan.targets.zipIdx
  writePending sha256 plan before planned .prepared .prepared
  Run.attempt (publishPlanWith write sha256 plan before planned) (afterFailedPlan sha256)
  Run.forEach (numbered planned) fun item => deleteQuarantinedRoot .delete item.1 item.2
  markUninstallComplete sourceRoot plan.completionDataRoots plan.purgeData
  removeInstallReceipt
  removePending .pending
  let preserved ← preservedRoots plan.purgeData
  pure ⟨decide (plan.replacement ≠ before), plan.cacheRoots.length, plan.runtimeRoots.length,
    plan.dataRoots.length, preserved⟩

/-- `_execute_plan` with the write as one call. -/
def executePlan (sha256 : Bytes → Digest) (sourceRoot : String) (token : ℕ → String)
    (before : Bytes) (plan : ExecutionPlan) : Uninstalling Digest UninstallReceipt :=
  executePlanWith writeConfig sha256 sourceRoot token before plan

end CodexMustWork
