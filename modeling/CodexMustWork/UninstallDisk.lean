import CodexMustWork.ConfigFiles

/-!
# What an uninstall finds on disk

The configuration, the roots an uninstall may take away, and the signed records of
the installer's private root.  A signed record is kept as the value it carries: the
signature makes a record either one that was written or one that does not load.

A root is moved and deleted as a whole, so `tree` has one entry for each root that
is planned or quarantined.  The deletions made so far are kept with the pending
record there was when each was made.
-/

namespace CodexMustWork

open DisturbedRuns

/-- A path below the Codex home, as its components. -/
abbrev RootPath := List String

/-- `CacheIdentity`. -/
structure CacheIdentity where
  device : ℕ
  inode : ℕ
deriving DecidableEq, Repr

/-- `OwnedRoot`. -/
structure OwnedRoot where
  path : RootPath
  identity : CacheIdentity
deriving DecidableEq, Repr

/-- `QuarantinedRoot`. -/
structure QuarantinedRoot where
  original : RootPath
  quarantine : RootPath
  identity : CacheIdentity
deriving DecidableEq, Repr

/-- What `_delete_children` meets: regular files with one link, directories, and what
    it refuses. -/
inductive Entry where
  | regular
  | directory
  | unsafeObject
deriving DecidableEq, Repr

/-- A root: its identity, and its entries in the order they are deleted, each
    directory after what it holds. -/
structure Tree where
  identity : CacheIdentity
  entries : List Entry
deriving DecidableEq, Repr

/-- Only what can be deleted. -/
def Tree.Safe (tree : Tree) : Prop := ∀ entry ∈ tree.entries, entry ≠ .unsafeObject

inductive Phase where
  | prepared
  | committed
deriving DecidableEq, Repr

/-- `PendingUninstall`; a digest is what `_sha256` gives. -/
structure PendingUninstall (Digest : Type) where
  beforeDigest : Digest
  afterDigest : Digest
  roots : List QuarantinedRoot
  cacheCount : ℕ
  runtimeCount : ℕ
  dataCount : ℕ
  phase : Phase
  purgeData : Bool
  completionDataRoots : List OwnedRoot

/-- `UninstallCompletion` with the source root its record is bound to. -/
structure UninstallCompletion where
  sourceRoot : String
  dataRoots : List OwnedRoot
  dataPurged : Bool
deriving DecidableEq, Repr

/-- `ReceiptHook`. -/
structure ReceiptHook where
  key : String
  command : String
  trustedHash : String
deriving DecidableEq, Repr

/-- `InstallReceipt`. -/
structure InstallReceipt where
  cachePath : RootPath
  cacheVersion : String
  cacheIdentity : CacheIdentity
  packageDigest : String
  sourceRoot : String
  hooks : List ReceiptHook
  runtimePath : RootPath
  runtimeIdentity : CacheIdentity
  runtimeGeneration : String
deriving DecidableEq, Repr

/-- One deletion of a root or of something in it. -/
structure Removal (Digest : Type) where
  identity : CacheIdentity
  signed : Option (PendingUninstall Digest)

abbrev Trees := RootPath → Option Tree

structure Disk (Digest : Type) where
  config : Bytes
  tree : Trees
  pending : Option (PendingUninstall Digest)
  completion : Option UninstallCompletion
  receipt : Option InstallReceipt
  removals : List (Removal Digest)

/-- What a step of an uninstall raises: `OSError` or `InstallPluginError`. -/
inductive UninstallError where
  | os
  | install (reason : String)
deriving DecidableEq, Repr

/-! ### Places -/

/-- What is being done to a root. -/
inductive RootTask where
  | plan
  | quarantine
  | undo
  | rollback
  | cleanup
  | delete
deriving DecidableEq, Repr

/-- The calls made for one root. -/
inductive RootStep where
  | parent
  | original
  | quarantine
  | rename
  | moved
  | parentAgain
  | openParent
  | openRoot
  | scan
  | entry (left : ℕ)
  | named
  | rmdir
deriving DecidableEq, Repr

inductive SignedRecord where
  | prepared
  | committed
  | completion
deriving DecidableEq, Repr

/-- Up to the replacement of the record, the replacement, and making it durable. -/
inductive RecordStep where
  | make
  | publish
  | flush
deriving DecidableEq, Repr

inductive RemovedRecord where
  | undone
  | rolledBack
  | receipt
  | pending
deriving DecidableEq, Repr

inductive RemoveStep where
  | lstat
  | unlink
  | flush
deriving DecidableEq, Repr

/-- The reads of an uninstall. -/
inductive Reading where
  | config
  | pending
  | configAgain
  | receipt
  | completion
  | boundRoots
  | cachePresent
  | targets
  | cachePlan
  | runtimePlan
  | dataPlan
  | failedConfig
  | failedPending
  | presentRoots
deriving DecidableEq, Repr

/-- Where a call of an uninstall is made. -/
inductive Spot where
  | read (what : Reading)
  | root (task : RootTask) (index : ℕ) (step : RootStep)
  | record (which : SignedRecord) (step : RecordStep)
  | remove (which : RemovedRecord) (step : RemoveStep)
  | writeConfig
deriving DecidableEq, Repr

abbrev Uninstalling (Digest : Type) := Run Spot (Disk Digest) UninstallError

section Calls

variable {Digest α : Type}

def refuse (reason : String) : Uninstalling Digest α := Run.raise (.install reason)

def pendingInvalid : String := "uninstall_pending_invalid"
def pendingConfigConflict : String := "uninstall_pending_config_conflict"
def deleteRace : String := "uninstall_delete_race"
def rollbackConflict : String := "uninstall_rollback_conflict"
def rollbackFailed : String := "uninstall_rollback_failed"
def receiptInvalid : String := "uninstall_receipt_invalid"
def reinstallRequired : String := "uninstall_receipt_reinstall_required"
def recordWriteFailed : String := "install_receipt_publication_failed"
def dataOwnershipUnknown : String := "uninstall_data_ownership_unknown"
def cacheOwnershipUnknown : String := "uninstall_cache_ownership_unknown"
def runtimeOwnershipUnknown : String := "uninstall_runtime_ownership_unknown"
def configChanged : String := "codex_config_concurrent_change"

/-- `except OSError as error: raise InstallPluginError(reason)`. -/
def orElse (reason : String) (body : Uninstalling Digest α) : Uninstalling Digest α :=
  Run.attempt body fun error =>
    match error with
    | .os => refuse reason
    | .install other => refuse other

/-- A call that finds nothing wrong unless it fails. -/
def check (spot : Spot) : Uninstalling Digest Unit := Run.look spot fun _ => .ok ()

/-- `identity(path.lstat())`. -/
def identityAt (spot : Spot) (path : RootPath) : Uninstalling Digest CacheIdentity :=
  Run.look spot fun disk =>
    match disk.tree path with
    | none => .error .os
    | some tree => .ok tree.identity

/-- `_exists`. -/
def pathTaken (spot : Spot) (path : RootPath) : Uninstalling Digest Bool :=
  orElse deleteRace (Run.look spot fun disk => .ok (disk.tree path).isSome)

/-- `_optional_identity`. -/
def optionalIdentity (spot : Spot) (path : RootPath) :
    Uninstalling Digest (Option CacheIdentity) :=
  orElse pendingInvalid (Run.look spot fun disk => .ok ((disk.tree path).map Tree.identity))

def Trees.move (tree : Trees) (source target : RootPath) : Trees :=
  Function.update (Function.update tree target (tree source)) source none

/-- `rename_no_replace`. -/
def renameNoReplace (spot : Spot) (source target : RootPath) : Uninstalling Digest Unit :=
  Run.act spot fun disk =>
    if (disk.tree source).isSome ∧ (disk.tree target).isNone then
      .ok { disk with tree := Trees.move disk.tree source target }
    else .error .os

/-! ### Signed records -/

/-- `write_signed_record`: the record is replaced by one rename and then flushed. -/
def writeSignedRecord (which : SignedRecord) (store : Disk Digest → Disk Digest) :
    Uninstalling Digest Unit :=
  orElse recordWriteFailed do
    check (.record which .make)
    Run.act (.record which .publish) fun disk => .ok (store disk)
    check (.record which .flush)

/-- `remove_record`. -/
def removeRecord (which : RemovedRecord) (present : Disk Digest → Bool)
    (erase : Disk Digest → Disk Digest) : Uninstalling Digest Unit :=
  orElse receiptInvalid do
    let found ← Run.look (.remove which .lstat) fun disk => .ok (present disk)
    if found = true then do
      Run.act (.remove which .unlink) fun disk => .ok (erase disk)
      check (.remove which .flush)
    else pure ()

end Calls

end CodexMustWork
