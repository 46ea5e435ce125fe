import CodexMustWork.InstalledGeneration
import CodexMustWork.Library.DisturbedRuns
import Mathlib.Logic.Function.Basic

/-!
# The files of a Codex home

The part of the file system that config publication touches: three names in one
directory and the objects they lead to.  Every system call is one operation of a
disturbed run, named by the place it is made from, so that another process can
act, a call can fail or the process can die between any two of them.

`open_direct_file` and `capture_config_snapshot` are the reads everything else is
checked against: one regular file with one link, the same object at its name
before and after it is read.
-/

namespace CodexMustWork

open DisturbedRuns

abbrev Bytes := List UInt8

/-- The names in the home directory. -/
inductive FileName where
  | config
  | temporary
  | backup
deriving DecidableEq, Repr

/-- `PosixMetadata`. -/
structure PosixMetadata where
  owner : ℕ
  group : ℕ
  mode : ℕ
deriving DecidableEq, Repr

/-- One object of the file system: its bytes, its metadata, whether it is a regular
    file, its links under other names, and whether it has extended attributes. -/
structure FileObject where
  data : Bytes
  metadata : PosixMetadata
  regular : Bool
  otherLinks : ℕ
  attributes : Bool
deriving DecidableEq, Repr

/-- The names, the objects, and the identity the next new object gets. -/
structure Home where
  entry : FileName → Option ℕ
  object : ℕ → FileObject
  next : ℕ

/-- The links of an object. -/
def Home.links (home : Home) (identity : ℕ) : ℕ :=
  (([FileName.config, .temporary, .backup].filter
    fun name => home.entry name == some identity).length) + (home.object identity).otherLinks

def Home.bind (home : Home) (name : FileName) (identity : Option ℕ) : Home :=
  { home with entry := Function.update home.entry name identity }

def Home.put (home : Home) (identity : ℕ) (object : FileObject) : Home :=
  { home with object := Function.update home.object identity object }

/-- A new regular file under a name. -/
def Home.create (home : Home) (name : FileName) (data : Bytes) (metadata : PosixMetadata) : Home :=
  { entry := Function.update home.entry name (some home.next)
    object := Function.update home.object home.next ⟨data, metadata, true, 0, false⟩
    next := home.next + 1 }

/-- What a step of the publication raises. -/
inductive PublicationError where
  | notFound
  | exists
  | os
  | unsafeStatePath
  | install (reason : String)
deriving DecidableEq, Repr

def concurrentChange : String := "codex_config_concurrent_change"
def metadataInvalid : String := "codex_config_metadata_revalidation_failed"
def publicationFailed : String := "codex_config_publication_failed"
def restoreFailed : String := "codex_config_restore_failed"
def unsafePath : String := "codex_config_unsafe_path"
def metadataUnsupported : String := "codex_config_metadata_unsupported"
def metadataApplyFailed : String := "codex_config_metadata_apply_failed"
def leaseInvalid : String := "installer_lock_lease_invalid"
def leaseMismatch : String := "installer_lock_lease_mismatch"

/-! ### Places -/

/-- The captures of one publication. -/
inductive Capture where
  | read
  | first
  | second
  | backup
  | published
  | current
  | restored
deriving DecidableEq, Repr

/-- The calls of one capture, in order. -/
inductive CaptureStep where
  | lease
  | lstat
  | open
  | fstat
  | named
  | read
  | opened
  | required
  | requiredNamed
  | listxattr
deriving DecidableEq, Repr

/-- The calls that make the temporary file. -/
inductive TemporaryStep where
  | mkstemp
  | fstat
  | write
  | fsync
  | chown
  | chmod
  | sync
  | lstat
  | required
  | requiredNamed
  | listxattr
  | discardLstat
  | discardUnlink
deriving DecidableEq, Repr

/-- The calls up to the rename and the links that publish. -/
inductive PublishStep where
  | guardOpen
  | guardFstat
  | guardNamed
  | guardIdentity
  | fstat
  | lstat
  | createLink
  | createUnlink
  | createLstat
  | rename
  | linkBack
  | link
  | unlink
deriving DecidableEq, Repr

/-- The calls of the verification besides its capture. -/
inductive VerifyStep where
  | open
  | fstat
  | named
  | fsync
  | flush
deriving DecidableEq, Repr

/-- The calls of the rollback besides its captures. -/
inductive RestoreStep where
  | exists
  | removeLstat
  | removeUnlink
  | backupExists
  | backupLstat
  | replace
  | configLstat
  | flush
deriving DecidableEq, Repr

/-- The calls of the final cleanup. -/
inductive CleanupStep where
  | temporaryLstat
  | temporaryUnlink
  | backupLstat
  | backupUnlink
deriving DecidableEq, Repr

/-- Where a call of a publication is made. -/
inductive Place where
  | lease
  | capture (which : Capture) (step : CaptureStep)
  | lockMetadata
  | temporary (step : TemporaryStep)
  | unusedMkstemp
  | unusedUnlink
  | publish (step : PublishStep)
  | verify (step : VerifyStep)
  | restore (step : RestoreStep)
  | cleanup (step : CleanupStep)
deriving DecidableEq, Repr

abbrev Publication := Run Place Home PublicationError

def fail {α : Type} (reason : String) : Publication α := Run.raise (.install reason)

/-! ### System calls -/

/-- A call that reads. -/
def inspect {α : Type} (place : Place) (look : Home → Except PublicationError α) :
    Publication α :=
  Run.operation place fun home => (look home).map fun value => (value, home)

/-- A call that writes. -/
def change (place : Place) (step : Home → Except PublicationError Home) : Publication Unit :=
  Run.operation place fun home => (step home).map fun next => ((), next)

/-- The identity a name leads to. -/
def Home.lookup (home : Home) (name : FileName) : Except PublicationError ℕ :=
  match home.entry name with
  | none => .error .notFound
  | some identity => .ok identity

def lstat (place : Place) (name : FileName) : Publication ℕ :=
  inspect place fun home => home.lookup name

/-- `os.open` with `O_NOFOLLOW`. -/
def openNoFollow (place : Place) (name : FileName) : Publication ℕ :=
  inspect place fun home => home.lookup name

/-- What `fstat` shows of an opened object. -/
structure FileStatus where
  identity : ℕ
  metadata : PosixMetadata
  regular : Bool
  links : ℕ
deriving DecidableEq, Repr

def Home.status (home : Home) (identity : ℕ) : FileStatus :=
  ⟨identity, (home.object identity).metadata, (home.object identity).regular,
    home.links identity⟩

def fstat (place : Place) (descriptor : ℕ) : Publication FileStatus :=
  inspect place fun home => .ok (home.status descriptor)

def readAll (place : Place) (descriptor : ℕ) : Publication Bytes :=
  inspect place fun home => .ok (home.object descriptor).data

def listxattr (place : Place) (descriptor : ℕ) : Publication Bool :=
  inspect place fun home => .ok (home.object descriptor).attributes

/-- A call that only makes things durable. -/
def flush (place : Place) : Publication Unit :=
  inspect place fun _ => .ok ()

/-- `Path.exists`. -/
def pathExists (place : Place) (name : FileName) : Publication Bool :=
  inspect place fun home => .ok (home.entry name).isSome

/-- `rename(2)`: two names of one object stay as they are. -/
def Home.rename (home : Home) (source target : FileName) : Except PublicationError Home :=
  match home.entry source with
  | none => .error .notFound
  | some identity =>
      if home.entry target = some identity then .ok home
      else .ok ((home.bind target (some identity)).bind source none)

def Home.link (home : Home) (source target : FileName) : Except PublicationError Home :=
  match home.entry source with
  | none => .error .notFound
  | some identity =>
      match home.entry target with
      | some _ => .error .exists
      | none => .ok (home.bind target (some identity))

def Home.unlink (home : Home) (name : FileName) : Except PublicationError Home :=
  match home.entry name with
  | none => .error .notFound
  | some _ => .ok (home.bind name none)

/-- `tempfile.mkstemp`: a new empty file under an unused name. -/
def mkstemp (place : Place) (name : FileName) (creation : PosixMetadata) : Publication ℕ :=
  Run.operation place fun home => .ok (home.next, home.create name [] creation)

/-- `except OSError as error: raise InstallPluginError(reason)`. -/
def reraising {α : Type} (reason : String) (body : Publication α) : Publication α :=
  Run.attempt body fun error =>
    match error with
    | .notFound => fail reason
    | .exists => fail reason
    | .os => fail reason
    | .unsafeStatePath => Run.raise .unsafeStatePath
    | .install other => fail other

/-! ### Reading one direct file -/

/-- `open_direct_file`, with the places of its three calls. -/
def openDirectFile (opening fstatting naming : Place) (name : FileName) : Publication ℕ := do
  let descriptor ← Run.attempt (openNoFollow opening name) fun _ => Run.raise .unsafeStatePath
  let opened ← fstat fstatting descriptor
  let named ← lstat naming name
  if opened.regular = false ∨ opened.links ≠ 1 ∨ opened.identity ≠ named then
    Run.raise .unsafeStatePath
  else pure descriptor

/-- `_require_identity`. -/
def requireIdentity (fstatting naming : Place) (name : FileName) (descriptor : ℕ) :
    Publication FileStatus := do
  let (opened, named) ← reraising unsafePath do
    let opened ← fstat fstatting descriptor
    let named ← lstat naming name
    pure (opened, named)
  if opened.regular = true ∧ opened.links = 1 ∧ opened.identity = named then pure opened
  else fail unsafePath

/-- `capture_metadata` on POSIX. -/
def captureMetadata (fstatting naming listing : Place) (name : FileName) (descriptor : ℕ) :
    Publication PosixMetadata := do
  let opened ← requireIdentity fstatting naming name descriptor
  let attributes ← reraising metadataUnsupported (listxattr listing descriptor)
  if attributes = true then fail metadataUnsupported else pure opened.metadata

/-- The installer lease, as far as publication looks at it. -/
structure InstallerLease where
  owner : ℕ × ℕ
  live : Bool
  lockMetadata : PosixMetadata
deriving DecidableEq, Repr

/-- `require_live_lease`. -/
def requireLiveLease (place : Place) (lease : InstallerLease) : Publication Unit :=
  reraising leaseInvalid <| inspect place fun _ =>
    if lease.live then .ok () else .error (.install leaseInvalid)

/-- `ConfigSnapshot`. -/
structure ConfigSnapshot where
  data : Bytes
  identity : Option ℕ
  metadata : Option PosixMetadata
  path : FileName
  leaseOwner : ℕ × ℕ
deriving DecidableEq, Repr

/-- The part of a snapshot that does not depend on where it was taken. -/
def ConfigSnapshot.state (snapshot : ConfigSnapshot) :
    Bytes × Option ℕ × Option PosixMetadata :=
  (snapshot.data, snapshot.identity, snapshot.metadata)

/-- What the opened file shows, with the errors of opening it made public. -/
def captureOpened (which : Capture) (path : FileName) :
    Publication (Bytes × FileStatus × PosixMetadata) :=
  Run.attempt
    (do
      let descriptor ← openDirectFile (.capture which .open) (.capture which .fstat)
        (.capture which .named) path
      let data ← readAll (.capture which .read) descriptor
      let opened ← fstat (.capture which .opened) descriptor
      let metadata ← captureMetadata (.capture which .required) (.capture which .requiredNamed)
        (.capture which .listxattr) path descriptor
      pure (data, opened, metadata))
    fun error =>
      match error with
      | .install reason => fail reason
      | _ => fail unsafePath

/-- `capture_config_snapshot`. -/
def captureConfigSnapshot (which : Capture) (path : FileName) (lease : InstallerLease) :
    Publication ConfigSnapshot := do
  requireLiveLease (.capture which .lease) lease
  let named ← Run.attempt (some <$> lstat (.capture which .lstat) path) fun error =>
    if error = .notFound then pure none else Run.raise error
  match named with
  | none => pure ⟨[], none, none, path, lease.owner⟩
  | some named =>
      let (data, opened, metadata) ← captureOpened which path
      if named ≠ opened.identity then fail unsafePath
      else pure ⟨data, some opened.identity, some metadata, path, lease.owner⟩

end CodexMustWork
