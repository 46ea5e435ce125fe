import CodexMustWork.ConfigFiles

/-!
# Publishing a configuration

`write_config_bytes` replaces `config.toml` on POSIX.  It compares, writes the
replacement to a temporary file, compares again, moves the file away to a backup
name, links the temporary in its place and verifies; an error after the move goes
through `_restore`, and the temporary and the backup are removed at the end if
they still are the objects they were.
-/

namespace CodexMustWork

open DisturbedRuns

/-- `_remove_bound`: unlink the name if it still leads to the object. -/
def removeBound (looking unlinking : Place) (name : FileName) (identity : ℕ) :
    Publication Unit :=
  Run.attempt
    (do
      let found ← lstat looking name
      if found = identity then change unlinking fun home => home.unlink name else pure ())
    fun error => if error = .notFound then pure () else Run.raise error

/-- The body of `_temporary`'s `try`. -/
def fillTemporary (data : Bytes) (metadata : PosixMetadata) (identity : ℕ) :
    Publication Unit := do
  change (.temporary .write) fun home =>
    .ok (home.put identity { home.object identity with data := data })
  flush (.temporary .fsync)
  reraising metadataApplyFailed do
    change (.temporary .chown) fun home =>
      .ok (home.put identity { home.object identity with
        metadata := { (home.object identity).metadata with
          owner := metadata.owner, group := metadata.group } })
    change (.temporary .chmod) fun home =>
      .ok (home.put identity { home.object identity with
        metadata := { (home.object identity).metadata with mode := metadata.mode } })
  flush (.temporary .sync)
  let named ← lstat (.temporary .lstat) .temporary
  if named ≠ identity then fail publicationFailed
  else
    let captured ← captureMetadata (.temporary .required) (.temporary .requiredNamed)
      (.temporary .listxattr) .temporary identity
    if captured ≠ metadata then fail metadataInvalid else pure ()

/-- `_temporary`: the replacement in a file of its own, with the final metadata.
    `creation` is the metadata `mkstemp` gives. -/
def makeTemporary (data : Bytes) (metadata creation : PosixMetadata) : Publication ℕ := do
  let descriptor ← mkstemp (.temporary .mkstemp) .temporary creation
  let status ← fstat (.temporary .fstat) descriptor
  Run.attempt (fillTemporary data metadata status.identity) fun error => do
    removeBound (.temporary .discardLstat) (.temporary .discardUnlink) .temporary status.identity
    Run.raise error
  pure status.identity

/-- `_unused_path`. -/
def unusedPath (creation : PosixMetadata) : Publication Unit := do
  let _ ← mkstemp .unusedMkstemp .backup creation
  change .unusedUnlink fun home => home.unlink .backup

/-- `_temporary_guard`. -/
def temporaryGuard (identity : ℕ) : Publication ℕ := do
  let descriptor ← openDirectFile (.publish .guardOpen) (.publish .guardFstat)
    (.publish .guardNamed) .temporary
  let opened ← fstat (.publish .guardIdentity) descriptor
  if opened.identity ≠ identity then fail publicationFailed else pure descriptor

/-- `_publish_posix` after the move: link the temporary in place of the file that
    was expected, or link back the file that was not. -/
def linkMoved (lease : InstallerLease) (expected : ConfigSnapshot) (temporary : ℕ) :
    Publication ℕ := do
  let captured ← captureConfigSnapshot .backup .backup lease
  if captured.state ≠ expected.state then
    Run.attempt (change (.publish .linkBack) fun home => home.link .backup .config) fun error =>
      if error = .exists then pure () else Run.raise error
    fail concurrentChange
  else
    Run.attempt (change (.publish .link) fun home => home.link .temporary .config) fun error =>
      if error = .exists then fail concurrentChange else Run.raise error
    change (.publish .unlink) fun home => home.unlink .temporary
    pure temporary

/-- `_publish_posix`. -/
def publishPosix (lease : InstallerLease) (expected : ConfigSnapshot) (temporary : ℕ) :
    Publication ℕ := do
  change (.publish .rename) fun home => home.rename .config .backup
  linkMoved lease expected temporary

/-- `publish_snapshot` on POSIX. -/
def publishSnapshot (lease : InstallerLease) (expected : ConfigSnapshot) (temporary : ℕ)
    (descriptor : ℕ) : Publication ℕ := do
  let opened ← fstat (.publish .fstat) descriptor
  if opened.identity ≠ temporary then fail publicationFailed
  else
    let named ← lstat (.publish .lstat) .temporary
    if named ≠ temporary then fail publicationFailed
    else if expected.identity = none then
      Run.attempt (change (.publish .createLink) fun home => home.link .temporary .config)
        fun error => if error = .exists then fail concurrentChange else Run.raise error
      change (.publish .createUnlink) fun home => home.unlink .temporary
      lstat (.publish .createLstat) .config
    else publishPosix lease expected temporary

/-- `_verify_published` on POSIX. -/
def verifyPublished (lease : InstallerLease) (replacement : Bytes) (identity : ℕ)
    (metadata : PosixMetadata) : Publication Unit := do
  let _ ← openDirectFile (.verify .open) (.verify .fstat) (.verify .named) .config
  flush (.verify .fsync)
  flush (.verify .flush)
  let final ← captureConfigSnapshot .published .config lease
  if final.state ≠ (replacement, some identity, some metadata) then fail metadataInvalid
  else pure ()

/-- `backup.exists() and file_identity(backup.lstat()) == identity`. -/
def backupIs (identity : ℕ) : Publication Bool := do
  let present ← pathExists (.restore .backupExists) .backup
  if present then
    let found ← lstat (.restore .backupLstat) .backup
    pure (decide (found = identity))
  else pure false

/-- The first statement of `_restore`'s `try`: take the publication away again, or
    move the backup home. -/
def putBackFile (expected : ConfigSnapshot) (temporary : ℕ) : Publication Unit :=
  match expected.identity with
  | none => removeBound (.restore .removeLstat) (.restore .removeUnlink) .config temporary
  | some identity => do
      let ours ← backupIs identity
      if ours then change (.restore .replace) fun home => home.rename .backup .config
      else
        let found ← lstat (.restore .configLstat) .config
        if found ≠ identity then fail restoreFailed else pure ()

/-- The body of `_restore`'s `try`. -/
def putBack (lease : InstallerLease) (expected : ConfigSnapshot) (temporary : ℕ) :
    Publication Unit := do
  putBackFile expected temporary
  flush (.restore .flush)
  let restored ← captureConfigSnapshot .restored .config lease
  if restored ≠ expected then fail restoreFailed else pure ()

/-- `_restore`. -/
def restore (lease : InstallerLease) (expected : ConfigSnapshot) (temporary : ℕ)
    (replacement : Bytes) : Publication Unit := do
  let current ← captureConfigSnapshot .current .config lease
  if current = expected then pure ()
  else if current.identity ≠ some temporary ∨ current.data ≠ replacement then
    fail concurrentChange
  else Run.attempt (putBack lease expected temporary) fun _ => fail restoreFailed

/-- `published or backup.exists()`. -/
def movedAway (published : Bool) : Publication Bool :=
  if published then pure true else pathExists (.restore .exists) .backup

/-- An error as the installer error that leaves `write_config_bytes`. -/
def asInstallerError {α : Type} : PublicationError → Publication α
  | .install reason => fail reason
  | _ => fail publicationFailed

/-- The `except` clause of `write_config_bytes`: roll back what was published, then
    raise the error as an installer error. -/
def afterFailure {α : Type} (lease : InstallerLease) (expected : ConfigSnapshot)
    (temporary : ℕ) (replacement : Bytes) (published : Bool) (error : PublicationError) :
    Publication α := do
  let moved ← movedAway published
  (if moved then restore lease expected temporary replacement else pure () : Publication Unit)
  asInstallerError error

/-- The statements of `write_config_bytes`'s `try` up to the publication. -/
def checkAndPublish (lease : InstallerLease) (expected : ConfigSnapshot) (temporary : ℕ) :
    Publication ℕ := do
  let found ← captureConfigSnapshot .second .config lease
  if found ≠ expected then fail concurrentChange
  else
    let descriptor ← temporaryGuard temporary
    publishSnapshot lease expected temporary descriptor

/-- The statements of the `try` after it. -/
def verifyIdentity (lease : InstallerLease) (replacement : Bytes) (metadata : PosixMetadata)
    (temporary actual : ℕ) : Publication Unit :=
  if actual ≠ temporary then fail publicationFailed
  else verifyPublished lease replacement temporary metadata

/-- The body of `write_config_bytes`'s `try` with its `except` clause, which knows
    whether the publication was made. -/
def publish (lease : InstallerLease) (expected : ConfigSnapshot) (replacement : Bytes)
    (metadata : PosixMetadata) (temporary : ℕ) : Publication Unit := do
  let actual ← Run.attempt (checkAndPublish lease expected temporary)
    (afterFailure lease expected temporary replacement false)
  Run.attempt (verifyIdentity lease replacement metadata temporary actual)
    (afterFailure lease expected temporary replacement true)

/-- The `finally` clause of `write_config_bytes`. -/
def cleanUp (expected : ConfigSnapshot) (temporary : ℕ) : Publication Unit := do
  removeBound (.cleanup .temporaryLstat) (.cleanup .temporaryUnlink) .temporary temporary
  match expected.identity with
  | none => pure ()
  | some identity =>
      removeBound (.cleanup .backupLstat) (.cleanup .backupUnlink) .backup identity

/-- `expected.metadata or private_creation_metadata(...)`. -/
def publishedMetadata (lease : InstallerLease) (expected : ConfigSnapshot) :
    Publication PosixMetadata :=
  match expected.metadata with
  | some metadata => pure metadata
  | none => inspect .lockMetadata fun _ => .ok { lease.lockMetadata with mode := 0o600 }

/-- `write_config_bytes` on POSIX. -/
def writeConfigBytes (lease : InstallerLease) (creation : PosixMetadata)
    (expected : ConfigSnapshot) (replacement : Bytes) : Publication Bytes := do
  requireLiveLease .lease lease
  if expected.leaseOwner ≠ lease.owner ∨ expected.path ≠ .config then fail leaseMismatch
  else
    let found ← captureConfigSnapshot .first .config lease
    if found ≠ expected then fail concurrentChange
    else if expected.identity ≠ none ∧ replacement = expected.data then pure replacement
    else
      let metadata ← publishedMetadata lease expected
      let temporary ← makeTemporary replacement metadata creation
      unusedPath creation
      Run.ensuring (publish lease expected replacement metadata temporary)
        (cleanUp expected temporary)
      pure replacement

/-- `read_config_bytes`. -/
def readConfigBytes (lease : InstallerLease) : Publication ConfigSnapshot := do
  requireLiveLease .lease lease
  captureConfigSnapshot .read .config lease

end CodexMustWork
