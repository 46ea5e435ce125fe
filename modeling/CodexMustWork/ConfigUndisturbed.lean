import CodexMustWork.ConfigReading

/-!
# Publication undisturbed

What the parts of `write_config_bytes` do when nothing happens at their calls:
the temporary file is made beside `config.toml`, the second check passes, the
file is moved away and the temporary is linked in its place.  The states in
between are described by what the three names lead to.
-/

namespace CodexMustWork

open DisturbedRuns

/-! ### Stretches of the run -/

/-- The calls of a successful run that prepare the temporary file. -/
def Place.preparing : Place → Bool
  | .lease => true
  | .capture .first _ => true
  | .temporary .discardLstat => false
  | .temporary .discardUnlink => false
  | .temporary _ => true
  | .unusedMkstemp => true
  | .unusedUnlink => true
  | _ => false

/-- The calls of a successful run that check once more before the move. -/
def Place.checking : Place → Bool
  | .capture .second _ => true
  | .publish .guardOpen => true
  | .publish .guardFstat => true
  | .publish .guardNamed => true
  | .publish .guardIdentity => true
  | .publish .fstat => true
  | .publish .lstat => true
  | _ => false

/-- The calls of a successful run up to the move. -/
def Place.upToMove (place : Place) : Bool :=
  place.preparing || place.checking || place == .publish .rename

/-- The calls between the move and the link, and the link. -/
def Place.upToLink : Place → Bool
  | .capture .backup _ => true
  | .publish .link => true
  | _ => false

/-- The snapshot is that of the direct file at `config.toml`, taken under this live lease. -/
structure Home.Current (home : Home) (identity : ℕ) (lease : InstallerLease)
    (expected : ConfigSnapshot) : Prop where
  live : lease.live = true
  ordinary : home.Ordinary identity
  shown : expected = home.snapshot .config identity lease

/-- The names of a publication are not in use, and `config.toml` is an older object. -/
structure Home.Unused (home : Home) (identity : ℕ) : Prop where
  config : home.entry .config = some identity
  temporary : home.entry .temporary = none
  backup : home.entry .backup = none
  next : identity < home.next

theorem links_eq (home : Home) (identity : ℕ) :
    home.links identity = (if home.entry .config = some identity then 1 else 0) +
      (if home.entry .temporary = some identity then 1 else 0) +
      (if home.entry .backup = some identity then 1 else 0) + (home.object identity).otherLinks := by
  simp only [Home.links, List.filter_cons, List.filter_nil, beq_iff_eq]
  split <;> split <;> split <;> simp

section Undisturbed

variable {weather : Disturbance Place Home PublicationError} {lease : InstallerLease}
  {expected : ConfigSnapshot} {replacement : Bytes} {creation : PosixMetadata}
  {start home : Home} {identity temporary : ℕ} {old new : FileObject}

theorem mkstemp_calm {place : Place} {name : FileName} (hcalm : Calm weather place) (home : Home) :
    mkstemp place name creation weather home =
      .returned home.next (home.create name [] creation) := by
  rw [mkstemp, operation_run hcalm]

theorem makeTemporary_calm {data : Bytes} {metadata : PosixMetadata}
    (hcalm : ∀ step, step ≠ .discardLstat → step ≠ .discardUnlink → Calm weather (.temporary step))
    (hunused : start.Unused identity) :
    makeTemporary data metadata creation weather start =
      .returned start.next (start.create .temporary data metadata) := by
  have hne : identity ≠ start.next := ne_of_lt hunused.next
  have hmetadata : (⟨metadata.owner, metadata.group, metadata.mode⟩ : PosixMetadata) = metadata := rfl
  simp [makeTemporary, fillTemporary, bind_run, pure_run,
    mkstemp_calm (hcalm .mkstemp (by decide) (by decide)), fstat, lstat, flush,
    inspect_calm (hcalm .fstat (by decide) (by decide)),
    inspect_calm (hcalm .fsync (by decide) (by decide)),
    inspect_calm (hcalm .sync (by decide) (by decide)),
    inspect_calm (hcalm .lstat (by decide) (by decide)),
    inspect_calm (hcalm .required (by decide) (by decide)),
    inspect_calm (hcalm .requiredNamed (by decide) (by decide)),
    inspect_calm (hcalm .listxattr (by decide) (by decide)),
    change_calm (hcalm .write (by decide) (by decide)),
    change_calm (hcalm .chown (by decide) (by decide)),
    change_calm (hcalm .chmod (by decide) (by decide)), Run.attempt, reraising, captureMetadata,
    requireIdentity, listxattr, Home.status, Home.put, Home.create, Home.lookup, links_eq,
    hunused.config, hunused.backup, hne, hmetadata]

theorem unusedPath_calm (hmkstemp : Calm weather .unusedMkstemp)
    (hunlink : Calm weather .unusedUnlink) (home : Home) :
    unusedPath creation weather home =
      .returned () ((home.create .backup [] creation).bind .backup none) := by
  simp [unusedPath, bind_run, mkstemp_calm hmkstemp, change_calm hunlink, Home.unlink, Home.create]

/-- The home once the temporary file is there: `config.toml` is one object, the
    temporary file another. -/
structure Home.Staged (home : Home) (identity temporary : ℕ) (old new : FileObject) : Prop where
  atConfig : home.entry .config = some identity
  atTemporary : home.entry .temporary = some temporary
  atBackup : home.entry .backup = none
  distinct : identity ≠ temporary
  oldObject : home.object identity = old
  newObject : home.object temporary = new

/-- A regular file that no other directory links to. -/
structure FileObject.Plain (object : FileObject) : Prop where
  regular : object.regular = true
  otherLinks : object.otherLinks = 0
  attributes : object.attributes = false

theorem Home.Ordinary.plain {home : Home} (hfile : home.Ordinary identity)
    (hunused : home.Unused identity) : (home.object identity).Plain := by
  have hlinks := hfile.links
  simp only [links_eq, hunused.config, hunused.temporary, hunused.backup] at hlinks
  refine ⟨hfile.regular, ?_, hfile.attributes⟩
  simpa using hlinks

theorem staged_of_unused (hunused : start.Unused identity) (data : Bytes)
    (metadata : PosixMetadata) :
    (((start.create .temporary data metadata).create .backup [] creation).bind .backup
      none).Staged identity start.next (start.object identity) ⟨data, metadata, true, 0, false⟩ := by
  have hlt := hunused.next
  have hne : identity ≠ start.next := ne_of_lt hlt
  have hne' : identity ≠ start.next + 1 := by omega
  refine ⟨?_, ?_, ?_, hne, ?_, ?_⟩
  · simp [Home.bind, Home.create, hunused.config]
  · simp [Home.bind, Home.create]
  · simp [Home.bind]
  · simp [Home.bind, Home.create, hne, hne']
  · simp [Home.bind, Home.create]

/-- The home after the move. -/
def Home.moved (home : Home) (identity : ℕ) : Home :=
  (home.bind .backup (some identity)).bind .config none

theorem Home.Staged.ordinary (hstaged : home.Staged identity temporary old new) (hplain : old.Plain) :
    home.Ordinary identity := by
  refine ⟨?_, ?_, ?_⟩
  · rw [hstaged.oldObject, hplain.regular]
  · simp [links_eq, hstaged.atConfig, hstaged.atTemporary, hstaged.atBackup, hstaged.oldObject, hplain.otherLinks, hstaged.distinct.symm]
  · rw [hstaged.oldObject, hplain.attributes]

theorem temporaryGuard_calm (hopen : Calm weather (.publish .guardOpen))
    (hfstat : Calm weather (.publish .guardFstat)) (hnamed : Calm weather (.publish .guardNamed))
    (hidentity : Calm weather (.publish .guardIdentity))
    (hstaged : home.Staged identity temporary old new) (hplain : new.Plain) :
    temporaryGuard temporary weather home = .returned temporary home := by
  simp [temporaryGuard, openDirectFile, openNoFollow, lstat, fstat, bind_run, pure_run, Run.attempt,
    inspect_calm hopen, inspect_calm hfstat, inspect_calm hnamed, inspect_calm hidentity,
    lookup_some hstaged.atTemporary, Home.status, links_eq, hstaged.atConfig, hstaged.atTemporary,
    hstaged.atBackup, hstaged.distinct, hstaged.newObject, hplain.regular, hplain.otherLinks]

/-- Undisturbed, the checks lead to the move. -/
theorem checkAndPublish_calm (hlive : lease.live = true) (hcalm : ∀ place, place.checking = true → Calm weather place)
    (hrename : Calm weather (.publish .rename))
    (hstaged : home.Staged identity temporary old new) (hold : old.Plain) (hnew : new.Plain)
    (hshown : expected = home.snapshot .config identity lease) :
    checkAndPublish lease expected temporary weather home =
      linkMoved lease expected temporary weather (home.moved identity) := by
  have hcapture : captureConfigSnapshot .second .config lease weather home =
      .returned expected home := by
    rw [hshown]
    exact capture_calm (fun step => hcalm _ rfl) hlive hstaged.atConfig (hstaged.ordinary hold)
  have hguard := temporaryGuard_calm (hcalm _ rfl) (hcalm _ rfl) (hcalm _ rfl) (hcalm _ rfl) hstaged hnew
  have hidentity : expected.identity ≠ none := by
    rw [hshown]
    exact Option.some_ne_none identity
  have hrun : home.rename .config .backup = .ok (home.moved identity) := by
    simp [Home.rename, hstaged.atConfig, hstaged.atBackup, Home.moved]
  simp [checkAndPublish, bind_run, hcapture, hguard, publishSnapshot, fstat, lstat,
    inspect_calm (hcalm (.publish .fstat) rfl), inspect_calm (hcalm (.publish .lstat) rfl), Home.status,
    lookup_some hstaged.atTemporary, hidentity, publishPosix, change_calm hrename, hrun]

/-- The home after the link. -/
def Home.linked (home : Home) (identity temporary : ℕ) : Home :=
  (home.moved identity).bind .config (some temporary)

theorem moved_ordinary (hstaged : home.Staged identity temporary old new) (hplain : old.Plain) :
    (home.moved identity).Ordinary identity := by
  refine ⟨?_, ?_, ?_⟩
  · simp [Home.moved, Home.bind, hstaged.oldObject, hplain.regular]
  · simp [links_eq, Home.moved, Home.bind, hstaged.atTemporary, hstaged.oldObject,
      hplain.otherLinks, hstaged.distinct.symm]
  · simp [Home.moved, Home.bind, hstaged.oldObject, hplain.attributes]

/-- Undisturbed, the file that was expected makes way for the temporary. -/
theorem linkMoved_calm (hlive : lease.live = true)
    (hcalm : ∀ place, place.upToLink = true → Calm weather place)
    (hstaged : home.Staged identity temporary old new) (hplain : old.Plain)
    (hshown : expected = home.snapshot .config identity lease) :
    linkMoved lease expected temporary weather (home.moved identity) =
      (change (.publish .unlink) (fun home => home.unlink .temporary) >>= fun _ =>
        pure temporary) weather (home.linked identity temporary) := by
  have hentry : (home.moved identity).entry .backup = some identity := by
    simp [Home.moved, Home.bind]
  have hcapture := capture_calm (fun step => hcalm (.capture .backup step) rfl) hlive hentry
    (moved_ordinary hstaged hplain)
  have hstate : ((home.moved identity).snapshot .backup identity lease).state = expected.state := by
    rw [hshown]
    rfl
  have hlink : (home.moved identity).link .temporary .config =
      .ok (home.linked identity temporary) := by
    simp [Home.link, Home.linked, Home.moved, Home.bind, hstaged.atTemporary]
  simp [linkMoved, bind_run, hcapture, hstate, Run.attempt, change_calm (hcalm (.publish .link) rfl),
    hlink]

/-- Undisturbed, the temporary file is made and the rest runs on it. -/
theorem writeConfigBytes_calm (hcurrent : start.Current identity lease expected)
    (hunused : start.Unused identity) (hdifferent : replacement ≠ expected.data)
    (hcalm : ∀ place, place.preparing = true → Calm weather place) :
    writeConfigBytes lease creation expected replacement weather start =
      (Run.ensuring (publish lease expected replacement (start.object identity).metadata start.next)
        (cleanUp expected start.next) >>= fun _ => pure replacement) weather
        (((start.create .temporary replacement (start.object identity).metadata).create .backup []
          creation).bind .backup none) := by
  have hcapture : captureConfigSnapshot .first .config lease weather start =
      .returned expected start := by
    rw [hcurrent.shown]
    exact capture_calm (fun step => hcalm _ rfl) hcurrent.live hunused.config hcurrent.ordinary
  have htemporary : makeTemporary replacement (start.object identity).metadata creation weather
      start = .returned start.next
        (start.create .temporary replacement (start.object identity).metadata) := by
    refine makeTemporary_calm (fun step hlstat hunlink => hcalm _ ?_) hunused
    cases step <;> first | rfl | contradiction
  have hbackup : ∀ home, unusedPath creation weather home =
      .returned () ((home.create .backup [] creation).bind .backup none) :=
    unusedPath_calm (hcalm .unusedMkstemp rfl) (hcalm .unusedUnlink rfl)
  have howner : expected.leaseOwner = lease.owner ∧ expected.path = .config ∧
      expected.identity = some identity ∧
      expected.metadata = some (start.object identity).metadata := by
    rw [hcurrent.shown]
    exact ⟨rfl, rfl, rfl, rfl⟩
  simp [writeConfigBytes, requireLiveLease, reraising, Run.attempt, bind_run, pure_run,
    inspect_calm (hcalm .lease rfl), hcurrent.live, howner, hcapture, hdifferent,
    publishedMetadata, htemporary, hbackup]

end Undisturbed

end CodexMustWork
