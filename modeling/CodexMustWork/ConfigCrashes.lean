import CodexMustWork.ConfigUndisturbed

/-!
# Publication and crashes

The process publishing a configuration may die before any call, and calls may
fail and send it into the rollback.  Between the move of `config.toml` to the
backup name and the link of the temporary in its place there is no
`config.toml`: a run that stops or fails there ends without one, and every other
run ends with the old bytes or the new ones.
-/

namespace CodexMustWork

open DisturbedRuns

/-- `config.toml` exists with one of two contents. -/
def Home.Holds (home : Home) (old new : Bytes) : Prop :=
  ∃ identity, home.entry .config = some identity ∧
    ((home.object identity).data = old ∨ (home.object identity).data = new)

/-- The run writes, moves the file away, and stops or fails before the link. -/
structure Exposed (weather : Disturbance Place Home PublicationError) (home : Home)
    (identity : ℕ) (lease : InstallerLease) (expected : ConfigSnapshot) (replacement : Bytes) :
    Prop where
  current : home.Current identity lease expected
  different : replacement ≠ expected.data
  moved : ∀ place, place.upToMove = true → Clear weather place
  stopped : ∃ place, place.upToLink = true ∧ ¬ Clear weather place

section Runs

variable {weather : Disturbance Place Home PublicationError} {lease : InstallerLease}
  {expected : ConfigSnapshot} {replacement : Bytes} {creation : PosixMetadata}

/-! ### Small steps of the cleanup -/

theorem removeBound_keeps {inv : Home → Prop} (hsolitary : weather.Solitary)
    {looking unlinking : Place} {name : FileName} {identity : ℕ}
    (hunlink : ∀ home, inv home → inv (home.bind name none)) :
    Keeps weather inv (removeBound looking unlinking name identity) := by
  refine Keeps.attempt (Keeps.bind (Keeps.inspect hsolitary) fun found => ?_)
    fun error => Keeps.ite Keeps.pure Keeps.raise
  refine Keeps.ite (Keeps.change hsolitary ?_) Keeps.pure
  intro home next hhome hstep
  unfold Home.unlink at hstep
  split at hstep
  · cases hstep
  · cases hstep
    exact hunlink home hhome

theorem cleanUp_keeps {inv : Home → Prop} (hsolitary : weather.Solitary) {temporary : ℕ}
    (htemporary : ∀ home, inv home → inv (home.bind .temporary none))
    (hbackup : ∀ home, inv home → inv (home.bind .backup none)) :
    Keeps weather inv (cleanUp expected temporary) := by
  refine Keeps.bind (removeBound_keeps hsolitary htemporary) fun _ => ?_
  cases hidentity : expected.identity with
  | none => exact Keeps.pure
  | some identity => exact removeBound_keeps hsolitary hbackup

theorem verifyPublished_keeps {inv : Home → Prop} (hsolitary : weather.Solitary) {identity : ℕ}
    {metadata : PosixMetadata} :
    Keeps weather inv (verifyPublished lease replacement identity metadata) := by
  refine Keeps.bind (openDirectFile_keeps hsolitary) fun _ => ?_
  refine Keeps.bind (Keeps.inspect hsolitary) fun _ => ?_
  refine Keeps.bind (Keeps.inspect hsolitary) fun _ => ?_
  exact Keeps.bind (capture_keeps hsolitary) fun _ => Keeps.ite Keeps.fail Keeps.pure

theorem afterFailure_keeps {α : Type} {inv : Home → Prop} (hsolitary : weather.Solitary)
    {temporary : ℕ} {published : Bool} {error : PublicationError}
    (hrestore : Keeps weather inv (restore lease expected temporary replacement)) :
    Keeps weather inv
      (afterFailure lease expected temporary replacement published error : Publication α) := by
  refine Keeps.bind ?_ fun moved => ?_
  · exact Keeps.ite Keeps.pure (Keeps.inspect hsolitary)
  · refine Keeps.bind (Keeps.ite hrestore Keeps.pure) fun _ => ?_
    cases error <;> exact Keeps.raise

theorem temporaryGuard_keeps {inv : Home → Prop} (hsolitary : weather.Solitary) {temporary : ℕ} :
    Keeps weather inv (temporaryGuard temporary) := by
  refine Keeps.bind (openDirectFile_keeps hsolitary) fun _ => ?_
  exact Keeps.bind (Keeps.inspect hsolitary) fun _ => Keeps.ite Keeps.fail Keeps.pure

/-! ### Runs that do not get to the move -/

/-- `config.toml` is the object it was. -/
structure Home.Untouched (start : Home) (identity : ℕ) (home : Home) : Prop where
  entry : home.entry .config = some identity
  object : home.object identity = start.object identity
  next : identity < home.next

variable {start : Home} {identity : ℕ}

theorem Home.Untouched.bind {home : Home} {name : FileName} (huntouched : start.Untouched identity home)
    (hname : name ≠ .config) (target : Option ℕ) :
    start.Untouched identity (home.bind name target) := by
  refine ⟨?_, huntouched.object, huntouched.next⟩
  rw [← huntouched.entry]
  exact Function.update_of_ne hname.symm _ _

theorem Home.Untouched.put {home : Home} {other : ℕ} (huntouched : start.Untouched identity home)
    (hother : other ≠ identity) (object : FileObject) :
    start.Untouched identity (home.put other object) := by
  refine ⟨huntouched.entry, ?_, huntouched.next⟩
  rw [← huntouched.object]
  exact Function.update_of_ne hother.symm _ _

theorem Home.Untouched.create {home : Home} {name : FileName}
    (huntouched : start.Untouched identity home) (hname : name ≠ .config) (data : Bytes)
    (metadata : PosixMetadata) : start.Untouched identity (home.create name data metadata) := by
  refine ⟨?_, ?_, Nat.lt_succ_of_lt huntouched.next⟩
  · rw [← huntouched.entry]
    exact Function.update_of_ne hname.symm _ _
  · rw [← huntouched.object]
    exact Function.update_of_ne (ne_of_lt huntouched.next) _ _

theorem mkstemp_keeps (hsolitary : weather.Solitary) {place : Place} {name : FileName}
    (hname : name ≠ .config) :
    Keeps weather (start.Untouched identity) (mkstemp place name creation) := by
  refine Keeps.operation ?_ ?_
  · intro home hhome
    rwa [hsolitary]
  · intro home value next hhome hstep
    cases hstep
    exact hhome.create hname _ _

theorem mkstemp_returned (hsolitary : weather.Solitary) {place : Place} {name : FileName}
    {home last : Home} {descriptor : ℕ}
    (hmkstemp : mkstemp place name creation weather home = .returned descriptor last) :
    Clear weather place ∧ descriptor = home.next := by
  obtain ⟨hclear, haction⟩ := (operation_returned hsolitary).mp hmkstemp
  cases haction
  exact ⟨hclear, rfl⟩

theorem fillTemporary_keeps (hsolitary : weather.Solitary) {data : Bytes}
    {metadata : PosixMetadata} {temporary : ℕ} (hother : temporary ≠ identity) :
    Keeps weather (start.Untouched identity) (fillTemporary data metadata temporary) := by
  have hput : ∀ {place : Place} {object : Home → FileObject},
      Keeps weather (start.Untouched identity)
        (change place fun home => .ok (home.put temporary (object home))) := by
    intro place object
    refine Keeps.change hsolitary fun home next hhome hstep => ?_
    cases hstep
    exact hhome.put hother _
  refine Keeps.bind hput fun _ => ?_
  refine Keeps.bind (Keeps.inspect hsolitary) fun _ => ?_
  refine Keeps.bind (Keeps.reraising (Keeps.bind hput fun _ => hput)) fun _ => ?_
  refine Keeps.bind (Keeps.inspect hsolitary) fun _ => ?_
  refine Keeps.bind (Keeps.inspect hsolitary) fun named => Keeps.ite Keeps.fail ?_
  exact Keeps.bind (captureMetadata_keeps hsolitary) fun _ => Keeps.ite Keeps.fail Keeps.pure

theorem makeTemporary_keeps (hsolitary : weather.Solitary) {data : Bytes}
    {metadata : PosixMetadata} :
    Keeps weather (start.Untouched identity) (makeTemporary data metadata creation) := by
  refine Keeps.passing (fun descriptor => descriptor ≠ identity)
    (mkstemp_keeps hsolitary (by decide)) ?_ fun descriptor hdescriptor => ?_
  · intro home descriptor last hhome hreturned
    rw [(mkstemp_returned hsolitary hreturned).2]
    exact ne_of_gt hhome.next
  refine Keeps.passing (fun status : FileStatus => status.identity ≠ identity)
    (Keeps.inspect hsolitary) ?_ fun status hstatus => ?_
  · intro home status last _ hreturned
    obtain ⟨-, hlook, -⟩ := (inspect_returned hsolitary).mp hreturned
    cases hlook
    exact hdescriptor
  refine Keeps.bind (Keeps.attempt (fillTemporary_keeps hsolitary hstatus) fun error => ?_)
    fun _ => Keeps.pure
  exact Keeps.bind (removeBound_keeps hsolitary fun home hhome => hhome.bind (by decide) none)
    fun _ => Keeps.raise

theorem unusedPath_keeps (hsolitary : weather.Solitary) :
    Keeps weather (start.Untouched identity) (unusedPath creation) := by
  refine Keeps.bind (mkstemp_keeps hsolitary (by decide)) fun _ => ?_
  refine Keeps.change hsolitary fun home next hhome hstep => ?_
  unfold Home.unlink at hstep
  split at hstep
  · cases hstep
  · cases hstep
    exact hhome.bind (by decide) none

/-- Rolling back finds the file that was expected and leaves it. -/
theorem restore_keeps (hsolitary : weather.Solitary) (hio : OnlyIoFaults weather)
    (hshown : expected = start.snapshot .config identity lease) {temporary : ℕ} :
    Keeps weather (start.Untouched identity) (restore lease expected temporary replacement) := by
  refine Keeps.passing (fun current => current = expected) (capture_keeps hsolitary) ?_
    fun current hcurrent => ?_
  · intro home current last hhome hreturned
    rw [(capture_returned hsolitary hio hhome.entry hreturned).shown, hshown, Home.snapshot,
      Home.snapshot, hhome.object]
  · rw [if_pos hcurrent]
    exact Keeps.pure

theorem temporaryGuard_returned (hsolitary : weather.Solitary) {home last : Home}
    {temporary descriptor : ℕ}
    (hguard : temporaryGuard temporary weather home = .returned descriptor last) :
    Clear weather (.publish .guardOpen) ∧ Clear weather (.publish .guardFstat) ∧
      Clear weather (.publish .guardNamed) ∧ Clear weather (.publish .guardIdentity) := by
  simp only [temporaryGuard, bind_returned, fstat, inspect_returned hsolitary] at hguard
  obtain ⟨opened, mid, hopen, status, _, ⟨hidentity, -, rfl⟩, -⟩ := hguard
  obtain ⟨⟨hopening, hfstat, hnaming⟩, -, -⟩ := openDirectFile_returned hsolitary hopen
  exact ⟨hopening, hfstat, hnaming, hidentity⟩

/-- When some call up to the move does not go through, the move is not made. -/
theorem publishSnapshot_keeps (hsolitary : weather.Solitary)
    (hidentity : expected.identity ≠ none) {temporary descriptor : ℕ}
    (hblocked : Clear weather (.publish .fstat) → Clear weather (.publish .lstat) →
      ¬ Clear weather (.publish .rename)) :
    Keeps weather (start.Untouched identity)
      (publishSnapshot lease expected temporary descriptor) := by
  refine Keeps.passing (fun _ => Clear weather (.publish .fstat)) (Keeps.inspect hsolitary) ?_
    fun opened hfstat => Keeps.ite Keeps.fail ?_
  · intro home value last _ hreturned
    exact ((inspect_returned hsolitary).mp hreturned).1
  refine Keeps.passing (fun _ => Clear weather (.publish .lstat)) (Keeps.inspect hsolitary) ?_
    fun named hlstat => Keeps.ite Keeps.fail ?_
  · intro home value last _ hreturned
    exact ((inspect_returned hsolitary).mp hreturned).1
  rw [if_neg hidentity]
  refine Keeps.passing (fun _ => False) (Keeps.blocked hsolitary (hblocked hfstat hlstat)) ?_
    fun _ hfalse => hfalse.elim
  intro home value last _ hreturned
  exact hblocked hfstat hlstat ((change_returned hsolitary).mp hreturned).1

theorem publish_keeps (hsolitary : weather.Solitary) (hio : OnlyIoFaults weather)
    (hshown : expected = start.snapshot .config identity lease) {metadata : PosixMetadata}
    {temporary : ℕ}
    (hblocked : (∀ place, place.checking = true → Clear weather place) →
      ¬ Clear weather (.publish .rename)) :
    Keeps weather (start.Untouched identity)
      (publish lease expected replacement metadata temporary) := by
  have hidentity : expected.identity ≠ none := by
    rw [hshown]
    exact Option.some_ne_none identity
  have hfailure : ∀ {α : Type} {published : Bool} {error : PublicationError},
      Keeps weather (start.Untouched identity)
        (afterFailure lease expected temporary replacement published error : Publication α) :=
    afterFailure_keeps hsolitary (restore_keeps hsolitary hio hshown)
  refine Keeps.bind (Keeps.attempt ?_ fun error => hfailure) fun actual => ?_
  · refine Keeps.passing (fun _ => ∀ step, Clear weather (.capture .second step))
      (capture_keeps hsolitary) ?_ fun found hsecond => Keeps.ite Keeps.fail ?_
    · intro home snapshot last hhome hreturned
      exact (capture_returned hsolitary hio hhome.entry hreturned).clear
    refine Keeps.passing (fun _ => Clear weather (.publish .guardOpen) ∧
      Clear weather (.publish .guardFstat) ∧ Clear weather (.publish .guardNamed) ∧
      Clear weather (.publish .guardIdentity)) (temporaryGuard_keeps hsolitary) ?_
      fun descriptor hguard => ?_
    · intro home value last _ hreturned
      exact temporaryGuard_returned hsolitary hreturned
    refine publishSnapshot_keeps hsolitary hidentity fun hfstat hlstat => hblocked ?_
    intro place hplace
    unfold Place.checking at hplace
    split at hplace
    · exact hsecond _
    · exact hguard.1
    · exact hguard.2.1
    · exact hguard.2.2.1
    · exact hguard.2.2.2
    · exact hfstat
    · exact hlstat
    · cases hplace
  · refine Keeps.attempt (Keeps.ite Keeps.fail ?_) fun error => hfailure
    exact verifyPublished_keeps hsolitary

/-! ### Preparation that returned -/

theorem fillTemporary_returned (hsolitary : weather.Solitary) {data : Bytes}
    {metadata : PosixMetadata} {temporary : ℕ} {home last : Home} {value : Unit}
    (hfill : fillTemporary data metadata temporary weather home = .returned value last) :
    ∀ step, step ≠ .mkstemp → step ≠ .fstat → step ≠ .discardLstat → step ≠ .discardUnlink →
      Clear weather (.temporary step) := by
  simp only [fillTemporary, bind_returned, change_returned hsolitary, reraising_returned, flush,
    lstat, inspect_returned hsolitary] at hfill
  obtain ⟨_, _, ⟨hwrite, -⟩, _, _, ⟨hfsync, -, rfl⟩, _, _, ⟨_, _, ⟨hchown, -⟩, hchmod, -⟩, _, _,
    ⟨hsync, -, rfl⟩, named, _, ⟨hlstat, -, rfl⟩, hcheck⟩ := hfill
  split at hcheck
  · exact absurd hcheck not_raise_returned
  · obtain ⟨captured, mid, hcapture, -⟩ := bind_returned.mp hcheck
    obtain ⟨⟨hrequired, hrequiredNamed, hlisting⟩, -⟩ :=
      captureMetadata_returned hsolitary hcapture
    intro step hmkstemp hfstat hdiscardLstat hdiscardUnlink
    cases step <;> first | assumption | contradiction

theorem makeTemporary_returned (hsolitary : weather.Solitary) {data : Bytes}
    {metadata : PosixMetadata} {home last : Home} {temporary : ℕ}
    (hmake : makeTemporary data metadata creation weather home = .returned temporary last) :
    ∀ step, step ≠ .discardLstat → step ≠ .discardUnlink → Clear weather (.temporary step) := by
  simp only [makeTemporary, bind_returned, fstat, inspect_returned hsolitary, attempt_returned] at hmake
  obtain ⟨descriptor, mid, hmkstemp, status, _, ⟨hfstat, -, rfl⟩, _, _, hbody, -⟩ := hmake
  have hcreated := (mkstemp_returned hsolitary hmkstemp).1
  rcases hbody with hfill | ⟨error, _, -, _, _, -, hraise⟩
  · have hfilled := fillTemporary_returned hsolitary hfill
    intro step hdiscardLstat hdiscardUnlink
    by_cases hfirst : step = .mkstemp
    · rw [hfirst]
      exact hcreated
    · by_cases hsecond : step = .fstat
      · rw [hsecond]
        exact hfstat
      · exact hfilled step hfirst hsecond hdiscardLstat hdiscardUnlink
  · exact absurd hraise not_raise_returned

theorem unusedPath_returned (hsolitary : weather.Solitary) {home last : Home} {value : Unit}
    (hunused : unusedPath creation weather home = .returned value last) :
    Clear weather .unusedMkstemp ∧ Clear weather .unusedUnlink := by
  simp only [unusedPath, bind_returned, change_returned hsolitary] at hunused
  obtain ⟨descriptor, mid, hmkstemp, hunlink, -⟩ := hunused
  exact ⟨(mkstemp_returned hsolitary hmkstemp).1, hunlink⟩

/-- A run that does not write, or one of whose calls up to the move does not go
    through, leaves `config.toml` as it was. -/
theorem writeConfigBytes_untouched (hsolitary : weather.Solitary) (hio : OnlyIoFaults weather)
    (hentry : start.entry .config = some identity) (hnext : identity < start.next)
    (hnot : ¬ (start.Current identity lease expected ∧ replacement ≠ expected.data ∧
      ∀ place, place.upToMove = true → Clear weather place)) :
    start.Untouched identity
      (writeConfigBytes lease creation expected replacement weather start).state := by
  have huntouched : start.Untouched identity start := ⟨hentry, rfl, hnext⟩
  refine Keeps.still_bind (requireLiveLease_keeps hsolitary) huntouched fun _ hlease => ?_
  simp only [requireLiveLease, reraising_returned, inspect_returned hsolitary] at hlease
  split
  · exact huntouched
  refine Keeps.still_bind (capture_keeps hsolitary) huntouched fun found hfound => ?_
  have hfirst := capture_returned hsolitary hio hentry hfound
  split
  · exact huntouched
  rename_i hsame
  rw [ne_eq, not_not] at hsame
  split
  · exact huntouched
  rename_i hdifferent
  have hshown : expected = start.snapshot .config identity lease := hsame.symm.trans hfirst.shown
  have hidentity : expected.identity ≠ none := by
    rw [hshown]
    exact Option.some_ne_none identity
  have hdata : replacement ≠ expected.data := fun heq => hdifferent ⟨hidentity, heq⟩
  have hcurrent : start.Current identity lease expected :=
    ⟨hfirst.live, hfirst.ordinary, hshown⟩
  have hplaces : ¬ ∀ place, place.upToMove = true → Clear weather place := fun hall =>
    hnot ⟨hcurrent, hdata, hall⟩
  have hmetadata : publishedMetadata lease expected =
      pure (start.object identity).metadata := by
    rw [hshown]
    rfl
  rw [hmetadata]
  refine Keeps.state ?_ huntouched
  refine Keeps.bind Keeps.pure fun metadata => ?_
  refine Keeps.passing (fun _ => ∀ step, step ≠ .discardLstat → step ≠ .discardUnlink →
    Clear weather (.temporary step)) (makeTemporary_keeps hsolitary) ?_ fun temporary hmade => ?_
  · intro home value last _ hreturned
    exact makeTemporary_returned hsolitary hreturned
  refine Keeps.passing (fun _ => Clear weather .unusedMkstemp ∧ Clear weather .unusedUnlink)
    (unusedPath_keeps hsolitary) ?_ fun _ hunused => ?_
  · intro home value last _ hreturned
    exact unusedPath_returned hsolitary hreturned
  refine Keeps.bind (Keeps.ensuring (publish_keeps hsolitary hio hshown ?_) ?_) fun _ => Keeps.pure
  · intro hchecked hrename
    refine hplaces fun place hplace => ?_
    simp only [Place.upToMove, Bool.or_eq_true, beq_iff_eq] at hplace
    rcases hplace with (hpreparing | hchecking) | rfl
    · unfold Place.preparing at hpreparing
      split at hpreparing
      · exact hlease.1
      · exact hfirst.clear _
      · cases hpreparing
      · cases hpreparing
      · exact hmade _ ‹_› ‹_›
      · exact hunused.1
      · exact hunused.2
      · cases hpreparing
    · exact hchecked place hchecking
    · exact hrename
  · exact cleanUp_keeps hsolitary (fun home hhome => hhome.bind (by decide) none)
      fun home hhome => hhome.bind (by decide) none

/-! ### Runs that stop before the link -/

/-- Rolling back does not put anything at a `config.toml` that is missing. -/
theorem restore_keeps_missing (hsolitary : weather.Solitary) (hidentity : expected.identity ≠ none)
    {temporary : ℕ} :
    Keeps weather (fun home => home.entry .config = none)
      (restore lease expected temporary replacement) := by
  refine Keeps.passing (fun current : ConfigSnapshot => current.identity = none)
    (capture_keeps hsolitary) ?_ fun current hcurrent => ?_
  · intro home current last hhome hreturned
    exact capture_returned_missing hsolitary hhome hreturned
  · have hne : current ≠ expected := fun heq => hidentity (heq ▸ hcurrent)
    have hother : current.identity ≠ some temporary ∨ current.data ≠ replacement := by
      rw [hcurrent]
      exact Or.inl (Option.some_ne_none temporary).symm
    rw [if_neg hne, if_pos hother]
    exact Keeps.fail

/-- The link is not made, so the state after the move stays. -/
theorem linkMoved_stays (hsolitary : weather.Solitary) (hio : OnlyIoFaults weather) {home : Home}
    {temporary : ℕ} (hshown : expected = home.snapshot .config identity lease)
    (hstopped : ∃ place, place.upToLink = true ∧ ¬ Clear weather place) :
    Keeps weather (· = home.moved identity) (linkMoved lease expected temporary) := by
  have hentry : (home.moved identity).entry .backup = some identity := by
    simp [Home.moved, Home.bind]
  refine Keeps.passing (fun captured => captured.state = expected.state ∧
    ∀ step, Clear weather (.capture .backup step)) (capture_keeps hsolitary) ?_
    fun captured hcaptured => ?_
  · rintro state captured last rfl hreturned
    have hshows := capture_returned hsolitary hio hentry hreturned
    refine ⟨?_, hshows.clear⟩
    rw [hshows.shown, hshown]
    rfl
  · have hblocked : ¬ Clear weather (.publish .link) := by
      intro hclear
      obtain ⟨place, hplace, hnot⟩ := hstopped
      unfold Place.upToLink at hplace
      split at hplace
      · exact hnot (hcaptured.2 _)
      · exact hnot hclear
      · cases hplace
    rw [if_neg (not_not_intro hcaptured.1)]
    refine Keeps.passing (fun _ => False) (Keeps.attempt (Keeps.blocked hsolitary hblocked)
      fun error => Keeps.ite Keeps.fail Keeps.raise) ?_ fun _ hfalse => hfalse.elim
    intro state value last _ hreturned
    rcases attempt_returned.mp hreturned with hlink | ⟨error, mid, -, hhandler⟩
    · exact hblocked ((change_returned hsolitary).mp hlink).1
    · split at hhandler
      · exact not_raise_returned hhandler
      · exact not_raise_returned hhandler

/-- Publishing from the staged state is publishing from the moved one. -/
theorem publish_moved (hsolitary : weather.Solitary) (hlive : lease.live = true)
    (hclear : ∀ place, place.upToMove = true → Clear weather place) {home : Home}
    {temporary : ℕ} {old new : FileObject} (hstaged : home.Staged identity temporary old new)
    (hold : old.Plain) (hnew : new.Plain)
    (hshown : expected = home.snapshot .config identity lease) {metadata : PosixMetadata} :
    publish lease expected replacement metadata temporary weather home =
      (Run.attempt (linkMoved lease expected temporary)
          (afterFailure lease expected temporary replacement false) >>= fun actual =>
        Run.attempt (verifyIdentity lease replacement metadata temporary actual)
          (afterFailure lease expected temporary replacement true)) weather
        (home.moved identity) := by
  have hcheck := checkAndPublish_calm hlive
    (fun place hplace => (hclear place (by simp [Place.upToMove, hplace])).calm hsolitary)
    ((hclear (.publish .rename) rfl).calm hsolitary) hstaged hold hnew hshown
  rw [publish, bind_run, bind_run, Run.attempt, Run.attempt, hcheck]

/-! ### Runs that make the link -/

/-- `config.toml` is the file that was or the one that replaces it, and the backup,
    while it is there, is the file that was. -/
structure Home.Swapping (identity temporary : ℕ) (old new : Bytes) (home : Home) : Prop where
  oldData : (home.object identity).data = old
  newData : (home.object temporary).data = new
  config : home.entry .config = some temporary ∨ home.entry .config = some identity
  backup : home.entry .backup = none ∨ home.entry .backup = some identity

theorem Home.Swapping.holds {temporary : ℕ} {old new : Bytes} {home : Home}
    (hswapping : home.Swapping identity temporary old new) : home.Holds old new := by
  rcases hswapping.config with hconfig | hconfig
  · exact ⟨temporary, hconfig, Or.inr hswapping.newData⟩
  · exact ⟨identity, hconfig, Or.inl hswapping.oldData⟩

theorem Home.Swapping.unlink {temporary : ℕ} {old new : Bytes} {home : Home} {name : FileName}
    (hswapping : home.Swapping identity temporary old new) (hname : name ≠ .config) :
    (home.bind name none).Swapping identity temporary old new := by
  refine ⟨hswapping.oldData, hswapping.newData, ?_, ?_⟩
  · have hconfig : (home.bind name none).entry .config = home.entry .config :=
      Function.update_of_ne hname.symm _ _
    rw [hconfig]
    exact hswapping.config
  · by_cases hbackup : name = FileName.backup
    · left
      simp [Home.bind, hbackup]
    · have hsame : (home.bind name none).entry .backup = home.entry .backup :=
        Function.update_of_ne (Ne.symm hbackup) _ _
      rw [hsame]
      exact hswapping.backup

theorem Home.Swapping.rename {temporary : ℕ} {old new : Bytes} {home next : Home}
    (hswapping : home.Swapping identity temporary old new)
    (hrename : home.rename .backup .config = .ok next) :
    next.Swapping identity temporary old new := by
  unfold Home.rename at hrename
  split at hrename
  · cases hrename
  · rename_i found hfound
    split at hrename
    · cases hrename
      exact hswapping
    · cases hrename
      have hidentity : found = identity := by
        rcases hswapping.backup with hnone | hsome
        · rw [hnone] at hfound
          cases hfound
        · rw [hsome] at hfound
          exact (Option.some.inj hfound).symm
      refine ⟨hswapping.oldData, hswapping.newData, Or.inr ?_, Or.inl ?_⟩
      · simp [Home.bind, hidentity]
      · simp [Home.bind]

theorem restore_keeps_swapping (hsolitary : weather.Solitary)
    (hidentity : expected.identity = some identity) {temporary : ℕ} {old new : Bytes} :
    Keeps weather (fun home => home.Swapping identity temporary old new)
      (restore lease expected temporary replacement) := by
  refine Keeps.bind (capture_keeps hsolitary) fun current => ?_
  refine Keeps.ite Keeps.pure ?_
  refine Keeps.ite Keeps.fail (Keeps.attempt ?_ fun _ => Keeps.fail)
  refine Keeps.bind ?_ fun _ => ?_
  · unfold putBackFile
    rw [hidentity]
    refine Keeps.bind ?_ fun ours => Keeps.ite ?_ ?_
    · refine Keeps.bind (Keeps.inspect hsolitary) fun present => Keeps.ite ?_ Keeps.pure
      exact Keeps.bind (Keeps.inspect hsolitary) fun _ => Keeps.pure
    · exact Keeps.change hsolitary fun home next hhome hstep => hhome.rename hstep
    · exact Keeps.bind (Keeps.inspect hsolitary) fun _ => Keeps.ite Keeps.fail Keeps.pure
  · refine Keeps.bind (Keeps.inspect hsolitary) fun _ => ?_
    exact Keeps.bind (capture_keeps hsolitary) fun _ => Keeps.ite Keeps.fail Keeps.pure

theorem verifyIdentity_keeps {inv : Home → Prop} (hsolitary : weather.Solitary)
    {metadata : PosixMetadata} {temporary actual : ℕ} :
    Keeps weather inv (verifyIdentity lease replacement metadata temporary actual) :=
  Keeps.ite Keeps.fail (verifyPublished_keeps hsolitary)

theorem Home.Staged.swapping {home : Home} {temporary : ℕ} {old new : FileObject}
    (hstaged : home.Staged identity temporary old new) :
    (home.linked identity temporary).Swapping identity temporary old.data new.data := by
  refine ⟨?_, ?_, Or.inl ?_, Or.inr ?_⟩
  · rw [← hstaged.oldObject]
    rfl
  · rw [← hstaged.newObject]
    rfl
  · simp [Home.linked, Home.bind]
  · simp [Home.linked, Home.moved, Home.bind]

/-- The publication once the file is moved away. -/
def publishMoved (lease : InstallerLease) (expected : ConfigSnapshot) (replacement : Bytes)
    (metadata : PosixMetadata) (temporary : ℕ) : Publication Unit := do
  let actual ← Run.attempt (linkMoved lease expected temporary)
    (afterFailure lease expected temporary replacement false)
  Run.attempt (verifyIdentity lease replacement metadata temporary actual)
    (afterFailure lease expected temporary replacement true)

/-- A run that stops or fails before the link leaves no `config.toml`. -/
theorem publishMoved_missing (hsolitary : weather.Solitary) (hio : OnlyIoFaults weather)
    {home : Home} {temporary : ℕ} (hshown : expected = home.snapshot .config identity lease)
    (hstopped : ∃ place, place.upToLink = true ∧ ¬ Clear weather place)
    {metadata : PosixMetadata} :
    Triple weather (· = home.moved identity)
      (publishMoved lease expected replacement metadata temporary)
      (Post.always fun home => home.entry .config = none) := by
  have hidentity : expected.identity ≠ none := by
    rw [hshown]
    exact Option.some_ne_none identity
  have hmissing : (home.moved identity).entry .config = none := by
    simp [Home.moved, Home.bind]
  have hfailure : ∀ {α : Type} {published : Bool} {error : PublicationError},
      Keeps weather (fun home => home.entry .config = none)
        (afterFailure lease expected temporary replacement published error : Publication α) :=
    afterFailure_keeps hsolitary (restore_keeps_missing hsolitary hidentity)
  refine Keeps.after_bind (Keeps.after_attempt ?_ fun error => hfailure) fun actual => ?_
  · refine Triple.weaken (linkMoved_stays hsolitary hio hshown hstopped) (fun _ hstate => hstate)
      ?_ ?_ ?_
    · rintro value state rfl
      exact hmissing
    · rintro error state rfl
      exact hmissing
    · rintro state rfl
      exact hmissing
  · exact Keeps.attempt (verifyIdentity_keeps hsolitary) fun error => hfailure

/-- A run that makes the link ends with the old file or the new one. -/
theorem publishMoved_swapping (hsolitary : weather.Solitary) (hlive : lease.live = true)
    (hclear : ∀ place, place.upToLink = true → Clear weather place) {home : Home}
    {temporary : ℕ} {old new : FileObject} (hstaged : home.Staged identity temporary old new)
    (hold : old.Plain) (hshown : expected = home.snapshot .config identity lease)
    {metadata : PosixMetadata} :
    Triple weather (· = home.moved identity)
      (publishMoved lease expected replacement metadata temporary)
      (Post.always fun home => home.Swapping identity temporary old.data new.data) := by
  have hidentity : expected.identity = some identity := by
    rw [hshown]
    rfl
  have hfailure : ∀ {α : Type} {published : Bool} {error : PublicationError},
      Keeps weather (fun home => home.Swapping identity temporary old.data new.data)
        (afterFailure lease expected temporary replacement published error : Publication α) :=
    afterFailure_keeps hsolitary (restore_keeps_swapping hsolitary hidentity)
  have hunlink : Keeps weather (fun home => home.Swapping identity temporary old.data new.data)
      (change (.publish .unlink) fun home => home.unlink .temporary) := by
    refine Keeps.change hsolitary fun home next hhome hstep => ?_
    unfold Home.unlink at hstep
    split at hstep
    · cases hstep
    · cases hstep
      exact hhome.unlink (by decide)
  refine Keeps.after_bind (Keeps.after_attempt ?_ fun error => hfailure) fun actual => ?_
  · rintro state rfl
    rw [linkMoved_calm hlive (fun place hplace => (hclear place hplace).calm hsolitary) hstaged
      hold hshown]
    exact Keeps.bind hunlink (fun _ => Keeps.pure) _ hstaged.swapping
  · exact Keeps.attempt (verifyIdentity_keeps hsolitary) fun error => hfailure

/-- **When publication is atomic under crashes.**  With failing calls and a crash
    anywhere and nobody else at work, a run ends with the old bytes or the new bytes at
    `config.toml` exactly when it does not stop or fail between the move and the link. -/
theorem writeConfigBytes_holds_iff (hsolitary : weather.Solitary) (hio : OnlyIoFaults weather)
    (hunused : start.Unused identity) :
    (writeConfigBytes lease creation expected replacement weather start).state.Holds
        (start.object identity).data replacement ↔
      ¬ Exposed weather start identity lease expected replacement := by
  by_cases hmoves : start.Current identity lease expected ∧ replacement ≠ expected.data ∧
      ∀ place, place.upToMove = true → Clear weather place
  case neg =>
    have huntouched : start.Untouched identity
        (writeConfigBytes lease creation expected replacement weather start).state :=
      writeConfigBytes_untouched hsolitary hio hunused.config hunused.next hmoves
    constructor
    · intro _ hexposed
      exact hmoves ⟨hexposed.current, hexposed.different, hexposed.moved⟩
    · intro _
      exact ⟨identity, huntouched.entry, Or.inl (by rw [huntouched.object])⟩
  case pos =>
    obtain ⟨hcurrent, hdifferent, hclear⟩ := hmoves
    have hstaged : (((start.create .temporary replacement (start.object identity).metadata).create
        .backup [] creation).bind .backup none).Staged identity start.next (start.object identity)
          ⟨replacement, (start.object identity).metadata, true, 0, false⟩ :=
      staged_of_unused hunused replacement (start.object identity).metadata
    have hold := hcurrent.ordinary.plain hunused
    have hnew : (⟨replacement, (start.object identity).metadata, true, 0, false⟩ :
        FileObject).Plain := ⟨rfl, rfl, rfl⟩
    have hprepared : ∀ place, place.preparing = true → Calm weather place := fun place hplace =>
      (hclear place (by simp [Place.upToMove, hplace])).calm hsolitary
    have hrun : writeConfigBytes lease creation expected replacement weather start = _ :=
      writeConfigBytes_calm hcurrent hunused hdifferent hprepared
    generalize hhome : ((start.create .temporary replacement
      (start.object identity).metadata).create .backup [] creation).bind .backup none = home
      at hrun hstaged
    have hshown : expected = home.snapshot .config identity lease := by
      rw [hcurrent.shown, Home.snapshot, Home.snapshot, hstaged.oldObject]
    have hmoved : publish lease expected replacement (start.object identity).metadata start.next
        weather home = publishMoved lease expected replacement (start.object identity).metadata
          start.next weather (home.moved identity) :=
      publish_moved hsolitary hcurrent.live hclear hstaged hold hnew hshown
    have hstate : ∀ {inv : Home → Prop},
        Triple weather (· = home.moved identity) (publishMoved lease expected replacement
          (start.object identity).metadata start.next) (Post.always inv) →
        (∀ home, inv home → inv (home.bind .temporary none)) →
        (∀ home, inv home → inv (home.bind .backup none)) →
        inv (writeConfigBytes lease creation expected replacement weather start).state := by
      intro inv hpublish htemporary hbackup
      have hcleanup : Keeps weather inv (cleanUp expected start.next) :=
        cleanUp_keeps hsolitary htemporary hbackup
      have hwhole : Triple weather (· = home.moved identity)
          (Run.ensuring (publishMoved lease expected replacement
            (start.object identity).metadata start.next) (cleanUp expected start.next) >>=
              fun _ => pure replacement) (Post.always inv) :=
        Keeps.after_bind (Keeps.after_ensuring hpublish hcleanup) fun _ => Keeps.pure
      have hend := Outcome.meets_always.mp (hwhole (home.moved identity) rfl)
      rw [hrun, bind_run, Run.ensuring, hmoved]
      exact hend
    by_cases hlinks : ∀ place, place.upToLink = true → Clear weather place
    · have hswapping := hstate
        (publishMoved_swapping hsolitary hcurrent.live hlinks hstaged hold hshown)
        (fun _ hhome => hhome.unlink (by decide)) fun _ hhome => hhome.unlink (by decide)
      constructor
      · rintro - ⟨-, -, -, place, hplace, hnot⟩
        exact hnot (hlinks place hplace)
      · intro _
        exact hswapping.holds
    · rw [not_forall] at hlinks
      obtain ⟨place, hlinks⟩ := hlinks
      rw [Classical.not_imp] at hlinks
      have hmissing := hstate
        (publishMoved_missing hsolitary hio hshown ⟨place, hlinks⟩)
        (fun _ hhome => by simpa [Home.bind] using hhome)
        fun _ hhome => by simpa [Home.bind] using hhome
      constructor
      · rintro ⟨other, hentry, -⟩
        rw [hmissing] at hentry
        cases hentry
      · intro hexposed
        exact absurd ⟨hcurrent, hdifferent, hclear, place, hlinks⟩ hexposed

end Runs

/-! ### A crash between the move and the link -/

/-- A home with one ordinary `config.toml`. -/
def onlyConfig (data : Bytes) (metadata : PosixMetadata) : Home where
  entry name := if name = .config then some 0 else none
  object _ := ⟨data, metadata, true, 0, false⟩
  next := 1

theorem onlyConfig_unused (data : Bytes) (metadata : PosixMetadata) :
    (onlyConfig data metadata).Unused 0 :=
  ⟨rfl, rfl, rfl, Nat.zero_lt_one⟩

/-- A lease that lives. -/
def liveLease : InstallerLease := ⟨(1, 1), true, ⟨1000, 1000, 0o600⟩⟩

/-- The process dies before one call, and nothing else happens. -/
def dyingAt (place : Place) : Disturbance Place Home PublicationError where
  before _ := id
  fault _ := none
  crash other := decide (other = place)

theorem dyingAt_solitary (place : Place) : (dyingAt place).Solitary :=
  fun _ _ => rfl

theorem dyingAt_onlyIoFaults (place : Place) : OnlyIoFaults (dyingAt place) :=
  fun _ _ hfault => nomatch hfault

/-- A process that dies before the link leaves the user without `config.toml`. -/
theorem crash_before_link_loses_config :
    (dyingAt (.publish .link)).Solitary ∧ OnlyIoFaults (dyingAt (.publish .link)) ∧
      (onlyConfig [1] ⟨1000, 1000, 0o644⟩).Current 0 liveLease
        ((onlyConfig [1] ⟨1000, 1000, 0o644⟩).snapshot .config 0 liveLease) ∧
      (writeConfigBytes liveLease ⟨1000, 1000, 0o600⟩
        ((onlyConfig [1] ⟨1000, 1000, 0o644⟩).snapshot .config 0 liveLease) [2]
        (dyingAt (.publish .link)) (onlyConfig [1] ⟨1000, 1000, 0o644⟩)).state.entry .config =
          none := by
  refine ⟨dyingAt_solitary _, dyingAt_onlyIoFaults _, ⟨rfl, ⟨rfl, rfl, rfl⟩, rfl⟩, ?_⟩
  decide +kernel

theorem writeConfigBytes_holds_iff_onlyConfig :
    (writeConfigBytes liveLease ⟨1000, 1000, 0o600⟩
        ((onlyConfig [1] ⟨1000, 1000, 0o644⟩).snapshot .config 0 liveLease) [2]
        (dyingAt (.publish .unlink)) (onlyConfig [1] ⟨1000, 1000, 0o644⟩)).state.Holds [1] [2] ↔
      ¬ Exposed (dyingAt (.publish .unlink)) (onlyConfig [1] ⟨1000, 1000, 0o644⟩) 0 liveLease
        ((onlyConfig [1] ⟨1000, 1000, 0o644⟩).snapshot .config 0 liveLease) [2] :=
  writeConfigBytes_holds_iff (dyingAt_solitary _) (dyingAt_onlyIoFaults _)
    (onlyConfig_unused _ _)

end CodexMustWork
