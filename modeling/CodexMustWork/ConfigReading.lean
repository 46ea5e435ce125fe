import CodexMustWork.ConfigPublication

/-!
# What a capture shows

A capture of a direct file, taken undisturbed, is the snapshot of the file; with a
second link it is refused; of a missing file it is empty.  It never changes
anything, and one that returned was made of calls that all went through.
-/

namespace CodexMustWork

open DisturbedRuns

/-- Calls that fail fail with an input or output error: that a file is missing or
    in the way is never made up. -/
def OnlyIoFaults (weather : Disturbance Place Home PublicationError) : Prop :=
  ∀ place error, weather.fault place = some error → error = .os

/-! ### System calls, forwards and backwards -/

section Calls

variable {weather : Disturbance Place Home PublicationError} {α β : Type}

theorem inspect_calm {place : Place} {look : Home → Except PublicationError α}
    (hcalm : Calm weather place) (home : Home) :
    inspect place look weather home =
      match look home with
      | .ok value => .returned value home
      | .error error => .raised error home := by
  rw [inspect, operation_run hcalm]
  cases look home <;> rfl

theorem change_calm {place : Place} {step : Home → Except PublicationError Home}
    (hcalm : Calm weather place) (home : Home) :
    change place step weather home =
      match step home with
      | .ok next => .returned () next
      | .error error => .raised error home := by
  rw [change, operation_run hcalm]
  cases step home <;> rfl

theorem map_run (f : α → β) (run : Publication α) (home : Home) :
    (f <$> run) weather home =
      (run weather home).andThen fun value => .returned (f value) := rfl

theorem inspect_returned (hsolitary : weather.Solitary) {place : Place}
    {look : Home → Except PublicationError α} {home last : Home} {value : α} :
    inspect place look weather home = .returned value last ↔
      Clear weather place ∧ look home = .ok value ∧ home = last := by
  rw [inspect, operation_returned hsolitary]
  cases look home <;> simp [Except.map]

theorem change_returned (hsolitary : weather.Solitary) {place : Place}
    {step : Home → Except PublicationError Home} {home last : Home} {value : Unit} :
    change place step weather home = .returned value last ↔
      Clear weather place ∧ step home = .ok last := by
  rw [change, operation_returned hsolitary]
  cases step home <;> simp [Except.map]

theorem inspect_raised (hsolitary : weather.Solitary) {place : Place}
    {look : Home → Except PublicationError α} {home last : Home} {error : PublicationError}
    (hraised : inspect place look weather home = .raised error last) :
    last = home ∧ (weather.fault place = some error ∨ look home = .error error) := by
  obtain ⟨hlast, hfault | haction⟩ := operation_raised hsolitary hraised
  · exact ⟨hlast, Or.inl hfault⟩
  · refine ⟨hlast, Or.inr ?_⟩
    cases hlook : look home with
    | ok value => simp [hlook, Except.map] at haction
    | error found => simpa [hlook, Except.map] using haction

theorem map_raised (f : α → β) {run : Publication α} {home last : Home}
    {error : PublicationError} :
    (f <$> run) weather home = .raised error last ↔ run weather home = .raised error last := by
  rw [map_run]
  cases run weather home <;> simp

theorem map_returned (f : α → β) {run : Publication α} {home last : Home} {value : β} :
    (f <$> run) weather home = .returned value last ↔
      ∃ found, run weather home = .returned found last ∧ f found = value := by
  rw [map_run]
  cases run weather home <;> simp [and_comm]

theorem reraising_returned {reason : String} {body : Publication α} {home last : Home}
    {value : α} :
    reraising reason body weather home = .returned value last ↔
      body weather home = .returned value last := by
  rw [reraising, attempt_returned]
  constructor
  · rintro (hbody | ⟨error, mid, -, hhandler⟩)
    · exact hbody
    · cases error <;> exact absurd hhandler not_raise_returned
  · exact Or.inl

/-- A call that reads keeps everything. -/
theorem Keeps.inspect {inv : Home → Prop} (hsolitary : weather.Solitary) {place : Place}
    {look : Home → Except PublicationError α} :
    Keeps weather inv (inspect place look) := by
  refine Keeps.operation ?_ ?_
  · intro home hhome
    rwa [hsolitary]
  · intro home value last hhome hlook
    cases hfound : look home with
    | error error => simp [hfound, Except.map] at hlook
    | ok found =>
      simp only [hfound, Except.map, Except.ok.injEq, Prod.mk.injEq] at hlook
      rwa [← hlook.2]

theorem Keeps.change {inv : Home → Prop} (hsolitary : weather.Solitary) {place : Place}
    {step : Home → Except PublicationError Home}
    (hstep : ∀ home next, inv home → step home = .ok next → inv next) :
    Keeps weather inv (change place step) := by
  refine Keeps.operation ?_ ?_
  · intro home hhome
    rwa [hsolitary]
  · intro home value last hhome hlook
    cases hfound : step home with
    | error error => simp [hfound, Except.map] at hlook
    | ok found =>
      simp only [hfound, Except.map, Except.ok.injEq, Prod.mk.injEq] at hlook
      rw [← hlook.2]
      exact hstep home found hhome hfound

theorem Keeps.fail {inv : Home → Prop} {reason : String} :
    Keeps weather inv (fail reason : Publication α) := Keeps.raise

theorem Keeps.reraising {inv : Home → Prop} {reason : String} {body : Publication α}
    (hbody : Keeps weather inv body) : Keeps weather inv (reraising reason body) := by
  refine Keeps.attempt hbody fun error => ?_
  cases error <;> exact Keeps.raise

end Calls

/-! ### Captures that nothing disturbs -/

/-- A regular file with one link and no extended attributes. -/
structure Home.Ordinary (home : Home) (identity : ℕ) : Prop where
  regular : (home.object identity).regular = true
  links : home.links identity = 1
  attributes : (home.object identity).attributes = false

/-- The snapshot of an object. -/
def Home.snapshot (home : Home) (path : FileName) (identity : ℕ) (lease : InstallerLease) :
    ConfigSnapshot :=
  ⟨(home.object identity).data, some identity, some (home.object identity).metadata, path,
    lease.owner⟩

section Captures

variable {weather : Disturbance Place Home PublicationError} {which : Capture} {path : FileName}
  {lease : InstallerLease} {home : Home} {identity : ℕ}

theorem lookup_some (hentry : home.entry path = some identity) :
    home.lookup path = .ok identity := by
  simp [Home.lookup, hentry]

theorem lookup_none (hentry : home.entry path = none) : home.lookup path = .error .notFound := by
  simp [Home.lookup, hentry]

/-- A direct file is captured as it is. -/
theorem capture_calm (hcalm : ∀ step, Calm weather (.capture which step))
    (hlive : lease.live = true) (hentry : home.entry path = some identity)
    (hfile : home.Ordinary identity) :
    captureConfigSnapshot which path lease weather home =
      .returned (home.snapshot path identity lease) home := by
  simp [captureConfigSnapshot, requireLiveLease, reraising, Run.attempt, captureOpened,
    openDirectFile, openNoFollow, lstat, fstat, readAll, captureMetadata, requireIdentity,
    listxattr, bind_run, pure_run, map_run, inspect_calm (hcalm _), hlive, lookup_some hentry,
    Home.status, hfile.regular, hfile.links, hfile.attributes, Home.snapshot]

/-- A file with another link is refused. -/
theorem capture_calm_links (hcalm : ∀ step, Calm weather (.capture which step))
    (hlive : lease.live = true) (hentry : home.entry path = some identity)
    (hlinks : home.links identity ≠ 1) :
    captureConfigSnapshot which path lease weather home =
      .raised (.install unsafePath) home := by
  simp [captureConfigSnapshot, requireLiveLease, reraising, Run.attempt, captureOpened,
    openDirectFile, openNoFollow, lstat, fstat, bind_run, map_run, inspect_calm (hcalm _), hlive,
    lookup_some hentry, Home.status, hlinks, raise_run, fail]

/-- A missing file is captured as empty. -/
theorem capture_calm_missing (hcalm : ∀ step, Calm weather (.capture which step))
    (hlive : lease.live = true) (hentry : home.entry path = none) :
    captureConfigSnapshot which path lease weather home =
      .returned ⟨[], none, none, path, lease.owner⟩ home := by
  simp [captureConfigSnapshot, requireLiveLease, reraising, Run.attempt, lstat, bind_run, pure_run,
    map_run, inspect_calm (hcalm _), hlive, lookup_none hentry]

/-! ### Captures that returned -/

theorem openDirectFile_returned (hsolitary : weather.Solitary) {opening fstatting naming : Place}
    {descriptor : ℕ} {last : Home}
    (hopen : openDirectFile opening fstatting naming path weather home =
      .returned descriptor last) :
    (Clear weather opening ∧ Clear weather fstatting ∧ Clear weather naming) ∧ last = home ∧
      home.entry path = some descriptor := by
  simp only [openDirectFile, bind_returned, attempt_returned, openNoFollow, lstat, fstat,
    inspect_returned hsolitary] at hopen
  obtain ⟨found, mid, hfirst, status, _, ⟨hstatting, hstatus, rfl⟩, named, _,
    ⟨hnaming, hnamed, rfl⟩, hcheck⟩ := hopen
  rcases hfirst with ⟨hopening, hfound, rfl⟩ | ⟨error, mid, -, hraise⟩
  · split at hcheck
    · exact absurd hcheck not_raise_returned
    · obtain ⟨rfl, rfl⟩ := pure_returned.mp hcheck
      refine ⟨⟨hopening, hstatting, hnaming⟩, rfl, ?_⟩
      cases hentry : home.entry path with
      | none => simp [Home.lookup, hentry] at hfound
      | some identity =>
        rw [lookup_some hentry] at hfound
        cases hfound
        rfl
  · exact absurd hraise not_raise_returned

theorem captureMetadata_returned (hsolitary : weather.Solitary)
    {fstatting naming listing : Place} {descriptor : ℕ} {metadata : PosixMetadata} {last : Home}
    (hcapture : captureMetadata fstatting naming listing path descriptor weather home =
      .returned metadata last) :
    (Clear weather fstatting ∧ Clear weather naming ∧ Clear weather listing) ∧ last = home ∧
      home.Ordinary descriptor ∧ metadata = (home.object descriptor).metadata := by
  simp only [captureMetadata, requireIdentity, bind_returned, reraising_returned, lstat, fstat,
    listxattr, inspect_returned hsolitary, pure_returned] at hcapture
  obtain ⟨status, _, ⟨both, _, ⟨opened, _, ⟨hstatting, hopened, rfl⟩, named, _, ⟨hnaming, -, rfl⟩,
    hboth, rfl⟩, hcheck⟩, attributes, _, ⟨hlisting, hattributes, rfl⟩, hlast⟩ := hcapture
  subst hboth
  simp only [Except.ok.injEq] at hcheck hopened hattributes
  subst hopened
  split at hcheck
  case isFalse => exact absurd hcheck not_raise_returned
  case isTrue hfile =>
    obtain ⟨hstatus, rfl⟩ := pure_returned.mp hcheck
    split at hlast
    case isTrue => exact absurd hlast not_raise_returned
    case isFalse hplain =>
      obtain ⟨hmetadata, rfl⟩ := pure_returned.mp hlast
      refine ⟨⟨hstatting, hnaming, hlisting⟩, rfl, ⟨hfile.1, hfile.2.1, ?_⟩, ?_⟩
      · rw [hattributes]
        simpa using hplain
      · rw [← hmetadata, ← hstatus]
        rfl

/-- What a capture that returned says of an existing file: every call of it went
    through, the file is direct, and the snapshot is its snapshot. -/
structure Captured (weather : Disturbance Place Home PublicationError) (which : Capture)
    (path : FileName) (lease : InstallerLease) (home : Home) (identity : ℕ)
    (snapshot : ConfigSnapshot) : Prop where
  clear : ∀ step, Clear weather (.capture which step)
  live : lease.live = true
  ordinary : home.Ordinary identity
  shown : snapshot = home.snapshot path identity lease

theorem capture_returned (hsolitary : weather.Solitary) (hio : OnlyIoFaults weather)
    (hentry : home.entry path = some identity) {snapshot : ConfigSnapshot} {last : Home}
    (hcapture : captureConfigSnapshot which path lease weather home = .returned snapshot last) :
    Captured weather which path lease home identity snapshot := by
  simp only [captureConfigSnapshot, requireLiveLease, bind_returned, reraising_returned, lstat,
    inspect_returned hsolitary, attempt_returned, map_returned] at hcapture
  obtain ⟨_, _, ⟨hlease, hlive, rfl⟩, named, mid, hnamed, hrest⟩ := hcapture
  rcases hnamed with ⟨found, ⟨hlstat, hfound, rfl⟩, rfl⟩ | ⟨error, mid', hraised, hhandler⟩
  · simp only [bind_returned, captureOpened, attempt_returned] at hrest
    obtain ⟨opened, mid, hbody, hlast⟩ := hrest
    rcases hbody with hopened | ⟨error, mid', -, hhandler⟩
    · simp only [readAll, fstat, inspect_returned hsolitary] at hopened
      obtain ⟨descriptor, _, hopen, data, _, ⟨hread, hdata, rfl⟩, status, _,
        ⟨hstat, hstatus, rfl⟩, metadata, _, hmetadata, hpure⟩ := hopened
      obtain ⟨⟨hopening, hfstat, hnaming⟩, rfl, hdescriptor⟩ :=
        openDirectFile_returned hsolitary hopen
      obtain ⟨⟨hrequired, hrequiredNamed, hlisting⟩, rfl, hordinary, hshown⟩ :=
        captureMetadata_returned hsolitary hmetadata
      obtain ⟨rfl, rfl⟩ := pure_returned.mp hpure
      rw [hentry] at hdescriptor
      cases hdescriptor
      refine ⟨?_, ?_, hordinary, ?_⟩
      · intro step
        cases step <;> assumption
      · cases hlease' : lease.live with
        | true => rfl
        | false => simp [hlease'] at hlive
      · split at hlast
        · exact absurd hlast not_raise_returned
        · obtain ⟨hsnapshot, -⟩ := pure_returned.mp hlast
          simp only [Except.ok.injEq] at hdata hstatus
          subst hdata
          subst hstatus
          subst hshown
          exact hsnapshot.symm
    · cases error <;> exact absurd hhandler not_raise_returned
  · obtain ⟨-, hfault | hlook⟩ := inspect_raised hsolitary ((map_raised some).mp hraised)
    · rw [hio _ _ hfault, if_neg (by decide)] at hhandler
      exact absurd hhandler not_raise_returned
    · rw [lookup_some hentry] at hlook
      cases hlook

/-- A capture of a missing file that returned shows no file. -/
theorem capture_returned_missing (hsolitary : weather.Solitary) (hentry : home.entry path = none)
    {snapshot : ConfigSnapshot} {last : Home}
    (hcapture : captureConfigSnapshot which path lease weather home = .returned snapshot last) :
    snapshot.identity = none := by
  simp only [captureConfigSnapshot, requireLiveLease, bind_returned, reraising_returned, lstat,
    inspect_returned hsolitary, attempt_returned, map_returned] at hcapture
  obtain ⟨_, _, ⟨-, -, rfl⟩, named, mid, hnamed, hrest⟩ := hcapture
  rcases hnamed with ⟨found, ⟨-, hfound, rfl⟩, rfl⟩ | ⟨error, mid', hraised, hhandler⟩
  · rw [lookup_none hentry] at hfound
    cases hfound
  · split at hhandler
    · obtain ⟨rfl, rfl⟩ := pure_returned.mp hhandler
      obtain ⟨rfl, -⟩ := pure_returned.mp hrest
      rfl
    · exact absurd hhandler not_raise_returned

/-! ### Captures change nothing -/

section Keeping

variable {inv : Home → Prop}

theorem openDirectFile_keeps (hsolitary : weather.Solitary) {opening fstatting naming : Place} :
    Keeps weather inv (openDirectFile opening fstatting naming path) := by
  refine Keeps.bind (Keeps.attempt (Keeps.inspect hsolitary) fun _ => Keeps.raise) fun _ => ?_
  refine Keeps.bind (Keeps.inspect hsolitary) fun _ => ?_
  refine Keeps.bind (Keeps.inspect hsolitary) fun _ => ?_
  exact Keeps.ite Keeps.raise Keeps.pure

theorem captureMetadata_keeps (hsolitary : weather.Solitary) {fstatting naming listing : Place}
    {descriptor : ℕ} :
    Keeps weather inv (captureMetadata fstatting naming listing path descriptor) := by
  refine Keeps.bind (Keeps.bind (Keeps.reraising ?_) fun _ => ?_) fun _ => ?_
  · refine Keeps.bind (Keeps.inspect hsolitary) fun _ => ?_
    exact Keeps.bind (Keeps.inspect hsolitary) fun _ => Keeps.pure
  · exact Keeps.ite Keeps.pure Keeps.fail
  · refine Keeps.bind (Keeps.reraising (Keeps.inspect hsolitary)) fun _ => ?_
    exact Keeps.ite Keeps.fail Keeps.pure

theorem requireLiveLease_keeps (hsolitary : weather.Solitary) {place : Place} :
    Keeps weather inv (requireLiveLease place lease) :=
  Keeps.reraising (Keeps.inspect hsolitary)

theorem capture_keeps (hsolitary : weather.Solitary) :
    Keeps weather inv (captureConfigSnapshot which path lease) := by
  refine Keeps.bind (requireLiveLease_keeps hsolitary) fun _ => ?_
  refine Keeps.bind (Keeps.attempt ?_ fun error => Keeps.ite Keeps.pure Keeps.raise) fun named => ?_
  · exact Keeps.bind (Keeps.inspect hsolitary) fun _ => Keeps.pure
  · cases named with
    | none => exact Keeps.pure
    | some named =>
      refine Keeps.bind (Keeps.attempt ?_ fun error => ?_) fun opened => ?_
      · refine Keeps.bind (openDirectFile_keeps hsolitary) fun _ => ?_
        refine Keeps.bind (Keeps.inspect hsolitary) fun _ => ?_
        refine Keeps.bind (Keeps.inspect hsolitary) fun _ => ?_
        exact Keeps.bind (captureMetadata_keeps hsolitary) fun _ => Keeps.pure
      · cases error <;> exact Keeps.raise
      · exact Keeps.ite Keeps.fail Keeps.pure

end Keeping

end Captures

end CodexMustWork
