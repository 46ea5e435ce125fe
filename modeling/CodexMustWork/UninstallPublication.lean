import CodexMustWork.ConfigRaces
import CodexMustWork.UninstallRun

/-!
# The configuration write of an uninstall

`_execute_plan` replaces `config.toml` by `write_config_bytes`, which is many calls on the
files of the home.  Where one of its calls up to the move of `config.toml` fails, or none
does, it is as good as the one call of an atomic write: all of the replacement is published,
or an error is raised and the bytes are those that were read.
-/

namespace CodexMustWork

open DisturbedRuns

/-! ### The bytes of `config.toml` -/

/-- What `read_config_bytes` gives of a home, whose `config.toml` may be missing. -/
def Home.configSnapshot (home : Home) (lease : InstallerLease) : ConfigSnapshot :=
  match home.entry .config with
  | none => ⟨[], none, none, .config, lease.owner⟩
  | some identity => home.snapshot .config identity lease

def Home.configBytes (home : Home) : Bytes :=
  match home.entry .config with
  | none => []
  | some identity => (home.object identity).data

/-- The home with these bytes in its `config.toml`. -/
def Home.holding (home : Home) (data : Bytes) : Home :=
  match home.entry .config with
  | none => home
  | some identity => home.put identity { home.object identity with data := data }

section Bytes

variable {weather : Disturbance Place Home PublicationError} {lease : InstallerLease}
  {home : Home} {identity : ℕ}

theorem configSnapshot_of_entry (hentry : home.entry .config = some identity) :
    home.configSnapshot lease = home.snapshot .config identity lease := by
  simp [Home.configSnapshot, hentry]

theorem configBytes_of_entry (hentry : home.entry .config = some identity) :
    home.configBytes = (home.object identity).data := by
  simp [Home.configBytes, hentry]

/-- Bytes that are there already change nothing. -/
theorem holding_configBytes (home : Home) : home.holding home.configBytes = home := by
  unfold Home.holding Home.configBytes
  cases hentry : home.entry .config with
  | none => rfl
  | some identity => simp [Home.put]

theorem configBytes_bind {name : FileName} (hname : name ≠ .config) (target : Option ℕ) :
    (home.bind name target).configBytes = home.configBytes := by
  simp [Home.configBytes, Home.bind, hname.symm]

/-- Undisturbed, the snapshot of the home is read, and its data are the bytes. -/
theorem readConfigBytes_calm (hlease : Calm weather .lease)
    (hcalm : ∀ step, Calm weather (.capture .read step)) (hlive : lease.live = true)
    (hfile : ∀ identity, home.entry .config = some identity → home.Ordinary identity) :
    readConfigBytes lease weather home = .returned (home.configSnapshot lease) home ∧
      (home.configSnapshot lease).data = home.configBytes := by
  have hrequired : requireLiveLease .lease lease weather home = .returned () home := by
    simp [requireLiveLease, reraising, Run.attempt, inspect_calm hlease, hlive]
  rw [readConfigBytes, bind_run, hrequired, returned_andThen]
  cases hentry : home.entry .config with
  | none =>
    rw [capture_calm_missing hcalm hlive hentry]
    simp [Home.configSnapshot, Home.configBytes, hentry]
  | some identity =>
    rw [capture_calm hcalm hlive hentry (hfile identity hentry), configSnapshot_of_entry hentry,
      configBytes_of_entry hentry]
    exact ⟨rfl, rfl⟩

end Bytes

/-! ### Writes that return -/

section Writes

variable {weather : Disturbance Place Home PublicationError} {lease : InstallerLease}
  {expected : ConfigSnapshot} {replacement : Bytes} {creation metadata : PosixMetadata}
  {start home last : Home} {identity temporary : ℕ}

theorem capture_stays (hsolitary : weather.Solitary) {which : Capture} {path : FileName}
    {snapshot : ConfigSnapshot}
    (hcapture : captureConfigSnapshot which path lease weather home = .returned snapshot last) :
    last = home := by
  have hkeeps : Keeps weather (· = home) (captureConfigSnapshot which path lease) :=
    capture_keeps hsolitary
  have hstate : (captureConfigSnapshot which path lease weather home).state = home :=
    hkeeps.state rfl
  rw [hcapture] at hstate
  exact hstate

theorem not_afterFailure_returned {α : Type} {published : Bool} {error : PublicationError}
    {value : α} :
    (afterFailure lease expected temporary replacement published error : Publication α) weather
      home ≠ .returned value last := by
  intro hreturned
  simp only [afterFailure, bind_returned] at hreturned
  obtain ⟨moved, mid, -, rolled, mid', -, hraise⟩ := hreturned
  cases error <;> cases hraise

/-- Verification passes where the replacement is at `config.toml`. -/
theorem verifyPublished_returned (hsolitary : weather.Solitary) (hio : OnlyIoFaults weather)
    {value : Unit}
    (hverified : verifyPublished lease replacement identity metadata weather home =
      .returned value last) : last.configBytes = replacement := by
  simp only [verifyPublished, bind_returned, flush, inspect_returned hsolitary] at hverified
  obtain ⟨descriptor, _, hopen, _, _, ⟨-, -, rfl⟩, _, _, ⟨-, -, rfl⟩, final, mid, hfinal,
    hcheck⟩ := hverified
  obtain ⟨-, rfl, hentry⟩ := openDirectFile_returned hsolitary hopen
  have hshown := (capture_returned hsolitary hio hentry hfinal).shown
  have hstays := capture_stays hsolitary hfinal
  split at hcheck
  · exact (not_raise_returned hcheck).elim
  · rename_i hsame
    obtain ⟨-, rfl⟩ := pure_returned.mp hcheck
    rw [hstays, configBytes_of_entry hentry]
    rw [not_ne_iff, hshown] at hsame
    exact congrArg Prod.fst hsame

theorem publish_returned (hsolitary : weather.Solitary) (hio : OnlyIoFaults weather)
    {value : Unit}
    (hpublish : publish lease expected replacement metadata temporary weather home =
      .returned value last) : last.configBytes = replacement := by
  simp only [publish, bind_returned, attempt_returned] at hpublish
  obtain ⟨actual, mid, -, hverify | ⟨error, mid', -, hhandler⟩⟩ := hpublish
  · unfold verifyIdentity at hverify
    split at hverify
    · exact (not_raise_returned hverify).elim
    · exact verifyPublished_returned hsolitary hio hverify
  · exact (not_afterFailure_returned hhandler).elim

/-- A write of other bytes that returns has published them. -/
theorem writeConfigBytes_returned (hsolitary : weather.Solitary) (hio : OnlyIoFaults weather)
    (hdifferent : replacement ≠ expected.data) {value : Bytes}
    (hwrite : writeConfigBytes lease creation expected replacement weather start =
      .returned value last) : last.configBytes = replacement := by
  simp only [writeConfigBytes, bind_returned] at hwrite
  obtain ⟨_, mid, -, hwrite⟩ := hwrite
  split at hwrite
  · exact (not_raise_returned hwrite).elim
  rw [bind_returned] at hwrite
  obtain ⟨found, mid, -, hwrite⟩ := hwrite
  split at hwrite
  · exact (not_raise_returned hwrite).elim
  split at hwrite
  · rename_i hsame
    exact (hdifferent hsame.2).elim
  simp only [bind_returned] at hwrite
  obtain ⟨metadata, _, -, temporary, _, -, _, _, -, _, _, hensuring, hpure⟩ := hwrite
  obtain ⟨-, rfl⟩ := pure_returned.mp hpure
  obtain ⟨published, hpublish, hcleanup⟩ := ensuring_returned hensuring
  have hkeeps : Keeps weather (fun home => home.configBytes = replacement)
      (cleanUp expected temporary) :=
    cleanUp_keeps hsolitary
      (fun home hhome => (configBytes_bind (by decide) none).trans hhome)
      fun home hhome => (configBytes_bind (by decide) none).trans hhome
  have hstate := hkeeps.state (publish_returned hsolitary hio hpublish)
  rw [hcleanup] at hstate
  exact hstate

/-- An undisturbed write of other bytes returns. -/
theorem writeConfigBytes_completes (hcalm : ∀ place, Calm weather place)
    (hcurrent : start.Current identity lease expected) (hunused : start.Unused identity)
    (hdifferent : replacement ≠ expected.data) :
    ∃ last, writeConfigBytes lease creation expected replacement weather start =
      .returned replacement last := by
  have hready : (((start.create .temporary replacement (start.object identity).metadata).create
      .backup [] creation).bind .backup none).Ready identity start.next lease expected
        replacement :=
    prepared_ready hcurrent hunused (start.object identity).metadata
  have hnew : ((((start.create .temporary replacement (start.object identity).metadata).create
      .backup [] creation).bind .backup none).object start.next).metadata =
        (start.object identity).metadata := by
    simp [Home.bind, Home.create]
  rw [writeConfigBytes_calm hcurrent hunused hdifferent fun place _ => hcalm place]
  generalize ((start.create .temporary replacement (start.object identity).metadata).create
    .backup [] creation).bind .backup none = home at hready hnew
  have hchecked := checkAndPublish_calm hcurrent.live (fun place _ => hcalm place)
    (hcalm (.publish .rename)) hready.staged hready.direct.plain hready.plain hready.shown
  have hlinked := linkMoved_calm hcurrent.live (fun place _ => hcalm place) hready.staged
    hready.direct.plain hready.shown
  have hunlinked : change (.publish .unlink) (fun home => home.unlink .temporary) weather
      (home.linked identity start.next) = .returned () (home.published identity start.next) := by
    rw [change_calm (hcalm _)]
    simp [Home.unlink, Home.published, Home.linked, Home.moved, Home.bind, hready.atTemporary]
  have hverified : verifyPublished lease replacement start.next (start.object identity).metadata
      weather (home.published identity start.next) =
        .returned () (home.published identity start.next) :=
    verifyPublished_calm (fun _ => hcalm _) (fun _ => hcalm _) hcurrent.live
      hready.published_direct hnew
  have hpublished : publish lease expected replacement (start.object identity).metadata start.next
      weather home = .returned () (home.published identity start.next) := by
    rw [publish_checked hchecked, publishMoved, bind_run, Run.attempt, hlinked, bind_run,
      hunlinked, returned_andThen, pure_run, returned_andThen, Run.attempt, verifyIdentity,
      if_neg (not_not_intro rfl), hverified]
  have hleft : (home.published identity start.next).Left identity start.next replacement
      start.next := by
    refine ⟨hready.published_direct, Or.inl ?_, Or.inr ?_⟩
    · simp [Home.published, Home.bind]
    · simp [Home.published, Home.linked, Home.moved, Home.bind]
  refine ⟨((home.published identity start.next).bind .temporary none).bind .backup none, ?_⟩
  rw [bind_run, Run.ensuring, hpublished]
  simp only [cleanUp_calm (fun _ => hcalm _) hready.identified hleft, returned_andThen, pure_run]

end Writes

/-! ### The write on the disk of an uninstall -/

/-- An error of the publication, as `_execute_plan` sees it. -/
def PublicationError.uninstallError : PublicationError → UninstallError
  | .install reason => .install reason
  | _ => .os

/-- `write_config_bytes` with its own calls and a weather of its own, on a home whose
    `config.toml` has the bytes of the disk, for the snapshot with the bytes that were read. -/
def publishConfig {Digest : Type} (publication : Disturbance Place Home PublicationError)
    (home : Home) (lease : InstallerLease) (creation : PosixMetadata)
    (before replacement : Bytes) : Uninstalling Digest Unit := fun _ disk =>
  match writeConfigBytes lease creation ((home.holding before).configSnapshot lease) replacement
      publication (home.holding disk.config) with
  | .returned _ last => .returned () { disk with config := last.configBytes }
  | .raised error last => .raised error.uninstallError { disk with config := last.configBytes }
  | .crashed last => .crashed { disk with config := last.configBytes }

/-- Nobody else is at work, the process lives, and where a call of the write fails, one up to
    the move of `config.toml` does. -/
structure StopsBeforeMove (publication : Disturbance Place Home PublicationError) : Prop where
  solitary : publication.Solitary
  io : OnlyIoFaults publication
  alive : ∀ place, publication.crash place = false
  early : (∃ place, place.upToMove = true ∧ publication.fault place ≠ none) ∨
    ∀ place, publication.fault place = none

/-- The write is the atomic one, or raises and leaves the disk as it is. -/
def ActsAtOnce {Digest : Type} (write : Bytes → Bytes → Uninstalling Digest Unit)
    (weather : Disturbance Spot (Disk Digest) UninstallError) (before replacement : Bytes) :
    Prop :=
  ∀ disk : Disk Digest, disk.config = before →
    write before replacement weather disk = writeConfig before replacement .undisturbed disk ∨
      (∃ error, write before replacement weather disk = .raised error disk) ∨
      ∃ last, write before replacement weather disk = .crashed last

theorem publishConfig_actsAtOnce {Digest : Type}
    {publication : Disturbance Place Home PublicationError} {home : Home} {identity : ℕ}
    {lease : InstallerLease} {creation : PosixMetadata} {before replacement : Bytes}
    {weather : Disturbance Spot (Disk Digest) UninstallError}
    (hstops : StopsBeforeMove publication) (hunused : home.Unused identity)
    (hbefore : home.configBytes = before) (hdifferent : replacement ≠ before) :
    ActsAtOnce (publishConfig publication home lease creation) weather before replacement := by
  rintro disk rfl
  have hhome : home.holding disk.config = home := by
    rw [← hbefore, holding_configBytes]
  have hdata : replacement ≠ (home.configSnapshot lease).data := by
    rw [configSnapshot_of_entry hunused.config]
    rwa [← hbefore, configBytes_of_entry hunused.config] at hdifferent
  unfold publishConfig
  rw [hhome]
  by_cases hmoves : home.Current identity lease (home.configSnapshot lease) ∧
      replacement ≠ (home.configSnapshot lease).data ∧
        ∀ place, place.upToMove = true → Clear publication place
  case pos =>
    -- No call up to the move fails, so none does.
    obtain ⟨hcurrent, -, hclear⟩ := hmoves
    have hcalm : ∀ place, Calm publication place := by
      intro place
      refine ⟨hstops.solitary place, ?_, hstops.alive place⟩
      rcases hstops.early with ⟨failing, hplace, hfault⟩ | hnone
      · exact (hfault (hclear failing hplace).fault).elim
      · exact hnone place
    obtain ⟨last, hwrite⟩ : ∃ last, writeConfigBytes lease creation (home.configSnapshot lease)
        replacement publication home = .returned replacement last :=
      writeConfigBytes_completes hcalm hcurrent hunused hdata
    refine Or.inl ?_
    rw [hwrite]
    simp only [writeConfigBytes_returned hstops.solitary hstops.io hdata hwrite]
    simp [writeConfig, Run.act, Run.operation, Disturbance.undisturbed, Except.map]
  case neg =>
    have huntouched : home.Untouched identity (writeConfigBytes lease creation
        (home.configSnapshot lease) replacement publication home).state :=
      writeConfigBytes_untouched hstops.solitary hstops.io hunused.config hunused.next hmoves
    have hbytes : ∀ last : Home, home.Untouched identity last →
        last.configBytes = disk.config := by
      intro last hlast
      rw [configBytes_of_entry hlast.entry, hlast.object, ← hbefore,
        configBytes_of_entry hunused.config]
    refine Or.inr ?_
    cases hwrite : writeConfigBytes lease creation (home.configSnapshot lease) replacement
        publication home with
    | returned value last =>
      rw [hwrite] at huntouched
      have hreplaced := writeConfigBytes_returned hstops.solitary hstops.io hdata hwrite
      exact (hdifferent (hreplaced.symm.trans (hbytes last huntouched))).elim
    | raised error last =>
      rw [hwrite] at huntouched
      refine Or.inl ⟨error.uninstallError, ?_⟩
      simp only [hbytes last huntouched]
    | crashed last => exact Or.inr ⟨_, rfl⟩

end CodexMustWork
