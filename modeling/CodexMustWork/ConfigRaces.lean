import CodexMustWork.ConfigCrashes

/-!
# Publication and another writer

Another process writes `config.toml` once while it is being published: it renames
a file of its own over it, or rewrites it in place.  Publication looks at the file
three times before it moves it away and compares the backup after the move, so the
write is noticed; whether the rollback then leaves the other writer's file alone
depends on the call the write comes before.
-/

namespace CodexMustWork

open DisturbedRuns

/-! ### The other writer -/

inductive WriteKind where
  | replacing
  | rewriting
deriving DecidableEq, Repr

/-- The write of another process: the bytes, and the metadata of the file it makes. -/
structure External where
  kind : WriteKind
  data : Bytes
  metadata : PosixMetadata
deriving DecidableEq, Repr

/-- Rename a new file over `config.toml`, or open it with truncation, which makes it
    where it is missing. -/
def External.write (external : External) (home : Home) : Home :=
  match external.kind with
  | .replacing => home.create .config external.data external.metadata
  | .rewriting =>
      match home.entry .config with
      | none => home.create .config external.data external.metadata
      | some identity =>
          home.put identity { home.object identity with data := external.data }

/-- The other process writes just before one call; no call fails. -/
def racing (point : Place) (external : External) : Disturbance Place Home PublicationError where
  before place home := if place = point then external.write home else home
  fault _ := none
  crash _ := false

/-- Nothing happens at all. -/
def still : Disturbance Place Home PublicationError where
  before _ := id
  fault _ := none
  crash _ := false

/-- If the run failed, the file of the other writer is in place and readable, nothing is
    left behind, and the error says what happened. -/
def Preserved (lease : InstallerLease) (data : Bytes)
    (outcome : Outcome Home PublicationError Bytes) : Prop :=
  match outcome with
  | .returned _ _ => True
  | .crashed _ => False
  | .raised error home =>
      error = .install concurrentChange ∧
      (∃ identity, home.entry .config = some identity ∧
        (home.object identity).regular = true ∧ home.links identity = 1 ∧
        (home.object identity).data = data) ∧
      home.entry .temporary = none ∧ home.entry .backup = none ∧
      ∃ snapshot, readConfigBytes lease still home = .returned snapshot home ∧
        snapshot.data = data

/-- What a capture shows of a write that comes during it. -/
inductive Sight where
  | old
  | new
  | torn
deriving DecidableEq, Repr

/-- A replaced file is seen from the first look on and refused from the opening on; a
    rewritten one is seen until it is read. -/
def WriteKind.sight : WriteKind → CaptureStep → Sight
  | _, .lease => .new
  | _, .lstat => .new
  | .replacing, .listxattr => .old
  | .replacing, _ => .torn
  | .rewriting, .opened => .old
  | .rewriting, .required => .old
  | .rewriting, .requiredNamed => .old
  | .rewriting, .listxattr => .old
  | .rewriting, _ => .new

/-- The first look at the file is torn. -/
def Place.tears (kind : WriteKind) : Place → Bool
  | .capture .first step => kind.sight step == .torn
  | _ => false

/-- The write is not seen before the move. -/
def Place.slips (kind : WriteKind) : Place → Bool
  | .capture .second step => kind.sight step != .new
  | .publish .guardOpen => true
  | .publish .guardFstat => true
  | .publish .guardNamed => true
  | .publish .guardIdentity => true
  | .publish .fstat => true
  | .publish .lstat => true
  | .publish .rename => true
  | _ => false

section Racing

variable {point : Place} {external : External} {lease : InstallerLease}
  {expected : ConfigSnapshot} {replacement : Bytes} {creation : PosixMetadata}
  {start home : Home} {identity temporary other : ℕ} {old new : FileObject} {α : Type}

theorem racing_calm {place : Place} (hplace : place ≠ point) :
    Calm (racing point external) place :=
  ⟨fun _ => if_neg hplace, rfl, rfl⟩

theorem still_calm (place : Place) : Calm still place :=
  ⟨fun _ => rfl, rfl, rfl⟩

theorem inspect_racing {α : Type} {place : Place} {look : Home → Except PublicationError α} :
    inspect place look (racing point external) home =
      match look (if place = point then external.write home else home) with
      | .ok value =>
          .returned value (if place = point then external.write home else home)
      | .error error =>
          .raised error (if place = point then external.write home else home) := by
  simp only [inspect, Run.operation, racing, Bool.false_eq_true, if_false]
  cases look (if place = point then external.write home else home) <;> rfl

theorem change_racing {place : Place} {step : Home → Except PublicationError Home} :
    change place step (racing point external) home =
      match step (if place = point then external.write home else home) with
      | .ok next => .returned () next
      | .error error =>
          .raised error (if place = point then external.write home else home) := by
  simp only [change, Run.operation, racing, Bool.false_eq_true, if_false]
  cases step (if place = point then external.write home else home) <;> rfl

/-! ### What the write leaves -/

/-- Where the write goes. -/
def External.target (external : External) (home : Home) : ℕ :=
  match external.kind with
  | .replacing => home.next
  | .rewriting => (home.entry .config).getD home.next

theorem write_entry_config : (external.write home).entry .config = some (external.target home) := by
  unfold External.write External.target
  cases external.kind with
  | replacing => simp [Home.create]
  | rewriting =>
    cases hentry : home.entry .config with
    | none => simp [Home.create]
    | some identity => simp [Home.put, hentry]

theorem write_entry_other {name : FileName} (hname : name ≠ .config) :
    (external.write home).entry name = home.entry name := by
  unfold External.write
  cases external.kind with
  | replacing => exact Function.update_of_ne hname _ _
  | rewriting =>
    cases home.entry .config with
    | none => exact Function.update_of_ne hname _ _
    | some identity => rfl

theorem write_object_other (hother : other ≠ external.target home) :
    (external.write home).object other = home.object other := by
  unfold External.write
  unfold External.target at hother
  cases hkind : external.kind with
  | replacing =>
    rw [hkind] at hother
    exact Function.update_of_ne hother _ _
  | rewriting =>
    rw [hkind] at hother
    cases hentry : home.entry .config with
    | none =>
      rw [hentry] at hother
      exact Function.update_of_ne hother _ _
    | some identity =>
      rw [hentry] at hother
      exact Function.update_of_ne hother _ _

theorem write_data : ((external.write home).object (external.target home)).data = external.data := by
  unfold External.write External.target
  cases external.kind with
  | replacing => simp [Home.create]
  | rewriting =>
    cases home.entry .config with
    | none => simp [Home.create]
    | some identity => simp [Home.put]

theorem write_plain (hplain : ∀ identity, home.entry .config = some identity →
      (home.object identity).Plain) :
    ((external.write home).object (external.target home)).Plain := by
  unfold External.write External.target
  cases external.kind with
  | replacing => exact ⟨by simp [Home.create], by simp [Home.create], by simp [Home.create]⟩
  | rewriting =>
    cases hentry : home.entry .config with
    | none => exact ⟨by simp [Home.create], by simp [Home.create], by simp [Home.create]⟩
    | some identity =>
      obtain ⟨hregular, hlinks, hattributes⟩ := hplain identity hentry
      exact ⟨by simp [Home.put, hregular], by simp [Home.put, hlinks],
        by simp [Home.put, hattributes]⟩

/-- No name leads to an object that does not exist yet. -/
def Home.Bounded (home : Home) : Prop :=
  ∀ name identity, home.entry name = some identity → identity < home.next

/-- The file at `config.toml` has these bytes, and no other name leads to it. -/
structure Home.Direct (home : Home) (data : Bytes) (other : ℕ) : Prop where
  config : home.entry .config = some other
  temporary : home.entry .temporary ≠ some other
  backup : home.entry .backup ≠ some other
  plain : (home.object other).Plain
  shows : (home.object other).data = data

theorem Home.Direct.ordinary {data : Bytes} (hdirect : home.Direct data other) :
    home.Ordinary other := by
  refine ⟨hdirect.plain.regular, ?_, hdirect.plain.attributes⟩
  simp [links_eq, hdirect.config, hdirect.temporary, hdirect.backup,
    hdirect.plain.otherLinks]

/-- `config.toml` is missing, or a file of its own. -/
def Home.Clean (home : Home) : Prop :=
  ∀ identity, home.entry .config = some identity → home.Direct (home.object identity).data identity

theorem Home.Direct.clean {data : Bytes} (hdirect : home.Direct data identity) : home.Clean := by
  intro found hfound
  rw [hdirect.config] at hfound
  cases hfound
  rw [hdirect.shows]
  exact hdirect

theorem write_direct (hbounded : home.Bounded) (hclean : home.Clean) :
    (external.write home).Direct external.data (external.target home) := by
  have hnames : ∀ name, name ≠ FileName.config →
      (∀ identity, home.entry .config = some identity → home.entry name ≠ some identity) →
      (external.write home).entry name ≠ some (external.target home) := by
    intro name hname hdistinct
    rw [write_entry_other hname]
    have hfresh : home.entry name ≠ some home.next := fun hentry =>
      Nat.lt_irrefl _ (hbounded name home.next hentry)
    unfold External.target
    cases external.kind with
    | replacing => exact hfresh
    | rewriting =>
      cases hentry : home.entry .config with
      | none => exact hfresh
      | some identity => exact hdistinct identity hentry
  refine ⟨write_entry_config, ?_, ?_, ?_, write_data⟩
  · exact hnames .temporary (by decide) fun identity hentry => (hclean identity hentry).temporary
  · exact hnames .backup (by decide) fun identity hentry => (hclean identity hentry).backup
  · exact write_plain fun identity hentry => (hclean identity hentry).plain

/-! ### Captures during which the file is written -/

theorem capture_racing {which : Capture} {step : CaptureStep} {data : Bytes}
    (hlive : lease.live = true) (hbounded : home.Bounded) (hdirect : home.Direct data identity) :
    captureConfigSnapshot which .config lease (racing (.capture which step) external) home =
      match external.kind.sight step with
      | .new =>
          .returned ((external.write home).snapshot .config (external.target home) lease)
            (external.write home)
      | .old => .returned (home.snapshot .config identity lease) (external.write home)
      | .torn => .raised (.install unsafePath) (external.write home) := by
  have hafter : (external.write home).Direct external.data (external.target home) :=
    write_direct hbounded hdirect.clean
  have hwritten := hafter.ordinary
  have hlookup := lookup_some hafter.config
  have hregular := hdirect.ordinary.regular
  have hlinks := hdirect.ordinary.links
  have hattributes := hdirect.ordinary.attributes
  cases hkind : external.kind with
  | replacing =>
    have hne : identity ≠ external.target home := by
      unfold External.target
      rw [hkind]
      exact ne_of_lt (hbounded .config identity hdirect.config)
    have hobject : (external.write home).object identity = home.object identity :=
      write_object_other hne
    have hgone : (external.write home).links identity = 0 := by
      simp [links_eq, write_entry_config, write_entry_other, hne.symm, hdirect.temporary,
        hdirect.backup, hobject, hdirect.plain.otherLinks]
    cases step <;>
      simp [captureConfigSnapshot, requireLiveLease, reraising, Run.attempt, captureOpened,
        openDirectFile, openNoFollow, lstat, fstat, readAll, captureMetadata, requireIdentity,
        listxattr, bind_run, pure_run, map_run, raise_run, fail, inspect_racing, hlive, hlookup,
        lookup_some hdirect.config, Home.status, hwritten.regular, hwritten.links,
        hwritten.attributes, Home.snapshot, hne, hobject, hgone, hregular, hlinks, hattributes,
        WriteKind.sight]
  | rewriting =>
    have htarget : external.target home = identity := by
      unfold External.target
      rw [hkind, hdirect.config]
      rfl
    rw [htarget] at hwritten hlookup
    have hmetadata : ((external.write home).object identity).metadata =
        (home.object identity).metadata := by
      simp [External.write, hkind, hdirect.config, Home.put]
    cases step <;>
      simp [captureConfigSnapshot, requireLiveLease, reraising, Run.attempt, captureOpened,
        openDirectFile, openNoFollow, lstat, fstat, readAll, captureMetadata, requireIdentity,
        listxattr, bind_run, pure_run, map_run, fail, inspect_racing, hlive, hlookup,
        lookup_some hdirect.config, Home.status, hwritten.regular, hwritten.links,
        hwritten.attributes, Home.snapshot, htarget, hmetadata, hregular, hlinks,
        WriteKind.sight]

/-! ### A write beside other work -/

/-- What holds before and after a write is there when a call looks. -/
theorem inspect_beside {α : Type} {inv : Home → Prop} {place : Place} {value : α}
    {look : Home → Except PublicationError α} {raised : PublicationError → Home → Prop}
    {crashed : Home → Prop} (hwrite : ∀ home, inv home → inv (external.write home))
    (hlook : ∀ home, inv home → look home = .ok value) :
    Triple (racing point external) inv (inspect place look)
      ⟨fun found home => found = value ∧ inv home, raised, crashed⟩ := by
  intro home hhome
  have hseen : inv (if place = point then external.write home else home) := by
    split
    · exact hwrite home hhome
    · exact hhome
  rw [inspect_racing, hlook _ hseen]
  exact ⟨rfl, hseen⟩

theorem change_beside {inv after : Home → Prop} {place : Place}
    {step : Home → Except PublicationError Home} {raised : PublicationError → Home → Prop}
    {crashed : Home → Prop} (hwrite : ∀ home, inv home → inv (external.write home))
    (hstep : ∀ home, inv home → ∃ next, step home = .ok next ∧ after next) :
    Triple (racing point external) inv (change place step)
      ⟨fun _ home => after home, raised, crashed⟩ := by
  intro home hhome
  have hseen : inv (if place = point then external.write home else home) := by
    split
    · exact hwrite home hhome
    · exact hhome
  obtain ⟨next, hnext, hafter⟩ := hstep _ hseen
  rw [change_racing, hnext]
  exact hafter

theorem captureMetadata_beside {inv : Home → Prop} {fstatting naming listing : Place}
    {name : FileName} {descriptor : ℕ} {metadata : PosixMetadata}
    {raised : PublicationError → Home → Prop} {crashed : Home → Prop}
    (hwrite : ∀ home, inv home → inv (external.write home))
    (hentry : ∀ home, inv home → home.entry name = some descriptor)
    (hfile : ∀ home, inv home → home.Ordinary descriptor)
    (hmetadata : ∀ home, inv home → (home.object descriptor).metadata = metadata) :
    Triple (racing point external) inv
      (captureMetadata fstatting naming listing name descriptor)
      ⟨fun found home => found = metadata ∧ inv home, raised, crashed⟩ := by
  have hstatus : ∀ home, inv home →
      (Except.ok (home.status descriptor) : Except PublicationError FileStatus) =
        .ok ⟨descriptor, metadata, true, 1⟩ := by
    intro home hhome
    simp [Home.status, hmetadata home hhome, (hfile home hhome).regular, (hfile home hhome).links]
  have hlookup : ∀ home, inv home → home.lookup name = .ok descriptor := fun home hhome =>
    lookup_some (hentry home hhome)
  have hattributes : ∀ home, inv home →
      (Except.ok (home.object descriptor).attributes : Except PublicationError Bool) =
        .ok false := by
    intro home hhome
    rw [(hfile home hhome).attributes]
  refine Triple.bind_known ⟨descriptor, metadata, true, 1⟩ inv ?_ ?_
  · refine Triple.bind_known ((⟨descriptor, metadata, true, 1⟩ : FileStatus), descriptor) inv ?_ ?_
    · refine Triple.attempt_safe (Triple.bind_known _ inv (inspect_beside hwrite hstatus) ?_)
      refine Triple.bind_known _ inv (inspect_beside hwrite hlookup) ?_
      exact Triple.pure fun home hhome => ⟨rfl, hhome⟩
    · refine Triple.ite (fun _ => Triple.pure fun home hhome => ⟨rfl, hhome⟩) fun hnot => ?_
      exact absurd ⟨rfl, rfl, rfl⟩ hnot
  · refine Triple.bind_known false inv (Triple.attempt_safe (inspect_beside hwrite hattributes)) ?_
    refine Triple.ite (fun htrue => by cases htrue) fun _ => ?_
    exact Triple.pure fun home hhome => ⟨rfl, hhome⟩

/-! ### Preparing beside a write -/

theorem create_bounded (hbounded : home.Bounded) (name : FileName) (data : Bytes)
    (metadata : PosixMetadata) : (home.create name data metadata).Bounded := by
  intro other found hfound
  by_cases hname : other = name
  · simp only [hname, Home.create, Function.update_self, Option.some.injEq] at hfound
    rw [← hfound]
    exact Nat.lt_succ_self _
  · simp only [Home.create, Function.update_of_ne hname] at hfound
    exact Nat.lt_succ_of_lt (hbounded other found hfound)

theorem write_bounded (hbounded : home.Bounded) : (external.write home).Bounded := by
  have hcreate : (home.create .config external.data external.metadata).Bounded :=
    create_bounded hbounded _ _ _
  unfold External.write
  cases external.kind with
  | replacing => exact hcreate
  | rewriting =>
    cases home.entry .config with
    | none => exact hcreate
    | some identity => exact hbounded

/-- A home that is being prepared: `config.toml` is what it was or the other writer's,
    and the two names are used so far. -/
structure Home.Beside (start : Home) (identity : ℕ) (data : Bytes) (temporary backup : Option ℕ)
    (object : FileObject) (home : Home) : Prop where
  bounded : home.Bounded
  seen : (∃ other, home.Direct data other) ∨
    (home.Direct (start.object identity).data identity ∧
      home.object identity = start.object identity)
  atTemporary : home.entry .temporary = temporary
  atBackup : home.entry .backup = backup
  made : ∀ found, temporary = some found → home.object found = object

theorem Home.Beside.clean {data : Bytes} {temporary backup : Option ℕ} {object : FileObject}
    (hbeside : start.Beside identity data temporary backup object home) : home.Clean := by
  rcases hbeside.seen with ⟨other, hdirect⟩ | ⟨hdirect, -⟩
  · exact hdirect.clean
  · exact hdirect.clean

theorem Home.Beside.write {temporary backup : Option ℕ} {object : FileObject}
    (hbeside : start.Beside identity external.data temporary backup object home) :
    start.Beside identity external.data temporary backup object (external.write home) := by
  have hdirect : (external.write home).Direct external.data (external.target home) :=
    write_direct hbeside.bounded hbeside.clean
  refine ⟨write_bounded hbeside.bounded, Or.inl ⟨_, hdirect⟩, ?_, ?_, ?_⟩
  · rw [write_entry_other (by decide), hbeside.atTemporary]
  · rw [write_entry_other (by decide), hbeside.atBackup]
  · intro found hfound
    rw [← hbeside.made found hfound]
    refine write_object_other fun htarget => hdirect.temporary ?_
    rw [write_entry_other (by decide), hbeside.atTemporary, hfound, htarget]

theorem Home.Direct.create {data : Bytes} {name : FileName} (hdirect : home.Direct data other)
    (hbounded : home.Bounded) (hname : name ≠ .config) (bytes : Bytes) (metadata : PosixMetadata) :
    (home.create name bytes metadata).Direct data other := by
  have hother : other < home.next := hbounded .config other hdirect.config
  have hobject : (home.create name bytes metadata).object other = home.object other :=
    Function.update_of_ne (ne_of_lt hother) _ _
  have hentries : ∀ found, home.entry found ≠ some other →
      (home.create name bytes metadata).entry found ≠ some other := by
    intro found hfound
    by_cases hsame : found = name
    · simp only [hsame, Home.create, Function.update_self, ne_eq, Option.some.injEq]
      exact ne_of_gt hother
    · simpa only [Home.create, Function.update_of_ne hsame] using hfound
  refine ⟨?_, hentries _ hdirect.temporary, hentries _ hdirect.backup, ?_, ?_⟩
  · rw [← hdirect.config]
    exact Function.update_of_ne hname.symm _ _
  · rw [hobject]
    exact hdirect.plain
  · rw [hobject]
    exact hdirect.shows

theorem Home.Direct.put {data : Bytes} (hdirect : home.Direct data other)
    (hother : temporary ≠ other) (object : FileObject) :
    (home.put temporary object).Direct data other := by
  have hobject : (home.put temporary object).object other = home.object other :=
    Function.update_of_ne hother.symm _ _
  refine ⟨hdirect.config, hdirect.temporary, hdirect.backup, ?_, ?_⟩
  · rw [hobject]
    exact hdirect.plain
  · rw [hobject]
    exact hdirect.shows

theorem Home.Direct.unlink {data : Bytes} {name : FileName} (hdirect : home.Direct data other)
    (hname : name ≠ .config) : (home.bind name none).Direct data other := by
  have hentries : ∀ found, home.entry found ≠ some other →
      (home.bind name none).entry found ≠ some other := by
    intro found hfound
    by_cases hsame : found = name
    · simp [hsame, Home.bind]
    · simpa only [Home.bind, Function.update_of_ne hsame] using hfound
  refine ⟨?_, hentries _ hdirect.temporary, hentries _ hdirect.backup, hdirect.plain,
    hdirect.shows⟩
  rw [← hdirect.config]
  exact Function.update_of_ne hname.symm _ _

section Preparing

variable {backup : Option ℕ} {object : FileObject} {raised : PublicationError → Home → Prop}
  {crashed : Home → Prop}

theorem Home.Beside.create {data : Bytes} {name : FileName} {names : Option ℕ}
    (hbeside : start.Beside identity data names backup object home) (hname : name ≠ .config)
    (bytes : Bytes) (metadata : PosixMetadata) :
    (home.create name bytes metadata).Bounded ∧
      ((∃ other, (home.create name bytes metadata).Direct data other) ∨
        ((home.create name bytes metadata).Direct (start.object identity).data identity ∧
          (home.create name bytes metadata).object identity = start.object identity)) := by
  refine ⟨create_bounded hbeside.bounded _ _ _, ?_⟩
  rcases hbeside.seen with ⟨other, hdirect⟩ | ⟨hdirect, hobject⟩
  · exact Or.inl ⟨other, hdirect.create hbeside.bounded hname _ _⟩
  · refine Or.inr ⟨hdirect.create hbeside.bounded hname _ _, ?_⟩
    rw [← hobject]
    exact Function.update_of_ne (ne_of_lt (hbeside.bounded .config identity hdirect.config)) _ _

theorem Home.Beside.put {data : Bytes} {next : FileObject}
    (hbeside : start.Beside identity data (some temporary) backup object home) :
    start.Beside identity data (some temporary) backup next (home.put temporary next) := by
  have hmade : ∀ found, some temporary = some found →
      (home.put temporary next).object found = next := by
    intro found hfound
    rw [← Option.some.inj hfound]
    exact Function.update_self _ _ _
  have hother : ∀ {bytes : Bytes} {other : ℕ}, home.Direct bytes other → temporary ≠ other :=
    fun hdirect hsame => hdirect.temporary (hsame ▸ hbeside.atTemporary)
  refine ⟨hbeside.bounded, ?_, hbeside.atTemporary, hbeside.atBackup, hmade⟩
  rcases hbeside.seen with ⟨other, hdirect⟩ | ⟨hdirect, hobject⟩
  · exact Or.inl ⟨other, hdirect.put (hother hdirect) next⟩
  · refine Or.inr ⟨hdirect.put (hother hdirect) next, ?_⟩
    rw [← hobject]
    exact Function.update_of_ne (hother hdirect).symm _ _

theorem Home.Beside.ordinary {data : Bytes} (hplain : object.Plain)
    (hbeside : start.Beside identity data (some temporary) none object home) :
    home.Ordinary temporary := by
  have hconfig : home.entry .config ≠ some temporary := by
    intro hentry
    exact (hbeside.clean temporary hentry).temporary hbeside.atTemporary
  have hobject := hbeside.made temporary rfl
  refine ⟨?_, ?_, ?_⟩
  · rw [hobject, hplain.regular]
  · simp [links_eq, hconfig, hbeside.atTemporary, hbeside.atBackup, hobject, hplain.otherLinks]
  · rw [hobject, hplain.attributes]

theorem mkstemp_racing {place : Place} {name : FileName} :
    mkstemp place name creation (racing point external) home =
      .returned (if place = point then external.write home else home).next
        ((if place = point then external.write home else home).create name [] creation) := by
  simp [mkstemp, Run.operation, racing]

/-- One call that changes the temporary file, beside a write. -/
theorem put_beside {place : Place} {next : FileObject} (make : FileObject → FileObject)
    (hmake : make object = next) :
    Triple (racing point external)
      (start.Beside identity external.data (some temporary) none object)
      (change place fun home => .ok (home.put temporary (make (home.object temporary))))
      ⟨fun _ => start.Beside identity external.data (some temporary) none next, raised,
        crashed⟩ := by
  refine change_beside (fun home hhome => hhome.write) fun home hhome => ⟨_, rfl, ?_⟩
  rw [hhome.made temporary rfl, hmake]
  exact hhome.put

/-- One call that looks at the name of the temporary file, beside a write. -/
theorem lookup_beside {place : Place} :
    Triple (racing point external)
      (start.Beside identity external.data (some temporary) none object)
      (lstat place .temporary)
      ⟨fun found home => found = temporary ∧
        start.Beside identity external.data (some temporary) none object home, raised,
        crashed⟩ :=
  inspect_beside (fun _ hhome => hhome.write) fun _ hhome => lookup_some hhome.atTemporary

theorem flush_beside {place : Place} :
    Triple (racing point external)
      (start.Beside identity external.data (some temporary) none object) (flush place)
      ⟨fun found home => found = () ∧
        start.Beside identity external.data (some temporary) none object home, raised,
        crashed⟩ :=
  inspect_beside (fun _ hhome => hhome.write) fun _ _ => rfl

theorem fillTemporary_beside {data : Bytes} {metadata : PosixMetadata} :
    Triple (racing point external)
      (start.Beside identity external.data (some temporary) none ⟨[], creation, true, 0, false⟩)
      (fillTemporary data metadata temporary)
      ⟨fun _ => start.Beside identity external.data (some temporary) none
        ⟨data, metadata, true, 0, false⟩, raised, crashed⟩ := by
  refine Triple.bind (put_beside (fun found => { found with data := data }) rfl) fun _ => ?_
  refine Triple.bind_known () _ flush_beside ?_
  refine Triple.bind (Triple.attempt_safe (Triple.bind
    (put_beside (fun found => { found with metadata := { found.metadata with
      owner := metadata.owner, group := metadata.group } }) rfl) fun _ =>
    put_beside (fun found => { found with metadata := { found.metadata with
      mode := metadata.mode } }) rfl)) fun _ => ?_
  refine Triple.bind_known () _ flush_beside ?_
  refine Triple.bind_known _ _ lookup_beside ?_
  refine Triple.ite (fun hne => absurd rfl hne) fun _ => ?_
  refine Triple.bind_known metadata _ (captureMetadata_beside (fun _ hhome => hhome.write)
    (fun _ hhome => hhome.atTemporary) (fun _ hhome => hhome.ordinary ⟨rfl, rfl, rfl⟩)
    fun _ hhome => by rw [hhome.made temporary rfl]) ?_
  refine Triple.ite (fun hne => absurd rfl hne) fun _ => ?_
  exact Triple.pure fun home hhome => hhome

theorem mkstemp_temporary_beside {place : Place} :
    Triple (racing point external) (start.Beside identity external.data none none object)
      (mkstemp place .temporary creation)
      ⟨fun descriptor => start.Beside identity external.data (some descriptor) none
        ⟨[], creation, true, 0, false⟩, raised, crashed⟩ := by
  intro home hhome
  have hseen : start.Beside identity external.data none none object
      (if place = point then external.write home else home) := by
    split
    · exact hhome.write
    · exact hhome
  generalize hfound : (if place = point then external.write home else home) = found at hseen
  rw [mkstemp_racing, hfound]
  obtain ⟨hbounded, hdirect⟩ :=
    hseen.create (show FileName.temporary ≠ .config by decide) [] creation
  refine ⟨hbounded, hdirect, ?_, ?_, ?_⟩
  · simp [Home.create]
  · simp [Home.create, hseen.atBackup]
  · intro descriptor hdescriptor
    simp [Home.create, ← Option.some.inj hdescriptor]

theorem makeTemporary_beside {data : Bytes} {metadata : PosixMetadata} :
    Triple (racing point external) (start.Beside identity external.data none none object)
      (makeTemporary data metadata creation)
      ⟨fun temporary => start.Beside identity external.data (some temporary) none
        ⟨data, metadata, true, 0, false⟩, raised, crashed⟩ := by
  refine Triple.bind mkstemp_temporary_beside fun descriptor => ?_
  refine Triple.bind_known ⟨descriptor, creation, true, 1⟩ _
    (inspect_beside (fun _ hhome => hhome.write) fun home hhome => ?_) ?_
  · have hordinary := hhome.ordinary ⟨rfl, rfl, rfl⟩
    simp [Home.status, hhome.made descriptor rfl, hordinary.links]
  · refine Triple.bind (Triple.attempt_safe fillTemporary_beside) fun _ => ?_
    exact Triple.pure fun home hhome => hhome

theorem unusedPath_beside :
    Triple (racing point external)
      (start.Beside identity external.data (some temporary) none object)
      (unusedPath creation)
      ⟨fun _ => start.Beside identity external.data (some temporary) none object, raised,
        crashed⟩ := by
  have hmkstemp : Triple (racing point external)
      (start.Beside identity external.data (some temporary) none object)
      (mkstemp .unusedMkstemp .backup creation)
      ⟨fun descriptor => start.Beside identity external.data (some temporary) (some descriptor)
        object, raised, crashed⟩ := by
    intro home hhome
    have hseen : start.Beside identity external.data (some temporary) none object
        (if Place.unusedMkstemp = point then external.write home else home) := by
      split
      · exact hhome.write
      · exact hhome
    generalize hfound : (if Place.unusedMkstemp = point then external.write home else home) =
      found at hseen
    rw [mkstemp_racing, hfound]
    obtain ⟨hbounded, hdirect⟩ :=
      hseen.create (show FileName.backup ≠ .config by decide) [] creation
    refine ⟨hbounded, hdirect, ?_, ?_, ?_⟩
    · simp [Home.create, hseen.atTemporary]
    · simp [Home.create]
    · intro other hother
      have hlt := hseen.bounded .temporary temporary hseen.atTemporary
      have hne : other ≠ found.next := by
        rw [← Option.some.inj hother]
        exact ne_of_lt hlt
      rw [← hseen.made other hother]
      exact Function.update_of_ne hne _ _
  refine Triple.bind hmkstemp fun descriptor => ?_
  refine change_beside (fun home hhome => hhome.write) fun home hhome => ?_
  refine ⟨home.bind .backup none, by simp [Home.unlink, hhome.atBackup], ?_, ?_, ?_, ?_, ?_⟩
  · intro name found hfound
    by_cases hname : name = FileName.backup
    · simp [hname, Home.bind] at hfound
    · simp only [Home.bind, Function.update_of_ne hname] at hfound
      exact hhome.bounded name found hfound
  · rcases hhome.seen with ⟨other, hdirect⟩ | ⟨hdirect, hobject⟩
    · exact Or.inl ⟨other, hdirect.unlink (by decide)⟩
    · exact Or.inr ⟨hdirect.unlink (by decide), hobject⟩
  · simp [Home.bind, hhome.atTemporary]
  · simp [Home.bind]
  · intro other hother
    exact hhome.made other hother

end Preparing

/-! ### How a failed publication ends -/

section Ends

variable {weather : Disturbance Place Home PublicationError} {data : Bytes}

/-- Rolling back stops at a file that is not the publication's. -/
theorem restore_direct (hcalm : ∀ step, Calm weather (.capture .current step))
    (hlive : lease.live = true) (hdirect : home.Direct data other)
    (hold : data ≠ expected.data) (hnew : data ≠ replacement) :
    restore lease expected temporary replacement weather home =
      .raised (.install concurrentChange) home := by
  have hcapture := capture_calm hcalm hlive hdirect.config hdirect.ordinary
  have hsnapshot : home.snapshot .config other lease ≠ expected := by
    rintro rfl
    exact hold hdirect.shows.symm
  have hshown : (home.snapshot .config other lease).data ≠ replacement := by
    rw [Home.snapshot, hdirect.shows]
    exact hnew
  simp [restore, bind_run, hcapture, hsnapshot, hshown, fail, raise_run]

/-- With the file moved away or published, the failure is the one of the rollback. -/
theorem afterFailure_direct {published : Bool} {error : PublicationError}
    (hcalm : ∀ step, Calm weather (.capture .current step))
    (hexists : Calm weather (.restore .exists)) (hlive : lease.live = true)
    (hdirect : home.Direct data other) (hold : data ≠ expected.data) (hnew : data ≠ replacement)
    (hmoved : published = true ∨ home.entry .backup ≠ none) :
    (afterFailure lease expected temporary replacement published error : Publication α) weather
        home = .raised (.install concurrentChange) home := by
  have hrestore : restore lease expected temporary replacement weather home =
      .raised (.install concurrentChange) home :=
    restore_direct hcalm hlive hdirect hold hnew
  cases published with
  | true => simp [afterFailure, movedAway, bind_run, pure_run, hrestore]
  | false =>
    have hsome : (home.entry .backup).isSome = true := by
      cases hbackup : home.entry .backup with
      | none => simp [hbackup] at hmoved
      | some identity => rfl
    simp [afterFailure, movedAway, bind_run, pathExists, inspect_calm hexists, hsome, hrestore]

/-- With nothing moved, the failure stays what it was. -/
theorem afterFailure_unmoved {reason : String} (hexists : Calm weather (.restore .exists))
    (hbackup : home.entry .backup = none) :
    (afterFailure lease expected temporary replacement false (.install reason) :
        Publication α) weather home = .raised (.install reason) home := by
  simp [afterFailure, movedAway, bind_run, pure_run, pathExists, inspect_calm hexists, hbackup,
    asInstallerError, fail, raise_run]

/-- The other writer's file beside what the publication has made. -/
structure Home.Left (home : Home) (identity temporary : ℕ) (data : Bytes) (other : ℕ) : Prop where
  direct : home.Direct data other
  temporary : home.entry .temporary = none ∨ home.entry .temporary = some temporary
  backup : home.entry .backup = none ∨ home.entry .backup = some identity

theorem removeBound_calm {looking unlinking : Place} {name : FileName}
    (hlooking : Calm weather looking) (hunlinking : Calm weather unlinking)
    (hentry : home.entry name = none ∨ home.entry name = some identity) :
    removeBound looking unlinking name identity weather home =
      .returned () (home.bind name none) := by
  rcases hentry with hentry | hentry
  · have hsame : home.bind name none = home := by
      simp [Home.bind, ← hentry]
    simp [removeBound, Run.attempt, bind_run, pure_run, lstat, inspect_calm hlooking,
      lookup_none hentry, hsame]
  · simp [removeBound, Run.attempt, bind_run, lstat, inspect_calm hlooking,
      change_calm hunlinking, lookup_some hentry, Home.unlink, hentry]

theorem cleanUp_calm (hcalm : ∀ step, Calm weather (.cleanup step))
    (hidentity : expected.identity = some identity)
    (hleft : home.Left identity temporary data other) :
    cleanUp expected temporary weather home =
      .returned () ((home.bind .temporary none).bind .backup none) := by
  have hbackup : (home.bind .temporary none).entry .backup = none ∨
      (home.bind .temporary none).entry .backup = some identity := by
    simpa [Home.bind] using hleft.backup
  rw [cleanUp, bind_run,
    removeBound_calm (hcalm .temporaryLstat) (hcalm .temporaryUnlink) hleft.temporary, hidentity]
  exact removeBound_calm (hcalm .backupLstat) (hcalm .backupUnlink) hbackup

/-- Cleaning up does not fail, whenever the other process writes. -/
theorem removeBound_returns {looking unlinking : Place} {name : FileName} :
    ∃ last, removeBound looking unlinking name identity (racing point external) home =
      .returned () last := by
  generalize hlooked : (if looking = point then external.write home else home) = looked
  cases hentry : looked.lookup name with
  | error error =>
    have herror : error = .notFound := by
      unfold Home.lookup at hentry
      split at hentry <;> simp_all
    exact ⟨looked, by simp [removeBound, Run.attempt, bind_run, lstat, inspect_racing, hlooked,
      hentry, herror, pure_run]⟩
  | ok found =>
    by_cases hfound : found = identity
    · generalize hunlinked : (if unlinking = point then external.write looked else looked) =
        unlinked
      cases hlast : unlinked.entry name with
      | none =>
        exact ⟨unlinked, by simp [removeBound, Run.attempt, bind_run, lstat, inspect_racing,
          change_racing, hlooked, hentry, hfound, hunlinked, Home.unlink, hlast, pure_run]⟩
      | some last =>
        exact ⟨unlinked.bind name none, by simp [removeBound, Run.attempt, bind_run, lstat,
          inspect_racing, change_racing, hlooked, hentry, hfound, hunlinked, Home.unlink, hlast]⟩
    · exact ⟨looked, by simp [removeBound, Run.attempt, bind_run, lstat, inspect_racing, hlooked,
        hentry, hfound, pure_run]⟩

theorem cleanUp_returns :
    ∃ last, cleanUp expected temporary (racing point external) home = .returned () last := by
  obtain ⟨mid, hmid⟩ : ∃ mid, removeBound (.cleanup .temporaryLstat) (.cleanup .temporaryUnlink)
      .temporary temporary (racing point external) home = .returned () mid := removeBound_returns
  rw [cleanUp, bind_run, hmid]
  cases expected.identity with
  | none => exact ⟨mid, rfl⟩
  | some identity => exact removeBound_returns

/-- A direct file with the two names free is what the writer should find. -/
theorem preserved_of_direct (hlive : lease.live = true) (hdirect : home.Direct data other)
    (htemporary : home.entry .temporary = none) (hbackup : home.entry .backup = none) :
    Preserved lease data (.raised (.install concurrentChange) home) := by
  refine ⟨rfl, ⟨other, hdirect.config, hdirect.plain.regular, hdirect.ordinary.links,
    hdirect.shows⟩, htemporary, hbackup, home.snapshot .config other lease, ?_, hdirect.shows⟩
  simp [readConfigBytes, requireLiveLease, reraising, Run.attempt, bind_run,
    inspect_calm (still_calm _), hlive,
    capture_calm (fun step => still_calm (.capture .read step)) hlive hdirect.config
      hdirect.ordinary]

theorem not_preserved_unsafe :
    ¬ Preserved lease data (.raised (.install unsafePath) home) := by
  rintro ⟨herror, -⟩
  simp [unsafePath, concurrentChange] at herror

end Ends

/-! ### A write before the move -/

/-- The home once the temporary file is there. -/
structure Home.Ready (home : Home) (identity temporary : ℕ) (lease : InstallerLease)
    (expected : ConfigSnapshot) (replacement : Bytes) : Prop where
  bounded : home.Bounded
  direct : home.Direct expected.data identity
  shown : expected = home.snapshot .config identity lease
  atTemporary : home.entry .temporary = some temporary
  atBackup : home.entry .backup = none
  plain : (home.object temporary).Plain
  fills : (home.object temporary).data = replacement

section Moving

variable {weather : Disturbance Place Home PublicationError} {metadata : PosixMetadata}

theorem Home.Ready.distinct (hready : home.Ready identity temporary lease expected replacement) :
    temporary ≠ identity := by
  rintro rfl
  exact hready.direct.temporary hready.atTemporary

theorem Home.Ready.staged (hready : home.Ready identity temporary lease expected replacement) :
    home.Staged identity temporary (home.object identity) (home.object temporary) :=
  ⟨hready.direct.config, hready.atTemporary, hready.atBackup, hready.distinct.symm, rfl, rfl⟩

theorem Home.Ready.identified (hready : home.Ready identity temporary lease expected replacement) :
    expected.identity = some identity := by
  rw [hready.shown]
  rfl

/-- The temporary file is not touched by the write. -/
theorem Home.Ready.write_object
    (hready : home.Ready identity temporary lease expected replacement) :
    (external.write home).object temporary = home.object temporary := by
  have hwritten : (external.write home).Direct external.data (external.target home) :=
    write_direct hready.bounded hready.direct.clean
  refine write_object_other ?_
  rintro rfl
  exact hwritten.temporary (by rw [write_entry_other (by decide), hready.atTemporary])

/-- A second look that shows other bytes stops the publication. -/
theorem publish_seen {data : Bytes} (hcalm : ∀ step, Calm weather (.capture .second step))
    (hexists : Calm weather (.restore .exists)) (hlive : lease.live = true)
    (hdirect : home.Direct data other) (hdata : data ≠ expected.data)
    (hbackup : home.entry .backup = none) :
    publish lease expected replacement metadata temporary weather home =
      .raised (.install concurrentChange) home := by
  have hcapture := capture_calm hcalm hlive hdirect.config hdirect.ordinary
  have hsnapshot : home.snapshot .config other lease ≠ expected := by
    rintro rfl
    exact hdata hdirect.shows.symm
  have hcheck : checkAndPublish lease expected temporary weather home =
      .raised (.install concurrentChange) home := by
    simp [checkAndPublish, bind_run, hcapture, hsnapshot, fail, raise_run]
  rw [publish, bind_run, Run.attempt, hcheck]
  simp only [afterFailure_unmoved hexists hbackup, raised_andThen]

/-- A write that comes after the second look moves the other writer's file away. -/
theorem slips_moves (hlive : lease.live = true)
    (hready : home.Ready identity temporary lease expected replacement)
    (hslips : point.slips external.kind = true)
    (hlate : ∀ step, point = .capture .second step → external.kind.sight step = .old) :
    checkAndPublish lease expected temporary (racing point external) home =
      linkMoved lease expected temporary (racing point external)
        ((external.write home).moved (external.target home)) := by
  have hwritten : (external.write home).Direct external.data (external.target home) :=
    write_direct hready.bounded hready.direct.clean
  have htemporary : (external.write home).entry .temporary = some temporary := by
    rw [write_entry_other (by decide), hready.atTemporary]
  have hbackup : (external.write home).entry .backup = none := by
    rw [write_entry_other (by decide), hready.atBackup]
  have hobject : (external.write home).object temporary = home.object temporary :=
    hready.write_object
  have hregular := hready.plain.regular
  have hlinks : home.links temporary = 1 := by
    simp [links_eq, hready.direct.config, hready.distinct.symm, hready.atTemporary,
      hready.atBackup, hready.plain.otherLinks]
  have hafter : (external.write home).links temporary = 1 := by
    have hne : external.target home ≠ temporary := by
      rintro rfl
      exact hwritten.temporary htemporary
    simp [links_eq, hwritten.config, hne, htemporary, hbackup, hobject, hready.plain.otherLinks]
  have hrename : (external.write home).rename .config .backup =
      .ok ((external.write home).moved (external.target home)) := by
    simp [Home.rename, hwritten.config, hbackup, Home.moved]
  have hidentity : expected.identity ≠ none := by
    rw [hready.identified]
    exact Option.some_ne_none identity
  by_cases hsecond : ∃ step, point = .capture .second step
  · obtain ⟨step, rfl⟩ := hsecond
    have hcapture : captureConfigSnapshot .second .config lease
        (racing (.capture .second step) external) home = .returned expected (external.write home) := by
      rw [capture_racing hlive hready.bounded hready.direct, hlate step rfl, ← hready.shown]
    simp [checkAndPublish, temporaryGuard, openDirectFile, openNoFollow, publishSnapshot,
      publishPosix, bind_run, pure_run, hcapture, inspect_racing, change_racing, Run.attempt,
      lstat, fstat, lookup_some htemporary, Home.status, hobject, hregular, hafter, hidentity,
      hrename]
  · have hcapture : captureConfigSnapshot .second .config lease (racing point external) home =
        .returned expected home := by
      have hcalm : ∀ step, Calm (racing point external) (.capture .second step) := fun step =>
        racing_calm fun hpoint => hsecond ⟨step, hpoint.symm⟩
      rw [capture_calm hcalm hlive hready.direct.config hready.direct.ordinary, ← hready.shown]
    unfold Place.slips at hslips
    split at hslips
    case h_1 => exact absurd ⟨_, rfl⟩ hsecond
    case h_9 => cases hslips
    all_goals simp [checkAndPublish, temporaryGuard, openDirectFile, openNoFollow,
      publishSnapshot, publishPosix, bind_run, pure_run, hcapture, inspect_racing, change_racing,
      Run.attempt, lstat, fstat, lookup_some htemporary, lookup_some hready.atTemporary,
      Home.status, hobject, hregular, hafter, hlinks, hidentity, hrename]

/-- The other writer's file, moved away, is linked back beside the backup and then refused
    for its second link. -/
theorem linkMoved_slipped {data : Bytes} (hbackup : ∀ step, Calm weather (.capture .backup step))
    (hcurrent : ∀ step, Calm weather (.capture .current step))
    (hlink : Calm weather (.publish .linkBack)) (hexists : Calm weather (.restore .exists))
    (hlive : lease.live = true) (hdirect : home.Direct data other)
    (hdata : data ≠ expected.data) :
    publishMoved lease expected replacement metadata temporary weather (home.moved other) =
      .raised (.install unsafePath) ((home.moved other).bind .config (some other)) := by
  have hentry : (home.moved other).entry .backup = some other := by
    simp [Home.moved, Home.bind]
  have hordinary : (home.moved other).Ordinary other := by
    refine ⟨hdirect.plain.regular, ?_, hdirect.plain.attributes⟩
    simp [links_eq, Home.moved, Home.bind, hdirect.temporary, hdirect.plain.otherLinks]
  have hcapture := capture_calm hbackup hlive hentry hordinary
  have hstate : ((home.moved other).snapshot .backup other lease).state ≠ expected.state := by
    intro hsame
    refine hdata ?_
    rw [← hdirect.shows]
    exact congrArg Prod.fst hsame
  have hback : (home.moved other).link .backup .config =
      .ok ((home.moved other).bind .config (some other)) := by
    simp [Home.link, Home.moved, Home.bind]
  generalize hlast : (home.moved other).bind .config (some other) = last at hback
  have hconfig : last.entry .config = some other := by
    simp [← hlast, Home.bind]
  have hstill : last.entry .backup = some other := by
    simp [← hlast, Home.moved, Home.bind]
  have hlinks : last.links other ≠ 1 := by
    simp only [links_eq, hconfig, hstill, if_true]
    omega
  have hfound := capture_calm_links hcurrent hlive hconfig hlinks
  simp [publishMoved, linkMoved, bind_run, hcapture, hstate, Run.attempt, change_calm hlink, hback,
    fail, raise_run, afterFailure, movedAway, pathExists, inspect_calm hexists, hstill, restore,
    hfound]

/-! ### A write between the move and the link -/

theorem moved_bounded (hready : home.Ready identity temporary lease expected replacement) :
    (home.moved identity).Bounded := by
  intro name found hfound
  have hidentity := hready.bounded .config identity hready.direct.config
  cases name with
  | config => simp [Home.moved, Home.bind] at hfound
  | temporary =>
    refine hready.bounded .temporary found ?_
    simpa [Home.moved, Home.bind] using hfound
  | backup =>
    simp only [Home.moved, Home.bind, ne_eq, reduceCtorEq, not_false_eq_true,
      Function.update_of_ne, Function.update_self, Option.some.injEq] at hfound
    rw [← hfound]
    exact hidentity

theorem moved_clean : (home.moved identity).Clean := by
  intro found hfound
  simp [Home.moved, Home.bind] at hfound

/-- A file made where `config.toml` is missing is in the way of the link. -/
theorem linkMoved_raced (hlive : lease.live = true)
    (hready : home.Ready identity temporary lease expected replacement)
    (hpoint : point.upToLink = true) :
    linkMoved lease expected temporary (racing point external) (home.moved identity) =
      .raised (.install concurrentChange) (external.write (home.moved identity)) := by
  have hwritten : (external.write (home.moved identity)).Direct external.data
      (external.target (home.moved identity)) :=
    write_direct (moved_bounded hready) moved_clean
  have hentry : (home.moved identity).entry .backup = some identity := by
    simp [Home.moved, Home.bind]
  have hafter : (external.write (home.moved identity)).entry .backup = some identity := by
    rw [write_entry_other (by decide), hentry]
  have hne : external.target (home.moved identity) ≠ identity := by
    intro hsame
    exact hwritten.backup (by rw [hafter, hsame])
  have htemporary : (external.write (home.moved identity)).entry .temporary =
      some temporary := by
    rw [write_entry_other (by decide)]
    simp [Home.moved, Home.bind, hready.atTemporary]
  have hobject : (external.write (home.moved identity)).object identity =
      home.object identity := write_object_other hne.symm
  have hplain := hready.direct.plain
  have hfile : (home.moved identity).Ordinary identity := moved_ordinary hready.staged hplain
  have hlinks : (external.write (home.moved identity)).links identity = 1 := by
    simp [links_eq, hwritten.config, hne, htemporary, hready.distinct, hafter, hobject,
      hplain.otherLinks]
  have hlink : (external.write (home.moved identity)).link .temporary .config =
      .error .exists := by
    simp [Home.link, htemporary, hwritten.config]
  have hstate : expected.state = ((home.moved identity).snapshot .backup identity lease).state := by
    rw [hready.shown]
    rfl
  have hsame : (home.moved identity).object identity = home.object identity := rfl
  unfold Place.upToLink at hpoint
  split at hpoint
  case h_3 => cases hpoint
  case h_2 =>
    have hcalm : ∀ step, Calm (racing (.publish .link) external) (.capture .backup step) :=
      fun step => racing_calm (by simp)
    have hcapture := capture_calm hcalm hlive hentry hfile
    simp [linkMoved, bind_run, hcapture, hstate, change_racing, hlink, Run.attempt, fail,
      raise_run]
  case h_1 step =>
    have hcapture : captureConfigSnapshot .backup .backup lease
        (racing (.capture .backup step) external) (home.moved identity) =
          .returned ((home.moved identity).snapshot .backup identity lease)
            (external.write (home.moved identity)) := by
      cases step <;>
        simp [captureConfigSnapshot, requireLiveLease, reraising, Run.attempt, captureOpened,
          openDirectFile, openNoFollow, lstat, fstat, readAll, captureMetadata, requireIdentity,
          listxattr, bind_run, pure_run, map_run, inspect_racing, hlive, lookup_some hentry,
          lookup_some hafter, Home.status, hobject, hsame, hlinks, hfile.links, hplain.regular,
          hplain.attributes, Home.snapshot]
    simp [linkMoved, bind_run, hcapture, hstate, change_racing, hlink, Run.attempt, fail,
      raise_run]

/-! ### A write after the link -/

/-- The home once the temporary name is gone. -/
def Home.published (home : Home) (identity temporary : ℕ) : Home :=
  (home.linked identity temporary).bind .temporary none

theorem Home.Ready.published_direct
    (hready : home.Ready identity temporary lease expected replacement) :
    (home.published identity temporary).Direct replacement temporary := by
  refine ⟨?_, ?_, ?_, hready.plain, hready.fills⟩
  · simp [Home.published, Home.linked, Home.bind]
  · simp [Home.published, Home.bind]
  · simp [Home.published, Home.linked, Home.moved, Home.bind, hready.distinct.symm]

theorem Home.Ready.published_bounded
    (hready : home.Ready identity temporary lease expected replacement) :
    (home.published identity temporary).Bounded := by
  intro name found hfound
  cases name with
  | config =>
    simp only [Home.published, Home.linked, Home.bind, ne_eq, reduceCtorEq, not_false_eq_true,
      Function.update_of_ne, Function.update_self, Option.some.injEq] at hfound
    rw [← hfound]
    exact hready.bounded .temporary temporary hready.atTemporary
  | temporary => simp [Home.published, Home.bind] at hfound
  | backup =>
    refine moved_bounded hready .backup found ?_
    simpa [Home.published, Home.linked, Home.moved, Home.bind] using hfound

/-- Unlinking the temporary name and the write do not meet. -/
theorem write_unlink :
    (external.write home).bind .temporary none = external.write (home.bind .temporary none) := by
  have hcreate : (home.create .config external.data external.metadata).bind .temporary none =
      (home.bind .temporary none).create .config external.data external.metadata := by
    simp only [Home.bind, Home.create, Home.mk.injEq, and_true]
    exact Function.update_comm (by decide) _ _ _
  have hentry : (home.bind .temporary none).entry .config = home.entry .config := by
    simp [Home.bind]
  unfold External.write
  rw [hentry]
  cases external.kind with
  | replacing => exact hcreate
  | rewriting =>
    cases home.entry .config with
    | none => exact hcreate
    | some found => rfl

/-- Verification refuses a file with other bytes. -/
theorem verifyPublished_direct {data : Bytes} (hverify : ∀ step, Calm weather (.verify step))
    (hpublished : ∀ step, Calm weather (.capture .published step)) (hlive : lease.live = true)
    (hdirect : home.Direct data other) (hdata : data ≠ replacement) :
    verifyPublished lease replacement temporary metadata weather home =
      .raised (.install metadataInvalid) home := by
  have hcapture := capture_calm hpublished hlive hdirect.config hdirect.ordinary
  have hstate : (home.snapshot .config other lease).state ≠
      (replacement, some temporary, some metadata) := by
    intro hsame
    refine hdata ?_
    rw [← hdirect.shows]
    exact congrArg Prod.fst hsame
  simp [verifyPublished, openDirectFile, openNoFollow, lstat, fstat, flush, bind_run, pure_run,
    Run.attempt, inspect_calm (hverify _), lookup_some hdirect.config, Home.status,
    hdirect.ordinary.regular, hdirect.ordinary.links, hcapture, hstate, fail, raise_run]

/-- Undisturbed, verification passes. -/
theorem verifyPublished_calm (hverify : ∀ step, Calm weather (.verify step))
    (hpublished : ∀ step, Calm weather (.capture .published step)) (hlive : lease.live = true)
    (hdirect : home.Direct replacement temporary)
    (hmetadata : (home.object temporary).metadata = metadata) :
    verifyPublished lease replacement temporary metadata weather home = .returned () home := by
  have hcapture := capture_calm hpublished hlive hdirect.config hdirect.ordinary
  simp [verifyPublished, openDirectFile, openNoFollow, lstat, fstat, flush, bind_run, pure_run,
    Run.attempt, inspect_calm (hverify _), lookup_some hdirect.config, Home.status,
    hdirect.ordinary.regular, hdirect.ordinary.links, hcapture, Home.snapshot,
    ConfigSnapshot.state, hdirect.shows, hmetadata]

/-- A write during the verification makes it fail, or comes too late to be seen. -/
theorem verifyPublished_raced (hlive : lease.live = true) (hbounded : home.Bounded)
    (hdirect : home.Direct replacement temporary) (hdata : external.data ≠ replacement)
    (hmetadata : (home.object temporary).metadata = metadata)
    (hpoint : (∃ step, point = .verify step) ∨ ∃ step, point = .capture .published step) :
    (∃ error, verifyPublished lease replacement temporary metadata (racing point external) home =
        .raised error (external.write home)) ∨
      verifyPublished lease replacement temporary metadata (racing point external) home =
        .returned () (external.write home) := by
  have hwritten : (external.write home).Direct external.data (external.target home) :=
    write_direct hbounded hdirect.clean
  have hregular := hdirect.ordinary.regular
  have hlinks := hdirect.ordinary.links
  rcases hpoint with ⟨step, rfl⟩ | ⟨step, rfl⟩
  · refine Or.inl ?_
    have hcalm : ∀ found, Calm (racing (.verify step) external) (.capture .published found) :=
      fun found => racing_calm (by simp)
    have hcapture := capture_calm hcalm hlive hwritten.config hwritten.ordinary
    have hstate : ((external.write home).snapshot .config (external.target home) lease).state ≠
        (replacement, some temporary, some metadata) := by
      intro hsame
      refine hdata ?_
      rw [← hwritten.shows]
      exact congrArg Prod.fst hsame
    cases hkind : external.kind with
    | replacing =>
      have hne : temporary ≠ external.target home := by
        unfold External.target
        rw [hkind]
        exact ne_of_lt (hbounded .config temporary hdirect.config)
      have hobject : (external.write home).object temporary = home.object temporary :=
        write_object_other hne
      have hgone : (external.write home).links temporary = 0 := by
        simp [links_eq, write_entry_config, write_entry_other, hne.symm, hdirect.temporary,
          hdirect.backup, hobject, hdirect.plain.otherLinks]
      cases step <;>
        simp [verifyPublished, openDirectFile, openNoFollow, lstat, fstat, flush, bind_run,
          pure_run, Run.attempt, inspect_racing, lookup_some hdirect.config,
          lookup_some hwritten.config, Home.status, hwritten.ordinary.regular,
          hwritten.ordinary.links, hobject, hgone, hregular, hlinks, hne, hcapture, hstate, fail,
          raise_run]
    | rewriting =>
      have htarget : external.target home = temporary := by
        unfold External.target
        rw [hkind, hdirect.config]
        rfl
      rw [htarget] at hwritten hcapture hstate
      cases step <;>
        simp [verifyPublished, openDirectFile, openNoFollow, lstat, fstat, flush, bind_run,
          pure_run, Run.attempt, inspect_racing, lookup_some hdirect.config,
          lookup_some hwritten.config, Home.status, hwritten.ordinary.regular,
          hwritten.ordinary.links, hregular, hlinks, hcapture, hstate, fail, raise_run]
  · have hcapture : captureConfigSnapshot .published .config lease
        (racing (.capture .published step) external) home = _ :=
      capture_racing hlive hbounded hdirect
    have hchecks : verifyPublished lease replacement temporary metadata
        (racing (.capture .published step) external) home =
          (captureConfigSnapshot .published .config lease >>= fun final =>
            if final.state ≠ (replacement, some temporary, some metadata) then
              fail metadataInvalid
            else pure ()) (racing (.capture .published step) external) home := by
      simp [verifyPublished, openDirectFile, openNoFollow, lstat, fstat, flush, bind_run, pure_run,
        Run.attempt, inspect_racing, lookup_some hdirect.config, Home.status, hregular, hlinks]
    rw [hchecks, bind_run, hcapture]
    cases external.kind.sight step with
    | new =>
      refine Or.inl ⟨.install metadataInvalid, ?_⟩
      have hstate : ((external.write home).snapshot .config (external.target home) lease).state ≠
          (replacement, some temporary, some metadata) := by
        intro hsame
        refine hdata ?_
        rw [← hwritten.shows]
        exact congrArg Prod.fst hsame
      simp [hstate, fail, raise_run]
    | torn => exact Or.inl ⟨.install unsafePath, rfl⟩
    | old =>
      refine Or.inr ?_
      simp [Home.snapshot, ConfigSnapshot.state, hdirect.shows, hmetadata, pure_run]

end Moving

/-! ### How publication ends -/

/-- The calls that a failure leads to. -/
def Place.rollingBack : Place → Bool
  | .capture .current _ => true
  | .restore _ => true
  | .cleanup _ => true
  | _ => false

/-- The publication went through, or failed because of the other writer, whose write came
    before the failure and whose file was left alone. -/
def Fair (point : Place) (identity temporary : ℕ) (data : Bytes)
    (outcome : Outcome Home PublicationError Unit) : Prop :=
  match outcome with
  | .returned _ _ => True
  | .crashed _ => False
  | .raised error home =>
      error = .install concurrentChange ∧ point.rollingBack = false ∧
        ∃ other, home.Left identity temporary data other

theorem quiet_of_rollingBack (hquiet : point.rollingBack = false) {place : Place}
    (hplace : place.rollingBack = true) : Calm (racing point external) place := by
  refine racing_calm ?_
  rintro rfl
  rw [hplace] at hquiet
  cases hquiet

/-- Whatever ended the first part, the rollback ends the publication fairly. -/
theorem fair_of_direct {published : Bool} {error : PublicationError} {next : α → Publication Unit}
    (hquiet : point.rollingBack = false) (hlive : lease.live = true)
    (hleft : home.Left identity temporary external.data other)
    (hold : external.data ≠ expected.data) (hnew : external.data ≠ replacement)
    (hmoved : published = true ∨ home.entry .backup ≠ none) :
    Fair point identity temporary external.data
      (((afterFailure lease expected temporary replacement published error :
        Publication α) >>= next) (racing point external) home) := by
  rw [bind_run, afterFailure_direct (fun step => quiet_of_rollingBack hquiet rfl)
    (quiet_of_rollingBack hquiet rfl) hlive hleft.direct hold hnew hmoved]
  exact ⟨rfl, hquiet, other, hleft⟩

/-- When the checks end in the move, the rest is the publication from there. -/
theorem publish_checked {weather : Disturbance Place Home PublicationError} {next : Home}
    {metadata : PosixMetadata}
    (hcheck : checkAndPublish lease expected temporary weather home =
      linkMoved lease expected temporary weather next) :
    publish lease expected replacement metadata temporary weather home =
      publishMoved lease expected replacement metadata temporary weather next := by
  rw [publish, publishMoved, bind_run, bind_run, Run.attempt, Run.attempt, hcheck]

/-- The write comes before the link. -/
theorem publishMoved_fair_before {metadata : PosixMetadata} (hlive : lease.live = true)
    (hready : home.Ready identity temporary lease expected replacement)
    (hold : external.data ≠ expected.data) (hnew : external.data ≠ replacement)
    (hpoint : point.upToLink = true) :
    Fair point identity temporary external.data
      (publishMoved lease expected replacement metadata temporary (racing point external)
        (home.moved identity)) := by
  have hwritten : (external.write (home.moved identity)).Direct external.data
      (external.target (home.moved identity)) :=
    write_direct (moved_bounded hready) moved_clean
  have hbackup : (external.write (home.moved identity)).entry .backup = some identity := by
    rw [write_entry_other (by decide)]
    simp [Home.moved, Home.bind]
  have hleft : (external.write (home.moved identity)).Left identity temporary external.data
      (external.target (home.moved identity)) := by
    refine ⟨hwritten, Or.inr ?_, Or.inr hbackup⟩
    rw [write_entry_other (by decide)]
    simp [Home.moved, Home.bind, hready.atTemporary]
  have hquiet : point.rollingBack = false := by
    unfold Place.upToLink at hpoint
    split at hpoint
    · rfl
    · rfl
    · cases hpoint
  rw [publishMoved, bind_run, Run.attempt, linkMoved_raced hlive hready hpoint]
  refine fair_of_direct hquiet hlive hleft hold hnew (Or.inr ?_)
  rw [hbackup]
  exact Option.some_ne_none identity

/-- The write comes after the link. -/
theorem publishMoved_fair_after {metadata : PosixMetadata} (hlive : lease.live = true)
    (hready : home.Ready identity temporary lease expected replacement)
    (hmetadata : (home.object temporary).metadata = metadata)
    (hold : external.data ≠ expected.data) (hnew : external.data ≠ replacement)
    (hpoint : point.upToLink = false) :
    Fair point identity temporary external.data
      (publishMoved lease expected replacement metadata temporary (racing point external)
        (home.moved identity)) := by
  have hlinks : ∀ place, place.upToLink = true → Calm (racing point external) place := by
    intro place hplace
    refine racing_calm ?_
    rintro rfl
    rw [hplace] at hpoint
    cases hpoint
  have hdirect := hready.published_direct
  have hwritten : (external.write (home.published identity temporary)).Direct external.data
      (external.target (home.published identity temporary)) :=
    write_direct hready.published_bounded hdirect.clean
  have hleft : (external.write (home.published identity temporary)).Left identity temporary
      external.data (external.target (home.published identity temporary)) := by
    refine ⟨hwritten, Or.inl ?_, Or.inr ?_⟩
    · rw [write_entry_other (by decide)]
      simp [Home.published, Home.bind]
    · rw [write_entry_other (by decide)]
      simp [Home.published, Home.linked, Home.moved, Home.bind]
  have hkept : ((home.published identity temporary).object temporary).metadata = metadata :=
    hmetadata
  have hlink := linkMoved_calm hlive hlinks hready.staged hready.direct.plain hready.shown
  have hentry : (home.linked identity temporary).entry .temporary = some temporary := by
    simp [Home.linked, Home.moved, Home.bind, hready.atTemporary]
  have hverify : ∀ {last : Home} {error : PublicationError},
      linkMoved lease expected temporary (racing point external) (home.moved identity) =
        .returned temporary last →
      verifyPublished lease replacement temporary metadata (racing point external) last =
        .raised error (external.write (home.published identity temporary)) →
      point.rollingBack = false →
      Fair point identity temporary external.data
        (publishMoved lease expected replacement metadata temporary (racing point external)
          (home.moved identity)) := by
    intro last error hreturned hraised hquiet
    rw [publishMoved, bind_run, Run.attempt, hreturned]
    simp only [returned_andThen, Run.attempt, verifyIdentity, ne_eq, not_true_eq_false, if_false,
      hraised]
    rw [afterFailure_direct (fun step => quiet_of_rollingBack hquiet rfl)
      (quiet_of_rollingBack hquiet rfl) hlive hwritten hold hnew (Or.inl rfl)]
    exact ⟨rfl, hquiet, _, hleft⟩
  by_cases hunlink : point = .publish .unlink
  · subst hunlink
    refine hverify ?_
      (verifyPublished_direct (fun step => racing_calm (by simp))
        (fun step => racing_calm (by simp)) hlive hwritten hnew) rfl
    rw [hlink, bind_run, change_racing, if_pos rfl, Home.unlink, write_entry_other (by decide),
      hentry]
    simp only [write_unlink]
    rfl
  have hreturned : linkMoved lease expected temporary (racing point external)
      (home.moved identity) = .returned temporary (home.published identity temporary) := by
    rw [hlink, bind_run, change_calm (racing_calm (Ne.symm hunlink)), Home.unlink, hentry]
    rfl
  by_cases hraced : (∃ step, point = .verify step) ∨ ∃ step, point = .capture .published step
  · have hquiet : point.rollingBack = false := by
      rcases hraced with ⟨step, rfl⟩ | ⟨step, rfl⟩
      · rfl
      · rfl
    rcases verifyPublished_raced hlive hready.published_bounded hdirect hnew hkept hraced with
      ⟨error, hraised⟩ | hend
    · exact hverify hreturned hraised hquiet
    · rw [publishMoved, bind_run, Run.attempt, hreturned]
      simp only [returned_andThen, Run.attempt, verifyIdentity, ne_eq, not_true_eq_false, if_false,
        hend]
      trivial
  · rw [not_or, not_exists, not_exists] at hraced
    have hend : verifyPublished lease replacement temporary metadata (racing point external)
        (home.published identity temporary) = _ := verifyPublished_calm (fun step => racing_calm (Ne.symm (hraced.1 step)))
      (fun step => racing_calm (Ne.symm (hraced.2 step))) hlive hdirect hkept
    rw [publishMoved, bind_run, Run.attempt, hreturned]
    simp only [returned_andThen, Run.attempt, verifyIdentity, ne_eq, not_true_eq_false, if_false,
      hend]
    trivial

theorem publish_fair {metadata : PosixMetadata} (hlive : lease.live = true)
    (hready : home.Ready identity temporary lease expected replacement)
    (hmetadata : (home.object temporary).metadata = metadata)
    (hold : external.data ≠ expected.data) (hnew : external.data ≠ replacement)
    (hslips : point.slips external.kind = false) :
    Fair point identity temporary external.data
      (publish lease expected replacement metadata temporary (racing point external) home) := by
  by_cases hsecond : ∃ step, point = .capture .second step
  · obtain ⟨step, rfl⟩ := hsecond
    have hwritten : (external.write home).Direct external.data (external.target home) :=
      write_direct hready.bounded hready.direct.clean
    have hbackup : (external.write home).entry .backup = none := by
      rw [write_entry_other (by decide), hready.atBackup]
    have hsight : external.kind.sight step = .new := by
      simpa [Place.slips] using hslips
    have hcapture : captureConfigSnapshot .second .config lease
        (racing (.capture .second step) external) home = .returned
          ((external.write home).snapshot .config (external.target home) lease)
          (external.write home) := by
      rw [capture_racing hlive hready.bounded hready.direct, hsight]
    have hsnapshot : (external.write home).snapshot .config (external.target home) lease ≠
        expected := by
      intro hsame
      refine hold ?_
      rw [← hwritten.shows, ← hsame]
      rfl
    have hcheck : checkAndPublish lease expected temporary
        (racing (.capture .second step) external) home =
          .raised (.install concurrentChange) (external.write home) := by
      simp [checkAndPublish, bind_run, hcapture, hsnapshot, fail, raise_run]
    have hexists : Calm (racing (.capture .second step) external) (.restore .exists) :=
      racing_calm (by simp)
    rw [publish, bind_run, Run.attempt, hcheck]
    simp only [afterFailure_unmoved hexists hbackup, raised_andThen]
    refine ⟨rfl, rfl, external.target home, hwritten, Or.inr ?_, Or.inl hbackup⟩
    rw [write_entry_other (by decide), hready.atTemporary]
  · have hchecking : ∀ place, place.checking = true → Calm (racing point external) place := by
      intro place hplace
      refine racing_calm ?_
      rintro rfl
      unfold Place.checking at hplace
      split at hplace
      · exact hsecond ⟨_, rfl⟩
      · cases hslips
      · cases hslips
      · cases hslips
      · cases hslips
      · cases hslips
      · cases hslips
      · cases hplace
    have hrename : Calm (racing point external) (.publish .rename) := by
      refine racing_calm ?_
      rintro rfl
      cases hslips
    rw [publish_checked (checkAndPublish_calm hlive hchecking hrename hready.staged
      hready.direct.plain hready.plain hready.shown)]
    cases hpoint : point.upToLink with
    | true => exact publishMoved_fair_before hlive hready hold hnew hpoint
    | false => exact publishMoved_fair_after hlive hready hmetadata hold hnew hpoint

/-- A write that slips through, or tears the second look, ends in the wrong error. -/
theorem publish_slipped {metadata : PosixMetadata} (hlive : lease.live = true)
    (hready : home.Ready identity temporary lease expected replacement)
    (hold : external.data ≠ expected.data) (hslips : point.slips external.kind = true) :
    ∃ last, publish lease expected replacement metadata temporary (racing point external) home =
      .raised (.install unsafePath) last := by
  have hwritten : (external.write home).Direct external.data (external.target home) :=
    write_direct hready.bounded hready.direct.clean
  have hcalm : ∀ {place : Place}, place.slips external.kind = false →
      Calm (racing point external) place := by
    intro place hplace
    refine racing_calm ?_
    rintro rfl
    rw [hplace] at hslips
    cases hslips
  by_cases htorn : ∃ step, point = .capture .second step ∧ external.kind.sight step = .torn
  · obtain ⟨step, rfl, hsight⟩ := htorn
    have hbackup : (external.write home).entry .backup = none := by
      rw [write_entry_other (by decide), hready.atBackup]
    have hcapture : captureConfigSnapshot .second .config lease
        (racing (.capture .second step) external) home =
          .raised (.install unsafePath) (external.write home) := by
      rw [capture_racing hlive hready.bounded hready.direct, hsight]
    have hcheck : checkAndPublish lease expected temporary
        (racing (.capture .second step) external) home =
          .raised (.install unsafePath) (external.write home) := by
      simp [checkAndPublish, bind_run, hcapture]
    have hexists : Calm (racing (.capture .second step) external) (.restore .exists) := hcalm rfl
    refine ⟨external.write home, ?_⟩
    rw [publish, bind_run, Run.attempt, hcheck]
    simp only [afterFailure_unmoved hexists hbackup, raised_andThen]
  · have hlate : ∀ step, point = .capture .second step → external.kind.sight step = .old := by
      rintro step rfl
      have hnot : external.kind.sight step ≠ .torn := fun hsight => htorn ⟨step, rfl, hsight⟩
      have hnew : external.kind.sight step ≠ .new := by
        simpa [Place.slips] using hslips
      cases hsight : external.kind.sight step with
      | old => rfl
      | new => exact absurd hsight hnew
      | torn => exact absurd hsight hnot
    refine ⟨((external.write home).moved (external.target home)).bind .config
      (some (external.target home)), ?_⟩
    rw [publish_checked (slips_moves hlive hready hslips hlate)]
    exact linkMoved_slipped (fun step => hcalm rfl) (fun step => hcalm rfl) (hcalm rfl)
      (hcalm rfl) hlive hwritten hold

/-! ### The whole run -/

/-- The end of `write_config_bytes` for one way its publication ends. -/
theorem finish_fair {metadata : PosixMetadata} (hlive : lease.live = true)
    (hidentity : expected.identity = some identity)
    (hfair : Fair point identity temporary external.data
      (publish lease expected replacement metadata temporary (racing point external) home)) :
    Preserved lease external.data
      ((Run.ensuring (publish lease expected replacement metadata temporary)
        (cleanUp expected temporary) >>= fun _ => pure replacement) (racing point external)
        home) := by
  rw [bind_run, Run.ensuring]
  cases hpublish : publish lease expected replacement metadata temporary
      (racing point external) home with
  | returned value last =>
    obtain ⟨cleaned, hcleaned⟩ : ∃ cleaned, cleanUp expected temporary (racing point external)
        last = .returned () cleaned := cleanUp_returns
    simp only [hcleaned, returned_andThen]
    trivial
  | crashed last =>
    rw [hpublish] at hfair
    exact hfair.elim
  | raised error last =>
    rw [hpublish] at hfair
    obtain ⟨rfl, hquiet, other, hleft⟩ := hfair
    have hcalm : ∀ step, Calm (racing point external) (.cleanup step) := fun step =>
      quiet_of_rollingBack hquiet rfl
    simp only [cleanUp_calm hcalm hidentity hleft, returned_andThen, raised_andThen]
    refine preserved_of_direct hlive ((hleft.direct.unlink (by decide)).unlink (by decide)) ?_ ?_
    · simp [Home.bind]
    · simp [Home.bind]

theorem finish_unsafe {metadata : PosixMetadata} {data : Bytes} {last : Home}
    (hpublish : publish lease expected replacement metadata temporary (racing point external)
      home = .raised (.install unsafePath) last) :
    ¬ Preserved lease data
      ((Run.ensuring (publish lease expected replacement metadata temporary)
        (cleanUp expected temporary) >>= fun _ => pure replacement) (racing point external)
        home) := by
  obtain ⟨cleaned, hcleaned⟩ : ∃ cleaned, cleanUp expected temporary (racing point external)
      last = .returned () cleaned := cleanUp_returns
  rw [bind_run, Run.ensuring, hpublish]
  simp only [hcleaned, returned_andThen, raised_andThen]
  exact not_preserved_unsafe

/-- What `write_config_bytes` does once its first look has passed. -/
def prepareAndPublish (lease : InstallerLease) (creation metadata : PosixMetadata)
    (expected : ConfigSnapshot) (replacement : Bytes) : Publication Bytes := do
  let temporary ← makeTemporary replacement metadata creation
  unusedPath creation
  Run.ensuring (publish lease expected replacement metadata temporary)
    (cleanUp expected temporary)
  pure replacement

/-- A write before or during the preparation is seen by the second look. -/
theorem prepareAndPublish_preserved {metadata : PosixMetadata} {object : FileObject}
    (hlive : lease.live = true) (hshown : expected = start.snapshot .config identity lease)
    (hbeside : start.Beside identity external.data none none object home)
    (hold : external.data ≠ expected.data) (hnew : external.data ≠ replacement)
    (hquiet : point.rollingBack = false)
    (hearly : ∀ step, point ≠ .capture .second step)
    (hslips : point.slips external.kind = false) :
    Preserved lease external.data
      (prepareAndPublish lease creation metadata expected replacement (racing point external)
        home) := by
  have hidentity : expected.identity = some identity := by
    rw [hshown]
    rfl
  have hwhole : Triple (racing point external)
      (start.Beside identity external.data none none object)
      (prepareAndPublish lease creation metadata expected replacement)
      ⟨fun _ _ => True, fun error last => Preserved lease external.data (.raised error last),
        fun _ => False⟩ := by
    refine Triple.bind makeTemporary_beside fun temporary => ?_
    refine Triple.bind unusedPath_beside fun _ => ?_
    intro mid hmid
    have hfair : Fair point identity temporary external.data
        (publish lease expected replacement metadata temporary (racing point external) mid) := by
      rcases hmid.seen with ⟨other, hdirect⟩ | ⟨hdirect, hobject⟩
      · rw [publish_seen (fun step => racing_calm (hearly step).symm)
          (quiet_of_rollingBack hquiet rfl) hlive hdirect hold hmid.atBackup]
        exact ⟨rfl, hquiet, other, hdirect, Or.inr hmid.atTemporary, Or.inl hmid.atBackup⟩
      · have hmade := hmid.made temporary rfl
        have hready : mid.Ready identity temporary lease expected replacement := by
          refine ⟨hmid.bounded, ?_, ?_, hmid.atTemporary, hmid.atBackup, ?_, ?_⟩
          · rw [hshown]
            exact hdirect
          · rw [hshown, Home.snapshot, Home.snapshot, hobject]
          · rw [hmade]
            exact ⟨rfl, rfl, rfl⟩
          · rw [hmade]
        exact publish_fair hlive hready (by rw [hmade]) hold hnew hslips
    have hpreserved : Preserved lease external.data
        ((Run.ensuring (publish lease expected replacement metadata temporary)
          (cleanUp expected temporary) >>= fun _ => pure replacement) (racing point external)
          mid) := finish_fair hlive hidentity hfair
    revert hpreserved
    cases (Run.ensuring (publish lease expected replacement metadata temporary)
      (cleanUp expected temporary) >>= fun _ => pure replacement) (racing point external) mid with
    | returned value last => exact fun _ => trivial
    | raised error last => exact id
    | crashed last => exact False.elim
  have hend := hwhole home hbeside
  revert hend
  cases prepareAndPublish lease creation metadata expected replacement (racing point external)
    home with
  | returned value last => exact fun _ => trivial
  | raised error last => exact id
  | crashed last => exact False.elim

theorem Home.Unused.bounded (hunused : start.Unused identity) : start.Bounded := by
  intro name found hfound
  cases name with
  | config =>
    rw [hunused.config] at hfound
    cases hfound
    exact hunused.next
  | temporary =>
    rw [hunused.temporary] at hfound
    cases hfound
  | backup =>
    rw [hunused.backup] at hfound
    cases hfound

theorem Home.Current.direct (hcurrent : start.Current identity lease expected)
    (hunused : start.Unused identity) : start.Direct expected.data identity := by
  refine ⟨hunused.config, ?_, ?_, hcurrent.ordinary.plain hunused, ?_⟩
  · rw [hunused.temporary]
    exact (Option.some_ne_none identity).symm
  · rw [hunused.backup]
    exact (Option.some_ne_none identity).symm
  · rw [hcurrent.shown]
    rfl

theorem writeConfigBytes_eq (hshown : expected = start.snapshot .config identity lease) :
    writeConfigBytes lease creation expected replacement =
      requireLiveLease .lease lease >>= fun _ =>
        captureConfigSnapshot .first .config lease >>= fun found =>
          if found = expected then
            if replacement = expected.data then pure replacement
            else prepareAndPublish lease creation (start.object identity).metadata expected
              replacement
          else fail concurrentChange := by
  subst hshown
  simp [writeConfigBytes, prepareAndPublish, Home.snapshot, publishedMetadata, pure_then]
  rfl

theorem requireLiveLease_racing {place : Place} (hlive : lease.live = true) :
    requireLiveLease place lease (racing point external) home =
      .returned () (if place = point then external.write home else home) := by
  simp [requireLiveLease, reraising, Run.attempt, inspect_racing, hlive]

/-- A first look at other bytes refuses the publication. -/
theorem refused_preserved {data : Bytes} (hlive : lease.live = true)
    (hdirect : home.Direct data other) (hdata : data ≠ expected.data)
    (htemporary : home.entry .temporary = none) (hbackup : home.entry .backup = none)
    {next : Publication Bytes} :
    Preserved lease data
      ((if home.snapshot .config other lease = expected then next else fail concurrentChange)
        (racing point external) home) := by
  have hsnapshot : home.snapshot .config other lease ≠ expected := by
    rintro rfl
    exact hdata hdirect.shows.symm
  rw [if_neg hsnapshot]
  exact preserved_of_direct hlive hdirect htemporary hbackup

/-- The home in which the publication starts. -/
theorem prepared_ready (hcurrent : start.Current identity lease expected)
    (hunused : start.Unused identity) (metadata : PosixMetadata) :
    (((start.create .temporary replacement metadata).create .backup [] creation).bind .backup
      none).Ready identity start.next lease expected replacement := by
  have hstaged : (((start.create .temporary replacement metadata).create .backup []
      creation).bind .backup none).Staged identity start.next (start.object identity)
        ⟨replacement, metadata, true, 0, false⟩ := staged_of_unused hunused replacement metadata
  have hbounded : ((start.create .temporary replacement metadata).create .backup []
      creation).Bounded :=
    create_bounded (create_bounded hunused.bounded _ _ _) _ _ _
  have hdirect := (((hcurrent.direct hunused).create hunused.bounded
    (show FileName.temporary ≠ .config by decide) replacement metadata).create
      (create_bounded hunused.bounded _ _ _) (show FileName.backup ≠ .config by decide) []
        creation).unlink (show FileName.backup ≠ .config by decide)
  refine ⟨?_, hdirect, ?_, hstaged.atTemporary, hstaged.atBackup, ?_, ?_⟩
  · intro name found hfound
    by_cases hname : name = FileName.backup
    · simp [hname, Home.bind] at hfound
    · refine hbounded name found ?_
      simpa only [Home.bind, Function.update_of_ne hname] using hfound
  · rw [hcurrent.shown, Home.snapshot, Home.snapshot, hstaged.oldObject]
  · rw [hstaged.newObject]
    exact ⟨rfl, rfl, rfl⟩
  · rw [hstaged.newObject]

/-- The runs in which the write does not end well. -/
def Unfair (point : Place) (kind : WriteKind) (expected : ConfigSnapshot) (replacement : Bytes) :
    Prop :=
  point.tears kind = true ∨ (replacement ≠ expected.data ∧ point.slips kind = true)

theorem writeConfigBytes_lease (hcurrent : start.Current identity lease expected)
    (hunused : start.Unused identity) (hold : external.data ≠ expected.data) :
    Preserved lease external.data
      (writeConfigBytes lease creation expected replacement (racing .lease external) start) := by
  have hwritten : (external.write start).Direct external.data (external.target start) :=
    write_direct hunused.bounded (hcurrent.direct hunused).clean
  have hcalm : ∀ step, Calm (racing .lease external) (.capture .first step) := fun step =>
    racing_calm (by simp)
  rw [writeConfigBytes_eq hcurrent.shown, bind_run, requireLiveLease_racing hcurrent.live,
    if_pos rfl, returned_andThen, bind_run,
    capture_calm hcalm hcurrent.live hwritten.config hwritten.ordinary, returned_andThen]
  refine refused_preserved hcurrent.live hwritten hold ?_ ?_
  · rw [write_entry_other (by decide), hunused.temporary]
  · rw [write_entry_other (by decide), hunused.backup]

/-- The write comes during the first look. -/
theorem writeConfigBytes_first {step : CaptureStep}
    (hcurrent : start.Current identity lease expected) (hunused : start.Unused identity)
    (hold : external.data ≠ expected.data) (hnew : external.data ≠ replacement) :
    Preserved lease external.data (writeConfigBytes lease creation expected replacement
        (racing (.capture .first step) external) start) ↔
      ¬ external.kind.sight step = .torn := by
  have hdirect := hcurrent.direct hunused
  have hwritten : (external.write start).Direct external.data (external.target start) :=
    write_direct hunused.bounded hdirect.clean
  have htemporary : (external.write start).entry .temporary = none := by
    rw [write_entry_other (by decide), hunused.temporary]
  have hbackup : (external.write start).entry .backup = none := by
    rw [write_entry_other (by decide), hunused.backup]
  rw [writeConfigBytes_eq hcurrent.shown, bind_run, requireLiveLease_racing hcurrent.live,
    if_neg (by simp), returned_andThen, bind_run,
    capture_racing hcurrent.live hunused.bounded hdirect, ← hcurrent.shown]
  cases hsight : external.kind.sight step with
  | new =>
    simp only [returned_andThen, reduceCtorEq, not_false_eq_true, iff_true]
    exact refused_preserved hcurrent.live hwritten hold htemporary hbackup
  | torn =>
    simp only [raised_andThen, not_true_eq_false, iff_false]
    exact not_preserved_unsafe
  | old =>
    simp only [returned_andThen, if_true, reduceCtorEq, not_false_eq_true, iff_true]
    split
    · trivial
    · have hbeside : start.Beside identity external.data none none (start.object identity)
          (external.write start) :=
        ⟨write_bounded hunused.bounded, Or.inl ⟨_, hwritten⟩, htemporary, hbackup,
          fun found hfound => nomatch hfound⟩
      exact prepareAndPublish_preserved hcurrent.live hcurrent.shown hbeside hold hnew rfl
        (by simp) rfl

/-- The write comes after the first look. -/
theorem writeConfigBytes_later (hcurrent : start.Current identity lease expected)
    (hunused : start.Unused identity) (hold : external.data ≠ expected.data)
    (hnew : external.data ≠ replacement) (hlease : point ≠ .lease)
    (hfirst : ∀ step, point ≠ .capture .first step) :
    Preserved lease external.data
        (writeConfigBytes lease creation expected replacement (racing point external) start) ↔
      ¬ (replacement ≠ expected.data ∧ point.slips external.kind = true) := by
  by_cases hsame : replacement = expected.data
  · have hreturned : writeConfigBytes lease creation expected replacement (racing point external)
        start = .returned replacement start := by
      rw [writeConfigBytes_eq hcurrent.shown, bind_run, requireLiveLease_racing hcurrent.live,
        if_neg hlease.symm, returned_andThen, bind_run,
        capture_calm (fun step => racing_calm (hfirst step).symm) hcurrent.live hunused.config
          hcurrent.ordinary, ← hcurrent.shown, returned_andThen, if_pos rfl,
        if_pos hsame]
      rfl
    rw [hreturned]
    simp [hsame, Preserved]
  by_cases hprepares : (∃ step, point = .temporary step) ∨ point = .unusedMkstemp ∨
      point = .unusedUnlink
  · have hquiet : point.rollingBack = false ∧ point.slips external.kind = false ∧
        ∀ step, point ≠ .capture .second step := by
      rcases hprepares with ⟨step, rfl⟩ | rfl | rfl
      · exact ⟨rfl, rfl, fun _ => by simp⟩
      · exact ⟨rfl, rfl, fun _ => by simp⟩
      · exact ⟨rfl, rfl, fun _ => by simp⟩
    have hbeside : start.Beside identity external.data none none (start.object identity) start := by
      refine ⟨hunused.bounded, Or.inr ⟨?_, rfl⟩, hunused.temporary, hunused.backup,
        fun found hfound => nomatch hfound⟩
      have hdirect := hcurrent.direct hunused
      rw [hcurrent.shown] at hdirect
      exact hdirect
    rw [writeConfigBytes_eq hcurrent.shown, bind_run, requireLiveLease_racing hcurrent.live,
      if_neg hlease.symm, returned_andThen, bind_run,
      capture_calm (fun step => racing_calm (hfirst step).symm) hcurrent.live hunused.config
        hcurrent.ordinary, ← hcurrent.shown, returned_andThen, if_pos rfl,
      if_neg hsame, hquiet.2.1]
    simp only [Bool.false_eq_true, and_false, not_false_eq_true, iff_true]
    exact prepareAndPublish_preserved hcurrent.live hcurrent.shown hbeside hold hnew hquiet.1
      hquiet.2.2 hquiet.2.1
  · rw [not_or, not_exists, not_or] at hprepares
    have hcalm : ∀ place, place.preparing = true → Calm (racing point external) place := by
      intro place hplace
      refine racing_calm ?_
      rintro rfl
      unfold Place.preparing at hplace
      split at hplace
      · exact hlease rfl
      · exact hfirst _ rfl
      · cases hplace
      · cases hplace
      · exact hprepares.1 _ rfl
      · exact hprepares.2.1 rfl
      · exact hprepares.2.2 rfl
      · cases hplace
    have hready : (((start.create .temporary replacement
        (start.object identity).metadata).create .backup [] creation).bind .backup none).Ready
          identity start.next lease expected replacement := prepared_ready hcurrent hunused _
    have hidentity : expected.identity = some identity := hready.identified
    rw [writeConfigBytes_calm hcurrent hunused hsame hcalm]
    cases hslips : point.slips external.kind with
    | true =>
      obtain ⟨last, hlast⟩ := publish_slipped hcurrent.live hready hold hslips
      simp only [ne_eq, hsame, not_false_eq_true, and_self, not_true_eq_false, iff_false]
      exact finish_unsafe hlast
    | false =>
      simp only [Bool.false_eq_true, and_false, not_false_eq_true, iff_true]
      refine finish_fair hcurrent.live hidentity (publish_fair hcurrent.live hready ?_ hold hnew
        hslips)
      simp [Home.bind, Home.create]

/-- **When publication preserves another writer's file.**  One write of `config.toml` by
    another process, before any call of a publication: if the publication fails, the file
    is in place and readable, nothing is left behind and the error is that of a concurrent
    change, exactly unless the write tears the first look or slips past the second. -/
theorem writeConfigBytes_preserved_iff (hcurrent : start.Current identity lease expected)
    (hunused : start.Unused identity) (hold : external.data ≠ expected.data)
    (hnew : external.data ≠ replacement) :
    Preserved lease external.data
        (writeConfigBytes lease creation expected replacement (racing point external) start) ↔
      ¬ Unfair point external.kind expected replacement := by
  by_cases hlease : point = .lease
  · subst hlease
    have hfine : ¬ Unfair .lease external.kind expected replacement := by
      simp [Unfair, Place.tears, Place.slips]
    exact iff_of_true (writeConfigBytes_lease hcurrent hunused hold) hfine
  by_cases hfirst : ∃ step, point = .capture .first step
  · obtain ⟨step, rfl⟩ := hfirst
    rw [writeConfigBytes_first hcurrent hunused hold hnew]
    simp [Unfair, Place.tears, Place.slips]
  · rw [not_exists] at hfirst
    have htears : point.tears external.kind = false := by
      unfold Place.tears
      split
      · exact absurd rfl (hfirst _)
      · rfl
    rw [writeConfigBytes_later hcurrent hunused hold hnew hlease hfirst, Unfair, htears]
    simp

end Racing

/-! ### A file renamed over `config.toml` just before the move -/

def renamedFile : External := ⟨.replacing, [3], ⟨1000, 1000, 0o644⟩⟩

/-- Another process renames its file over `config.toml` before the move: the file ends with
    two names, the backup stays, and the error is that of an unsafe path. -/
theorem slipped_write_strands_backup :
    (onlyConfig [1] ⟨1000, 1000, 0o644⟩).Current 0 liveLease
        ((onlyConfig [1] ⟨1000, 1000, 0o644⟩).snapshot .config 0 liveLease) ∧
      ∃ home, writeConfigBytes liveLease ⟨1000, 1000, 0o600⟩
          ((onlyConfig [1] ⟨1000, 1000, 0o644⟩).snapshot .config 0 liveLease) [2]
          (racing (.publish .rename) renamedFile) (onlyConfig [1] ⟨1000, 1000, 0o644⟩) =
            .raised (.install unsafePath) home ∧
        home.entry .config = some 3 ∧ home.entry .backup = some 3 ∧ home.links 3 = 2 ∧
        ¬ Preserved liveLease renamedFile.data (.raised (.install unsafePath) home) :=
  ⟨⟨rfl, ⟨rfl, rfl, rfl⟩, rfl⟩, _, rfl, rfl, rfl, rfl, not_preserved_unsafe⟩

theorem writeConfigBytes_preserved_iff_onlyConfig :
    Preserved liveLease renamedFile.data (writeConfigBytes liveLease ⟨1000, 1000, 0o600⟩
        ((onlyConfig [1] ⟨1000, 1000, 0o644⟩).snapshot .config 0 liveLease) [2]
        (racing (.publish .link) renamedFile) (onlyConfig [1] ⟨1000, 1000, 0o644⟩)) ↔
      ¬ Unfair (.publish .link) renamedFile.kind
        ((onlyConfig [1] ⟨1000, 1000, 0o644⟩).snapshot .config 0 liveLease) [2] :=
  writeConfigBytes_preserved_iff ⟨rfl, ⟨rfl, rfl, rfl⟩, rfl⟩ (onlyConfig_unused _ _) (by decide)
    (by decide)

end CodexMustWork
