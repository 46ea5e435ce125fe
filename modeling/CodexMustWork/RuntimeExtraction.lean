import CodexMustWork.PackageManifest
import CodexMustWork.RuntimeGrowth

/-!
# Extracting the portable runtime

What `materialize_archive` creates, whether it succeeds or fails: directories and regular
files below its root, no file below another one.  When it succeeds, every included member
is the file that the manifest describes, and the others are the pinned exclusions.

On Windows a name can say more than a name: a drive, a stream or a device.  Nothing keeps
such names out of the archive, and the extraction leaves its root with them.
-/

namespace CodexMustWork.PortableRuntime

open DisturbedRuns PosixPaths

/-! ### Names -/

/-- The host takes the name for a file of that name: Windows, if it is none of its own. -/
def Host.Keeps (host : Host) (name : PyText) : Prop :=
  match host with
  | .posix _ => True
  | .windows _ _ => ∃ text, name = pyText text ∧ text ≠ "" ∧ text ≠ "." ∧ text ≠ ".." ∧
      ¬ HostReserved text

/-- The host shows a file of the entry's name as executable when the entry says so: Windows
    goes by the ending of the name. -/
def Host.Shows (host : Host) (entry : RuntimeEntry) : Prop :=
  match host with
  | .posix _ => True
  | .windows _ _ =>
      windowsExecutable ((posixPath entry.path).components.getLastD []) = entry.executable

/-- The host keeps the names in the paths of a manifest's files, and their executable bits. -/
def Host.KeepsNames (host : Host) (manifest : RuntimeTreeManifest) : Prop :=
  ∀ entry ∈ manifest.entries, entry.type = .file →
    (∀ name ∈ (posixPath entry.path).components, host.Keeps name) ∧ host.Shows entry

/-- The mode of a written file, as the system tells it. -/
def Host.kept (host : Host) (location : Location) (mode : ℕ) : ℕ :=
  match host with
  | .posix _ => mode
  | .windows _ _ => host.created location mode

variable {host : Host} {path : HostPath} {names : List PyText}

theorem splitDrive_of_unreserved {text : String} (hunreserved : ¬ HostReserved text) :
    splitDrive (pyText text) = none := by
  unfold pyText splitDrive
  cases htext : text.toList with
  | nil => rfl
  | cons first rest =>
    cases rest with
    | nil => rfl
    | cons second tail =>
      refine if_neg fun hcolon => ?_
      have hsecond : second = ':' := Char.ext (UInt32.toNat_inj.mp (Fin.mk.inj hcolon))
      subst hsecond
      refine hunreserved (Or.inl (List.any_eq_true.mpr ⟨':', ?_, by decide⟩))
      rw [htext]
      exact List.mem_cons_of_mem _ List.mem_cons_self

theorem Host.joinPart_of_keeps {name : PyText} (hkeeps : host.Keeps name) :
    host.joinPart path name = path.child name := by
  cases host with
  | posix umask => rfl
  | windows lower current =>
    obtain ⟨text, rfl, -, -, -, hunreserved⟩ := hkeeps
    unfold Host.joinPart
    dsimp only
    rw [splitDrive_of_unreserved hunreserved]

theorem windowsDevice_pyText {text : String} (hfile : namesDevice text.toList = false) :
    windowsDevice (pyText text) = false := by
  unfold windowsDevice
  cases hchars : (pyText text).mapM CodePoint.char with
  | none => rfl
  | some chars =>
    have htext : pyText (String.ofList chars) = pyText text := by
      rw [← mapM_char hchars]
      unfold pyText
      rw [String.toList_ofList]
      rfl
    rw [← pyText_injective htext, String.toList_ofList] at hfile
    exact hfile

/-- A name that is kept opens no device. -/
theorem Host.device_of_keeps {location : Location} {name : PyText} {above : List PyText}
    (hnames : location.names = name :: above) (hkeeps : host.Keeps name) :
    host.device location = false := by
  cases host with
  | posix umask => rfl
  | windows lower current =>
    obtain ⟨text, rfl, -, -, -, hunreserved⟩ := hkeeps
    unfold Host.device Location.name
    rw [hnames]
    refine windowsDevice_pyText (Bool.eq_false_iff.mpr fun hdevice => hunreserved ?_)
    exact Or.inr (Or.inr (Or.inr hdevice))

theorem isExecutable_created {lower : PyText → PyText} {current : PyText → List PyText}
    (location : Location) (mode : ℕ) :
    isExecutable ((Host.windows lower current).created location mode) =
      windowsExecutable location.name := by
  unfold Host.created
  dsimp only
  cases windowsExecutable location.name with
  | false =>
    rw [if_neg Bool.false_ne_true]
    split <;> decide
  | true =>
    rw [if_pos rfl]
    split <;> decide

/-- Names that are kept are joined in their order. -/
theorem Host.joinpath_of_keeps (hkeeps : ∀ name ∈ names, host.Keeps name) :
    host.joinpath path names = ⟨path.anchor, names.reverse ++ path.names⟩ := by
  induction names generalizing path with
  | nil => rfl
  | cons name rest ih =>
    have hrest := @ih (path.child name) fun other hother =>
      hkeeps other (List.mem_cons_of_mem _ hother)
    unfold Host.joinpath at hrest ⊢
    rw [List.foldl_cons, Host.joinPart_of_keeps (hkeeps name List.mem_cons_self), hrest]
    simp [HostPath.child]

/-- The last name of a place is the last one of its path. -/
theorem Admitted.lastName {root : Location} {member : ArchiveMember}
    (hadmitted : Admitted member) :
    (root.descend member.1.components.reverse).name = member.1.components.getLastD [] := by
  rcases List.eq_nil_or_concat member.1.components with hnil | ⟨front, last, hsplit⟩
  · exact absurd hnil hadmitted.nonempty
  · rw [hsplit]
    simp [Location.name, Location.descend]

/-! ### One member -/

variable {faults : RuntimeSite → Option Interruption} {dies : RuntimeSite → Bool}
  {sha256 : List UInt8 → PyText} {base : Tree} {mode : ℕ}

theorem touch_triple {site : RuntimeSite} {pre : Tree → Prop} {post : Post Tree RuntimeFailure Unit}
    (hcrashed : ∀ tree, pre tree → post.crashed tree)
    (hraised : ∀ failure tree, pre tree → post.raised failure tree)
    (hreturned : ∀ tree, pre tree → post.returned () tree) :
    Triple (interrupted faults dies) pre (touch site) post := by
  refine Triple.act_alone interrupted_solitary hcrashed hraised ?_
  intro tree next hpre hsame
  cases hsame
  exact hreturned tree hpre

/-- The mode of a new file: on POSIX it is set, elsewhere it is the one asked for. -/
theorem setMode_triple {root : Location} (hbelow : path.location.Below root) :
    Triple (interrupted faults dies)
      (Holding root base path.location [] (host.created path.location mode))
      (setMode host path mode)
      ⟨fun _ => Holding root base path.location [] (host.kept path.location mode),
        fun _ => Grown root base, Grown root base⟩ := by
  refine Triple.ite (fun hposix => ?_) fun hother => Triple.pure fun tree hholding => ?_
  · refine Triple.act_alone interrupted_solitary (fun _ => Holding.grown)
      (fun _ _ => Holding.grown) ?_
    intro tree next hholding hchanged
    cases host with
    | posix umask => exact hholding.change hbelow hchanged
    | windows lower current => cases hposix
  · cases host with
    | posix umask => exact absurd rfl hother
    | windows lower current => exact hholding

/-- An open file is filled and closed. -/
theorem fillFile_triple {root : Location} {content : Source} {size : ℕ}
    (hbelow : path.location.Below root) (hfile : host.device path.location = false) :
    Triple (interrupted faults dies)
      (Holding root base path.location [] (host.created path.location mode))
      (fillFile sha256 host path mode content size)
      ⟨fun digest tree =>
          Holding root base path.location content.left (host.kept path.location mode) tree ∧
          content.left.length = size ∧ digest = sha256 content.left,
        fun _ => Grown root base, Grown root base⟩ := by
  unfold fillFile
  rw [hfile]
  refine Triple.ensuring
    (Triple.bind (setMode_triple hbelow) fun _ => copyExactMember_holding hbelow) ?_ ?_
  · intro digest
    exact touch_triple (fun _ hpre => hpre.1.grown) (fun _ _ hpre => hpre.1.grown) fun _ => id
  · intro failure
    exact touch_triple (fun _ => id) (fun _ _ => id) fun _ => id

theorem writeFile_triple {content : Source} {expected : RuntimeEntry} (hnames : names ≠ [])
    (hplain : ∀ name ∈ names, name ≠ pyText "..") (hkeeps : ∀ name ∈ names, host.Keeps name)
    (hthere : base.node path.location = .directory) :
    Triple (interrupted faults dies) (Grown path.location base)
      (writeFile sha256 host ⟨path.anchor, names ++ path.names⟩ mode content expected)
      ⟨fun _ tree => Grown path.location base tree ∧
          tree.node (path.location.descend names) =
            .file content.left (host.kept (path.location.descend names) mode) ∧
          content.left.length = expected.size ∧ sha256 content.left = expected.sha256,
        fun _ => Grown path.location base, Grown path.location base⟩ := by
  have hlocation : (⟨path.anchor, names ++ path.names⟩ : HostPath).location =
      path.location.descend names := HostPath.location_append hplain
  have hbelow : (⟨path.anchor, names ++ path.names⟩ : HostPath).location.Below path.location := by
    rw [hlocation]
    exact Location.descend_below hnames
  have hparent : Keeps (interrupted faults dies) (Grown path.location base)
      (makeDirectories path.anchor (names ++ path.names).tail) := by
    cases names with
    | nil => exact absurd rfl hnames
    | cons name rest =>
      exact makeDirectories_below hthere fun other hother =>
        hplain other (List.mem_cons_of_mem _ hother)
  have hfile : host.device (⟨path.anchor, names ++ path.names⟩ : HostPath).location = false := by
    rw [hlocation]
    cases names with
    | nil => exact absurd rfl hnames
    | cons name rest => exact Host.device_of_keeps rfl (hkeeps name List.mem_cons_self)
  refine Triple.bind hparent fun _ => Triple.bind (open_holding hfile hbelow _) fun _ => ?_
  refine Triple.bind (touch_triple (fun _ => Holding.grown) (fun _ _ => Holding.grown)
    fun _ => id) fun _ => Triple.bind (fillFile_triple hbelow hfile) fun digest => ?_
  refine Triple.ite (fun _ => Triple.raise fun tree hpre => hpre.1.grown) fun hdigest => ?_
  refine Triple.pure ?_
  rintro tree ⟨hholding, hsize, rfl⟩
  exact ⟨hholding.grown, hlocation ▸ hholding.node, hsize, Decidable.not_not.mp hdigest⟩

/-- Where a member goes. -/
def place (root : Location) (member : ArchiveMember) : Location :=
  root.descend member.1.components.reverse

/-- A member is on the disk as the manifest describes it: the content of a regular member,
    of itself or of the one that it links to. -/
def Installed (sha256 : List UInt8 → PyText) (manifest : RuntimeTreeManifest) (bundle : TarFile)
    (included : List ArchiveMember) (root : Location) (member : ArchiveMember) (tree : Tree) :
    Prop :=
  ∃ entry ∈ manifest.entries, entry.type = .file ∧ entry.path = relativePath member ∧
    ∃ source content mode, resolvedMember member.2 included = .ok source ∧
      bundle.extractfile source = .ok (some content) ∧
      tree.node (place root member) = .file content.left mode ∧
      content.left.length = entry.size ∧ sha256 content.left = entry.sha256 ∧
      isExecutable mode = entry.executable

theorem Installed.grown {manifest : RuntimeTreeManifest} {bundle : TarFile}
    {included : List ArchiveMember} {root : Location} {member : ArchiveMember} {tree next : Tree}
    (hinstalled : Installed sha256 manifest bundle included root member tree)
    (hgrown : Grown root tree next) :
    Installed sha256 manifest bundle included root member next := by
  obtain ⟨entry, hentry, htype, hpath, source, content, mode, hsource, hcontent, hnode, hrest⟩ :=
    hinstalled
  have hnext : next.node (place root member) = tree.node (place root member) :=
    hgrown.node_eq (by rw [hnode]; exact nofun)
  exact ⟨entry, hentry, htype, hpath, source, content, mode, hsource, hcontent,
    hnext.trans hnode, hrest⟩

theorem expectedFile_some {manifest : RuntimeTreeManifest} {relative : PyText}
    {entry : RuntimeEntry} (hfound : expectedFile manifest relative = some entry) :
    entry ∈ manifest.entries ∧ entry.type = .file ∧ entry.path = relative := by
  unfold expectedFile at hfound
  have hfits := List.find?_some hfound
  obtain ⟨htype, hpath⟩ := Bool.and_eq_true_iff.mp hfits
  exact ⟨List.mem_reverse.mp (List.mem_of_find?_eq_some hfound), eq_of_beq htype,
    eq_of_beq hpath⟩

variable {manifest : RuntimeTreeManifest} {bundle : TarFile} {included : List ArchiveMember}
  {member : ArchiveMember}

/-- A member with an entry is written as it. -/
theorem writeFile_installs {entry : RuntimeEntry} {source : TarInfo} {content : Source}
    (hadmitted : Admitted member) (hkeeps : host.KeepsNames manifest)
    (hthere : base.node path.location = .directory)
    (hentry : expectedFile manifest (relativePath member) = some entry)
    (hmode : isExecutable source.mode = entry.executable)
    (hsource : resolvedMember member.2 included = .ok source)
    (hcontent : bundle.extractfile source = .ok (some content)) :
    Triple (interrupted faults dies) (Grown path.location base)
      (writeFile sha256 host (host.joinpath path (member.1.parts slash))
        (if isExecutable source.mode then executableMode else fileMode) content entry)
      ⟨fun _ tree => Grown path.location base tree ∧
          Installed sha256 manifest bundle included path.location member tree,
        fun _ => Grown path.location base, Grown path.location base⟩ := by
  obtain ⟨hmem, htype, hpath⟩ := expectedFile_some hentry
  have hnames : ∀ name ∈ member.1.components, host.Keeps name := by
    intro name hname
    refine (hkeeps entry hmem htype).1 name ?_
    rw [hpath, hadmitted.components_relativePath]
    exact hname
  have hplain : ∀ name ∈ member.1.components.reverse, name ≠ pyText ".." :=
    fun name hname => (hadmitted.plain name (List.mem_reverse.mp hname)).2
  have hset : isExecutable (host.kept (path.location.descend member.1.components.reverse)
      (if isExecutable source.mode then executableMode else fileMode)) = entry.executable := by
    cases host with
    | posix umask =>
      change isExecutable (if isExecutable source.mode then executableMode else fileMode : ℕ) = _
      rw [← hmode]
      cases isExecutable source.mode <;> decide
    | windows lower current =>
      have hshows : windowsExecutable ((posixPath entry.path).components.getLastD []) =
          entry.executable := (hkeeps entry hmem htype).2
      rw [hpath, hadmitted.components_relativePath] at hshows
      rw [← hadmitted.lastName] at hshows
      exact (@isExecutable_created lower current _ _).trans hshows
  rw [hadmitted.parts, Host.joinpath_of_keeps hnames]
  have hkept : ∀ name ∈ member.1.components.reverse, host.Keeps name :=
    fun name hname => hnames name (List.mem_reverse.mp hname)
  refine (writeFile_triple (List.reverse_ne_nil_iff.mpr hadmitted.nonempty) hplain hkept
    hthere).weaken
    (fun _ => id) ?_ (fun _ _ => id) (fun _ => id)
  rintro _ tree ⟨hgrown, hnode, hsize, hdigest⟩
  exact ⟨hgrown, entry, hmem, htype, hpath, source, content, _, hsource, hcontent, hnode, hsize,
    hdigest, hset⟩

theorem materializeMember_triple (hadmitted : Admitted member) (hkeeps : host.KeepsNames manifest)
    (hthere : base.node path.location = .directory) :
    Triple (interrupted faults dies) (Grown path.location base)
      (materializeMember sha256 host path manifest bundle included member)
      ⟨fun _ tree => Grown path.location base tree ∧
          Installed sha256 manifest bundle included path.location member tree,
        fun _ => Grown path.location base, Grown path.location base⟩ := by
  refine Triple.bind (?_ : Triple _ _ _ ⟨fun source tree => Grown path.location base tree ∧
    resolvedMember member.2 included = .ok source, _, _⟩) fun source => ?_
  · exact settled_triple (fun source hsource tree hgrown => ⟨hgrown, hsource⟩) fun _ _ => id
  · cases hentry : expectedFile manifest (relativePath member) with
    | none => exact Triple.raise fun tree hpre => hpre.1
    | some entry =>
      refine Triple.ite (fun _ => Triple.raise fun tree hpre => hpre.1) fun hfits => ?_
      rw [not_or, Decidable.not_not, Decidable.not_not] at hfits
      refine Triple.bind (?_ : Triple _ _ _ ⟨fun extracted tree =>
        (Grown path.location base tree ∧ resolvedMember member.2 included = .ok source) ∧
          bundle.extractfile source = .ok extracted, _, _⟩) fun extracted => ?_
      · exact settled_triple (fun extracted hextracted tree hpre => ⟨hpre, hextracted⟩)
          fun _ _ hpre => hpre.1
      · cases extracted with
        | none => exact Triple.raise fun tree hpre => hpre.1.1
        | some content =>
          rintro tree ⟨⟨hgrown, hsource⟩, hcontent⟩
          exact writeFile_installs hadmitted hkeeps hthere hentry hfits.2 hsource hcontent tree
            hgrown

/-! ### All members -/

theorem materializeMembers_triple (hadmitted : ∀ member ∈ included, Admitted member)
    (hkeeps : host.KeepsNames manifest) (hthere : base.node path.location = .directory) :
    Triple (interrupted faults dies) (fun tree => tree = base)
      (Run.forEach included (materializeMember sha256 host path manifest bundle included))
      ⟨fun _ tree => Grown path.location base tree ∧
          ∀ member ∈ included, Installed sha256 manifest bundle included path.location member tree,
        fun _ => Grown path.location base, Grown path.location base⟩ := by
  have hloop := @Triple.forEach_progress RuntimeSite Tree RuntimeFailure
    (interrupted faults dies) ArchiveMember
    (fun passed _ tree => Grown path.location base tree ∧
      ∀ member ∈ passed, Installed sha256 manifest bundle included path.location member tree)
    included (materializeMember sha256 host path manifest bundle included)
    ⟨fun _ tree => Grown path.location base tree ∧
        ∀ member ∈ included, Installed sha256 manifest bundle included path.location member tree,
      fun _ => Grown path.location base, Grown path.location base⟩ []
  refine (hloop (fun _ => id) ?_).weaken ?_ (fun _ _ => id) (fun _ _ => id) (fun _ => id)
  · intro before member after hsplit tree hpre
    obtain ⟨hgrown, hinstalled⟩ := hpre
    have hmember : member ∈ included := by
      rw [List.nil_append] at hsplit
      rw [← hsplit]
      exact List.mem_append_right _ List.mem_cons_self
    have htree : tree.node path.location = .directory := by
      rw [hgrown.node_eq (by rw [hthere]; exact nofun), hthere]
    have hstep := @materializeMember_triple host path faults dies sha256 tree manifest bundle
      included member (hadmitted member hmember) hkeeps htree
    refine hstep.weaken (fun _ => id) ?_ (fun _ last hlast => hgrown.trans hlast)
      (fun last hlast => hgrown.trans hlast) tree Grown.refl
    rintro _ last ⟨hlast, hnew⟩
    refine ⟨hgrown.trans hlast, ?_⟩
    intro other hother
    rcases List.mem_append.mp hother with hpassed | hsame
    · exact (hinstalled other hpassed).grown hlast
    · rw [List.mem_singleton.mp hsame]
      exact hnew
  · rintro _ rfl
    exact ⟨Grown.refl, fun _ hmember => absurd hmember List.not_mem_nil⟩

end CodexMustWork.PortableRuntime
