import CodexMustWork.RuntimeExtraction

/-!
# The extraction stays inside its root

The whole of `materialize_archive`, on any archive and any loaded manifest: what it has
created when it ends, however it ends, and what it has installed when it returns.
-/

namespace CodexMustWork.PortableRuntime

open DisturbedRuns PosixPaths

variable {sha256 : List UInt8 → PyText}

/-! ### Loaded manifests -/

section Loaded

variable {loads : List UInt8 → Except JsonError (List PyDict)} {paths : List PyText}

theorem mem_keys_of_mapM {encode : PyText → Option (List UInt8)} {keys : List (List UInt8)}
    (hkeys : paths.mapM encode = some keys) {path : PyText} (hpath : path ∈ paths) :
    ∃ key ∈ keys, encode path = some key := by
  induction paths generalizing keys with
  | nil => exact absurd hpath List.not_mem_nil
  | cons first rest ih =>
    rw [List.mapM_cons] at hkeys
    obtain ⟨key, hkey, hmore⟩ := Option.bind_eq_some_iff.mp hkeys
    obtain ⟨others, hothers, hsplit⟩ := Option.bind_eq_some_iff.mp hmore
    cases hsplit
    rcases List.mem_cons.mp hpath with rfl | hrest
    · exact ⟨key, List.mem_cons_self, hkey⟩
    · obtain ⟨found, hfound, hsame⟩ := ih hothers hrest
      exact ⟨found, List.mem_cons_of_mem _ hfound, hsame⟩

theorem nodup_of_mapM {encode : PyText → Option (List UInt8)} {keys : List (List UInt8)}
    (hkeys : paths.mapM encode = some keys) (hnodup : keys.Nodup) : paths.Nodup := by
  induction paths generalizing keys with
  | nil => exact List.nodup_nil
  | cons path rest ih =>
    rw [List.mapM_cons] at hkeys
    obtain ⟨key, hkey, hmore⟩ := Option.bind_eq_some_iff.mp hkeys
    obtain ⟨others, hothers, hsplit⟩ := Option.bind_eq_some_iff.mp hmore
    cases hsplit
    obtain ⟨hnew, hrest⟩ := List.nodup_cons.mp hnodup
    refine List.nodup_cons.mpr ⟨?_, ih hothers hrest⟩
    intro hpath
    obtain ⟨found, hfound, hsame⟩ := mem_keys_of_mapM hothers hpath
    cases hkey.symm.trans hsame
    exact hnew hfound

theorem nodup_of_sortedPaths (hsorted : sortedPaths paths = .ok true) : paths.Nodup := by
  unfold sortedPaths at hsorted
  split at hsorted
  · cases hsorted
  · next keys hkeys =>
    have hpairwise := of_decide_eq_true (Except.ok.inj hsorted)
    refine nodup_of_mapM hkeys (hpairwise.imp ?_)
    rintro first _ hless rfl
    exact absurd hless (List.lt_irrefl _)

/-- The paths of the loaded exclusions differ. -/
theorem loadExclusions_nodup {data : Except RuntimeFailure (List UInt8)} {expected : PyText}
    {count : ℕ} {exclusions : List ArchiveExclusion}
    (hloaded : loadExclusions sha256 loads data expected count = .ok exclusions) :
    (exclusions.map ArchiveExclusion.path).Nodup := by
  obtain ⟨entries, -, hrest⟩ := bind_eq_ok.mp hloaded
  obtain ⟨-, hrest⟩ := check_eq_ok.mp hrest
  obtain ⟨sorted, hsorted, hrest⟩ := bind_eq_ok.mp hrest
  obtain ⟨hchecks, hreturn⟩ := check_eq_ok.mp hrest
  cases hreturn
  rw [Bool.or_eq_true, not_or, Bool.not_eq_true', Bool.not_eq_false] at hchecks
  rw [List.map_map]
  exact nodup_of_sortedPaths (hchecks.1 ▸ hsorted)

theorem loadRuntimeManifest_nodup {data exclusionData : Except RuntimeFailure (List UInt8)}
    {expected expectedExclusion : PyText} {count : ℕ} {manifest : RuntimeTreeManifest}
    (hloaded : loadRuntimeManifest sha256 loads data expected exclusionData expectedExclusion
      count = .ok manifest) : (manifest.excludedBytecode.map ArchiveExclusion.path).Nodup := by
  obtain ⟨entries, -, hrest⟩ := bind_eq_ok.mp hloaded
  obtain ⟨-, hrest⟩ := check_eq_ok.mp hrest
  obtain ⟨sorted, -, hrest⟩ := bind_eq_ok.mp hrest
  obtain ⟨-, hrest⟩ := check_eq_ok.mp hrest
  obtain ⟨exclusions, hexclusions, hreturn⟩ := bind_eq_ok.mp hrest
  cases hreturn
  exact loadExclusions_nodup hexclusions

end Loaded

/-! ### What is created -/

/-- Apart from the root, only directories and regular files strictly below it are new, and
    no object lies below a file. -/
structure Contained (root : Location) (start last : Tree) : Prop where
  within : ∀ location, last.node location ≠ start.node location →
    location = root ∨ location.Below root
  made : ∀ location, last.node location ≠ start.node location →
    start.node location = .missing ∧ Made (last.node location)
  atRoot : last.node root = start.node root ∨ last.node root = .directory
  leaves : ∀ file other data mode, last.node file = .file data mode →
    last.node other ≠ .missing → ¬ other.Below file

theorem Location.Below.exists_names {location root : Location} (hbelow : location.Below root) :
    ∃ names, names ≠ [] ∧ location = root.descend names := by
  obtain ⟨hdrive, ⟨names, hnames⟩, hne⟩ := hbelow
  have hsame : location = root.descend names := Location.ext hdrive hnames.symm
  refine ⟨names, ?_, hsame⟩
  rintro rfl
  exact hne hsame

theorem Tree.leaves (tree : Tree) {file other : Location} {data : List UInt8} {mode : ℕ}
    (hfile : tree.node file = .file data mode) (hother : tree.node other ≠ .missing) :
    ¬ other.Below file := by
  intro hbelow
  obtain ⟨names, hnames, rfl⟩ := hbelow.exists_names
  cases hfile.symm.trans (tree.directory_above hnames hother)

theorem Contained.refl {root : Location} {start : Tree} : Contained root start start :=
  ⟨fun _ hchanged => absurd rfl hchanged, fun _ hchanged => absurd rfl hchanged, Or.inl rfl,
    fun _ _ _ _ hfile hother => start.leaves hfile hother⟩

/-- What grows below a new root. -/
theorem Contained.of_grown {root : Location} {start made last : Tree}
    (hmissing : start.node root = .missing)
    (hmade : made.node = Function.update start.node root .directory)
    (hgrown : Grown root made last) : Contained root start last := by
  have hroot : last.node root = .directory := by
    have hdirectory : made.node root = .directory := by rw [hmade, Function.update_self]
    rw [hgrown.node_eq (by rw [hdirectory]; exact nofun), hdirectory]
  have hcases : ∀ location, last.node location ≠ start.node location → location = root ∨
      location.Below root ∧ start.node location = .missing ∧ Made (last.node location) := by
    intro location hchanged
    by_cases hsame : location = root
    · exact Or.inl hsame
    · have hstart : made.node location = start.node location := by
        rw [hmade, Function.update_of_ne hsame]
      rcases hgrown location with hkept | hnew
      · exact absurd (hkept.trans hstart) hchanged
      · rw [hstart] at hnew
        exact Or.inr hnew
  refine ⟨?_, ?_, Or.inr hroot, fun _ _ _ _ hfile hother => last.leaves hfile hother⟩
  · intro location hchanged
    exact (hcases location hchanged).imp_right And.left
  · intro location hchanged
    rcases hcases location hchanged with rfl | ⟨-, hnew⟩
    · exact ⟨hmissing, Or.inl hroot⟩
    · exact hnew

/-! ### What is installed -/

/-- What a returning extraction has done with the members of an archive. -/
structure Extracted (sha256 : List UInt8 → PyText) (manifest : RuntimeTreeManifest)
    (root : Location) (bundle : TarFile) (members included : List ArchiveMember) (last : Tree) :
    Prop where
  listed : bundle.getmembers = .ok (members.map Prod.snd)
  subset : included ⊆ members
  distinct : (included.map (place root)).Nodup
  installed : ∀ member ∈ included, Installed sha256 manifest bundle included root member last
  linked : ∀ member ∈ included, member.2.isFile = false → ∃ target ∈ included,
    target.2.isFile = true ∧ resolvedMember member.2 included = .ok target.2
  omitted : ∀ member ∈ members, member ∉ included →
    ∃ exclusion ∈ manifest.excludedBytecode, Pinned sha256 bundle exclusion member
  excluded : ∀ exclusion ∈ manifest.excludedBytecode,
    ∃ member ∈ members, member ∉ included ∧ Pinned sha256 bundle exclusion member

variable {manifest : RuntimeTreeManifest} {bundle : TarFile} {included : List ArchiveMember}

theorem Admitted.eq_of_place {first second : ArchiveMember} {root : Location}
    (hfirst : Admitted first) (hsecond : Admitted second)
    (hplace : place root first = place root second) : relativePath first = relativePath second := by
  have hcomponents := List.reverse_injective (Location.descend_injective hplace)
  rw [hfirst.relativePath_eq, hsecond.relativePath_eq, hcomponents]

theorem extracted_of_installed {root : Location} {last : Tree}
    (hdistinct : (manifest.excludedBytecode.map ArchiveExclusion.path).Nodup)
    (hvalid : validatedArchiveMembers sha256 bundle manifest.excludedBytecode = .ok included)
    (hinstalled : ∀ member ∈ included,
      Installed sha256 manifest bundle included root member last) :
    ∃ members, Extracted sha256 manifest root bundle members included last := by
  obtain ⟨members, hmembers, rfl, hpinned, hobserved⟩ := validatedArchiveMembers_ok hvalid
  obtain ⟨hlisted, hadmitted, hnodup⟩ := structurallyValidMembers_ok hmembers
  have hleft : ∀ member ∈ members, isBytecode member = true →
      member ∉ members.filter fun member => !isBytecode member := by
    intro member _ hcode hmember
    rw [List.mem_filter, hcode] at hmember
    cases hmember.2
  refine ⟨members, hlisted, List.filter_subset_self _, ?_, hinstalled, ?_, ?_, ?_⟩
  · have hsub : ((members.filter fun member => !isBytecode member).map relativePath).Nodup :=
      hnodup.sublist (List.filter_sublist.map _)
    unfold List.Nodup at hsub ⊢
    rw [List.pairwise_map] at hsub ⊢
    refine hsub.imp_of_mem ?_
    intro first second hfirst hsecond hne hplace
    exact hne ((hadmitted first (List.mem_of_mem_filter hfirst)).eq_of_place
      (hadmitted second (List.mem_of_mem_filter hsecond)) hplace)
  · intro member hmember hlink
    obtain ⟨_, _, _, _, source, _, _, hsource, _⟩ := hinstalled member hmember
    obtain ⟨hregular, -, htarget⟩ := resolvedMember_ok hsource
    obtain ⟨target, hin, rfl⟩ := List.mem_map.mp (htarget hlink).1
    exact ⟨target, hin, hregular, hsource⟩
  · intro member hmember hout
    refine hpinned member hmember ?_
    by_contra hcode
    rw [Bool.not_eq_true] at hcode
    exact hout (List.mem_filter.mpr ⟨hmember, by rw [hcode]; rfl⟩)
  · intro exclusion hexclusion
    obtain ⟨member, hmember, hcode, hpath⟩ := hobserved exclusion hexclusion
    obtain ⟨found, hfound, hpin⟩ := hpinned member hmember hcode
    have hsame : found = exclusion :=
      List.inj_on_of_nodup_map hdistinct hfound hexclusion (hpin.path.trans hpath)
    subst hsame
    exact ⟨member, hmember, hleft member hmember hcode, hpin⟩

/-! ### The whole run -/

/-- However the calls fail, the extraction creates what it may only, and a run that returns
    has installed the archive. -/
def ExtractsWithin (sha256 : List UInt8 → PyText) (host : Host)
    (opened : Except RuntimeFailure TarFile) (destination : HostPath)
    (manifest : RuntimeTreeManifest) : Prop :=
  ∀ faults dies start,
    Contained (destination.child (pyText "python")).location start
        (materializeArchive sha256 host opened destination manifest (interrupted faults dies)
          start).state ∧
      ∀ last, materializeArchive sha256 host opened destination manifest
          (interrupted faults dies) start = .returned () last →
        ∃ bundle members included, opened = .ok bundle ∧
          Extracted sha256 manifest (destination.child (pyText "python")).location bundle members
            included last

variable {host : Host} {faults : RuntimeSite → Option Interruption} {dies : RuntimeSite → Bool}
  {opened : Except RuntimeFailure TarFile} {destination : HostPath} {start : Tree}

theorem materializeArchive_triple (hkeeps : host.KeepsNames manifest) :
    Triple (interrupted faults dies) (fun tree => tree = start)
      (materializeArchive sha256 host opened destination manifest)
      ⟨fun _ last => Contained (destination.child (pyText "python")).location start last ∧
          ∃ bundle included, opened = .ok bundle ∧
            validatedArchiveMembers sha256 bundle manifest.excludedBytecode = .ok included ∧
            ∀ member ∈ included, Installed sha256 manifest bundle included
              (destination.child (pyText "python")).location member last,
        fun _ => Contained (destination.child (pyText "python")).location start,
        Contained (destination.child (pyText "python")).location start⟩ := by
  have hstart : ∀ tree, tree = start →
      Contained (destination.child (pyText "python")).location start tree := by
    rintro _ rfl
    exact Contained.refl
  refine Triple.bind (?_ : Triple _ _ _ ⟨fun _ tree =>
    start.node (destination.child (pyText "python")).location = .missing ∧
      tree.node = Function.update start.node (destination.child (pyText "python")).location
        .directory, _, _⟩) fun _ => ?_
  · refine Triple.act_alone interrupted_solitary hstart (fun _ => hstart) ?_
    rintro _ next rfl hcreated
    exact Tree.create_ok hcreated
  · rintro made ⟨hmissing, hmade⟩
    have hthere : made.node (destination.child (pyText "python")).location = .directory := by
      rw [hmade, Function.update_self]
    have hgrown : ∀ tree, Grown (destination.child (pyText "python")).location made tree →
        Contained (destination.child (pyText "python")).location start tree :=
      fun tree => Contained.of_grown hmissing hmade
    have hbody : Triple (interrupted faults dies) (fun tree => tree = made)
        (do
          let bundle ← settled opened
          let members ← settled
            (validatedArchiveMembers sha256 bundle manifest.excludedBytecode)
          Run.forEach members (materializeMember sha256 host
            (destination.child (pyText "python")) manifest bundle members))
        ⟨fun _ last => Contained (destination.child (pyText "python")).location start last ∧
            ∃ bundle included, opened = .ok bundle ∧
              validatedArchiveMembers sha256 bundle manifest.excludedBytecode = .ok included ∧
              ∀ member ∈ included, Installed sha256 manifest bundle included
                (destination.child (pyText "python")).location member last,
          fun _ => Contained (destination.child (pyText "python")).location start,
          Contained (destination.child (pyText "python")).location start⟩ := by
      have hkept : ∀ (failure : RuntimeFailure) tree, tree = made →
          Contained (destination.child (pyText "python")).location start tree := by
        rintro _ _ rfl
        exact hgrown _ Grown.refl
      refine Triple.bind (?_ : Triple _ _ _ ⟨fun bundle tree => tree = made ∧ opened = .ok bundle,
        _, _⟩) fun bundle => ?_
      · exact settled_triple (fun bundle hopened tree hsame => ⟨hsame, hopened⟩) hkept
      refine Triple.bind (?_ : Triple _ _ _ ⟨fun included tree => (tree = made ∧
        opened = .ok bundle) ∧ validatedArchiveMembers sha256 bundle manifest.excludedBytecode =
          .ok included, _, _⟩) fun included => ?_
      · exact settled_triple (fun included hvalid tree hpre => ⟨hpre, hvalid⟩)
          fun failure tree hpre => hkept failure tree hpre.1
      rintro tree ⟨⟨rfl, hopened⟩, hvalid⟩
      obtain ⟨members, hmembers, hfiltered, -⟩ := validatedArchiveMembers_ok hvalid
      have hadmitted : ∀ member ∈ included, Admitted member := by
        intro member hmember
        rw [hfiltered] at hmember
        exact (structurallyValidMembers_ok hmembers).2.1 member (List.mem_of_mem_filter hmember)
      refine (materializeMembers_triple hadmitted hkeeps hthere).weaken (fun _ => id) ?_
        (fun _ => hgrown) hgrown tree rfl
      rintro _ last ⟨hlast, hinstalled⟩
      exact ⟨hgrown last hlast, bundle, included, hopened, hvalid, hinstalled⟩
    refine (Triple.attempt hbody ?_ : Triple _ (fun tree => tree = made) _ _) made rfl
    intro failure
    cases failure with
    | os kind => exact Triple.raise fun _ => id
    | tar => exact Triple.raise fun _ => id
    | install reason => exact Triple.raise fun _ => id
    | other identity => exact Triple.raise fun _ => id

/-- **Containment.**  For every archive and every loaded manifest: on POSIX, and on Windows
    where every name in the manifest is one that Windows keeps and the ending of a file's name
    says whether it is executable. -/
theorem materializeArchive_extractsWithin {loads : List UInt8 → Except JsonError (List PyDict)}
    {data exclusionData : Except RuntimeFailure (List UInt8)} {expected expectedExclusion : PyText}
    {count : ℕ}
    (hloaded : loadRuntimeManifest sha256 loads data expected exclusionData expectedExclusion
      count = .ok manifest)
    (hkeeps : host.KeepsNames manifest) :
    ExtractsWithin sha256 host opened destination manifest := by
  intro faults dies start
  have hend := @materializeArchive_triple sha256 manifest host faults dies opened destination
    start hkeeps start rfl
  have hdistinct := loadRuntimeManifest_nodup hloaded
  cases hrun : materializeArchive sha256 host opened destination manifest
      (interrupted faults dies) start with
  | returned value last =>
    rw [hrun] at hend
    obtain ⟨hcontained, bundle, included, hopened, hvalid, hinstalled⟩ := hend
    refine ⟨hcontained, ?_⟩
    rintro _ ⟨⟩
    obtain ⟨members, hextracted⟩ := extracted_of_installed hdistinct hvalid hinstalled
    exact ⟨bundle, members, included, hopened, hextracted⟩
  | raised failure last =>
    rw [hrun] at hend
    exact ⟨hend, nofun⟩
  | crashed last =>
    rw [hrun] at hend
    exact ⟨hend, nofun⟩

/-! ### A name with a drive -/

def bytesOf (text : String) : List UInt8 := text.toList.map fun c => c.toNat.toUInt8

def emptyDigest : String := "e3b0c44298fc1c149afbf4c8996fb92427ae41e4649b934ca495991b7852b855"

/-- The digests of the files below. -/
def sampleSha256 (data : List UInt8) : PyText :=
  if data = [] then pyText emptyDigest
  else if data = bytesOf "[]" then
    pyText "4f53cda18c2baa0c0354bb5f9a3ecbe5ed12ab4d8e11ba873c2f11161202b945"
  else pyText "5806e73b2323d97f1e01ee17e031fc25929f0938666bb9a9e84c71f7e237072e"

/-- A manifest whose only file has the name of a drive in its path. -/
def driveManifestData : List UInt8 := bytesOf
  ("[\x7b\"executable\":false,\"path\":\"C:evil\",\"sha256\":\"" ++ emptyDigest ++
    "\",\"size\":0,\"type\":\"file\"\x7d]")

def driveRaw : PyDict :=
  [(pyText "executable", .bool false), (pyText "path", .str (pyText "C:evil")),
    (pyText "sha256", .str (pyText emptyDigest)), (pyText "size", .int 0),
    (pyText "type", .str (pyText "file"))]

def sampleLoads (data : List UInt8) : Except JsonError (List PyDict) :=
  if data = bytesOf "[]" then .ok [] else .ok [driveRaw]

def driveManifest : RuntimeTreeManifest where
  entries := [⟨pyText "C:evil", 0, pyText emptyDigest, .file, false⟩]
  excludedBytecode := []

theorem driveManifest_loaded :
    loadRuntimeManifest sampleSha256 sampleLoads (.ok driveManifestData)
      (sampleSha256 driveManifestData) (.ok (bytesOf "[]")) (sampleSha256 (bytesOf "[]")) 0 =
      .ok driveManifest := by
  decide +kernel

/-- Its archive: the file, and it is empty. -/
def driveMember : TarInfo := ⟨pyText "python/C:evil", .regular, [], 0o600, 0⟩

def driveArchive : TarFile where
  getmembers := .ok [driveMember]
  extractfile _ := .ok (some ⟨[], false⟩)

/-- A Windows host whose current directory is the root of every drive. -/
def driveHost : Host := .windows asciiLower fun _ => []

def stageLocation : Location := ⟨pyText "d:", [pyText "stage"]⟩

/-- The directory that the archive is extracted to. -/
def stagePath : HostPath := ⟨⟨pyText "d:", []⟩, [pyText "stage"]⟩

def driveTree : Tree where
  node location :=
    if location.names = [] ∨ location = stageLocation then .directory else .missing
  rooted := by
    intro location hthere hnames
    by_cases hstage : location = stageLocation
    · subst hstage
      exact if_pos (Or.inl rfl)
    · exact absurd (if_neg (not_or.mpr ⟨hnames, hstage⟩)) hthere

def outsideLocation : Location := ⟨pyText "c:", [pyText "evil"]⟩

theorem drive_written : (materializeArchive sampleSha256 driveHost (.ok driveArchive) stagePath
    driveManifest (interrupted (fun _ => none) fun _ => false) driveTree).state.node
      outsideLocation = .file [] 0o666 := by
  decide +kernel

/-- On Windows the file is written to another drive. -/
theorem not_extractsWithin_drive :
    loadRuntimeManifest sampleSha256 sampleLoads (.ok driveManifestData)
        (sampleSha256 driveManifestData) (.ok (bytesOf "[]")) (sampleSha256 (bytesOf "[]")) 0 =
        .ok driveManifest ∧
      ¬ ExtractsWithin sampleSha256 driveHost (.ok driveArchive) stagePath driveManifest := by
  refine ⟨driveManifest_loaded, ?_⟩
  intro hextracts
  have hchanged : (materializeArchive sampleSha256 driveHost (.ok driveArchive) stagePath
      driveManifest (interrupted (fun _ => none) fun _ => false) driveTree).state.node
        outsideLocation ≠ driveTree.node outsideLocation := by
    rw [drive_written]
    decide
  rcases (hextracts (fun _ => none) (fun _ => false) driveTree).1.within outsideLocation hchanged with
    hroot | hbelow
  · exact absurd (congrArg Location.drive hroot) (by decide)
  · exact absurd hbelow.1 (by decide)

/-- On POSIX the same archive stays inside. -/
theorem extractsWithin_posix :
    ExtractsWithin sampleSha256 (.posix 0o022) (.ok driveArchive) stagePath driveManifest :=
  materializeArchive_extractsWithin driveManifest_loaded fun _ _ _ => ⟨fun _ _ => trivial, trivial⟩

end CodexMustWork.PortableRuntime
