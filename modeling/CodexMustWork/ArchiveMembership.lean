import CodexMustWork.RuntimeArchive

/-!
# What the archive passes admit

What a validated member is, and what is known of the omitted ones: the validation raises,
or every member has a plain path below `python`, the paths are distinct, and the members
that are left out are the pinned exclusions.
-/

namespace CodexMustWork.PortableRuntime

open PosixPaths

variable {sha256 : List UInt8 → PyText} {bundle : TarFile} {exclusions : List ArchiveExclusion}
  {members included : List ArchiveMember} {member : ArchiveMember}

theorem bind_eq_ok {α β : Type} {first : Except RuntimeFailure α}
    {next : α → Except RuntimeFailure β} {value : β} :
    first >>= next = .ok value ↔ ∃ found, first = .ok found ∧ next found = .ok value := by
  cases first with
  | ok found =>
    constructor
    · intro hnext
      exact ⟨found, rfl, hnext⟩
    · rintro ⟨other, hsame, hnext⟩
      cases hsame
      exact hnext
  | error failure =>
    constructor
    · rintro ⟨⟩
    · rintro ⟨other, hsame, -⟩
      cases hsame

/-- A check in front of what follows. -/
theorem check_eq_ok {α : Type} {cond : Prop} [Decidable cond] {failure : RuntimeFailure}
    {rest : Except RuntimeFailure α} {value : α} :
    (if cond then throw failure else rest) = .ok value ↔ ¬ cond ∧ rest = .ok value := by
  by_cases hcond : cond
  · rw [if_pos hcond]
    constructor
    · rintro ⟨⟩
    · rintro ⟨hnot, -⟩
      exact absurd hcond hnot
  · rw [if_neg hcond]
    exact (and_iff_right hcond).symm

/-! ### Paths -/

/-- A name that a directory can hold. -/
def PlainName (part : PyText) : Prop := IsComponent slash dot part ∧ part ≠ pyText ".."

theorem normalized_iff {path : PyText} : normalized path = true ↔
    path ≠ [] ∧ backslash ∉ path ∧ (posixPath path).slashes = 0 ∧
      pyText ".." ∉ (posixPath path).parts slash ∧ path = (posixPath path).asPosix slash dot := by
  unfold normalized
  simp only [Bool.and_eq_true, decide_eq_true_eq, Bool.not_eq_true', List.contains_eq_mem,
    decide_eq_false_iff_not, beq_iff_eq, and_assoc]

/-- What the validation knows of a member. -/
structure Admitted (member : ArchiveMember) : Prop where
  relative : member.1.slashes = 0
  nonempty : member.1.components ≠ []
  plain : ∀ part ∈ member.1.components, PlainName part
  name : member.2.name = [slash].intercalate (pyText "python" :: member.1.components)
  kind : member.2.isFile = true ∨ member.2.isSym = true ∨ member.2.isLnk = true

theorem Admitted.parts (hadmitted : Admitted member) :
    member.1.parts slash = member.1.components := by
  unfold PurePath.parts
  rw [if_pos hadmitted.relative]

theorem Admitted.relativePath_eq (hadmitted : Admitted member) :
    relativePath member = [slash].intercalate member.1.components := by
  unfold relativePath PurePath.asPosix
  rw [if_neg fun hempty => hadmitted.nonempty hempty.2, hadmitted.relative, List.replicate_zero,
    List.nil_append]

theorem Admitted.components_relativePath (hadmitted : Admitted member) :
    (posixPath (relativePath member)).components = member.1.components := by
  rw [hadmitted.relativePath_eq]
  exact components_intercalate fun part hpart => (hadmitted.plain part hpart).1

/-- One member that passes its checks. -/
theorem admitted_of_checks {info : TarInfo} (hnormalized : normalized info.name = true)
    (hlength : 2 ≤ ((posixPath info.name).parts slash).length)
    (hhead : ((posixPath info.name).parts slash).head? = some (pyText "python"))
    (hkind : info.isFile = true ∨ info.isSym = true ∨ info.isLnk = true) :
    Admitted (ofSegments slash dot (((posixPath info.name).parts slash).drop 1), info) := by
  obtain ⟨-, -, hslashes, hup, hname⟩ := normalized_iff.mp hnormalized
  have hparts : (posixPath info.name).parts slash = (posixPath info.name).components :=
    if_pos hslashes
  rw [hparts] at hlength hhead hup ⊢
  obtain ⟨rest, hsplit⟩ : ∃ rest, (posixPath info.name).components = pyText "python" :: rest := by
    cases hcomponents : (posixPath info.name).components with
    | nil =>
      rw [hcomponents] at hhead
      cases hhead
    | cons first rest =>
      rw [hcomponents, List.head?_cons, Option.some_inj] at hhead
      exact ⟨rest, by rw [hhead]⟩
  have hplain : ∀ part ∈ rest, PlainName part := by
    intro part hpart
    have hmem : part ∈ (posixPath info.name).components := by
      rw [hsplit]
      exact List.mem_cons_of_mem _ hpart
    refine ⟨isComponent_of_mem hmem, ?_⟩
    rintro rfl
    exact hup hmem
  have hrelative : ofSegments slash dot rest = ⟨0, rest⟩ :=
    ofSegments_eq fun part hpart => (hplain part hpart).1
  rw [hsplit, List.drop_one, List.tail_cons, hrelative]
  refine ⟨rfl, ?_, hplain, ?_, hkind⟩
  · rintro rfl
    rw [hsplit] at hlength
    exact absurd hlength (by decide)
  · have hne : ¬ ((posixPath info.name).slashes = 0 ∧ (posixPath info.name).components = []) := by
      rintro ⟨-, hempty⟩
      cases hsplit.symm.trans hempty
    rw [hname]
    unfold PurePath.asPosix
    rw [if_neg hne, hslashes, hsplit, List.replicate_zero, List.nil_append]

theorem collectMembers_ok {paths : List PyText} {infos : List TarInfo}
    (hcollected : collectMembers paths infos = .ok members) :
    members.map Prod.snd = infos ∧ ∀ member ∈ members, Admitted member := by
  induction infos generalizing paths members with
  | nil =>
    cases hcollected
    exact ⟨rfl, fun _ hmember => absurd hmember List.not_mem_nil⟩
  | cons info rest ih =>
    unfold collectMembers at hcollected
    dsimp only at hcollected
    split at hcollected
    · cases hcollected
    · next hchecks =>
      simp only [Bool.or_eq_true, Bool.not_eq_true', decide_eq_true_eq, not_or, bne_iff_ne,
        Decidable.not_not, Bool.not_eq_false, Nat.not_lt] at hchecks
      obtain ⟨⟨⟨⟨hnormalized, hlength⟩, hhead⟩, -⟩, hkind⟩ := hchecks
      obtain ⟨others, hothers, hresult⟩ := bind_eq_ok.mp hcollected
      cases hresult
      obtain ⟨hinfos, hadmitted⟩ := ih hothers
      refine ⟨by rw [List.map_cons, hinfos], ?_⟩
      intro member hmember
      rcases List.mem_cons.mp hmember with rfl | hrest
      · refine admitted_of_checks hnormalized hlength hhead ?_
        rcases hkind with (hfile | hsym) | hlnk
        · exact Or.inl hfile
        · exact Or.inr (Or.inl hsym)
        · exact Or.inr (Or.inr hlnk)
      · exact hadmitted member hrest

theorem structurallyValidMembers_ok
    (hvalid : structurallyValidMembers bundle = .ok members) :
    bundle.getmembers = .ok (members.map Prod.snd) ∧ (∀ member ∈ members, Admitted member) ∧
      (members.map relativePath).Nodup := by
  obtain ⟨infos, hinfos, hrest⟩ := bind_eq_ok.mp hvalid
  obtain ⟨found, hfound, hchecks⟩ := bind_eq_ok.mp hrest
  obtain ⟨hnot, hresult⟩ := check_eq_ok.mp hchecks
  cases hresult
  rw [Bool.or_eq_true, not_or, decide_eq_true_eq, Decidable.not_not] at hnot
  obtain ⟨hmap, hadmitted⟩ := collectMembers_ok hfound
  exact ⟨by rw [hinfos, hmap], hadmitted, hnot.1⟩

/-! ### Digests -/

theorem Source.read_ok {source after : Source} {count : ℕ} {chunk : List UInt8}
    (hread : source.read count = .ok (chunk, after)) :
    chunk ++ after.left = source.left ∧ chunk = source.left.take count := by
  unfold Source.read at hread
  split at hread
  · cases hread
  · cases hread
    exact ⟨List.take_append_drop _ _, rfl⟩

/-- Nothing is left to read. -/
theorem Source.left_of_read {source after : Source} (hread : source.read 1 = .ok ([], after)) :
    source.left = [] := by
  have htake := (Source.read_ok hread).2
  cases hleft : source.left with
  | nil => rfl
  | cons byte rest =>
    rw [hleft] at htake
    cases htake

theorem readExactly_ok {source after : Source} {remaining : ℕ} {data : List UInt8}
    (hread : readExactly source remaining = .ok (data, after)) :
    data ++ after.left = source.left ∧ data.length = remaining := by
  induction remaining using Nat.strong_induction_on generalizing source data with
  | _ remaining ih =>
    cases remaining with
    | zero =>
      rw [readExactly] at hread
      cases hread
      exact ⟨rfl, rfl⟩
    | succ remaining =>
      rw [readExactly] at hread
      split at hread
      · cases hread
      · cases hread
      · next byte chunk mid hchunk =>
        obtain ⟨hsplit, htake⟩ := Source.read_ok hchunk
        have hlength : chunk.length + 1 ≤ remaining + 1 := by
          have hcount := congrArg List.length htake
          rw [List.length_cons, List.length_take] at hcount
          omega
        obtain ⟨⟨more, last⟩, hmore, hresult⟩ := bind_eq_ok.mp hread
        cases hresult
        obtain ⟨hrest, hcount⟩ := ih _ (by omega) hmore
        refine ⟨?_, ?_⟩
        · rw [List.append_assoc, hrest, hsplit]
        · rw [List.length_append, List.length_cons, hcount]
          omega

theorem exactDigest_ok {source : Source} {size : ℕ} {digest : PyText}
    (hdigest : exactDigest sha256 source size = .ok digest) :
    source.left.length = size ∧ digest = sha256 source.left := by
  obtain ⟨⟨data, after⟩, hread, hrest⟩ := bind_eq_ok.mp hdigest
  obtain ⟨⟨more, last⟩, hmore, hchecks⟩ := bind_eq_ok.mp hrest
  obtain ⟨hend, hresult⟩ := check_eq_ok.mp hchecks
  cases hresult
  obtain rfl : more = [] := Decidable.not_not.mp hend
  obtain ⟨hdata, hlength⟩ := readExactly_ok hread
  rw [Source.left_of_read hmore, List.append_nil] at hdata
  subst hdata
  exact ⟨hlength, rfl⟩

/-! ### Exclusions -/

/-- A member of the kind that is left out. -/
def isBytecode (member : ArchiveMember) : Bool := member.1.suffix dot == pyText ".pyc"

/-- A member is as an exclusion pins it. -/
structure Pinned (sha256 : List UInt8 → PyText) (bundle : TarFile) (exclusion : ArchiveExclusion)
    (member : ArchiveMember) : Prop where
  path : exclusion.path = relativePath member
  isFile : member.2.isFile = true
  size : member.2.size = exclusion.size
  executable : isExecutable member.2.mode = exclusion.executable
  content : ∃ source, bundle.extractfile member.2 = .ok (some source) ∧
    source.left.length = exclusion.size ∧ sha256 source.left = exclusion.sha256

theorem exclusionAt_some {path : PyText} {exclusion : ArchiveExclusion}
    (hfound : exclusionAt exclusions path = some exclusion) :
    exclusion ∈ exclusions ∧ exclusion.path = path := by
  unfold exclusionAt at hfound
  have hsame := List.find?_some hfound
  exact ⟨List.mem_reverse.mp (List.mem_of_find?_eq_some hfound), eq_of_beq hsame⟩

theorem excludeBytecode_ok {observed : List PyText}
    (hresult : excludeBytecode sha256 bundle exclusions members = .ok (included, observed)) :
    included = members.filter (fun member => !isBytecode member) ∧
      observed = (members.filter isBytecode).map relativePath ∧
      ∀ member ∈ members, isBytecode member = true →
        ∃ exclusion ∈ exclusions, Pinned sha256 bundle exclusion member := by
  induction members generalizing included observed with
  | nil =>
    cases hresult
    exact ⟨rfl, rfl, fun _ hmember => absurd hmember List.not_mem_nil⟩
  | cons member rest ih =>
    obtain ⟨relative, info⟩ := member
    unfold excludeBytecode at hresult
    by_cases hsuffix : relative.suffix dot ≠ pyText ".pyc"
    · have hcode : isBytecode (relative, info) = false := beq_eq_false_iff_ne.mpr hsuffix
      rw [if_pos hsuffix] at hresult
      obtain ⟨⟨more, seen⟩, hmore, hreturn⟩ := bind_eq_ok.mp hresult
      cases hreturn
      obtain ⟨rfl, rfl, hpinned⟩ := ih hmore
      refine ⟨by simp [hcode], by simp [hcode], ?_⟩
      intro member hmember hbytecode
      rcases List.mem_cons.mp hmember with rfl | hrest
      · rw [hcode] at hbytecode
        cases hbytecode
      · exact hpinned member hrest hbytecode
    · have hcode : isBytecode (relative, info) = true :=
        beq_iff_eq.mpr (Decidable.not_not.mp hsuffix)
      rw [if_neg hsuffix] at hresult
      split at hresult
      · cases hresult
      · next exclusion hfound =>
        split at hresult
        · cases hresult
        · next hchecks =>
          simp only [Bool.or_eq_true, Bool.not_eq_true', bne_iff_ne, not_or, Decidable.not_not,
            Bool.not_eq_false] at hchecks
          obtain ⟨extracted, hextracted, hdigested⟩ := bind_eq_ok.mp hresult
          cases extracted with
          | none => cases hdigested
          | some source =>
            obtain ⟨digest, hdigest, hrest⟩ := bind_eq_ok.mp hdigested
            obtain ⟨hsame, hrest⟩ := check_eq_ok.mp hrest
            obtain ⟨⟨more, seen⟩, hmore, hreturn⟩ := bind_eq_ok.mp hrest
            cases hreturn
            obtain ⟨rfl, rfl, hpinned⟩ := ih hmore
            obtain ⟨hmem, hpath⟩ := exclusionAt_some hfound
            obtain ⟨hlength, rfl⟩ := exactDigest_ok hdigest
            refine ⟨by simp [hcode], by simp [hcode, hpath, relativePath], ?_⟩
            intro member hmember hbytecode
            rcases List.mem_cons.mp hmember with rfl | hlater
            · exact ⟨exclusion, hmem, hpath, hchecks.1.1, hchecks.1.2, hchecks.2, source,
                hextracted, hlength, Decidable.not_not.mp hsame⟩
            · exact hpinned member hlater hbytecode

/-- **The validation.**  What is included are the members that are no bytecode, and the
    others are the pinned exclusions, each at its path. -/
theorem validatedArchiveMembers_ok
    (hvalid : validatedArchiveMembers sha256 bundle exclusions = .ok included) :
    ∃ members, structurallyValidMembers bundle = .ok members ∧
      included = members.filter (fun member => !isBytecode member) ∧
      (∀ member ∈ members, isBytecode member = true →
        ∃ exclusion ∈ exclusions, Pinned sha256 bundle exclusion member) ∧
      ∀ exclusion ∈ exclusions, ∃ member ∈ members, isBytecode member = true ∧
        relativePath member = exclusion.path := by
  obtain ⟨members, hmembers, hrest⟩ := bind_eq_ok.mp hvalid
  obtain ⟨⟨kept, observed⟩, hexcluded, hchecks⟩ := bind_eq_ok.mp hrest
  obtain ⟨hsame, hreturn⟩ := check_eq_ok.mp hchecks
  cases hreturn
  obtain ⟨rfl, rfl, hpinned⟩ := excludeBytecode_ok hexcluded
  refine ⟨members, hmembers, rfl, hpinned, ?_⟩
  intro exclusion hexclusion
  have hobserved := (Decidable.not_not.mp hsame).2 (List.mem_map_of_mem hexclusion)
  obtain ⟨member, hmember, hpath⟩ := List.mem_map.mp hobserved
  obtain ⟨hmem, hcode⟩ := List.mem_filter.mp hmember
  exact ⟨member, hmem, hcode, hpath⟩

/-! ### Links -/

/-- A link leads to a regular member, whose name is the path of the link's target. -/
theorem resolvedMember_ok {info source : TarInfo}
    (hresolved : resolvedMember info members = .ok source) :
    source.isFile = true ∧ (info.isFile = true → source = info) ∧
      (info.isFile = false → source ∈ members.map Prod.snd ∧
        source.name = normpath slash dot (join slash (dirname slash info.name) [info.linkname])) := by
  unfold resolvedMember at hresolved
  split at hresolved
  · next hfile =>
    cases hresolved
    refine ⟨hfile, fun _ => rfl, ?_⟩
    intro hlink
    rw [hfile] at hlink
    cases hlink
  · next hfile =>
    dsimp only at hresolved
    split at hresolved
    · cases hresolved
    · next found hfound =>
      split at hresolved
      · next hregular =>
        cases hresolved
        have hsame := List.find?_some hfound
        refine ⟨hregular, fun hinfo => absurd hinfo hfile, fun _ => ⟨?_, eq_of_beq hsame⟩⟩
        exact List.mem_reverse.mp (List.mem_of_find?_eq_some hfound)
      · cases hresolved

end CodexMustWork.PortableRuntime
