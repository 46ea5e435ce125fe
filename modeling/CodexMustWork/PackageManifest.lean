import CodexMustWork.ConfigFiles
import CodexMustWork.HostNames
import CodexMustWork.Library.LengthPrefixes
import CodexMustWork.McpProtocol
import Mathlib.Data.List.Dedup
import Mathlib.Data.List.Sort
import Mathlib.Data.UInt

/-!
# Packages and their digests

`load_package` of `scripts/cache_package.py` and `safe_relative` of
`scripts/cache_semver.py`: the files a manifest lists, read one by one and framed for one
digest.

`json.loads` and SHA-256 are parameters, and the reader may answer each of its calls
differently.
-/

namespace CodexMustWork

open LengthPrefixes

/-! ### Paths -/

/-- `str.encode`. -/
def utf8 (text : String) : Bytes := text.toByteArray.data.toList

/-- `value.split("/")`. -/
def pathParts (value : String) : List String := (value.toList.splitOn '/').map String.ofList

/-- Accept one normalized slash-separated manifest path. -/
def safeRelative (value : String) : Bool :=
  !value.toList.contains '\\' && !value.toList.contains '\x00' &&
    (pathParts value).all fun part =>
      part != "" && part != "." && part != ".." && safeName part

/-! ### Packages -/

def manifestPath : String := "runtime/package-files.json"

def packageDomain : Bytes := utf8 "codex-must-work-package-v1" ++ [0]

/-- The exceptions `load_package` lets through: an `InstallPluginError` with its reason, and
    those of `str.encode`, of `struct.pack` and of the interpreter. -/
inductive PackageFailure where
  | install (reason : String)
  | unicodeEncode
  | struct
  | interpreter

/-- What `json.loads` raises: a `UnicodeError` or a `JSONDecodeError`, or another exception. -/
inductive LoadsFailure where
  | decode
  | interpreter

/-- A reader: its answer to the nth call, for the components of a path below the root. -/
abbrev DirectReader := ℕ → List String → String → Except PackageFailure Bytes

/-- One loaded package. -/
structure Package (δ : Type) where
  paths : List String
  files : List (String × Bytes)
  digest : δ

/-- `_json`. -/
def loadJsonDocument (loads : Bytes → Except LoadsFailure Json) (data : Bytes) (reason : String) :
    Except PackageFailure Json :=
  match loads data with
  | .ok value => .ok value
  | .error .decode => .error (.install reason)
  | .error .interpreter => .error .interpreter

/-- The text of a member of the manifest. -/
def manifestText : Json → Option (Option String)
  | .text content => some content
  | _ => none

/-- `sorted(paths, key=str.encode)`. -/
def sortedPaths (paths : List String) : List String :=
  paths.insertionSort fun first second => utf8 first ≤ utf8 second

/-- What the manifest asks of its paths. -/
def validPaths (paths : List String) : Bool :=
  paths != [] && paths == sortedPaths paths && paths.length == paths.dedup.length &&
    paths.contains manifestPath && paths.all safeRelative

/-- The paths of a manifest. -/
def manifestPaths : Json → Except PackageFailure (List String)
  | .list items =>
      match items.mapM manifestText with
      | none => .error (.install "package_manifest_invalid")
      | some texts =>
          match texts.mapM id with
          | none => .error .unicodeEncode
          | some paths =>
              if validPaths paths then .ok paths
              else .error (.install "package_manifest_invalid")
  | _ => .error (.install "package_manifest_invalid")

/-- The files of the paths, read in their order from the nth call on. -/
def readFiles (reader : DirectReader) :
    ℕ → List String → Except PackageFailure (List (String × Bytes))
  | _, [] => .ok []
  | call, path :: rest => do
      let data ← reader call (pathParts path) "package_source_unsafe"
      let more ← readFiles reader (call + 1) rest
      return (path, data) :: more

/-- A required document is an object. -/
def checkDocument (loads : Bytes → Except LoadsFailure Json) (files : List (String × Bytes))
    (required : String) : Except PackageFailure Unit := do
  match ← loadJsonDocument loads ((files.lookup required).getD []) "package_hooks_invalid" with
  | .object _ => return ()
  | _ => throw (.install "package_hooks_invalid")

/-- The frames of the files. -/
def frameFiles : List (String × Bytes) → Option Bytes
  | [] => some []
  | (path, data) :: rest => do
      let encoded := utf8 path
      let pathSize ← pack 4 encoded.length
      let dataSize ← pack 8 data.length
      let more ← frameFiles rest
      return pathSize ++ (encoded ++ (dataSize ++ (data ++ more)))

/-- What the digest of a package is taken of. -/
def framePackage (files : List (String × Bytes)) : Option Bytes := do
  let count ← pack 4 files.length
  let frames ← frameFiles files
  return packageDomain ++ (count ++ frames)

/-- Read exactly the sorted manifest entries and compute their framed digest. -/
def loadPackage {δ : Type} (sha256 : Bytes → δ) (loads : Bytes → Except LoadsFailure Json)
    (reader : DirectReader) : Except PackageFailure (Package δ) := do
  let manifest ← reader 0 (pathParts manifestPath) "package_source_unsafe"
  let parsed ← loadJsonDocument loads manifest "package_manifest_invalid"
  let paths ← manifestPaths parsed
  let files ← readFiles reader 1 paths
  checkDocument loads files ".codex-plugin/plugin.json"
  checkDocument loads files "hooks/hooks.json"
  match framePackage files with
  | none => throw .struct
  | some framed => return ⟨paths, files, sha256 framed⟩

/-! ### The digest identifies the files -/

theorem utf8_injective : Function.Injective utf8 := by
  intro first second hsame
  rw [← String.toByteArray_inj]
  exact ByteArray.ext (Array.toList_inj.mp hsame)

theorem frameFiles_cons {path : String} {data framed : Bytes} {rest : List (String × Bytes)}
    (hframe : frameFiles ((path, data) :: rest) = some framed) :
    ∃ pathSize dataSize more, pack 4 (utf8 path).length = some pathSize ∧
      pack 8 data.length = some dataSize ∧ frameFiles rest = some more ∧
      framed = pathSize ++ (utf8 path ++ (dataSize ++ (data ++ more))) := by
  simp only [frameFiles, bind, Option.bind_eq_some_iff] at hframe
  obtain ⟨pathSize, hpath, dataSize, hdata, more, hrest, hframed⟩ := hframe
  exact ⟨pathSize, dataSize, more, hpath, hdata, hrest, (Option.some.inj hframed).symm⟩

/-- A framed file is never nothing: its path has a length. -/
theorem frameFiles_cons_ne_nil {file : String × Bytes} {rest : List (String × Bytes)} :
    frameFiles (file :: rest) ≠ some [] := by
  intro hframe
  obtain ⟨pathSize, dataSize, more, hpath, -, -, hframed⟩ := frameFiles_cons hframe
  have hlength := length_of_pack hpath
  rw [List.append_eq_nil_iff.mp hframed.symm |>.1] at hlength
  cases hlength

theorem frameFiles_inj {first second : List (String × Bytes)} {framed : Bytes}
    (hfirst : frameFiles first = some framed) (hsecond : frameFiles second = some framed) :
    first = second := by
  induction first generalizing second framed with
  | nil =>
    cases second with
    | nil => rfl
    | cons file rest =>
      rw [← Option.some.inj hfirst] at hsecond
      exact absurd hsecond frameFiles_cons_ne_nil
  | cons file rest ih =>
    cases second with
    | nil =>
      rw [← Option.some.inj hsecond] at hfirst
      exact absurd hfirst frameFiles_cons_ne_nil
    | cons file' rest' =>
      obtain ⟨pathSize, dataSize, more, hpath, hdata, hrest, rfl⟩ := frameFiles_cons hfirst
      obtain ⟨pathSize', dataSize', more', hpath', hdata', hrest', hsame⟩ :=
        frameFiles_cons hsecond
      -- the two widths in turn: first the path, then the content, then the other files
      obtain ⟨hpaths, hsame⟩ := prefixed_append_inj hpath hpath' hsame
      obtain ⟨hcontents, rfl⟩ := prefixed_append_inj hdata hdata' hsame
      rw [ih hrest hrest', Prod.ext (utf8_injective hpaths) hcontents]

theorem framePackage_inj {first second : List (String × Bytes)} {framed : Bytes}
    (hfirst : framePackage first = some framed) (hsecond : framePackage second = some framed) :
    first = second := by
  simp only [framePackage, bind, Option.bind_eq_some_iff] at hfirst hsecond
  obtain ⟨count, hcount, frames, hframes, hframed⟩ := hfirst
  obtain ⟨count', hcount', frames', hframes', hframed'⟩ := hsecond
  have hsame := List.append_cancel_left (Option.some.inj (hframed.trans hframed'.symm))
  obtain ⟨-, rfl⟩ := pack_append_inj hcount hcount' hsame
  exact frameFiles_inj hframes hframes'

/-! ### What a manifest lists -/

/-- A component that stays one below its directory. -/
structure SafeComponent (part : String) : Prop where
  nonempty : part ≠ ""
  notCurrent : part ≠ "."
  notParent : part ≠ ".."
  plain : ∀ c ∈ part.toList, c ≠ '/' ∧ c ≠ '\\' ∧ c ≠ ':'

theorem safeComponent_of_part {part : String} (hsafe : safeName part = true) :
    SafeComponent part := by
  unfold safeName at hsafe
  simp only at hsafe
  split_ifs at hsafe with hunsafe
  simp only [Bool.or_eq_true, not_or, beq_iff_eq, List.any_eq_true, not_exists, not_and] at hunsafe
  obtain ⟨⟨⟨⟨⟨hempty, hcurrent⟩, hparent⟩, hplain⟩, -⟩, -⟩ := hunsafe
  refine ⟨?_, hcurrent, hparent, ?_⟩
  · rintro rfl
    exact hempty rfl
  · intro c hc
    have hallowed := hplain c hc
    refine ⟨?_, ?_, ?_⟩
    · rintro rfl
      exact hallowed.2 (by decide)
    · rintro rfl
      exact hallowed.2 (by decide)
    · rintro rfl
      exact hallowed.2 (by decide)

/-! #### Below a root -/

/-- The hosts the plugin runs on. -/
inductive Host where
  | posix
  | windows
deriving DecidableEq

/-- The characters by which a component is more than a name on a host. -/
def Host.special : Host → List Char
  | .posix => ['/']
  | .windows => ['/', '\\', ':']

/-- Where `root.joinpath(*parts)` leads, while it stays below the file system's root: a
    component that is more than a name can lead anywhere. -/
def joinpath (host : Host) (directory : List String) : List String → Option (List String)
  | [] => some directory
  | part :: rest =>
      if part.toList.any host.special.contains then none
      else if part = "" ∨ part = "." then joinpath host directory rest
      else if part = ".." then
        if directory = [] then none else joinpath host directory.dropLast rest
      else joinpath host (directory ++ [part]) rest

theorem joinpath_safe (host : Host) {parts : List String}
    (hsafe : ∀ part ∈ parts, SafeComponent part) (directory : List String) :
    joinpath host directory parts = some (directory ++ parts) := by
  induction parts generalizing directory with
  | nil => rw [joinpath, List.append_nil]
  | cons part rest ih =>
    have hpart := hsafe part List.mem_cons_self
    have hrest := fun other hother => hsafe other (List.mem_cons_of_mem part hother)
    have hplain : ¬ part.toList.any host.special.contains = true := by
      rw [List.any_eq_true]
      rintro ⟨c, hc, hspecial⟩
      obtain ⟨hslash, hback, hcolon⟩ := hpart.plain c hc
      cases host <;> simp [Host.special, hslash, hback, hcolon] at hspecial
    have hname : ¬ (part = "" ∨ part = ".") :=
      fun hor => hor.elim hpart.nonempty hpart.notCurrent
    rw [joinpath, if_neg hplain, if_neg hname, if_neg hpart.notParent, ih hrest,
      List.append_assoc, List.singleton_append]

/-- What the paths of an accepted manifest are. -/
structure WellListed (paths : List String) : Prop where
  increasing : paths.Pairwise fun first second => utf8 first < utf8 second
  listsItself : manifestPath ∈ paths
  safe : ∀ path ∈ paths, ∀ part ∈ pathParts path, SafeComponent part
  below : ∀ path ∈ paths, pathParts path ≠ [] ∧
    ∀ host root, joinpath host root (pathParts path) = some (root ++ pathParts path)

theorem validPaths_safe {paths : List String} (hvalid : validPaths paths = true) :
    ∀ path ∈ paths, ∀ part ∈ pathParts path, safeName part = true := by
  simp only [validPaths, Bool.and_eq_true, List.all_eq_true] at hvalid
  intro path hpath part hpart
  have hrelative := hvalid.2 path hpath
  simp only [safeRelative, Bool.and_eq_true, List.all_eq_true] at hrelative
  exact (hrelative.2 part hpart).2

theorem wellListed_of_valid {paths : List String} (hvalid : validPaths paths = true) :
    WellListed paths := by
  have hcomponents : ∀ path ∈ paths, ∀ part ∈ pathParts path, SafeComponent part :=
    fun path hpath part hpart => safeComponent_of_part (validPaths_safe hvalid path hpath part hpart)
  simp only [validPaths, Bool.and_eq_true, beq_iff_eq] at hvalid
  obtain ⟨⟨⟨⟨-, hsorted⟩, hdistinct⟩, hitself⟩, -⟩ := hvalid
  refine ⟨?_, List.contains_iff_mem.mp hitself, hcomponents, ?_⟩
  · have hnodup : paths.Nodup := by
      rw [← List.dedup_eq_self]
      exact (List.dedup_sublist paths).eq_of_length hdistinct.symm
    have hle : paths.Pairwise fun first second => utf8 first ≤ utf8 second := by
      have hpairwise := List.pairwise_insertionSort
        (fun first second : String => utf8 first ≤ utf8 second) paths
      rw [sortedPaths] at hsorted
      rwa [← hsorted] at hpairwise
    refine hle.imp₂ ?_ hnodup
    intro first second hbefore hne
    exact (List.le_iff_lt_or_eq.mp hbefore).resolve_right fun hsame => hne (utf8_injective hsame)
  · intro path hpath
    refine ⟨?_, fun host root => joinpath_safe host (hcomponents path hpath) root⟩
    rw [pathParts, ne_eq, List.map_eq_nil_iff]
    exact List.splitOn_ne_nil _ _

theorem manifestPaths_valid {parsed : Json} {paths : List String}
    (haccepted : manifestPaths parsed = .ok paths) : validPaths paths = true := by
  unfold manifestPaths at haccepted
  split at haccepted
  · split at haccepted
    · cases haccepted
    · split at haccepted
      · cases haccepted
      · split_ifs at haccepted with hvalid
        cases haccepted
        exact hvalid
  · cases haccepted

theorem manifestPaths_wellListed {parsed : Json} {paths : List String}
    (haccepted : manifestPaths parsed = .ok paths) : WellListed paths :=
  wellListed_of_valid (manifestPaths_valid haccepted)

theorem manifestPaths_safe {parsed : Json} {paths : List String}
    (haccepted : manifestPaths parsed = .ok paths) :
    ∀ path ∈ paths, ∀ part ∈ pathParts path, safeName part = true :=
  validPaths_safe (manifestPaths_valid haccepted)

theorem readFiles_paths {reader : DirectReader} {call : ℕ} {paths : List String}
    {files : List (String × Bytes)} (hread : readFiles reader call paths = .ok files) :
    files.map Prod.fst = paths ∧ ∀ index path data, files[index]? = some (path, data) →
      reader (call + index) (pathParts path) "package_source_unsafe" = .ok data := by
  induction paths generalizing call files with
  | nil =>
    cases hread
    refine ⟨rfl, ?_⟩
    intro index path data hfile
    cases hfile
  | cons path rest ih =>
    rw [readFiles] at hread
    cases hdata : reader call (pathParts path) "package_source_unsafe" with
    | error failure =>
      rw [hdata] at hread
      cases hread
    | ok data =>
      cases hmore : readFiles reader (call + 1) rest with
      | error failure =>
        rw [hdata, hmore] at hread
        cases hread
      | ok more =>
        rw [hdata, hmore] at hread
        cases hread
        obtain ⟨hpaths, hcontents⟩ := ih hmore
        refine ⟨by rw [List.map_cons, hpaths], ?_⟩
        intro index found content hfile
        cases index with
        | zero =>
          cases hfile
          exact hdata
        | succ index =>
          have hcall : call + (index + 1) = call + 1 + index := by omega
          rw [hcall]
          exact hcontents index found content hfile

/-- A package is what the reader gave: an accepted manifest, and the contents of its paths. -/
structure ReadFrom {δ : Type} (loads : Bytes → Except LoadsFailure Json) (reader : DirectReader)
    (package : Package δ) : Prop where
  manifest : ∃ data parsed, reader 0 (pathParts manifestPath) "package_source_unsafe" = .ok data ∧
    loads data = .ok parsed ∧ manifestPaths parsed = .ok package.paths
  paths : package.files.map Prod.fst = package.paths
  contents : ∀ index path data, package.files[index]? = some (path, data) →
    reader (index + 1) (pathParts path) "package_source_unsafe" = .ok data

theorem loadJsonDocument_ok {loads : Bytes → Except LoadsFailure Json} {data : Bytes}
    {reason : String} {parsed : Json} (hparsed : loadJsonDocument loads data reason = .ok parsed) :
    loads data = .ok parsed := by
  unfold loadJsonDocument at hparsed
  split at hparsed
  · next hloads =>
    cases hparsed
    exact hloads
  · cases hparsed
  · cases hparsed

/-- What was loaded, and the digest of its frames. -/
theorem loadPackage_eq_ok {δ : Type} {sha256 : Bytes → δ}
    {loads : Bytes → Except LoadsFailure Json} {reader : DirectReader} {package : Package δ}
    (hload : loadPackage sha256 loads reader = .ok package) :
    ReadFrom loads reader package ∧
      ∃ framed, framePackage package.files = some framed ∧ package.digest = sha256 framed := by
  unfold loadPackage at hload
  cases hmanifest : reader 0 (pathParts manifestPath) "package_source_unsafe" with
  | error failure =>
    rw [hmanifest] at hload
    cases hload
  | ok manifest =>
    cases hparsed : loadJsonDocument loads manifest "package_manifest_invalid" with
    | error failure =>
      simp only [hmanifest, hparsed, bind, Except.bind] at hload
      cases hload
    | ok parsed =>
      cases hpaths : manifestPaths parsed with
      | error failure =>
        simp only [hmanifest, hparsed, hpaths, bind, Except.bind] at hload
        cases hload
      | ok paths =>
        cases hfiles : readFiles reader 1 paths with
        | error failure =>
          simp only [hmanifest, hparsed, hpaths, hfiles, bind, Except.bind] at hload
          cases hload
        | ok files =>
          simp only [hmanifest, hparsed, hpaths, hfiles, bind, Except.bind] at hload
          split at hload
          · cases hload
          · split at hload
            · cases hload
            · cases hframed : framePackage files with
              | none =>
                rw [hframed] at hload
                cases hload
              | some framed =>
                rw [hframed] at hload
                cases hload
                obtain ⟨hlisted, hcontents⟩ := readFiles_paths hfiles
                refine ⟨⟨⟨manifest, parsed, hmanifest, loadJsonDocument_ok hparsed, hpaths⟩,
                  hlisted, ?_⟩, framed, hframed, rfl⟩
                intro index path data hfile
                rw [Nat.add_comm]
                exact hcontents index path data hfile

/-- What is fed to the digests of two packages, and what the digests say. -/
structure Identified {δ : Type} (sha256 : Bytes → δ) (first second : Package δ) : Prop where
  framed : ∃ framed framed', framePackage first.files = some framed ∧
    first.digest = sha256 framed ∧ framePackage second.files = some framed' ∧
    second.digest = sha256 framed' ∧ (framed = framed' ↔ first.files = second.files)
  digest : Function.Injective sha256 → first.digest = second.digest → first = second

/-- No component of a path is a name that a host keeps for itself. -/
def Unreserved (paths : List String) : Prop :=
  ∀ path ∈ paths, ∀ part ∈ pathParts path, ¬ HostReserved part

/-- An accepted manifest names nothing of the host's own, but for devices that are missed. -/
theorem unreserved_iff {parsed : Json} {paths : List String}
    (haccepted : manifestPaths parsed = .ok paths) :
    Unreserved paths ↔ ∀ path ∈ paths, ∀ part ∈ pathParts path, ¬ MissedDevice part := by
  have hsafe := manifestPaths_safe haccepted
  refine forall₂_congr fun path hpath => forall₂_congr fun part hpart => ?_
  exact not_congr (hostReserved_iff_missed (hsafe path hpath part hpart))

/-- **Package digests.**  The bytes two accepted packages are digested from are equal
    exactly when their files are, and these are what the reader gave, so a digest that does not
    collide identifies a package; every accepted manifest lists its paths in increasing order,
    itself among them and none of them leaving the root, and no component is a name of the
    host's own exactly when none is a device that `safe_name` misses. -/
theorem packages_identified {δ : Type} {sha256 : Bytes → δ}
    {loads loads' : Bytes → Except LoadsFailure Json} {reader reader' : DirectReader}
    {first second : Package δ} (hfirst : loadPackage sha256 loads reader = .ok first)
    (hsecond : loadPackage sha256 loads' reader' = .ok second) :
    Identified sha256 first second ∧ ReadFrom loads reader first ∧ ReadFrom loads' reader' second ∧
      ∀ parsed paths, manifestPaths parsed = .ok paths → WellListed paths ∧
        (Unreserved paths ↔ ∀ path ∈ paths, ∀ part ∈ pathParts path, ¬ MissedDevice part) := by
  obtain ⟨hread, framed, hframed, hdigest⟩ := loadPackage_eq_ok hfirst
  obtain ⟨hread', framed', hframed', hdigest'⟩ := loadPackage_eq_ok hsecond
  have hiff : framed = framed' ↔ first.files = second.files := by
    constructor
    · rintro rfl
      exact framePackage_inj hframed hframed'
    · intro hfiles
      rw [hfiles, hframed'] at hframed
      exact (Option.some.inj hframed).symm
  refine ⟨⟨⟨framed, framed', hframed, hdigest, hframed', hdigest', hiff⟩, ?_⟩, hread, hread',
    fun _ _ haccepted => ⟨manifestPaths_wellListed haccepted, unreserved_iff haccepted⟩⟩
  intro hsha hsame
  rw [hdigest, hdigest'] at hsame
  have hfiles := hiff.mp (hsha hsame)
  have hpaths := hread.paths
  rw [hfiles, hread'.paths] at hpaths
  obtain ⟨paths, files, digest⟩ := first
  obtain ⟨paths', files', digest'⟩ := second
  simp only at hpaths hfiles hdigest hdigest'
  rw [hpaths, hfiles, hdigest, hdigest', hsha hsame]

/-! ### Packages of a few files -/

def manifestOf (paths : List String) : String :=
  "[" ++ String.intercalate "," (paths.map fun path => "\"" ++ path ++ "\"") ++ "]"

def emptyDocument : String := "\x7b\x7d"

/-- A parser of the manifest and of the empty document. -/
def sampleLoads (paths : List String) (data : Bytes) : Except LoadsFailure Json :=
  if data = utf8 (manifestOf paths) then .ok (.list (paths.map fun path => .text (some path)))
  else if data = utf8 emptyDocument then .ok (.object [])
  else .error .decode

/-- A directory with the manifest, and with an empty object in every other file. -/
def sampleReader (paths : List String) : DirectReader := fun _ parts _ =>
  .ok (utf8 (if parts = pathParts manifestPath then manifestOf paths else emptyDocument))

def samplePackage (paths : List String) : Package Bytes where
  paths := paths
  files := paths.map fun path =>
    (path, utf8 (if path = manifestPath then manifestOf paths else emptyDocument))
  digest := (framePackage (paths.map fun path =>
    (path, utf8 (if path = manifestPath then manifestOf paths else emptyDocument)))).getD []

def samplePaths : List String := [".codex-plugin/plugin.json", "hooks/hooks.json", manifestPath]

/-- With a file that Windows takes for the null device. -/
def devicePaths : List String :=
  [".codex-plugin/plugin.json", "hooks/hooks.json", "nul .txt", manifestPath]

theorem loadPackage_sample :
    loadPackage id (sampleLoads samplePaths) (sampleReader samplePaths) =
      .ok (samplePackage samplePaths) := by
  rfl

theorem packages_identified_sample : Unreserved samplePaths := by
  have hsample := packages_identified loadPackage_sample loadPackage_sample
  obtain ⟨data, parsed, -, -, haccepted⟩ := hsample.2.1.manifest
  refine (hsample.2.2.2 parsed samplePaths haccepted).2.mpr ?_
  decide

/-- A package with a device in it is accepted. -/
theorem loadPackage_device :
    loadPackage id (sampleLoads devicePaths) (sampleReader devicePaths) =
        .ok (samplePackage devicePaths) ∧
      ¬ Unreserved (samplePackage devicePaths).paths := by
  refine ⟨rfl, fun hunreserved => ?_⟩
  refine hunreserved "nul .txt" (by decide) "nul .txt" (by decide) ?_
  exact Or.inr (Or.inr (Or.inr (by decide)))

end CodexMustWork
