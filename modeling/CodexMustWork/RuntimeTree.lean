import CodexMustWork.HostNames
import CodexMustWork.Library.DisturbedRuns
import CodexMustWork.RuntimeArchive
import Mathlib.Logic.Function.Basic

/-!
# The portable runtime's tree

`scripts/runtime_tree.py`: the manifest of a runtime, and the extraction of its archive.
Every call of the operating system is one operation of a disturbed run.

A tree of a disk is a map from locations that leads through directories only.  On Windows
a path that names a drive leaves the path it is joined to, unless that is on the same
drive already.
-/

namespace CodexMustWork.PortableRuntime

open DisturbedRuns PosixPaths

/-! ### The manifest -/

inductive EntryType where
  | directory
  | file
deriving DecidableEq, Repr

/-- One exact object in a materialized runtime tree. -/
structure RuntimeEntry where
  path : PyText
  size : ℕ
  sha256 : PyText
  type : EntryType
  executable : Bool
deriving DecidableEq

/-- Membership and metadata for one runtime target. -/
structure RuntimeTreeManifest where
  entries : List RuntimeEntry
  excludedBytecode : List ArchiveExclusion
deriving DecidableEq

/-- `_MANIFEST_INVALID`. -/
def manifestInvalid : RuntimeFailure := .install "portable_runtime_manifest_invalid"

def memberKeys : List PyText :=
  ["executable", "path", "sha256", "size", "type"].map pyText

/-- `_normalized` of the manifest, which does not ask for the shortest text. -/
def normalizedEntry (path : PyText) : Bool :=
  path ≠ [] && !path.contains backslash && (posixPath path).slashes == 0 &&
    !((posixPath path).parts slash).contains (pyText "..")

def entryType (kind : PyText) : Option EntryType :=
  if kind = pyText "directory" then some .directory
  else if kind = pyText "file" then some .file else none

section Loading

variable (sha256 : List UInt8 → PyText) (loads : List UInt8 → Except JsonError (List PyDict))

/-- `_parse_entry`. -/
def parseEntry (raw : PyDict) : Except RuntimeFailure RuntimeEntry :=
  if !(memberKeys.all (raw.map Prod.fst).contains && (raw.map Prod.fst).all memberKeys.contains) then
    .error manifestInvalid
  else
    match raw.find "path", raw.find "size", raw.find "sha256", raw.find "type",
        raw.find "executable" with
    | some (.str path), some (.int size), some (.str digest), some (.str kind),
        some (.bool executable) =>
        match entryType kind with
        | none => .error manifestInvalid
        | some type =>
            if !normalizedEntry path || size < 0 || digest.length ≠ 64 ||
                !digest.all (pyText "0123456789abcdef").contains ||
                (type == .directory && (size ≠ 0 || digest ≠ sha256 [] || executable)) then
              .error manifestInvalid
            else .ok ⟨path, size.toNat, digest, type, executable⟩
    | _, _, _, _, _ => .error manifestInvalid

/-- `paths == tuple(sorted(set(paths), key=str.encode))`; a surrogate cannot be encoded. -/
def sortedPaths (paths : List PyText) : Except RuntimeFailure Bool :=
  match paths.mapM encodeText with
  | none => .error (.other 0)
  | some keys => .ok (decide (keys.Pairwise (· < ·)))

/-- The entries of one manifest file. -/
def parseManifest (data : Except RuntimeFailure (List UInt8)) (expectedSha256 : PyText) :
    Except RuntimeFailure (List RuntimeEntry) := do
  let data ← data
  if sha256 data ≠ expectedSha256 then throw manifestInvalid
  else
    match loads data with
    | .error _ => throw manifestInvalid
    | .ok raw => raw.mapM (parseEntry sha256)

/-- `_load_exclusions`. -/
def loadExclusions (data : Except RuntimeFailure (List UInt8)) (expectedSha256 : PyText)
    (expectedCount : ℕ) : Except RuntimeFailure (List ArchiveExclusion) := do
  let entries ← parseManifest sha256 loads data expectedSha256
  if entries.length ≠ expectedCount then throw manifestInvalid
  else do
    let sorted ← sortedPaths (entries.map (·.path))
    if !sorted || entries.any fun entry =>
        entry.type != .file || (posixPath entry.path).suffix dot != pyText ".pyc" then
      throw manifestInvalid
    else return entries.map fun entry => ⟨entry.path, entry.size, entry.sha256, entry.executable⟩

/-- `load_runtime_manifest`.  The directories are sorted already, so they are compared as
    sets. -/
def loadRuntimeManifest (data : Except RuntimeFailure (List UInt8)) (expectedSha256 : PyText)
    (exclusionData : Except RuntimeFailure (List UInt8)) (expectedExclusionSha256 : PyText)
    (expectedExclusionCount : ℕ) : Except RuntimeFailure RuntimeTreeManifest := do
  let entries ← parseManifest sha256 loads data expectedSha256
  if entries = [] then throw manifestInvalid
  else do
    let sorted ← sortedPaths (entries.map (·.path))
    let expectedDirectories := (entries.filter fun entry => entry.type == .file).flatMap
      fun entry => properPrefixes entry.path
    let actualDirectories :=
      (entries.filter fun entry => entry.type == .directory).map fun entry => entry.path
    if !sorted || !(expectedDirectories.all actualDirectories.contains &&
        actualDirectories.all expectedDirectories.contains) then
      throw manifestInvalid
    else do
      let exclusions ← loadExclusions sha256 loads exclusionData expectedExclusionSha256
        expectedExclusionCount
      return ⟨entries, exclusions⟩

end Loading

/-- `expected_files`. -/
def expectedFile (manifest : RuntimeTreeManifest) (path : PyText) : Option RuntimeEntry :=
  manifest.entries.reverse.find? fun entry => entry.type == .file && entry.path == path

/-! ### Locations -/

/-- Where a file system keeps an object: the drive, and the names up to its root. -/
@[ext]
structure Location where
  drive : PyText
  names : List PyText
deriving DecidableEq

def Location.parent (location : Location) : Location := { location with names := location.names.tail }

/-- One location is strictly below the other one. -/
def Location.Below (location root : Location) : Prop :=
  location.drive = root.drive ∧ root.names <:+ location.names ∧ location ≠ root

/-- A path of the program: where it starts, and its names from the last one on. -/
structure HostPath where
  anchor : Location
  names : List PyText
deriving DecidableEq

def HostPath.parent (path : HostPath) : HostPath := { path with names := path.names.tail }

def HostPath.child (path : HostPath) (name : PyText) : HostPath :=
  { path with names := name :: path.names }

/-- What the system makes of a path: `..` leads back. -/
def HostPath.location (path : HostPath) : Location :=
  { path.anchor with
    names := path.names.foldr
      (fun name above => if name = pyText ".." then above.tail else name :: above)
      path.anchor.names }

/-- The host.  A Windows one has a current directory on every drive, and drives are
    compared in lower case. -/
inductive Host where
  | posix (umask : ℕ)
  | windows (lower : PyText → PyText) (current : PyText → List PyText)

/-- `ntpath.splitdrive`, of a text without separators. -/
def splitDrive : PyText → Option (PyText × PyText)
  | letter :: colon :: tail => if colon = codePoint ':' then some ([letter, colon], tail) else none
  | _ => none

/-- One part of a `joinpath`. -/
def Host.joinPart (host : Host) (path : HostPath) (part : PyText) : HostPath :=
  match host with
  | .posix _ => path.child part
  | .windows lower current =>
      match splitDrive part with
      | none => path.child part
      | some (drive, tail) =>
          let found := if lower drive = path.anchor.drive then path
            else ⟨⟨lower drive, current (lower drive)⟩, []⟩
          if tail = [] then found else found.child tail

/-- `path.joinpath(*parts)`. -/
def Host.joinpath (host : Host) (path : HostPath) (parts : List PyText) : HostPath :=
  parts.foldl host.joinPart path

def asciiLower (text : PyText) : PyText :=
  text.map fun point => ((CodePoint.char point).map fun c => codePoint c.toLower).getD point

/-- Windows stores no executable bit: a file is shown as executable by its name. -/
def windowsExecutable (name : PyText) : Bool :=
  [pyText ".exe", pyText ".bat", pyText ".cmd", pyText ".com"].any fun ending =>
    ending.isSuffixOf (asciiLower name)

/-- A device of Windows. -/
def windowsDevice (name : PyText) : Bool := (name.mapM CodePoint.char).any namesDevice

/-- The last name of a location. -/
def Location.name (location : Location) : PyText := location.names.headD []

/-- What is opened at the location is a device, and no file. -/
def Host.device (host : Host) (location : Location) : Bool :=
  match host with
  | .posix _ => false
  | .windows _ _ => windowsDevice location.name

/-- The mode of a file opened with one, as the system tells it. -/
def Host.created (host : Host) (location : Location) (mode : ℕ) : ℕ :=
  match host with
  | .posix umask => mode &&& (0o777 ^^^ (umask % 0o1000))
  | .windows _ _ => (if mode &&& 0o200 = 0 then 0o444 else 0o666) |||
      (if windowsExecutable location.name then 0o111 else 0)

def Host.isPosix : Host → Bool
  | .posix _ => true
  | .windows _ _ => false

/-! ### Trees -/

/-- What a location holds. -/
inductive Node where
  | missing
  | directory
  | file (data : List UInt8) (mode : ℕ)
  | other
deriving DecidableEq

/-- A disk: what is not missing is in a directory. -/
structure Tree where
  node : Location → Node
  rooted : ∀ location, node location ≠ .missing → location.names ≠ [] →
    node location.parent = .directory

theorem Location.parent_ne {location : Location} (hnames : location.names ≠ []) :
    location.parent ≠ location := by
  intro hsame
  have hlength := congrArg (fun other : Location => other.names.length) hsame
  have hpos := List.length_pos_of_ne_nil hnames
  simp only [Location.parent, List.length_tail] at hlength
  omega

/-- Something else at a location that is no directory. -/
def Tree.put (tree : Tree) (location : Location) (node : Node)
    (hplace : location.names ≠ [] → tree.node location.parent = .directory)
    (hleaf : tree.node location ≠ .directory) : Tree where
  node := Function.update tree.node location node
  rooted := by
    intro other hother hnames
    by_cases hsame : other = location
    · subst hsame
      rw [Function.update_of_ne (Location.parent_ne hnames)]
      exact hplace hnames
    · rw [Function.update_of_ne hsame] at hother
      have hdirectory := tree.rooted other hother hnames
      have hne : other.parent ≠ location := by
        rintro rfl
        exact hleaf hdirectory
      rw [Function.update_of_ne hne]
      exact hdirectory

/-- A new object, unless there is one or its directory is missing. -/
def Tree.create (tree : Tree) (location : Location) (node : Node) : Except RuntimeFailure Tree :=
  if hfree : tree.node location = .missing then
    if hplace : location.names ≠ [] ∧ tree.node location.parent = .directory then
      .ok (tree.put location node (fun _ => hplace.2) (by rw [hfree]; exact nofun))
    else if location.names = [] ∨ tree.node location.parent = .missing then
      .error (.os .fileNotFound)
    else .error (.os .other)
  else .error (.os .fileExists)

/-- A change of an open file. -/
def Tree.change (tree : Tree) (location : Location)
    (change : List UInt8 → ℕ → List UInt8 × ℕ) : Except RuntimeFailure Tree :=
  match hnode : tree.node location with
  | .file data mode =>
      .ok (tree.put location (.file (change data mode).1 (change data mode).2)
        (fun hnames => tree.rooted location (by rw [hnode]; exact nofun) hnames)
        (by rw [hnode]; exact nofun))
  | _ => .error (.os .other)

/-! ### Calls -/

/-- Where a call is made. -/
inductive RuntimeSite where
  | root
  | mkdir (path : HostPath)
  | mkdirAgain (path : HostPath)
  | isDir (path : HostPath)
  | open (path : HostPath)
  | fdopen (path : HostPath)
  | fchmod (path : HostPath)
  | write (path : HostPath) (remaining : ℕ)
  | close (path : HostPath)
deriving DecidableEq

abbrev RuntimeCall := Run RuntimeSite Tree RuntimeFailure

/-- What needs no call of the system. -/
def settled {α : Type} : Except RuntimeFailure α → RuntimeCall α
  | .ok value => pure value
  | .error failure => Run.raise failure

/-- `except OSError: if not exist_ok or not self.is_dir(): raise`. -/
def unlessDirectory (path : HostPath) (failure : RuntimeFailure) : RuntimeCall Unit :=
  match failure with
  | .os _ => do
      let found ← Run.look (.isDir path) fun tree =>
        .ok (decide (tree.node path.location = .directory))
      if found then pure () else Run.raise failure
  | _ => Run.raise failure

/-- `mkdir(mode=0o700, parents=True, exist_ok=True)`, by the names of the path. -/
def makeDirectories (anchor : Location) : List PyText → RuntimeCall Unit
  | [] =>
      let path : HostPath := ⟨anchor, []⟩
      Run.attempt (Run.act (.mkdir path) fun tree => tree.create path.location .directory)
        fun failure => if failure = .os .fileNotFound then Run.raise failure
          else unlessDirectory path failure
  | name :: above =>
      let path : HostPath := ⟨anchor, name :: above⟩
      Run.attempt (Run.act (.mkdir path) fun tree => tree.create path.location .directory)
        fun failure =>
          if failure = .os .fileNotFound then do
            makeDirectories anchor above
            Run.attempt
              (Run.act (.mkdirAgain path) fun tree => tree.create path.location .directory)
              fun failure => if failure = .os .fileNotFound then Run.raise failure
                else unlessDirectory path failure
          else unlessDirectory path failure

theorem fewer_after_chunk (remaining length : ℕ) :
    remaining + 1 - (length + 1) < remaining + 1 :=
  Nat.sub_lt (Nat.succ_pos _) (Nat.succ_pos _)

/-- The loop of `copy_exact_member`: what is written, and the source behind it.  What a device
    takes is on no disk. -/
def copyChunks (device : Bool) (path : HostPath) (source : Source) :
    ℕ → RuntimeCall (List UInt8 × Source)
  | 0 => pure ([], source)
  | remaining + 1 =>
      match source.read (min readChunkBytes (remaining + 1)) with
      | .error failure => Run.raise failure
      | .ok ([], _) => Run.raise invalid
      | .ok (byte :: chunk, source) => do
          let count ← Run.operation (.write path (remaining + 1)) fun tree =>
            if device then .ok (chunk.length + 1, tree)
            else (tree.change path.location fun data mode => (data ++ byte :: chunk, mode)).map
              fun next => (chunk.length + 1, next)
          if count ≠ chunk.length + 1 then
            Run.raise invalid
          else do
            let (data, source) ← copyChunks device path source (remaining + 1 - (chunk.length + 1))
            pure (byte :: chunk ++ data, source)
termination_by remaining => remaining
decreasing_by exact fewer_after_chunk _ _

/-- `copy_exact_member`. -/
def copyExactMember (sha256 : List UInt8 → PyText) (device : Bool) (path : HostPath)
    (source : Source) (expectedSize : ℕ) : RuntimeCall PyText := do
  let (data, source) ← copyChunks device path source expectedSize
  let (more, _) ← settled (source.read 1)
  if more ≠ [] then Run.raise invalid else pure (sha256 data)

/-- Call the system without an effect on the tree. -/
def touch (site : RuntimeSite) : RuntimeCall Unit := Run.act site fun tree => .ok tree

def executableMode : ℕ := 0o700

def fileMode : ℕ := 0o600

section Extraction

variable (sha256 : List UInt8 → PyText) (host : Host)

/-- `os.fchmod`, where there is one. -/
def setMode (target : HostPath) (mode : ℕ) : RuntimeCall Unit :=
  if host.isPosix then
    Run.act (.fchmod target) fun tree => tree.change target.location fun data _ => (data, mode)
  else pure ()

/-- The body of the `with` statement, and the close behind it. -/
def fillFile (target : HostPath) (mode : ℕ) (content : Source) (size : ℕ) : RuntimeCall PyText :=
  Run.ensuring
    (do
      setMode host target mode
      copyExactMember sha256 (host.device target.location) target content size)
    (touch (.close target))

/-- One file of `materialize_archive`, from its opened content. -/
def writeFile (target : HostPath) (mode : ℕ) (content : Source) (expected : RuntimeEntry) :
    RuntimeCall Unit := do
  makeDirectories target.parent.anchor target.parent.names
  Run.act (.open target) fun tree =>
    if host.device target.location then .ok tree
    else tree.create target.location (.file [] (host.created target.location mode))
  touch (.fdopen target)
  let digest ← fillFile sha256 host target mode content expected.size
  if digest ≠ expected.sha256 then Run.raise invalid else pure ()

/-- The body of the loop of `materialize_archive`. -/
def materializeMember (root : HostPath) (manifest : RuntimeTreeManifest) (bundle : TarFile)
    (members : List ArchiveMember) (member : ArchiveMember) : RuntimeCall Unit := do
  let source ← settled (resolvedMember member.2 members)
  match expectedFile manifest (relativePath member) with
  | none => Run.raise invalid
  | some expected =>
      if source.size ≠ expected.size ∨ isExecutable source.mode ≠ expected.executable then
        Run.raise invalid
      else do
        let extracted ← settled (bundle.extractfile source)
        match extracted with
        | none => Run.raise invalid
        | some content =>
            writeFile sha256 host (host.joinpath root (member.1.parts slash))
              (if isExecutable source.mode then executableMode else fileMode) content expected

/-- `materialize_archive`; `opened` is what `tarfile.open` returns. -/
def materializeArchive (opened : Except RuntimeFailure TarFile) (destination : HostPath)
    (manifest : RuntimeTreeManifest) : RuntimeCall Unit := do
  let root := destination.child (pyText "python")
  Run.act .root fun tree => tree.create root.location .directory
  Run.attempt
    (do
      let bundle ← settled opened
      let members ← settled (validatedArchiveMembers sha256 bundle manifest.excludedBytecode)
      Run.forEach members (materializeMember sha256 host root manifest bundle members))
    fun failure =>
      match failure with
      | .os _ => Run.raise invalid
      | .tar => Run.raise invalid
      | failure => Run.raise failure

end Extraction

end CodexMustWork.PortableRuntime
