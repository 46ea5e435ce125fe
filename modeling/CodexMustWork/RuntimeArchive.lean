import CodexMustWork.JsonDocuments
import CodexMustWork.Library.PosixPaths

/-!
# Members of the runtime archive

`scripts/runtime_archive.py`: which members of the portable runtime's archive are
installed, and where.  The members are validated before the first of them is written;
the pinned bytecode is left out.

`tarfile` and `hashlib` are parameters: a bundle lists its members and opens the content
of one, and a digest is a function of the bytes.
-/

namespace CodexMustWork.PortableRuntime

open PosixPaths

/-! ### Failures -/

/-- The kinds of `OSError` that a caller tells apart. -/
inductive OsErrorKind where
  | fileExists
  | fileNotFound
  | other
deriving DecidableEq, Repr

/-- What leaves a call: an `InstallPluginError`, an `OSError`, a `tarfile.TarError`, or
    another exception. -/
inductive RuntimeFailure where
  | install (reason : String)
  | os (kind : OsErrorKind)
  | tar
  | other (identity : ℕ)
deriving DecidableEq, Repr

/-- `_INVALID`. -/
def invalid : RuntimeFailure := .install "portable_runtime_invalid"

/-! ### Paths -/

def slash : CodePoint := codePoint '/'

def dot : CodePoint := codePoint '.'

def backslash : CodePoint := codePoint '\\'

/-- `PurePosixPath(text)`. -/
def posixPath (text : PyText) : PurePath CodePoint := parse slash dot text

/-- `_normalized`. -/
def normalized (path : PyText) : Bool :=
  path ≠ [] && !path.contains backslash && (posixPath path).slashes == 0 &&
    !((posixPath path).parts slash).contains (pyText "..") &&
    path == (posixPath path).asPosix slash dot

/-! ### Members -/

inductive MemberKind where
  | regular
  | symbolicLink
  | hardLink
  | other
deriving DecidableEq, Repr

/-- `tarfile.TarInfo`. -/
structure TarInfo where
  name : PyText
  kind : MemberKind
  linkname : PyText
  mode : ℤ
  size : ℤ
deriving DecidableEq

def TarInfo.isFile (member : TarInfo) : Bool := member.kind == .regular

def TarInfo.isSym (member : TarInfo) : Bool := member.kind == .symbolicLink

def TarInfo.isLnk (member : TarInfo) : Bool := member.kind == .hardLink

/-- `bool(mode & 0o111)`. -/
def isExecutable (mode : ℤ) : Bool := (mode % 0o1000).toNat &&& 0o111 ≠ 0

/-- What is left of an opened content, and whether reading past it raises. -/
structure Source where
  left : List UInt8
  broken : Bool
deriving DecidableEq

/-- `read`. -/
def Source.read (source : Source) (count : ℕ) : Except RuntimeFailure (List UInt8 × Source) :=
  if source.left.length < count ∧ source.broken then .error .tar
  else .ok (source.left.take count, { source with left := source.left.drop count })

/-- An opened `tarfile.TarFile`. -/
structure TarFile where
  getmembers : Except RuntimeFailure (List TarInfo)
  extractfile : TarInfo → Except RuntimeFailure (Option Source)

/-- A member and its path below `python`. -/
abbrev ArchiveMember := PurePath CodePoint × TarInfo

def relativePath (member : ArchiveMember) : PyText := member.1.asPosix slash dot

/-- The loop of `_structurally_valid_members`; `paths` are the names found so far. -/
def collectMembers (paths : List PyText) : List TarInfo → Except RuntimeFailure (List ArchiveMember)
  | [] => .ok []
  | member :: rest =>
      let parts := (posixPath member.name).parts slash
      if !normalized member.name || parts.length < 2 || parts.head? != some (pyText "python") ||
          paths.contains member.name || !(member.isFile || member.isSym || member.isLnk) then
        .error invalid
      else do
        let members ← collectMembers (member.name :: paths) rest
        return (ofSegments slash dot (parts.drop 1), member) :: members

/-- The proper prefixes of a path, as texts. -/
def properPrefixes (relative : PyText) : List PyText :=
  let parts := relative.splitOn slash
  (List.range' 1 (parts.length - 1)).map fun index => [slash].intercalate (parts.take index)

def structurallyValidMembers (bundle : TarFile) : Except RuntimeFailure (List ArchiveMember) := do
  let infos ← bundle.getmembers
  let members ← collectMembers [] infos
  let relativePaths := members.map relativePath
  if ¬ relativePaths.Nodup ||
      relativePaths.any fun relative => (properPrefixes relative).any relativePaths.contains then
    throw invalid
  else return members

/-- One byte-for-byte pinned archive member omitted from installation. -/
structure ArchiveExclusion where
  path : PyText
  size : ℕ
  sha256 : PyText
  executable : Bool
deriving DecidableEq

def readChunkBytes : ℕ := 64 * 1024

/-- The loop of `_exact_digest`: the bytes digested, and the source behind them. -/
def readExactly (source : Source) : ℕ → Except RuntimeFailure (List UInt8 × Source)
  | 0 => .ok ([], source)
  | remaining + 1 =>
      match source.read (min readChunkBytes (remaining + 1)) with
      | .error failure => .error failure
      | .ok ([], _) => .error invalid
      | .ok (byte :: chunk, source) => do
          let (data, source) ← readExactly source (remaining - chunk.length)
          return (byte :: chunk ++ data, source)
termination_by remaining => remaining

/-- `_exact_digest`. -/
def exactDigest (sha256 : List UInt8 → PyText) (source : Source) (expectedSize : ℕ) :
    Except RuntimeFailure PyText := do
  let (data, source) ← readExactly source expectedSize
  let (more, _) ← source.read 1
  if more ≠ [] then throw invalid else return sha256 data

/-- `expected = {entry.path: entry for entry in exclusions}`. -/
def exclusionAt (exclusions : List ArchiveExclusion) (path : PyText) : Option ArchiveExclusion :=
  exclusions.reverse.find? fun exclusion => exclusion.path == path

/-- The loop of `validated_archive_members`: the included members, and the paths of the
    others. -/
def excludeBytecode (sha256 : List UInt8 → PyText) (bundle : TarFile)
    (exclusions : List ArchiveExclusion) :
    List ArchiveMember → Except RuntimeFailure (List ArchiveMember × List PyText)
  | [] => .ok ([], [])
  | (relative, member) :: rest =>
      if relative.suffix dot ≠ pyText ".pyc" then do
        let (included, observed) ← excludeBytecode sha256 bundle exclusions rest
        return ((relative, member) :: included, observed)
      else
        match exclusionAt exclusions (relative.asPosix slash dot) with
        | none => .error invalid
        | some exclusion =>
            if !member.isFile || member.size != exclusion.size ||
                isExecutable member.mode != exclusion.executable then
              .error invalid
            else do
              let extracted ← bundle.extractfile member
              match extracted with
              | none => throw invalid
              | some source =>
                  let digest ← exactDigest sha256 source exclusion.size
                  if digest ≠ exclusion.sha256 then throw invalid
                  else do
                    let (included, observed) ← excludeBytecode sha256 bundle exclusions rest
                    return (included, exclusion.path :: observed)

def validatedArchiveMembers (sha256 : List UInt8 → PyText) (bundle : TarFile)
    (exclusions : List ArchiveExclusion) : Except RuntimeFailure (List ArchiveMember) := do
  let members ← structurallyValidMembers bundle
  let (included, observed) ← excludeBytecode sha256 bundle exclusions members
  if ¬ (observed ⊆ exclusions.map (·.path) ∧ exclusions.map (·.path) ⊆ observed) then
    throw invalid
  else return included

/-- `resolved_member`. -/
def resolvedMember (member : TarInfo) (members : List ArchiveMember) :
    Except RuntimeFailure TarInfo :=
  if member.isFile then .ok member
  else
    let target := normpath slash dot
      (join slash (dirname slash member.name) [member.linkname])
    match (members.map Prod.snd).reverse.find? fun item => item.name == target with
    | none => .error invalid
    | some resolved => if resolved.isFile then .ok resolved else .error invalid

end CodexMustWork.PortableRuntime
