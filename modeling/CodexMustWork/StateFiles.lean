import CodexMustWork.JsonDocuments
import CodexMustWork.Library.DisturbedRuns
import Mathlib.Data.List.Infix
import Mathlib.Logic.Function.Basic

/-!
# Files of the state root

`scripts/state_io.py`: directories, the write lock and the replacement of a file, which
the documents and the diagnostic log share.  A file is written beside its place and then
takes it.  Every call of the operating system is one operation of a disturbed run, named by
the place it is made from.

Paths are absolute and normalised, as `os.path.abspath` returns them.  An entry that
leads elsewhere is a redirect: a symbolic link, a junction or a reparse point.
-/

namespace CodexMustWork.StateFiles

open DisturbedRuns

/-! ### The disk -/

abbrev StatePath := List String

/-- What a path leads to. -/
inductive Entry where
  | missing
  | directory
  | file (content : List UInt8) (links : ℕ)
  | redirect
  | special
deriving DecidableEq

abbrev Disk := StatePath → Entry

/-- `CorruptReason`. -/
inductive StateReason where
  | invalidJson
  | invalidTopLevel
  | invalidSchema
  | invalidValue
  | reservedSchemaField
deriving DecidableEq, Repr

/-- What leaves a call: an error of the state, of the system, of a diagnostic, of `json`, or
    one that a callback raised. -/
inductive StateFailure where
  | corrupt (path : StatePath) (reason : StateReason)
  | futureSchema (path : StatePath) (found : ℤ)
  | unsafePath (root path : StatePath)
  | lockTimeout (path : StatePath)
  | osError
  | diagnostic (reason : String)
  | unsafeDiagnostic (path : StatePath)
  | json (error : JsonError)
  | raised (identity : ℕ)
deriving DecidableEq

/-- The calls of one load. -/
inductive LoadStep where
  | outer
  | inner
  | stat
  | read
  | again
deriving DecidableEq, Repr

/-- The calls that take the lock. -/
inductive LockStep where
  | open
  | stat
  | chmod
  | fill
  | acquire
deriving DecidableEq, Repr

/-- The calls that make the temporary file. -/
inductive TemporaryStep where
  | create
  | dump
  | sync
  | close
  | chmod
deriving DecidableEq, Repr

/-- The calls of the diagnostic log. -/
inductive LogStep where
  | candidate (path : StatePath)
  | opening
  | locked
  | rotating (path : StatePath)
  | search (path : StatePath)
  | existing
  | unlinkOldest
  | isFile
  | shift
  | retire
deriving DecidableEq, Repr

/-- Where a call is made. -/
inductive Site where
  | outer
  | mkdir (path : StatePath)
  | direct (path : StatePath)
  | chmod (path : StatePath)
  | lock (step : LockStep)
  | inner
  | exists
  | isFile
  | isFileLocked
  | load (step : LoadStep)
  | log (step : LogStep)
  | temporary (step : TemporaryStep)
  | replace
  | discard
  | unlock
deriving DecidableEq, Repr

/-- A call on the persisted state. -/
abbrev Call := Run Site Disk StateFailure

/-- A call of the system whose effect no other call can see. -/
def touch (site : Site) : Call Unit := Run.act site fun disk => .ok disk

/-! ### Paths -/

/-- The paths from the root down to the path. -/
def components (root path : StatePath) : List StatePath := path.inits.drop root.length

/-- `path.with_name`. -/
def sibling (path : StatePath) (rename : String → String) : StatePath :=
  path.dropLast ++ [rename (path.getLastD "")]

def lockPath (path : StatePath) : StatePath := sibling path fun name => "." ++ name ++ ".lock"

/-- The name of a temporary file, with the characters the system draws for it. -/
def temporaryPath (token : String) (path : StatePath) : StatePath :=
  sibling path fun name => "." ++ name ++ "." ++ token ++ ".tmp"

/-! ### Directories, the lock and replacement -/

section Functions

variable (token : String) (path : StatePath)

/-- One directory on the way to a state file. -/
def makeDirectory (directory : StatePath) : Call Unit :=
  Run.act (.mkdir directory) fun disk =>
    match disk directory with
    | .missing => .ok (Function.update disk directory .directory)
    | .directory => .ok disk
    | .redirect => .ok disk
    | _ => .error .osError

/-- `ExclusiveWriteLock.__enter__`. -/
def acquireLock : Call Unit := do
  let lock := lockPath path
  Run.attempt (Run.act (.lock .open) fun disk =>
    match disk lock with
    | .missing => .ok (Function.update disk lock (.file [] 1))
    | .file _ _ => .ok disk
    | _ => .error .osError) fun error =>
      Run.raise (match error with
        | .osError => .unsafePath path.dropLast lock
        | error => error)
  Run.look (.lock .stat) fun disk =>
    match disk lock with
    | .file _ links => if links = 1 then .ok () else .error (.unsafePath path.dropLast lock)
    | _ => .error (.unsafePath path.dropLast lock)
  touch (.lock .chmod)
  Run.act (.lock .fill) fun disk =>
    match disk lock with
    | .file content links =>
        if content = [] then .ok (Function.update disk lock (.file [0] links))
        else .ok disk
    | _ => .error .osError
  touch (.lock .acquire)

/-- `with ExclusiveWriteLock(path)`. -/
def withLock {α : Type} (body : Call α) : Call α := do
  acquireLock path
  Run.ensuring body (touch .unlock)

/-- `temporary_path.unlink(missing_ok=True)`; the name is gone once it was replaced. -/
def discard (temporary : StatePath) : Call Unit := fun weather disk =>
  if disk temporary = .missing then .returned () disk
  else Run.act .discard (fun disk => .ok (Function.update disk temporary .missing)) weather disk

/-- A new file under a name that no other file has. -/
def makeTemporary (temporary : StatePath) : Call Unit :=
  Run.act (.temporary .create) fun disk =>
    match disk temporary with
    | .missing => .ok (Function.update disk temporary (.file [] 1))
    | _ => .error .osError

/-- The content is written to the temporary file, which takes the place of the file. -/
def fillAndReplace (temporary : StatePath) (content : Except StateFailure (List UInt8)) :
    Call Unit := do
  Run.act (.temporary .dump) fun disk =>
    content.map fun bytes => Function.update disk temporary (.file bytes 1)
  touch (.temporary .sync)
  touch (.temporary .close)
  touch (.temporary .chmod)
  Run.act .replace fun disk =>
    if disk path = .directory then .error .osError
    else .ok (Function.update (Function.update disk path (disk temporary)) temporary .missing)

/-- Flush to a temporary file in the same directory, then replace atomically. -/
def replaceFile (content : Except StateFailure (List UInt8)) : Call Unit := do
  let temporary := temporaryPath token path
  makeTemporary temporary
  Run.ensuring (fillAndReplace path temporary content) (discard temporary)

end Functions

section Results

variable {weather : Disturbance Site Disk StateFailure} {token : String} {path : StatePath}

/-! ### Names -/

theorem sibling_ne {rename : String → String} (hrename : ∀ name, rename name ≠ name)
    (path : StatePath) : sibling path rename ≠ path := by
  unfold sibling
  rcases List.eq_nil_or_concat path with rfl | ⟨before, name, rfl⟩
  · simp
  · rw [List.concat_eq_append, List.dropLast_concat, List.getLastD_concat]
    intro hsame
    exact hrename name (List.singleton_inj.mp (List.append_cancel_left hsame))

theorem lockPath_ne (path : StatePath) : lockPath path ≠ path := by
  refine sibling_ne ?_ path
  intro name hsame
  have hlength := congrArg String.length hsame
  simp only [String.length_append] at hlength
  have hdot : ".".length = 1 := rfl
  omega

theorem temporaryPath_ne (token : String) (path : StatePath) : temporaryPath token path ≠ path := by
  refine sibling_ne ?_ path
  intro name hsame
  have hlength := congrArg String.length hsame
  simp only [String.length_append] at hlength
  have hdot : ".".length = 1 := rfl
  omega

theorem lockPath_ne_temporaryPath (token : String) (path : StatePath) :
    lockPath path ≠ temporaryPath token path := by
  intro hsame
  have hnames := List.singleton_inj.mp (List.append_cancel_left hsame)
  have hlast := congrArg (fun name => name.toList.reverse) hnames
  simp [String.toList_append] at hlast

/-! ### What a change leaves alone -/

/-- A file, a directory or nothing at this path does not touch the condition. -/
def Spares (inv : Disk → Prop) (changed : StatePath) : Prop :=
  ∀ disk entry, entry ≠ .redirect → inv disk → inv (Function.update disk changed entry)

/-- The path leads to this entry. -/
def At (path : StatePath) (entry : Entry) (disk : Disk) : Prop := disk path = entry

theorem at_spares {entry : Entry} {changed : StatePath} (hne : changed ≠ path) :
    Spares (At path entry) changed := by
  intro disk other _ hat
  unfold At
  rw [Function.update_of_ne (Ne.symm hne)]
  exact hat

theorem Spares.and {inv other : Disk → Prop} {changed : StatePath} (hinv : Spares inv changed)
    (hother : Spares other changed) : Spares (fun disk => inv disk ∧ other disk) changed :=
  fun disk entry hentry hboth => ⟨hinv disk entry hentry hboth.1, hother disk entry hentry hboth.2⟩

variable {inv : Disk → Prop}

theorem touch_keeps (hsolitary : weather.Solitary) {site : Site} : Keeps weather inv (touch site) :=
  Keeps.act hsolitary fun disk next hstate hnext => by
    cases hnext
    exact hstate

theorem makeDirectory_keeps (hsolitary : weather.Solitary) {directory : StatePath}
    (hspares : Spares inv directory) : Keeps weather inv (makeDirectory directory) := by
  refine Keeps.act hsolitary fun disk next hstate hnext => ?_
  split at hnext
  · cases hnext
    exact hspares disk _ (by simp) hstate
  · cases hnext
    exact hstate
  · cases hnext
    exact hstate
  · cases hnext

theorem acquireLock_keeps (hsolitary : weather.Solitary) (hspares : Spares inv (lockPath path)) :
    Keeps weather inv (acquireLock path) := by
  refine Keeps.bind (Keeps.attempt (Keeps.act hsolitary ?_) fun _ => Keeps.raise) fun _ => ?_
  · intro disk next hstate hnext
    split at hnext
    · cases hnext
      exact hspares disk _ (by simp) hstate
    · cases hnext
      exact hstate
    · cases hnext
  · refine Keeps.bind (Keeps.look hsolitary) fun _ => ?_
    refine Keeps.bind (touch_keeps hsolitary) fun _ => ?_
    refine Keeps.bind (Keeps.act hsolitary ?_) fun _ => touch_keeps hsolitary
    intro disk next hstate hnext
    split at hnext
    · split at hnext
      · cases hnext
        exact hspares disk _ (by simp) hstate
      · cases hnext
        exact hstate
    · cases hnext

theorem discard_keeps (hsolitary : weather.Solitary) {temporary : StatePath}
    (hspares : Spares inv temporary) : Keeps weather inv (discard temporary) := by
  intro disk hdisk
  unfold discard
  split
  · exact hdisk
  · refine Keeps.act hsolitary ?_ disk hdisk
    intro state next hstate hnext
    cases hnext
    exact hspares state _ (by simp) hstate

/-- Once the temporary name is gone there is nothing to remove. -/
theorem discard_gone {temporary : StatePath} {post : Post Disk StateFailure Unit} {pre : Disk → Prop}
    (hgone : ∀ disk, pre disk → disk temporary = .missing)
    (hreturned : ∀ disk, pre disk → post.returned () disk) :
    Triple weather pre (discard temporary) post := by
  intro disk hdisk
  unfold discard
  rw [if_pos (hgone disk hdisk)]
  exact hreturned disk hdisk

/-! ### Under the lock -/

theorem unlock_triple (hsolitary : weather.Solitary) :
    Triple weather inv (touch .unlock)
      ⟨fun _ => inv, fun _ disk => inv disk ∧ (weather.fault .unlock).isSome, inv⟩ := by
  unfold touch Run.act
  refine Triple.operation (fun _ _ => id) ?_ ?_
  · intro error hfault disk hdisk
    rw [hsolitary, hfault]
    exact ⟨hdisk, rfl⟩
  · intro _ disk hdisk
    rw [hsolitary]
    exact hdisk

/-- Under the lock: besides what the body raises, releasing the lock can fail. -/
theorem withLock_triple {α : Type} {body : Call α} {returned : α → Disk → Prop}
    {raised crashed : Disk → Prop} (hsolitary : weather.Solitary)
    (hbody : Triple weather inv body ⟨returned, fun _ => raised, crashed⟩)
    (hspares : Spares inv (lockPath path)) (hinv : ∀ disk, inv disk → raised disk)
    (hraised : ∀ disk, raised disk → crashed disk)
    (hreturned : ∀ value disk, returned value disk → crashed disk) :
    Triple weather inv (withLock path body)
      ⟨returned, fun _ disk => raised disk ∨
          (weather.fault .unlock).isSome ∧ ∃ value, returned value disk, crashed⟩ := by
  refine Triple.bind (?_ : Triple weather _ _ ⟨fun _ => inv, _, _⟩) fun _ => ?_
  · exact (acquireLock_keeps hsolitary hspares).weaken (fun _ => id) (fun _ _ => id)
      (fun _ disk hdisk => Or.inl (hinv disk hdisk)) fun disk hdisk => hraised disk (hinv disk hdisk)
  · refine Triple.ensuring hbody (fun value => ?_) fun _ => ?_
    · refine (unlock_triple hsolitary).weaken (fun _ => id) (fun _ _ => id) ?_ (hreturned value)
      rintro error disk ⟨hdisk, hfault⟩
      exact Or.inr ⟨hfault, value, hdisk⟩
    · exact (unlock_triple hsolitary).weaken (fun _ => id) (fun _ _ => Or.inl)
        (fun _ _ hboth => Or.inl hboth.1) hraised

section Replacement

variable {content : Except StateFailure (List UInt8)} {entry : Entry}

/-- The file holds the content. -/
def Holds (content : Except StateFailure (List UInt8)) (path : StatePath) (disk : Disk) : Prop :=
  ∃ bytes, content = .ok bytes ∧ disk path = .file bytes 1

/-- The steps between the temporary file and the replacement. -/
structure Staged (inv : Disk → Prop) (path : StatePath) (token : String) (entry staged : Entry)
    (disk : Disk) : Prop where
  inv : inv disk
  entry : disk path = entry
  staged : disk (temporaryPath token path) = staged

theorem Staged.fill (hspares : Spares inv (temporaryPath token path)) {staged : Entry} {disk : Disk}
    (hstaged : Staged inv path token entry staged disk) {other : Entry} (hother : other ≠ .redirect) :
    Staged inv path token entry other (Function.update disk (temporaryPath token path) other) :=
  ⟨hspares disk other hother hstaged.inv,
    at_spares (temporaryPath_ne token path) disk other hother hstaged.entry,
    Function.update_self _ _ _⟩

theorem makeTemporary_triple (hsolitary : weather.Solitary)
    (hspares : Spares inv (temporaryPath token path)) {post : Post Disk StateFailure Unit}
    (hraised : ∀ error disk, inv disk ∧ At path entry disk → post.raised error disk)
    (hcrashed : ∀ disk, inv disk ∧ At path entry disk → post.crashed disk) :
    Triple weather (fun disk => inv disk ∧ At path entry disk)
      (makeTemporary (temporaryPath token path))
      ⟨fun _ => Staged inv path token entry (.file [] 1), post.raised, post.crashed⟩ := by
  refine Triple.act_alone hsolitary hcrashed hraised ?_
  rintro disk next ⟨hinv, hat⟩ hnext
  split at hnext
  · cases hnext
    exact Staged.fill hspares ⟨hinv, hat, rfl⟩ (by simp)
  · cases hnext

/-- The temporary file holds the content. -/
def Filled (inv : Disk → Prop) (path : StatePath) (token : String)
    (content : Except StateFailure (List UInt8)) (entry : Entry) (disk : Disk) : Prop :=
  ∃ bytes, content = .ok bytes ∧ Staged inv path token entry (.file bytes 1) disk

/-- Up to the replacement the file is as before, and it is replaced at once. -/
theorem fillAndReplace_triple (hsolitary : weather.Solitary)
    (hspares : Spares inv (temporaryPath token path)) (hreplaced : Spares inv path)
    {empty : Entry} :
    Triple weather (Staged inv path token entry empty)
      (fillAndReplace path (temporaryPath token path) content)
      ⟨fun _ disk => (inv disk ∧ Holds content path disk) ∧
          disk (temporaryPath token path) = .missing,
        fun _ disk => inv disk ∧ At path entry disk,
        fun disk => inv disk ∧ (At path entry disk ∨ Holds content path disk)⟩ := by
  have hat : ∀ disk, Filled inv path token content entry disk → inv disk ∧ At path entry disk := by
    rintro disk ⟨bytes, -, hstaged⟩
    exact ⟨hstaged.inv, hstaged.entry⟩
  have hcrashed : ∀ disk, Filled inv path token content entry disk →
      inv disk ∧ (At path entry disk ∨ Holds content path disk) := by
    intro disk hfilled
    exact ⟨(hat disk hfilled).1, Or.inl (hat disk hfilled).2⟩
  have htouch : ∀ site, Triple weather (Filled inv path token content entry) (touch site)
      ⟨fun _ => Filled inv path token content entry, fun _ disk => inv disk ∧ At path entry disk,
        fun disk => inv disk ∧ (At path entry disk ∨ Holds content path disk)⟩ := fun site =>
    (touch_keeps hsolitary).weaken (fun _ => id) (fun _ _ => id) (fun _ => hat) hcrashed
  refine Triple.bind (?_ : Triple weather _ _
    ⟨fun _ => Filled inv path token content entry, _, _⟩) fun _ => ?_
  · refine Triple.act_alone hsolitary ?_ ?_ ?_
    · intro disk hstaged
      exact ⟨hstaged.inv, Or.inl hstaged.entry⟩
    · intro error disk hstaged
      exact ⟨hstaged.inv, hstaged.entry⟩
    · intro disk next hstaged hnext
      cases hcontent : content with
      | error error =>
        rw [hcontent] at hnext
        cases hnext
      | ok bytes =>
        rw [hcontent] at hnext
        cases hnext
        exact ⟨bytes, rfl, hstaged.fill hspares (by simp)⟩
  refine Triple.bind (htouch _) fun _ => Triple.bind (htouch _) fun _ => ?_
  refine Triple.bind (htouch _) fun _ => ?_
  refine Triple.act_alone hsolitary hcrashed (fun _ => hat) ?_
  rintro disk next ⟨bytes, hcontent, hstaged⟩ hnext
  split at hnext
  · cases hnext
  · cases hnext
    have hne := temporaryPath_ne token path
    rw [hstaged.staged]
    refine ⟨⟨hspares _ _ (by simp) (hreplaced _ _ (by simp) hstaged.inv), bytes, hcontent, ?_⟩, ?_⟩
    · rw [Function.update_of_ne (Ne.symm hne), Function.update_self]
    · exact Function.update_self _ _ _

theorem replaceFile_triple (hsolitary : weather.Solitary)
    (hspares : Spares inv (temporaryPath token path)) (hreplaced : Spares inv path) :
    Triple weather (fun disk => inv disk ∧ At path entry disk) (replaceFile token path content)
      ⟨fun _ disk => inv disk ∧ Holds content path disk,
        fun _ disk => inv disk ∧ At path entry disk,
        fun disk => inv disk ∧ (At path entry disk ∨ Holds content path disk)⟩ := by
  have hleft : ∀ disk, inv disk ∧ At path entry disk →
      inv disk ∧ (At path entry disk ∨ Holds content path disk) := fun disk hboth =>
    ⟨hboth.1, Or.inl hboth.2⟩
  refine Triple.bind (makeTemporary_triple hsolitary hspares (fun _ _ => id) hleft) fun _ => ?_
  refine Triple.ensuring (fillAndReplace_triple hsolitary hspares hreplaced) (fun _ => ?_)
    fun _ => ?_
  · exact discard_gone (fun disk hdisk => hdisk.2) fun disk hdisk => hdisk.1
  · have hat : Spares (At path entry) (temporaryPath token path) :=
      at_spares (temporaryPath_ne token path)
    exact (discard_keeps hsolitary (hspares.and hat)).weaken (fun _ => id) (fun _ _ => id) (fun _ _ => id) hleft

end Replacement

/-! ### Calls that go through -/

theorem touch_returns {site : Site} : Returns inv (touch site) fun _ => inv :=
  Returns.act fun disk hdisk => ⟨disk, rfl, hdisk⟩

/-- Over a free temporary name the file is replaced. -/
theorem replaceFile_returns {bytes : List UInt8} :
    Returns (fun disk => disk (temporaryPath token path) = .missing ∧ disk path ≠ .directory)
      (replaceFile token path (.ok bytes)) fun _ _ => True := by
  have hne := temporaryPath_ne token path
  refine Triple.bind (?_ : Triple _ _ _ ⟨fun _ disk => disk path ≠ .directory, _, _⟩) fun _ => ?_
  · refine Returns.act fun disk hfree => ?_
    rw [hfree.1]
    refine ⟨_, rfl, ?_⟩
    rw [Function.update_of_ne (Ne.symm hne)]
    exact hfree.2
  refine Triple.ensuring (?_ : Triple _ _ _
    ⟨fun _ disk => disk (temporaryPath token path) = .missing, fun _ _ => False, _⟩)
    (fun _ => discard_gone (fun _ => id) fun _ _ => trivial) fun _ _ hfalse => hfalse.elim
  refine Triple.bind (?_ : Triple _ _ _ ⟨fun _ disk => disk path ≠ .directory, _, _⟩) fun _ => ?_
  · refine Returns.act fun disk hdisk => ?_
    refine ⟨Function.update disk (temporaryPath token path) (.file bytes 1), rfl, ?_⟩
    rw [Function.update_of_ne (Ne.symm hne)]
    exact hdisk
  refine Triple.bind touch_returns fun _ => Triple.bind touch_returns fun _ => ?_
  refine Triple.bind touch_returns fun _ => Returns.act fun disk hdisk => ?_
  rw [if_neg hdisk]
  exact ⟨_, rfl, Function.update_self _ _ _⟩

end Results

end CodexMustWork.StateFiles
