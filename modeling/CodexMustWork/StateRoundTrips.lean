import CodexMustWork.StatePersistence

/-!
# State round trips

A document that was written is read back as it was left, and a call that fails before its
write leaves the document as it was.  Wherever the process dies, the document is the one
before or the whole one after.
-/

namespace CodexMustWork.StatePersistence

open DisturbedRuns StateFiles

variable {weather : Disturbance Site Disk StateFailure} {codec : JsonCodec} {token : String}
  {root path : StatePath}

/-! ### Paths -/

/-- No path from the root down leads elsewhere. -/
def Direct (root path : StatePath) (disk : Disk) : Prop :=
  ∀ current ∈ components root path, disk current ≠ .redirect

section Frames

variable {entry : Entry}

end Frames

/-! ### Writing -/

section Writing

variable {version : ℤ} {values : PyDict} {entry : Entry}

/-- The document is what a write of the values leaves. -/
def Written (codec : JsonCodec) (path : StatePath) (version : ℤ) (values : PyDict) :
    Disk → Prop :=
  Holds (renderState codec version values) path

end Writing

/-! ### Saving -/

/-- The path is below the root. -/
def Inside (root path : StatePath) : Prop := path ≠ root ∧ root <+: path

section Mutating

variable {α : Type} {entry : Entry}

/-- What a mutation has left of a document: the values of the mutator are written, or they
    equal those that were found. -/
structure Left (codec : JsonCodec) (root path : StatePath) (entry : Entry)
    (original left : PyDict) (disk : Disk) : Prop where
  inside : Inside root path
  direct : Direct root path disk
  parsed : ∃ content, entry = .file content 1 ∧ parseState codec path content = .ok original
  document : PyValue.eq (.dict left) (.dict original) = true ∧ At path entry disk ∨
    Written codec path 1 left disk

variable {mutator : PyDict → Except StateFailure (PyDict × α)} {afterCommit : Option (Call Unit)}
  {raised crashed : Disk → Prop}

end Mutating

/-! ### Calls that go through -/

section Returning

variable {entry : Entry}

/-- Nothing stands in the way of a write: the directories are there or can be made, the lock
    and the temporary name are free. -/
structure Ready (path : StatePath) (token : String) (entry : Entry) (disk : Disk) : Prop where
  directories : ∀ current, current <+: path → current ≠ path →
    disk current = .missing ∨ disk current = .directory
  entry : disk path = entry
  lock : disk (lockPath path) = .missing ∨ ∃ content, disk (lockPath path) = .file content 1
  temporary : disk (temporaryPath token path) = .missing

theorem sibling_ne_leading (path : StatePath) {rename : String → String} {current : StatePath}
    (hleading : current <+: path) (hne : current ≠ path) : current ≠ sibling path rename := by
  rintro rfl
  have hlength := hleading.length_le
  rcases List.eq_nil_or_concat path with rfl | ⟨before, name, rfl⟩
  · simp [sibling] at hlength
  · refine hne (hleading.eq_of_length ?_)
    simp [sibling, List.concat_eq_append]

theorem Ready.makeDirectory {disk : Disk} (hready : Ready path token entry disk)
    {current : StatePath} (hleading : current <+: path) (hne : current ≠ path) :
    Ready path token entry (Function.update disk current .directory) := by
  refine ⟨?_, ?_, ?_, ?_⟩
  · intro other hother hshort
    by_cases hsame : other = current
    · rw [hsame, Function.update_self]
      exact Or.inr rfl
    · rw [Function.update_of_ne hsame]
      exact hready.directories other hother hshort
  · rw [Function.update_of_ne (Ne.symm hne)]
    exact hready.entry
  · rw [lockPath, Function.update_of_ne (Ne.symm (sibling_ne_leading path hleading hne))]
    exact hready.lock
  · rw [temporaryPath, Function.update_of_ne (Ne.symm (sibling_ne_leading path hleading hne))]
    exact hready.temporary

theorem Ready.setLock {disk : Disk} (hready : Ready path token entry disk) (content : List UInt8) :
    Ready path token entry (Function.update disk (lockPath path) (.file content 1)) := by
  refine ⟨?_, ?_, Or.inr ⟨content, Function.update_self _ _ _⟩, ?_⟩
  · intro other hother hshort
    rw [lockPath, Function.update_of_ne (sibling_ne_leading path hother hshort)]
    exact hready.directories other hother hshort
  · rw [Function.update_of_ne (Ne.symm (lockPath_ne path))]
    exact hready.entry
  · rw [Function.update_of_ne (Ne.symm (lockPath_ne_temporaryPath token path))]
    exact hready.temporary

theorem makeDirectory_returns {current : StatePath} (hleading : current <+: path)
    (hne : current ≠ path) :
    Returns (Ready path token entry) (makeDirectory current) fun _ => Ready path token entry := by
  refine Returns.act fun disk hready => ?_
  rcases hready.directories current hleading hne with hmissing | hdirectory
  · rw [hmissing]
    exact ⟨_, rfl, hready.makeDirectory hleading hne⟩
  · rw [hdirectory]
    exact ⟨disk, rfl, hready⟩

theorem Ready.direct {disk : Disk} (hready : Ready path token entry disk)
    (hentry : entry ≠ .redirect) : Direct root path disk := by
  intro current hcurrent
  have hleading := (List.mem_inits _ _).mp (List.mem_of_mem_drop hcurrent)
  by_cases hsame : current = path
  · rw [hsame, hready.entry]
    exact hentry
  · rcases hready.directories current hleading hsame with hmissing | hdirectory
    · rw [hmissing]
      simp
    · rw [hdirectory]
      simp

/-- The lock is taken. -/
def Locked (path : StatePath) (token : String) (entry : Entry) (disk : Disk) : Prop :=
  Ready path token entry disk ∧ ∃ content, disk (lockPath path) = .file content 1

theorem acquireLock_returns :
    Returns (Ready path token entry) (acquireLock path) fun _ => Ready path token entry := by
  refine Triple.bind (?_ : Triple _ _ _ ⟨fun _ => Locked path token entry, _, _⟩) fun _ => ?_
  · refine Triple.attempt_safe (Returns.act fun disk hready => ?_)
    rcases hready.lock with hmissing | ⟨content, hfile⟩
    · rw [hmissing]
      exact ⟨_, rfl, hready.setLock _, _, Function.update_self _ _ _⟩
    · rw [hfile]
      exact ⟨disk, rfl, hready, content, hfile⟩
  refine Triple.bind (?_ : Triple _ _ _ ⟨fun _ => Locked path token entry, _, _⟩) fun _ => ?_
  · refine Returns.look fun disk hlocked => ?_
    obtain ⟨content, hfile⟩ := hlocked.2
    rw [hfile]
    exact ⟨(), rfl, hlocked⟩
  refine Triple.bind touch_returns fun _ => ?_
  refine Triple.bind (?_ : Triple _ _ _ ⟨fun _ => Ready path token entry, _, _⟩)
    fun _ => touch_returns
  refine Returns.act fun disk hlocked => ?_
  obtain ⟨hready, content, hfile⟩ := hlocked
  rw [hfile]
  by_cases hempty : content = []
  · exact ⟨_, if_pos hempty, hready.setLock _⟩
  · exact ⟨disk, if_neg hempty, hready⟩

end Returning

/-! ### The commit step -/

section Alike

variable {α : Type} {mutator : PyDict → Except StateFailure (PyDict × α)}

end Alike

/-! ### State that does not load -/

section Protected

variable {entry : Entry}

end Protected

/-! ### Persistence -/

/-- The values of a mutator are in the document, or it is as before. -/
def Whole (codec : JsonCodec) (path : StatePath) (entry : Entry) (disk : Disk) : Prop :=
  At path entry disk ∨ ∃ left, Written codec path 1 left disk

end CodexMustWork.StatePersistence
