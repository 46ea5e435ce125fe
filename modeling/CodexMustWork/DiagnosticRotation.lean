import CodexMustWork.DiagnosticLines

/-!
# Rotation of the diagnostic log

The log as three slots of events, what one call does to the slots, and that the files show
the slots after every call, also after one that failed or died at any file operation.
-/

namespace CodexMustWork.MonitorDiagnostics

open DisturbedRuns StateFiles

/-! ### Slots -/

/-- The events of the current file and of the two backups. -/
structure Log where
  current : Option (List Event)
  first : Option (List Event)
  second : Option (List Event)
deriving DecidableEq

def Log.files (log : Log) : List (Option (List Event)) := [log.current, log.first, log.second]

/-- The retained events, the oldest first. -/
def Log.events (log : Log) : List Event :=
  log.second.getD [] ++ log.first.getD [] ++ log.current.getD []

/-- What stands on the disk for a slot. -/
def slotEntry : Option (List Event) → Entry
  | none => .missing
  | some events => .file (encodeAll events) 1

/-- The three files are the three slots. -/
structure Shows (root : StatePath) (log : Log) (disk : Disk) : Prop where
  current : disk (logPath root) = slotEntry log.current
  first : disk (backupPath (logPath root) 1) = slotEntry log.first
  second : disk (backupPath (logPath root) 2) = slotEntry log.second

/-- Every file is at most this long. -/
def Log.Bounded (maxBytes : ℤ) (log : Log) : Prop :=
  ∀ events, some events ∈ log.files → ((encodeAll events).length : ℤ) ≤ maxBytes

/-- The identities of the log. -/
def Log.identities (log : Log) : List Sha256 := log.events.filterMap Event.eventId

/-- The log has an event with the identity of this one. -/
def Log.Retains (log : Log) (event : Event) : Prop :=
  ∃ eventId, event.eventId = some eventId ∧ eventId ∈ log.identities

/-- The line does not fit behind the current file. -/
def Log.Full (maxBytes : ℤ) (log : Log) (event : Event) : Prop :=
  maxBytes < ((encodeAll (log.current.getD [])).length + (encode event).length : ℕ)

/-- What one call does to the slots, up to where it was cut off; whether the event is written. -/
inductive Step (maxBytes : ℤ) (event : Event) (log : Log) : Log → Bool → Prop
  | kept : Step maxBytes event log log false
  | appended (hfresh : ¬ log.Retains event) (hfits : ¬ log.Full maxBytes event) :
      Step maxBytes event log { log with current := some (log.current.getD [] ++ [event]) } true
  | dropped (hfresh : ¬ log.Retains event) (hfull : log.Full maxBytes event) :
      Step maxBytes event log { log with second := none } false
  | shifted (hfresh : ¬ log.Retains event) (hfull : log.Full maxBytes event) :
      Step maxBytes event log ⟨log.current, none, log.first⟩ false
  | retired (hfresh : ¬ log.Retains event) (hfull : log.Full maxBytes event) :
      Step maxBytes event log ⟨none, log.current, log.first⟩ false
  | rotated (hfresh : ¬ log.Retains event) (hfull : log.Full maxBytes event)
      (hsmall : ((encode event).length : ℤ) ≤ maxBytes) :
      Step maxBytes event log ⟨some [event], log.current, log.first⟩ true

/-! ### Paths -/

theorem sibling_logPath (root : StatePath) (rename : String → String) :
    sibling (logPath root) rename = logsPath root ++ [rename "diagnostic.jsonl"] := by
  unfold sibling logPath
  rw [List.dropLast_concat, List.getLastD_concat]

theorem length_logPaths {root path : StatePath} (hpath : path ∈ logPaths (logPath root)) :
    path.length = (logsPath root).length + 1 := by
  unfold logPaths backupPath at hpath
  rw [sibling_logPath, sibling_logPath] at hpath
  simp only [List.mem_cons, List.not_mem_nil, or_false] at hpath
  rcases hpath with rfl | rfl | rfl <;> simp [logPath]

/-- Lead by a dot, a name is none of the three files. -/
theorem dotted_notMem (root : StatePath) {rename : String → String}
    (hdot : (rename "diagnostic.jsonl").toList.head? = some '.') :
    sibling (logPath root) rename ∉ logPaths (logPath root) := by
  unfold logPaths backupPath
  rw [sibling_logPath, sibling_logPath, sibling_logPath]
  simp only [List.mem_cons, List.not_mem_nil, or_false, logPath, List.append_cancel_left_eq,
    List.singleton_inj]
  rintro (hname | hname | hname) <;>
    · rw [hname] at hdot
      exact absurd hdot (by decide)

theorem lockPath_notMem (root : StatePath) : lockPath (logPath root) ∉ logPaths (logPath root) :=
  dotted_notMem root rfl

theorem temporaryPath_notMem (token : String) (root : StatePath) :
    temporaryPath token (logPath root) ∉ logPaths (logPath root) := by
  refine dotted_notMem root ?_
  simp [String.toList_append]

theorem directory_notMem {root directory : StatePath} (hdirectory : directory ∈ (logsPath root).inits) :
    directory ∉ logPaths (logPath root) := by
  intro hpath
  have hlength := (List.mem_inits _ _).mp hdirectory |>.length_le
  rw [length_logPaths hpath] at hlength
  omega

theorem logPath_ne_backupPath (root : StatePath) (index : ℕ) :
    logPath root ≠ backupPath (logPath root) index := by
  intro hsame
  refine sibling_ne ?_ (logPath root) hsame.symm
  intro name hname
  have hlength := congrArg String.length hname
  simp only [String.length_append] at hlength
  have hdot : ".".length = 1 := rfl
  omega

theorem backupPath_ne (root : StatePath) :
    backupPath (logPath root) 1 ≠ backupPath (logPath root) 2 := by
  unfold backupPath
  rw [sibling_logPath, sibling_logPath]
  intro hsame
  exact absurd (List.singleton_inj.mp (List.append_cancel_left hsame)) (by decide)

/-! ### What the files show -/

/-- The backups are these. -/
structure Backups (root : StatePath) (first second : Option (List Event)) (disk : Disk) : Prop where
  first : disk (backupPath (logPath root) 1) = slotEntry first
  second : disk (backupPath (logPath root) 2) = slotEntry second

section Spared

variable {root changed : StatePath} {log : Log}

theorem backups_spares {first second : Option (List Event)}
    (hfirst : changed ≠ backupPath (logPath root) 1)
    (hsecond : changed ≠ backupPath (logPath root) 2) :
    Spares (Backups root first second) changed := by
  intro disk entry hentry hbackups
  exact ⟨at_spares hfirst disk entry hentry hbackups.first,
    at_spares hsecond disk entry hentry hbackups.second⟩

theorem Shows.backups {disk : Disk} (hshows : Shows root log disk) :
    Backups root log.first log.second disk := ⟨hshows.first, hshows.second⟩

theorem Backups.shows {first second current : Option (List Event)} {disk : Disk}
    (hbackups : Backups root first second disk)
    (hcurrent : disk (logPath root) = slotEntry current) :
    Shows root ⟨current, first, second⟩ disk := ⟨hcurrent, hbackups.first, hbackups.second⟩

theorem shows_spares (hchanged : changed ∉ logPaths (logPath root)) :
    Spares (Shows root log) changed := by
  unfold logPaths at hchanged
  simp only [List.mem_cons, List.not_mem_nil, or_false, not_or] at hchanged
  obtain ⟨hcurrent, hfirst, hsecond⟩ := hchanged
  intro disk entry hentry hshows
  exact (backups_spares hfirst hsecond disk entry hentry hshows.backups).shows
    (at_spares hcurrent disk entry hentry hshows.current)

end Spared

/-! ### Reading -/

section Calls

variable {weather : Disturbance Site Disk StateFailure} {root : StatePath} {log : Log}
  {maxBytes : ℤ} {event : Event} {inv : Disk → Prop}

theorem ensureDirectFile_keeps (hsolitary : weather.Solitary) {site : LogStep} {path : StatePath} :
    Keeps weather inv (ensureDirectFile site path) :=
  Keeps.look hsolitary

theorem diagnosticPath_keeps (hsolitary : weather.Solitary) :
    Keeps weather (Shows root log) (diagnosticPath root) := by
  refine Keeps.bind (Keeps.forEach fun _ _ => Keeps.look hsolitary) fun _ => ?_
  refine Keeps.bind (Keeps.forEach fun directory hdirectory => ?_) fun _ => ?_
  · exact makeDirectory_keeps hsolitary (shows_spares (directory_notMem hdirectory))
  · refine Keeps.bind (touch_keeps hsolitary) fun _ => ?_
    exact Keeps.bind (touch_keeps hsolitary) fun _ => ensureDirectFile_keeps hsolitary

/-- Whole lines are read as they are. -/
theorem completeBytes_triple (hsolitary : weather.Solitary) {site : LogStep} {path : StatePath}
    {slot : Option (List Event)} (hslot : ∀ disk, inv disk → disk path = slotEntry slot) :
    Triple weather inv (completeBytes site path maxBytes)
      ⟨fun content disk => inv disk ∧ content = encodeAll (slot.getD []), fun _ => inv, inv⟩ := by
  refine Triple.look_alone hsolitary (fun _ => id) (fun _ _ => id) ?_
  intro content disk hinv hcontent
  refine ⟨hinv, ?_⟩
  rw [hslot disk hinv] at hcontent
  cases slot with
  | none =>
    cases hcontent
    rfl
  | some events =>
    simp only [slotEntry] at hcontent
    split at hcontent
    · cases hcontent
    · cases hcontent
      exact completeLines_encodeAll events

/-- The search answers whether one of the files has the identity. -/
theorem anyContains_triple (hsolitary : weather.Solitary) (eventId : Sha256)
    (files : List (StatePath × Option (List Event)))
    (hfiles : ∀ file ∈ files, ∀ disk, inv disk → disk file.1 = slotEntry file.2) :
    Triple weather inv (anyContains (needleOf eventId) (files.map Prod.fst))
      ⟨fun found disk => inv disk ∧ (found = true ↔
          ∃ file ∈ files, eventId ∈ (file.2.getD []).filterMap Event.eventId),
        fun _ => inv, inv⟩ := by
  induction files with
  | nil => exact Triple.pure fun disk hinv => ⟨hinv, by simp⟩
  | cons file rest ih =>
    refine Triple.bind (completeBytes_triple hsolitary (hfiles file List.mem_cons_self))
      fun content => ?_
    rintro disk ⟨hinv, rfl⟩
    by_cases hhere : eventId ∈ (file.2.getD []).filterMap Event.eventId
    · rw [if_pos ((contains_encodeAll eventId _).mpr hhere)]
      refine ⟨hinv, fun _ => ?_, fun _ => rfl⟩
      rw [List.exists_mem_cons_iff]
      exact Or.inl hhere
    · rw [if_neg fun hcontains => hhere ((contains_encodeAll eventId _).mp hcontains)]
      have hrest := ih fun other hother => hfiles other (List.mem_cons_of_mem _ hother)
      have hgoes : Triple weather inv (anyContains (needleOf eventId) (rest.map Prod.fst))
          ⟨fun found disk => inv disk ∧ (found = true ↔
              ∃ other ∈ file :: rest, eventId ∈ (other.2.getD []).filterMap Event.eventId),
            fun _ => inv, inv⟩ := by
        refine hrest.weaken (fun _ => id) ?_ (fun _ _ => id) fun _ => id
        rintro found state ⟨hstate, hfound⟩
        refine ⟨hstate, hfound.trans ?_⟩
        rw [List.exists_mem_cons_iff]
        exact (or_iff_right hhere).symm
      exact hgoes disk hinv

/-- `_contains_event_id` answers whether the identity is retained. -/
theorem containsSome_triple (hsolitary : weather.Solitary) (eventId : Sha256) :
    Triple weather (Shows root log) (containsEventId (logPath root) (some eventId))
      ⟨fun found disk => Shows root log disk ∧ (found = true ↔ eventId ∈ log.identities),
        fun _ => Shows root log, Shows root log⟩ := by
  have hfiles : ∀ file ∈ [(logPath root, log.current), (backupPath (logPath root) 1, log.first),
      (backupPath (logPath root) 2, log.second)],
      ∀ disk, Shows root log disk → disk file.1 = slotEntry file.2 := by
    simp only [List.forall_mem_cons]
    exact ⟨fun _ hshows => hshows.current, fun _ hshows => hshows.first,
      fun _ hshows => hshows.second, List.forall_mem_nil _⟩
  refine (anyContains_triple hsolitary eventId _ hfiles).weaken (fun _ => id) ?_ (fun _ _ => id)
    (fun _ => id)
  rintro found disk ⟨hshows, hfound⟩
  refine ⟨hshows, hfound.trans ?_⟩
  simp only [List.exists_mem_cons_iff, Log.identities, Log.events, List.filterMap_append,
    List.mem_append]
  grind

theorem containsEventId_triple (hsolitary : weather.Solitary) :
    Triple weather (Shows root log) (containsEventId (logPath root) event.eventId)
      ⟨fun found disk => Shows root log disk ∧ (found = true ↔ log.Retains event),
        fun _ => Shows root log, Shows root log⟩ := by
  unfold Log.Retains
  cases event.eventId with
  | none => exact Triple.pure fun disk hshows => ⟨hshows, by simp⟩
  | some eventId =>
    refine (containsSome_triple hsolitary eventId).weaken (fun _ => id) ?_ (fun _ _ => id)
      fun _ => id
    rintro found disk ⟨hshows, hfound⟩
    exact ⟨hshows, by simpa using hfound⟩

/-- `diagnostic_event_exists` answers whether the identity is retained, and changes no log. -/
theorem diagnosticEventExists_triple (hsolitary : weather.Solitary) (eventId : Sha256) :
    Triple weather (Shows root log) (diagnosticEventExists root eventId)
      ⟨fun found disk => Shows root log disk ∧ (found = true ↔ eventId ∈ log.identities),
        fun _ => Shows root log, Shows root log⟩ := by
  refine Triple.bind (diagnosticPath_keeps hsolitary) fun _ => ?_
  refine (withLock_triple hsolitary (containsSome_triple hsolitary eventId)
    (shows_spares (lockPath_notMem root)) (fun _ => id) (fun _ => id) ?_).weaken (fun _ => id)
    (fun _ _ => id) ?_ fun _ => id
  · exact fun found disk hfound => hfound.1
  · rintro error disk (hshows | ⟨-, found, hfound⟩)
    · exact hshows
    · exact hfound.1

/-! ### Writing -/

theorem moveFile_triple (hsolitary : weather.Solitary) {site : LogStep} {source target : StatePath}
    {post : Post Disk StateFailure Unit} (hraised : ∀ error disk, inv disk → post.raised error disk)
    (hcrashed : ∀ disk, inv disk → post.crashed disk)
    (hmoved : ∀ disk, inv disk → post.returned ()
      (Function.update (Function.update disk target (disk source)) source .missing)) :
    Triple weather inv (moveFile site source target) post := by
  refine Triple.act_alone hsolitary hcrashed hraised ?_
  intro disk next hinv hnext
  split at hnext
  · cases hnext
  · split at hnext
    · cases hnext
    · cases hnext
      exact hmoved disk hinv

/-- A call ended in one of these states of the slots, without the event. -/
def Unwritten (root : StatePath) (maxBytes : ℤ) (event : Event) (log : Log) (disk : Disk) : Prop :=
  ∃ next, Step maxBytes event log next false ∧ Shows root next disk

/-- The event was written. -/
def Written (root : StatePath) (maxBytes : ℤ) (event : Event) (log : Log) (disk : Disk) : Prop :=
  ∃ next, Step maxBytes event log next true ∧ Shows root next disk

theorem shiftBackup_triple (hsolitary : weather.Solitary) {current first : Option (List Event)} :
    Triple weather (Shows root ⟨current, first, none⟩) (shiftBackup (logPath root) 1)
      ⟨fun _ => Shows root ⟨current, none, first⟩, fun _ => Shows root ⟨current, first, none⟩,
        Shows root ⟨current, first, none⟩⟩ := by
  have hne := backupPath_ne root
  have hfirst := logPath_ne_backupPath root 1
  have hsecond := logPath_ne_backupPath root 2
  refine Triple.bind (?_ : Triple weather _ _ ⟨fun found disk =>
    Shows root ⟨current, first, none⟩ disk ∧ (found = true ↔ first.isSome), _, _⟩) fun found => ?_
  · refine Triple.look_alone hsolitary (fun _ => id) (fun _ _ => id) ?_
    intro found disk hshows hfound
    refine ⟨hshows, ?_⟩
    rw [hshows.first] at hfound
    cases first with
    | none =>
      cases hfound
      simp
    | some events =>
      cases hfound
      simp
  · refine Triple.ite (fun hfound => ?_) fun hfound => ?_
    · refine (moveFile_triple hsolitary (fun _ _ => id) (fun _ => id) ?_).weaken
        (fun _ hboth => hboth.1) (fun _ _ => id) (fun _ _ => id) fun _ => id
      intro disk hshows
      refine ⟨?_, Function.update_self _ _ _, ?_⟩
      · rw [Function.update_of_ne hfirst, Function.update_of_ne hsecond]
        exact hshows.current
      · rw [Function.update_of_ne hne.symm, Function.update_self]
        exact hshows.first
    · refine Triple.pure ?_
      rintro disk ⟨hshows, hslot⟩
      cases first with
      | none => exact hshows
      | some events => exact absurd (hslot.mpr rfl) hfound

theorem rotate_triple (hsolitary : weather.Solitary) (hfresh : ¬ log.Retains event)
    (hfull : log.Full maxBytes event) :
    Triple weather (Shows root log) (rotate (logPath root))
      ⟨fun _ => Shows root ⟨none, log.current, log.first⟩,
        fun _ => Unwritten root maxBytes event log, Unwritten root maxBytes event log⟩ := by
  have hkept : ∀ disk, Shows root log disk → Unwritten root maxBytes event log disk :=
    fun disk hshows => ⟨log, .kept, hshows⟩
  have hdropped : ∀ disk, Shows root ⟨log.current, log.first, none⟩ disk →
      Unwritten root maxBytes event log disk := fun disk hshows =>
    ⟨_, .dropped hfresh hfull, hshows⟩
  have hshifted : ∀ disk, Shows root ⟨log.current, none, log.first⟩ disk →
      Unwritten root maxBytes event log disk := fun disk hshows =>
    ⟨_, .shifted hfresh hfull, hshows⟩
  have hne := backupPath_ne root
  have hfirst := logPath_ne_backupPath root 1
  have hsecond := logPath_ne_backupPath root 2
  refine Triple.bind (?_ : Triple weather _ _ ⟨fun _ => Shows root log, _, _⟩) fun _ => ?_
  · exact (Keeps.forEach fun _ _ => ensureDirectFile_keeps hsolitary).weaken (fun _ => id)
      (fun _ _ => id) (fun _ => hkept) hkept
  refine Triple.bind
    (?_ : Triple weather _ _ ⟨fun _ => Shows root ⟨log.current, log.first, none⟩, _, _⟩) fun _ => ?_
  · refine Triple.act_alone hsolitary hkept (fun _ => hkept) ?_
    intro disk next hshows hnext
    split at hnext
    · cases hnext
    · cases hnext
      refine ⟨?_, ?_, Function.update_self _ _ _⟩
      · exact (Function.update_of_ne hsecond _ _).trans hshows.current
      · exact (Function.update_of_ne hne _ _).trans hshows.first
  refine Triple.bind
    (?_ : Triple weather _ _ ⟨fun _ => Shows root ⟨log.current, none, log.first⟩, _, _⟩) fun _ => ?_
  · exact (shiftBackup_triple hsolitary).weaken (fun _ => id) (fun _ _ => id) (fun _ => hdropped)
      hdropped
  · refine moveFile_triple hsolitary (fun _ => hshifted) hshifted ?_
    intro disk hshows
    refine ⟨Function.update_self _ _ _, ?_, ?_⟩
    · rw [Function.update_of_ne hfirst.symm, Function.update_self]
      exact hshows.current
    · rw [Function.update_of_ne hsecond.symm, Function.update_of_ne hne.symm]
      exact hshows.second

theorem writeLines_triple (hsolitary : weather.Solitary) (token : String)
    {current first second : Option (List Event)} {events : List Event} :
    Triple weather (Shows root ⟨current, first, second⟩)
      (replaceFile token (logPath root) (.ok (encodeAll events)))
      ⟨fun _ => Shows root ⟨some events, first, second⟩, fun _ => Shows root ⟨current, first, second⟩,
        fun disk => Shows root ⟨current, first, second⟩ disk ∨
          Shows root ⟨some events, first, second⟩ disk⟩ := by
  have hoff := temporaryPath_notMem token root
  unfold logPaths at hoff
  simp only [List.mem_cons, List.not_mem_nil, or_false, not_or] at hoff
  have hat : ∀ disk, Backups root first second disk ∧ At (logPath root) (slotEntry current) disk →
      Shows root ⟨current, first, second⟩ disk := fun disk hboth => hboth.1.shows hboth.2
  have hholds : ∀ disk, Backups root first second disk ∧
      Holds (.ok (encodeAll events)) (logPath root) disk →
      Shows root ⟨some events, first, second⟩ disk := by
    rintro disk ⟨hbackups, bytes, hbytes, hfile⟩
    cases hbytes
    exact hbackups.shows hfile
  refine (replaceFile_triple hsolitary (backups_spares hoff.2.1 hoff.2.2)
    (backups_spares (logPath_ne_backupPath root 1) (logPath_ne_backupPath root 2))).weaken
    (fun disk hshows => ⟨hshows.backups, hshows.current⟩) (fun _ => hholds) (fun _ => hat) ?_
  rintro disk ⟨hbackups, hfile | hfile⟩
  · exact Or.inl (hat disk ⟨hbackups, hfile⟩)
  · exact Or.inr (hholds disk ⟨hbackups, hfile⟩)

/-- When the line does not fit, the files are shifted first. -/
theorem rotateAndWrite_triple (hsolitary : weather.Solitary) (token : String)
    (hfresh : ¬ log.Retains event) (hfull : log.Full maxBytes event)
    (hsmall : ((encode event).length : ℤ) ≤ maxBytes) :
    Triple weather (Shows root log)
      (rotate (logPath root) >>= fun _ => replaceFile token (logPath root) (.ok (encode event)))
      ⟨fun _ => Written root maxBytes event log, fun _ => Unwritten root maxBytes event log,
        fun disk => Unwritten root maxBytes event log disk ∨ Written root maxBytes event log disk⟩ := by
  have hretired : ∀ disk, Shows root ⟨none, log.current, log.first⟩ disk →
      Unwritten root maxBytes event log disk := fun disk hend => ⟨_, .retired hfresh hfull, hend⟩
  have hrotated : ∀ disk, Shows root ⟨some [event], log.current, log.first⟩ disk →
      Written root maxBytes event log disk := fun disk hend =>
    ⟨_, .rotated hfresh hfull hsmall, hend⟩
  refine Triple.bind ((rotate_triple hsolitary hfresh hfull).weaken (fun _ => id) (fun _ _ => id)
    (fun _ _ => id) fun _ => Or.inl) fun _ => ?_
  rw [← encodeAll_singleton]
  exact (writeLines_triple hsolitary token).weaken (fun _ => id) (fun _ => hrotated)
    (fun _ => hretired) fun disk => Or.imp (hretired disk) (hrotated disk)

theorem writeEvent_triple (hsolitary : weather.Solitary) (token : String)
    (hfresh : ¬ log.Retains event) (hsmall : ((encode event).length : ℤ) ≤ maxBytes) :
    Triple weather (Shows root log) (writeEvent token (logPath root) maxBytes (encode event))
      ⟨fun _ => Written root maxBytes event log, fun _ => Unwritten root maxBytes event log,
        fun disk => Unwritten root maxBytes event log disk ∨ Written root maxBytes event log disk⟩ := by
  have hkept : ∀ disk, Shows root log disk → Unwritten root maxBytes event log disk :=
    fun disk hshows => ⟨log, .kept, hshows⟩
  refine Triple.bind_known (encodeAll (log.current.getD [])) (Shows root log) ?_ ?_
  · refine (completeBytes_triple hsolitary fun disk hshows => hshows.current).weaken
      (fun _ => id) ?_ (fun _ => hkept) fun disk hshows => Or.inl (hkept disk hshows)
    rintro existing disk ⟨hshows, rfl⟩
    exact ⟨rfl, hshows⟩
  · refine Triple.ite (fun hfull => rotateAndWrite_triple hsolitary token hfresh hfull hsmall)
      fun hfits => ?_
    have happended : ∀ disk, Shows root
        ⟨some (log.current.getD [] ++ [event]), log.first, log.second⟩ disk →
        Written root maxBytes event log disk := fun disk hend => ⟨_, .appended hfresh hfits, hend⟩
    rw [← encodeAll_singleton, ← encodeAll_append]
    exact (writeLines_triple hsolitary token).weaken (fun _ => id) (fun _ => happended)
      (fun _ => hkept) fun disk => Or.imp (hkept disk) (happended disk)

/-- What a call that returned reports. -/
def Reported (root : StatePath) (maxBytes : ℤ) (event : Event) (log : Log) (disk : Disk) :
    Bool → Prop
  | true => ¬ log.Retains event ∧ Written root maxBytes event log disk
  | false => log.Retains event ∧ Shows root log disk

/-- The calls under the lock. -/
theorem lockedAppend_triple (hsolitary : weather.Solitary) (token : String)
    (hsmall : ((encode event).length : ℤ) ≤ maxBytes) :
    Triple weather (Shows root log) (lockedAppend token (logPath root) event maxBytes)
      ⟨fun wrote disk => Reported root maxBytes event log disk wrote,
        fun _ => Unwritten root maxBytes event log,
        fun disk => Unwritten root maxBytes event log disk ∨ Written root maxBytes event log disk⟩ := by
  have hkept : ∀ disk, Shows root log disk → Unwritten root maxBytes event log disk :=
    fun disk hshows => ⟨log, .kept, hshows⟩
  have hearly : ∀ disk, Shows root log disk →
      Unwritten root maxBytes event log disk ∨ Written root maxBytes event log disk :=
    fun disk hshows => Or.inl (hkept disk hshows)
  refine Triple.bind ((ensureDirectFile_keeps hsolitary).weaken (fun _ => id) (fun _ _ => id)
    (fun _ => hkept) hearly) fun _ => ?_
  refine Triple.bind ((containsEventId_triple hsolitary).weaken (fun _ => id) (fun _ _ => id)
    (fun _ => hkept) hearly) fun found => ?_
  refine Triple.ite (fun hfound => Triple.pure ?_) fun hfound => ?_
  · rintro disk ⟨hshows, hretains⟩
    exact ⟨hretains.mp hfound, hshows⟩
  · rintro disk ⟨hshows, hretains⟩
    have hfresh : ¬ log.Retains event := fun hin => hfound (hretains.mpr hin)
    refine Triple.bind (writeEvent_triple hsolitary token hfresh hsmall)
      (fun _ => Triple.pure ?_) disk hshows
    exact fun last hwritten => ⟨hfresh, hwritten⟩

/-- One call, whatever fails and wherever it dies. -/
theorem appendDiagnosticOnce_triple (hsolitary : weather.Solitary) (token : String) :
    Triple weather (Shows root log) (appendDiagnosticOnce token root event maxBytes)
      ⟨fun wrote disk => Reported root maxBytes event log disk wrote,
        fun _ disk => Unwritten root maxBytes event log disk ∨
          (weather.fault .unlock).isSome ∧ Written root maxBytes event log disk,
        fun disk => Unwritten root maxBytes event log disk ∨ Written root maxBytes event log disk⟩ := by
  have hkept : ∀ disk, Shows root log disk → Unwritten root maxBytes event log disk :=
    fun disk hshows => ⟨log, .kept, hshows⟩
  have hearly : ∀ disk, Shows root log disk →
      Unwritten root maxBytes event log disk ∨ Written root maxBytes event log disk :=
    fun disk hshows => Or.inl (hkept disk hshows)
  refine Triple.ite (fun _ => Triple.raise fun disk hshows => Or.inl (hkept disk hshows)) fun _ => ?_
  refine Triple.bind ((diagnosticPath_keeps hsolitary).weaken (fun _ => id) (fun _ _ => id)
    (fun _ disk hshows => Or.inl (hkept disk hshows)) hearly) fun _ => ?_
  refine Triple.ite (fun _ => Triple.raise fun disk hshows => Or.inl (hkept disk hshows))
    fun hsmall => ?_
  have hended : ∀ wrote disk, Reported root maxBytes event log disk wrote →
      Unwritten root maxBytes event log disk ∨ Written root maxBytes event log disk := by
    intro wrote disk hreported
    cases wrote with
    | true => exact Or.inr hreported.2
    | false => exact Or.inl (hkept disk hreported.2)
  refine (withLock_triple hsolitary ?_ (shows_spares (lockPath_notMem root)) hkept
    (fun _ => Or.inl) hended).weaken (fun _ => id) (fun _ _ => id) ?_ fun _ => id
  · exact lockedAppend_triple hsolitary token (not_lt.mp hsmall)
  · rintro error disk (hunwritten | ⟨hfault, wrote, hreported⟩)
    · exact Or.inl hunwritten
    · exact (hended wrote disk hreported).imp id fun hwritten => ⟨hfault, hwritten⟩

end Calls

end CodexMustWork.MonitorDiagnostics
