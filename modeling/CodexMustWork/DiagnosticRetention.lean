import CodexMustWork.DiagnosticRotation
import CodexMustWork.StateRoundTrips

/-!
# What the diagnostic log retains

Over any calls, whatever fails: the files are bounded and hold whole lines, no identity is
retained twice, and the retained events are the last ones that were written, in their
order.  The oldest backup goes as a whole, and nothing else does.
-/

namespace CodexMustWork.MonitorDiagnostics

open DisturbedRuns StateFiles StatePersistence

variable {root : StatePath} {maxBytes : ℤ} {event : Event} {log next : Log} {wrote : Bool}

/-! ### One call on the slots -/

/-- The log between two calls. -/
structure Log.Kept (root : StatePath) (maxBytes : ℤ) (log : Log) (disk : Disk) : Prop where
  whole : Shows root log disk
  bounded : log.Bounded maxBytes
  unique : log.identities.Nodup

/-- The event, where it was written. -/
def newEvents (event : Event) (wrote : Bool) : List Event := if wrote then [event] else []

/-- The events after a call: those before, the oldest backup gone where the line did not
    fit, and the new one behind them. -/
structure Recorded (maxBytes : ℤ) (event : Event) (before after : Log) (wrote : Bool) : Prop where
  retained : ∃ kept, after.events = kept ++ newEvents event wrote ∧
    (kept = before.events ∨
      before.Full maxBytes event ∧ before.events = before.second.getD [] ++ kept)
  fresh : wrote = true → ¬ before.Retains event

theorem Step.recorded (hstep : Step maxBytes event log next wrote) :
    Recorded maxBytes event log next wrote := by
  have hevents : log.events = log.second.getD [] ++ (log.first.getD [] ++ log.current.getD []) :=
    List.append_assoc _ _ _
  cases hstep with
  | kept => exact ⟨⟨log.events, by simp [newEvents], Or.inl rfl⟩, by simp⟩
  | appended hfresh hfits =>
    exact ⟨⟨log.events, by simp [newEvents, Log.events], Or.inl rfl⟩, fun _ => hfresh⟩
  | dropped hfresh hfull =>
    exact ⟨⟨_, by simp [newEvents, Log.events], Or.inr ⟨hfull, hevents⟩⟩, by simp⟩
  | shifted hfresh hfull =>
    exact ⟨⟨_, by simp [newEvents, Log.events], Or.inr ⟨hfull, hevents⟩⟩, by simp⟩
  | retired hfresh hfull =>
    exact ⟨⟨_, by simp [newEvents, Log.events], Or.inr ⟨hfull, hevents⟩⟩, by simp⟩
  | rotated hfresh hfull hsmall =>
    exact ⟨⟨_, by simp [newEvents, Log.events], Or.inr ⟨hfull, hevents⟩⟩, fun _ => hfresh⟩

/-- What is left of the events before is the end of them. -/
theorem Recorded.tail {before after : Log} (hrecorded : Recorded maxBytes event before after wrote) :
    ∃ kept, after.events = kept ++ newEvents event wrote ∧ kept <:+ before.events := by
  obtain ⟨kept, hafter, hkept⟩ := hrecorded.retained
  refine ⟨kept, hafter, ?_⟩
  rcases hkept with rfl | ⟨-, hbefore⟩
  · exact List.suffix_rfl
  · rw [hbefore]
    exact List.suffix_append _ _

theorem Recorded.suffix {before after : Log} (hrecorded : Recorded maxBytes event before after wrote)
    {written : List Event} (hsuffix : before.events <:+ written) :
    after.events <:+ written ++ newEvents event wrote := by
  obtain ⟨kept, hafter, hkept⟩ := hrecorded.tail
  obtain ⟨earlier, rfl⟩ := hkept.trans hsuffix
  rw [hafter]
  exact ⟨earlier, (List.append_assoc _ _ _).symm⟩

theorem Recorded.unique {before after : Log} (hrecorded : Recorded maxBytes event before after wrote)
    (hunique : before.identities.Nodup) : after.identities.Nodup := by
  obtain ⟨kept, hafter, hkept⟩ := hrecorded.tail
  unfold Log.identities at hunique ⊢
  rw [hafter, List.filterMap_append]
  have hsub : (kept.filterMap Event.eventId).Sublist (before.events.filterMap Event.eventId) :=
    hkept.sublist.filterMap _
  refine List.Nodup.append (hunique.sublist hsub) ?_ ?_
  · cases wrote with
    | true => cases hid : event.eventId <;> simp [newEvents, hid]
    | false => simp [newEvents]
  · intro eventId hold hnew
    cases wrote with
    | false => simp [newEvents] at hnew
    | true =>
      refine hrecorded.fresh rfl ⟨eventId, ?_, hsub.subset hold⟩
      simpa [newEvents] using hnew

theorem Step.bounded (hstep : Step maxBytes event log next wrote) (hbounded : log.Bounded maxBytes) :
    next.Bounded maxBytes := by
  have hslots : ∀ events, some events = log.current ∨ some events = log.first ∨
      some events = log.second → ((encodeAll events).length : ℤ) ≤ maxBytes := by
    intro events hslot
    refine hbounded events ?_
    simpa [Log.files] using hslot
  unfold Log.Bounded Log.files
  simp only [List.mem_cons, List.not_mem_nil, or_false]
  rintro events hslot
  cases hstep with
  | kept => exact hslots events hslot
  | appended hfresh hfits =>
    rcases hslot with hcurrent | hslot
    · cases hcurrent
      rw [encodeAll_append, encodeAll_singleton, List.length_append]
      exact not_lt.mp hfits
    · exact hslots events (Or.inr hslot)
  | dropped hfresh hfull => grind
  | shifted hfresh hfull => grind
  | retired hfresh hfull => grind
  | rotated hfresh hfull hsmall =>
    rcases hslot with hcurrent | hslot
    · cases hcurrent
      rw [encodeAll_singleton]
      exact hsmall
    · grind

/-! ### An undisturbed call answers -/

/-- Nothing stands in the way of a call, and the files show the log. -/
def Open (root : StatePath) (token : String) (log : Log) (disk : Disk) : Prop :=
  Ready (logPath root) token (slotEntry log.current) disk ∧ Shows root log disk

section Answering

variable {token : String}

theorem undisturbed_solitary :
    (Disturbance.undisturbed : Disturbance Site Disk StateFailure).Solitary := fun _ _ => rfl

theorem ensureDirectFile_returns {inv : Disk → Prop} {site : LogStep} {path : StatePath}
    {slot : Option (List Event)} (hslot : ∀ disk, inv disk → disk path = slotEntry slot) :
    Returns inv (ensureDirectFile site path) fun _ => inv := by
  refine Returns.look fun disk hinv => ⟨(), ?_, hinv⟩
  rw [hslot disk hinv]
  cases slot <;> rfl

theorem diagnosticPath_returns :
    Returns (Open root token log) (diagnosticPath root) fun _ => Open root token log := by
  have hleading : ∀ current, current <+: logsPath root →
      current <+: logPath root ∧ current ≠ logPath root := by
    intro current hcurrent
    refine ⟨hcurrent.trans (List.prefix_append _ _), ?_⟩
    rintro rfl
    have hlength := hcurrent.length_le
    simp [logPath] at hlength
  refine Triple.bind (?_ : Triple _ _ _ ⟨fun _ => Open root token log, _, _⟩) fun _ => ?_
  · refine Triple.forEach (fun _ => id) fun candidate hcandidate => ?_
    have hcurrent : candidate <+: logsPath root := by
      rcases List.mem_cons.mp hcandidate with rfl | hlogs
      · exact List.prefix_append _ _
      · exact List.mem_singleton.mp hlogs ▸ List.prefix_rfl
    obtain ⟨habove, hne⟩ := hleading candidate hcurrent
    refine Returns.look fun disk hopen => ⟨(), if_neg ?_, hopen⟩
    rcases hopen.1.directories candidate habove hne with hmissing | hdirectory
    · simp [hmissing]
    · simp [hdirectory]
  refine Triple.bind (?_ : Triple _ _ _ ⟨fun _ => Open root token log, _, _⟩) fun _ => ?_
  · refine Triple.forEach (fun _ => id) fun directory hdirectory => ?_
    obtain ⟨habove, hne⟩ := hleading directory ((List.mem_inits _ _).mp hdirectory)
    exact (makeDirectory_returns habove hne).meeting
      (makeDirectory_keeps undisturbed_solitary (shows_spares (directory_notMem hdirectory)))
  refine Triple.bind touch_returns fun _ => Triple.bind touch_returns fun _ => ?_
  exact ensureDirectFile_returns fun disk hopen => hopen.2.current

theorem completeBytes_returns {inv : Disk → Prop} {site : LogStep} {path : StatePath}
    {slot : Option (List Event)} (hslot : ∀ disk, inv disk → disk path = slotEntry slot)
    (hsmall : ∀ events, slot = some events → ((encodeAll events).length : ℤ) ≤ maxBytes) :
    Returns inv (completeBytes site path maxBytes) fun _ => inv := by
  refine Returns.look fun disk hinv => ?_
  rw [hslot disk hinv]
  cases slot with
  | none => exact ⟨_, rfl, hinv⟩
  | some events => exact ⟨_, if_neg (not_lt.mpr (hsmall events rfl)), hinv⟩

theorem anyContains_returns {inv : Disk → Prop} {needle : List UInt8}
    (files : List (StatePath × Option (List Event)))
    (hfiles : ∀ file ∈ files, (∀ disk, inv disk → disk file.1 = slotEntry file.2) ∧
      ∀ events, file.2 = some events → ((encodeAll events).length : ℤ) ≤ maxLogBytes) :
    Returns inv (anyContains needle (files.map Prod.fst)) fun _ => inv := by
  induction files with
  | nil => exact Triple.pure fun _ => id
  | cons file rest ih =>
    obtain ⟨hslot, hsmall⟩ := hfiles file List.mem_cons_self
    refine Triple.bind (completeBytes_returns hslot hsmall) fun content => ?_
    refine Triple.ite (fun _ => Triple.pure fun _ => id) fun _ => ?_
    exact ih fun other hother => hfiles other (List.mem_cons_of_mem _ hother)

theorem containsEventId_returns (hbounded : log.Bounded maxLogBytes) :
    Returns (Open root token log) (containsEventId (logPath root) event.eventId) fun _ =>
      Open root token log := by
  cases event.eventId with
  | none => exact Triple.pure fun _ => id
  | some eventId =>
    refine anyContains_returns [(logPath root, log.current), (backupPath (logPath root) 1, log.first),
        (backupPath (logPath root) 2, log.second)] ?_
    have hslot : ∀ slot ∈ log.files, ∀ events, slot = some events →
        ((encodeAll events).length : ℤ) ≤ maxLogBytes := by
      rintro slot hslot events rfl
      exact hbounded events hslot
    simp only [List.forall_mem_cons]
    refine ⟨⟨fun _ hopen => hopen.2.current, hslot _ ?_⟩, ⟨fun _ hopen => hopen.2.first, hslot _ ?_⟩,
      ⟨fun _ hopen => hopen.2.second, hslot _ ?_⟩, List.forall_mem_nil _⟩ <;> simp [Log.files]

/-- The three names and the temporary one are different. -/
theorem temporaryPath_ne_logPaths (token : String) (root : StatePath) :
    temporaryPath token (logPath root) ≠ logPath root ∧
      temporaryPath token (logPath root) ≠ backupPath (logPath root) 1 ∧
      temporaryPath token (logPath root) ≠ backupPath (logPath root) 2 := by
  have hoff := temporaryPath_notMem token root
  unfold logPaths at hoff
  simpa only [List.mem_cons, List.not_mem_nil, or_false, not_or] using hoff

/-- The temporary name is free, and the files show the log. -/
def Clean (root : StatePath) (token : String) (log : Log) (disk : Disk) : Prop :=
  disk (temporaryPath token (logPath root)) = .missing ∧ Shows root log disk

/-- Each of the three files shows a slot. -/
theorem shown_slot (log : Log) {path : StatePath} (hpath : path ∈ logPaths (logPath root)) :
    ∃ slot, ∀ disk, Shows root log disk → disk path = slotEntry slot := by
  unfold logPaths at hpath
  simp only [List.mem_cons, List.not_mem_nil, or_false] at hpath
  rcases hpath with rfl | rfl | rfl
  · exact ⟨_, fun _ hshows => hshows.current⟩
  · exact ⟨_, fun _ hshows => hshows.first⟩
  · exact ⟨_, fun _ hshows => hshows.second⟩

theorem moveFile_returns {site : LogStep} {source target : StatePath} {inv after : Disk → Prop}
    (hsource : ∀ disk, inv disk → disk source ≠ .missing)
    (htarget : ∀ disk, inv disk → disk target ≠ .directory)
    (hmoved : ∀ disk, inv disk →
      after (Function.update (Function.update disk target (disk source)) source .missing)) :
    Returns inv (moveFile site source target) fun _ => after := by
  refine Returns.act fun disk hinv => ⟨_, ?_, hmoved disk hinv⟩
  have hthere := hsource disk hinv
  split
  · rename_i hmissing
    exact absurd hmissing hthere
  · exact if_neg (htarget disk hinv)

theorem shiftBackup_returns {current first : Option (List Event)} :
    Returns (Clean root token ⟨current, first, none⟩) (shiftBackup (logPath root) 1) fun _ =>
      Clean root token ⟨current, none, first⟩ := by
  obtain ⟨-, hfirst, hsecond⟩ := temporaryPath_ne_logPaths token root
  have hfree : Returns (Clean root token ⟨current, first, none⟩) (shiftBackup (logPath root) 1)
      fun _ disk => disk (temporaryPath token (logPath root)) = .missing := by
    refine Triple.bind (?_ : Triple _ _ _
      ⟨fun found disk => Clean root token ⟨current, first, none⟩ disk ∧
        (found = true → first ≠ none), _, _⟩) fun found => ?_
    · refine Returns.look fun disk hclean => ?_
      rw [hclean.2.first]
      cases first with
      | none => exact ⟨false, rfl, hclean, by simp⟩
      | some events => exact ⟨true, rfl, hclean, by simp⟩
    · refine Triple.ite (fun hfound => moveFile_returns ?_ ?_ ?_) fun _ =>
        Triple.pure fun disk hclean => hclean.1.1
      · rintro disk ⟨hclean, hsome⟩
        rw [hclean.2.first]
        cases first with
        | none => exact absurd rfl (hsome hfound)
        | some events => simp [slotEntry]
      · rintro disk ⟨hclean, -⟩
        rw [hclean.2.second]
        simp [slotEntry]
      · rintro disk ⟨hclean, -⟩
        rw [Function.update_of_ne hfirst, Function.update_of_ne hsecond]
        exact hclean.1
  refine (hfree.meeting (shiftBackup_triple undisturbed_solitary)).weaken
    (fun disk hclean => ⟨hclean, hclean.2⟩) (fun _ _ => id) (fun _ _ => id) fun _ => id

theorem rotate_returns {events : List Event} (hcurrent : log.current = some events) :
    Returns (Clean root token log) (rotate (logPath root)) fun _ disk =>
      disk (temporaryPath token (logPath root)) = .missing ∧ disk (logPath root) = .missing := by
  obtain ⟨htemporary, hfirst, hsecond⟩ := temporaryPath_ne_logPaths token root
  have hne := backupPath_ne root
  have hbackup := logPath_ne_backupPath root 1
  refine Triple.bind (?_ : Triple _ _ _ ⟨fun _ => Clean root token log, _, _⟩) fun _ => ?_
  · refine Triple.forEach (fun _ => id) fun candidate hcandidate => ?_
    obtain ⟨slot, hslot⟩ := shown_slot log hcandidate
    exact ensureDirectFile_returns fun disk hclean => hslot disk hclean.2
  refine Triple.bind (?_ : Triple _ _ _
    ⟨fun _ => Clean root token ⟨log.current, log.first, none⟩, _, _⟩) fun _ => ?_
  · refine Returns.act fun disk hclean =>
      ⟨_, if_neg ?_, ?_, ?_, ?_, Function.update_self _ _ _⟩
    · rw [hclean.2.second]
      cases log.second <;> simp [slotEntry]
    · exact (Function.update_of_ne hsecond _ _).trans hclean.1
    · exact (Function.update_of_ne (logPath_ne_backupPath root 2) _ _).trans hclean.2.current
    · exact (Function.update_of_ne hne _ _).trans hclean.2.first
  refine Triple.bind shiftBackup_returns fun _ => moveFile_returns ?_ ?_ ?_
  · intro disk hclean
    rw [hclean.2.current, hcurrent]
    simp [slotEntry]
  · intro disk hclean
    rw [hclean.2.first]
    simp [slotEntry]
  · intro disk hclean
    refine ⟨?_, Function.update_self _ _ _⟩
    rw [Function.update_of_ne htemporary, Function.update_of_ne hfirst]
    exact hclean.1

theorem lockedAppend_returns (hbounded : log.Bounded maxBytes) (hmax : maxBytes ≤ maxLogBytes)
    (hsmall : ((encode event).length : ℤ) ≤ maxBytes) :
    Returns (Open root token log) (lockedAppend token (logPath root) event maxBytes) fun _ _ => True := by
  have hsearched : log.Bounded maxLogBytes := fun events hevents =>
    (hbounded events hevents).trans hmax
  have hcurrent : ∀ events, log.current = some events →
      ((encodeAll events).length : ℤ) ≤ maxBytes := fun events hslot =>
    hbounded events (hslot ▸ List.mem_cons_self)
  refine Triple.bind (ensureDirectFile_returns fun disk hopen => hopen.2.current) fun _ => ?_
  refine Triple.bind (containsEventId_returns hsearched) fun found => ?_
  refine Triple.ite (fun _ => Triple.pure fun _ _ => trivial) fun _ => ?_
  refine Triple.bind (?_ : Triple _ _ _ ⟨fun _ _ => True, _, _⟩) fun _ => Triple.pure fun _ _ => trivial
  refine Triple.bind_known (encodeAll (log.current.getD [])) (Open root token log) ?_ ?_
  · refine ((completeBytes_returns (fun disk hopen => hopen.2.current) hcurrent).meeting
      (completeBytes_triple undisturbed_solitary fun disk hshows => hshows.current)).weaken
      (fun disk hopen => ⟨hopen, hopen.2⟩) ?_ (fun _ _ => id) fun _ => id
    rintro existing disk ⟨hopen, -, hexisting⟩
    exact ⟨hexisting, hopen⟩
  · refine Triple.ite (fun hfull => ?_) fun _ => ?_
    · cases hslot : log.current with
      | none =>
        rw [hslot] at hfull
        exact absurd hfull (by simpa [encodeAll] using hsmall)
      | some events =>
        refine Triple.bind ((rotate_returns hslot).weaken (fun disk hopen => ⟨hopen.1.temporary, hopen.2⟩)
          (fun _ _ => id) (fun _ _ => id) fun _ => id) fun _ => ?_
        refine replaceFile_returns.weaken ?_ (fun _ _ => id) (fun _ _ => id) fun _ => id
        rintro disk ⟨hfree, hmissing⟩
        exact ⟨hfree, by simp [hmissing]⟩
    · refine replaceFile_returns.weaken ?_ (fun _ _ => id) (fun _ _ => id) fun _ => id
      intro disk hopen
      refine ⟨hopen.1.temporary, ?_⟩
      rw [hopen.2.current]
      cases log.current <;> simp [slotEntry]

/-- An undisturbed call returns, on whole files within their bound. -/
theorem appendDiagnosticOnce_returns (hbounded : log.Bounded maxBytes) (hmax : maxBytes ≤ maxLogBytes)
    (hsmall : ((encode event).length : ℤ) ≤ maxBytes) :
    Returns (Open root token log) (appendDiagnosticOnce token root event maxBytes) fun _ _ => True := by
  have hpositive : ¬ maxBytes < 1 := by
    have hline : 0 < (encode event).length := by simp [encode]
    omega
  unfold appendDiagnosticOnce
  rw [if_neg hpositive]
  refine Triple.bind diagnosticPath_returns fun _ => ?_
  rw [if_neg (not_lt.mpr hsmall)]
  refine Triple.bind (?_ : Triple _ _ _ ⟨fun _ => Open root token log, _, _⟩) fun _ => ?_
  · exact acquireLock_returns.meeting
      (acquireLock_keeps undisturbed_solitary (shows_spares (lockPath_notMem root)))
  · exact Triple.ensuring (lockedAppend_returns hbounded hmax hsmall) (fun _ => touch_returns)
      fun _ _ hfalse => hfalse.elim

end Answering

/-! ### Calls one after the other -/

/-- One call: its event, the name drawn for the temporary file, and what befalls it. -/
structure Request where
  event : Event
  token : String
  weather : Disturbance Site Disk StateFailure

def Request.run (root : StatePath) (maxBytes : ℤ) (request : Request) (disk : Disk) :
    Outcome Disk StateFailure Bool :=
  appendDiagnosticOnce request.token root request.event maxBytes request.weather disk

/-- What the caller gets.  It learns whether the event was written, or that the call failed;
    a call that failed after it wrote failed to release the lock. -/
structure Answered (root : StatePath) (maxBytes : ℤ) (request : Request) (log : Log) (disk : Disk)
    (wrote : Bool) : Prop where
  returned : ∀ answer last, request.run root maxBytes disk = .returned answer last →
    answer = wrote ∧ (answer = false ↔ log.Retains request.event)
  raised : ∀ error last, request.run root maxBytes disk = .raised error last →
    wrote = true → (request.weather.fault .unlock).isSome
  answers : request.weather = .undisturbed → Open root request.token log disk →
    ((encode request.event).length : ℤ) ≤ maxBytes →
    ∃ answer last, request.run root maxBytes disk = .returned answer last

/-- From this disk on: before and after every call the log is kept and holds the last of the
    events that were written, and every call is recorded and answered. -/
def Follows (root : StatePath) (maxBytes : ℤ) (disk : Disk) (log : Log) (written : List Event) :
    List Request → Prop
  | [] => log.Kept root maxBytes disk ∧ log.events <:+ written
  | request :: rest =>
      (log.Kept root maxBytes disk ∧ log.events <:+ written) ∧
        ∃ after wrote, Recorded maxBytes request.event log after wrote ∧
          Answered root maxBytes request log disk wrote ∧
          Follows root maxBytes (request.run root maxBytes disk).state after
            (written ++ newEvents request.event wrote) rest

/-- One call does one step, and its answer says which. -/
theorem run_answered {request : Request} (hsolitary : request.weather.Solitary)
    (hmax : maxBytes ≤ maxLogBytes) {disk : Disk} (hkept : log.Kept root maxBytes disk) :
    ∃ after wrote, Step maxBytes request.event log after wrote ∧
      Shows root after (request.run root maxBytes disk).state ∧
      Answered root maxBytes request log disk wrote := by
  have hend : (request.run root maxBytes disk).Meets _ :=
    appendDiagnosticOnce_triple hsolitary request.token disk hkept.whole
  have hanswers : request.weather = .undisturbed → Open root request.token log disk →
      ((encode request.event).length : ℤ) ≤ maxBytes →
      ∃ answer last, request.run root maxBytes disk = .returned answer last := by
    intro hcalm hopen hsmall
    obtain ⟨answer, last, hrun, -⟩ :=
      (appendDiagnosticOnce_returns hkept.bounded hmax hsmall).run hopen
    unfold Request.run
    rw [hcalm]
    exact ⟨answer, last, hrun⟩
  cases hout : request.run root maxBytes disk with
  | returned answer last =>
    rw [hout] at hend
    cases answer with
    | true =>
      obtain ⟨hfresh, after, hstep, hshows⟩ := hend
      refine ⟨after, true, hstep, hshows, ?_, ?_, hanswers⟩
      · intro answer state hreturned
        cases hout.symm.trans hreturned
        exact ⟨rfl, by simp, fun hretains => absurd hretains hfresh⟩
      · intro error state hraised
        cases hout.symm.trans hraised
    | false =>
      obtain ⟨hretains, hshows⟩ := hend
      refine ⟨log, false, .kept, hshows, ?_, ?_, hanswers⟩
      · intro answer state hreturned
        cases hout.symm.trans hreturned
        exact ⟨rfl, fun _ => hretains, fun _ => rfl⟩
      · intro error state hraised
        cases hout.symm.trans hraised
  | raised error last =>
    rw [hout] at hend
    rcases hend with ⟨after, hstep, hshows⟩ | ⟨hfault, after, hstep, hshows⟩
    · refine ⟨after, false, hstep, hshows, ?_, fun _ _ _ => by simp, hanswers⟩
      intro answer state hreturned
      cases hout.symm.trans hreturned
    · refine ⟨after, true, hstep, hshows, ?_, fun _ _ _ _ => hfault, hanswers⟩
      intro answer state hreturned
      cases hout.symm.trans hreturned
  | crashed last =>
    rw [hout] at hend
    have hdied : ∀ wrote, Answered root maxBytes request log disk wrote := by
      intro wrote
      refine ⟨?_, ?_, hanswers⟩
      · intro answer state hreturned
        cases hout.symm.trans hreturned
      · intro error state hraised
        cases hout.symm.trans hraised
    rcases hend with ⟨after, hstep, hshows⟩ | ⟨after, hstep, hshows⟩
    · exact ⟨after, false, hstep, hshows, hdied false⟩
    · exact ⟨after, true, hstep, hshows, hdied true⟩

/-- The log is bounded, whole and free of repetitions over every sequence of calls, whatever
    fails in them, and only the oldest backup is ever given up. -/
theorem appends_follow (root : StatePath) (maxBytes : ℤ) (hmax : maxBytes ≤ maxLogBytes)
    (requests : List Request) (hsolitary : ∀ request ∈ requests, request.weather.Solitary) :
    ∀ (disk : Disk) (log : Log) (written : List Event), log.Kept root maxBytes disk →
      log.events <:+ written → Follows root maxBytes disk log written requests := by
  induction requests with
  | nil => exact fun disk log written hkept hlast => ⟨hkept, hlast⟩
  | cons request rest ih =>
    intro disk log written hkept hlast
    obtain ⟨after, wrote, hstep, hshows, hanswered⟩ :=
      run_answered (hsolitary request List.mem_cons_self) hmax hkept
    have hrecorded := hstep.recorded
    refine ⟨⟨hkept, hlast⟩, after, wrote, hrecorded, hanswered, ?_⟩
    refine ih (fun other hother => hsolitary other (List.mem_cons_of_mem _ hother)) _ _ _ ?_
      (hrecorded.suffix hlast)
    exact ⟨hshows, hstep.bounded hkept.bounded, hrecorded.unique hkept.unique⟩

/-- One event twice on an empty log, the first time with a replacement that fails. -/
theorem appends_follow_twice :
    let event : Event :=
      { occurredAt := ⟨2026, 1, 2, 3, 4, 5, 0⟩, code := .heartbeatActive, state := .active
        sessionHash := ⟨String.ofList (List.replicate 64 'a'), by decide⟩, childHash := none
        elapsedMs := some 12, eventId := some ⟨String.ofList (List.replicate 64 'b'), by decide⟩ }
    let failing : Disturbance Site Disk StateFailure :=
      { (.undisturbed : Disturbance Site Disk StateFailure) with
        fault := fun site => if site = .replace then some .osError else none }
    Follows ["state"] 4096 (fun _ => .missing) ⟨none, none, none⟩ []
      [⟨event, "x1", failing⟩, ⟨event, "x2", .undisturbed⟩] := by
  intro event failing
  refine appends_follow ["state"] 4096 (by decide) _ ?_ _ _ _ ⟨⟨rfl, rfl, rfl⟩, ?_, ?_⟩ List.suffix_rfl
  · simp only [List.forall_mem_cons]
    exact ⟨fun _ _ => rfl, fun _ _ => rfl, List.forall_mem_nil _⟩
  · simp [Log.Bounded, Log.files]
  · exact List.nodup_nil

end CodexMustWork.MonitorDiagnostics
