import CodexMustWork.ClientLifetimes

/-!
# Closing what nobody uses

The releases give references up one by one, the last one becomes the obligation, and the
gate of the obligation is the only one that closes the client.
-/

namespace CodexMustWork.ClientPool

namespace Pool

variable {pool : Pool} {thread : ℕ} {reference : ReferenceId} {client : ClientId}

/-! ### Releasing -/

theorem othersActive_iff {references : List ReferenceId} :
    pool.othersActive references = true ↔ ∃ other record, other ∉ references ∧
      pool.references.get other = some record ∧ record.state ≠ .closing := by
  unfold othersActive ReferenceRecord.isActive
  rw [List.any_eq_true]
  constructor
  · rintro ⟨entry, hentry, hactive⟩
    obtain ⟨hother, hstate⟩ := Bool.and_eq_true_iff.mp hactive
    exact ⟨entry.1, entry.2, of_decide_eq_true hother, OrderedTable.mem_entries_iff.mp hentry,
      of_decide_eq_true hstate⟩
  · rintro ⟨other, record, hother, hget, hstate⟩
    refine ⟨(other, record), OrderedTable.mem_entries_iff.mpr hget, ?_⟩
    exact Bool.and_eq_true_iff.mpr ⟨decide_eq_true hother, decide_eq_true hstate⟩

theorem Valid.pending_ne (hvalid : pool.Valid) {record : ReferenceRecord}
    (hget : pool.references.get reference = some record) (thread : ℕ) :
    (pool.phase thread).pending ≠ some reference := by
  intro hpending
  exact ((hvalid.placed thread).pending hpending).ne_of_get hget rfl

/-- An active reference goes, and another one stays. -/
theorem Valid.drop {record : ReferenceRecord} (hvalid : pool.Valid)
    (hget : pool.references.get reference = some record) (hactive : record.state ≠ .closing)
    (hother : ∃ other found, other ≠ reference ∧ pool.references.get other = some found ∧
      found.state ≠ .closing) :
    ({ pool with references := pool.references.erase reference }.emit
      [.givenUp reference]).Valid := by
  refine (hvalid.erase hget (fun _ => hother) fun hstate => absurd hstate hactive).giveUp
    (hvalid.known reference record hget).1 (hvalid.idle_of_active hget hactive).2 ?_
    (hvalid.pending_ne hget)
  intro found hfound
  exact absurd rfl (OrderedTable.mem_erase_iff.mp hfound).1

/-- The last active reference becomes an obligation. -/
theorem Valid.dropLast {record : ReferenceRecord} (hvalid : pool.Valid)
    (hget : pool.references.get reference = some record) (hactive : record.state ≠ .closing)
    (hlast : ∀ other found, other ≠ reference → pool.references.get other = some found →
      found.state = .closing) :
    ((pool.oblige reference record.client).emit [.givenUp reference]).Valid := by
  refine (hvalid.oblige hget hactive hlast).giveUp (hvalid.known reference record hget).1
    (hvalid.idle_of_active hget hactive).2 ?_ (hvalid.pending_ne hget)
  intro found hfound
  have hown : (pool.oblige reference record.client).references.get reference =
      some ⟨record.client, .closing, pool.nextRecord⟩ := OrderedTable.get_set_same _ _ _
  rw [hown] at hfound
  cases hfound
  rfl

theorem Valid.pooled_of_active {record : ReferenceRecord} (hvalid : pool.Valid)
    (hget : pool.references.get reference = some record) (hactive : record.state ≠ .closing) :
    ∃ pooled, pool.pooled = some pooled ∧ pooled.client = record.client :=
  Option.map_eq_some_iff.mp (hvalid.active reference record hget hactive)

theorem Valid.releaseActive {record : ReferenceRecord} (hvalid : pool.Valid)
    (hphase : pool.phase thread = .idle)
    (hget : pool.references.get reference = some record) (hactive : record.state ≠ .closing) :
    (pool.releaseActive thread reference).Valid := by
  obtain ⟨pooled, hpooled, hclient⟩ := hvalid.pooled_of_active hget hactive
  unfold Pool.releaseActive
  split
  · next hothers =>
    obtain ⟨other, found, hother, hfound⟩ := othersActive_iff.mp hothers
    refine hvalid.drop hget hactive ⟨other, found, ?_, hfound⟩
    exact fun heq => hother (List.mem_singleton.mpr heq)
  · next hothers =>
    rw [hpooled]
    dsimp only
    rw [hclient]
    refine (hvalid.dropLast hget hactive ?_).setPhase ?_ nofun ?_
    · intro other found hother hfound
      by_contra hstate
      exact hothers (othersActive_iff.mpr ⟨other, found,
        fun heq => hother (List.mem_singleton.mp heq), hfound, hstate⟩)
    · intro obligation hobligation
      rw [List.mem_singleton.mp hobligation]
    · show (pool.phase thread).makes = none
      rw [hphase]
      rfl

theorem Valid.release (hvalid : pool.Valid) (hphase : pool.phase thread = .idle) :
    (pool.release thread reference).Valid := by
  unfold Pool.release
  split
  · exact hvalid
  · next record hget =>
    split
    · next hstate =>
      refine hvalid.setPhase ?_ nofun (by rw [hphase]; rfl)
      intro obligation hobligation
      rw [List.mem_singleton.mp hobligation]
      exact hstate
    · next hstate => exact hvalid.releaseActive hphase hget hstate

theorem delete_nothing : (pool.delete []).emit ([].map .givenUp) = pool := by
  unfold delete emit
  rw [List.map_nil, List.append_nil]
  rfl

/-- References that were active go, and another one stays. -/
theorem Valid.dropAll (selected : List ReferenceId) (hvalid : pool.Valid)
    (hnodup : selected.Nodup)
    (hactive : ∀ own ∈ selected, ∃ record, pool.references.get own = some record ∧
      record.state ≠ .closing)
    (hother : ∃ other found, other ∉ selected ∧ pool.references.get other = some found ∧
      found.state ≠ .closing) :
    ((pool.delete selected).emit (selected.map .givenUp)).Valid := by
  induction selected generalizing pool with
  | nil =>
    rw [delete_nothing]
    exact hvalid
  | cons own rest ih =>
    obtain ⟨hnew, hrest⟩ := List.nodup_cons.mp hnodup
    obtain ⟨other, found, hout, hfound, hstate⟩ := hother
    obtain ⟨record, hget, hrecord⟩ := hactive own List.mem_cons_self
    have hne : other ≠ own := fun heq => hout (heq ▸ List.mem_cons_self)
    have hfirst := hvalid.drop hget hrecord ⟨other, found, hne, hfound, hstate⟩
    have hsteps : (pool.delete (own :: rest)).emit ((own :: rest).map .givenUp) =
        ((({ pool with references := pool.references.erase own }.emit [.givenUp own]).delete
          rest).emit (rest.map .givenUp)) := by
      unfold delete Pool.emit
      rw [List.map_cons, List.foldl_cons, List.append_assoc]
      rfl
    rw [hsteps]
    refine ih hfirst hrest ?_ ?_
    · intro another hanother
      obtain ⟨left, hleft, hleftState⟩ := hactive another (List.mem_cons_of_mem _ hanother)
      refine ⟨left, ?_, hleftState⟩
      have hdifferent : another ≠ own := fun heq => hnew (heq ▸ hanother)
      exact (OrderedTable.get_erase_of_ne hdifferent).trans hleft
    · refine ⟨other, found, fun hmem => hout (List.mem_cons_of_mem _ hmem), ?_, hstate⟩
      exact (OrderedTable.get_erase_of_ne hne).trans hfound

theorem get_delete_of_not_mem (references : List ReferenceId) (hother : reference ∉ references) :
    (pool.delete references).references.get reference = pool.references.get reference := by
  show (references.foldl OrderedTable.erase pool.references).get reference = _
  generalize pool.references = table
  induction references generalizing table with
  | nil => rfl
  | cons first rest ih =>
    rw [List.foldl_cons, ih fun hmem => hother (List.mem_cons_of_mem _ hmem)]
    exact OrderedTable.get_erase_of_ne fun heq => hother (heq ▸ List.mem_cons_self)

theorem get_of_get_delete (references : List ReferenceId) {record : ReferenceRecord}
    (hget : (pool.delete references).references.get reference = some record) :
    reference ∉ references ∧ pool.references.get reference = some record := by
  change (references.foldl OrderedTable.erase pool.references).get reference = some record at hget
  generalize pool.references = table at hget ⊢
  induction references generalizing table with
  | nil => exact ⟨List.not_mem_nil, hget⟩
  | cons first rest ih =>
    obtain ⟨hrest, hfound⟩ := ih _ hget
    obtain ⟨hfirst, hfound⟩ := OrderedTable.mem_erase_iff.mp hfound
    exact ⟨fun hmem => (List.mem_cons.mp hmem).elim hfirst hrest, hfound⟩

/-- The selected references go: the last one becomes the obligation when nobody else is
    active. -/
theorem Valid.releaseSelected (selected : List ReferenceId) (hvalid : pool.Valid)
    (hnodup : selected.Nodup)
    (hactive : ∀ own ∈ selected, ∃ record, pool.references.get own = some record ∧
      record.state ≠ .closing) :
    ((pool.releaseSelected selected).emit (selected.map .givenUp)).Valid := by
  unfold Pool.releaseSelected
  split
  · next last hlast hothers =>
    obtain ⟨record, hget, hstate⟩ := hactive last (List.mem_of_getLast? hlast)
    obtain ⟨pooled, hpooled, hclient⟩ := hvalid.pooled_of_active hget hstate
    have hsplit : selected.dropLast ++ [last] = selected :=
      List.dropLast_append_getLast? last hlast
    have hdisjoint : last ∉ selected.dropLast := by
      rw [← hsplit] at hnodup
      exact fun hmem => (List.nodup_append.mp hnodup).2.2 last hmem last
        (List.mem_singleton_self _) rfl
    rw [hpooled]
    dsimp only
    rw [hclient]
    have hfirst := hvalid.dropAll selected.dropLast (hnodup.sublist (List.dropLast_sublist _))
      (fun own hown => hactive own (List.dropLast_subset _ hown))
      ⟨last, record, hdisjoint, hget, hstate⟩
    have hthere : (pool.delete selected.dropLast).references.get last = some record :=
      (get_delete_of_not_mem _ hdisjoint).trans hget
    have hsteps : ((pool.delete selected.dropLast).oblige last record.client).emit
        (selected.map .givenUp) =
          (((pool.delete selected.dropLast).emit (selected.dropLast.map .givenUp)).oblige last
            record.client).emit [.givenUp last] := by
      have hevents : pool.events ++ selected.map Event.givenUp =
          pool.events ++ selected.dropLast.map Event.givenUp ++ [.givenUp last] := by
        rw [List.append_assoc]
        refine congrArg (pool.events ++ ·) ?_
        conv_lhs => rw [← hsplit]
        exact List.map_append
      unfold Pool.emit Pool.oblige Pool.record delete
      dsimp only
      rw [hevents]
    rw [hsteps]
    refine hfirst.dropLast hthere hstate ?_
    intro other found hother hfound
    obtain ⟨hout, hfound⟩ := get_of_get_delete _ hfound
    by_contra hfoundState
    have hnotSelected : other ∉ selected := by
      rw [← hsplit]
      intro hmem
      rcases List.mem_append.mp hmem with hfirst | hsecond
      · exact hout hfirst
      · exact hother (List.mem_singleton.mp hsecond)
    have htrue := othersActive_iff.mpr ⟨other, found, hnotSelected, hfound, hfoundState⟩
    rw [hothers] at htrue
    cases htrue
  · next hcases =>
    cases hothers : pool.othersActive selected with
    | true =>
      obtain ⟨other, found, hother⟩ := othersActive_iff.mp hothers
      exact hvalid.dropAll selected hnodup hactive ⟨other, found, hother⟩
    | false =>
      cases hlast : selected.getLast? with
      | none =>
        rw [List.getLast?_eq_none_iff.mp hlast, delete_nothing]
        exact hvalid
      | some last => exact absurd hothers (hcases last hlast)

theorem mem_installed_iff : reference ∈ pool.installed ↔ ∃ record,
    pool.references.get reference = some record ∧ record.state = .installed := by
  unfold installed
  rw [List.mem_map]
  constructor
  · rintro ⟨entry, hentry, rfl⟩
    obtain ⟨hmem, hstate⟩ := List.mem_filter.mp hentry
    exact ⟨entry.2, OrderedTable.mem_entries_iff.mp hmem, of_decide_eq_true hstate⟩
  · rintro ⟨record, hget, hstate⟩
    refine ⟨(reference, record), ?_, rfl⟩
    exact List.mem_filter.mpr ⟨OrderedTable.mem_entries_iff.mpr hget, decide_eq_true hstate⟩

theorem nodup_installed (pool : Pool) : pool.installed.Nodup :=
  (List.filter_sublist.map Prod.fst).nodup pool.references.nodup

theorem obligations_closing {obligation : Obligation} (hobligation : obligation ∈ pool.obligations) :
    obligation.record.state = .closing := by
  unfold obligations at hobligation
  obtain ⟨entry, hentry, rfl⟩ := List.mem_map.mp hobligation
  exact of_decide_eq_true (List.mem_filter.mp hentry).2

theorem phase_releaseSelected (pool : Pool) (selected : List ReferenceId) :
    (pool.releaseSelected selected).phase = pool.phase := by
  unfold Pool.releaseSelected
  split
  · split <;> rfl
  · rfl

theorem Valid.releaseInstalled (count : ℤ) (hvalid : pool.Valid)
    (hphase : pool.phase thread = .idle) : (pool.releaseInstalled thread count).Valid := by
  unfold Pool.releaseInstalled
  split
  · exact hvalid
  · have hsublist : List.Sublist (pool.installed.take count.toNat) pool.installed :=
      List.take_sublist _ _
    refine (hvalid.releaseSelected _ ((nodup_installed pool).sublist hsublist) ?_).setPhase ?_
      nofun ?_
    · intro own hown
      obtain ⟨record, hget, hstate⟩ := mem_installed_iff.mp (hsublist.subset hown)
      exact ⟨record, hget, fun hclosing => by cases hstate.symm.trans hclosing⟩
    · exact fun obligation hobligation => obligations_closing hobligation
    · show ((pool.releaseSelected _).phase thread).makes = none
      rw [phase_releaseSelected, hphase]
      rfl

/-! ### Closing -/

theorem Valid.check {obligations : List Obligation} (hvalid : pool.Valid)
    (hphase : pool.phase thread = .checking obligations) :
    (pool.check thread obligations).Valid := by
  have hplaced := hvalid.placed thread
  rw [hphase] at hplaced
  have hmakes : (pool.phase thread).makes = none := by
    rw [hphase]
    rfl
  cases obligations with
  | nil => exact hvalid.setPhase trivial (by rintro _ ⟨⟩) hmakes
  | cons obligation rest =>
    have hclosing := hplaced obligation List.mem_cons_self
    have hrest : ∀ other ∈ rest, other.record.state = .closing :=
      fun other hother => hplaced other (List.mem_cons_of_mem _ hother)
    unfold Pool.check
    dsimp only
    split
    · next hget =>
      have hunpooled : ¬ pool.pooled.map PooledClient.client = some obligation.record.client :=
        hvalid.unpooled _ _ hget hclosing
      rw [if_neg hunpooled]
      exact hvalid.setPhase ⟨Or.inl hget, hclosing, hrest⟩ (by rintro _ ⟨⟩) hmakes
    · exact hvalid.setPhase hrest (by rintro _ ⟨⟩) hmakes

theorem gate_setGate_same {gate : CloseGate} : (pool.setGate reference gate).gate reference = gate :=
  Function.update_self _ _ _

theorem gate_setGate_of_ne {gate : CloseGate} {other : ReferenceId} (hother : other ≠ reference) :
    (pool.setGate reference gate).gate other = pool.gate other :=
  Function.update_of_ne hother _ _

/-- What the threads rely on when the gate of an obligation moves. -/
theorem Valid.placed_setGate {gate : CloseGate} (hvalid : pool.Valid)
    (hclosing : pool.Closing reference client)
    (hopen : ∀ target, pool.gate reference ≠ .succeeded target) (thread : ℕ) :
    (pool.setGate reference gate).Placed thread (pool.phase thread) := by
  obtain ⟨record, hget, _⟩ := hclosing
  have hgate : ∀ other target, pool.gate other = .succeeded target →
      (pool.setGate reference gate).gate other = .succeeded target := by
    intro other target hsucceeded
    have hne : other ≠ reference := by
      rintro rfl
      exact hopen target hsucceeded
    exact (gate_setGate_of_ne hne).trans hsucceeded
  refine (hvalid.placed thread).spared (fun _ => id) (fun _ => id) ?_ (fun _ _ => id) ?_ hgate
  · intro own _ hpending
    have hne := hpending.ne_of_get hget
    exact ⟨hpending.1, hpending.2.1, (gate_setGate_of_ne hne).trans hpending.2.2.1,
      hpending.2.2.2⟩
  · rintro obligation _ (hthere | hsucceeded)
    · exact Or.inl hthere
    · exact Or.inr (hgate _ _ hsucceeded)

/-- The gate of an obligation moves. -/
theorem Valid.setGate {gate : CloseGate} (hvalid : pool.Valid)
    (hclosing : pool.Closing reference client)
    (hopen : ∀ target, pool.gate reference ≠ .succeeded target)
    (hfits : pool.GateFits reference gate) : (pool.setGate reference gate).Valid := by
  refine ⟨{ hvalid.toSound with gates := ?_, closed := ?_ }, hvalid.placed_setGate hclosing hopen,
    hvalid.distinct⟩
  · intro other
    by_cases hother : other = reference
    · rw [hother, gate_setGate_same]
      exact hfits.spared (Nat.le_refl _) rfl fun _ => id
    · rw [gate_setGate_of_ne hother]
      exact (hvalid.gates other).spared (Nat.le_refl _) rfl fun _ => id
  · intro target htarget
    obtain ⟨hknown, hrecords⟩ := hvalid.closed target htarget
    refine ⟨hknown, fun other record hget hclient => ?_⟩
    obtain ⟨hstate, hgate⟩ := hrecords other record hget hclient
    have hne : other ≠ reference := by
      rintro rfl
      exact hopen target hgate
    exact ⟨hstate, (gate_setGate_of_ne hne).trans hgate⟩

theorem Valid.finish {obligation : Obligation} {rest : List Obligation} (hvalid : pool.Valid)
    (hphase : pool.phase thread = .finishing obligation rest) :
    (pool.finish thread obligation rest).Valid := by
  have hplaced := hvalid.placed thread
  rw [hphase] at hplaced
  obtain ⟨hheld, hstate, hrest⟩ := hplaced
  have hmakes : (pool.phase thread).makes = none := by
    rw [hphase]
    rfl
  have hfits := hvalid.gates obligation.reference
  unfold Pool.finish
  cases hgate : pool.gate obligation.reference with
  | started target => exact hvalid
  | closing target => exact hvalid
  | succeeded target =>
    rw [hgate] at hfits
    refine hvalid.setPhase ⟨?_, hstate, hrest⟩ nofun hmakes
    rcases hheld with hthere | hsucceeded
    · rw [hgate, (hfits.2.2 _ hthere).2]
    · exact hsucceeded
  | failed =>
    rw [hgate] at hfits
    obtain ⟨target, hclosing⟩ := hfits
    have hidle : (pool.setGate obligation.reference .idle).Valid := by
      refine hvalid.setGate hclosing ?_ trivial
      rw [hgate]
      exact nofun
    exact hidle.setPhase hrest nofun hmakes
  | idle =>
    have hclosing : pool.Closing obligation.reference obligation.record.client := by
      rcases hheld with hthere | hsucceeded
      · exact ⟨_, hthere, hstate, rfl⟩
      · rw [hgate] at hsucceeded
        cases hsucceeded
    refine hvalid.setGate hclosing ?_ hclosing
    rw [hgate]
    exact nofun

theorem Valid.settle {obligation : Obligation} {rest : List Obligation} (hvalid : pool.Valid)
    (hphase : pool.phase thread = .settling obligation rest) :
    (pool.settle thread obligation rest).Valid := by
  have hplaced := hvalid.placed thread
  rw [hphase] at hplaced
  obtain ⟨hgate, hstate, hrest⟩ := hplaced
  have hmakes : (pool.phase thread).makes = none := by
    rw [hphase]
    rfl
  unfold Pool.settle
  split
  · next hget =>
    refine (hvalid.erase hget ?_ fun _ => hgate).setPhase hrest (by rintro _ ⟨⟩) hmakes
    exact fun hactive => absurd hstate hactive
  · exact hvalid.setPhase hrest (by rintro _ ⟨⟩) hmakes

/-- Nobody uses the client of an obligation. -/
theorem Sound.activeCount_eq_zero (hsound : pool.Sound) (hclosing : pool.Closing reference client) :
    pool.activeCount client = 0 := by
  obtain ⟨record, hget, hstate, rfl⟩ := hclosing
  unfold activeCount
  refine List.length_eq_zero_iff.mpr (List.filter_eq_nil_iff.mpr ?_)
  intro entry hentry hactive
  obtain ⟨hother, hclient⟩ := Bool.and_eq_true_iff.mp hactive
  have hpooled := hsound.active entry.1 entry.2 (OrderedTable.mem_entries_iff.mp hentry)
    (of_decide_eq_true hother)
  rw [of_decide_eq_true hclient] at hpooled
  exact hsound.unpooled reference record hget hstate hpooled

theorem Valid.invoke (hvalid : pool.Valid) : (pool.invoke reference).Valid := by
  have hfits := hvalid.gates reference
  unfold Pool.invoke
  split
  · next client hgate =>
    rw [hgate] at hfits
    have hopen : ∀ target, pool.gate reference ≠ .succeeded target := by
      rw [hgate]
      exact nofun
    have hunclosed : .closed client ∉ pool.events := by
      intro hclosed
      obtain ⟨record, hget, _, hclient⟩ := hfits
      exact hopen client ((hvalid.closed client hclosed).2 reference record hget hclient).2
    have hmoved : (pool.setGate reference (.closing client)).Valid :=
      hvalid.setGate hfits hopen hfits
    rw [hvalid.activeCount_eq_zero hfits]
    refine hmoved.emit nofun ?_ nofun
    intro target active hevent
    cases hevent
    exact ⟨rfl, hunclosed⟩
  · exact hvalid

/-- The worker has closed the client. -/
theorem Valid.succeed (hvalid : pool.Valid) (hgate : pool.gate reference = .closing client) :
    ((pool.setGate reference (.succeeded client)).emit [.closed client]).Valid := by
  have hclosing := hvalid.gates reference
  rw [hgate] at hclosing
  have hopen : ∀ target, pool.gate reference ≠ .succeeded target := by
    rw [hgate]
    exact nofun
  obtain ⟨record, hget, hstate, hclient⟩ := hclosing
  have hknown := hvalid.known reference record hget
  rw [hclient] at hknown
  have hmem : ∀ target, .closed target ∈ pool.events ++ [.closed client] →
      .closed target ∈ pool.events ∨ target = client := by
    intro target htarget
    rcases List.mem_append.mp htarget with hold | hlast
    · exact Or.inl hold
    · cases List.mem_singleton.mp hlast
      exact Or.inr rfl
  have hgivenUps : ∀ other, other ∈ givenUps (pool.events ++ [.closed client]) ↔
      other ∈ givenUps pool.events :=
    fun other => mem_givenUps_concat.trans (or_iff_left nofun)
  refine ⟨{ hvalid.toSound with
    gates := ?_, closed := ?_, kept := ?_, alone := ?_, orderly := ?_, once := ?_
    gone := ?_ }, ?_, hvalid.distinct⟩
  · intro other
    by_cases hother : other = reference
    · show Pool.GateFits _ other ((pool.setGate reference _).gate other)
      rw [hother, gate_setGate_same]
      refine ⟨hknown.1, List.mem_append_right _ (List.mem_singleton_self _), ?_⟩
      intro found hfound
      cases hget.symm.trans hfound
      exact ⟨hstate, hclient⟩
    · show Pool.GateFits _ other ((pool.setGate reference _).gate other)
      rw [gate_setGate_of_ne hother]
      exact (hvalid.gates other).spared (Nat.le_refl _) rfl
        fun target htarget => List.mem_append_left _ htarget
  · intro target htarget
    rcases hmem target htarget with hold | rfl
    · obtain ⟨htargetKnown, hrecords⟩ := hvalid.closed target hold
      refine ⟨htargetKnown, fun other found hfound hfoundClient => ?_⟩
      obtain ⟨hfoundState, hsucceeded⟩ := hrecords other found hfound hfoundClient
      have hne : other ≠ reference := by
        rintro rfl
        exact hopen target hsucceeded
      exact ⟨hfoundState, (gate_setGate_of_ne hne).trans hsucceeded⟩
    · refine ⟨hknown.2, fun other found hfound hfoundClient => ?_⟩
      have hfoundState : found.state = .closing := by
        by_contra hactive
        have hpooled := hvalid.active other found hfound hactive
        rw [hfoundClient] at hpooled
        exact hvalid.unpooled reference record hget hstate (hclient ▸ hpooled)
      obtain rfl := hvalid.single other reference target ⟨found, hfound, hfoundState, hfoundClient⟩
        ⟨record, hget, hstate, hclient⟩
      exact ⟨hfoundState, gate_setGate_same⟩
  · intro target htarget
    rcases hvalid.kept target htarget with hmakes | hrecord | hold
    · exact Or.inl hmakes
    · exact Or.inr (Or.inl hrecord)
    · exact Or.inr (Or.inr (List.mem_append_left _ hold))
  · intro target active hinvoked
    rcases List.mem_append.mp hinvoked with hold | hlast
    · exact hvalid.alone target active hold
    · cases List.mem_singleton.mp hlast
  · exact hvalid.orderly.concat nofun
  · exact nodup_givenUps_concat hvalid.once nofun
  · exact fun other hother => hvalid.gone other ((hgivenUps other).mp hother)
  · intro other
    have hplaced : (pool.setGate reference (.succeeded client)).Placed other (pool.phase other) :=
      hvalid.placed_setGate ⟨record, hget, hstate, hclient⟩ hopen other
    refine hplaced.spared (fun _ => id) (fun _ => id) ?_ ?_ (fun _ _ => id) (fun _ _ => id)
    · exact fun own _ hbefore => ⟨hbefore.1, hbefore.2.1, hbefore.2.2.1,
        fun hgiven => hbefore.2.2.2 ((hgivenUps own).mp hgiven)⟩
    · intro target _ hunused
      refine ⟨hunused.1, fun hafter => ?_, hunused.2.2⟩
      rcases hmem target hafter with hold | rfl
      · exact hunused.2.1 hold
      · exact hunused.2.2 reference record hget hclient

theorem Valid.ended (succeeded : Bool) (hvalid : pool.Valid) :
    (pool.ended reference succeeded).Valid := by
  have hfits := hvalid.gates reference
  unfold Pool.ended
  split
  · next client hgate =>
    split
    · exact hvalid.succeed hgate
    · rw [hgate] at hfits
      refine hvalid.setGate hfits ?_ ⟨client, hfits⟩
      rw [hgate]
      exact nofun
  · exact hvalid

/-! ### Runs -/

/-- A step does not clean up behind a failed factory while a client is pooled, and does not
    commit a reference that is being closed. -/
def isRegular (pool : Pool) (step : Step) : Bool :=
  match pool.phase step.thread, step.action with
  | .cleaning _, .cleanUp => pool.pooled.isNone
  | .idle, .commit reference =>
      decide ((pool.references.get reference).map ReferenceRecord.state ≠ some .closing)
  | _, _ => true

theorem Valid.act (hvalid : pool.Valid) (step : Step) (hregular : pool.isRegular step = true) :
    (pool.act step.thread step.action).Valid := by
  obtain ⟨thread, action⟩ := step
  have hplaced := hvalid.placed thread
  unfold isRegular at hregular
  unfold Pool.act
  dsimp only at hregular ⊢
  split
  · next hphase => exact hvalid.borrow _ hphase
  · next fingerprint reference hphase =>
    split
    · next hfree =>
      rw [hphase] at hplaced
      refine (hvalid.reserve hfree thread).setPhase ⟨rfl, hplaced⟩ ?_ ?_
      · intro own hown other hother hsame
        cases hown
        exact hother (hvalid.distinct other thread _ hsame (by rw [hphase]; rfl))
      · show (pool.phase thread).makes = none
        rw [hphase]
        rfl
    · exact hvalid
  · next hphase => exact hvalid.look hphase
  · next hphase => exact hvalid.factoryResult _ hphase
  · next hphase => exact hvalid.register hphase
  · next hphase => exact hvalid.leave hphase
  · next hphase =>
    rw [hphase] at hregular
    exact hvalid.cleanUp hphase (Option.isNone_iff_eq_none.mp hregular)
  · next hphase =>
    rw [hphase] at hplaced
    exact hplaced.elim
  · next hphase =>
    rw [hphase] at hplaced
    exact hplaced.elim
  · next reference hphase =>
    rw [hphase] at hregular
    refine hvalid.commit ?_
    intro record hget hclosing
    refine of_decide_eq_true hregular ?_
    rw [hget, Option.map_some, hclosing]
  · next hphase => exact hvalid.release hphase
  · next hphase => exact hvalid.releaseInstalled _ hphase
  · next hphase => exact hvalid.check hphase
  · next hphase => exact hvalid.finish hphase
  · next hphase => exact hvalid.settle hphase
  · exact hvalid.invoke
  · exact hvalid.ended _
  · exact hvalid

end Pool

/-- What the pool promises: the references that are borrowed or installed are to the one
    client that is pooled; a close was invoked only while there was none to the client, and
    not behind a close of it that succeeded; a client that was created is about to be
    registered, or has a reference, or was closed; and no reference was given up twice. -/
structure Pool.Meets (pool : Pool) : Prop where
  pooled : ∀ reference record, pool.references.get reference = some record →
    record.state ≠ .closing → pool.pooledClient = some record.client
  unused : ∀ client active, .invoked client active ∈ pool.events → active = 0
  orderly : Orderly pool.events
  kept : ∀ client, client < pool.nextClient →
    (∃ thread, (pool.phase thread).makes = some client) ∨
      (∃ reference record, pool.references.get reference = some record ∧
        record.client = client) ∨ .closed client ∈ pool.events
  once : (givenUps pool.events).Nodup

/-- **The shared client.**  In a run of regular steps the pool keeps its promise in every
    state. -/
theorem meets_run (steps : List Step)
    (hregular : sharing.Guarded (fun pool step => pool.isRegular step = true) .initial steps) :
    ∀ past, past <+: steps → (sharing.after .initial past).Meets := by
  intro past hpast
  have hpastRegular := hregular.of_prefix sharing hpast
  have hvalid : (sharing.after .initial past).Valid := by
    induction past using List.reverseRecOn with
    | nil => exact initial_valid
    | append_singleton past step ih =>
      have hbefore : past <+: past ++ [step] := List.prefix_append past [step]
      have hstep := hpastRegular.at_prefix sharing (List.prefix_refl _)
      rw [Machine.after_concat]
      exact (ih (hbefore.trans hpast) (hpastRegular.of_prefix sharing hbefore)).act step hstep
  exact ⟨hvalid.active, hvalid.alone, hvalid.orderly, hvalid.kept, hvalid.once⟩

/-- One thread borrows, installs and releases; the first close fails. -/
def regularRun : List Step :=
  [⟨0, .borrow "codex"⟩, ⟨0, .enter⟩, ⟨0, .look⟩, ⟨0, .factory .returns⟩, ⟨0, .register⟩,
    ⟨0, .leave⟩, ⟨0, .commit 0⟩, ⟨0, .releaseInstalled 1⟩, ⟨0, .check⟩, ⟨0, .finish⟩,
    ⟨1, .invoke 0⟩, ⟨1, .ended 0 false⟩, ⟨0, .finish⟩, ⟨0, .check⟩, ⟨0, .release 0⟩,
    ⟨0, .check⟩, ⟨0, .finish⟩, ⟨1, .invoke 0⟩, ⟨1, .ended 0 true⟩, ⟨0, .finish⟩, ⟨0, .settle⟩]

theorem meets_regularRun :
    givenUps (sharing.after .initial regularRun).events = [0] ∧
      (sharing.after .initial regularRun).Meets := by
  refine ⟨by decide, meets_run regularRun ?_ regularRun (List.prefix_refl _)⟩
  exact ⟨rfl, rfl, rfl, rfl, rfl, rfl, rfl, rfl, rfl, rfl, rfl, rfl, rfl, rfl, rfl, rfl, rfl, rfl,
    rfl, rfl, rfl, trivial⟩

/-- A factory fails, and before its borrow cleans up another borrow registers a client. -/
def failedFactory : List Step :=
  [⟨0, .borrow "codex"⟩, ⟨0, .enter⟩, ⟨0, .look⟩, ⟨0, .factory .fails⟩, ⟨0, .leave⟩,
    ⟨1, .borrow "codex"⟩, ⟨1, .enter⟩, ⟨1, .look⟩, ⟨1, .factory .returns⟩, ⟨1, .register⟩,
    ⟨1, .leave⟩, ⟨0, .cleanUp⟩, ⟨0, .discard⟩]

/-- A close fails, and its reference is committed. -/
def lateCommit : List Step :=
  [⟨0, .borrow "codex"⟩, ⟨0, .enter⟩, ⟨0, .look⟩, ⟨0, .factory .returns⟩, ⟨0, .register⟩,
    ⟨0, .leave⟩, ⟨0, .release 0⟩, ⟨0, .check⟩, ⟨0, .finish⟩, ⟨1, .invoke 0⟩,
    ⟨1, .ended 0 false⟩, ⟨0, .finish⟩, ⟨0, .check⟩, ⟨0, .commit 0⟩, ⟨0, .release 0⟩]

theorem not_meets_failedFactory :
    ¬ (sharing.after .initial failedFactory).Meets ∧ ¬ (sharing.after .initial lateCommit).Meets := by
  constructor
  · intro hmeets
    have hinvoked : .invoked 0 1 ∈ (sharing.after .initial failedFactory).events := by decide
    cases hmeets.unused 0 1 hinvoked
  · intro hmeets
    have htwice : ¬ (givenUps (sharing.after .initial lateCommit).events).Nodup := by decide
    exact htwice hmeets.once

end CodexMustWork.ClientPool
