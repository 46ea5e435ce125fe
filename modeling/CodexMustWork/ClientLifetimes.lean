import CodexMustWork.ClientPool

/-!
# The lifetimes of shared clients

In a run that never cleans up behind a failed factory while a client is pooled, and never
commits a reference that is being closed, a client is closed when nobody uses it: the active
references are those to the pooled client, every other reference is the one obligation to
close its client, and only the gate of that obligation closes it.
-/

namespace CodexMustWork.ClientPool

/-! ### What holds between two steps -/

/-- The reference that a borrow has not registered yet. -/
def Phase.pending : Phase → Option ReferenceId
  | .reserving _ reference => some reference
  | .looking _ reference => some reference
  | .creating _ reference => some reference
  | .created _ reference _ => some reference
  | .leaving failed => failed
  | .cleaning reference => some reference
  | _ => none

/-- The client that a borrow has not registered yet. -/
def Phase.makes : Phase → Option ClientId
  | .created _ _ client => some client
  | _ => none

/-- The thread is behind the reservation. -/
def Phase.reserves : Phase → Bool
  | .looking _ _ => true
  | .creating _ _ => true
  | .created _ _ _ => true
  | .leaving _ => true
  | _ => false

/-- The factory is called, or was. -/
def Phase.creates : Phase → Bool
  | .creating _ _ => true
  | .created _ _ _ => true
  | _ => false

/-- The references that were given up, and the client a close of which succeeded. -/
def givenUps (events : List Event) : List ReferenceId :=
  events.filterMap fun event =>
    match event with
    | .givenUp reference => some reference
    | _ => none

namespace Pool

variable (pool : Pool)

def pooledClient : Option ClientId := pool.pooled.map PooledClient.client

/-- The reference has not been registered. -/
def Pending (reference : ReferenceId) : Prop :=
  reference < pool.nextReference ∧ pool.references.get reference = none ∧
    pool.gate reference = .idle ∧ reference ∉ givenUps pool.events

/-- The client has not been registered. -/
def Unused (client : ClientId) : Prop :=
  client < pool.nextClient ∧ .closed client ∉ pool.events ∧
    ∀ reference record, pool.references.get reference = some record → record.client ≠ client

/-- The reference is the obligation to close the client. -/
def Closing (reference : ReferenceId) (client : ClientId) : Prop :=
  ∃ record, pool.references.get reference = some record ∧ record.state = .closing ∧
    record.client = client

/-- The obligation is there, or is fulfilled. -/
def Held (obligation : Obligation) : Prop :=
  pool.references.get obligation.reference = some obligation.record ∨
    pool.gate obligation.reference = .succeeded obligation.record.client

/-- What is true of a thread at its place. -/
def Placed (thread : ℕ) : Phase → Prop
  | .idle => True
  | .reserving _ reference => pool.Pending reference
  | .looking _ reference => pool.reserved = some thread ∧ pool.Pending reference
  | .creating _ reference =>
      pool.reserved = some thread ∧ pool.pooled = none ∧ pool.Pending reference
  | .created _ reference client =>
      pool.reserved = some thread ∧ pool.pooled = none ∧ pool.Pending reference ∧
        pool.Unused client
  | .leaving failed =>
      pool.reserved = some thread ∧ ∀ reference, failed = some reference → pool.Pending reference
  | .cleaning reference => pool.Pending reference
  | .discarding _ => False
  | .discardingClosed _ => False
  | .checking obligations => ∀ obligation ∈ obligations, obligation.record.state = .closing
  | .finishing obligation rest =>
      pool.Held obligation ∧ obligation.record.state = .closing ∧
        ∀ obligation ∈ rest, obligation.record.state = .closing
  | .settling obligation rest =>
      pool.gate obligation.reference = .succeeded obligation.record.client ∧
        obligation.record.state = .closing ∧
        ∀ obligation ∈ rest, obligation.record.state = .closing

/-- What is true of a gate. -/
def GateFits (reference : ReferenceId) : CloseGate → Prop
  | .idle => True
  | .started client => pool.Closing reference client
  | .closing client => pool.Closing reference client
  | .failed => ∃ client, pool.Closing reference client
  | .succeeded client => reference < pool.nextReference ∧ .closed client ∈ pool.events ∧
      ∀ record, pool.references.get reference = some record →
        record.state = .closing ∧ record.client = client

end Pool

/-- Behind a close that succeeded the client is not closed again. -/
def Orderly (events : List Event) : Prop :=
  events.Pairwise fun earlier later => ∀ client active, earlier = .closed client →
    later ≠ .invoked client active

/-- The references, the gates and the events between two steps. -/
structure Pool.Sound (pool : Pool) : Prop where
  known : ∀ reference record, pool.references.get reference = some record →
    reference < pool.nextReference ∧ record.client < pool.nextClient
  active : ∀ reference record, pool.references.get reference = some record →
    record.state ≠ .closing → pool.pooledClient = some record.client
  unpooled : ∀ reference record, pool.references.get reference = some record →
    record.state = .closing → pool.pooledClient ≠ some record.client
  used : ∀ client, pool.pooledClient = some client → ∃ reference record,
    pool.references.get reference = some record ∧ record.state ≠ .closing ∧
      record.client = client
  single : ∀ first second client, pool.Closing first client → pool.Closing second client →
    first = second
  gates : ∀ reference, pool.GateFits reference (pool.gate reference)
  closed : ∀ client, .closed client ∈ pool.events → client < pool.nextClient ∧
    ∀ reference record, pool.references.get reference = some record → record.client = client →
      record.state = .closing ∧ pool.gate reference = .succeeded client
  kept : ∀ client, client < pool.nextClient →
    (∃ thread, (pool.phase thread).makes = some client) ∨
      (∃ reference record, pool.references.get reference = some record ∧
        record.client = client) ∨ .closed client ∈ pool.events
  alone : ∀ client active, .invoked client active ∈ pool.events → active = 0
  orderly : Orderly pool.events
  once : (givenUps pool.events).Nodup
  gone : ∀ reference ∈ givenUps pool.events, reference < pool.nextReference ∧
    ∀ record, pool.references.get reference = some record → record.state = .closing

/-- The pool and its threads between two steps. -/
structure Pool.Valid (pool : Pool) : Prop extends pool.Sound where
  placed : ∀ thread, pool.Placed thread (pool.phase thread)
  distinct : ∀ first second reference, (pool.phase first).pending = some reference →
    (pool.phase second).pending = some reference → first = second

theorem initial_sound : Pool.initial.Sound := by
  refine ⟨?_, ?_, ?_, ?_, ?_, fun _ => trivial, ?_, ?_, ?_, List.Pairwise.nil, List.nodup_nil, ?_⟩
  · intro reference record hget
    cases hget
  · intro reference record hget
    cases hget
  · intro reference record hget
    cases hget
  · intro client hpooled
    cases hpooled
  · rintro first second client ⟨record, hget, _⟩
    cases hget
  · intro client hclosed
    exact absurd hclosed List.not_mem_nil
  · intro client hclient
    exact absurd hclient (Nat.not_lt_zero _)
  · intro client active hinvoked
    exact absurd hinvoked List.not_mem_nil
  · intro reference hgiven
    exact absurd hgiven List.not_mem_nil

theorem initial_valid : Pool.initial.Valid := by
  refine ⟨initial_sound, fun _ => trivial, ?_⟩
  intro first second reference hfirst
  cases hfirst

/-! ### Threads -/

namespace Pool

variable {pool before after : Pool} {thread : ℕ} {phase : Phase} {reference : ReferenceId}
  {client : ClientId}

/-- A thread stays where it is while what it relies on stays. -/
theorem Placed.spared (hplaced : before.Placed thread phase)
    (hreserved : phase.reserves = true → before.reserved = some thread →
      after.reserved = some thread)
    (hpooled : phase.creates = true → before.pooled = none → after.pooled = none)
    (hpending : ∀ reference, phase.pending = some reference → before.Pending reference →
      after.Pending reference)
    (hunused : ∀ client, phase.makes = some client → before.Unused client → after.Unused client)
    (hheld : ∀ obligation : Obligation, obligation.record.state = .closing →
      before.Held obligation → after.Held obligation)
    (hsucceeded : ∀ reference client, before.gate reference = .succeeded client →
      after.gate reference = .succeeded client) : after.Placed thread phase := by
  cases phase with
  | idle => trivial
  | reserving fingerprint reference => exact hpending _ rfl hplaced
  | looking fingerprint reference => exact ⟨hreserved rfl hplaced.1, hpending _ rfl hplaced.2⟩
  | creating fingerprint reference =>
    exact ⟨hreserved rfl hplaced.1, hpooled rfl hplaced.2.1, hpending _ rfl hplaced.2.2⟩
  | created fingerprint reference client =>
    exact ⟨hreserved rfl hplaced.1, hpooled rfl hplaced.2.1, hpending _ rfl hplaced.2.2.1,
      hunused _ rfl hplaced.2.2.2⟩
  | leaving failed =>
    exact ⟨hreserved rfl hplaced.1, fun reference hfailed => hpending _ hfailed
      (hplaced.2 reference hfailed)⟩
  | cleaning reference => exact hpending _ rfl hplaced
  | discarding client => exact hplaced
  | discardingClosed client => exact hplaced
  | checking obligations => exact hplaced
  | finishing obligation rest => exact ⟨hheld _ hplaced.2.1 hplaced.1, hplaced.2⟩
  | settling obligation rest => exact ⟨hsucceeded _ _ hplaced.1, hplaced.2⟩

theorem phase_setPhase_same : (pool.setPhase thread phase).phase thread = phase :=
  Function.update_self _ _ _

theorem phase_setPhase_of_ne {other : ℕ} (hother : other ≠ thread) :
    (pool.setPhase thread phase).phase other = pool.phase other :=
  Function.update_of_ne hother _ _

theorem placed_setPhase {other : ℕ} {place : Phase} :
    (pool.setPhase thread phase).Placed other place ↔ pool.Placed other place := by
  cases place <;> exact Iff.rfl

theorem gateFits_setPhase {gate : CloseGate} :
    (pool.setPhase thread phase).GateFits reference gate ↔ pool.GateFits reference gate := by
  cases gate <;> exact Iff.rfl

/-- A thread moves, and leaves no client behind that is not registered. -/
theorem Sound.setPhase (hsound : pool.Sound)
    (hmakes : ∀ client, (pool.phase thread).makes = some client →
      ∃ reference record, pool.references.get reference = some record ∧ record.client = client) :
    (pool.setPhase thread phase).Sound := by
  refine { hsound with gates := ?_, kept := ?_ }
  · exact fun reference => gateFits_setPhase.mpr (hsound.gates reference)
  · intro client hclient
    rcases hsound.kept client hclient with ⟨other, hother⟩ | hrest
    · by_cases hsame : other = thread
      · subst hsame
        exact Or.inr (Or.inl (hmakes client hother))
      · refine Or.inl ⟨other, ?_⟩
        rw [phase_setPhase_of_ne hsame]
        exact hother
    · exact Or.inr hrest

theorem distinct_setPhase
    (hdistinct : ∀ first second reference, (pool.phase first).pending = some reference →
      (pool.phase second).pending = some reference → first = second)
    (hpending : ∀ reference, phase.pending = some reference →
      ∀ other, other ≠ thread → (pool.phase other).pending ≠ some reference)
    (first second : ℕ) (reference : ReferenceId)
    (hfirst : ((pool.setPhase thread phase).phase first).pending = some reference)
    (hsecond : ((pool.setPhase thread phase).phase second).pending = some reference) :
    first = second := by
  by_cases hone : first = thread
  · by_cases htwo : second = thread
    · rw [hone, htwo]
    · rw [hone, phase_setPhase_same] at hfirst
      rw [phase_setPhase_of_ne htwo] at hsecond
      exact absurd hsecond (hpending reference hfirst second htwo)
  · by_cases htwo : second = thread
    · rw [htwo, phase_setPhase_same] at hsecond
      rw [phase_setPhase_of_ne hone] at hfirst
      exact absurd hfirst (hpending reference hsecond first hone)
    · rw [phase_setPhase_of_ne hone] at hfirst
      rw [phase_setPhase_of_ne htwo] at hsecond
      exact hdistinct first second reference hfirst hsecond

/-- A thread moves to a place that fits. -/
theorem Valid.setPhase (hvalid : pool.Valid) (hplaced : pool.Placed thread phase)
    (hpending : ∀ reference, phase.pending = some reference →
      ∀ other, other ≠ thread → (pool.phase other).pending ≠ some reference)
    (hmakes : (pool.phase thread).makes = none) : (pool.setPhase thread phase).Valid := by
  refine ⟨hvalid.toSound.setPhase ?_, ?_, distinct_setPhase hvalid.distinct hpending⟩
  · intro client hclient
    rw [hmakes] at hclient
    cases hclient
  · intro other
    rw [placed_setPhase]
    by_cases hother : other = thread
    · rw [hother, phase_setPhase_same]
      exact hplaced
    · rw [phase_setPhase_of_ne hother]
      exact hvalid.placed other

/-- A reference that is not registered is not in the table. -/
theorem Pending.ne_of_get {other : ReferenceId} {record : ReferenceRecord}
    (hpending : pool.Pending reference) (hget : pool.references.get other = some record) :
    reference ≠ other := by
  rintro rfl
  cases hpending.2.1.symm.trans hget

theorem Placed.pending (hplaced : pool.Placed thread phase)
    (hpending : phase.pending = some reference) : pool.Pending reference := by
  cases phase with
  | reserving fingerprint own =>
    cases hpending
    exact hplaced
  | looking fingerprint own =>
    cases hpending
    exact hplaced.2
  | creating fingerprint own =>
    cases hpending
    exact hplaced.2.2
  | created fingerprint own client =>
    cases hpending
    exact hplaced.2.2.1
  | leaving failed => exact hplaced.2 reference hpending
  | cleaning own =>
    cases hpending
    exact hplaced
  | idle => cases hpending
  | discarding client => cases hpending
  | discardingClosed client => cases hpending
  | checking obligations => cases hpending
  | finishing obligation rest => cases hpending
  | settling obligation rest => cases hpending

theorem Placed.reserved (hplaced : pool.Placed thread phase) (hreserves : phase.reserves = true) :
    pool.reserved = some thread := by
  cases phase with
  | looking fingerprint own => exact hplaced.1
  | creating fingerprint own => exact hplaced.1
  | created fingerprint own client => exact hplaced.1
  | leaving failed => exact hplaced.1
  | reserving fingerprint own => cases hreserves
  | cleaning own => cases hreserves
  | idle => cases hreserves
  | discarding client => cases hreserves
  | discardingClosed client => cases hreserves
  | checking obligations => cases hreserves
  | finishing obligation rest => cases hreserves
  | settling obligation rest => cases hreserves

/-! ### The reservation and what is new -/

theorem Valid.reserve (hvalid : pool.Valid) (hfree : pool.reserved = none) (thread : ℕ) :
    { pool with reserved := some thread }.Valid := by
  refine ⟨{ hvalid.toSound with gates := hvalid.gates }, ?_, hvalid.distinct⟩
  intro other
  refine (hvalid.placed other).spared ?_ (fun _ => id) (fun _ _ => id) (fun _ _ => id)
    (fun _ _ => id) (fun _ _ => id)
  intro _ hreserved
  rw [hfree] at hreserved
  cases hreserved

theorem Valid.unreserve (hvalid : pool.Valid) (hreserved : pool.reserved = some thread)
    (hphase : (pool.phase thread).reserves = false) : { pool with reserved := none }.Valid := by
  refine ⟨{ hvalid.toSound with gates := hvalid.gates }, ?_, hvalid.distinct⟩
  intro other
  refine (hvalid.placed other).spared ?_ (fun _ => id) (fun _ _ => id) (fun _ _ => id)
    (fun _ _ => id) (fun _ _ => id)
  intro hreserves hother
  rw [hreserved] at hother
  cases hother
  rw [hphase] at hreserves
  cases hreserves

theorem GateFits.spared {gate : CloseGate} (hfits : before.GateFits reference gate)
    (hnext : before.nextReference ≤ after.nextReference)
    (hget : after.references.get reference = before.references.get reference)
    (hclosed : ∀ client, .closed client ∈ before.events → .closed client ∈ after.events) :
    after.GateFits reference gate := by
  have hclosing : ∀ client, before.Closing reference client → after.Closing reference client := by
    unfold Closing
    rw [hget]
    exact fun _ => id
  cases gate with
  | idle => trivial
  | started client => exact hclosing client hfits
  | closing client => exact hclosing client hfits
  | failed =>
    obtain ⟨client, hfits⟩ := hfits
    exact ⟨client, hclosing client hfits⟩
  | succeeded client =>
    refine ⟨Nat.lt_of_lt_of_le hfits.1 hnext, hclosed client hfits.2.1, ?_⟩
    rw [hget]
    exact hfits.2.2

/-- A gate is idle if its reference is not an obligation and was none. -/
theorem GateFits.idle {gate : CloseGate} (hfits : pool.GateFits reference gate)
    (hclosing : ∀ client, ¬ pool.Closing reference client)
    (hsucceeded : ∀ client, gate ≠ .succeeded client) : gate = .idle := by
  cases gate with
  | idle => rfl
  | started client => exact absurd hfits (hclosing client)
  | closing client => exact absurd hfits (hclosing client)
  | failed =>
    obtain ⟨client, hfits⟩ := hfits
    exact absurd hfits (hclosing client)
  | succeeded client => exact absurd rfl (hsucceeded client)

/-- No reference and no gate is made before its number. -/
theorem Sound.new_reference (hsound : pool.Sound) (hnew : pool.nextReference ≤ reference) :
    pool.references.get reference = none ∧ pool.gate reference = .idle ∧
      reference ∉ givenUps pool.events := by
  have hget : pool.references.get reference = none := by
    refine Option.eq_none_iff_forall_not_mem.mpr fun record hrecord => ?_
    exact absurd (hsound.known reference record hrecord).1 (Nat.not_lt.mpr hnew)
  have hfits := hsound.gates reference
  refine ⟨hget, hfits.idle ?_ ?_, fun hgiven => absurd (hsound.gone reference hgiven).1
    (Nat.not_lt.mpr hnew)⟩
  · rintro client ⟨record, hrecord, _⟩
    rw [hget] at hrecord
    cases hrecord
  · intro client hgate
    rw [hgate] at hfits
    exact absurd hfits.1 (Nat.not_lt.mpr hnew)

theorem Sound.nextReference (hsound : pool.Sound) :
    { pool with nextReference := pool.nextReference + 1 }.Sound := by
  refine { hsound with known := ?_, gates := ?_, gone := ?_ }
  · intro reference record hget
    obtain ⟨hreference, hclient⟩ := hsound.known reference record hget
    exact ⟨Nat.lt_succ_of_lt hreference, hclient⟩
  · exact fun reference => (hsound.gates reference).spared (Nat.le_succ _) rfl fun _ => id
  · intro reference hgiven
    obtain ⟨hreference, hrecords⟩ := hsound.gone reference hgiven
    exact ⟨Nat.lt_succ_of_lt hreference, hrecords⟩

theorem Valid.borrow (hvalid : pool.Valid) (fingerprint : String)
    (hidle : pool.phase thread = .idle) :
    ({ pool with nextReference := pool.nextReference + 1 }.setPhase thread
      (.reserving fingerprint pool.nextReference)).Valid := by
  obtain ⟨hget, hgate, hgiven⟩ := hvalid.new_reference (Nat.le_refl pool.nextReference)
  have hnext : { pool with nextReference := pool.nextReference + 1 }.Valid := by
    refine ⟨hvalid.nextReference, ?_, hvalid.distinct⟩
    intro other
    refine (hvalid.placed other).spared (fun _ => id) (fun _ => id) ?_ (fun _ _ => id)
      (fun _ _ => id) (fun _ _ => id)
    exact fun reference _ hpending => ⟨Nat.lt_succ_of_lt hpending.1, hpending.2⟩
  refine hnext.setPhase ?_ ?_ ?_
  · exact ⟨Nat.lt_succ_self _, hget, hgate, hgiven⟩
  · intro reference hpending other _ hother
    cases hpending
    exact absurd ((hvalid.placed other).pending hother).1 (Nat.lt_irrefl _)
  · show (pool.phase thread).makes = none
    rw [hidle]
    rfl

/-- The factory returns a client. -/
theorem Valid.factory {fingerprint : String} (hvalid : pool.Valid)
    (hphase : pool.phase thread = .creating fingerprint reference) :
    ({ pool with nextClient := pool.nextClient + 1 }.setPhase thread
      (.created fingerprint reference pool.nextClient)).Valid := by
  have hplaced := hvalid.placed thread
  rw [hphase] at hplaced
  have hunused : Pool.Unused { pool with nextClient := pool.nextClient + 1 } pool.nextClient := by
    refine ⟨Nat.lt_succ_self _, ?_, ?_⟩
    · exact fun hclosed => absurd (hvalid.closed _ hclosed).1 (Nat.lt_irrefl _)
    · rintro other record hget hclient
      have hknown := (hvalid.known other record hget).2
      rw [hclient] at hknown
      exact absurd hknown (Nat.lt_irrefl _)
  have hpendings : ∀ other, ((pool.setPhase thread
      (.created fingerprint reference pool.nextClient)).phase other).pending =
      (pool.phase other).pending := by
    intro other
    by_cases hother : other = thread
    · rw [hother, phase_setPhase_same, hphase]
      rfl
    · rw [phase_setPhase_of_ne hother]
  refine ⟨{ hvalid.toSound with known := ?_, gates := ?_, closed := ?_, kept := ?_ }, ?_, ?_⟩
  · intro other record hget
    obtain ⟨hother, hclient⟩ := hvalid.known other record hget
    exact ⟨hother, Nat.lt_succ_of_lt hclient⟩
  · exact fun other => (hvalid.gates other).spared (Nat.le_refl _) rfl fun _ => id
  · intro client hclosed
    obtain ⟨hclient, hrecords⟩ := hvalid.closed client hclosed
    exact ⟨Nat.lt_succ_of_lt hclient, hrecords⟩
  · intro client hclient
    rcases Nat.lt_succ_iff_lt_or_eq.mp hclient with hold | rfl
    · rcases hvalid.kept client hold with ⟨other, hother⟩ | hrest
      · refine Or.inl ⟨other, ?_⟩
        have hne : other ≠ thread := by
          rintro rfl
          rw [hphase] at hother
          cases hother
        rw [phase_setPhase_of_ne hne]
        exact hother
      · exact Or.inr hrest
    · refine Or.inl ⟨thread, ?_⟩
      rw [phase_setPhase_same]
      rfl
  · intro other
    rw [placed_setPhase]
    by_cases hother : other = thread
    · rw [hother, phase_setPhase_same]
      exact ⟨hplaced.1, hplaced.2.1, hplaced.2.2, hunused⟩
    · rw [phase_setPhase_of_ne hother]
      refine (hvalid.placed other).spared (fun _ => id) (fun _ => id) (fun _ _ => id) ?_
        (fun _ _ => id) (fun _ _ => id)
      exact fun client _ hunused => ⟨Nat.lt_succ_of_lt hunused.1, hunused.2⟩
  · intro first second own hfirst hsecond
    exact hvalid.distinct first second own ((hpendings first).symm.trans hfirst)
      ((hpendings second).symm.trans hsecond)

/-! ### The table of the references -/

theorem get_record (pool : Pool) (reference : ReferenceId) (client : ClientId)
    (state : ReferenceState) (other : ReferenceId) :
    (pool.record reference client state).references.get other =
      if other = reference then some ⟨client, state, pool.nextRecord⟩
      else pool.references.get other :=
  OrderedTable.get_set _ _ _ _

theorem get_record_of_ne {state : ReferenceState} {other : ReferenceId} (hother : other ≠ reference) :
    (pool.record reference client state).references.get other = pool.references.get other := by
  rw [get_record, if_neg hother]

/-- A record that becomes active closes nothing. -/
theorem closing_record_iff {state : ReferenceState} (hstate : state ≠ .closing)
    (hbefore : ∀ record, pool.references.get reference = some record → record.state ≠ .closing)
    {other : ReferenceId} {target : ClientId} :
    (pool.record reference client state).Closing other target ↔ pool.Closing other target := by
  unfold Closing
  by_cases hother : other = reference
  · subst hother
    constructor
    · rintro ⟨record, hget, hclosing, _⟩
      rw [get_record, if_pos rfl] at hget
      cases hget
      exact absurd hclosing hstate
    · rintro ⟨record, hget, hclosing, _⟩
      exact absurd hclosing (hbefore record hget)
  · rw [get_record_of_ne hother]

/-- An active reference has an idle gate, and was not given up. -/
theorem Sound.idle_of_active (hsound : pool.Sound) {record : ReferenceRecord}
    (hget : pool.references.get reference = some record) (hactive : record.state ≠ .closing) :
    pool.gate reference = .idle ∧ reference ∉ givenUps pool.events := by
  have hfits := hsound.gates reference
  refine ⟨hfits.idle ?_ ?_, fun hgiven => hactive ((hsound.gone reference hgiven).2 record hget)⟩
  · rintro client ⟨found, hfound, hclosing, _⟩
    rw [hget] at hfound
    cases hfound
    exact hactive hclosing
  · intro client hgate
    rw [hgate] at hfits
    exact hactive (hfits.2.2 record hget).1

/-- The pooled client is not closed. -/
theorem Sound.unclosed (hsound : pool.Sound) (hpooled : pool.pooledClient = some client) :
    client < pool.nextClient ∧ .closed client ∉ pool.events := by
  obtain ⟨other, record, hget, hactive, rfl⟩ := hsound.used client hpooled
  refine ⟨(hsound.known other record hget).2, fun hclosed => ?_⟩
  exact hactive ((hsound.closed _ hclosed).2 other record hget rfl).1

/-- A reference to the pooled client becomes active, or stays so. -/
theorem Sound.recordActive {pooled : Option PooledClient} {state : ReferenceState}
    (hsound : pool.Sound) (hstate : state ≠ .closing) (hreference : reference < pool.nextReference)
    (hidle : pool.gate reference = .idle) (hgiven : reference ∉ givenUps pool.events)
    (hclient : client < pool.nextClient) (hunclosed : .closed client ∉ pool.events)
    (hpooled : pooled.map PooledClient.client = some client)
    (hactive : ∀ other record, pool.references.get other = some record →
      record.state ≠ .closing → record.client = client)
    (hclosing : ∀ other record, pool.references.get other = some record →
      record.state = .closing → other ≠ reference ∧ record.client ≠ client) :
    ({ pool with pooled := pooled }.record reference client state).Sound := by
  have hsame : ∀ other, other ≠ reference →
      ({ pool with pooled := pooled }.record reference client state).references.get other =
        pool.references.get other := fun other hother => get_record_of_ne hother
  have hown : ({ pool with pooled := pooled }.record reference client state).references.get
      reference = some ⟨client, state, pool.nextRecord⟩ := OrderedTable.get_set_same _ _ _
  have hbefore : ∀ record, pool.references.get reference = some record →
      record.state ≠ .closing := fun record hget hstate =>
    (hclosing reference record hget hstate).1 rfl
  refine { hsound with
    known := ?_, active := ?_, unpooled := ?_, used := ?_, single := ?_, gates := ?_
    closed := ?_, kept := ?_, gone := ?_ }
  · intro other record hget
    by_cases hother : other = reference
    · rw [hother, hown] at hget
      cases hget
      exact ⟨hother ▸ hreference, hclient⟩
    · exact hsound.known other record ((hsame other hother).symm.trans hget)
  · intro other record hget hrecord
    refine hpooled.trans (congrArg some ?_)
    by_cases hother : other = reference
    · rw [hother, hown] at hget
      cases hget
      rfl
    · exact (hactive other record ((hsame other hother).symm.trans hget) hrecord).symm
  · intro other record hget hrecord hsame'
    by_cases hother : other = reference
    · rw [hother, hown] at hget
      cases hget
      exact hstate hrecord
    · have hnot := (hclosing other record ((hsame other hother).symm.trans hget) hrecord).2
      exact hnot (Option.some.inj (hsame'.symm.trans hpooled))
  · intro target htarget
    exact ⟨reference, _, hown, hstate, Option.some.inj (hpooled.symm.trans htarget)⟩
  · intro first second target hfirst hsecond
    exact hsound.single first second target ((closing_record_iff hstate hbefore).mp hfirst)
      ((closing_record_iff hstate hbefore).mp hsecond)
  · intro other
    by_cases hother : other = reference
    · subst hother
      show Pool.GateFits _ other (pool.gate other)
      rw [hidle]
      trivial
    · exact (hsound.gates other).spared (Nat.le_refl _) (hsame other hother) fun _ => id
  · intro target hclosed
    obtain ⟨htarget, hrecords⟩ := hsound.closed target hclosed
    refine ⟨htarget, fun other record hget hrecord => ?_⟩
    by_cases hother : other = reference
    · rw [hother, hown] at hget
      cases hget
      obtain rfl : client = target := hrecord
      exact absurd hclosed hunclosed
    · exact hrecords other record ((hsame other hother).symm.trans hget) hrecord
  · intro target htarget
    rcases hsound.kept target htarget with hmakes | ⟨other, record, hget, hrecord⟩ | hclosed
    · exact Or.inl hmakes
    · refine Or.inr (Or.inl ?_)
      by_cases hother : other = reference
      · subst hother
        refine ⟨other, _, hown, ?_⟩
        exact (hactive other record hget (hbefore record hget)).symm.trans hrecord
      · exact ⟨other, record, (hsame other hother).trans hget, hrecord⟩
    · exact Or.inr (Or.inr hclosed)
  · intro other hother
    obtain ⟨hknown, hrecords⟩ := hsound.gone other hother
    refine ⟨hknown, fun record hget => ?_⟩
    have hne : other ≠ reference := fun heq => hgiven (heq ▸ hother)
    exact hrecords record ((hsame other hne).symm.trans hget)

/-- Only one thread is behind the reservation. -/
theorem Valid.reserves_of_ne {other : ℕ} (hvalid : pool.Valid)
    (hreserves : (pool.phase thread).reserves = true) (hother : other ≠ thread) :
    (pool.phase other).reserves = false := by
  refine Bool.eq_false_iff.mpr fun hboth => hother ?_
  have hfirst := (hvalid.placed other).reserved hboth
  have hsecond := (hvalid.placed thread).reserved hreserves
  exact Option.some.inj (hfirst.symm.trans hsecond)

theorem reserves_of_creates {place : Phase} (hcreates : place.creates = true) :
    place.reserves = true := by
  cases place <;> first | rfl | cases hcreates

theorem reserves_of_makes {place : Phase} (hmakes : place.makes = some client) :
    place.reserves = true := by
  cases place <;> first | rfl | cases hmakes

/-- A borrow registers its reference. -/
theorem Valid.enlist {pooled : Option PooledClient} (hvalid : pool.Valid)
    (hreserves : (pool.phase thread).reserves = true)
    (hpending : (pool.phase thread).pending = some reference)
    (hmakes : ∀ target, (pool.phase thread).makes = some target → target = client)
    (hsound : ({ pool with pooled := pooled }.record reference client .borrowed).Sound) :
    (({ pool with pooled := pooled }.record reference client .borrowed).setPhase thread
      (.leaving none)).Valid := by
  have hnew := ((hvalid.placed thread).pending hpending).2.1
  refine ⟨hsound.setPhase ?_, ?_, ?_⟩
  · intro target htarget
    rw [hmakes target htarget]
    exact ⟨reference, _, OrderedTable.get_set_same _ _ _, rfl⟩
  · intro other
    rw [placed_setPhase]
    by_cases hother : other = thread
    · rw [hother, phase_setPhase_same]
      exact ⟨(hvalid.placed thread).reserved hreserves, nofun⟩
    · rw [phase_setPhase_of_ne hother]
      have hunreserved := hvalid.reserves_of_ne hreserves hother
      refine (hvalid.placed other).spared (fun _ => id) ?_ ?_ ?_ ?_ (fun _ _ => id)
      · intro hcreates
        rw [reserves_of_creates hcreates] at hunreserved
        cases hunreserved
      · intro own hown hbefore
        have hne : own ≠ reference := by
          rintro rfl
          exact hother (hvalid.distinct other thread own hown hpending)
        refine ⟨hbefore.1, ?_, hbefore.2.2⟩
        exact (get_record_of_ne hne).trans hbefore.2.1
      · intro target htarget
        rw [reserves_of_makes htarget] at hunreserved
        cases hunreserved
      · rintro obligation _ (hthere | hgate)
        · refine Or.inl ?_
          have hne : obligation.reference ≠ reference := by
            intro heq
            rw [heq, hnew] at hthere
            cases hthere
          exact (get_record_of_ne hne).trans hthere
        · exact Or.inr hgate
  · exact distinct_setPhase hvalid.distinct nofun

/-! ### Borrowing -/

theorem Valid.look {fingerprint : String} (hvalid : pool.Valid)
    (hphase : pool.phase thread = .looking fingerprint reference) :
    (pool.look thread fingerprint reference).Valid := by
  have hplaced := hvalid.placed thread
  rw [hphase] at hplaced
  obtain ⟨hreserved, hpending⟩ := hplaced
  have hmakes : (pool.phase thread).makes = none := by
    rw [hphase]
    rfl
  have hown : (pool.phase thread).pending = some reference := by
    rw [hphase]
    rfl
  unfold Pool.look
  split
  · next pooled hpooled =>
    have hclient : pool.pooledClient = some pooled.client := by
      unfold pooledClient
      rw [hpooled]
      rfl
    split
    · refine hvalid.enlist (by rw [hphase]; rfl) hown ?_ ?_
      · intro target htarget
        rw [hmakes] at htarget
        cases htarget
      · obtain ⟨hknown, hunclosed⟩ := hvalid.unclosed hclient
        refine hvalid.recordActive nofun hpending.1 hpending.2.2.1 hpending.2.2.2 hknown hunclosed
          hclient ?_ ?_
        · intro other record hget hactive
          have hsame := hvalid.active other record hget hactive
          exact Option.some.inj (hsame.symm.trans hclient)
        · intro other record hget hclosing
          refine ⟨(hpending.ne_of_get hget).symm, fun hsame => ?_⟩
          exact hvalid.unpooled other record hget hclosing (hsame ▸ hclient)
    · exact hvalid.setPhase ⟨hreserved, nofun⟩ nofun hmakes
  · next hpooled =>
    refine hvalid.setPhase ⟨hreserved, hpooled, hpending⟩ ?_ hmakes
    intro own hpendingOwn other hother hsame
    cases hpendingOwn
    exact hother (hvalid.distinct other thread _ hsame hown)

theorem Valid.factoryResult {fingerprint : String} (result : FactoryResult) (hvalid : pool.Valid)
    (hphase : pool.phase thread = .creating fingerprint reference) :
    (pool.factory thread fingerprint reference result).Valid := by
  have hplaced := hvalid.placed thread
  rw [hphase] at hplaced
  have hmakes : (pool.phase thread).makes = none := by
    rw [hphase]
    rfl
  cases result with
  | returns => exact hvalid.factory hphase
  | fails =>
    refine hvalid.setPhase ⟨hplaced.1, ?_⟩ ?_ hmakes
    · rintro own ⟨rfl⟩
      exact hplaced.2.2
    · rintro own ⟨rfl⟩ other hother hsame
      exact hother (hvalid.distinct other thread _ hsame (by rw [hphase]; rfl))
  | raises => exact hvalid.setPhase ⟨hplaced.1, nofun⟩ nofun hmakes

theorem Valid.register {fingerprint : String} (hvalid : pool.Valid)
    (hphase : pool.phase thread = .created fingerprint reference client) :
    (pool.register thread fingerprint reference client).Valid := by
  have hplaced := hvalid.placed thread
  rw [hphase] at hplaced
  obtain ⟨hreserved, hpooled, hpending, hunused⟩ := hplaced
  refine hvalid.enlist (by rw [hphase]; rfl) (by rw [hphase]; rfl) ?_ ?_
  · intro target htarget
    rw [hphase] at htarget
    exact (Option.some.inj htarget).symm
  · refine hvalid.recordActive nofun hpending.1 hpending.2.2.1 hpending.2.2.2 hunused.1 hunused.2.1
      rfl ?_ ?_
    · intro other record hget hactive
      have hsame := hvalid.active other record hget hactive
      unfold pooledClient at hsame
      rw [hpooled] at hsame
      cases hsame
    · exact fun other record hget _ =>
        ⟨(hpending.ne_of_get hget).symm, hunused.2.2 other record hget⟩

theorem Valid.leave {failed : Option ReferenceId} (hvalid : pool.Valid)
    (hphase : pool.phase thread = .leaving failed) :
    ({ pool with reserved := none }.setPhase thread (behindReservation failed)).Valid := by
  have hplaced := hvalid.placed thread
  rw [hphase] at hplaced
  have hmakes : (pool.phase thread).makes = none := by
    rw [hphase]
    rfl
  have hmoved : ∀ place : Phase, pool.Placed thread place → place.reserves = false →
      (∀ reference, place.pending = some reference → failed = some reference) →
      ({ pool with reserved := none }.setPhase thread place).Valid := by
    intro place hplace hreserves hpending
    have hthere : (pool.setPhase thread place).Valid := by
      refine hvalid.setPhase hplace ?_ hmakes
      intro own hown other hother hsame
      refine hother (hvalid.distinct other thread _ hsame ?_)
      rw [hphase]
      exact hpending own hown
    refine hthere.unreserve hplaced.1 ?_
    rw [phase_setPhase_same]
    exact hreserves
  cases failed with
  | some reference =>
    exact hmoved (.cleaning reference) (hplaced.2 reference rfl) rfl fun _ hown => hown
  | none => exact hmoved .idle trivial rfl nofun

/-- Without a pooled client there is nothing to clean up. -/
theorem Valid.cleanUp (hvalid : pool.Valid) (hphase : pool.phase thread = .cleaning reference)
    (hpooled : pool.pooled = none) : (pool.cleanUp thread reference).Valid := by
  have hplaced := hvalid.placed thread
  rw [hphase] at hplaced
  have hclean : pool.cleanUp thread reference = pool.setPhase thread .idle := by
    unfold Pool.cleanUp
    rw [OrderedTable.erase_of_absent hplaced.2.1, hpooled]
    obtain ⟨reserved, pooled, references, gate, phase, nextReference, nextRecord, nextClient,
      events⟩ := pool
    obtain rfl : pooled = none := hpooled
    rfl
  rw [hclean]
  refine hvalid.setPhase trivial nofun ?_
  rw [hphase]
  rfl

/-! ### Installing and releasing -/

theorem Valid.commit (hvalid : pool.Valid)
    (hregular : ∀ record, pool.references.get reference = some record → record.state ≠ .closing) :
    (pool.commit reference).Valid := by
  unfold Pool.commit
  split
  · exact hvalid
  · next record hget =>
    split
    · exact hvalid
    · have hactive := hregular record hget
      have hclient := hvalid.active reference record hget hactive
      obtain ⟨hidle, hgiven⟩ := hvalid.idle_of_active hget hactive
      obtain ⟨hknown, hunclosed⟩ := hvalid.unclosed hclient
      refine ⟨?_, ?_, hvalid.distinct⟩
      · refine hvalid.recordActive nofun (hvalid.known reference record hget).1 hidle hgiven hknown
          hunclosed hclient ?_ ?_
        · intro other found hfound hstate
          have hsame := hvalid.active other found hfound hstate
          exact Option.some.inj (hsame.symm.trans hclient)
        · intro other found hfound hclosing
          refine ⟨?_, ?_⟩
          · rintro rfl
            rw [hget] at hfound
            cases hfound
            exact hactive hclosing
          · intro hsame
            exact hvalid.unpooled other found hfound hclosing (hsame ▸ hclient)
      · intro other
        refine (hvalid.placed other).spared (fun _ => id) (fun _ => id) ?_ ?_ ?_ (fun _ _ => id)
        · intro own _ hbefore
          have hne := hbefore.ne_of_get hget
          exact ⟨hbefore.1, (get_record_of_ne hne).trans hbefore.2.1, hbefore.2.2⟩
        · intro target _ hbefore
          refine ⟨hbefore.1, hbefore.2.1, fun own found hfound => ?_⟩
          by_cases hown : own = reference
          · rw [hown, get_record, if_pos rfl] at hfound
            cases hfound
            exact hbefore.2.2 reference record hget
          · exact hbefore.2.2 own found ((get_record_of_ne hown).symm.trans hfound)
        · rintro obligation hclosing (hthere | hgate)
          · refine Or.inl ((get_record_of_ne ?_).trans hthere)
            intro heq
            rw [heq, hget] at hthere
            cases hthere
            exact hactive hclosing
          · exact Or.inr hgate

/-- A reference is deleted: another one is active if it was, and its obligation is fulfilled
    if it was one. -/
theorem Valid.erase {record : ReferenceRecord} (hvalid : pool.Valid)
    (hget : pool.references.get reference = some record)
    (hactive : record.state ≠ .closing → ∃ other found, other ≠ reference ∧
      pool.references.get other = some found ∧ found.state ≠ .closing)
    (hclosing : record.state = .closing → pool.gate reference = .succeeded record.client) :
    { pool with references := pool.references.erase reference }.Valid := by
  have hsame : ∀ other, other ≠ reference →
      (pool.references.erase reference).get other = pool.references.get other :=
    fun other hother => OrderedTable.get_erase_of_ne hother
  have hbefore : ∀ other found, (pool.references.erase reference).get other = some found →
      other ≠ reference ∧ pool.references.get other = some found :=
    fun other found hfound => OrderedTable.mem_erase_iff.mp hfound
  have hgone : ∀ other target,
      Pool.Closing { pool with references := pool.references.erase reference } other target →
        pool.Closing other target := by
    rintro other target ⟨found, hfound, hstate⟩
    exact ⟨found, (hbefore other found hfound).2, hstate⟩
  refine ⟨{ hvalid.toSound with
    known := ?_, active := ?_, unpooled := ?_, used := ?_, single := ?_, gates := ?_
    closed := ?_, kept := ?_, gone := ?_ }, ?_, hvalid.distinct⟩
  · exact fun other found hfound => hvalid.known other found (hbefore other found hfound).2
  · exact fun other found hfound => hvalid.active other found (hbefore other found hfound).2
  · exact fun other found hfound => hvalid.unpooled other found (hbefore other found hfound).2
  · intro target htarget
    obtain ⟨other, found, hfound, hstate, hclient⟩ := hvalid.used target htarget
    by_cases hother : other = reference
    · rw [hother, hget] at hfound
      cases hfound
      obtain ⟨another, left, hne, hleft, hstate'⟩ := hactive hstate
      refine ⟨another, left, (hsame another hne).trans hleft, hstate', ?_⟩
      have hpooled := hvalid.active another left hleft hstate'
      exact Option.some.inj (hpooled.symm.trans htarget)
    · exact ⟨other, found, (hsame other hother).trans hfound, hstate, hclient⟩
  · exact fun first second target hfirst hsecond =>
      hvalid.single first second target (hgone first target hfirst) (hgone second target hsecond)
  · intro other
    by_cases hother : other = reference
    · subst hother
      have hfits := hvalid.gates other
      by_cases hstate : record.state = .closing
      · show Pool.GateFits _ other (pool.gate other)
        rw [hclosing hstate] at hfits ⊢
        exact ⟨hfits.1, hfits.2.1, fun found hfound => absurd rfl (hbefore other found hfound).1⟩
      · show Pool.GateFits _ other (pool.gate other)
        rw [(hvalid.idle_of_active hget hstate).1]
        trivial
    · exact (hvalid.gates other).spared (Nat.le_refl _) (hsame other hother) fun _ => id
  · intro target htarget
    obtain ⟨hknown, hrecords⟩ := hvalid.closed target htarget
    exact ⟨hknown, fun other found hfound => hrecords other found (hbefore other found hfound).2⟩
  · intro target htarget
    rcases hvalid.kept target htarget with hmakes | ⟨other, found, hfound, hclient⟩ | hclosed
    · exact Or.inl hmakes
    · by_cases hother : other = reference
      · rw [hother, hget] at hfound
        cases hfound
        by_cases hstate : record.state = .closing
        · have hfits := hvalid.gates reference
          rw [hclosing hstate] at hfits
          exact Or.inr (Or.inr (hclient ▸ hfits.2.1))
        · obtain ⟨another, left, hne, hleft, hstate'⟩ := hactive hstate
          refine Or.inr (Or.inl ⟨another, left, (hsame another hne).trans hleft, ?_⟩)
          have hpooled := hvalid.active another left hleft hstate'
          rw [hvalid.active reference record hget hstate] at hpooled
          exact (Option.some.inj hpooled).symm.trans hclient
      · exact Or.inr (Or.inl ⟨other, found, (hsame other hother).trans hfound, hclient⟩)
    · exact Or.inr (Or.inr hclosed)
  · intro other hother
    obtain ⟨hknown, hrecords⟩ := hvalid.gone other hother
    exact ⟨hknown, fun found hfound => hrecords found (hbefore other found hfound).2⟩
  · intro other
    refine (hvalid.placed other).spared (fun _ => id) (fun _ => id) ?_ ?_ ?_ (fun _ _ => id)
    · intro own _ hpending
      have hne := hpending.ne_of_get hget
      exact ⟨hpending.1, (hsame own hne).trans hpending.2.1, hpending.2.2⟩
    · intro target _ hunused
      exact ⟨hunused.1, hunused.2.1, fun own found hfound =>
        hunused.2.2 own found (hbefore own found hfound).2⟩
    · rintro obligation hstate (hthere | hgate)
      · by_cases heq : obligation.reference = reference
        · rw [heq, hget] at hthere
          cases hthere
          exact Or.inr (heq ▸ hclosing hstate)
        · exact Or.inl ((hsame _ heq).trans hthere)
      · exact Or.inr hgate

/-- The last active reference becomes the obligation to close its client. -/
theorem Valid.oblige {record : ReferenceRecord} (hvalid : pool.Valid)
    (hget : pool.references.get reference = some record) (hactive : record.state ≠ .closing)
    (hlast : ∀ other found, other ≠ reference → pool.references.get other = some found →
      found.state = .closing) : (pool.oblige reference record.client).Valid := by
  have hsame : ∀ other, other ≠ reference →
      (pool.oblige reference record.client).references.get other = pool.references.get other :=
    fun other hother => get_record_of_ne hother
  have hown : (pool.oblige reference record.client).references.get reference =
      some ⟨record.client, .closing, pool.nextRecord⟩ := OrderedTable.get_set_same _ _ _
  have hclient := hvalid.active reference record hget hactive
  have hunclosing : ∀ other, ¬ pool.Closing other record.client := by
    rintro other ⟨found, hfound, hstate, hsame⟩
    exact hvalid.unpooled other found hfound hstate (hsame ▸ hclient)
  have hclosing : ∀ other target, other ≠ reference →
      (pool.oblige reference record.client).Closing other target → pool.Closing other target := by
    rintro other target hother ⟨found, hfound, hstate⟩
    exact ⟨found, (hsame other hother).symm.trans hfound, hstate⟩
  have hnew : ∀ target, (pool.oblige reference record.client).Closing reference target →
      target = record.client := by
    rintro target ⟨found, hfound, _, rfl⟩
    rw [hown] at hfound
    cases hfound
    rfl
  refine ⟨{ hvalid.toSound with
    known := ?_, active := ?_, unpooled := nofun, used := nofun, single := ?_, gates := ?_
    closed := ?_, kept := ?_, gone := ?_ }, ?_, hvalid.distinct⟩
  · intro other found hfound
    by_cases hother : other = reference
    · rw [hother, hown] at hfound
      cases hfound
      exact hother ▸ hvalid.known reference record hget
    · exact hvalid.known other found ((hsame other hother).symm.trans hfound)
  · intro other found hfound hstate
    by_cases hother : other = reference
    · rw [hother, hown] at hfound
      cases hfound
      exact absurd rfl hstate
    · exact absurd (hlast other found hother ((hsame other hother).symm.trans hfound)) hstate
  · intro first second target hfirst hsecond
    by_cases hone : first = reference
    · by_cases htwo : second = reference
      · rw [hone, htwo]
      · rw [hone] at hfirst
        rw [hnew target hfirst] at hsecond
        exact absurd (hclosing second _ htwo hsecond) (hunclosing second)
    · by_cases htwo : second = reference
      · rw [htwo] at hsecond
        rw [hnew target hsecond] at hfirst
        exact absurd (hclosing first _ hone hfirst) (hunclosing first)
      · exact hvalid.single first second target (hclosing first target hone hfirst)
          (hclosing second target htwo hsecond)
  · intro other
    by_cases hother : other = reference
    · show Pool.GateFits _ other (pool.gate other)
      rw [hother, (hvalid.idle_of_active hget hactive).1]
      trivial
    · exact (hvalid.gates other).spared (Nat.le_refl _) (hsame other hother) fun _ => id
  · intro target htarget
    obtain ⟨hknown, hrecords⟩ := hvalid.closed target htarget
    refine ⟨hknown, fun other found hfound hfoundClient => ?_⟩
    by_cases hother : other = reference
    · rw [hother, hown] at hfound
      cases hfound
      exact absurd (hrecords reference record hget hfoundClient).1 hactive
    · exact hrecords other found ((hsame other hother).symm.trans hfound) hfoundClient
  · intro target htarget
    rcases hvalid.kept target htarget with hmakes | ⟨other, found, hfound, hfoundClient⟩ | hclosed
    · exact Or.inl hmakes
    · refine Or.inr (Or.inl ?_)
      by_cases hother : other = reference
      · rw [hother, hget] at hfound
        cases hfound
        exact ⟨reference, _, hown, hfoundClient⟩
      · exact ⟨other, found, (hsame other hother).trans hfound, hfoundClient⟩
    · exact Or.inr (Or.inr hclosed)
  · intro other hother
    obtain ⟨hknown, hrecords⟩ := hvalid.gone other hother
    refine ⟨hknown, fun found hfound => ?_⟩
    by_cases heq : other = reference
    · exact absurd (hrecords record (heq ▸ hget)) hactive
    · exact hrecords found ((hsame other heq).symm.trans hfound)
  · intro other
    refine (hvalid.placed other).spared (fun _ => id) (fun _ _ => rfl) ?_ ?_ ?_ (fun _ _ => id)
    · intro own _ hpending
      have hne := hpending.ne_of_get hget
      exact ⟨hpending.1, (hsame own hne).trans hpending.2.1, hpending.2.2⟩
    · intro target _ hunused
      refine ⟨hunused.1, hunused.2.1, fun own found hfound => ?_⟩
      by_cases hother : own = reference
      · rw [hother, hown] at hfound
        cases hfound
        exact hunused.2.2 reference record hget
      · exact hunused.2.2 own found ((hsame own hother).symm.trans hfound)
    · rintro obligation hstate (hthere | hgate)
      · refine Or.inl ((hsame _ ?_).trans hthere)
        intro heq
        rw [heq, hget] at hthere
        cases hthere
        exact hactive hstate
      · exact Or.inr hgate

end Pool

/-! ### Events -/

theorem mem_givenUps_concat {events : List Event} {event : Event} {reference : ReferenceId} :
    reference ∈ givenUps (events ++ [event]) ↔
      reference ∈ givenUps events ∨ event = .givenUp reference := by
  unfold givenUps
  rw [List.filterMap_append, List.mem_append]
  refine or_congr Iff.rfl ?_
  cases event with
  | givenUp other =>
    refine List.mem_singleton.trans ?_
    rw [Event.givenUp.injEq]
    exact eq_comm
  | invoked client active => exact iff_of_false List.not_mem_nil nofun
  | closed client => exact iff_of_false List.not_mem_nil nofun

theorem nodup_givenUps_concat {events : List Event} {event : Event}
    (honce : (givenUps events).Nodup)
    (hnew : ∀ reference, event = .givenUp reference → reference ∉ givenUps events) :
    (givenUps (events ++ [event])).Nodup := by
  have hsplit : givenUps (events ++ [event]) = givenUps events ++ givenUps [event] :=
    List.filterMap_append
  rw [hsplit]
  cases event with
  | givenUp reference =>
    refine honce.append (List.nodup_singleton _) ?_
    intro other hother hsame
    exact hnew reference rfl (List.mem_singleton.mp hsame ▸ hother)
  | invoked client active => exact (List.append_nil _).symm ▸ honce
  | closed client => exact (List.append_nil _).symm ▸ honce

theorem Orderly.concat {events : List Event} {event : Event} (horderly : Orderly events)
    (hevent : ∀ client active, event = .invoked client active → .closed client ∉ events) :
    Orderly (events ++ [event]) := by
  refine List.pairwise_append.mpr ⟨horderly, List.pairwise_singleton _ _, ?_⟩
  intro earlier hearlier later hlater client active hclosed hinvoked
  rw [List.mem_singleton.mp hlater] at hinvoked
  exact hevent client active hinvoked (hclosed ▸ hearlier)

namespace Pool

variable {pool : Pool} {thread : ℕ} {reference : ReferenceId} {client : ClientId}

/-- Something happens that is not the end of a close. -/
theorem Valid.emit {event : Event} (hvalid : pool.Valid)
    (hopen : ∀ client, event ≠ .closed client)
    (hinvoked : ∀ client active, event = .invoked client active →
      active = 0 ∧ .closed client ∉ pool.events)
    (hgivenUp : ∀ reference, event = .givenUp reference → reference < pool.nextReference ∧
      reference ∉ givenUps pool.events ∧
      (∀ record, pool.references.get reference = some record → record.state = .closing) ∧
      ∀ thread, (pool.phase thread).pending ≠ some reference) :
    (pool.emit [event]).Valid := by
  have hclosed : ∀ client, .closed client ∈ pool.events ++ [event] ↔
      .closed client ∈ pool.events := by
    intro client
    rw [List.mem_append, List.mem_singleton]
    exact or_iff_left fun hsame => hopen client hsame.symm
  refine ⟨{ hvalid.toSound with
    gates := ?_, closed := ?_, kept := ?_, alone := ?_, orderly := ?_, once := ?_
    gone := ?_ }, ?_, hvalid.distinct⟩
  · exact fun other => (hvalid.gates other).spared (Nat.le_refl _) rfl
      fun client => (hclosed client).mpr
  · exact fun client hafter => hvalid.closed client ((hclosed client).mp hafter)
  · intro client hclient
    rcases hvalid.kept client hclient with hmakes | hrecord | hold
    · exact Or.inl hmakes
    · exact Or.inr (Or.inl hrecord)
    · exact Or.inr (Or.inr ((hclosed client).mpr hold))
  · intro client active hmem
    rcases List.mem_append.mp hmem with hold | hlast
    · exact hvalid.alone client active hold
    · exact (hinvoked client active (List.mem_singleton.mp hlast).symm).1
  · exact hvalid.orderly.concat fun client active hevent => (hinvoked client active hevent).2
  · exact nodup_givenUps_concat hvalid.once fun reference hevent => (hgivenUp reference hevent).2.1
  · intro other hother
    rcases mem_givenUps_concat.mp hother with hold | hlast
    · exact hvalid.gone other hold
    · obtain ⟨hknown, _, hrecords, _⟩ := hgivenUp other hlast
      exact ⟨hknown, hrecords⟩
  · intro other
    refine (hvalid.placed other).spared (fun _ => id) (fun _ => id) ?_ ?_ (fun _ _ => id)
      (fun _ _ => id)
    · intro own hown hbefore
      refine ⟨hbefore.1, hbefore.2.1, hbefore.2.2.1, fun hgiven => ?_⟩
      rcases mem_givenUps_concat.mp hgiven with hold | hlast
      · exact hbefore.2.2.2 hold
      · exact (hgivenUp own hlast).2.2.2 other hown
    · exact fun client _ hunused =>
        ⟨hunused.1, fun hafter => hunused.2.1 ((hclosed client).mp hafter), hunused.2.2⟩

/-- A reference is given up for the first time. -/
theorem Valid.giveUp (hvalid : pool.Valid) (hknown : reference < pool.nextReference)
    (hnew : reference ∉ givenUps pool.events)
    (hrecords : ∀ record, pool.references.get reference = some record → record.state = .closing)
    (hpending : ∀ thread, (pool.phase thread).pending ≠ some reference) :
    (pool.emit [.givenUp reference]).Valid := by
  refine hvalid.emit nofun nofun ?_
  intro other hother
  cases hother
  exact ⟨hknown, hnew, hrecords, hpending⟩

end Pool

end CodexMustWork.ClientPool
