import CodexMustWork.ArchiveMembership
import CodexMustWork.RuntimeTree

/-!
# What an extraction adds to a disk

A call of the extraction leaves every object of the disk as it is, and adds directories and
files below the root only, whatever fails and wherever the process dies.  The one file that
is open is the exception: it is new, and it grows.
-/

namespace CodexMustWork.PortableRuntime

open DisturbedRuns PosixPaths

/-! ### Interruptions -/

/-- What a call of the system fails with for a reason of its own.  That there is no
    directory is not one of them. -/
inductive Interruption where
  | osError
  | other (identity : ℕ)
deriving DecidableEq, Repr

def Interruption.failure : Interruption → RuntimeFailure
  | .osError => .os .other
  | .other identity => .other identity

theorem Interruption.failure_ne (interruption : Interruption) :
    interruption.failure ≠ .os .fileNotFound := by
  cases interruption <;> exact nofun

/-- Any calls may fail, and the process may die before any of them; nobody else writes. -/
def interrupted (faults : RuntimeSite → Option Interruption) (dies : RuntimeSite → Bool) :
    Disturbance RuntimeSite Tree RuntimeFailure where
  before _ := id
  fault site := (faults site).map Interruption.failure
  crash := dies

variable {faults : RuntimeSite → Option Interruption} {dies : RuntimeSite → Bool}

theorem interrupted_solitary : (interrupted faults dies).Solitary := fun _ _ => rfl

/-! ### Locations -/

/-- The location with further names below it, the last one first. -/
def Location.descend (location : Location) (names : List PyText) : Location :=
  { location with names := names ++ location.names }

variable {root location : Location} {names : List PyText}

theorem Location.descend_below (hnames : names ≠ []) : (root.descend names).Below root := by
  refine ⟨rfl, List.suffix_append names root.names, ?_⟩
  intro hsame
  have hlength := congrArg (fun other : Location => other.names.length) hsame
  have hpos := List.length_pos_of_ne_nil hnames
  simp only [Location.descend, List.length_append] at hlength
  omega

theorem Location.descend_injective : Function.Injective root.descend := by
  intro first second hsame
  exact List.append_cancel_right (congrArg Location.names hsame)

/-- The location of a path with plain names added. -/
theorem HostPath.location_append {path : HostPath} (hplain : ∀ name ∈ names, name ≠ pyText "..") :
    (⟨path.anchor, names ++ path.names⟩ : HostPath).location = path.location.descend names := by
  induction names with
  | nil => rfl
  | cons name rest ih =>
    have hrest := ih fun other hother => hplain other (List.mem_cons_of_mem _ hother)
    have hnames := congrArg Location.names hrest
    have hname : (⟨path.anchor, name :: rest ++ path.names⟩ : HostPath).location.names =
        name :: (⟨path.anchor, rest ++ path.names⟩ : HostPath).location.names :=
      if_neg (hplain name List.mem_cons_self)
    rw [hnames] at hname
    exact Location.ext rfl hname

/-! ### Trees -/

/-- What an extraction makes. -/
def Made (node : Node) : Prop := node = .directory ∨ ∃ data mode, node = .file data mode

theorem Made.ne_missing {node : Node} (hmade : Made node) : node ≠ .missing := by
  rcases hmade with rfl | ⟨data, mode, rfl⟩
  · rintro ⟨⟩
  · rintro ⟨⟩

/-- Objects were added below the root, and nothing else changed. -/
def Grown (root : Location) (before after : Tree) : Prop :=
  ∀ location, after.node location = before.node location ∨
    location.Below root ∧ before.node location = .missing ∧ Made (after.node location)

variable {before mid after : Tree}

theorem Grown.refl : Grown root before before := fun _ => Or.inl rfl

theorem Grown.trans (hfirst : Grown root before mid) (hsecond : Grown root mid after) :
    Grown root before after := by
  intro location
  rcases hsecond location with hsame | ⟨hbelow, hmissing, hmade⟩
  · rw [hsame]
    exact hfirst location
  · rcases hfirst location with hsame | ⟨-, -, hmid⟩
    · exact Or.inr ⟨hbelow, hsame ▸ hmissing, hmade⟩
    · exact absurd hmissing hmid.ne_missing

theorem Grown.node_eq (hgrown : Grown root before after)
    (hthere : before.node location ≠ .missing) : after.node location = before.node location := by
  rcases hgrown location with hsame | ⟨-, hmissing, -⟩
  · exact hsame
  · exact absurd hmissing hthere

theorem Grown.missing (hgrown : Grown root before after)
    (hmissing : after.node location = .missing) : before.node location = .missing := by
  rcases hgrown location with hsame | ⟨-, hbefore, -⟩
  · rw [← hsame, hmissing]
  · exact hbefore

theorem Tree.create_ok {tree next : Tree} {node : Node}
    (hcreated : tree.create location node = .ok next) :
    tree.node location = .missing ∧ next.node = Function.update tree.node location node := by
  unfold Tree.create at hcreated
  split at hcreated
  · next hfree =>
    split at hcreated
    · cases hcreated
      exact ⟨hfree, rfl⟩
    · split at hcreated <;> cases hcreated
  · cases hcreated

/-- Where there is something, nothing is created. -/
theorem Tree.create_there {tree : Tree} {node : Node} (hthere : tree.node location ≠ .missing) :
    tree.create location node = .error (.os .fileExists) :=
  dif_neg hthere

theorem Tree.change_ok {tree next : Tree} {change : List UInt8 → ℕ → List UInt8 × ℕ}
    {data : List UInt8} {mode : ℕ} (hnode : tree.node location = .file data mode)
    (hchanged : tree.change location change = .ok next) :
    next.node = Function.update tree.node location
      (.file (change data mode).1 (change data mode).2) := by
  unfold Tree.change at hchanged
  split at hchanged
  · next found foundMode hfound =>
    cases hchanged
    cases hnode.symm.trans hfound
    rfl
  · cases hchanged

theorem Grown.create {node : Node} {next : Tree} (hgrown : Grown root before after)
    (hbelow : location.Below root) (hmade : Made node)
    (hcreated : after.create location node = .ok next) : Grown root before next := by
  obtain ⟨hmissing, hnext⟩ := Tree.create_ok hcreated
  refine hgrown.trans ?_
  intro other
  by_cases hsame : other = location
  · subst hsame
    rw [hnext, Function.update_self]
    exact Or.inr ⟨hbelow, hmissing, hmade⟩
  · rw [hnext, Function.update_of_ne hsame]
    exact Or.inl rfl

/-- What is below a location lies in directories. -/
theorem Tree.directory_above (tree : Tree) {names : List PyText} (hnames : names ≠ [])
    (hthere : tree.node (location.descend names) ≠ .missing) :
    tree.node location = .directory := by
  induction names with
  | nil => exact absurd rfl hnames
  | cons name rest ih =>
    have hparent := tree.rooted _ hthere (by exact nofun)
    change tree.node (location.descend rest) = .directory at hparent
    by_cases hrest : rest = []
    · subst hrest
      exact hparent
    · refine ih hrest ?_
      rw [hparent]
      exact nofun

/-! ### Directories -/

variable {path : HostPath} {base : Tree}

theorem unlessDirectory_keeps {inv : Tree → Prop} (failure : RuntimeFailure) :
    Keeps (interrupted faults dies) inv (unlessDirectory path failure) := by
  cases failure with
  | os kind =>
    refine Keeps.bind (Keeps.look interrupted_solitary) fun found => ?_
    exact Keeps.ite Keeps.pure Keeps.raise
  | install reason => exact Keeps.raise
  | tar => exact Keeps.raise
  | other identity => exact Keeps.raise

/-- At a directory that is there, the system says that it is. -/
theorem makeDirectories_there (hthere : base.node path.location = .directory) :
    Keeps (interrupted faults dies) (Grown root base)
      (makeDirectories path.anchor path.names) := by
  have hblocked : ∀ tree, Grown root base tree →
      tree.create path.location .directory = .error (.os .fileExists) := by
    intro tree hgrown
    have hbefore : base.node path.location ≠ .missing := by
      rw [hthere]
      exact nofun
    refine Tree.create_there ?_
    rw [hgrown.node_eq hbefore]
    exact hbefore
  have hbody : Triple (interrupted faults dies) (Grown root base)
      (Run.act (.mkdir path) fun tree => tree.create path.location .directory)
      ⟨fun _ => Grown root base,
        fun failure tree => failure ≠ .os .fileNotFound ∧ Grown root base tree,
        Grown root base⟩ := by
    refine Triple.operation_alone interrupted_solitary (fun _ => id) ?_ ?_ ?_
    · intro failure hfault tree hgrown
      obtain ⟨interruption, -, rfl⟩ := Option.map_eq_some_iff.mp hfault
      exact ⟨interruption.failure_ne, hgrown⟩
    · intro failure tree hgrown hfailed
      dsimp only at hfailed
      rw [hblocked tree hgrown] at hfailed
      cases hfailed
      exact ⟨nofun, hgrown⟩
    · intro _ tree next hgrown hcreated
      dsimp only at hcreated
      rw [hblocked tree hgrown] at hcreated
      cases hcreated
  have hhandler : ∀ (failure : RuntimeFailure) (above : RuntimeCall Unit),
      Triple (interrupted faults dies)
        (fun tree => failure ≠ .os .fileNotFound ∧ Grown root base tree)
        (if failure = .os .fileNotFound then above else unlessDirectory path failure)
        (Post.always (Grown root base)) := by
    intro failure above
    refine Triple.ite ?_ ?_
    · rintro rfl tree ⟨hnot, -⟩
      exact absurd rfl hnot
    · intro _ tree hpre
      exact unlessDirectory_keeps failure tree hpre.2
  obtain ⟨anchor, names⟩ := path
  cases names with
  | nil => exact Triple.attempt hbody fun failure => hhandler failure _
  | cons name above => exact Triple.attempt hbody fun failure => hhandler failure _

/-- The directories of a path below the root. -/
theorem makeDirectories_below (hthere : base.node path.location = .directory)
    (hplain : ∀ name ∈ names, name ≠ pyText "..") :
    Keeps (interrupted faults dies) (Grown path.location base)
      (makeDirectories path.anchor (names ++ path.names)) := by
  induction names with
  | nil => exact makeDirectories_there hthere
  | cons name rest ih =>
    have hrest := ih fun other hother => hplain other (List.mem_cons_of_mem _ hother)
    have hcreate : ∀ tree next, Grown path.location base tree →
        tree.create (⟨path.anchor, name :: rest ++ path.names⟩ : HostPath).location .directory =
          .ok next → Grown path.location base next := by
      intro tree next hgrown hcreated
      rw [HostPath.location_append hplain] at hcreated
      exact hgrown.create (Location.descend_below (List.cons_ne_nil _ _)) (Or.inl rfl) hcreated
    refine Keeps.attempt (Keeps.act interrupted_solitary hcreate) fun failure => ?_
    refine Keeps.ite (Keeps.bind hrest fun _ => ?_) (unlessDirectory_keeps failure)
    refine Keeps.attempt (Keeps.act interrupted_solitary hcreate) fun failure => ?_
    exact Keeps.ite Keeps.raise (unlessDirectory_keeps failure)

/-! ### Files -/

/-- A new file is open. -/
structure Holding (root : Location) (base : Tree) (location : Location) (data : List UInt8)
    (mode : ℕ) (tree : Tree) : Prop where
  grown : Grown root base tree
  fresh : base.node location = .missing
  node : tree.node location = .file data mode

variable {data more : List UInt8} {mode : ℕ} {tree next : Tree}

theorem Holding.change {change : List UInt8 → ℕ → List UInt8 × ℕ}
    (hholding : Holding root base location data mode tree) (hbelow : location.Below root)
    (hchanged : tree.change location change = .ok next) :
    Holding root base location (change data mode).1 (change data mode).2 next := by
  have hnext := Tree.change_ok hholding.node hchanged
  refine ⟨?_, hholding.fresh, by rw [hnext, Function.update_self]⟩
  intro other
  by_cases hsame : other = location
  · subst hsame
    rw [hnext, Function.update_self]
    exact Or.inr ⟨hbelow, hholding.fresh, Or.inr ⟨_, _, rfl⟩⟩
  · rw [hnext, Function.update_of_ne hsame]
    exact hholding.grown other

theorem open_holding {device : Bool} (hfile : device = false) (hbelow : path.location.Below root)
    (mode : ℕ) :
    Triple (interrupted faults dies) (Grown root base)
      (Run.act (.open path) fun tree =>
        if device then .ok tree else tree.create path.location (.file [] mode))
      ⟨fun _ => Holding root base path.location [] mode, fun _ => Grown root base,
        Grown root base⟩ := by
  subst hfile
  refine Triple.act_alone interrupted_solitary (fun _ => id) (fun _ _ => id) ?_
  intro tree next hgrown hcreated
  rw [if_neg Bool.false_ne_true] at hcreated
  obtain ⟨hmissing, hnext⟩ := Tree.create_ok hcreated
  refine ⟨hgrown.create hbelow (Or.inr ⟨_, _, rfl⟩) hcreated, hgrown.missing hmissing, ?_⟩
  rw [hnext, Function.update_self]

/-- What a copy writes is what it reads, up to where it stops. -/
theorem copyChunks_holding (hbelow : path.location.Below root) {source : Source} {remaining : ℕ} :
    Triple (interrupted faults dies) (Holding root base path.location data mode)
      (copyChunks false path source remaining)
      ⟨fun copied tree => Holding root base path.location (data ++ copied.1) mode tree ∧
          copied.1 ++ copied.2.left = source.left ∧ copied.1.length = remaining,
        fun _ => Grown root base, Grown root base⟩ := by
  induction remaining using Nat.strong_induction_on generalizing source data with
  | _ remaining ih =>
    cases remaining with
    | zero =>
      rw [copyChunks]
      refine Triple.pure fun tree hholding => ⟨?_, rfl, rfl⟩
      rwa [List.append_nil]
    | succ remaining =>
      rw [copyChunks]
      split
      · exact Triple.raise fun tree hholding => hholding.grown
      · exact Triple.raise fun tree hholding => hholding.grown
      · next byte chunk after hread =>
        obtain ⟨hsplit, htake⟩ := Source.read_ok hread
        have hlength : chunk.length + 1 ≤ remaining + 1 := by
          have hcount := congrArg List.length htake
          rw [List.length_cons, List.length_take] at hcount
          omega
        have hwritten : Triple (interrupted faults dies)
            (Holding root base path.location data mode)
            (Run.operation (.write path (remaining + 1)) fun tree =>
              if false = true then .ok (chunk.length + 1, tree)
              else (tree.change path.location fun data mode => (data ++ byte :: chunk, mode)).map
                fun next => (chunk.length + 1, next))
            ⟨fun _ => Holding root base path.location (data ++ byte :: chunk) mode,
              fun _ => Grown root base, Grown root base⟩ := by
          refine Triple.operation_alone interrupted_solitary (fun _ => Holding.grown)
            (fun _ _ _ => Holding.grown) (fun _ _ hholding _ => hholding.grown) ?_
          intro count tree next hholding hwrite
          rw [if_neg Bool.false_ne_true] at hwrite
          cases hchanged : tree.change path.location
              fun data mode => (data ++ byte :: chunk, mode) with
          | error failure =>
            rw [hchanged] at hwrite
            cases hwrite
          | ok found =>
            rw [hchanged] at hwrite
            cases hwrite
            exact hholding.change hbelow hchanged
        refine Triple.bind hwritten fun count => Triple.ite (fun _ => ?_) fun _ => ?_
        · exact Triple.raise fun tree hholding => hholding.grown
        · refine Triple.bind (ih _ (by omega)) ?_
          rintro ⟨copied, last⟩
          refine Triple.pure ?_
          rintro tree ⟨hholding, hrest, hcount⟩
          refine ⟨?_, ?_, ?_⟩
          · rwa [List.append_assoc] at hholding
          · rw [List.append_assoc, hrest, hsplit]
          · rw [List.length_append, List.length_cons, hcount]
            omega

theorem settled_triple {α : Type} {result : Except RuntimeFailure α} {pre : Tree → Prop}
    {post : Post Tree RuntimeFailure α}
    (hok : ∀ value, result = .ok value → ∀ tree, pre tree → post.returned value tree)
    (herror : ∀ failure tree, pre tree → post.raised failure tree) :
    Triple (interrupted faults dies) pre (settled result) post := by
  cases result with
  | ok value => exact Triple.pure (hok value rfl)
  | error failure => exact Triple.raise (herror failure)

variable {sha256 : List UInt8 → PyText}

/-- `copy_exact_member` copies all of a content of the expected size. -/
theorem copyExactMember_holding (hbelow : path.location.Below root) {source : Source} {size : ℕ} :
    Triple (interrupted faults dies) (Holding root base path.location [] mode)
      (copyExactMember sha256 false path source size)
      ⟨fun digest tree => Holding root base path.location source.left mode tree ∧
          source.left.length = size ∧ digest = sha256 source.left,
        fun _ => Grown root base, Grown root base⟩ := by
  refine Triple.bind (copyChunks_holding hbelow) ?_
  rintro ⟨copied, after⟩
  refine Triple.bind (?_ : Triple _ _ _
    ⟨fun ended tree => (Holding root base path.location ([] ++ copied) mode tree ∧
      copied ++ after.left = source.left ∧ copied.length = size) ∧
      (ended.1 = [] → after.left = []), _, _⟩) ?_
  · refine settled_triple ?_ fun failure tree hpre => hpre.1.grown
    rintro ⟨ended, last⟩ hread tree hpre
    refine ⟨hpre, ?_⟩
    rintro rfl
    exact Source.left_of_read hread
  · rintro ⟨ended, last⟩
    refine Triple.ite (fun _ => Triple.raise fun tree hpre => hpre.1.1.grown) fun hended => ?_
    refine Triple.pure ?_
    rintro tree ⟨⟨hholding, hcopied, hsize⟩, hlast⟩
    rw [hlast (Decidable.not_not.mp hended), List.append_nil] at hcopied
    subst hcopied
    exact ⟨hholding, hsize, rfl⟩

end CodexMustWork.PortableRuntime
