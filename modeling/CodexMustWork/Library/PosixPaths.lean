import Mathlib.Data.List.Basic

/-!
# POSIX paths

Paths as texts over an alphabet with a slash and a dot: how `pathlib` takes one apart and
writes it again, and what `posixpath` makes of one.  A path is how many slashes it starts
with, and its components.
-/

namespace PosixPaths

variable {α : Type*} [DecidableEq α]

/-! ### Taking apart -/

/-- `PurePosixPath`. -/
structure PurePath (α : Type*) where
  slashes : ℕ
  components : List (List α)

/-- What can be a component. -/
def IsComponent (slash dot : α) (part : List α) : Prop :=
  part ≠ [] ∧ part ≠ [dot] ∧ slash ∉ part

/-- `posixpath.splitroot`: one slash, or exactly two. -/
def rootSlashes (slash : α) (text : List α) : ℕ :=
  if text.take 1 ≠ [slash] then 0
  else if (text.drop 1).take 1 = [slash] ∧ (text.drop 2).take 1 ≠ [slash] then 2 else 1

def components (slash dot : α) (text : List α) : List (List α) :=
  (text.splitOn slash).filter fun part => part ≠ [] ∧ part ≠ [dot]

def parse (slash dot : α) (text : List α) : PurePath α :=
  ⟨rootSlashes slash text, components slash dot text⟩

/-- `as_posix`. -/
def PurePath.asPosix (slash dot : α) (path : PurePath α) : List α :=
  if path.slashes = 0 ∧ path.components = [] then [dot]
  else List.replicate path.slashes slash ++ [slash].intercalate path.components

/-- `parts`: the root is the first one. -/
def PurePath.parts (slash : α) (path : PurePath α) : List (List α) :=
  if path.slashes = 0 then path.components
  else List.replicate path.slashes slash :: path.components

/-- `posixpath.join`. -/
def join (slash : α) (first : List α) (rest : List (List α)) : List α :=
  rest.foldl (fun path part =>
    if part.take 1 = [slash] then part
    else if path = [] ∨ path.getLast? = some slash then path ++ part
    else path ++ slash :: part) first

/-- `PurePosixPath(*segments)`. -/
def ofSegments (slash dot : α) : List (List α) → PurePath α
  | [] => ⟨0, []⟩
  | first :: rest => parse slash dot (join slash first rest)

/-- `suffix`: from the last dot of the name, unless the name starts or ends there. -/
def PurePath.suffix (dot : α) (path : PurePath α) : List α :=
  match path.components.getLast? with
  | none => []
  | some name =>
      let tail := name.reverse.takeWhile fun c => c ≠ dot
      if tail.length + 1 < name.length ∧ tail ≠ [] then dot :: tail.reverse else []

/-- `posixpath.dirname`. -/
def dirname (slash : α) (text : List α) : List α :=
  let head := (text.reverse.dropWhile fun c => c ≠ slash).reverse
  if head.all fun c => c = slash then head
  else (head.reverse.dropWhile fun c => c = slash).reverse

/-- One component of `normpath`, on the components before it, last first. -/
def normStep (dot : α) (rooted : Bool) (found : List (List α)) (part : List α) : List (List α) :=
  if part ≠ [dot, dot] ∨ (rooted = false ∧ found = []) ∨ found.head? = some [dot, dot] then
    part :: found
  else found.tail

/-- `posixpath.normpath`. -/
def normpath (slash dot : α) (text : List α) : List α :=
  let path := parse slash dot text
  let kept := path.components.foldl (normStep dot (decide (path.slashes ≠ 0))) []
  (PurePath.mk path.slashes kept.reverse).asPosix slash dot

/-! ### Components -/

section Components

variable {slash dot : α} {segments : List (List α)} {part : List α}

theorem notMem_of_mem_splitOn {text : List α} (hpart : part ∈ text.splitOn slash) :
    slash ∉ part := by
  induction text generalizing part with
  | nil =>
    rw [List.splitOn_nil, List.mem_singleton] at hpart
    subst hpart
    exact List.not_mem_nil
  | cons c rest ih =>
    rw [List.splitOn_cons_eq_if_modifyHead] at hpart
    obtain ⟨first, others, hsplit⟩ := List.exists_cons_of_ne_nil (List.splitOn_ne_nil slash rest)
    split at hpart
    · rcases List.mem_cons.mp hpart with rfl | hrest
      · exact List.not_mem_nil
      · exact ih hrest
    · next hc =>
      rw [hsplit, List.modifyHead_cons] at hpart
      rcases List.mem_cons.mp hpart with rfl | hrest
      · intro hslash
        rcases List.mem_cons.mp hslash with rfl | hin
        · exact hc (beq_self_eq_true _)
        · exact ih (hsplit ▸ List.mem_cons_self) hin
      · exact ih (hsplit ▸ List.mem_cons_of_mem _ hrest)

theorem isComponent_of_mem {text : List α} (hpart : part ∈ components slash dot text) :
    IsComponent slash dot part := by
  obtain ⟨hsplit, hkept⟩ := List.mem_filter.mp hpart
  obtain ⟨hempty, hdot⟩ := of_decide_eq_true hkept
  exact ⟨hempty, hdot, notMem_of_mem_splitOn hsplit⟩

omit [DecidableEq α] in
theorem IsComponent.take_one (hpart : IsComponent slash dot part) : part.take 1 ≠ [slash] := by
  intro htake
  exact hpart.2.2 (List.mem_of_mem_take (htake ▸ List.mem_singleton_self slash))

omit [DecidableEq α] in
theorem IsComponent.getLast? (hpart : IsComponent slash dot part) :
    part.getLast? ≠ some slash := by
  intro hlast
  exact hpart.2.2 (List.mem_of_getLast? hlast)

/-- Joined components are taken apart again. -/
theorem components_intercalate (hsegments : ∀ part ∈ segments, IsComponent slash dot part) :
    components slash dot ([slash].intercalate segments) = segments := by
  unfold components
  by_cases hempty : segments = []
  · subst hempty
    rfl
  · rw [List.splitOn_intercalate slash (fun part hpart => (hsegments part hpart).2.2) hempty]
    refine List.filter_eq_self.mpr fun part hpart => decide_eq_true ?_
    exact ⟨(hsegments part hpart).1, (hsegments part hpart).2.1⟩

theorem rootSlashes_of_isComponent {first rest : List α} (hfirst : IsComponent slash dot first) :
    rootSlashes slash (first ++ rest) = 0 := by
  obtain ⟨c, tail, rfl⟩ := List.exists_cons_of_ne_nil hfirst.1
  exact if_pos hfirst.take_one

theorem join_eq_intercalate {path : List α} (hpath : path ≠ []) (hlast : path.getLast? ≠ some slash)
    (hsegments : ∀ part ∈ segments, IsComponent slash dot part) :
    join slash path segments = [slash].intercalate (path :: segments) := by
  induction segments generalizing path with
  | nil => simp [join]
  | cons next rest ih =>
    have hnext := hsegments next List.mem_cons_self
    have hstep : join slash path (next :: rest) = join slash (path ++ slash :: next) rest := by
      unfold join
      rw [List.foldl_cons, if_neg hnext.take_one, if_neg (not_or.mpr ⟨hpath, hlast⟩)]
    have hlonger : (path ++ slash :: next).getLast? ≠ some slash := by
      rw [List.getLast?_append_cons, List.getLast?_cons_of_ne_nil hnext.1]
      exact hnext.getLast?
    rw [hstep, ih (by simp) hlonger fun part hpart => hsegments part (List.mem_cons_of_mem _ hpart)]
    cases rest with
    | nil => simp [List.intercalate_cons_cons]
    | cons _ _ => simp [List.intercalate_cons_cons]

/-- Segments that are components are the components. -/
theorem ofSegments_eq (hsegments : ∀ part ∈ segments, IsComponent slash dot part) :
    ofSegments slash dot segments = ⟨0, segments⟩ := by
  cases segments with
  | nil => rfl
  | cons first rest =>
    have hroot : rootSlashes slash ([slash].intercalate (first :: rest)) = 0 := by
      have hfirst := hsegments first List.mem_cons_self
      cases rest with
      | nil =>
        have happend := @rootSlashes_of_isComponent _ _ slash dot first [] hfirst
        simpa using happend
      | cons second others =>
        rw [List.intercalate_cons_cons, List.append_assoc]
        exact rootSlashes_of_isComponent hfirst
    have hfirst := hsegments first List.mem_cons_self
    have hrest : ∀ part ∈ rest, IsComponent slash dot part :=
      fun part hpart => hsegments part (List.mem_cons_of_mem _ hpart)
    have hjoin := join_eq_intercalate hfirst.1 hfirst.getLast? hrest
    change parse slash dot (join slash first rest) = _
    unfold parse
    rw [hjoin, hroot, components_intercalate hsegments]

end Components

end PosixPaths
