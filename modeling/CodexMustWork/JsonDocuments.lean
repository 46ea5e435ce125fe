import CodexMustWork.PythonValues
import Mathlib.Data.List.Sort

/-!
# Documents as text

What `json.dump` and `json.loads` make of a value, as far as the persistence relies on
them, and what a text file makes of their texts: UTF-8, and the newlines of text mode.
The members of a dictionary are written in the order of their keys.
-/

namespace CodexMustWork

/-! ### Text files -/

/-- The code point of a character. -/
def codePoint (c : Char) : CodePoint := ⟨c.toNat, toNat_lt_codePoints c⟩

/-- A code point that is no surrogate. -/
def CodePoint.Scalar (point : CodePoint) : Prop := point.val < 0xd800 ∨ 0xdfff < point.val

instance (point : CodePoint) : Decidable point.Scalar := inferInstanceAs (Decidable (_ ∨ _))

theorem CodePoint.Scalar.valid {point : CodePoint} (hscalar : point.Scalar) :
    point.val.isValidChar := by
  rcases hscalar with hlow | hhigh
  · exact Or.inl hlow
  · exact Or.inr ⟨hhigh, point.isLt⟩

/-- The character of a code point; a surrogate has none. -/
def CodePoint.char (point : CodePoint) : Option Char :=
  if hscalar : point.Scalar then some (Char.ofNatAux point.val hscalar.valid) else none

theorem codePoint_of_char {point : CodePoint} {c : Char} (hchar : CodePoint.char point = some c) :
    codePoint c = point := by
  unfold CodePoint.char at hchar
  by_cases hscalar : point.Scalar
  · rw [dif_pos hscalar] at hchar
    cases hchar
    rfl
  · rw [dif_neg hscalar] at hchar
    cases hchar

/-- `text.encode("utf-8")`, unless it raises `UnicodeEncodeError`. -/
def encodeText (text : PyText) : Option (List UInt8) :=
  (text.mapM CodePoint.char).map fun chars => (String.ofList chars).toUTF8.data.toList

/-- `data.decode("utf-8")`, unless it raises `UnicodeDecodeError`. -/
def decodeText (data : List UInt8) : Option PyText :=
  (ByteArray.mk data.toArray).utf8Decode?.map fun chars => chars.toList.map codePoint

theorem mapM_char {text : PyText} {chars : List Char}
    (hchars : text.mapM CodePoint.char = some chars) : chars.map codePoint = text := by
  induction text generalizing chars with
  | nil =>
    cases hchars
    rfl
  | cons point rest ih =>
    rw [List.mapM_cons] at hchars
    obtain ⟨c, hc, hrest⟩ := Option.bind_eq_some_iff.mp hchars
    obtain ⟨others, hothers, hsplit⟩ := Option.bind_eq_some_iff.mp hrest
    cases hsplit
    rw [List.map_cons, codePoint_of_char hc, ih hothers]

def lineFeed : CodePoint := codePoint '\n'

def carriageReturn : CodePoint := codePoint '\r'

/-- Reading in text mode, with whether the code point before was a carriage return: each of
    the three line ends is one lineFeed. -/
def translateNewlines : Bool → PyText → PyText
  | _, [] => []
  | returned, point :: rest =>
      if point = carriageReturn then lineFeed :: translateNewlines true rest
      else if returned && point = lineFeed then translateNewlines false rest
      else point :: translateNewlines false rest

def universalNewlines (text : PyText) : PyText := translateNewlines false text

mutual

/-- A value whose texts can be encoded, whose numbers are finite, and whose keys differ. -/
def PyValue.Storable : PyValue → Prop
  | .none => True
  | .bool _ => True
  | .int _ => True
  | .float (.finite _) => True
  | .float _ => False
  | .str text => ∀ point ∈ text, CodePoint.Scalar point
  | .list items => StorableItems items
  | .dict members => (members.map Prod.fst).Nodup ∧ StorableMembers members
  | .object _ => False

def StorableItems : List PyValue → Prop
  | [] => True
  | item :: rest => item.Storable ∧ StorableItems rest

def StorableMembers : List (PyText × PyValue) → Prop
  | [] => True
  | (key, value) :: rest =>
      (∀ point ∈ key, CodePoint.Scalar point) ∧ value.Storable ∧ StorableMembers rest

end

mutual

/-- The code points of the texts of a value. -/
def PyValue.points : PyValue → List CodePoint
  | .str text => text
  | .list items => pointsOfItems items
  | .dict members => pointsOfMembers members
  | _ => []

def pointsOfItems : List PyValue → List CodePoint
  | [] => []
  | item :: rest => item.points ++ pointsOfItems rest

def pointsOfMembers : List (PyText × PyValue) → List CodePoint
  | [] => []
  | (key, value) :: rest => key ++ value.points ++ pointsOfMembers rest

end

/-- `sort_keys=True` for one dictionary. -/
def sortMembers (members : List (PyText × PyValue)) : List (PyText × PyValue) :=
  members.insertionSort fun member other => member.1 ≤ other.1

mutual

/-- The value with the members of its dictionaries in the order of their keys. -/
def PyValue.sorted : PyValue → PyValue
  | .list items => .list (sortedItems items)
  | .dict members => .dict (sortMembers (sortedMembers members))
  | value => value

def sortedItems : List PyValue → List PyValue
  | [] => []
  | item :: rest => item.sorted :: sortedItems rest

def sortedMembers : List (PyText × PyValue) → List (PyText × PyValue)
  | [] => []
  | (key, value) :: rest => (key, value.sorted) :: sortedMembers rest

end

/-- The keys of a dictionary. -/
def PyDict.keys (dict : PyDict) : List PyText := dict.map Prod.fst

theorem keys_sortedMembers (members : PyDict) :
    PyDict.keys (sortedMembers members) = PyDict.keys members := by
  induction members with
  | nil => rfl
  | cons member rest ih =>
    rw [sortedMembers]
    exact congrArg (member.1 :: ·) ih

theorem length_sortedMembers (members : PyDict) :
    (sortedMembers members).length = members.length := by
  have hkeys := congrArg List.length (keys_sortedMembers members)
  rwa [PyDict.keys, PyDict.keys, List.length_map, List.length_map] at hkeys

theorem mem_sortedMembers {members : PyDict} {key : PyText} {value : PyValue}
    (hmember : (key, value) ∈ members) : (key, value.sorted) ∈ sortedMembers members := by
  induction members with
  | nil => cases hmember
  | cons member rest ih =>
    rw [sortedMembers]
    rcases List.mem_cons.mp hmember with rfl | hrest
    · exact List.mem_cons_self
    · exact List.mem_cons_of_mem _ (ih hrest)

/-- A dictionary has the members it lists. -/
theorem PyDict.get_of_mem {dict : PyDict} (hdistinct : dict.keys.Nodup) {key : PyText}
    {value : PyValue} (hmember : (key, value) ∈ dict) : dict.get key = some value := by
  obtain ⟨before, after, rfl⟩ := List.append_of_mem hmember
  refine List.lookup_eq_some_iff.mpr ⟨before, after, rfl, ?_⟩
  intro other hother
  rw [bne_iff_ne]
  rintro rfl
  rw [PyDict.keys, List.map_append, List.map_cons] at hdistinct
  exact (List.nodup_append.mp hdistinct).2.2 _ (List.mem_map_of_mem hother) _
    List.mem_cons_self rfl

theorem sortMembers_perm (members : PyDict) : (sortMembers members).Perm members :=
  List.perm_insertionSort _ _

/-- The members of a sorted dictionary, in any order. -/
theorem get_of_perm {members others : PyDict} (hdistinct : members.keys.Nodup)
    (hperm : others.Perm (sortedMembers members)) {key : PyText} {value : PyValue}
    (hmember : (key, value) ∈ members) : others.get key = some value.sorted := by
  have hkeys : others.keys.Nodup := by
    have hsame := (hperm.map Prod.fst).nodup_iff
    rw [← PyDict.keys, ← PyDict.keys, keys_sortedMembers] at hsame
    exact hsame.mpr hdistinct
  exact PyDict.get_of_mem hkeys (hperm.mem_iff.mpr (mem_sortedMembers hmember))

mutual

/-- A value equals itself with its members sorted. -/
theorem PyValue.eq_sorted : ∀ value : PyValue, value.Storable → value.eq value.sorted = true
  | .none, _ => by simp [PyValue.sorted, PyValue.eq]
  | .bool flag, _ => by simp [PyValue.sorted, PyValue.eq, PyValue.number]
  | .int number, _ => by simp [PyValue.sorted, PyValue.eq, PyValue.number]
  | .float (.finite number), _ => by simp [PyValue.sorted, PyValue.eq, PyValue.number]
  | .float (.infinite _), hstorable => hstorable.elim
  | .float .nan, hstorable => hstorable.elim
  | .str text, _ => by simp [PyValue.sorted, PyValue.eq]
  | .list items, hstorable => by
    rw [PyValue.sorted, PyValue.eq]
    exact itemsEq_sorted items hstorable
  | .dict members, hstorable => by
    have hperm := sortMembers_perm (sortedMembers members)
    rw [PyValue.sorted, PyValue.eq, hperm.length_eq, length_sortedMembers, beq_self_eq_true,
      Bool.true_and]
    exact membersEq_sorted members hstorable.2 _ fun key value hmember =>
      get_of_perm hstorable.1 hperm hmember
  | .object _, hstorable => hstorable.elim

theorem itemsEq_sorted : ∀ items : List PyValue, StorableItems items →
    itemsEq items (sortedItems items) = true
  | [], _ => rfl
  | item :: rest, hstorable => by
    rw [sortedItems, itemsEq, PyValue.eq_sorted item hstorable.1, itemsEq_sorted rest hstorable.2]
    rfl

theorem membersEq_sorted : ∀ members : List (PyText × PyValue), StorableMembers members →
    ∀ others : PyDict, (∀ key value, (key, value) ∈ members →
      others.get key = some value.sorted) → membersEq members others = true
  | [], _, _, _ => rfl
  | (key, value) :: rest, hstorable, others, hfound => by
    have hvalue := PyValue.eq_sorted value hstorable.2.1
    have hrest := membersEq_sorted rest hstorable.2.2 others fun name other hother =>
      hfound name other (List.mem_cons_of_mem _ hother)
    have hlookup : others.lookup key = some value.sorted := hfound key value List.mem_cons_self
    rw [membersEq, hlookup, hrest]
    simp only [hvalue, Bool.and_self]

end

mutual

/-- The texts of a storable value have no surrogates. -/
theorem PyValue.points_scalar : ∀ value : PyValue, value.Storable →
    ∀ point ∈ value.points, CodePoint.Scalar point
  | .str _, hstorable => hstorable
  | .list items, hstorable => pointsOfItems_scalar items hstorable
  | .dict members, hstorable => pointsOfMembers_scalar members hstorable.2
  | .none, _ => by rintro point ⟨⟩
  | .bool _, _ => by rintro point ⟨⟩
  | .int _, _ => by rintro point ⟨⟩
  | .float _, _ => by rintro point ⟨⟩
  | .object _, _ => by rintro point ⟨⟩

theorem pointsOfItems_scalar : ∀ items : List PyValue, StorableItems items →
    ∀ point ∈ pointsOfItems items, CodePoint.Scalar point
  | [], _ => by rintro point ⟨⟩
  | item :: rest, hstorable => by
    intro point hpoint
    rcases List.mem_append.mp hpoint with hitem | hrest
    · exact PyValue.points_scalar item hstorable.1 point hitem
    · exact pointsOfItems_scalar rest hstorable.2 point hrest

theorem pointsOfMembers_scalar : ∀ members : List (PyText × PyValue), StorableMembers members →
    ∀ point ∈ pointsOfMembers members, CodePoint.Scalar point
  | [], _ => by rintro point ⟨⟩
  | (key, value) :: rest, hstorable => by
    intro point hpoint
    rcases List.mem_append.mp hpoint with hfirst | hrest
    · rcases List.mem_append.mp hfirst with hkey | hvalue
      · exact hstorable.1 point hkey
      · exact PyValue.points_scalar value hstorable.2.1 point hvalue
    · exact pointsOfMembers_scalar rest hstorable.2.2 point hrest

end

/-! ### The codec -/

/-- What `json` raises. -/
inductive JsonError where
  | malformed
  | nonFinite
  | typeError
  | valueError
  | other
deriving DecidableEq

/-- `json.dump` as the state is written, without a stream, and `json.loads` as it is read. -/
structure JsonCodec where
  dumps : PyValue → Except JsonError PyText
  loads : PyText → Except JsonError PyValue

def schemaKey : PyText := pyText "schema_version"

/-- `{"schema_version": version, **values}`. -/
def taggedValues (version : ℤ) (values : PyDict) : PyDict :=
  values.foldl (fun dict member => dict.set member.1 member.2) [(schemaKey, .int version)]

/-- `{key: value for key, value in values.items() if key != "schema_version"}`. -/
def untaggedValues (values : PyDict) : PyDict :=
  values.filter fun member => member.1 ≠ schemaKey

section Tagged

variable {values : PyDict} {version : ℤ}

end Tagged

end CodexMustWork
