import Mathlib.Data.List.Lex
import Mathlib.Data.Rat.Defs
import Mathlib.Order.Fin.Basic

/-!
# Python texts and values

What the persistence and the hooks handle: texts as lists of code points, the surrogates
among them, and the values `json` can produce, with the equality Python gives them.
-/

namespace CodexMustWork

/-! ### Texts -/

/-- A code point of a Python text. -/
abbrev CodePoint := Fin 0x110000

/-- A Python text. -/
abbrev PyText := List CodePoint

theorem toNat_lt_codePoints (c : Char) : c.toNat < 0x110000 := by
  rcases c.valid with hlow | ⟨-, hhigh⟩
  · exact Nat.lt_trans hlow (by decide)
  · exact hhigh

/-- The text of a literal. -/
def pyText (literal : String) : PyText :=
  literal.toList.map fun c => ⟨c.toNat, toNat_lt_codePoints c⟩

theorem pyText_injective : Function.Injective pyText := by
  intro first second hsame
  rw [← String.toList_inj]
  refine List.map_injective_iff.mpr ?_ hsame
  intro c d hpoint
  exact Char.ext (UInt32.toNat_inj.mp (Fin.mk.inj hpoint))

@[simp] theorem pyText_inj {first second : String} : pyText first = pyText second ↔ first = second :=
  pyText_injective.eq_iff

/-- The bytes of a code point in UTF-8; a surrogate has none. -/
def CodePoint.utf8Size (point : CodePoint) : Option Nat :=
  if point.val < 0x80 then some 1
  else if point.val < 0x800 then some 2
  else if 0xd800 ≤ point.val ∧ point.val < 0xe000 then none
  else if point.val < 0x10000 then some 3
  else some 4

/-- `len(text.encode("utf-8"))`, unless it raises `UnicodeEncodeError`. -/
def utf8Length : PyText → Option Nat
  | [] => some 0
  | point :: rest => do
      let size ← CodePoint.utf8Size point
      let more ← utf8Length rest
      return size + more

/-! ### Values -/

inductive PyFloat where
  | finite (number : ℚ)
  | infinite (negative : Bool)
  | nan
deriving DecidableEq

/-- A value; an object of a type that JSON does not know is told by its identity. -/
inductive PyValue where
  | none
  | bool (flag : Bool)
  | int (number : ℤ)
  | float (number : PyFloat)
  | str (text : PyText)
  | list (items : List PyValue)
  | dict (members : List (PyText × PyValue))
  | object (identity : ℕ)

/-- The members of a dictionary, in their order. -/
abbrev PyDict := List (PyText × PyValue)

/-- `dict.get`, without a default. -/
def PyDict.get (dict : PyDict) (key : PyText) : Option PyValue := dict.lookup key

/-- Assignment to a key: in its place, or at the end. -/
def PyDict.set (dict : PyDict) (key : PyText) (value : PyValue) : PyDict :=
  match dict with
  | [] => [(key, value)]
  | (name, found) :: rest =>
      if key = name then (name, value) :: rest else (name, found) :: PyDict.set rest key value

theorem PyDict.get_set (dict : PyDict) (key other : PyText) (value : PyValue) :
    (dict.set key value).get other = if other = key then some value else dict.get other := by
  induction dict with
  | nil =>
    rw [PyDict.set, PyDict.get, PyDict.get, List.lookup_cons, List.lookup_nil]
    split_ifs with hsame
    · rw [beq_iff_eq.mpr hsame]
    · rw [beq_eq_false_iff_ne.mpr hsame]
  | cons first rest ih =>
    obtain ⟨name, found⟩ := first
    unfold PyDict.get at ih ⊢
    rw [PyDict.set]
    split_ifs with hkey hother hother
    · subst hkey hother
      simp
    · subst hkey
      rw [List.lookup_cons, List.lookup_cons, beq_eq_false_iff_ne.mpr hother]
    · subst hother
      rw [List.lookup_cons, beq_eq_false_iff_ne.mpr hkey, ih, if_pos rfl]
    · rw [List.lookup_cons, List.lookup_cons, ih, if_neg hother]

@[simp] theorem PyDict.get_set_same (dict : PyDict) (key : PyText) (value : PyValue) :
    (dict.set key value).get key = some value := by
  rw [PyDict.get_set, if_pos rfl]

theorem PyDict.get_set_of_ne (dict : PyDict) {key other : PyText} (hne : other ≠ key)
    (value : PyValue) : (dict.set key value).get other = dict.get other := by
  rw [PyDict.get_set, if_neg hne]

/-- `dict.get` under a literal key. -/
def PyDict.find (dict : PyDict) (key : String) : Option PyValue := dict.get (pyText key)

/-- Assignment to a literal key. -/
def PyDict.put (dict : PyDict) (key : String) (value : PyValue) : PyDict :=
  dict.set (pyText key) value

theorem PyDict.find_put (dict : PyDict) (key other : String) (value : PyValue) :
    (dict.put key value).find other = if other = key then some value else dict.find other := by
  unfold PyDict.put PyDict.find
  rw [PyDict.get_set]
  simp only [pyText_inj]

@[simp] theorem PyDict.find_put_same (dict : PyDict) (key : String) (value : PyValue) :
    (dict.put key value).find key = some value := PyDict.get_set_same _ _ _

theorem PyDict.find_put_of_ne (dict : PyDict) {key other : String} (hne : other ≠ key)
    (value : PyValue) : (dict.put key value).find other = dict.find other :=
  PyDict.get_set_of_ne _ (fun hsame => hne (pyText_injective hsame)) _

/-! ### Equality -/

/-- The number a value is compared as. -/
def PyValue.number : PyValue → Option ℚ
  | .bool flag => some (if flag then 1 else 0)
  | .int number => some number
  | .float (.finite number) => some number
  | _ => Option.none

mutual

/-- `==`.  Dictionaries are compared without their order, and numbers across their types. -/
def PyValue.eq : PyValue → PyValue → Bool
  | .none, .none => true
  | .str text, .str other => decide (text = other)
  | .list items, .list others => itemsEq items others
  | .dict members, .dict others => members.length == others.length && membersEq members others
  | .object identity, .object other => identity == other
  | .float (.infinite negative), .float (.infinite other) => negative == other
  | value, other =>
      match value.number, other.number with
      | some number, some compared => decide (number = compared)
      | _, _ => false

def itemsEq : List PyValue → List PyValue → Bool
  | [], [] => true
  | item :: rest, other :: others => item.eq other && itemsEq rest others
  | _, _ => false

def membersEq : List (PyText × PyValue) → List (PyText × PyValue) → Bool
  | [], _ => true
  | (key, value) :: rest, others =>
      (match others.lookup key with
        | some other => value.eq other
        | Option.none => false) && membersEq rest others

end

/-- `==` for what `dict.get` returns, a missing member counting as `None`. -/
def memberEq (value other : Option PyValue) : Bool :=
  (value.getD .none).eq (other.getD .none)

end CodexMustWork
