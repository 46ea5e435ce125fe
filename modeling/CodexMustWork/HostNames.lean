import Mathlib.Data.List.DropRight
import Mathlib.Logic.Basic
import Mathlib.Tactic.SplitIfs

/-!
# Names of files

`safe_name` of `scripts/cache_semver.py`, and the names that a Windows host keeps for itself:
characters with a meaning, a blank or a dot at the end, and its devices.  `safe_name` knows
most of the devices.
-/

namespace CodexMustWork

/-! ### `safe_name` -/

/-- The names of devices, with or without an extension, in upper case. -/
def reservedNames : List (List Char) :=
  ["CON".toList, "PRN".toList, "AUX".toList, "NUL".toList]

/-- The pattern `(?:COM|LPT)[1-9]`. -/
def isPortName (name : List Char) : Bool :=
  name.length == 4 && (name.take 3 == "COM".toList || name.take 3 == "LPT".toList) &&
    (name.drop 3).all fun c => '1' ≤ c && c ≤ '9'

/-- Reject path components unsafe on either supported host.  No character beyond ASCII has
    an upper case that occurs in a reserved name. -/
def safeName (value : String) : Bool :=
  let text := value.toList
  if text == [] || value == "." || value == ".." ||
      text.any (fun c => decide (c.toNat < 32) || "<>:\"/\\|?*".toList.contains c) ||
      text.getLast? == some ' ' || text.getLast? == some '.' then false
  else
    let reserved := (text.takeWhile (· != '.')).map Char.toUpper
    !reservedNames.contains reserved && !isPortName reserved

/-! ### Windows -/

/-- The devices of Windows. -/
def deviceNames : List (List Char) :=
  ["CON".toList, "PRN".toList, "AUX".toList, "NUL".toList, "CONIN$".toList, "CONOUT$".toList] ++
    ["COM".toList, "LPT".toList].flatMap fun port =>
      ['1', '2', '3', '4', '5', '6', '7', '8', '9', '¹', '²', '³'].map fun digit => port ++ [digit]

/-- A name up to its first dot, in upper case. -/
def nameStem (text : List Char) : List Char := (text.takeWhile (· != '.')).map Char.toUpper

/-- A name by which Windows finds a device: in either case, with blanks behind it or not, with
    an extension or not. -/
def namesDevice (text : List Char) : Bool :=
  deviceNames.contains ((nameStem text).rdropWhile (· == ' '))

/-- A character that Windows keeps out of names. -/
def reservedChar (c : Char) : Bool := decide (c.toNat < 32) || "\"*:<>?|/\\".toList.contains c

/-- A name that a host keeps for itself. -/
def HostReserved (part : String) : Prop :=
  part.toList.any reservedChar = true ∨ part.toList.getLast? = some ' ' ∨
    part.toList.getLast? = some '.' ∨ namesDevice part.toList = true

/-- The devices that `safe_name` does not know: the console's buffers and the ports with a
    superscript digit. -/
def missedDevices : List (List Char) :=
  ["CONIN$".toList, "CONOUT$".toList, "COM¹".toList, "COM²".toList, "COM³".toList,
    "LPT¹".toList, "LPT²".toList, "LPT³".toList]

/-- A device's name that `safe_name` takes: one that it does not know, or with blanks behind. -/
def MissedDevice (part : String) : Prop :=
  nameStem part.toList ∈ missedDevices ∨
    (nameStem part.toList).getLast? = some ' ' ∧ namesDevice part.toList = true

instance (part : String) : Decidable (MissedDevice part) := inferInstanceAs (Decidable (_ ∨ _))

/-! ### What `safe_name` misses -/

theorem rdropWhile_of_getLast {text : List Char} {c : Char} (hlast : text.getLast? = some c)
    (hplain : c ≠ ' ') : text.rdropWhile (· == ' ') = text := by
  obtain ⟨front, rfl⟩ := List.getLast?_eq_some_iff.mp hlast
  exact List.rdropWhile_concat_neg _ _ _ (by simpa using hplain)

/-- A device's own name ends in no blank. -/
theorem getLast_device {device : List Char} (hdevice : device ∈ deviceNames) :
    ∃ c, device.getLast? = some c ∧ c ≠ ' ' := by
  have hlast : device.getLast?.any (fun c => decide (c ≠ ' ')) = true := by
    revert hdevice device
    decide
  obtain ⟨c, hc, hplain⟩ := (Option.any_eq_true _ _).mp hlast
  exact ⟨c, hc, of_decide_eq_true hplain⟩

/-- The devices are the ones that `safe_name` knows and the ones that it does not. -/
theorem device_known {device : List Char} (hdevice : device ∈ deviceNames) :
    (reservedNames.contains device || isPortName device) = true ∨ device ∈ missedDevices := by
  revert hdevice device
  decide

theorem safeName_stem {part : String} (hsafe : safeName part = true) :
    (reservedNames.contains (nameStem part.toList) || isPortName (nameStem part.toList)) =
      false := by
  unfold safeName at hsafe
  simp only at hsafe
  split_ifs at hsafe
  rw [Bool.and_eq_true, Bool.not_eq_true', Bool.not_eq_true'] at hsafe
  exact Bool.or_eq_false_iff.mpr hsafe

/-- The device names that are accepted. -/
theorem namesDevice_iff_missed {part : String} (hsafe : safeName part = true) :
    namesDevice part.toList = true ↔ MissedDevice part := by
  have hstem := safeName_stem hsafe
  constructor
  · intro hdevice
    by_cases hblank : (nameStem part.toList).getLast? = some ' '
    · exact Or.inr ⟨hblank, hdevice⟩
    · refine Or.inl ?_
      have hdevices := List.contains_iff_mem.mp hdevice
      have hsame : (nameStem part.toList).rdropWhile (· == ' ') = nameStem part.toList := by
        cases hlast : (nameStem part.toList).getLast? with
        | none =>
          rw [List.getLast?_eq_none_iff.mp hlast]
          rfl
        | some c =>
          refine rdropWhile_of_getLast hlast ?_
          rintro rfl
          exact hblank hlast
      rw [hsame] at hdevices
      rcases device_known hdevices with hknown | hmissed
      · rw [hstem] at hknown
        cases hknown
      · exact hmissed
  · rintro (hmissed | ⟨-, hdevice⟩)
    · have hdevice : nameStem part.toList ∈ deviceNames := by
        revert hmissed
        generalize nameStem part.toList = stem
        revert stem
        decide
      obtain ⟨c, hlast, hplain⟩ := getLast_device hdevice
      unfold namesDevice
      rw [rdropWhile_of_getLast hlast hplain]
      exact List.contains_iff_mem.mpr hdevice
    · exact hdevice

theorem reservedChar_refused {c : Char} (hreserved : reservedChar c = true) :
    (decide (c.toNat < 32) || "<>:\"/\\|?*".toList.contains c) = true := by
  have hsubset : "\"*:<>?|/\\".toList.all (fun d => "<>:\"/\\|?*".toList.contains d) = true := by
    decide
  unfold reservedChar at hreserved
  rw [Bool.or_eq_true] at hreserved ⊢
  refine hreserved.imp_right fun hmem => ?_
  exact List.all_eq_true.mp hsubset c (List.contains_iff_mem.mp hmem)

/-- What `safe_name` lets through, but for devices, is no name of the host's own. -/
theorem hostReserved_iff_missed {part : String} (hsafe : safeName part = true) :
    HostReserved part ↔ MissedDevice part := by
  rw [← namesDevice_iff_missed hsafe]
  refine ⟨?_, fun hdevice => Or.inr (Or.inr (Or.inr hdevice))⟩
  unfold safeName at hsafe
  simp only at hsafe
  split_ifs at hsafe with hunsafe
  simp only [Bool.or_eq_true, not_or, beq_iff_eq] at hunsafe
  obtain ⟨⟨⟨-, hplain⟩, hblank⟩, hdot⟩ := hunsafe
  rintro (hreserved | hlast | hlast | hdevice)
  · refine absurd ?_ hplain
    obtain ⟨c, hc, hcharacter⟩ := List.any_eq_true.mp hreserved
    exact List.any_eq_true.mpr ⟨c, hc, reservedChar_refused hcharacter⟩
  · exact absurd hlast hblank
  · exact absurd hlast hdot
  · exact hdevice

end CodexMustWork
