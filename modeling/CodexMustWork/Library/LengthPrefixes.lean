import Mathlib.Data.List.Basic
import Mathlib.Tactic.Ring

/-!
# Length-prefixed framing

Numbers of a fixed width, most significant byte first, and data behind its length in such
a number.  What is framed so can be followed by anything: the length says where the data
ends, so a framed datum and what follows it are both determined.
-/

namespace LengthPrefixes

/-- The last `width` base-256 digits of a number, the most significant one first. -/
def bigEndian : ℕ → ℕ → List UInt8
  | 0, _ => []
  | width + 1, number => bigEndian width (number / 256) ++ [UInt8.ofNat (number % 256)]

/-- A number of a width, where it has one. -/
def pack (width number : ℕ) : Option (List UInt8) :=
  if number < 256 ^ width then some (bigEndian width number) else none

@[simp] theorem length_bigEndian (width number : ℕ) : (bigEndian width number).length = width := by
  induction width generalizing number with
  | zero => rfl
  | succ width ih => rw [bigEndian, List.length_append, ih, List.length_singleton]

theorem bigEndian_inj {width first second : ℕ} (hfirst : first < 256 ^ width)
    (hsecond : second < 256 ^ width) (hsame : bigEndian width first = bigEndian width second) :
    first = second := by
  induction width generalizing first second with
  | zero =>
    rw [pow_zero] at hfirst hsecond
    omega
  | succ width ih =>
    rw [pow_succ] at hfirst hsecond
    rw [bigEndian, bigEndian] at hsame
    obtain ⟨hhigh, hlow⟩ := List.append_inj' hsame rfl
    have hquotient : first / 256 = second / 256 :=
      ih (Nat.div_lt_of_lt_mul (by omega)) (Nat.div_lt_of_lt_mul (by omega)) hhigh
    have hdigit := congrArg UInt8.toNat (List.singleton_inj.mp hlow)
    rw [UInt8.toNat_ofNat', UInt8.toNat_ofNat', Nat.mod_eq_of_lt (Nat.mod_lt _ (by decide)),
      Nat.mod_eq_of_lt (Nat.mod_lt _ (by decide))] at hdigit
    omega

theorem pack_eq_some {width number : ℕ} {bytes : List UInt8} :
    pack width number = some bytes ↔ number < 256 ^ width ∧ bigEndian width number = bytes := by
  unfold pack
  split_ifs with hfits
  · simp [hfits]
  · simp [hfits]

theorem length_of_pack {width number : ℕ} {bytes : List UInt8}
    (hpack : pack width number = some bytes) : bytes.length = width := by
  rw [← (pack_eq_some.mp hpack).2, length_bigEndian]

/-- Packed numbers before anything determine themselves and what follows. -/
theorem pack_append_inj {width first second : ℕ} {head head' rest rest' : List UInt8}
    (hfirst : pack width first = some head) (hsecond : pack width second = some head')
    (hsame : head ++ rest = head' ++ rest') : first = second ∧ rest = rest' := by
  have hlength : head.length = head'.length :=
    (length_of_pack hfirst).trans (length_of_pack hsecond).symm
  obtain ⟨hhead, hrest⟩ := List.append_inj hsame hlength
  obtain ⟨hfits, hbytes⟩ := pack_eq_some.mp hfirst
  obtain ⟨hfits', hbytes'⟩ := pack_eq_some.mp hsecond
  refine ⟨bigEndian_inj hfits hfits' ?_, hrest⟩
  rw [hbytes, hbytes', hhead]

/-- Data behind their lengths determine themselves and what follows. -/
theorem prefixed_append_inj {width : ℕ} {first second head head' rest rest' : List UInt8}
    (hfirst : pack width first.length = some head)
    (hsecond : pack width second.length = some head')
    (hsame : head ++ (first ++ rest) = head' ++ (second ++ rest')) :
    first = second ∧ rest = rest' := by
  obtain ⟨hlength, hdata⟩ := pack_append_inj hfirst hsecond hsame
  exact List.append_inj hdata hlength

end LengthPrefixes
