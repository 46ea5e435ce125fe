import Mathlib.Algebra.Order.Archimedean.Basic
import Mathlib.Data.List.Sort
import Mathlib.Data.Rat.Floor

/-!
# Nearest ranks

The nearest rank of a share of some values is the least of them that at least that
share is no greater than.  In sorted order it stands at a known index, and a bound
reaches it exactly when at least that share of the values is within the bound.
-/

namespace NearestRank

variable {α : Type*} [LinearOrder α]

/-- At least `share` of the values are at most `bound`. -/
def Covers (share : ℚ) (values : List α) (bound : α) : Prop :=
  share * values.length ≤ values.countP (· ≤ bound)

/-- The nearest rank. -/
structure IsNearestRank (share : ℚ) (values : List α) (rank : α) : Prop where
  mem : rank ∈ values
  covers : Covers share values rank
  least : ∀ other ∈ values, Covers share values other → rank ≤ other

/-- The index of the nearest rank in sorted order. -/
def rankIndex (share : ℚ) (count : ℕ) : ℕ := (max 0 (⌈share * count⌉ - 1)).toNat

variable {share : ℚ} {values : List α}

/-- In sorted order, a value is within a bound when more values are than its index. -/
theorem getElem_le_iff (hsorted : values.Pairwise (· ≤ ·)) {index : ℕ}
    (hindex : index < values.length) {bound : α} :
    values[index] ≤ bound ↔ index < values.countP (· ≤ bound) := by
  induction values generalizing index with
  | nil => cases hindex
  | cons head tail ih =>
    obtain ⟨hhead, htail⟩ := List.pairwise_cons.mp hsorted
    by_cases hle : head ≤ bound
    · rw [List.countP_cons_of_pos (by simpa using hle)]
      cases index with
      | zero => simpa using hle
      | succ index =>
        rw [List.getElem_cons_succ, ih htail (Nat.lt_of_succ_lt_succ hindex)]
        exact Nat.succ_lt_succ_iff.symm
    · have hnone : (head :: tail).countP (· ≤ bound) = 0 := by
        rw [List.countP_eq_zero]
        intro value hvalue hwithin
        rcases List.mem_cons.mp hvalue with rfl | hvalue
        · exact hle (by simpa using hwithin)
        · exact hle ((hhead value hvalue).trans (by simpa using hwithin))
      have hfirst : head ≤ (head :: tail)[index] := by
        cases index with
        | zero => exact le_rfl
        | succ index => exact hhead _ (List.getElem_mem _)
      rw [hnone]
      exact iff_of_false (fun hwithin => hle (hfirst.trans hwithin)) (Nat.not_lt_zero _)

theorem rankIndex_lt_iff (hshare : 0 < share) {count within : ℕ} (hcount : 0 < count) :
    rankIndex share count < within ↔ share * count ≤ within := by
  have hpos : 0 < share * count := mul_pos hshare (Nat.cast_pos.mpr hcount)
  have hceil : 0 < ⌈share * count⌉ := Int.ceil_pos.mpr hpos
  have hcast : share * count ≤ within ↔ ⌈share * count⌉ ≤ (within : ℤ) := by
    rw [Int.ceil_le]
    norm_cast
  rw [hcast, rankIndex]
  omega

theorem rankIndex_lt_length (hshare : 0 < share) (hone : share ≤ 1) {count : ℕ}
    (hcount : 0 < count) : rankIndex share count < count :=
  (rankIndex_lt_iff hshare hcount).mpr (mul_le_of_le_one_left (Nat.cast_nonneg _) hone)

/-- The value at the index is within a bound exactly when the bound covers the share. -/
theorem rank_le_iff (hsorted : values.Pairwise (· ≤ ·)) (hshare : 0 < share)
    (hindex : rankIndex share values.length < values.length) {bound : α} :
    values[rankIndex share values.length] ≤ bound ↔ Covers share values bound := by
  rw [getElem_le_iff hsorted hindex]
  exact rankIndex_lt_iff hshare (Nat.zero_lt_of_lt hindex)

theorem isNearestRank_getElem (hsorted : values.Pairwise (· ≤ ·)) (hshare : 0 < share)
    (hindex : rankIndex share values.length < values.length) :
    IsNearestRank share values values[rankIndex share values.length] :=
  ⟨List.getElem_mem hindex, (rank_le_iff hsorted hshare hindex).mp le_rfl,
    fun _ _ hcovers => (rank_le_iff hsorted hshare hindex).mpr hcovers⟩

/-! ### Order and scale -/

theorem covers_perm {other : List α} (hperm : values.Perm other) {bound : α} :
    Covers share values bound ↔ Covers share other bound := by
  rw [Covers, Covers, hperm.length_eq, hperm.countP_eq]

theorem IsNearestRank.perm {other : List α} {rank : α} (hperm : values.Perm other)
    (hrank : IsNearestRank share values rank) : IsNearestRank share other rank :=
  ⟨hperm.mem_iff.mp hrank.mem, (covers_perm hperm).mp hrank.covers, fun value hvalue hcovers =>
    hrank.least value (hperm.mem_iff.mpr hvalue) ((covers_perm hperm).mpr hcovers)⟩

/-- Measuring the values otherwise does not change what a bound covers. -/
theorem covers_map {β : Type*} [LinearOrder β] {measure : α → β} (hmeasure : StrictMono measure)
    {bound : α} : Covers share (values.map measure) (measure bound) ↔ Covers share values bound := by
  rw [Covers, Covers, List.length_map, List.countP_map]
  simp only [Function.comp_def, hmeasure.le_iff_le]

theorem IsNearestRank.of_map {β : Type*} [LinearOrder β] {measure : α → β}
    (hmeasure : StrictMono measure) {rank : α}
    (hrank : IsNearestRank share (values.map measure) (measure rank)) :
    IsNearestRank share values rank := by
  refine ⟨?_, (covers_map hmeasure).mp hrank.covers, fun other hother hcovers => ?_⟩
  · obtain ⟨value, hvalue, hsame⟩ := List.mem_map.mp hrank.mem
    rwa [← hmeasure.injective hsame]
  · exact hmeasure.le_iff_le.mp
      (hrank.least _ (List.mem_map_of_mem hother) ((covers_map hmeasure).mpr hcovers))

/-- A later bound covers what an earlier one does. -/
theorem Covers.mono {bound later : α} (hcovers : Covers share values bound) (hle : bound ≤ later) :
    Covers share values later := by
  have hcount : values.countP (· ≤ bound) ≤ values.countP (· ≤ later) :=
    List.countP_mono_left fun value _ hvalue =>
      decide_eq_true ((of_decide_eq_true hvalue).trans hle)
  exact hcovers.trans (Nat.cast_le.mpr hcount)

/-- The nearest rank is within the bounds that cover the share. -/
theorem IsNearestRank.le_iff {rank bound : α} (hrank : IsNearestRank share values rank)
    (hshare : 0 < share) (hvalues : 0 < values.length) :
    rank ≤ bound ↔ Covers share values bound := by
  refine ⟨hrank.covers.mono, fun hcovers => ?_⟩
  have hcount : 0 < values.countP (· ≤ bound) := by
    have hpos : 0 < share * values.length := mul_pos hshare (Nat.cast_pos.mpr hvalues)
    exact Nat.cast_pos.mp (hpos.trans_le hcovers)
  -- the largest value within the bound covers as much as the bound
  have hwithin : values.filter (· ≤ bound) ≠ [] := by
    rw [List.countP_eq_length_filter] at hcount
    exact List.ne_nil_of_length_pos hcount
  obtain ⟨largest, hlargest⟩ := Option.isSome_iff_exists.mp
    (List.isSome_max?_of_ne_nil hwithin)
  have hmem : largest ∈ values.filter (· ≤ bound) := List.max?_mem hlargest
  obtain ⟨hvalue, hbound⟩ := List.mem_filter.mp hmem
  have hsame : values.countP (· ≤ bound) ≤ values.countP (· ≤ largest) :=
    List.countP_mono_left fun value hvalue hle =>
      decide_eq_true ((List.max?_le_iff hlargest).mp le_rfl value (List.mem_filter.mpr ⟨hvalue, hle⟩))
  have hlargestCovers : Covers share values largest := hcovers.trans (Nat.cast_le.mpr hsame)
  exact (hrank.least largest hvalue hlargestCovers).trans (of_decide_eq_true hbound)

end NearestRank
