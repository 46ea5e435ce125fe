import CodexMustWork.Library.NearestRank
import CodexMustWork.ThresholdSettings
import Mathlib.Data.Int.ConditionallyCompleteOrder

/-!
# Threshold recommendations

`scripts/calibration.py`: the thresholds that the gaps of earlier threads suggest, on
exact rationals.  A gap is a `timedelta`, kept as its microseconds.
-/

namespace CodexMustWork

open NearestRank

def minSampleCount : ℕ := 20

/-- `CalibrationOutcome`. -/
inductive CalibrationOutcome where
  | recommendation (sampleCount : ℕ) (warningAfterMs restartAfterMs : ℤ)
  | insufficient (sampleCount : ℕ)
  | unavailable (reasonCode : String)
deriving DecidableEq, Repr

/-- `timedelta.total_seconds`. -/
def totalSeconds (gap : ℤ) : ℚ := gap / 1000000

/-- `_nearest_rank`; the index is one of the list. -/
def nearestRank (values : List ℚ) (percentile : ℚ) : ℚ :=
  values.getD (rankIndex percentile values.length) 0

/-- `_rounded_minute`. -/
def roundedMinute (seconds : ℚ) : ℤ := max 60 (⌈seconds / 60⌉ * 60)

/-- `recommend_thresholds`. -/
def recommendThresholds (gaps : List ℤ) : CalibrationOutcome :=
  if gaps.length < minSampleCount then .insufficient gaps.length
  else
    let seconds := (gaps.map totalSeconds).mergeSort (· ≤ ·)
    if seconds.any (· ≤ 0) then .unavailable "nonpositive_progress_gap"
    else
      let warningSeconds := roundedMinute (nearestRank seconds 0.95)
      let restartSeconds := roundedMinute (max (nearestRank seconds 0.99) (warningSeconds * 2))
      .recommendation gaps.length (warningSeconds * 1000) (restartSeconds * 1000)

/-! ### Whole minutes -/

/-- So many minutes, in microseconds. -/
def minutes (count : ℤ) : ℤ := 60000000 * count

theorem totalSeconds_strictMono : StrictMono totalSeconds := by
  intro first second hless
  exact div_lt_div_of_pos_right (Int.cast_lt.mpr hless) (by norm_num)

theorem totalSeconds_minutes (count : ℤ) : totalSeconds (minutes count) = 60 * count := by
  rw [totalSeconds, minutes]
  push_cast
  ring

theorem roundedMinute_le_iff {seconds : ℚ} {count : ℤ} :
    roundedMinute seconds ≤ 60 * count ↔ 1 ≤ count ∧ seconds ≤ 60 * count := by
  have hceil : ⌈seconds / 60⌉ ≤ count ↔ seconds ≤ 60 * count := by
    rw [Int.ceil_le, div_le_iff₀ (by norm_num), mul_comm]
  rw [← hceil, roundedMinute]
  omega

/-- Rounding gives a whole number of minutes. -/
theorem exists_roundedMinute (seconds : ℚ) : ∃ count, roundedMinute seconds = 60 * count := by
  rcases max_cases (60 : ℤ) (⌈seconds / 60⌉ * 60) with ⟨hmax, -⟩ | ⟨hmax, -⟩
  · exact ⟨1, hmax⟩
  · exact ⟨⌈seconds / 60⌉, hmax.trans (mul_comm _ _)⟩

/-- The least whole minutes, at least one, that are no less than some seconds. -/
theorem isLeast_roundedMinute {seconds : ℚ} {count : ℤ} (hcount : roundedMinute seconds = 60 * count) :
    IsLeast {candidate : ℤ | 1 ≤ candidate ∧ seconds ≤ 60 * candidate} count := by
  refine ⟨roundedMinute_le_iff.mp hcount.le, fun candidate hcandidate => ?_⟩
  have hle := roundedMinute_le_iff.mpr hcandidate
  omega

/-! ### The recommendation -/

variable {gaps : List ℤ}

/-- The seconds that are ranked. -/
def sortedSeconds (gaps : List ℤ) : List ℚ := (gaps.map totalSeconds).mergeSort (· ≤ ·)

theorem sortedSeconds_sorted (gaps : List ℤ) : (sortedSeconds gaps).Pairwise (· ≤ ·) :=
  List.pairwise_mergeSort' (· ≤ ·) _

theorem sortedSeconds_perm (gaps : List ℤ) : (sortedSeconds gaps).Perm (gaps.map totalSeconds) :=
  List.mergeSort_perm _ _

theorem sortedSeconds_of_perm {other : List ℤ} (hperm : gaps.Perm other) :
    sortedSeconds gaps = sortedSeconds other := by
  have hsame : (sortedSeconds gaps).Perm (sortedSeconds other) :=
    ((sortedSeconds_perm gaps).trans (hperm.map _)).trans (sortedSeconds_perm other).symm
  exact hsame.eq_of_pairwise' (sortedSeconds_sorted gaps) (sortedSeconds_sorted other)

/-- A gap that is not positive is seen among the seconds. -/
theorem any_nonpositive : (sortedSeconds gaps).any (· ≤ 0) = true ↔ ∃ gap ∈ gaps, gap ≤ 0 := by
  have hsign : ∀ gap : ℤ, totalSeconds gap ≤ 0 ↔ gap ≤ 0 := fun gap => by
    have hzero : totalSeconds 0 = 0 := by simp [totalSeconds]
    rw [← hzero, totalSeconds_strictMono.le_iff_le]
  simp only [List.any_eq_true, decide_eq_true_eq, (sortedSeconds_perm gaps).mem_iff, List.mem_map]
  constructor
  · rintro ⟨seconds, ⟨gap, hgap, rfl⟩, hle⟩
    exact ⟨gap, hgap, (hsign gap).mp hle⟩
  · rintro ⟨gap, hgap, hle⟩
    exact ⟨totalSeconds gap, ⟨gap, hgap, rfl⟩, (hsign gap).mpr hle⟩

section Ranks

variable {share : ℚ} (hshare : 0 < share) (hone : share ≤ 1) (hgaps : 0 < gaps.length)
include hshare hone hgaps

/-- The rank is one of the seconds, at its index. -/
theorem nearestRank_eq : ∃ hindex : rankIndex share (sortedSeconds gaps).length <
      (sortedSeconds gaps).length,
    nearestRank (sortedSeconds gaps) share =
      (sortedSeconds gaps)[rankIndex share (sortedSeconds gaps).length] := by
  have hlength : (sortedSeconds gaps).length = gaps.length := by
    rw [(sortedSeconds_perm gaps).length_eq, List.length_map]
  have hindex := rankIndex_lt_length hshare hone (hlength ▸ hgaps)
  refine ⟨hindex, ?_⟩
  rw [nearestRank, List.getD_eq_getElem?_getD, List.getElem?_eq_getElem hindex]
  rfl

theorem nearestRank_le_iff {count : ℤ} :
    nearestRank (sortedSeconds gaps) share ≤ 60 * count ↔ Covers share gaps (minutes count) := by
  obtain ⟨hindex, hrank⟩ := nearestRank_eq hshare hone hgaps
  rw [hrank, rank_le_iff (sortedSeconds_sorted gaps) hshare hindex,
    covers_perm (sortedSeconds_perm gaps), ← totalSeconds_minutes,
    covers_map totalSeconds_strictMono]

/-- The ranked seconds are those of the nearest rank among the gaps. -/
theorem exists_nearestRank : ∃ gap, IsNearestRank share gaps gap ∧
    nearestRank (sortedSeconds gaps) share = totalSeconds gap := by
  obtain ⟨hindex, hrank⟩ := nearestRank_eq hshare hone hgaps
  have hnearest := (isNearestRank_getElem (sortedSeconds_sorted gaps) hshare hindex).perm
    (sortedSeconds_perm gaps)
  obtain ⟨gap, -, hgap⟩ := List.mem_map.mp hnearest.mem
  rw [← hgap] at hnearest
  exact ⟨gap, hnearest.of_map totalSeconds_strictMono, hrank.trans hgap.symm⟩

end Ranks

theorem recommendThresholds_insufficient (hfew : gaps.length < 20) :
    recommendThresholds gaps = .insufficient gaps.length :=
  if_pos hfew

theorem recommendThresholds_unavailable (hmany : 20 ≤ gaps.length) (hgap : ∃ gap ∈ gaps, gap ≤ 0) :
    recommendThresholds gaps = .unavailable "nonpositive_progress_gap" :=
  (if_neg (Nat.not_lt.mpr hmany)).trans (if_pos (any_nonpositive.mpr hgap))

/-- What a recommendation of whole minutes promises. -/
structure Recommends (gaps : List ℤ) (warning critical : ℤ) : Prop where
  warns : IsLeast {count : ℤ | 1 ≤ count ∧ Covers 0.95 gaps (minutes count)} warning
  stalls : ∃ rank, IsNearestRank 0.99 gaps rank ∧
    IsLeast {count : ℤ | rank ≤ minutes count ∧ 2 * warning ≤ count} critical
  accepted : ∃ pair, validateThresholds (60000 * warning) (60000 * critical) = .ok pair

theorem recommendThresholds_recommends (hmany : 20 ≤ gaps.length)
    (hpositive : ∀ gap ∈ gaps, 0 < gap) :
    ∃ warning critical, recommendThresholds gaps =
        .recommendation gaps.length (60000 * warning) (60000 * critical) ∧
      Recommends gaps warning critical := by
  have hgaps : 0 < gaps.length := by omega
  obtain ⟨warning, hwarning⟩ := exists_roundedMinute (nearestRank (sortedSeconds gaps) 0.95)
  obtain ⟨critical, hcritical⟩ := exists_roundedMinute
    (max (nearestRank (sortedSeconds gaps) 0.99)
      ((roundedMinute (nearestRank (sortedSeconds gaps) 0.95) * 2 : ℤ) : ℚ))
  have hwarned := isLeast_roundedMinute hwarning
  have hcrit := isLeast_roundedMinute hcritical
  have hone : 1 ≤ warning := hwarned.1.1
  obtain ⟨rank, hrank, hseconds⟩ := (exists_nearestRank (by norm_num) (by norm_num) hgaps :
    ∃ gap, IsNearestRank 0.99 gaps gap ∧ _)
  have hdouble : ∀ count : ℤ, 1 ≤ count ∧
      max (nearestRank (sortedSeconds gaps) 0.99)
        ((roundedMinute (nearestRank (sortedSeconds gaps) 0.95) * 2 : ℤ) : ℚ) ≤ 60 * count ↔
      rank ≤ minutes count ∧ 2 * warning ≤ count := by
    intro count
    rw [max_le_iff, hseconds, hwarning, ← totalSeconds_minutes, totalSeconds_strictMono.le_iff_le,
      totalSeconds_minutes]
    have hcast : ((60 * warning * 2 : ℤ) : ℚ) ≤ 60 * count ↔ 2 * warning ≤ count := by
      rw [show (60 * count : ℚ) = ((60 * count : ℤ) : ℚ) by push_cast; rfl, Int.cast_le]
      omega
    rw [hcast]
    omega
  have hdoubled : rank ≤ minutes critical ∧ 2 * warning ≤ critical :=
    (hdouble critical).mp hcrit.1
  refine ⟨warning, critical, ?_, ⟨?_, ⟨rank, hrank, hdoubled, ?_⟩, ?_⟩⟩
  · have hnone : ¬ (sortedSeconds gaps).any (· ≤ 0) = true := by
      rw [any_nonpositive]
      rintro ⟨gap, hgap, hle⟩
      exact absurd (hpositive gap hgap) hle.not_gt
    have hrun : recommendThresholds gaps = .recommendation gaps.length
        (roundedMinute (nearestRank (sortedSeconds gaps) 0.95) * 1000)
        (roundedMinute (max (nearestRank (sortedSeconds gaps) 0.99)
          (roundedMinute (nearestRank (sortedSeconds gaps) 0.95) * 2)) * 1000) :=
      (if_neg (Nat.not_lt.mpr hmany)).trans (if_neg hnone)
    push_cast at hcritical
    rw [hrun, hcritical, hwarning]
    congr 1 <;> ring
  · refine ⟨⟨hone, ?_⟩, fun count hcount => hwarned.2 ⟨hcount.1, ?_⟩⟩
    · exact (nearestRank_le_iff (by norm_num) (by norm_num) hgaps).mp hwarned.1.2
    · exact (nearestRank_le_iff (by norm_num) (by norm_num) hgaps).mpr hcount.2
  · intro count hcount
    refine hcrit.2 ((hdouble count).mpr hcount)
  · have hpositive : 0 < 60000 * warning ∧ 0 < 60000 * critical := by omega
    have hordered : 60000 * warning < 60000 * critical := by omega
    exact ⟨_, (dif_pos hpositive).trans (dif_pos hordered)⟩

theorem recommendThresholds_perm {other : List ℤ} (hperm : gaps.Perm other) :
    recommendThresholds other = recommendThresholds gaps := by
  have hsorted : (gaps.map totalSeconds).mergeSort (· ≤ ·) =
      (other.map totalSeconds).mergeSort (· ≤ ·) := sortedSeconds_of_perm hperm
  unfold recommendThresholds
  rw [hsorted, hperm.length_eq]

/-- **The stated percentiles**, for gaps of any number and in any order. -/
theorem recommendThresholds_percentiles (gaps : List ℤ) :
    (gaps.length < 20 → recommendThresholds gaps = .insufficient gaps.length) ∧
      (20 ≤ gaps.length → (∃ gap ∈ gaps, gap ≤ 0) →
        recommendThresholds gaps = .unavailable "nonpositive_progress_gap") ∧
      (20 ≤ gaps.length → (∀ gap ∈ gaps, 0 < gap) → ∃ warning critical,
        recommendThresholds gaps =
          .recommendation gaps.length (60000 * warning) (60000 * critical) ∧
        Recommends gaps warning critical) ∧
      ∀ other, gaps.Perm other → recommendThresholds other = recommendThresholds gaps :=
  ⟨recommendThresholds_insufficient, recommendThresholds_unavailable,
    recommendThresholds_recommends, fun _ => recommendThresholds_perm⟩

/-- Twenty gaps of a minute and a second. -/
theorem recommendThresholds_percentiles_replicate : ∃ warning critical,
    recommendThresholds (List.replicate 20 61000000) =
        .recommendation 20 (60000 * warning) (60000 * critical) ∧
      Recommends (List.replicate 20 61000000) warning critical :=
  (recommendThresholds_percentiles (List.replicate 20 61000000)).2.2.1 (by decide) (by decide)

end CodexMustWork
