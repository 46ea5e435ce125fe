import Mathlib.Algebra.Order.Field.Power
import Mathlib.Data.Int.Log
import Mathlib.Data.Nat.Log
import Mathlib.Data.Rat.Floor
import Mathlib.Tactic.Linarith
import Mathlib.Tactic.Positivity
import Mathlib.Tactic.FieldSimp
import Mathlib.Tactic.Ring

/-!
# Decimal numbers in a context

A nonnegative decimal number is a coefficient and an exponent.  A context rounds a result
to so many significant digits, a tie to the even digit, never below its least exponent,
and refuses a result whose leading digit stands above its greatest.
-/

namespace DecimalRounding

/-- A nonnegative decimal number. -/
structure Decimal where
  coefficient : ℕ
  exponent : ℤ
deriving DecidableEq, Repr

def Decimal.value (number : Decimal) : ℚ := number.coefficient * 10 ^ number.exponent

/-- The exact product. -/
def Decimal.mul (first second : Decimal) : Decimal :=
  ⟨first.coefficient * second.coefficient, first.exponent + second.exponent⟩

theorem Decimal.value_mul (first second : Decimal) :
    (first.mul second).value = first.value * second.value := by
  rw [Decimal.value, Decimal.value, Decimal.value, Decimal.mul, zpow_add₀ (by norm_num)]
  push_cast
  ring

structure Context where
  prec : ℕ
  emin : ℤ
  emax : ℤ
  prec_pos : 0 < prec
  emin_neg : emin < 0
  emax_nonneg : 0 ≤ emax

namespace Context

variable (context : Context)

def etiny : ℤ := context.emin - context.prec + 1

def etop : ℤ := context.emax - context.prec + 1

end Context

/-- The decimal digits of a number, one for zero. -/
def digitCount (number : ℕ) : ℕ := Nat.log 10 number + 1

/-- A quotient to the nearest whole number, a tie to the even one. -/
def roundHalfEven (number divisor : ℕ) : ℕ :=
  if divisor < 2 * (number % divisor) ∨
      2 * (number % divisor) = divisor ∧ number / divisor % 2 = 1 then
    number / divisor + 1
  else number / divisor

/-- Round a result to the context; nothing where it overflows. -/
def Context.fix (context : Context) (number : Decimal) : Option Decimal :=
  if number.coefficient = 0 then
    some ⟨0, min (max number.exponent context.etiny) context.emax⟩
  else
    let least := digitCount number.coefficient + number.exponent - context.prec
    if context.etop < least then none
    else
      let target := max least context.etiny
      if target ≤ number.exponent then some number
      else
        let rounded := roundHalfEven number.coefficient (10 ^ (target - number.exponent).toNat)
        if context.prec < digitCount rounded then
          if context.etop < target + 1 then none else some ⟨rounded / 10, target + 1⟩
        else some ⟨rounded, target⟩

/-- A product as the context computes it. -/
def Context.multiply (context : Context) (first second : Decimal) : Option Decimal :=
  context.fix (first.mul second)

/-! ### Rounding to whole numbers -/

/-- The whole number nearest to `number`, the even one where two are as near. -/
structure RoundsTo (number : ℚ) (whole : ℕ) : Prop where
  near : |number - whole| ≤ 1 / 2
  tie : |number - whole| = 1 / 2 → Even whole

theorem roundsTo_whole (whole : ℕ) : RoundsTo whole whole := by
  constructor
  · norm_num
  · intro htie
    norm_num at htie

theorem RoundsTo.eq_of_near {number : ℚ} {whole other : ℕ} (hrounds : RoundsTo number whole)
    (hnear : |number - other| < 1 / 2) : whole = other := by
  have hwhole := abs_le.mp hrounds.near
  have hother := abs_lt.mp hnear
  have hless : (whole : ℚ) < (other + 1 : ℕ) := by
    push_cast
    linarith
  have hgreater : (other : ℚ) < (whole + 1 : ℕ) := by
    push_cast
    linarith
  have hone := Nat.cast_lt.mp hless
  have htwo := Nat.cast_lt.mp hgreater
  omega

/-- An even number as near as the nearest is the nearest. -/
theorem RoundsTo.eq_of_even {number : ℚ} {whole other : ℕ} (hrounds : RoundsTo number whole)
    (hnear : |number - other| ≤ 1 / 2) (heven : Even other) : whole = other := by
  rcases hnear.lt_or_eq with hless | htie
  · exact hrounds.eq_of_near hless
  have hwhole := abs_le.mp hrounds.near
  have hother := abs_le.mp hnear
  have hclose : whole ≤ other + 1 ∧ other ≤ whole + 1 := by
    constructor
    · exact_mod_cast (by push_cast; linarith : (whole : ℚ) ≤ (other + 1 : ℕ))
    · exact_mod_cast (by push_cast; linarith : (other : ℚ) ≤ (whole + 1 : ℕ))
  by_contra hne
  -- The two are neighbours and both at half a unit, so both are even.
  have hboth : |number - whole| = 1 / 2 := by
    rcases (by omega : whole = other + 1 ∨ other = whole + 1) with rfl | rfl
    · push_cast at hwhole ⊢
      rw [abs_of_nonpos (by linarith)]
      linarith
    · push_cast at hother
      rw [abs_of_nonneg (by linarith)]
      linarith
  have hwholeEven := hrounds.tie hboth
  rw [Nat.even_iff] at heven hwholeEven
  omega

theorem roundHalfEven_roundsTo (number : ℕ) {divisor : ℕ} (hdivisor : 0 < divisor) :
    RoundsTo ((number : ℚ) / divisor) (roundHalfEven number divisor) := by
  have hpos : (0 : ℚ) < divisor := Nat.cast_pos.mpr hdivisor
  have hdistance : ∀ whole : ℕ, |(number : ℚ) / divisor - whole| =
      |(divisor : ℚ) * (number / divisor : ℕ) + (number % divisor : ℕ) - whole * divisor| /
        divisor := by
    intro whole
    have hsplit : (number : ℚ) = divisor * (number / divisor : ℕ) + (number % divisor : ℕ) := by
      exact_mod_cast (Nat.div_add_mod number divisor).symm
    rw [← hsplit, ← abs_of_pos hpos, ← abs_div, abs_of_pos hpos, sub_div,
      mul_div_cancel_right₀ _ hpos.ne']
  have hrest : ((number % divisor : ℕ) : ℚ) < divisor :=
    Nat.cast_lt.mpr (Nat.mod_lt number hdivisor)
  have hrestNonneg : (0 : ℚ) ≤ (number % divisor : ℕ) := Nat.cast_nonneg _
  have hhalf : ∀ distance : ℚ, distance / divisor ≤ 1 / 2 ↔ 2 * distance ≤ divisor := fun _ => by
    rw [div_le_iff₀ hpos]
    constructor <;> intro hle <;> linarith
  have htie : ∀ distance : ℚ, distance / divisor = 1 / 2 ↔ 2 * distance = divisor := fun _ => by
    rw [div_eq_iff hpos.ne']
    constructor <;> intro heq <;> linarith
  unfold roundHalfEven
  split
  · rename_i hup
    have hfar : (divisor : ℚ) ≤ 2 * (number % divisor : ℕ) := by
      exact_mod_cast (by omega : divisor ≤ 2 * (number % divisor))
    have hshape : |(divisor : ℚ) * (number / divisor : ℕ) + (number % divisor : ℕ) -
        (number / divisor + 1 : ℕ) * divisor| = divisor - (number % divisor : ℕ) := by
      have hsame : (divisor : ℚ) * (number / divisor : ℕ) + (number % divisor : ℕ) -
          (number / divisor + 1 : ℕ) * divisor = (number % divisor : ℕ) - divisor := by
        push_cast
        ring
      rw [hsame, abs_of_nonpos (by linarith), neg_sub]
    constructor
    · rw [hdistance, hshape, hhalf]
      linarith
    · rw [hdistance, hshape, htie]
      intro heq
      have hexact : 2 * (number % divisor) = divisor := by
        exact_mod_cast (by linarith : (2 : ℚ) * (number % divisor : ℕ) = divisor)
      rw [Nat.even_iff]
      omega
  · rename_i hdown
    have hnear : 2 * ((number % divisor : ℕ) : ℚ) ≤ divisor := by
      exact_mod_cast (by omega : 2 * (number % divisor) ≤ divisor)
    have hshape : |(divisor : ℚ) * (number / divisor : ℕ) + (number % divisor : ℕ) -
        (number / divisor : ℕ) * divisor| = (number % divisor : ℕ) := by
      have hsame : (divisor : ℚ) * (number / divisor : ℕ) + (number % divisor : ℕ) -
          (number / divisor : ℕ) * divisor = (number % divisor : ℕ) := by ring
      rw [hsame, abs_of_nonneg hrestNonneg]
    constructor
    · rw [hdistance, hshape, hhalf]
      exact hnear
    · rw [hdistance, hshape, htie]
      intro heq
      have hexact : 2 * (number % divisor) = divisor := by exact_mod_cast heq
      rw [Nat.even_iff]
      omega

/-! ### Digits and places -/

theorem pow_pos_ten (place : ℤ) : (0 : ℚ) < 10 ^ place := zpow_pos (by norm_num) place

theorem pow_le_pow_ten {low high : ℤ} (hle : low ≤ high) : (10 : ℚ) ^ low ≤ 10 ^ high :=
  zpow_le_zpow_right₀ (by norm_num) hle

/-- The place of the leading digit. -/
def order (number : ℚ) : ℤ := Int.log 10 number

theorem pow_order_le {number : ℚ} (hpos : 0 < number) : 10 ^ order number ≤ number := by
  exact_mod_cast Int.zpow_log_le_self (by norm_num : 1 < 10) hpos

theorem lt_pow_order (number : ℚ) : number < 10 ^ (order number + 1) := by
  exact_mod_cast Int.lt_zpow_succ_log_self (by norm_num : 1 < 10) number

theorem order_eq {number : ℚ} {place : ℤ} (hlow : 10 ^ place ≤ number)
    (hhigh : number < 10 ^ (place + 1)) : order number = place := by
  have hpos : 0 < number := (pow_pos_ten place).trans_le hlow
  have hle : place ≤ order number :=
    (Int.zpow_le_iff_le_log (by norm_num : 1 < 10) hpos).mp (by exact_mod_cast hlow)
  have hlt : order number < place + 1 :=
    (Int.lt_zpow_iff_log_lt (by norm_num : 1 < 10) hpos).mp (by exact_mod_cast hhigh)
  omega

theorem Decimal.value_pos {number : Decimal} (hcoefficient : number.coefficient ≠ 0) :
    0 < number.value :=
  mul_pos (Nat.cast_pos.mpr (Nat.pos_of_ne_zero hcoefficient)) (pow_pos_ten _)

theorem Decimal.order_value {number : Decimal} (hcoefficient : number.coefficient ≠ 0) :
    order number.value + 1 = digitCount number.coefficient + number.exponent := by
  have hplace : order number.value = Nat.log 10 number.coefficient + number.exponent := by
    refine order_eq ?_ ?_
    · rw [zpow_add₀ (by norm_num), zpow_natCast, Decimal.value]
      refine mul_le_mul_of_nonneg_right ?_ (pow_pos_ten _).le
      exact_mod_cast Nat.pow_log_le_self 10 hcoefficient
    · have hexponent : (Nat.log 10 number.coefficient + number.exponent + 1 : ℤ) =
          (Nat.log 10 number.coefficient + 1 : ℕ) + number.exponent := by
        push_cast
        ring
      rw [hexponent, zpow_add₀ (by norm_num), zpow_natCast, Decimal.value]
      refine mul_lt_mul_of_pos_right ?_ (pow_pos_ten _)
      exact_mod_cast Nat.lt_pow_succ_log_self (by norm_num) number.coefficient
  rw [hplace, digitCount]
  push_cast
  ring

theorem digitCount_le_iff {number limit : ℕ} (hlimit : 0 < limit) :
    digitCount number ≤ limit ↔ number < 10 ^ limit := by
  rw [digitCount]
  rcases Nat.eq_zero_or_pos number with rfl | hpos
  · simp only [Nat.log_zero_right, Nat.zero_add]
    exact iff_of_true hlimit (Nat.pow_pos (by norm_num))
  · exact Nat.log_lt_iff_lt_pow (by norm_num) hpos.ne'

/-! ### Rounding in a context -/

namespace Context

variable (context : Context)

/-- The place of the last digit a result keeps. -/
def lastPlace (number : ℚ) : ℤ := max (order number + 1 - context.prec) context.etiny

/-- From here on results overflow. -/
def threshold : ℚ := 10 ^ (context.emax + 1) - 10 ^ context.etop / 2

theorem etiny_lt_etop : context.etiny < context.etop := by
  have hneg := context.emin_neg
  have hnonneg := context.emax_nonneg
  unfold etiny etop
  omega

theorem etop_le_emax : context.etop ≤ context.emax := by
  have hprec := context.prec_pos
  unfold etop
  omega

/-- The top place and the greatest coefficient. -/
theorem pow_emax_succ : (10 : ℚ) ^ (context.emax + 1) = 10 ^ context.prec * 10 ^ context.etop := by
  rw [← zpow_natCast, ← zpow_add₀ (by norm_num)]
  congr 1
  unfold etop
  ring

theorem lt_threshold {number : ℚ} (horder : order number < context.emax) :
    number < context.threshold := by
  have hnumber : number < 10 ^ context.emax :=
    (lt_pow_order number).trans_le (pow_le_pow_ten horder)
  have hten : (10 : ℚ) ^ (context.emax + 1) = 10 ^ context.emax * 10 := zpow_add_one₀ (by norm_num) _
  have htop := pow_le_pow_ten context.etop_le_emax
  have hpos := pow_pos_ten context.emax
  unfold threshold
  linarith

theorem threshold_le {number : ℚ} (hnumber : 10 ^ (context.emax + 1) ≤ number) :
    context.threshold ≤ number := by
  have hpos := pow_pos_ten context.etop
  unfold threshold
  linarith

/-- With its last digit at the top place, a number overflows just when it rounds to a
    coefficient of one digit more. -/
theorem threshold_le_iff {number : ℚ} {whole : ℕ}
    (hrounds : RoundsTo (number / 10 ^ context.etop) whole)
    (hwhole : whole ≤ 10 ^ context.prec) :
    context.threshold ≤ number ↔ whole = 10 ^ context.prec := by
  have hunit := pow_pos_ten context.etop
  have hscaled : context.threshold ≤ number ↔
      (10 : ℚ) ^ context.prec - 1 / 2 ≤ number / 10 ^ context.etop := by
    rw [threshold, context.pow_emax_succ, le_div_iff₀ hunit]
    constructor <;> intro hle <;> linarith
  have hnear := abs_le.mp hrounds.near
  rw [hscaled]
  constructor
  · intro hle
    have hgreat : 10 ^ context.prec ≤ whole + 1 := by
      have hcast : ((10 ^ context.prec : ℕ) : ℚ) ≤ (whole + 1 : ℕ) := by
        push_cast
        linarith
      exact_mod_cast hcast
    by_contra hne
    -- One below the power of ten is odd, and a tie would have gone up.
    have hbelow : whole + 1 = 10 ^ context.prec := by omega
    have hcast : (whole : ℚ) + 1 = 10 ^ context.prec := by exact_mod_cast hbelow
    have htie : |number / 10 ^ context.etop - whole| = 1 / 2 := by
      rw [abs_of_nonneg (by linarith)]
      linarith
    have heven := Nat.even_iff.mp (hrounds.tie htie)
    have hpower : Even (10 ^ context.prec) :=
      (by decide : Even 10).pow_of_ne_zero context.prec_pos.ne'
    rw [Nat.even_iff] at hpower
    omega
  · rintro rfl
    push_cast at hnear
    linarith

/-- A number takes at most `prec` digits down to its last place. -/
theorem scaled_lt (number : ℚ) : number / 10 ^ context.lastPlace number < 10 ^ context.prec := by
  rw [div_lt_iff₀ (pow_pos_ten _), ← zpow_natCast, ← zpow_add₀ (by norm_num)]
  refine (lt_pow_order number).trans_le (pow_le_pow_ten ?_)
  have hle : order number + 1 - context.prec ≤ context.lastPlace number := le_max_left _ _
  omega

theorem whole_le {number : ℚ} {whole : ℕ}
    (hrounds : RoundsTo (number / 10 ^ context.lastPlace number) whole) :
    whole ≤ 10 ^ context.prec := by
  have hnear := abs_le.mp hrounds.near
  have hscaled := context.scaled_lt number
  have hcast : (whole : ℚ) < (10 ^ context.prec + 1 : ℕ) := by
    push_cast
    linarith
  have hless := Nat.cast_lt.mp hcast
  omega

/-- A number with a digit above the greatest place overflows, and one with no digit there
    does not. -/
theorem threshold_of_order {number : ℚ} (hpos : 0 < number) :
    (context.emax < order number → context.threshold ≤ number) ∧
      (order number < context.emax → number < context.threshold) := by
  refine ⟨fun hgreat => context.threshold_le ?_, context.lt_threshold⟩
  exact (pow_le_pow_ten (by omega)).trans (pow_order_le hpos)

theorem lastPlace_top {number : ℚ} (horder : order number = context.emax) :
    context.lastPlace number = context.etop := by
  have hless := context.etiny_lt_etop
  unfold lastPlace etop at *
  rw [horder]
  omega

/-- What rounding gives: nothing from the threshold on, and below it the nearest multiple
    of the last place. -/
theorem fix_cases {number : Decimal} (hcoefficient : number.coefficient ≠ 0) :
    (context.fix number = none ∧ context.threshold ≤ number.value) ∨
      ∃ (whole : ℕ) (result : Decimal), context.fix number = some result ∧
        RoundsTo (number.value / 10 ^ context.lastPlace number.value) whole ∧
        result.value = whole * 10 ^ context.lastPlace number.value ∧
        number.value < context.threshold := by
  have hpos := Decimal.value_pos hcoefficient
  have horder := Decimal.order_value hcoefficient
  have hplace : context.lastPlace number.value = max
      (digitCount number.coefficient + number.exponent - context.prec : ℤ) context.etiny := by
    rw [lastPlace, horder]
  have htiny := context.etiny_lt_etop
  obtain ⟨habove, hbelow⟩ := context.threshold_of_order hpos
  have hetop : context.etop = context.emax - context.prec + 1 := rfl
  have htop : ∀ whole : ℕ,
      RoundsTo (number.value / 10 ^ context.lastPlace number.value) whole →
      order number.value = context.emax →
        (context.threshold ≤ number.value ↔ whole = 10 ^ context.prec) := by
    intro whole hrounds hemax
    have hle := context.whole_le hrounds
    rw [context.lastPlace_top hemax] at hrounds
    exact context.threshold_le_iff hrounds hle
  unfold fix
  rw [if_neg hcoefficient]
  simp only [← hplace]
  split
  · rename_i hleast
    exact Or.inl ⟨rfl, habove (by omega)⟩
  rename_i hleast
  split
  · -- Every digit is kept.
    rename_i hkept
    obtain ⟨more, hmore⟩ := Int.eq_ofNat_of_zero_le (sub_nonneg.mpr hkept)
    have hexponent : number.exponent = context.lastPlace number.value + more := by omega
    have hvalue : number.value =
        (number.coefficient * 10 ^ more : ℕ) * 10 ^ context.lastPlace number.value := by
      conv_lhs => rw [Decimal.value, hexponent, zpow_add₀ (by norm_num), zpow_natCast]
      push_cast
      ring
    have hquotient : number.value / 10 ^ context.lastPlace number.value =
        (number.coefficient * 10 ^ more : ℕ) :=
      (div_eq_iff (pow_pos_ten _).ne').mpr hvalue
    have hrounds : RoundsTo (number.value / 10 ^ context.lastPlace number.value)
        (number.coefficient * 10 ^ more) := by
      rw [hquotient]
      exact roundsTo_whole _
    refine Or.inr ⟨_, number, rfl, hrounds, hvalue, ?_⟩
    rcases (by omega : order number.value < context.emax ∨ order number.value = context.emax)
      with hless | hemax
    · exact hbelow hless
    · by_contra hgreat
      have hwhole := (htop _ hrounds hemax).mp (not_lt.mp hgreat)
      have hscaled := context.scaled_lt number.value
      rw [hquotient, hwhole] at hscaled
      push_cast at hscaled
      exact lt_irrefl _ hscaled
  · rename_i hdropped
    obtain ⟨drop, hdrop⟩ := Int.eq_ofNat_of_zero_le (sub_nonneg.mpr (not_le.mp hdropped).le)
    rw [hdrop, Int.toNat_natCast]
    have hdivisor : 0 < 10 ^ drop := Nat.pow_pos (by norm_num)
    have hrounds := roundHalfEven_roundsTo number.coefficient hdivisor
    have hscale : (number.coefficient : ℚ) / (10 ^ drop : ℕ) =
        number.value / 10 ^ context.lastPlace number.value := by
      have hlast : context.lastPlace number.value = number.exponent + drop := by omega
      conv_rhs => rw [hlast, zpow_add₀ (by norm_num), zpow_natCast, Decimal.value]
      rw [mul_comm, mul_div_mul_left _ _ (pow_pos_ten _).ne']
      push_cast
      rfl
    rw [hscale] at hrounds
    have hle := context.whole_le hrounds
    split
    · rename_i hlong
      have hwhole : roundHalfEven number.coefficient (10 ^ drop) = 10 ^ context.prec := by
        have hnot := mt (digitCount_le_iff context.prec_pos).mpr (not_le.mpr hlong)
        omega
      split
      · rename_i hover
        refine Or.inl ⟨rfl, ?_⟩
        have hemax : order number.value = context.emax := by omega
        exact (htop _ hrounds hemax).mpr hwhole
      · rename_i hfits
        refine Or.inr ⟨_, _, rfl, hrounds, ?_, hbelow (by omega)⟩
        obtain ⟨rest, hrest⟩ := Nat.exists_eq_succ_of_ne_zero context.prec_pos.ne'
        rw [Decimal.value, hwhole, hrest, Nat.pow_succ, Nat.mul_div_cancel _ (by norm_num),
          zpow_add_one₀ (by norm_num)]
        push_cast
        ring
    · rename_i hshort
      refine Or.inr ⟨_, _, rfl, hrounds, rfl, ?_⟩
      have hless := (digitCount_le_iff context.prec_pos).mp (not_lt.mp hshort)
      rcases (by omega : order number.value < context.emax ∨ order number.value = context.emax)
        with hlow | hemax
      · exact hbelow hlow
      · by_contra hgreat
        have hwhole := (htop _ hrounds hemax).mp (not_lt.mp hgreat)
        omega

/-! ### Where rounding gives a whole number -/

/-- One unit of the last significant digit. -/
def unit (number : ℚ) : ℚ := 10 ^ (order number + 1 - context.prec)

/-- Within half a unit of a positive whole number. -/
def NearWhole (number : ℚ) : Prop :=
  ∃ whole : ℕ, 0 < whole ∧ |number - whole| ≤ context.unit number / 2

/-- No more significant digits than the context keeps. -/
def Fits (number : ℚ) : Prop := ∃ digits : ℕ, number = digits * context.unit number

theorem unit_pos (number : ℚ) : 0 < context.unit number := pow_pos_ten _

theorem unit_le {number : ℚ} (hpos : 0 < number) : context.unit number ≤ number := by
  have hprec := context.prec_pos
  refine (pow_le_pow_ten ?_).trans (pow_order_le hpos)
  omega

/-- A number near a whole one is no subnormal number. -/
theorem NearWhole.half_le {number : ℚ} (hpos : 0 < number) (hnear : context.NearWhole number) :
    1 / 2 ≤ number := by
  obtain ⟨whole, hwhole, hle⟩ := hnear
  have hone : (1 : ℚ) ≤ whole := by exact_mod_cast hwhole
  have hunit := context.unit_le hpos
  have hbounds := abs_le.mp hle
  linarith

theorem lastPlace_eq {number : ℚ} (hpos : 0 < number) (hhalf : 1 / 10 ≤ number) :
    (10 : ℚ) ^ context.lastPlace number = context.unit number := by
  have hplace : -1 ≤ order number := by
    refine (Int.zpow_le_iff_le_log (by norm_num : 1 < 10) hpos).mp ?_
    norm_num at hhalf ⊢
    exact hhalf
  have hemin := context.emin_neg
  rw [unit, lastPlace, max_eq_left]
  unfold etiny
  omega

/-- A number below a tenth rounds below one. -/
theorem rounded_lt_one {number : ℚ} {whole : ℕ} (hpos : 0 < number) (hsmall : number < 1 / 10)
    (hrounds : RoundsTo (number / 10 ^ context.lastPlace number) whole) :
    whole * 10 ^ context.lastPlace number < (1 : ℚ) := by
  have hprec := context.prec_pos
  have hemin := context.emin_neg
  have hplace : order number < -1 := by
    refine (Int.lt_zpow_iff_log_lt (by norm_num : 1 < 10) hpos).mp ?_
    norm_num at hsmall ⊢
    exact hsmall
  have hlast : context.lastPlace number ≤ -1 := by
    unfold lastPlace etiny
    omega
  have hunit := pow_pos_ten (context.lastPlace number)
  have htenth : (10 : ℚ) ^ context.lastPlace number ≤ 10 ^ (-1 : ℤ) := pow_le_pow_ten hlast
  have hnear := (abs_le.mp hrounds.near).1
  rw [neg_le_sub_iff_le_add, ← sub_le_iff_le_add, le_div_iff₀ hunit] at hnear
  norm_num at htenth
  linarith

/-- What rounding gives is a positive whole number just when the number is near one. -/
theorem rounded_whole_iff {number : ℚ} {whole : ℕ} (hpos : 0 < number)
    (hrounds : RoundsTo (number / 10 ^ context.lastPlace number) whole) :
    (∃ result : ℕ, 0 < result ∧ whole * 10 ^ context.lastPlace number = (result : ℚ)) ↔
      context.NearWhole number := by
  by_cases hsmall : number < 1 / 10
  · refine iff_of_false ?_ fun hnear => ?_
    · rintro ⟨result, hresult, hsame⟩
      have hless := context.rounded_lt_one hpos hsmall hrounds
      rw [hsame] at hless
      have hone : (1 : ℚ) ≤ result := by exact_mod_cast hresult
      linarith
    · have hhalf := hnear.half_le context hpos
      linarith
  · have hplace := context.lastPlace_eq hpos (not_lt.mp hsmall)
    have hunit := context.unit_pos number
    have hscaled : ∀ other : ℚ, |number / context.unit number - other| =
        |number - other * context.unit number| / context.unit number := by
      intro other
      rw [← abs_of_pos hunit, ← abs_div, abs_of_pos hunit, sub_div,
        mul_div_cancel_right₀ _ hunit.ne']
    rw [hplace] at hrounds ⊢
    constructor
    · rintro ⟨result, hresult, hsame⟩
      refine ⟨result, hresult, ?_⟩
      have hnear := hrounds.near
      rw [hscaled, hsame, div_le_iff₀ hunit] at hnear
      linarith
    · rintro ⟨result, hresult, hnear⟩
      have hexponent : context.unit number = 10 ^ (order number + 1 - context.prec) := rfl
      rcases le_or_gt 0 (order number + 1 - (context.prec : ℤ)) with hcoarse | hfine
      · -- The unit is a whole number, so every multiple is.
        obtain ⟨places, hplaces⟩ := Int.eq_ofNat_of_zero_le hcoarse
        rw [hplaces, zpow_natCast] at hexponent
        have hone : 1 ≤ whole := by
          have hbelow := (abs_le.mp hrounds.near).2
          have hquotient : 1 ≤ number / context.unit number :=
            (one_le_div hunit).mpr (context.unit_le hpos)
          have hcast : (0 : ℚ) < whole := by linarith
          exact_mod_cast hcast
        refine ⟨whole * 10 ^ places, Nat.mul_pos hone (Nat.pow_pos (by norm_num)), ?_⟩
        rw [hexponent]
        push_cast
        rfl
      · -- A whole number is an even multiple of a unit below one.
        obtain ⟨places, hplaces⟩ := Int.eq_ofNat_of_zero_le (neg_pos.mpr hfine).le
        have hpositive : places ≠ 0 := by omega
        have hinverse : context.unit number * 10 ^ places = 1 := by
          rw [hexponent, ← zpow_natCast, ← hplaces, ← zpow_add₀ (by norm_num)]
          simp
        have heven : Even (result * 10 ^ places) :=
          ((by decide : Even 10).pow_of_ne_zero hpositive).mul_left _
        have hmultiple : ((result * 10 ^ places : ℕ) : ℚ) * context.unit number = result := by
          push_cast
          rw [mul_assoc, mul_comm (10 ^ places : ℚ), hinverse, mul_one]
        have hclose : |number / context.unit number - (result * 10 ^ places : ℕ)| ≤ 1 / 2 := by
          rw [hscaled, hmultiple, div_le_iff₀ hunit]
          linarith
        rw [hrounds.eq_of_even hclose heven]
        exact ⟨result, hresult, hmultiple⟩

/-- Nothing is lost just when the digits fit. -/
theorem rounded_eq_iff {number : ℚ} {whole : ℕ} (hpos : 0 < number) (hhalf : 1 / 10 ≤ number)
    (hrounds : RoundsTo (number / 10 ^ context.lastPlace number) whole) :
    whole * 10 ^ context.lastPlace number = number ↔ context.Fits number := by
  rw [context.lastPlace_eq hpos hhalf] at hrounds ⊢
  constructor
  · intro hsame
    exact ⟨whole, hsame.symm⟩
  · rintro ⟨digits, hdigits⟩
    have hquotient : number / context.unit number = digits :=
      (div_eq_iff (context.unit_pos number).ne').mpr hdigits
    rw [hquotient] at hrounds
    have hwhole : whole = digits := hrounds.eq_of_near (by norm_num)
    rw [hwhole]
    exact hdigits.symm

end Context

end DecimalRounding
