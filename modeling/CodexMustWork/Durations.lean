import CodexMustWork.Library.DecimalRounding
import CodexMustWork.Library.DecimalText

/-!
# Durations

`scripts/durations.py`: a duration such as `2.5m` in milliseconds.  The number is read
with every decimal digit of Unicode, and multiplied in the context that decimal
arithmetic starts with.  A string that UTF-8 cannot encode is `none`.
-/

namespace CodexMustWork

open DecimalRounding

/-- The decimal digits of Unicode, which `\d` matches and `Decimal` reads. -/
structure DigitTable where
  digit : Char → Option ℕ
  ascii_digit : ∀ c : Char, c.isDigit = true → digit c = some (c.toNat - 48)
  ascii_other : ∀ c : Char, c.toNat < 128 → c.isDigit = false → digit c = none

/-- Only the ten digits of ASCII. -/
def asciiDigits : DigitTable where
  digit c := if c.isDigit then some (c.toNat - 48) else none
  ascii_digit _ hdigit := if_pos hdigit
  ascii_other _ _ hother := if_neg (ne_true_of_eq_false hother)

inductive DurationErrorReason where
  | format
  | positive
  | wholeMilliseconds
deriving DecidableEq, Repr

/-- `DurationParseError`. -/
structure DurationParseError where
  raw : Option String
  reason : DurationErrorReason
deriving DecidableEq, Repr

/-- What `parse_duration_ms` raises: its own error, or `decimal.Overflow`. -/
inductive DurationFailure where
  | parse (error : DurationParseError)
  | overflow
deriving DecidableEq, Repr

/-- The context decimal arithmetic starts with. -/
def defaultContext : Context where
  prec := 28
  emin := -999999
  emax := 999999
  prec_pos := by decide
  emin_neg := by decide
  emax_nonneg := by decide

/-- `_UNIT_MILLISECONDS`. -/
def unitMilliseconds (unit : Char) : Option Decimal :=
  if unit = 's' then some ⟨1000, 0⟩
  else if unit = 'm' then some ⟨60000, 0⟩
  else if unit = 'h' then some ⟨3600000, 0⟩
  else none

/-- The groups of a match. -/
structure DurationText where
  whole : List Char
  fraction : List Char
  unit : Decimal
deriving DecidableEq, Repr

variable (table : DigitTable)

/-- `\d`. -/
def DigitTable.matches (c : Char) : Bool := (table.digit c).isSome

/-- `0|[1-9]\d*`. -/
def matchesWhole : List Char → Bool
  | [] => false
  | ['0'] => true
  | first :: rest => decide ('1' ≤ first ∧ first ≤ '9') && rest.all table.matches

/-- `(?:\.\d+)?`, giving the digits. -/
def matchFraction : List Char → Option (List Char)
  | [] => some []
  | point :: digits =>
      if point = '.' ∧ digits ≠ [] ∧ digits.all table.matches = true then some digits else none

/-- `_DURATION_PATTERN.fullmatch`. -/
def matchDuration (raw : List Char) : Option DurationText :=
  match raw.getLast?.bind unitMilliseconds with
  | none => none
  | some unit =>
      let value := raw.dropLast
      let whole := value.takeWhile (· ≠ '.')
      match matchFraction table (value.dropWhile (· ≠ '.')) with
      | none => none
      | some fraction =>
          if matchesWhole table whole = true then some ⟨whole, fraction, unit⟩ else none

/-- The number that digits spell. -/
def DigitTable.number (text : List Char) : ℕ :=
  text.foldl (fun total c => 10 * total + (table.digit c).getD 0) 0

/-- `Decimal(match.group("value"))`. -/
def decimalOf (parsed : DurationText) : Decimal :=
  ⟨table.number (parsed.whole ++ parsed.fraction), -parsed.fraction.length⟩

/-- `Decimal.to_integral_value`. -/
def toIntegralValue (number : Decimal) : Decimal :=
  if 0 ≤ number.exponent then number
  else ⟨roundHalfEven number.coefficient (10 ^ (-number.exponent).toNat), 0⟩

/-- `int` of a decimal number. -/
def toInteger (number : Decimal) : ℕ :=
  if 0 ≤ number.exponent then number.coefficient * 10 ^ number.exponent.toNat
  else number.coefficient / 10 ^ (-number.exponent).toNat

/-- `parse_duration_ms`. -/
def parseDurationMs (raw : Option String) : Except DurationFailure ℕ :=
  match raw.bind fun text => matchDuration table text.toList with
  | none => .error (.parse ⟨raw, .format⟩)
  | some parsed =>
      match defaultContext.multiply (decimalOf table parsed) parsed.unit with
      | none => .error .overflow
      | some milliseconds =>
          if milliseconds.value ≤ 0 then .error (.parse ⟨raw, .positive⟩)
          else if milliseconds.value ≠ (toIntegralValue milliseconds).value then
            .error (.parse ⟨raw, .wholeMilliseconds⟩)
          else .ok (toInteger milliseconds)

example : parseDurationMs asciiDigits (some "2.5m") = .ok 150000 := by decide +kernel

/-! ### What a duration means -/

/-- An ASCII decimal number without superfluous leading zero, and its exact value. -/
def IsDecimal (text : List Char) (number : ℚ) : Prop :=
  (DecimalText.Canonical text ∧ number = DecimalText.value text) ∨
    ∃ whole fraction, text = whole ++ '.' :: fraction ∧ DecimalText.Canonical whole ∧
      DecimalText.Digits fraction ∧ fraction ≠ [] ∧
      number = DecimalText.value whole + DecimalText.value fraction / 10 ^ fraction.length

/-- A decimal number and a unit, and what they are in milliseconds. -/
def Means (raw : Option String) (milliseconds : ℚ) : Prop :=
  ∃ text unit number, ∃ factor : ℕ, raw = some (String.ofList (text ++ [unit])) ∧
    IsDecimal text number ∧ (unit, factor) ∈ [('s', 1000), ('m', 60000), ('h', 3600000)] ∧
    milliseconds = number * factor

/-- All digits are ASCII digits. -/
def DurationText.Ascii (parsed : DurationText) : Prop :=
  DecimalText.Digits (parsed.whole ++ parsed.fraction)

/-- The exact milliseconds of a match. -/
def exactMilliseconds (parsed : DurationText) : ℚ :=
  (decimalOf table parsed).value * parsed.unit.value

/-! ### What matches -/

variable {table}

theorem not_matches_point : table.matches '.' = false := by
  rw [DigitTable.matches, table.ascii_other '.' (by decide) (by decide)]
  rfl

theorem matches_of_isDigit {c : Char} (hdigit : c.isDigit = true) : table.matches c = true := by
  rw [DigitTable.matches, table.ascii_digit c hdigit]
  rfl

theorem isDigit_of_range {c : Char} (hrange : '1' ≤ c ∧ c ≤ '9') : c.isDigit = true := by
  have hlow : '0' ≤ '1' := by decide
  simp only [Char.isDigit, Bool.and_eq_true, decide_eq_true_eq]
  exact ⟨le_trans hlow hrange.1, hrange.2⟩

theorem range_of_isDigit {c : Char} (hdigit : c.isDigit = true) (hne : c ≠ '0') :
    '1' ≤ c ∧ c ≤ '9' := by
  have hbounds := DecimalText.toNat_of_isDigit hdigit
  have hzero : c.toNat ≠ 48 := fun heq => hne (Char.toNat_inj.mp (by rw [heq]; rfl))
  constructor
  · exact (by omega : 49 ≤ c.toNat)
  · exact hbounds.2

/-- Every character of a whole number is a digit. -/
theorem matches_of_mem_whole {whole : List Char} (hwhole : matchesWhole table whole = true) :
    whole ≠ [] ∧ ∀ c ∈ whole, table.matches c = true := by
  unfold matchesWhole at hwhole
  split at hwhole
  · cases hwhole
  · refine ⟨List.cons_ne_nil _ _, fun c hc => ?_⟩
    rw [List.mem_singleton.mp hc]
    exact matches_of_isDigit (by decide)
  · rename_i first rest _
    obtain ⟨hfirst, hrest⟩ := Bool.and_eq_true_iff.mp hwhole
    refine ⟨List.cons_ne_nil _ _, fun c hc => ?_⟩
    rcases List.mem_cons.mp hc with rfl | hc
    · exact matches_of_isDigit (isDigit_of_range (of_decide_eq_true hfirst))
    · exact List.all_eq_true.mp hrest c hc

/-- With ASCII digits only, a whole number is a canonical decimal text. -/
theorem matchesWhole_iff_canonical {whole : List Char} (hdigits : DecimalText.Digits whole) :
    matchesWhole table whole = true ↔ DecimalText.Canonical whole := by
  constructor
  · intro hwhole
    refine ⟨hdigits, (matches_of_mem_whole hwhole).1, ?_⟩
    unfold matchesWhole at hwhole
    split at hwhole
    · cases hwhole
    · exact Or.inl rfl
    · obtain ⟨hfirst, -⟩ := Bool.and_eq_true_iff.mp hwhole
      right
      intro hzero
      rw [Option.some.inj hzero] at hfirst
      exact absurd (of_decide_eq_true hfirst).1 (by decide)
  · rintro ⟨-, hnonempty, hleading⟩
    unfold matchesWhole
    split
    · exact absurd rfl hnonempty
    · rfl
    · rename_i first rest hnot
      obtain ⟨hfirst, hrest⟩ := DecimalText.digits_cons.mp hdigits
      have hne : first ≠ '0' := by
        rcases hleading with hzero | hhead
        · cases hzero
          exact fun _ => hnot rfl rfl
        · exact fun heq => hhead (by rw [heq]; rfl)
      exact Bool.and_eq_true_iff.mpr ⟨decide_eq_true (range_of_isDigit hfirst hne),
        List.all_eq_true.mpr fun c hc => matches_of_isDigit (hrest c hc)⟩

/-- The text of a fraction and its digits. -/
def FractionText (table : DigitTable) (text digits : List Char) : Prop :=
  (text = [] ∧ digits = []) ∨
    (text = '.' :: digits ∧ digits ≠ [] ∧ ∀ c ∈ digits, table.matches c = true)

theorem matchFraction_eq_some {text digits : List Char} :
    matchFraction table text = some digits ↔ FractionText table text digits := by
  cases text with
  | nil =>
    constructor
    · intro hmatch
      exact Or.inl ⟨rfl, (Option.some.inj hmatch).symm⟩
    · rintro (⟨-, rfl⟩ | ⟨hcons, -⟩)
      · rfl
      · cases hcons
  | cons point rest =>
    simp only [matchFraction, FractionText, List.all_eq_true]
    constructor
    · intro hmatch
      split at hmatch
      · rename_i hfraction
        cases hmatch
        exact Or.inr ⟨by rw [hfraction.1], hfraction.2⟩
      · cases hmatch
    · rintro (⟨hnil, -⟩ | ⟨hcons, hfraction⟩)
      · cases hnil
      · obtain ⟨rfl, rfl⟩ := List.cons.inj hcons
        exact if_pos ⟨rfl, hfraction⟩

theorem matchDuration_eq_some {raw : List Char} {parsed : DurationText} :
    matchDuration table raw = some parsed ↔ ∃ point unit, raw = parsed.whole ++ point ++ [unit] ∧
      unitMilliseconds unit = some parsed.unit ∧ matchesWhole table parsed.whole = true ∧
      FractionText table point parsed.fraction := by
  constructor
  · intro hmatch
    unfold matchDuration at hmatch
    cases hunit : raw.getLast?.bind unitMilliseconds with
    | none =>
      rw [hunit] at hmatch
      cases hmatch
    | some factor =>
      rw [hunit] at hmatch
      obtain ⟨unit, hlast, hfactor⟩ := Option.bind_eq_some_iff.mp hunit
      simp only at hmatch
      cases hfraction : matchFraction table (raw.dropLast.dropWhile (· ≠ '.')) with
      | none =>
        rw [hfraction] at hmatch
        cases hmatch
      | some digits =>
        rw [hfraction] at hmatch
        simp only at hmatch
        split at hmatch
        · rename_i hwhole
          cases hmatch
          refine ⟨raw.dropLast.dropWhile (· ≠ '.'), unit, ?_, hfactor, hwhole,
            matchFraction_eq_some.mp hfraction⟩
          rw [List.takeWhile_append_dropWhile]
          exact (List.dropLast_append_getLast? unit hlast).symm
        · cases hmatch
  · rintro ⟨point, unit, rfl, hfactor, hwhole, hfraction⟩
    have hplain : ∀ c ∈ parsed.whole, (decide (c ≠ '.')) = true := by
      intro c hc
      refine decide_eq_true fun heq => ?_
      have hmatches := (matches_of_mem_whole hwhole).2 c hc
      rw [heq, not_matches_point] at hmatches
      cases hmatches
    have hpoint : point.takeWhile (· ≠ '.') = [] ∧ point.dropWhile (· ≠ '.') = point := by
      rcases hfraction with ⟨rfl, -⟩ | ⟨rfl, -⟩
      · exact ⟨rfl, rfl⟩
      · exact ⟨rfl, rfl⟩
    unfold matchDuration
    have hunit : (parsed.whole ++ point ++ [unit]).getLast?.bind unitMilliseconds =
        some parsed.unit := by simpa using hfactor
    rw [hunit]
    simp only [List.dropLast_concat, List.takeWhile_append_of_pos hplain,
      List.dropWhile_append_of_pos hplain, hpoint.1, hpoint.2, List.append_nil,
      matchFraction_eq_some.mpr hfraction]
    exact if_pos hwhole

/-! ### Exact values -/

theorem number_eq_value {text : List Char} (hdigits : DecimalText.Digits text) :
    table.number text = DecimalText.value text := by
  have hfold : ∀ total, text.foldl (fun total c => 10 * total + (table.digit c).getD 0) total =
      Nat.ofDigitChars 10 text total := by
    induction text with
    | nil => exact fun total => rfl
    | cons c rest ih =>
      intro total
      obtain ⟨hc, hrest⟩ := DecimalText.digits_cons.mp hdigits
      rw [List.foldl_cons, ih hrest, Nat.ofDigitChars_cons, table.ascii_digit c hc]
      rfl
  exact hfold 0

/-- A fraction adds its digits below the point. -/
theorem decimalOf_value {parsed : DurationText} (hascii : parsed.Ascii) :
    (decimalOf table parsed).value = DecimalText.value parsed.whole +
      DecimalText.value parsed.fraction / 10 ^ parsed.fraction.length := by
  have happend : DecimalText.value (parsed.whole ++ parsed.fraction) =
      10 ^ parsed.fraction.length * DecimalText.value parsed.whole +
        DecimalText.value parsed.fraction := by
    rw [DecimalText.value, Nat.ofDigitChars_append, Nat.ofDigitChars_eq_ofDigitChars_zero]
  rw [Decimal.value, decimalOf, number_eq_value hascii, happend, zpow_neg, zpow_natCast]
  push_cast
  field_simp

theorem unitMilliseconds_eq_some {unit : Char} {factor : Decimal} :
    unitMilliseconds unit = some factor ↔ ∃ count : ℕ,
      (unit, count) ∈ [('s', 1000), ('m', 60000), ('h', 3600000)] ∧ factor = ⟨count, 0⟩ := by
  constructor
  · intro hunit
    unfold unitMilliseconds at hunit
    split_ifs at hunit with hs hm hh
    · exact ⟨1000, by simp [hs], (Option.some.inj hunit).symm⟩
    · exact ⟨60000, by simp [hm], (Option.some.inj hunit).symm⟩
    · exact ⟨3600000, by simp [hh], (Option.some.inj hunit).symm⟩
  · rintro ⟨count, hmem, rfl⟩
    simp only [List.mem_cons, Prod.mk.injEq, List.not_mem_nil, or_false] at hmem
    rcases hmem with ⟨rfl, rfl⟩ | ⟨rfl, rfl⟩ | ⟨rfl, rfl⟩ <;> rfl

theorem value_unit (count : ℕ) : (⟨count, 0⟩ : Decimal).value = count := by
  rw [Decimal.value, zpow_zero, mul_one]

/-- A duration means what its match multiplies out to, when its digits are ASCII digits. -/
theorem means_iff {raw : String} {milliseconds : ℚ} :
    Means (some raw) milliseconds ↔ ∃ parsed, matchDuration table raw.toList = some parsed ∧
      parsed.Ascii ∧ milliseconds = exactMilliseconds table parsed := by
  constructor
  · rintro ⟨text, unit, number, count, hraw, hdecimal, hunit, rfl⟩
    have hlist : raw.toList = text ++ [unit] := by
      rw [Option.some.inj hraw, String.toList_ofList]
    have hfactor := unitMilliseconds_eq_some.mpr ⟨count, hunit, rfl⟩
    rcases hdecimal with ⟨hcanonical, rfl⟩ | ⟨whole, fraction, rfl, hcanonical, hdigits, hne, rfl⟩
    · have hascii : (⟨text, [], ⟨count, 0⟩⟩ : DurationText).Ascii := by
        rw [DurationText.Ascii, List.append_nil]
        exact hcanonical.digits
      refine ⟨⟨text, [], ⟨count, 0⟩⟩, matchDuration_eq_some.mpr ⟨[], unit, ?_, hfactor,
        (matchesWhole_iff_canonical hcanonical.digits).mpr hcanonical, Or.inl ⟨rfl, rfl⟩⟩, hascii,
        ?_⟩
      · rw [hlist, List.append_nil]
      · rw [exactMilliseconds, decimalOf_value hascii, value_unit, DecimalText.value_nil]
        simp
    · have hascii : (⟨whole, fraction, ⟨count, 0⟩⟩ : DurationText).Ascii := by
        intro c hc
        rcases List.mem_append.mp hc with hc | hc
        · exact hcanonical.digits c hc
        · exact hdigits c hc
      refine ⟨⟨whole, fraction, ⟨count, 0⟩⟩, matchDuration_eq_some.mpr ⟨'.' :: fraction, unit,
        hlist, hfactor, (matchesWhole_iff_canonical hcanonical.digits).mpr hcanonical,
        Or.inr ⟨rfl, hne, fun c hc => matches_of_isDigit (hdigits c hc)⟩⟩, hascii, ?_⟩
      rw [exactMilliseconds, decimalOf_value hascii, value_unit]
  · rintro ⟨parsed, hmatch, hascii, rfl⟩
    obtain ⟨point, unit, hlist, hfactor, hwhole, hfraction⟩ := matchDuration_eq_some.mp hmatch
    obtain ⟨count, hunit, hcount⟩ := unitMilliseconds_eq_some.mp hfactor
    have hdigits : DecimalText.Digits parsed.whole := fun c hc =>
      hascii c (List.mem_append_left _ hc)
    have hcanonical := (matchesWhole_iff_canonical hdigits).mp hwhole
    refine ⟨parsed.whole ++ point, unit, (decimalOf table parsed).value, count, ?_, ?_, hunit, ?_⟩
    · rw [← hlist, String.ofList_toList]
    · rw [decimalOf_value hascii]
      rcases hfraction with ⟨rfl, hnil⟩ | ⟨rfl, hne, -⟩
      · left
        rw [List.append_nil, hnil, DecimalText.value_nil]
        exact ⟨hcanonical, by simp⟩
      · exact Or.inr ⟨parsed.whole, parsed.fraction, rfl, hcanonical, fun c hc =>
          hascii c (List.mem_append_right _ hc), hne, rfl⟩
    · rw [exactMilliseconds, hcount, value_unit]

/-! ### Whole numbers -/

/-- A decimal number is its integral value just when it is whole. -/
theorem eq_toIntegralValue_iff {number : Decimal} :
    number.value = (toIntegralValue number).value ↔ ∃ whole : ℕ, number.value = whole := by
  unfold toIntegralValue
  split
  · rename_i hexponent
    obtain ⟨places, hplaces⟩ := Int.eq_ofNat_of_zero_le hexponent
    refine iff_of_true rfl ⟨number.coefficient * 10 ^ places, ?_⟩
    rw [Decimal.value, hplaces, zpow_natCast]
    push_cast
    rfl
  · rename_i hexponent
    obtain ⟨places, hplaces⟩ := Int.eq_ofNat_of_zero_le (neg_pos.mpr (not_le.mp hexponent)).le
    have hvalue : number.value = number.coefficient / (10 ^ places : ℕ) := by
      rw [Decimal.value, ← neg_neg number.exponent, hplaces, zpow_neg, zpow_natCast]
      push_cast
      rfl
    have hrounds := roundHalfEven_roundsTo number.coefficient
      (Nat.pow_pos (by decide) : 0 < 10 ^ places)
    rw [← hvalue] at hrounds
    rw [hplaces, Int.toNat_natCast, value_unit]
    constructor
    · intro hsame
      exact ⟨_, hsame⟩
    · rintro ⟨whole, hwhole⟩
      have hround := hrounds.eq_of_near (by rw [hwhole]; norm_num : |number.value - whole| < 1 / 2)
      rw [hround, hwhole]

theorem toInteger_of_whole {number : Decimal} {whole : ℕ} (hwhole : number.value = whole) :
    toInteger number = whole := by
  unfold toInteger
  split
  · rename_i hexponent
    obtain ⟨places, hplaces⟩ := Int.eq_ofNat_of_zero_le hexponent
    rw [Decimal.value, hplaces, zpow_natCast] at hwhole
    rw [hplaces, Int.toNat_natCast]
    exact_mod_cast hwhole
  · rename_i hexponent
    obtain ⟨places, hplaces⟩ := Int.eq_ofNat_of_zero_le (neg_pos.mpr (not_le.mp hexponent)).le
    have hpos : (0 : ℚ) < 10 ^ places := by positivity
    rw [Decimal.value, ← neg_neg number.exponent, hplaces, zpow_neg, zpow_natCast,
      ← div_eq_mul_inv, div_eq_iff hpos.ne'] at hwhole
    have hcoefficient : number.coefficient = whole * 10 ^ places := by exact_mod_cast hwhole
    rw [hplaces, Int.toNat_natCast, hcoefficient]
    exact Nat.mul_div_cancel _ (Nat.pow_pos (by decide))

/-- What is accepted, and as what. -/
theorem parseDurationMs_eq_ok {raw : Option String} {milliseconds : ℕ} :
    parseDurationMs table raw = .ok milliseconds ↔ 0 < milliseconds ∧
      ∃ parsed result, (raw.bind fun text => matchDuration table text.toList) = some parsed ∧
        defaultContext.multiply (decimalOf table parsed) parsed.unit = some result ∧
        result.value = milliseconds := by
  unfold parseDurationMs
  cases hmatch : raw.bind fun text => matchDuration table text.toList with
  | none => simp
  | some parsed =>
    cases hmultiply : defaultContext.multiply (decimalOf table parsed) parsed.unit with
    | none => simp [hmultiply]
    | some result =>
      simp only [hmultiply]
      constructor
      · intro hok
        split_ifs at hok with hpositive hwhole
        rw [not_le] at hpositive
        obtain ⟨whole, hvalue⟩ := eq_toIntegralValue_iff.mp (not_not.mp hwhole)
        rw [toInteger_of_whole hvalue] at hok
        cases hok
        rw [hvalue] at hpositive
        exact ⟨Nat.cast_pos.mp hpositive, parsed, result, rfl, hmultiply, hvalue⟩
      · rintro ⟨hpositive, parsed', result', hsame, hsame', hvalue⟩
        cases hsame
        rw [hmultiply] at hsame'
        cases hsame'
        have hpos : ¬ result.value ≤ 0 := by
          rw [hvalue, not_le]
          exact Nat.cast_pos.mpr hpositive
        rw [if_neg hpos, if_neg (not_not.mpr (eq_toIntegralValue_iff.mpr ⟨_, hvalue⟩)),
          toInteger_of_whole hvalue]

/-! ### When durations are read exactly -/

/-- A duration is accepted when it means a positive whole number, and as that number. -/
def ReadsExactly (table : DigitTable) (raw : Option String) : Prop :=
  ∀ milliseconds : ℕ, parseDurationMs table raw = .ok milliseconds ↔
    0 < milliseconds ∧ Means raw milliseconds

/-- Below the threshold of overflow, a number that lies within half a unit of its 28th
    significant digit from a positive whole number is in ASCII digits and has no more than 28
    significant ones; from the threshold on, one in ASCII digits is not whole. -/
def WithinContext (table : DigitTable) (parsed : DurationText) : Prop :=
  (exactMilliseconds table parsed < defaultContext.threshold →
    defaultContext.NearWhole (exactMilliseconds table parsed) →
      parsed.Ascii ∧ defaultContext.Fits (exactMilliseconds table parsed)) ∧
  (defaultContext.threshold ≤ exactMilliseconds table parsed → parsed.Ascii →
    ∀ whole : ℕ, exactMilliseconds table parsed ≠ whole)

/-- The product in the context: an overflow from the threshold on, else a number that is whole
    just near a whole one, and the exact number just where the digits fit. -/
theorem multiply_cases {parsed : DurationText} (hpos : 0 < exactMilliseconds table parsed) :
    (defaultContext.multiply (decimalOf table parsed) parsed.unit = none ∧
        defaultContext.threshold ≤ exactMilliseconds table parsed) ∨
      ∃ result, defaultContext.multiply (decimalOf table parsed) parsed.unit = some result ∧
        exactMilliseconds table parsed < defaultContext.threshold ∧
        ((∃ whole : ℕ, 0 < whole ∧ result.value = whole) ↔
          defaultContext.NearWhole (exactMilliseconds table parsed)) ∧
        (defaultContext.NearWhole (exactMilliseconds table parsed) →
          (result.value = exactMilliseconds table parsed ↔
            defaultContext.Fits (exactMilliseconds table parsed))) := by
  have hvalue : ((decimalOf table parsed).mul parsed.unit).value =
      exactMilliseconds table parsed := Decimal.value_mul _ _
  have hcoefficient : ((decimalOf table parsed).mul parsed.unit).coefficient ≠ 0 := by
    intro hzero
    rw [← hvalue, Decimal.value, hzero] at hpos
    simp at hpos
  have hcases := defaultContext.fix_cases hcoefficient
  rw [hvalue] at hcases
  rcases hcases with hover | ⟨whole, result, hfix, hrounds, hresult, hless⟩
  · exact Or.inl hover
  · refine Or.inr ⟨result, hfix, hless, ?_, fun hnear => ?_⟩
    · rw [hresult]
      exact defaultContext.rounded_whole_iff hpos hrounds
    · have hhalf := hnear.half_le defaultContext hpos
      rw [hresult]
      exact defaultContext.rounded_eq_iff hpos (by linarith) hrounds

/-- Where nothing is spelled out but zeros, the product is zero. -/
theorem multiply_zero {parsed : DurationText} {result : Decimal} {milliseconds : ℕ}
    (hzero : ¬ 0 < exactMilliseconds table parsed) (hmilliseconds : 0 < milliseconds)
    (hmultiply : defaultContext.multiply (decimalOf table parsed) parsed.unit = some result) :
    result.value ≠ milliseconds := by
  have hcoefficient : ((decimalOf table parsed).mul parsed.unit).coefficient = 0 := by
    by_contra hne
    have hvalue := Decimal.value_pos hne
    rw [Decimal.value_mul] at hvalue
    exact hzero hvalue
  unfold Context.multiply Context.fix at hmultiply
  rw [if_pos hcoefficient] at hmultiply
  cases hmultiply
  rw [Decimal.value, Nat.cast_zero, zero_mul]
  exact (Nat.cast_pos.mpr hmilliseconds).ne

theorem nearWhole_whole {whole : ℕ} (hpos : 0 < whole) : defaultContext.NearWhole whole := by
  refine ⟨whole, hpos, ?_⟩
  rw [sub_self, abs_zero]
  exact (half_pos (defaultContext.unit_pos _)).le

/-- **When a duration is read exactly**: just when rounding to the context accepts nothing
    that is no ASCII number of at most 28 significant digits, and overflows on no whole one. -/
theorem parseDurationMs_exact_iff (table : DigitTable) (raw : Option String) :
    ReadsExactly table raw ↔ ∀ text parsed, raw = some text →
      matchDuration table text.toList = some parsed → 0 < exactMilliseconds table parsed →
      WithinContext table parsed := by
  constructor
  · rintro hreads text parsed rfl hmatch hpos
    have haccepts : ∀ milliseconds : ℕ, parseDurationMs table (some text) = .ok milliseconds →
        parsed.Ascii ∧ exactMilliseconds table parsed = milliseconds := by
      intro milliseconds hok
      obtain ⟨parsed', hmatch', hascii, hexact⟩ :=
        means_iff.mp ((hreads milliseconds).mp hok).2
      rw [hmatch] at hmatch'
      cases hmatch'
      exact ⟨hascii, hexact.symm⟩
    rcases multiply_cases hpos with ⟨hover, hgreat⟩ | ⟨result, hmultiply, hless, hwhole, hfits⟩
    · refine ⟨fun hless => absurd hgreat (not_le.mpr hless), fun _ hascii whole hexact => ?_⟩
      have hpositive : 0 < whole := by
        rw [hexact] at hpos
        exact Nat.cast_pos.mp hpos
      have hok := (hreads whole).mpr ⟨hpositive, means_iff.mpr ⟨parsed, hmatch, hascii,
        hexact.symm⟩⟩
      obtain ⟨-, parsed', result, hmatch', hmultiply, -⟩ := parseDurationMs_eq_ok.mp hok
      obtain rfl : parsed = parsed' := Option.some.inj (hmatch.symm.trans hmatch')
      rw [hover] at hmultiply
      cases hmultiply
    · refine ⟨fun _ hnear => ?_, fun hgreat => absurd hgreat (not_le.mpr hless)⟩
      obtain ⟨whole, hpositive, hvalue⟩ := hwhole.mpr hnear
      have hok : parseDurationMs table (some text) = .ok whole :=
        parseDurationMs_eq_ok.mpr ⟨hpositive, parsed, result, hmatch, hmultiply, hvalue⟩
      obtain ⟨hascii, hexact⟩ := haccepts whole hok
      exact ⟨hascii, (hfits hnear).mp (hvalue.trans hexact.symm)⟩
  · intro hcontext milliseconds
    cases raw with
    | none =>
      refine iff_of_false (fun hok => by cases hok) ?_
      rintro ⟨-, text, unit, number, factor, hraw, -⟩
      cases hraw
    | some text =>
      rw [parseDurationMs_eq_ok]
      refine and_congr_right fun hpositive => ?_
      rw [means_iff]
      constructor
      · rintro ⟨parsed, result, hmatch, hmultiply, hvalue⟩
        have hpos : 0 < exactMilliseconds table parsed := by
          by_contra hzero
          exact multiply_zero hzero hpositive hmultiply hvalue
        have hwithin := hcontext text parsed rfl hmatch hpos
        rcases multiply_cases hpos with ⟨hover, -⟩ | ⟨result', hmultiply', hless, hwhole, hfits⟩
        · rw [hover] at hmultiply
          cases hmultiply
        · obtain rfl : result = result' := Option.some.inj (hmultiply.symm.trans hmultiply')
          have hnear := hwhole.mp ⟨milliseconds, hpositive, hvalue⟩
          obtain ⟨hascii, hfit⟩ := hwithin.1 hless hnear
          exact ⟨parsed, hmatch, hascii, hvalue.symm.trans ((hfits hnear).mpr hfit)⟩
      · rintro ⟨parsed, hmatch, hascii, hexact⟩
        have hpos : 0 < exactMilliseconds table parsed := by
          rw [← hexact]
          exact Nat.cast_pos.mpr hpositive
        have hwithin := hcontext text parsed rfl hmatch hpos
        rcases multiply_cases hpos with ⟨-, hgreat⟩ | ⟨result, hmultiply, hless, -, hfits⟩
        · exact absurd hexact.symm (hwithin.2 hgreat hascii milliseconds)
        · have hnear : defaultContext.NearWhole (exactMilliseconds table parsed) := by
            rw [← hexact]
            exact nearWhole_whole hpositive
          exact ⟨parsed, result, hmatch, hmultiply,
            ((hfits hnear).mpr (hwithin.1 hless hnear).2).trans hexact.symm⟩

/-- Of 29 digits of seconds the last ones are lost. -/
theorem long_duration_rounded :
    parseDurationMs asciiDigits (some "12345678901234567890123456789s") =
        .ok 12345678901234567890123456790000 ∧
      ¬ ReadsExactly asciiDigits (some "12345678901234567890123456789s") := by
  have hparsed : parseDurationMs asciiDigits (some "12345678901234567890123456789s") =
      .ok 12345678901234567890123456790000 := by decide +kernel
  refine ⟨hparsed, fun hreads => ?_⟩
  obtain ⟨parsed, hmatch, -, hexact⟩ := means_iff.mp ((hreads _).mp hparsed).2
  have hsame : matchDuration asciiDigits "12345678901234567890123456789s".toList =
      some ⟨"12345678901234567890123456789".toList, [], ⟨1000, 0⟩⟩ := by decide +kernel
  rw [hsame] at hmatch
  cases hmatch
  revert hexact
  decide +kernel

end CodexMustWork
