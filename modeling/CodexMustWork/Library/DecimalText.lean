import Mathlib.Data.Char
import Mathlib.Data.List.Lex
import Mathlib.Tactic.IntervalCases

/-!
# Decimal texts

A text of decimal digits without superfluous leading zeros is determined by its
value, and comparing two of them by length first and then as texts is comparing
their values.  No bound on the length is involved, so numbers too large for any
machine integer are compared exactly.
-/

namespace DecimalText

/-- The number a text of decimal digits stands for. -/
abbrev value (text : List Char) : ℕ := Nat.ofDigitChars 10 text 0

/-- Decimal digits only. -/
def Digits (text : List Char) : Prop := ∀ c ∈ text, c.isDigit = true

instance (text : List Char) : Decidable (Digits text) :=
  inferInstanceAs (Decidable (∀ c ∈ text, c.isDigit = true))

/-- Decimal digits, with a leading zero only in `0` itself. -/
structure Canonical (text : List Char) : Prop where
  digits : Digits text
  nonempty : text ≠ []
  leading : text = ['0'] ∨ text.head? ≠ some '0'

/-! ### Digits -/

theorem digits_cons {c : Char} {text : List Char} :
    Digits (c :: text) ↔ c.isDigit = true ∧ Digits text := by
  simp [Digits]

theorem toNat_of_isDigit {c : Char} (hdigit : c.isDigit = true) :
    48 ≤ c.toNat ∧ c.toNat ≤ 57 := by
  simp only [Char.isDigit, Bool.and_eq_true, decide_eq_true_eq] at hdigit
  exact ⟨hdigit.1, hdigit.2⟩

theorem char_lt_iff {c d : Char} : c < d ↔ c.toNat < d.toNat := Iff.rfl

/-- The digits of a positive number do not start with a zero. -/
theorem head_toDigits {n : ℕ} (hpositive : 0 < n) : (Nat.toDigits 10 n).head? ≠ some '0' := by
  induction n using Nat.base_induction 10 (by decide) with
  | single m hm =>
    rw [Nat.toDigits_of_lt_base hm]
    interval_cases m <;> decide
  | digit m k hk hm ih =>
    rw [← Nat.toDigits_append_toDigits (by decide) hm hk,
      List.head?_append_of_ne_nil _ Nat.toDigits_ne_nil]
    exact ih hm

theorem canonical_toDigits (n : ℕ) : Canonical (Nat.toDigits 10 n) := by
  refine ⟨fun c hc => Nat.isDigit_of_mem_toDigits (by decide) (by decide) hc,
    Nat.toDigits_ne_nil, ?_⟩
  rcases Nat.eq_zero_or_pos n with rfl | hpositive
  · exact Or.inl (Nat.toDigits_zero 10)
  · exact Or.inr (head_toDigits hpositive)

/-! ### Values -/

theorem value_nil : value [] = 0 := by
  simp [value]

theorem value_cons (c : Char) (text : List Char) :
    value (c :: text) = 10 ^ text.length * (c.toNat - 48) + value text := by
  rw [value, Nat.ofDigitChars_cons, Nat.ofDigitChars_eq_ofDigitChars_zero]
  simp

/-- A text of `n` digits is worth less than ten to the `n`. -/
theorem value_lt_pow {text : List Char} (hdigits : Digits text) :
    value text < 10 ^ text.length := by
  induction text with
  | nil => simp
  | cons c text ih =>
    obtain ⟨hc, htext⟩ := digits_cons.mp hdigits
    have hrange := toNat_of_isDigit hc
    have htail := ih htext
    have hhead : 10 ^ text.length * (c.toNat - 48) ≤ 10 ^ text.length * 9 :=
      Nat.mul_le_mul_left _ (by omega)
    rw [value_cons, List.length_cons, Nat.pow_succ]
    omega

/-- A leading digit other than zero is worth at least its place. -/
theorem pow_le_value {c : Char} {text : List Char} (hdigit : c.isDigit = true) (hne : c ≠ '0') :
    10 ^ text.length ≤ value (c :: text) := by
  have hrange := toNat_of_isDigit hdigit
  have hpos : c.toNat ≠ 48 := by
    intro heq
    exact hne (Char.toNat_inj.mp (by rw [heq]; rfl))
  have hhead : 10 ^ text.length * 1 ≤ 10 ^ text.length * (c.toNat - 48) :=
    Nat.mul_le_mul_left _ (by omega)
  rw [value_cons]
  omega

/-! ### The two comparisons agree -/

theorem value_lt_of_length_lt {a b : List Char} (ha : Canonical a) (hb : Canonical b)
    (hlength : a.length < b.length) : value a < value b := by
  cases b with
  | nil => exact absurd rfl hb.nonempty
  | cons c b =>
    have hpos : 0 < a.length := List.length_pos_iff.mpr ha.nonempty
    have hhead : c ≠ '0' := by
      intro heq
      rcases hb.leading with hzero | hleading
      · rw [hzero] at hlength
        have hone : a.length < 1 := hlength
        omega
      · exact hleading (by rw [heq]; rfl)
    have hplace : 10 ^ b.length ≤ value (c :: b) :=
      pow_le_value (digits_cons.mp hb.digits).1 hhead
    have hsmall := value_lt_pow ha.digits
    have hle : 10 ^ a.length ≤ 10 ^ b.length :=
      Nat.pow_le_pow_right (by omega) (by simpa using Nat.le_of_lt_succ hlength)
    omega

/-- For texts of one length the order of the texts is the order of the values. -/
theorem value_lt_of_lt {a b : List Char} (ha : Digits a) (hb : Digits b)
    (hlength : a.length = b.length) (hlt : a < b) : value a < value b := by
  induction a generalizing b with
  | nil =>
    cases b with
    | nil => exact absurd hlt (lt_irrefl _)
    | cons d b => simp at hlength
  | cons c a ih =>
    cases b with
    | nil => simp at hlength
    | cons d b =>
      obtain ⟨hc, ha'⟩ := digits_cons.mp ha
      obtain ⟨hd, hb'⟩ := digits_cons.mp hb
      have hsame : a.length = b.length := by simpa using hlength
      rw [value_cons, value_cons, hsame]
      rcases List.cons_lt_cons_iff.mp hlt with hhead | ⟨heq, htail⟩
      · have hcd := char_lt_iff.mp hhead
        have hrange := toNat_of_isDigit hc
        have hsmall := value_lt_pow ha'
        have hplace : 10 ^ b.length * (c.toNat - 48 + 1) ≤ 10 ^ b.length * (d.toNat - 48) :=
          Nat.mul_le_mul_left _ (by omega)
        rw [hsame] at hsmall
        rw [Nat.mul_add, Nat.mul_one] at hplace
        omega
      · subst heq
        have := ih ha' hb' hsame htail
        omega

/-- **Length, then text, is value.** -/
theorem value_lt_iff {a b : List Char} (ha : Canonical a) (hb : Canonical b) :
    value a < value b ↔ a.length < b.length ∨ a.length = b.length ∧ a < b := by
  constructor
  · intro hvalue
    rcases Nat.lt_trichotomy a.length b.length with hlength | hlength | hlength
    · exact Or.inl hlength
    · refine Or.inr ⟨hlength, ?_⟩
      rcases lt_trichotomy a b with hlt | heq | hgt
      · exact hlt
      · exact absurd hvalue (by rw [heq]; exact lt_irrefl _)
      · have := value_lt_of_lt hb.digits ha.digits hlength.symm hgt
        omega
    · have := value_lt_of_length_lt hb ha hlength
      omega
  · rintro (hlength | ⟨hlength, hlt⟩)
    · exact value_lt_of_length_lt ha hb hlength
    · exact value_lt_of_lt ha.digits hb.digits hlength hlt

/-- A canonical decimal text is determined by its value. -/
theorem value_inj {a b : List Char} (ha : Canonical a) (hb : Canonical b) :
    value a = value b ↔ a = b := by
  constructor
  · intro hvalue
    rcases Nat.lt_trichotomy a.length b.length with hlength | hlength | hlength
    · have := value_lt_of_length_lt ha hb hlength
      omega
    · rcases lt_trichotomy a b with hlt | heq | hgt
      · have := value_lt_of_lt ha.digits hb.digits hlength hlt
        omega
      · exact heq
      · have := value_lt_of_lt hb.digits ha.digits hlength.symm hgt
        omega
    · have := value_lt_of_length_lt hb ha hlength
      omega
  · rintro rfl
    rfl

end DecimalText
