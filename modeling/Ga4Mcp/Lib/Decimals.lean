/-
  LIBRARY. Decimal numerals: digits with at most a fraction, and the rational number that they
  denote.

  * `Numeral.value_eq`: the number is that of all the digits, scaled by the fraction's length.
  * `Numeral.value_le_iff`: it is compared with a whole number by the whole part, and by whether
    the fraction is zero.
-/
import Mathlib.Algebra.Order.Field.Rat
import Mathlib.Tactic.FieldSimp
import Mathlib.Tactic.Linarith
import Mathlib.Tactic.Positivity

namespace Ga4Mcp.Lib

/-! ## Digits -/

/-- A text of digits, not empty. -/
def IsDigits (t : List Char) : Prop := t ≠ [] ∧ ∀ c ∈ t, c.isDigit = true

/-- The number that digits stand for. -/
def digitsNat (t : List Char) : Nat := Nat.ofDigitChars 10 t 0

theorem digitsNat_append (a b : List Char) :
    digitsNat (a ++ b) = digitsNat a * 10 ^ b.length + digitsNat b := by
  rw [digitsNat, Nat.ofDigitChars_append, Nat.ofDigitChars_eq_ofDigitChars_zero]
  rw [digitsNat, digitsNat, Nat.mul_comm]

theorem digitsNat_cons (c : Char) (t : List Char) :
    digitsNat (c :: t) = (c.toNat - '0'.toNat) * 10 ^ t.length + digitsNat t := by
  rw [← List.singleton_append, digitsNat_append]
  simp [digitsNat, Nat.ofDigitChars_cons]

theorem toNat_sub_lt {c : Char} (h : c.isDigit = true) : c.toNat - '0'.toNat < 10 := by
  simp only [Char.isDigit, Bool.and_eq_true, decide_eq_true_eq, UInt32.le_iff_toNat_le] at h
  have hle : c.toNat ≤ 57 := h.2
  have hzero : '0'.toNat = 48 := rfl
  omega

theorem digitsNat_lt {t : List Char} (h : ∀ c ∈ t, c.isDigit = true) :
    digitsNat t < 10 ^ t.length := by
  induction t with
  | nil => exact Nat.one_pos
  | cons c t ih =>
      obtain ⟨hc, ht⟩ := List.forall_mem_cons.mp h
      have hdigit := toNat_sub_lt hc
      have hrest := ih ht
      rw [digitsNat_cons, List.length_cons, Nat.pow_succ]
      have hle : (c.toNat - '0'.toNat) * 10 ^ t.length ≤ 9 * 10 ^ t.length :=
        Nat.mul_le_mul_right _ (by omega)
      omega

theorem digitsNat_eq_zero_iff {t : List Char} (h : ∀ c ∈ t, c.isDigit = true) :
    digitsNat t = 0 ↔ ∀ c ∈ t, c = '0' := by
  induction t with
  | nil => simp [digitsNat]
  | cons c t ih =>
      obtain ⟨hc, ht⟩ := List.forall_mem_cons.mp h
      have hzero : c.toNat - '0'.toNat = 0 ↔ c = '0' := by
        simp only [Char.isDigit, Bool.and_eq_true, decide_eq_true_eq, UInt32.le_iff_toNat_le] at hc
        have hge : 48 ≤ c.toNat := hc.1
        have hvalue : '0'.toNat = 48 := rfl
        rw [← Char.toNat_inj]
        omega
      have hpow : 10 ^ t.length ≠ 0 := by positivity
      rw [digitsNat_cons, Nat.add_eq_zero_iff, Nat.mul_eq_zero, or_iff_left hpow, hzero, ih ht,
        List.forall_mem_cons]

/-! ## Numerals -/

/-- A decimal numeral: digits, and more digits behind a point if there is one. -/
structure Numeral where
  whole : List Char
  fraction : Option (List Char)
  isDigits_whole : IsDigits whole
  isDigits_fraction : ∀ digits ∈ fraction, IsDigits digits

namespace Numeral

/-- How a numeral is written. -/
def toText (n : Numeral) : List Char := n.whole ++ n.fraction.elim [] fun digits => '.' :: digits

/-- The digits behind the point. -/
def fractionDigits (n : Numeral) : List Char := n.fraction.getD []

/-- The number that a numeral stands for. -/
def value (n : Numeral) : ℚ :=
  digitsNat n.whole + digitsNat n.fractionDigits / 10 ^ n.fractionDigits.length

theorem isDigit_fractionDigits (n : Numeral) : ∀ c ∈ n.fractionDigits, c.isDigit = true := by
  intro c hc
  cases hfraction : n.fraction with
  | none => simp [fractionDigits, hfraction] at hc
  | some digits =>
      rw [fractionDigits, hfraction] at hc
      exact (n.isDigits_fraction digits hfraction).2 c hc

/-- **The number** of all the digits, scaled by the length of the fraction. -/
theorem value_eq (n : Numeral) :
    n.value = digitsNat (n.whole ++ n.fractionDigits) / 10 ^ n.fractionDigits.length := by
  rw [value, digitsNat_append]
  push_cast
  field_simp

theorem value_of_fraction_none {n : Numeral} (h : n.fraction = none) :
    n.value = digitsNat n.whole := by
  simp [value, fractionDigits, h, digitsNat]

/-- **A numeral is at most a whole number** when its whole part is smaller, or the same with a
    fraction of zeros. -/
theorem value_le_iff (n : Numeral) (bound : Nat) :
    n.value ≤ bound ↔ digitsNat n.whole < bound ∨
      digitsNat n.whole = bound ∧ ∀ c ∈ n.fractionDigits, c = '0' := by
  have hpow : (0 : ℚ) < 10 ^ n.fractionDigits.length := by positivity
  have hnonneg : (0 : ℚ) ≤ digitsNat n.fractionDigits / 10 ^ n.fractionDigits.length := by
    positivity
  have hlt : (digitsNat n.fractionDigits / 10 ^ n.fractionDigits.length : ℚ) < 1 := by
    rw [div_lt_one hpow]
    exact_mod_cast digitsNat_lt n.isDigit_fractionDigits
  rw [← digitsNat_eq_zero_iff n.isDigit_fractionDigits, value]
  constructor
  · intro hle
    have hwhole : digitsNat n.whole ≤ bound := by
      have : (digitsNat n.whole : ℚ) ≤ bound := by linarith
      exact_mod_cast this
    rcases Nat.lt_or_eq_of_le hwhole with hsmaller | hsame
    · exact .inl hsmaller
    · refine .inr ⟨hsame, ?_⟩
      rw [← hsame] at hle
      have hzero : (digitsNat n.fractionDigits / 10 ^ n.fractionDigits.length : ℚ) = 0 := by
        linarith
      rcases div_eq_zero_iff.mp hzero with hdigits | hnone
      · exact_mod_cast hdigits
      · exact absurd hnone hpow.ne'
  · rintro (hsmaller | ⟨hsame, hzero⟩)
    · have : (digitsNat n.whole : ℚ) + 1 ≤ bound := by exact_mod_cast hsmaller
      linarith
    · rw [hsame, hzero]
      simp

end Numeral

end Ga4Mcp.Lib
