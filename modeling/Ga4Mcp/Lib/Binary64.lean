/-
  LIBRARY. The numbers of the binary64 format, and rounding to the nearest of them.

  A magnitude is `significand * 2 ^ exponent` in its one form with 53 bits; below `2 ^ 52` the
  exponent is the least one. Numbers from `overflowFrom` on have no magnitude.

  * `roundEven_closest`, `roundEven_tie`: the nearest natural number, and the even one of two.
  * `nearest_eq_some`: the nearest magnitude, and the even one of two.
  * `nearest_eq_none`: there is none from `overflowFrom` on.
-/
import Mathlib.Algebra.Order.Floor.Semifield
import Mathlib.Data.Int.Log
import Mathlib.Data.Rat.Floor
import Mathlib.Tactic.Linarith
import Mathlib.Tactic.NormNum

namespace Ga4Mcp.Lib

/-! ## Natural numbers -/

/-- The nearest natural number; of two, the even one. -/
def roundEven (x : ℚ) : Nat :=
  if x - ⌊x⌋₊ < 1 / 2 then ⌊x⌋₊
  else if 1 / 2 < x - ⌊x⌋₊ then ⌊x⌋₊ + 1
  else ⌊x⌋₊ + ⌊x⌋₊ % 2

section RoundEven

variable {x : ℚ}

/-- Half a unit at most; and half a unit only for an even number. -/
theorem roundEven_error (hx : 0 ≤ x) :
    |x - roundEven x| < 1 / 2 ∨ |x - roundEven x| = 1 / 2 ∧ Even (roundEven x) := by
  have hle := Nat.floor_le hx
  have hlt := Nat.lt_floor_add_one x
  unfold roundEven
  split_ifs with hdown hup
  · left
    rw [abs_lt]
    constructor <;> linarith
  · left
    push_cast
    rw [abs_lt]
    constructor <;> linarith
  · right
    have hhalf : x - ⌊x⌋₊ = 1 / 2 := le_antisymm (not_lt.mp hup) (not_lt.mp hdown)
    refine ⟨?_, Nat.even_iff.mpr (by omega)⟩
    rcases Nat.mod_two_eq_zero_or_one ⌊x⌋₊ with heven | hodd
    · rw [heven, Nat.add_zero, hhalf]
      norm_num
    · rw [hodd]
      push_cast
      rw [← sub_sub, hhalf]
      norm_num

theorem roundEven_error_le (hx : 0 ≤ x) : |x - roundEven x| ≤ 1 / 2 :=
  (roundEven_error hx).elim le_of_lt fun h => h.1.le

/-- Two numbers have at least a unit between them. -/
theorem one_le_abs_add_abs {n k : Nat} (hne : n ≠ k) : 1 ≤ |x - n| + |x - k| := by
  have hdiff : (k : ℤ) - n ≠ 0 := sub_ne_zero.mpr (by exact_mod_cast hne.symm)
  have hint : (1 : ℤ) ≤ |(k : ℤ) - n| := Int.one_le_abs hdiff
  have hunit : (1 : ℚ) ≤ |(k : ℚ) - n| := by exact_mod_cast hint
  have hsum := abs_sub_le (k : ℚ) x n
  rw [abs_sub_comm (k : ℚ) x] at hsum
  linarith

theorem roundEven_closest (hx : 0 ≤ x) (k : Nat) : |x - roundEven x| ≤ |x - k| := by
  have hhalf := roundEven_error_le hx
  by_cases hk : roundEven x = k
  · rw [hk]
  · have hapart := one_le_abs_add_abs (x := x) hk
    linarith

theorem roundEven_tie (hx : 0 ≤ x) {k : Nat} (htie : |x - k| = |x - roundEven x|) :
    k = roundEven x ∨ Even (roundEven x) := by
  by_cases hk : roundEven x = k
  · exact .inl hk.symm
  · have hapart := one_le_abs_add_abs (x := x) hk
    rcases roundEven_error hx with hless | ⟨-, heven⟩
    · linarith
    · exact .inr heven

theorem le_roundEven (hx : 0 ≤ x) {k : Nat} (h : (k : ℚ) ≤ x) : k ≤ roundEven x := by
  by_contra hless
  have hcast : (roundEven x : ℚ) < k := by exact_mod_cast not_le.mp hless
  have hclosest := roundEven_closest hx k
  rw [abs_of_nonneg (by linarith), abs_of_nonneg (by linarith)] at hclosest
  linarith

theorem roundEven_le (hx : 0 ≤ x) {k : Nat} (h : x ≤ k) : roundEven x ≤ k := by
  by_contra hmore
  have hcast : (k : ℚ) < roundEven x := by exact_mod_cast not_le.mp hmore
  have hclosest := roundEven_closest hx k
  rw [abs_of_nonpos (by linarith), abs_of_nonpos (by linarith)] at hclosest
  linarith

/-- An even number is reached from half a unit below. -/
theorem even_le_roundEven_iff (hx : 0 ≤ x) {k : Nat} (heven : Even k) :
    k ≤ roundEven x ↔ (k : ℚ) - 1 / 2 ≤ x := by
  constructor
  · intro hle
    have hcast : (k : ℚ) ≤ roundEven x := by exact_mod_cast hle
    have hnear := (abs_le.mp (roundEven_error_le hx)).1
    linarith
  · intro hhalf
    by_contra hless
    have hcast : (roundEven x : ℚ) + 1 ≤ k := by exact_mod_cast not_le.mp hless
    have habs := le_abs_self (x - roundEven x)
    rcases roundEven_error hx with herror | ⟨herror, hodd⟩
    · linarith
    · -- only the number before `k` would be that far, and it is odd
      have hnext : (roundEven x : ℚ) + 1 = k := by linarith
      have hsucc : roundEven x + 1 = k := by exact_mod_cast hnext
      rw [← hsucc, Nat.even_add_one] at heven
      exact heven hodd

end RoundEven

/-! ## Magnitudes -/

/-- What the parts of a magnitude are. -/
structure Shape (significand : Nat) (exponent : ℤ) : Prop where
  bits : significand < 2 ^ 53
  least : -1074 ≤ exponent
  greatest : exponent ≤ 971
  normal : significand < 2 ^ 52 → exponent = -1074

instance (significand : Nat) (exponent : ℤ) : Decidable (Shape significand exponent) :=
  decidable_of_iff (significand < 2 ^ 53 ∧ -1074 ≤ exponent ∧ exponent ≤ 971 ∧
      (significand < 2 ^ 52 → exponent = -1074))
    ⟨fun ⟨bits, least, greatest, normal⟩ => ⟨bits, least, greatest, normal⟩,
      fun ⟨bits, least, greatest, normal⟩ => ⟨bits, least, greatest, normal⟩⟩

/-- A finite number of the format, without its sign. -/
structure Magnitude where
  significand : Nat
  exponent : ℤ
  shape : Shape significand exponent
deriving DecidableEq

namespace Magnitude

/-- The number that the parts stand for. -/
def value (m : Magnitude) : ℚ := m.significand * 2 ^ m.exponent

/-- The magnitude with these parts, if they are some. -/
def ofParts (significand : Nat) (exponent : ℤ) : Option Magnitude :=
  if shape : Shape significand exponent then some ⟨significand, exponent, shape⟩ else none

end Magnitude

/-! ## Rounding -/

/-- The exponent of the numbers around `q`. -/
def exponentOf (q : ℚ) : ℤ := if q = 0 then -1074 else max (-1074) (Int.log 2 q - 52)

/-- `q` in units of the last place, rounded. -/
def significandOf (q : ℚ) : Nat := roundEven (q / 2 ^ exponentOf q)

/-- The magnitude nearest to `q`; of two, the one with an even significand. -/
def nearest (q : ℚ) : Option Magnitude :=
  if significandOf q = 2 ^ 53 then Magnitude.ofParts (2 ^ 52) (exponentOf q + 1)
  else Magnitude.ofParts (significandOf q) (exponentOf q)

/-- Half a unit in the last place above the greatest magnitude. -/
def overflowFrom : ℚ := (2 ^ 54 - 1) * 2 ^ (970 : ℤ)

section Nearest

variable {q : ℚ}

theorem unit_pos (e : ℤ) : (0 : ℚ) < 2 ^ e := zpow_pos (by norm_num) e

theorem two_zpow_succ (e : ℤ) : (2 : ℚ) ^ (e + 1) = 2 * 2 ^ e := by
  rw [zpow_add_one₀ (by norm_num), mul_comm]

theorem least_le_exponentOf (q : ℚ) : -1074 ≤ exponentOf q := by
  unfold exponentOf
  split
  · exact le_rfl
  · exact le_max_left _ _

/-- A number is less than `2 ^ 53` units. -/
theorem lt_units (hq : 0 ≤ q) : q < 2 ^ 53 * 2 ^ exponentOf q := by
  rcases hq.eq_or_lt with rfl | hpos
  · exact mul_pos (by norm_num) (unit_pos _)
  · have hlog : q < 2 ^ (Int.log 2 q + 1) := Int.lt_zpow_succ_log_self (by norm_num) q
    have hexponent : Int.log 2 q + 1 ≤ 53 + exponentOf q := by
      rw [exponentOf, if_neg hpos.ne']
      have hmax := le_max_right (-1074) (Int.log 2 q - 52)
      omega
    calc q < 2 ^ (Int.log 2 q + 1) := hlog
      _ ≤ 2 ^ (53 + exponentOf q) := zpow_le_zpow_right₀ (by norm_num) hexponent
      _ = 2 ^ 53 * 2 ^ exponentOf q := by rw [zpow_add₀ (by norm_num)]; norm_num

/-- And at least `2 ^ 52` of them, unless they are the least ones. -/
theorem units_le (hq : 0 ≤ q) (h : exponentOf q ≠ -1074) : 2 ^ 52 * 2 ^ exponentOf q ≤ q := by
  have hne : q ≠ 0 := by
    rintro rfl
    exact h (if_pos rfl)
  have hexponent : exponentOf q = Int.log 2 q - 52 := by
    rw [exponentOf, if_neg hne] at h ⊢
    exact (max_choice (-1074) (Int.log 2 q - 52)).resolve_left h
  calc (2 : ℚ) ^ 52 * 2 ^ exponentOf q = 2 ^ (52 + exponentOf q) := by
        rw [zpow_add₀ (by norm_num)]; norm_num
    _ = 2 ^ Int.log 2 q := by rw [hexponent]; congr 1; omega
    _ ≤ q := Int.zpow_log_le_self (by norm_num) (lt_of_le_of_ne hq hne.symm)

theorem abs_sub_units (q : ℚ) (e : ℤ) (k : Nat) :
    |q - k * 2 ^ e| = |q / 2 ^ e - k| * 2 ^ e := by
  have hunit := unit_pos e
  rw [← abs_of_pos hunit, ← abs_mul, abs_of_pos hunit, sub_mul, div_mul_cancel₀ _ hunit.ne']

theorem scaled_nonneg (hq : 0 ≤ q) (e : ℤ) : 0 ≤ q / 2 ^ e := div_nonneg hq (unit_pos e).le

theorem significandOf_le (hq : 0 ≤ q) : significandOf q ≤ 2 ^ 53 := by
  refine roundEven_le (scaled_nonneg hq _) ?_
  rw [div_le_iff₀ (unit_pos _)]
  exact_mod_cast (lt_units hq).le

theorem le_significandOf (hq : 0 ≤ q) (h : exponentOf q ≠ -1074) : 2 ^ 52 ≤ significandOf q := by
  refine le_roundEven (scaled_nonneg hq _) ?_
  rw [le_div_iff₀ (unit_pos _)]
  exact_mod_cast units_le hq h

/-- The rounded number of units is the nearest one. -/
theorem units_closest (hq : 0 ≤ q) (k : Nat) :
    |q - significandOf q * 2 ^ exponentOf q| ≤ |q - k * 2 ^ exponentOf q| := by
  rw [abs_sub_units, abs_sub_units]
  exact mul_le_mul_of_nonneg_right (roundEven_closest (scaled_nonneg hq _) k) (unit_pos _).le

theorem units_tie (hq : 0 ≤ q) {k : Nat}
    (h : |q - k * 2 ^ exponentOf q| = |q - significandOf q * 2 ^ exponentOf q|) :
    k = significandOf q ∨ Even (significandOf q) := by
  rw [abs_sub_units, abs_sub_units] at h
  exact roundEven_tie (scaled_nonneg hq _) (mul_right_cancel₀ (unit_pos _).ne' h)

theorem ofParts_eq_some {significand : Nat} {exponent : ℤ} {m : Magnitude}
    (h : Magnitude.ofParts significand exponent = some m) :
    m.significand = significand ∧ m.exponent = exponent := by
  unfold Magnitude.ofParts at h
  split at h
  · cases h
    exact ⟨rfl, rfl⟩
  · cases h

theorem ofParts_eq_none {significand : Nat} {exponent : ℤ} :
    Magnitude.ofParts significand exponent = none ↔ ¬ Shape significand exponent := by
  unfold Magnitude.ofParts
  split
  · next shape => exact iff_of_false (fun h => by cases h) (not_not_intro shape)
  · next shape => exact iff_of_true rfl shape

/-- Rounding up to `2 ^ 53` units leaves `2 ^ 52` of the next ones. -/
theorem parts_of_nearest {m : Magnitude} (h : nearest q = some m) :
    m.value = significandOf q * 2 ^ exponentOf q ∧
      (Even (significandOf q) → Even m.significand) := by
  unfold nearest at h
  split at h
  · next hfull =>
      obtain ⟨hsignificand, hexponent⟩ := ofParts_eq_some h
      refine ⟨?_, fun _ => by rw [hsignificand]; decide⟩
      rw [Magnitude.value, hsignificand, hexponent, hfull, two_zpow_succ]
      push_cast
      ring
  · obtain ⟨hsignificand, hexponent⟩ := ofParts_eq_some h
    rw [Magnitude.value, hsignificand, hexponent]
    exact ⟨rfl, id⟩

/-- A magnitude is a number of units, or less than `2 ^ 52` of them where `q` is not. -/
theorem units_of_magnitude (hq : 0 ≤ q) (m : Magnitude) :
    (∃ k : Nat, m.value = k * 2 ^ exponentOf q) ∨
      m.value < 2 ^ 52 * 2 ^ exponentOf q ∧ 2 ^ 52 * 2 ^ exponentOf q ≤ q := by
  rcases le_or_gt (exponentOf q) m.exponent with hle | hgt
  · obtain ⟨d, hd⟩ := Int.le.dest hle
    refine .inl ⟨m.significand * 2 ^ d, ?_⟩
    rw [Magnitude.value, ← hd, zpow_add₀ (by norm_num), zpow_natCast]
    push_cast
    ring
  · have hleast := m.shape.least
    refine .inr ⟨?_, units_le hq (by omega)⟩
    have hbits : (m.significand : ℚ) < 2 ^ 53 := by exact_mod_cast m.shape.bits
    calc m.value < 2 ^ 53 * 2 ^ m.exponent := mul_lt_mul_of_pos_right hbits (unit_pos _)
      _ = 2 ^ 52 * 2 ^ (m.exponent + 1) := by rw [two_zpow_succ]; ring
      _ ≤ 2 ^ 52 * 2 ^ exponentOf q := by
          refine mul_le_mul_of_nonneg_left ?_ (by norm_num)
          exact zpow_le_zpow_right₀ (by norm_num) (by omega)

/-- **The nearest magnitude**, and of two the one with an even significand. -/
theorem nearest_eq_some (hq : 0 ≤ q) {m : Magnitude} (h : nearest q = some m) (m' : Magnitude) :
    |q - m.value| ≤ |q - m'.value| ∧
      (|q - m'.value| = |q - m.value| → m'.value = m.value ∨ Even m.significand) := by
  obtain ⟨hvalue, heven⟩ := parts_of_nearest h
  rw [hvalue]
  rcases units_of_magnitude hq m' with ⟨k, hk⟩ | ⟨hless, hunits⟩
  · rw [hk]
    refine ⟨units_closest hq k, fun htie => ?_⟩
    exact (units_tie hq htie).imp (fun hsame => by rw [hsame]) heven
  · -- `2 ^ 52` units are nearer
    have hfull := units_closest hq (2 ^ 52)
    rw [Nat.cast_pow, Nat.cast_ofNat] at hfull
    rw [abs_of_nonneg (sub_nonneg.mpr hunits)] at hfull
    have hfar : q - 2 ^ 52 * 2 ^ exponentOf q < |q - m'.value| := by
      rw [abs_of_nonneg (by linarith)]
      linarith
    exact ⟨(hfull.trans_lt hfar).le, fun htie => absurd htie (hfull.trans_lt hfar).ne'⟩

/-- The parts are some, except for numbers that are too great. -/
theorem nearest_eq_none_iff_units (hq : 0 ≤ q) : nearest q = none ↔
    971 < exponentOf q ∨ exponentOf q = 971 ∧ significandOf q = 2 ^ 53 := by
  have hleast := least_le_exponentOf q
  have hbits := significandOf_le hq
  have hnormal := le_significandOf hq
  unfold nearest
  split
  · next hfull =>
      have hshape : Shape (2 ^ 52) (exponentOf q + 1) ↔ exponentOf q + 1 ≤ 971 :=
        ⟨fun h => h.greatest, fun h => ⟨by norm_num, by omega, h, by norm_num⟩⟩
      rw [ofParts_eq_none, hshape]
      omega
  · next hnot =>
      have hshape : Shape (significandOf q) (exponentOf q) ↔ exponentOf q ≤ 971 := by
        refine ⟨fun h => h.greatest, fun h => ⟨by omega, hleast, h, fun hless => ?_⟩⟩
        by_contra hne
        exact absurd (hnormal hne) (not_le.mpr hless)
      rw [ofParts_eq_none, hshape]
      omega

theorem overflowFrom_eq : overflowFrom = (2 ^ 53 - 1 / 2) * 2 ^ (971 : ℤ) := by
  have hunit : (2 : ℚ) ^ (971 : ℤ) = 2 * 2 ^ (970 : ℤ) := two_zpow_succ 970
  rw [overflowFrom, hunit]
  ring

/-- **Overflow** is at half a unit above the greatest magnitude. -/
theorem nearest_eq_none (hq : 0 ≤ q) : nearest q = none ↔ overflowFrom ≤ q := by
  have hupper := lt_units hq
  have hfull : exponentOf q = 971 →
      (significandOf q = 2 ^ 53 ↔ (2 ^ 53 - 1 / 2) * 2 ^ (971 : ℤ) ≤ q) := by
    intro hexponent
    have hround := even_le_roundEven_iff (scaled_nonneg hq 971) (k := 2 ^ 53) (by decide)
    rw [Nat.cast_pow, Nat.cast_ofNat, le_div_iff₀ (unit_pos 971)] at hround
    rw [← hround, significandOf, hexponent]
    have hle := significandOf_le hq
    rw [significandOf, hexponent] at hle
    exact ⟨fun h => h.ge, fun h => le_antisymm hle h⟩
  have hunit := unit_pos 971
  rw [nearest_eq_none_iff_units hq, overflowFrom_eq]
  rcases lt_trichotomy (exponentOf q) 971 with hless | hexponent | hgreat
  · refine iff_of_false (by omega) ?_
    have hbefore : 2 * (2 : ℚ) ^ exponentOf q ≤ 2 ^ (971 : ℤ) := by
      rw [← two_zpow_succ]
      exact zpow_le_zpow_right₀ (by norm_num) (by omega)
    generalize (2 : ℚ) ^ exponentOf q = v, (2 : ℚ) ^ (971 : ℤ) = u at *
    linarith
  · rw [hexponent, ← hfull hexponent]
    simp
  · refine iff_of_true (.inl hgreat) ?_
    have hafter : 2 * (2 : ℚ) ^ (971 : ℤ) ≤ 2 ^ exponentOf q := by
      rw [← two_zpow_succ]
      exact zpow_le_zpow_right₀ (by norm_num) (by omega)
    have hunits := units_le hq (by omega)
    generalize (2 : ℚ) ^ exponentOf q = v, (2 : ℚ) ^ (971 : ℤ) = u at *
    linarith

end Nearest

/-! ## Numbers with a sign -/

/-- A number of the format. -/
inductive Binary64 where
  | finite (negative : Bool) (magnitude : Magnitude)
  | infinity (negative : Bool)
  | nan (negative : Bool)
deriving DecidableEq

namespace Binary64

/-- A rational number with this sign and magnitude, rounded. -/
def round (negative : Bool) (magnitude : ℚ) : Binary64 :=
  ((nearest magnitude).map (.finite negative)).getD (.infinity negative)

/-- Neither infinite nor undefined. -/
def isFinite : Binary64 → Bool
  | .finite _ _ => true
  | _ => false

/-- The number is what IEEE 754 rounds a sign and a magnitude to: the nearest one, of two the
    one with an even significand, and an infinity from `overflowFrom` on. -/
def IsRounded (negative : Bool) (magnitude : ℚ) : Binary64 → Prop
  | .finite sign m => sign = negative ∧ magnitude < overflowFrom ∧ ∀ m' : Magnitude,
      |magnitude - m.value| ≤ |magnitude - m'.value| ∧
        (|magnitude - m'.value| = |magnitude - m.value| →
          m'.value = m.value ∨ Even m.significand)
  | .infinity sign => sign = negative ∧ overflowFrom ≤ magnitude
  | .nan _ => False

/-- **Rounding** is what the standard says. -/
theorem isRounded_round (negative : Bool) {magnitude : ℚ} (h : 0 ≤ magnitude) :
    (round negative magnitude).IsRounded negative magnitude := by
  unfold round
  cases hnearest : nearest magnitude with
  | none => exact ⟨rfl, (nearest_eq_none h).mp hnearest⟩
  | some m =>
      refine ⟨rfl, not_le.mp fun hoverflow => ?_, nearest_eq_some h hnearest⟩
      rw [(nearest_eq_none h).mpr hoverflow] at hnearest
      cases hnearest

/-- `1.5` is a number of the format; `0.1` is between two. -/
example : (nearest (3 / 2)).map Magnitude.value = some (3 / 2) ∧
    (nearest (1 / 10)).map (·.significand) = some 7205759403792794 := by
  decide +kernel

end Binary64

end Ga4Mcp.Lib
