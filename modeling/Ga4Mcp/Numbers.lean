/-
  The machine numbers of the source and their texts. `usize` is `u64`.

  * `parseU64_of_digits`: `parse` of a text of digits.
  * `parseU64_decimal`: a number that `format!` wrote is read back by `parse`.
  * `hex16_injective`: `{:016x}` writes different numbers differently.
-/
import Ga4Mcp.Text

namespace Ga4Mcp

/-- The largest `usize`. -/
def usizeMax : Nat := 2 ^ 64 - 1

def saturatingAdd (a b : Nat) : Nat := min (a + b) usizeMax

theorem saturatingAdd_le (a b : Nat) : saturatingAdd a b ≤ usizeMax := Nat.min_le_right _ _

/-- `parse::<u64>`: digits after at most one `+`, of a number that fits. -/
def parseU64 (raw : Text) : Option Nat :=
  let digits := match raw with
    | '+' :: rest => rest
    | _ => raw
  if digits.isEmpty ∨ ¬ digits.all Char.isDigit then none
  else
    let value := Nat.ofDigitChars 10 digits 0
    if value ≤ usizeMax then some value else none

/-- `{:016x}` of a `u64`. -/
def hex16 (value : UInt64) : Text :=
  let digits := Nat.toDigits 16 value.toNat
  List.replicate (16 - digits.length) '0' ++ digits

theorem parseU64_of_head {raw : Text} (h : raw.head? ≠ some '+') :
    parseU64 raw =
      if raw.isEmpty ∨ ¬ raw.all Char.isDigit then none
      else if Nat.ofDigitChars 10 raw 0 ≤ usizeMax then some (Nat.ofDigitChars 10 raw 0)
      else none := by
  cases raw with
  | nil => rfl
  | cons c rest =>
      have hc : c ≠ '+' := fun heq => h (congrArg some heq)
      simp [parseU64, hc]

/-- A text of digits is read as their number, if that fits. -/
theorem parseU64_of_digits {digits : Text} (hne : digits ≠ []) (h : ∀ c ∈ digits, c.isDigit) :
    parseU64 digits =
      if Nat.ofDigitChars 10 digits 0 ≤ usizeMax then some (Nat.ofDigitChars 10 digits 0)
      else none := by
  have hhead : digits.head? ≠ some '+' := by
    intro hplus
    exact absurd (h '+' (List.mem_of_head? hplus)) (by decide)
  rw [parseU64_of_head hhead, if_neg]
  rw [not_or, List.isEmpty_iff, not_not]
  exact ⟨hne, List.all_eq_true.mpr h⟩

theorem parseU64_decimal {n : Nat} (h : n ≤ usizeMax) : parseU64 (Text.decimal n) = some n := by
  have hvalue : Nat.ofDigitChars 10 (Text.decimal n) 0 = n := Nat.ofDigitChars_ten_toDigits
  have hne : Text.decimal n ≠ [] := List.ne_nil_of_length_pos Nat.length_toDigits_pos
  rw [parseU64_of_digits hne fun c => Text.isDigit_of_mem_decimal, hvalue, if_pos h]

/-! ## Hexadecimal digits -/

theorem mem_toDigits_sixteen (n : Nat) :
    ∀ c ∈ Nat.toDigits 16 n, ∃ d < 16, c = Nat.digitChar d := by
  induction n using Nat.strongRecOn with
  | ind n ih =>
      intro c hc
      rw [Nat.toDigits_eq_if (by decide)] at hc
      split at hc
      · next hlt => exact ⟨n, hlt, List.mem_singleton.mp hc⟩
      · rcases List.mem_append.mp hc with hc | hc
        · exact ih (n / 16) (by omega) c hc
        · exact ⟨n % 16, Nat.mod_lt _ (by decide), List.mem_singleton.mp hc⟩

/-- Every character of a `{:016x}` text is a digit or a letter. -/
theorem isAlphanum_of_mem_hex16 {value : UInt64} : ∀ c ∈ hex16 value, c.isAlphanum := by
  intro c hc
  rcases List.mem_append.mp hc with hc | hc
  · rw [(List.mem_replicate.mp hc).2]
    decide
  · obtain ⟨d, hd, rfl⟩ := mem_toDigits_sixteen _ c hc
    have hall : ∀ d < 16, (Nat.digitChar d).isAlphanum := by decide
    exact hall d hd

/-- The value of a digit that `{:016x}` writes. -/
def hexDigitValue (c : Char) : Nat := if c.isDigit then c.toNat - 48 else c.toNat - 87

/-- The number of hexadecimal digits. -/
def hexValue (digits : Text) : Nat := digits.foldl (fun value c => 16 * value + hexDigitValue c) 0

theorem hexValue_append (a : Text) (c : Char) :
    hexValue (a ++ [c]) = 16 * hexValue a + hexDigitValue c := by
  rw [hexValue, List.foldl_append]
  rfl

theorem hexValue_toDigits (n : Nat) : hexValue (Nat.toDigits 16 n) = n := by
  have hdigit : ∀ d < 16, hexDigitValue (Nat.digitChar d) = d := by decide
  induction n using Nat.strongRecOn with
  | ind n ih =>
      rw [Nat.toDigits_eq_if (by decide)]
      split
      · next hlt => exact (Nat.zero_add _).trans (hdigit n hlt)
      · rw [hexValue_append, ih (n / 16) (by omega), hdigit _ (Nat.mod_lt _ (by decide))]
        omega

theorem hexValue_zeros (k : Nat) (digits : Text) :
    hexValue (List.replicate k '0' ++ digits) = hexValue digits := by
  induction k with
  | zero => rfl
  | succ k ih => exact ih

/-- Different hashes are written differently. -/
theorem hex16_injective : Function.Injective hex16 := by
  intro a b h
  have hread : ∀ value : UInt64, hexValue (hex16 value) = value.toNat := by
    intro value
    exact (hexValue_zeros _ _).trans (hexValue_toDigits _)
  exact UInt64.toNat_inj.mp (by rw [← hread a, ← hread b, h])

theorem hex16_ne_nil (value : UInt64) : hex16 value ≠ [] :=
  List.append_ne_nil_of_right_ne_nil _ Nat.toDigits_ne_nil

end Ga4Mcp
