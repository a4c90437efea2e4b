/-
  The durations of funnel steps, of `src/tools.rs`, and the numbers of seconds they denote.

  * `isValidFunnelDuration_numeral`: which numerals are accepted before the final `s`.
  * `exists_numeral`: what is accepted is a numeral and the final `s`.
  * `isValidFunnelDuration_iff`: the grammar and the bound.
-/
import Ga4Mcp.Lib.Decimals
import Ga4Mcp.Tools.FunnelChecks

namespace Ga4Mcp.Tools

open Ga4Mcp.Lib

/-! ## Numerals -/

theorem len_of_isDigit {t : Text} (h : ∀ c ∈ t, c.isDigit = true) : Text.len t = t.length := by
  induction t with
  | nil => rfl
  | cons c t ih =>
      obtain ⟨hc, ht⟩ := List.forall_mem_cons.mp h
      have hlen : Text.len (c :: t) = (String.utf8EncodeChar c).length + Text.len t := by
        rw [← List.singleton_append, Text.len, Text.utf8_append, List.length_append]
        simp [Text.utf8, Text.len]
      have hsize : c.utf8Size = 1 :=
        Text.forall_char_lt (p := fun c => c.isDigit = true → c.utf8Size = 1) 58 (by decide) c
          (Text.toNat_lt_of_isDigit hc) hc
      rw [hlen, String.length_utf8EncodeChar, hsize, ih ht, List.length_cons, Nat.add_comm]

theorem point_not_mem {t : Text} (h : ∀ c ∈ t, c.isDigit = true) : '.' ∉ t :=
  fun hmem => absurd (h '.' hmem) (by decide)

theorem splitOn_point_of_not_mem {t : Text} (h : '.' ∉ t) : t.splitOn '.' = [t] := by
  rw [List.splitOn_eq_splitOnP]
  refine List.splitOnP_eq_singleton fun c hc => ?_
  exact beq_eq_false_iff_ne.mpr fun heq => h (heq ▸ hc)

theorem splitOn_numeral (n : Numeral) : n.toText.splitOn '.' = n.whole :: n.fraction.toList := by
  have hwhole := point_not_mem n.isDigits_whole.2
  unfold Numeral.toText
  cases hfraction : n.fraction with
  | none =>
      rw [Option.elim_none, List.append_nil, splitOn_point_of_not_mem hwhole]
      rfl
  | some digits =>
      have hdigits := point_not_mem (n.isDigits_fraction digits hfraction).2
      have hcut : (n.whole ++ '.' :: digits).splitOn '.' = n.whole :: digits.splitOn '.' := by
        rw [List.splitOn_eq_splitOnP]
        refine List.splitOnP_append_cons_of_forall_mem (fun c hc => ?_) '.' (by decide) digits
        exact beq_eq_false_iff_ne.mpr fun heq => hwhole (heq ▸ hc)
      rw [Option.elim_some, hcut, splitOn_point_of_not_mem hdigits]
      rfl

/-- The check of the number before the final `s`. -/
theorem isValidFunnelDuration_concat (number seconds : Text) (parts : List Text)
    (h : number.splitOn '.' = seconds :: parts) :
    isValidFunnelDuration (number ++ ['s']) =
      if seconds.isEmpty ∨ ¬ seconds.all Char.isDigit then false
      else
        match parseU64 seconds with
        | none => false
        | some secondsValue =>
            if secondsValue > maxFunnelDurationSeconds then false
            else isValidFunnelFraction secondsValue parts := by
  rw [isValidFunnelDuration, if_pos List.getLast?_concat, List.dropLast_concat]
  generalize number.splitOn '.' = pieces at h ⊢
  subst h
  rfl

/-! ## The bound -/

theorem isValidFunnelFraction_iff {secondsValue : Nat} (n : Numeral)
    (hwhole : secondsValue = digitsNat n.whole) (hle : secondsValue ≤ maxFunnelDurationSeconds) :
    isValidFunnelFraction secondsValue n.fraction.toList = true ↔
      (∀ digits ∈ n.fraction, digits.length ≤ 9) ∧ n.value ≤ maxFunnelDurationSeconds := by
  rw [n.value_le_iff, ← hwhole]
  cases hfraction : n.fraction with
  | none =>
      have hdigits : n.fractionDigits = [] := by rw [Numeral.fractionDigits, hfraction]; rfl
      rw [hdigits]
      refine iff_of_true rfl ⟨by simp, ?_⟩
      rcases Nat.lt_or_eq_of_le hle with hlt | heq
      · exact .inl hlt
      · exact .inr ⟨heq, by simp⟩
  | some digits =>
      obtain ⟨hne, hall⟩ := n.isDigits_fraction digits hfraction
      have hdigits : n.fractionDigits = digits := by rw [Numeral.fractionDigits, hfraction]; rfl
      rw [hdigits]
      have hempty : digits.isEmpty = false := by simp [hne]
      have hdigit : digits.all Char.isDigit = true := List.all_eq_true.mpr hall
      simp only [Option.toList_some, isValidFunnelFraction, hempty, len_of_isDigit hall, hdigit,
        Bool.and_eq_true, Bool.or_eq_true, decide_eq_true_eq, List.all_eq_true, Option.mem_def,
        Option.some.injEq, forall_eq', Bool.false_eq_true, not_false_eq_true, decide_true,
        true_and, and_true]
      refine and_congr_right fun _ => ⟨fun h => ?_, fun h => ?_⟩
      · rcases h with hlt | hzeros
        · exact .inl hlt
        · exact (Nat.lt_or_eq_of_le hle).imp_right fun heq => ⟨heq, hzeros⟩
      · exact h.imp_right fun heq => heq.2

/-- **A numeral is accepted** before the final `s` with a fraction of at most nine digits and a
    value within the bound. -/
theorem isValidFunnelDuration_numeral (n : Numeral) :
    isValidFunnelDuration (n.toText ++ ['s']) = true ↔
      (∀ digits ∈ n.fraction, digits.length ≤ 9) ∧ n.value ≤ maxFunnelDurationSeconds := by
  obtain ⟨hne, hall⟩ := n.isDigits_whole
  have hcheck : ¬ (n.whole.isEmpty = true ∨ ¬ n.whole.all Char.isDigit = true) := by
    rw [not_or, not_not, List.isEmpty_iff]
    exact ⟨hne, List.all_eq_true.mpr hall⟩
  -- a whole part beyond the bound is refused, whether it fits 64 bits or not
  have hbeyond : maxFunnelDurationSeconds < digitsNat n.whole →
      ¬ n.value ≤ maxFunnelDurationSeconds := by
    intro hlt hle
    rcases (n.value_le_iff _).mp hle with h | h
    · omega
    · omega
  rw [isValidFunnelDuration_concat _ _ _ (splitOn_numeral n), if_neg hcheck,
    parseU64_of_digits hne hall]
  change (match if digitsNat n.whole ≤ usizeMax then some (digitsNat n.whole) else none with
    | none => false
    | some secondsValue =>
        if secondsValue > maxFunnelDurationSeconds then false
        else isValidFunnelFraction secondsValue n.fraction.toList) = true ↔ _
  by_cases hlt : maxFunnelDurationSeconds < digitsNat n.whole
  · refine iff_of_false ?_ fun h => hbeyond hlt h.2
    split
    case h_1 => exact Bool.false_ne_true
    case h_2 secondsValue hread =>
      split at hread
      case isTrue =>
        obtain rfl := Option.some.inj hread
        rw [if_pos hlt]
        exact Bool.false_ne_true
      case isFalse => cases hread
  · have hle := Nat.le_of_not_lt hlt
    have hfits : digitsNat n.whole ≤ usizeMax := hle.trans (by decide)
    rw [if_pos hfits]
    exact (iff_of_eq (congrArg (· = true) (if_neg hlt))).trans (isValidFunnelFraction_iff n rfl hle)

/-- Behind the first point there is nothing, or one more part of digits. -/
theorem exists_fraction {secondsValue : Nat} {parts : List Text}
    (h : isValidFunnelFraction secondsValue parts = true) :
    ∃ fraction : Option Text, parts = fraction.toList ∧ ∀ digits ∈ fraction, IsDigits digits := by
  match parts, h with
  | [], _ => exact ⟨none, rfl, by simp⟩
  | [fraction], h =>
      simp only [isValidFunnelFraction, Bool.and_eq_true, decide_eq_true_eq] at h
      obtain ⟨⟨⟨hne, -⟩, hall⟩, -⟩ := h
      have hfraction : IsDigits fraction := by
        refine ⟨?_, List.all_eq_true.mp hall⟩
        rintro rfl
        exact hne rfl
      exact ⟨some fraction, rfl, by simpa using hfraction⟩
  | _ :: _ :: _, h => cases h

/-- What is accepted is a numeral and the final `s`. -/
theorem exists_numeral {v : Text} (h : isValidFunnelDuration v = true) :
    ∃ n : Numeral, v = n.toText ++ ['s'] := by
  have hlast : v.getLast? = some 's' := by
    by_contra hnot
    rw [isValidFunnelDuration, if_neg hnot] at h
    cases h
  obtain ⟨number, rfl⟩ := List.getLast?_eq_some_iff.mp hlast
  obtain ⟨seconds, parts, hsplit⟩ :=
    List.exists_cons_of_ne_nil (List.splitOn_ne_nil '.' number)
  have hnumber : List.intercalate ['.'] (seconds :: parts) = number := by
    rw [← hsplit]
    exact List.intercalate_splitOn '.'
  rw [isValidFunnelDuration_concat _ _ _ hsplit] at h
  split at h
  case isTrue => cases h
  case isFalse hcheck =>
    have hseconds : IsDigits seconds := by
      rw [not_or, not_not, List.isEmpty_iff] at hcheck
      exact ⟨hcheck.1, List.all_eq_true.mp hcheck.2⟩
    split at h
    case h_1 => cases h
    case h_2 secondsValue _ =>
      split at h
      case isTrue => cases h
      case isFalse =>
        obtain ⟨fraction, rfl, hfraction⟩ := exists_fraction h
        refine ⟨⟨seconds, fraction, hseconds, hfraction⟩, ?_⟩
        rw [← hnumber]
        cases fraction <;> simp [Numeral.toText, List.intercalate]

/-- **Durations** are accepted exactly by the grammar: a numeral with a fraction of one to nine
    digits at most, the final `s`, and a number of seconds within the bound. -/
theorem isValidFunnelDuration_iff (v : Text) :
    isValidFunnelDuration v = true ↔ ∃ n : Numeral, v = n.toText ++ ['s'] ∧
      (∀ digits ∈ n.fraction, digits.length ≤ 9) ∧ n.value ≤ maxFunnelDurationSeconds := by
  constructor
  · intro h
    obtain ⟨n, rfl⟩ := exists_numeral h
    exact ⟨n, rfl, (isValidFunnelDuration_numeral n).mp h⟩
  · rintro ⟨n, rfl, hbound⟩
    exact (isValidFunnelDuration_numeral n).mpr hbound

end Ga4Mcp.Tools
