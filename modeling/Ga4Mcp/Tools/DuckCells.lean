/-
  A cell of a report as a value of the engine, of `src/scratchpad.rs`.

  Three tables are applied one after the other: the logical type of a metric's header type,
  the column type of the logical type, and how a text is read under it. A float is a number of
  the binary64 format; `F64` is how such a number is written.

  * `parseF64_isRounded`: a decimal numeral is read as the float nearest to it.
  * `parseI64_numeral`: it is read as an integer without a fraction, if it fits.
  * `boundAsNumber_iff`: when a metric is bound as the number it was written as.
-/
import Ga4Mcp.Lib.Binary64
import Ga4Mcp.Lib.Decimals
import Ga4Mcp.Scratchpad.Engine
import Ga4Mcp.Tools.DuckRows
import Ga4Mcp.Tools.PivotChecks
import Ga4Mcp.Tools.Projection

namespace Ga4Mcp.Tools

open Ga4Mcp.Lib Ga4Mcp.Scratchpad

/-! ## Numbers -/

/-- `parse::<i64>`: digits after at most one sign, of a number that fits. -/
def parseI64 (raw : Text) : Option Int :=
  match raw with
  | '-' :: rest => (digitsValue rest).bind fun n => if n ≤ 2 ^ 63 then some (-(n : Int)) else none
  | '+' :: rest => (digitsValue rest).bind fun n => if n < 2 ^ 63 then some (n : Int) else none
  | rest => (digitsValue rest).bind fun n => if n < 2 ^ 63 then some (n : Int) else none

/-- `raw.max(0.0) as usize`: the whole part, within the range of the type. -/
def usizeOfFloat : Binary64 → Nat
  | .finite true _ => 0
  | .finite false m =>
      min (m.significand * 2 ^ m.exponent.toNat / 2 ^ (-m.exponent).toNat) usizeMax
  | .infinity negative => if negative then 0 else usizeMax
  | .nan _ => 0

/-- How a float is written: as a JSON number, and with `{}`. -/
structure F64 where
  number : Binary64 → Text
  display : Binary64 → Text

namespace F64

variable (f64 : F64)

/-- What the source reads of a float. -/
def value (x : Binary64) : DuckFloat := ⟨x.isFinite, f64.number x, f64.display x, usizeOfFloat x⟩

/-- The float nearest to a sign and a magnitude. -/
def nearest (negative : Bool) (magnitude : ℚ) : DuckFloat := f64.value (.round negative magnitude)

/-- The float `inf`, or `-inf`. -/
def infinity (negative : Bool) : DuckFloat := f64.value (.infinity negative)

/-- The float that is no number. -/
def nan (negative : Bool) : DuckFloat := f64.value (.nan negative)

end F64

/-- An exponent, with its own sign. -/
def readExponent : Text → Option Int
  | '-' :: rest => (digitsValue rest).map fun n => -(n : Int)
  | '+' :: rest => (digitsValue rest).map fun n => (n : Int)
  | rest => (digitsValue rest).map fun n => (n : Int)

/-- What stands before an `e`, and behind it. -/
def splitExponent (raw : Text) : Text × Option Text :=
  match raw.dropWhile fun c => c.toLower ≠ 'e' with
  | [] => (raw, none)
  | _ :: exponent => (raw.takeWhile fun c => c.toLower ≠ 'e', some exponent)

/-- The digits before and after a point, not both empty. -/
def readMantissa (raw : Text) : Option ℚ :=
  let (whole, fraction) := (Text.splitOnce '.' raw).getD (raw, [])
  (digitsValue (whole ++ fraction)).map fun n : Nat => (n : ℚ) / 10 ^ fraction.length

section

variable (f64 : F64)

/-- A float without its sign, by name or by digits. -/
def parseMagnitude (negative : Bool) (raw : Text) : Option DuckFloat :=
  if Text.eqIgnoreAsciiCase raw (text "inf") ∨ Text.eqIgnoreAsciiCase raw (text "infinity") then
    some (f64.infinity negative)
  else if Text.eqIgnoreAsciiCase raw (text "nan") then some (f64.nan negative)
  else do
    let (mantissa, exponent) := splitExponent raw
    let exponent ← exponent.elim (some 0) readExponent
    let mantissa ← readMantissa mantissa
    return f64.nearest negative (mantissa * 10 ^ exponent)

/-- `parse::<f64>`. -/
def parseF64 (raw : Text) : Option DuckFloat :=
  match raw with
  | '-' :: rest => parseMagnitude f64 true rest
  | '+' :: rest => parseMagnitude f64 false rest
  | rest => parseMagnitude f64 false rest

/-! ## Cells -/

/-- `Number::as_i64`. -/
def JsonNumber.asI64 : JsonNumber → Option Int
  | .posInt value => if value < 2 ^ 63 then some value else none
  | .negInt magnitude => some (-magnitude)
  | .float _ => none

/-- `Number::as_u64`. -/
def JsonNumber.asU64 : JsonNumber → Option Nat
  | .posInt value => some value
  | _ => none

/-- `Number::as_f64`. -/
def JsonNumber.asF64 : JsonNumber → Option DuckFloat
  | .posInt value => some (f64.nearest false value)
  | .negInt magnitude => some (f64.nearest true magnitude)
  | .float written => parseF64 f64 written

/-- A number under a logical type. -/
def numberToDuckValue (number : JsonNumber) (logicalType : Text) : DuckValue :=
  let integer : Option DuckValue :=
    if logicalType = text "integer" then
      (number.asI64.map .bigInt).or (number.asU64.map .uBigInt)
    else none
  (integer.or ((number.asF64 f64).map .double)).getD (.text (Json.renderNumber number))

/-- A text under a logical type. -/
def textToDuckValue (raw logicalType : Text) : DuckValue :=
  let integer : Option DuckValue :=
    if logicalType = text "integer" then
      ((parseI64 raw).map .bigInt).or ((parseU64 raw).map .uBigInt)
    else none
  let float : Option DuckValue :=
    if logicalType ∈ ["number", "currency", "distance", "duration_minutes"].map text then
      (parseF64 f64 raw).map .double
    else none
  (integer.or float).getD (.text raw)

def jsonValueToDuckValue (value : Option Json) (logicalType : Text) : DuckValue :=
  match value with
  | none => .null
  | some .null => .null
  | some (.bool v) => .boolean v
  | some (.number number) => numberToDuckValue f64 number logicalType
  | some (.string raw) => textToDuckValue f64 raw logicalType
  | some (.array values) => .text (Json.render (.array values))
  | some (.object fields) => .text (Json.render (.object fields))

end

/-! ## Signed numerals -/

/-- A decimal numeral with an optional sign. -/
structure SignedNumeral extends Numeral where
  sign : Option Char
  isSign : ∀ c ∈ sign, c = '+' ∨ c = '-'

namespace SignedNumeral

/-- How a signed numeral is written. -/
def toText (n : SignedNumeral) : Text := n.sign.toList ++ n.toNumeral.toText

/-- It has a minus sign. -/
def negative (n : SignedNumeral) : Bool := n.sign = some '-'

/-- The number that it stands for. -/
def value (n : SignedNumeral) : ℚ := if n.negative then -n.toNumeral.value else n.toNumeral.value

end SignedNumeral

/-! ## Reading a numeral -/

theorem isDigit_ne {c d : Char} (h : c.isDigit = true) (hd : d.isDigit = false) : c ≠ d := by
  rintro rfl
  rw [h] at hd
  cases hd

theorem digitsValue_of_isDigits {raw : Text} (h : IsDigits raw) :
    digitsValue raw = some (digitsNat raw) := by
  rw [digitsValue, if_neg]
  · rfl
  · rw [not_or, not_not, List.isEmpty_iff]
    exact ⟨h.1, List.all_eq_true.mpr h.2⟩

/-- The text of a numeral is one of digits when it has no fraction. -/
theorem digitsValue_numeral (n : Numeral) :
    digitsValue n.toText = if n.fraction = none then some (digitsNat n.whole) else none := by
  unfold Numeral.toText
  cases n.fraction with
  | none =>
      rw [if_pos rfl, Option.elim_none, List.append_nil]
      exact digitsValue_of_isDigits n.isDigits_whole
  | some digits =>
      rw [if_neg (by simp), digitsValue, if_pos]
      refine .inr fun hall => ?_
      exact absurd (List.all_eq_true.mp hall '.' (by simp)) (by decide)

theorem numeral_head (n : Numeral) : ∃ c rest, n.toText = c :: rest ∧ c.isDigit = true := by
  obtain ⟨c, rest, hwhole⟩ := List.exists_cons_of_ne_nil n.isDigits_whole.1
  refine ⟨c, rest ++ n.fraction.elim [] fun digits => '.' :: digits, ?_, ?_⟩
  · rw [Numeral.toText, hwhole]
    rfl
  · exact n.isDigits_whole.2 c (by rw [hwhole]; exact List.mem_cons_self)

theorem SignedNumeral.sign_cases (n : SignedNumeral) :
    n.sign = none ∨ n.sign = some '+' ∨ n.sign = some '-' := by
  cases h : n.sign with
  | none => exact .inl rfl
  | some c =>
      rcases n.isSign c h with rfl | rfl
      · exact .inr (.inl rfl)
      · exact .inr (.inr rfl)

theorem parseI64_unsigned (n : Numeral) :
    parseI64 n.toText = (digitsValue n.toText).bind fun k =>
      if k < 2 ^ 63 then some (k : Int) else none := by
  obtain ⟨c, rest, htext, hc⟩ := numeral_head n
  have hminus := isDigit_ne hc (d := '-') (by decide)
  have hplus := isDigit_ne hc (d := '+') (by decide)
  rw [htext]
  simp [parseI64, hminus, hplus]

/-- **A numeral is read as an integer** when it has no fraction and fits. -/
theorem parseI64_numeral (n : SignedNumeral) (v : Int) :
    parseI64 n.toText = some v ↔
      n.fraction = none ∧ (v : ℚ) = n.value ∧ -2 ^ 63 ≤ v ∧ v < 2 ^ 63 := by
  have hread : parseI64 n.toText = (digitsValue n.toNumeral.toText).bind fun k =>
      if n.negative then if k ≤ 2 ^ 63 then some (-(k : Int)) else none
      else if k < 2 ^ 63 then some (k : Int) else none := by
    unfold SignedNumeral.toText SignedNumeral.negative
    rcases n.sign_cases with hsign | hsign | hsign
    · rw [hsign]
      exact parseI64_unsigned n.toNumeral
    · rw [hsign]
      rfl
    · rw [hsign]
      rfl
  rw [hread, digitsValue_numeral]
  by_cases hfraction : n.fraction = none
  · rw [if_pos hfraction, Option.bind_some, and_iff_right hfraction, SignedNumeral.value,
      Numeral.value_of_fraction_none hfraction]
    cases n.negative with
    | true =>
        have hcast : (v : ℚ) = -(digitsNat n.whole : ℚ) ↔ v = -(digitsNat n.whole : Int) := by
          rw [← Int.cast_natCast, ← Int.cast_neg, Int.cast_inj]
        simp only [if_true, hcast]
        split
        all_goals
          simp only [Option.some.injEq, reduceCtorEq, false_iff]
          omega
    | false =>
        have hcast : (v : ℚ) = (digitsNat n.whole : ℚ) ↔ v = (digitsNat n.whole : Int) := by
          rw [← Int.cast_natCast, Int.cast_inj]
        simp only [Bool.false_eq_true, if_false, hcast]
        split
        all_goals
          simp only [Option.some.injEq, reduceCtorEq, false_iff]
          omega
  · simp [hfraction]

theorem parseU64_of_unsigned {raw : Text} (h : raw.head? ≠ some '+') :
    parseU64 raw = (digitsValue raw).bind fun k => if k ≤ usizeMax then some k else none := by
  rw [parseU64_of_head h, digitsValue]
  split
  · rfl
  · rfl

theorem parseU64_of_plus (raw : Text) :
    parseU64 ('+' :: raw) =
      (digitsValue raw).bind fun k => if k ≤ usizeMax then some k else none := by
  rw [parseU64, digitsValue]
  dsimp only
  split
  · rfl
  · rfl

/-- What the second attempt reads has no fraction either. -/
theorem parseU64_numeral {n : SignedNumeral} {v : Nat} (h : parseU64 n.toText = some v) :
    n.fraction = none ∧ (v : ℚ) = n.value := by
  have hread : parseU64 n.toText = if n.negative then none else
      (digitsValue n.toNumeral.toText).bind fun k => if k ≤ usizeMax then some k else none := by
    obtain ⟨c, rest, htext, hc⟩ := numeral_head n.toNumeral
    have hhead : n.toNumeral.toText.head? ≠ some '+' := by
      rw [htext]
      exact fun heq => isDigit_ne hc (by decide) (Option.some.inj heq)
    unfold SignedNumeral.toText SignedNumeral.negative
    rcases n.sign_cases with hsign | hsign | hsign
    · rw [hsign]
      exact parseU64_of_unsigned hhead
    · rw [hsign]
      exact parseU64_of_plus _
    · rw [hsign]
      rfl
  rw [hread] at h
  cases hnegative : n.negative with
  | true => simp [hnegative] at h
  | false =>
      rw [hnegative, if_neg Bool.false_ne_true, digitsValue_numeral] at h
      by_cases hfraction : n.fraction = none
      · refine ⟨hfraction, ?_⟩
        rw [SignedNumeral.value, hnegative, if_neg Bool.false_ne_true,
          Numeral.value_of_fraction_none hfraction]
        rw [if_pos hfraction, Option.bind_some] at h
        split at h
        · rw [Option.some.inj h]
        · cases h
      · simp [hfraction] at h

theorem toLower_of_isDigit {c : Char} (h : c.isDigit = true) : c.toLower = c := by
  have hlt := Text.toNat_lt_of_isDigit h
  refine dif_neg fun hupper => ?_
  have hge : 65 ≤ c.toNat := hupper.1
  omega

/-- A text with a digit first is no word. -/
theorem eqIgnoreAsciiCase_of_isDigit {c : Char} (h : c.isDigit = true) (rest : Text) {word : Text}
    (hword : ∀ d ∈ word.head?, d.toLower.isDigit = false) :
    ¬ Text.eqIgnoreAsciiCase (c :: rest) word = true := by
  intro heq
  have hlower : Text.toAsciiLowercase (c :: rest) = Text.toAsciiLowercase word :=
    of_decide_eq_true heq
  cases word with
  | nil => cases hlower
  | cons d word =>
      have hhead : c.toLower = d.toLower := (List.cons.inj hlower).1
      rw [toLower_of_isDigit h] at hhead
      exact isDigit_ne h (hword d rfl) hhead

theorem mem_numeral {n : Numeral} {c : Char} (h : c ∈ n.toText) : c.isDigit = true ∨ c = '.' := by
  unfold Numeral.toText at h
  rcases List.mem_append.mp h with hwhole | hrest
  · exact .inl (n.isDigits_whole.2 c hwhole)
  · cases hfraction : n.fraction with
    | none => simp [hfraction] at hrest
    | some digits =>
        rw [hfraction] at hrest
        rcases List.mem_cons.mp hrest with rfl | hrest
        · exact .inr rfl
        · exact .inl ((n.isDigits_fraction digits hfraction).2 c hrest)

theorem splitExponent_numeral (n : Numeral) : splitExponent n.toText = (n.toText, none) := by
  have hnone : n.toText.dropWhile (fun c => c.toLower ≠ 'e') = [] := by
    refine List.dropWhile_eq_nil_iff.mpr fun c hc => ?_
    rcases mem_numeral hc with hdigit | rfl
    · rw [toLower_of_isDigit hdigit]
      exact decide_eq_true (isDigit_ne hdigit (by decide))
    · decide
  rw [splitExponent, hnone]

theorem readMantissa_numeral (n : Numeral) : readMantissa n.toText = some n.value := by
  have hsplit : (Text.splitOnce '.' n.toText).getD (n.toText, []) =
      (n.whole, n.fractionDigits) := by
    have hpoint : '.' ∉ n.whole := fun hmem => absurd (n.isDigits_whole.2 '.' hmem) (by decide)
    unfold Numeral.toText Numeral.fractionDigits
    cases n.fraction with
    | none => simp [Text.splitOnce, hpoint]
    | some digits => simp [Text.splitOnce_append hpoint]
  have hdigits : IsDigits (n.whole ++ n.fractionDigits) := by
    refine ⟨List.append_ne_nil_of_left_ne_nil n.isDigits_whole.1 _, fun c hc => ?_⟩
    rcases List.mem_append.mp hc with hc | hc
    · exact n.isDigits_whole.2 c hc
    · exact n.isDigit_fractionDigits c hc
  rw [readMantissa, hsplit, n.value_eq]
  simp only [digitsValue_of_isDigits hdigits, Option.map_some]

/-- A numeral is read as a float. -/
theorem parseF64_numeral (f64 : F64) (n : SignedNumeral) :
    parseF64 f64 n.toText = some (f64.nearest n.negative n.toNumeral.value) := by
  obtain ⟨c, rest, htext, hc⟩ := numeral_head n.toNumeral
  have hread : ∀ negative, parseMagnitude f64 negative n.toNumeral.toText =
      some (f64.nearest negative n.toNumeral.value) := by
    intro negative
    have hword : ∀ word : Text, (∀ d ∈ word.head?, d.toLower.isDigit = false) →
        ¬ Text.eqIgnoreAsciiCase n.toNumeral.toText word = true := by
      rw [htext]
      exact fun word => eqIgnoreAsciiCase_of_isDigit hc rest
    have hnames : ¬ (Text.eqIgnoreAsciiCase n.toNumeral.toText (text "inf") = true ∨
        Text.eqIgnoreAsciiCase n.toNumeral.toText (text "infinity") = true) :=
      not_or.mpr ⟨hword _ (by simp [text]), hword _ (by simp [text])⟩
    rw [parseMagnitude, if_neg hnames, if_neg (hword _ (by simp [text])), splitExponent_numeral]
    simp [readMantissa_numeral]
  have hplain : parseF64 f64 n.toNumeral.toText = parseMagnitude f64 false n.toNumeral.toText := by
    have hminus := isDigit_ne hc (d := '-') (by decide)
    have hplus := isDigit_ne hc (d := '+') (by decide)
    rw [htext]
    simp [parseF64, hminus, hplus]
  unfold SignedNumeral.toText SignedNumeral.negative
  rcases n.sign_cases with hsign | hsign | hsign
  · rw [hsign]
    exact hplain.trans (hread false)
  · rw [hsign]
    exact hread false
  · rw [hsign]
    exact hread true

/-- **A numeral is read as the float nearest to it**, of two as the even one, and as an infinity
    where the format ends. -/
theorem parseF64_isRounded (f64 : F64) (n : SignedNumeral) :
    ∃ x, parseF64 f64 n.toText = some (f64.value x) ∧
      x.IsRounded n.negative n.toNumeral.value := by
  refine ⟨_, parseF64_numeral f64 n, Binary64.isRounded_round n.negative ?_⟩
  rw [n.value_eq]
  positivity

/-! ## The three tables -/

/-- The header types that are taken for integers. -/
def integerMetricTypes : List Text :=
  ["TYPE_INTEGER", "TYPE_STANDARD", "TYPE_HOURS", "TYPE_SECONDS", "TYPE_MILLISECONDS"].map text

/-- The logical types of floats. -/
def floatLogicalTypes : List Text :=
  ["number", "currency", "distance", "duration_minutes"].map text

/-- A value of the engine is the number, up to the rounding of floats. -/
def Denotes (f64 : F64) (n : SignedNumeral) : DuckValue → Prop
  | .bigInt raw => (raw : ℚ) = n.value
  | .uBigInt raw => (raw : ℚ) = n.value
  | .double raw => raw = f64.nearest n.negative n.toNumeral.value
  | _ => False

/-- A column of a type takes a number as it is. -/
def Fits (columnType : Text) : DuckValue → Prop
  | .bigInt raw => columnType = text "BIGINT" ∧ -2 ^ 63 ≤ raw ∧ raw < 2 ^ 63
  | .uBigInt raw => columnType = text "BIGINT" ∧ raw < 2 ^ 63
  | .double _ => columnType = text "DOUBLE"
  | _ => False

/-- A metric of a header type, written as a numeral, is bound as that number in its column. -/
def BoundAsNumber (f64 : F64) (metricType : Text) (n : SignedNumeral) : Prop :=
  let logicalType := metricHeaderLogicalType metricType
  let value := jsonValueToDuckValue f64 (some (.string n.toText)) logicalType
  Denotes f64 n value ∧ Fits (logicalTypeToDuckdbType logicalType) value

theorem metricHeaderLogicalType_integer {metricType : Text} (h : metricType ∈ integerMetricTypes) :
    metricHeaderLogicalType metricType = text "integer" := if_pos h

theorem metricHeaderLogicalType_float {metricType : Text} (h : metricType ∉ integerMetricTypes) :
    metricHeaderLogicalType metricType ∈ floatLogicalTypes := by
  unfold integerMetricTypes at h
  rw [metricHeaderLogicalType, if_neg h]
  split
  · decide
  · split
    · decide
    · split
      · decide
      · split
        · decide
        · decide

/-- The column type of a float's logical type is that of floats, and the text is read as one. -/
theorem float_tables (f64 : F64) (raw : Text) {logicalType : Text}
    (h : logicalType ∈ floatLogicalTypes) :
    logicalTypeToDuckdbType logicalType = text "DOUBLE" ∧
      textToDuckValue f64 raw logicalType = ((parseF64 f64 raw).map .double).getD (.text raw) := by
  have hne : logicalType ≠ text "integer" := by
    rintro rfl
    exact absurd h (by decide)
  unfold floatLogicalTypes at h
  refine ⟨?_, ?_⟩
  · rw [logicalTypeToDuckdbType, if_neg hne, if_pos h]
  · rw [textToDuckValue, if_neg hne, if_pos h]
    rfl

/-- The column type of integers, and the two attempts to read one. -/
theorem integer_tables (f64 : F64) (raw : Text) :
    logicalTypeToDuckdbType (text "integer") = text "BIGINT" ∧
      textToDuckValue f64 raw (text "integer") =
        (((parseI64 raw).map .bigInt).or ((parseU64 raw).map .uBigInt)).getD (.text raw) := by
  refine ⟨if_pos rfl, ?_⟩
  rw [textToDuckValue, if_pos rfl, if_neg (by decide), Option.or_none]

/-- A numeral without a fraction is an integer. -/
theorem exists_int_of_fraction_none {n : SignedNumeral} (h : n.fraction = none) :
    ∃ v : Int, (v : ℚ) = n.value := by
  rw [SignedNumeral.value, Numeral.value_of_fraction_none h]
  cases n.negative with
  | true => exact ⟨-digitsNat n.whole, by simp⟩
  | false => exact ⟨digitsNat n.whole, by simp⟩

/-- A numeral is bound as an integer when it is one of 64 bits, without a fraction. -/
theorem boundAsInteger_iff (f64 : F64) (n : SignedNumeral) :
    Denotes f64 n (textToDuckValue f64 n.toText (text "integer")) ∧
        Fits (logicalTypeToDuckdbType (text "integer"))
          (textToDuckValue f64 n.toText (text "integer")) ↔
      n.fraction = none ∧ -2 ^ 63 ≤ n.value ∧ n.value < 2 ^ 63 := by
  obtain ⟨hcolumn, hvalue⟩ := integer_tables f64 n.toText
  rw [hcolumn, hvalue]
  have hcast : ∀ v : Int, (v : ℚ) = n.value →
      ((-2 ^ 63 ≤ n.value ∧ n.value < 2 ^ 63) ↔ (-2 ^ 63 ≤ v ∧ v < 2 ^ 63)) := by
    intro v hv
    rw [← hv]
    norm_cast
  cases hsigned : parseI64 n.toText with
  | some v =>
      obtain ⟨hfraction, hv, hrange⟩ := (parseI64_numeral n v).mp hsigned
      exact iff_of_true ⟨hv, rfl, hrange⟩ ⟨hfraction, (hcast v hv).mpr hrange⟩
  | none =>
      have hnot : ¬ (n.fraction = none ∧ -2 ^ 63 ≤ n.value ∧ n.value < 2 ^ 63) := by
        rintro ⟨hfraction, hrange⟩
        obtain ⟨v, hv⟩ := exists_int_of_fraction_none hfraction
        have hsome := (parseI64_numeral n v).mpr ⟨hfraction, hv, (hcast v hv).mp hrange⟩
        rw [hsigned] at hsome
        cases hsome
      refine iff_of_false ?_ hnot
      cases hunsigned : parseU64 n.toText with
      | some v =>
          -- read without a sign, it does not fit the column
          obtain ⟨hfraction, hv⟩ := parseU64_numeral hunsigned
          rintro ⟨-, -, hfits⟩
          have hv' : ((v : Int) : ℚ) = n.value := by rw [Int.cast_natCast, hv]
          exact hnot ⟨hfraction, (hcast v hv').mpr ⟨by omega, by omega⟩⟩
      | none => exact fun h => h.1

/-- **A metric is bound as the number it was written as** unless its header type is taken for
    an integer; then it must be one, of 64 bits and written without a fraction. -/
theorem boundAsNumber_iff (f64 : F64) (metricType : Text) (n : SignedNumeral) :
    BoundAsNumber f64 metricType n ↔
      (metricType ∈ integerMetricTypes →
        n.fraction = none ∧ -2 ^ 63 ≤ n.value ∧ n.value < 2 ^ 63) := by
  by_cases hinteger : metricType ∈ integerMetricTypes
  · rw [forall_prop_of_true hinteger, BoundAsNumber, metricHeaderLogicalType_integer hinteger]
    exact boundAsInteger_iff f64 n
  · rw [iff_true_right fun h => absurd h hinteger]
    obtain ⟨hcolumn, hvalue⟩ := float_tables f64 n.toText (metricHeaderLogicalType_float hinteger)
    rw [parseF64_numeral] at hvalue
    change Denotes f64 n (textToDuckValue f64 n.toText _) ∧
      Fits _ (textToDuckValue f64 n.toText _)
    rw [hvalue]
    exact ⟨rfl, hcolumn⟩

/-- The numeral `1.5`. -/
def oneAndHalf : SignedNumeral where
  whole := text "1"
  fraction := some (text "5")
  isDigits_whole := ⟨by decide, List.forall_iff_forall_mem.mp (by decide)⟩
  isDigits_fraction := by
    intro digits hdigits
    obtain rfl := Option.some.inj hdigits
    exact ⟨by decide, List.forall_iff_forall_mem.mp (by decide)⟩
  sign := none
  isSign := by simp

/-- A duration of `1.5` seconds is bound as a text. -/
theorem not_boundAsNumber :
    (∀ f64, jsonValueToDuckValue f64 (some (.string oneAndHalf.toText))
        (metricHeaderLogicalType (text "TYPE_SECONDS")) = .text (text "1.5")) ∧
      ∀ f64, ¬ BoundAsNumber f64 (text "TYPE_SECONDS") oneAndHalf := by
  have hvalue : ∀ f64, jsonValueToDuckValue f64 (some (.string oneAndHalf.toText))
      (metricHeaderLogicalType (text "TYPE_SECONDS")) = .text (text "1.5") := fun _ => rfl
  refine ⟨hvalue, fun f64 h => ?_⟩
  have hdenotes := h.1
  rw [hvalue f64] at hdenotes
  exact hdenotes

end Ga4Mcp.Tools
