/-
  What `validate_pivots` checks of a pivot, and what is posted of it. The check reads raw keys;
  the post has the keys in camel case, where several raw keys can become one and the last of
  them is posted (`get_camelFields`).

  * `validatePivots_ok`: what an accepted list of pivots is.
  * `pivotsAsChecked_iff`: exactly which accepted pivots are posted as they were checked.
-/
import Ga4Mcp.Tools.CamelKeys
import Ga4Mcp.Tools.Reports
import Mathlib.Algebra.BigOperators.Ring.Finset

namespace Ga4Mcp.Tools

open Ga4Mcp.Lib

/-! ## Posted pivots -/

/-- The names that an array of strings has. -/
def RequestedNames (dimensions : List Text) (value : Json) : Prop :=
  ∃ names : List Text, value = .ofTexts names ∧
    ∀ name ∈ names, Text.trim name ∈ dimensions.map Text.trim

/-- The range of an `int64`. -/
def inInt64 (value : Int) : Option Int :=
  if -2 ^ 63 ≤ value ∧ value < 2 ^ 63 then some value else none

/-- The number of a text of digits. -/
def digitsValue (digits : Text) : Option Nat :=
  if digits.isEmpty ∨ ¬ digits.all Char.isDigit then none
  else some (Nat.ofDigitChars 10 digits 0)

/-- A decimal integer with at most a minus sign. -/
def decimalInteger : Text → Option Int
  | '-' :: digits => (digitsValue digits).map fun value : Nat => -(value : Int)
  | digits => (digitsValue digits).map fun value : Nat => (value : Int)

/-- The value of a number that is written with a point or an exponent, if it is integral. -/
def integralValue (written : Text) : Option Int := do
  let (mantissa, exponent) := (Text.splitOnce 'e' written).getD (written, text "0")
  let (sign, mantissa) : Int × Text := match mantissa with
    | '-' :: mantissa => (-1, mantissa)
    | mantissa => (1, mantissa)
  let (whole, fraction) := (Text.splitOnce '.' mantissa).getD (mantissa, [])
  let exponent ← decimalInteger (match exponent with
    | '+' :: exponent => exponent
    | exponent => exponent)
  let digits ← digitsValue (whole ++ fraction)
  let shift : Int := exponent - fraction.length
  if 0 ≤ shift then some (sign * digits * 10 ^ shift.toNat)
  else if digits % 10 ^ (-shift).toNat = 0 then some (sign * (digits / 10 ^ (-shift).toNat))
  else none

/-- An `int64` in the JSON form of protobuf: an integral number, or a decimal string. -/
def readInt64 : Json → Option Int
  | .number (.posInt value) => inInt64 value
  | .number (.negInt magnitude) => inInt64 (-magnitude)
  | .number (.float written) => (integralValue written).bind inInt64
  | .string raw => (decimalInteger raw).bind inInt64
  | _ => none

/-- A limit as the upstream reads it; without one it is 10. -/
def readLimit : Option Json → Option Int
  | none => some 10
  | some .null => some 10
  | some value => readInt64 value

/-- Each pivot asks for requested dimensions, and the limits stay within the bound, unless one
    of them cannot be read. -/
def PivotsAsChecked (dimensions : List Text) (posted : Json) : Prop :=
  ∃ pivots, posted = .array pivots ∧
    (∀ pivot ∈ pivots, ∃ value ∈ pivot.get (text "fieldNames"), RequestedNames dimensions value) ∧
    ∀ limits : List Int,
      List.Forall₂ (fun pivot limit => readLimit (pivot.get (text "limit")) = some limit)
        pivots limits → limits.prod ≤ 100000

example : readInt64 (.number (.float (text "1000000.0"))) = some 1000000 ∧
    readInt64 (.number (.float (text "-2.5e1"))) = some (-25) ∧
    readInt64 (.number (.float (text "0.5"))) = none ∧
    readInt64 (.string (text "007")) = some 7 := by
  decide

/-! ## Accepted pivots -/

/-- The key that the field names are read under. -/
def checkedKey (fields : JsonMap) : Text :=
  if (JsonMap.get fields (text "field_names")).isSome then text "field_names"
  else text "fieldNames"

/-- The limit that the check counts. -/
def countedLimit (fields : JsonMap) : Nat :=
  ((JsonMap.get fields (text "limit")).bind parsePositiveU64).getD 10

/-- A pivot that one round of the loop accepts. -/
def PivotAccepted (dimensions : List Text) (pivot : Json) (count : Nat) : Prop :=
  ∃ fields, pivot = .object fields ∧ count = countedLimit fields ∧
    ∃ value ∈ JsonMap.get fields (checkedKey fields), RequestedNames dimensions value

theorem validatePivotFieldName_ok {dimensions : List Text} {idx : Nat} {fieldName : Json}
    (h : validatePivotFieldName ((dimensions.map Text.trim).filter fun value => ¬ value.isEmpty) idx
      fieldName = .ok ()) :
    ∃ name, fieldName = .string name ∧ Text.trim name ∈ dimensions.map Text.trim := by
  obtain ⟨name, hname, h⟩ := bind_eq_ok.mp h
  obtain ⟨⟨⟩, -, h⟩ := bind_eq_ok.mp h
  have hmem := not_not.mp (refuseIf_eq_ok.mp h)
  obtain ⟨raw, hraw, rfl⟩ := Option.map_eq_some_iff.mp (okOr_eq_ok.mp hname)
  refine ⟨raw, ?_, List.mem_of_mem_filter hmem⟩
  cases fieldName with
  | string value => rw [Option.some.inj hraw]
  | _ => cases hraw

theorem requestedNames_array {dimensions : List Text} {values : List Json} :
    RequestedNames dimensions (.array values) ↔
      ∀ value ∈ values, ∃ name, value = .string name ∧
        Text.trim name ∈ dimensions.map Text.trim := by
  constructor
  · rintro ⟨names, heq, hnames⟩ value hvalue
    rw [Json.array.inj heq] at hvalue
    obtain ⟨name, hname, rfl⟩ := List.mem_map.mp hvalue
    exact ⟨name, rfl, hnames name hname⟩
  · intro h
    induction values with
    | nil => exact ⟨[], rfl, by simp⟩
    | cons value values ih =>
        obtain ⟨name, rfl, hname⟩ := h value List.mem_cons_self
        obtain ⟨names, hall, hnames⟩ := ih fun other hother =>
          h other (List.mem_cons_of_mem _ hother)
        refine ⟨name :: names, ?_, List.forall_mem_cons.mpr ⟨hname, hnames⟩⟩
        rw [Json.array.inj hall]
        rfl

theorem validatePivot_ok {dimensions : List Text} {idx : Nat} {pivot : Json} {count : Nat}
    (h : validatePivot ((dimensions.map Text.trim).filter fun value => ¬ value.isEmpty) idx pivot =
      .ok count) : PivotAccepted dimensions pivot count := by
  obtain ⟨fields, hfields, h⟩ := bind_eq_ok.mp h
  obtain ⟨value, hvalue, h⟩ := bind_eq_ok.mp h
  obtain ⟨values, hvalues, h⟩ := bind_eq_ok.mp h
  obtain ⟨⟨⟩, -, h⟩ := bind_eq_ok.mp h
  obtain ⟨⟨⟩, hnames, h⟩ := bind_eq_ok.mp h
  have hobject : pivot = .object fields := by
    cases pivot with
    | object fields' => rw [Option.some.inj (okOr_eq_ok.mp hfields)]
    | _ => cases okOr_eq_ok.mp hfields
  have harray : value = .array values := by
    cases value with
    | array values' => rw [Option.some.inj (okOr_eq_ok.mp hvalues)]
    | _ => cases okOr_eq_ok.mp hvalues
  refine ⟨fields, hobject, (pure_eq_ok.mp h).symm, value, ?_, ?_⟩
  · have hread := okOr_eq_ok.mp hvalue
    rw [checkedKey]
    cases hsnake : JsonMap.get fields (text "field_names") with
    | some found =>
        rw [hsnake] at hread
        rw [if_pos (by rfl), hsnake]
        exact hread
    | none =>
        rw [hsnake] at hread
        rw [if_neg (by simp)]
        exact hread
  · rw [harray, requestedNames_array]
    exact fun fieldName hmem => validatePivotFieldName_ok (forM_eq_ok.mp hnames fieldName hmem)

/-- The loop: the product of the limits so far stays within the bound. -/
theorem validatePivotsFrom_ok {dimensions : List Text} {pivots : List (Json × Nat)} {product : Nat}
    (hproduct : product ≤ 100000)
    (h : validatePivotsFrom ((dimensions.map Text.trim).filter fun value => ¬ value.isEmpty) product
      pivots = .ok ()) :
    ∃ counts, List.Forall₂ (PivotAccepted dimensions) (pivots.map Prod.fst) counts ∧
      product * counts.prod ≤ 100000 := by
  induction pivots generalizing product with
  | nil => exact ⟨[], .nil, by simpa using hproduct⟩
  | cons pivot pivots ih =>
      obtain ⟨count, hpivot, h⟩ := bind_eq_ok.mp h
      obtain ⟨⟨⟩, hbound, h⟩ := bind_eq_ok.mp h
      obtain ⟨counts, hcounts, hprod⟩ := ih (Nat.not_lt.mp (refuseIf_eq_ok.mp hbound)) h
      refine ⟨count :: counts, .cons (validatePivot_ok hpivot) hcounts, ?_⟩
      rwa [List.prod_cons, ← Nat.mul_assoc]

/-- **An accepted list of pivots.** -/
theorem validatePivots_ok {pivots : List Json} {dimensions : List Text}
    (h : validatePivots pivots dimensions = .ok ()) :
    ∃ counts, List.Forall₂ (PivotAccepted dimensions) pivots counts ∧ counts.prod ≤ 100000 := by
  obtain ⟨⟨⟩, -, h⟩ := bind_eq_ok.mp h
  obtain ⟨counts, hcounts, hprod⟩ := validatePivotsFrom_ok (by decide) h
  rw [List.zipIdx_map_fst] at hcounts
  exact ⟨counts, hcounts, by simpa using hprod⟩

/-! ## What conversion keeps -/

theorem requestedNames_camel {dimensions : List Text} {value : Json} :
    RequestedNames dimensions value.snakeToCamelJson ↔ RequestedNames dimensions value := by
  have hstring : ∀ (value : Json) (name : Text),
      value.snakeToCamelJson = .string name ↔ value = .string name := by
    intro value name
    cases value with
    | array values => exact iff_of_false (fun h => by cases h) (fun h => by cases h)
    | object fields => exact iff_of_false (fun h => by cases h) (fun h => by cases h)
    | _ => exact Iff.rfl
  cases value with
  | array values =>
      rw [Json.snakeToCamelJson_array, requestedNames_array, requestedNames_array]
      simp only [List.forall_mem_map, hstring]
  | object fields =>
      exact iff_of_false (by rintro ⟨_, h, _⟩; cases h) (by rintro ⟨_, h, _⟩; cases h)
  | _ => exact Iff.rfl

theorem readLimit_camel (value : Option Json) :
    readLimit (value.map Json.snakeToCamelJson) = readLimit value := by
  cases value with
  | none => rfl
  | some value => cases value <;> rfl

/-- The limit of a raw pivot as the upstream will read it. -/
def declaredLimit : Json → Option Int
  | .object fields => readLimit ((lastSpelled fields (text "limit")).map Prod.snd)
  | _ => none

theorem readLimit_posted (fields : JsonMap) :
    readLimit ((Json.snakeToCamelJson (.object fields)).get (text "limit")) =
      declaredLimit (.object fields) := by
  rw [get_camelFields, declaredLimit,
    ← readLimit_camel ((lastSpelled fields (text "limit")).map Prod.snd), Option.map_map]
  rfl

/-! ## The condition -/

/-- The last spelling of the field names is the one that is checked, or would pass as well. -/
def NamesChecked (dimensions : List Text) (fields : JsonMap) : Prop :=
  ∀ field ∈ lastSpelled fields (text "fieldNames"),
    field.1 = checkedKey fields ∨ RequestedNames dimensions field.2

/-- The limit is left out, or stands under its own key as null or as a positive integer. -/
def LimitCounted (fields : JsonMap) : Prop :=
  ∀ field ∈ lastSpelled fields (text "limit"), field.1 = text "limit" ∧
    (field.2 = .null ∨ (parsePositiveU64 field.2).isSome)

/-- Names are checked as they are posted, and limits are counted as they are read; or a limit
    that is not does no harm. -/
structure PivotsPlain (dimensions : List Text) (pivots : List Json) : Prop where
  names : ∀ fields, .object fields ∈ pivots → NamesChecked dimensions fields
  limits : (∀ fields, .object fields ∈ pivots → LimitCounted fields) ∨
    ∀ limits : List Int,
      List.Forall₂ (fun pivot limit => declaredLimit pivot = some limit) pivots limits →
        limits.prod ≤ 100000

theorem PivotAccepted.names_posted_iff {dimensions : List Text} {fields : JsonMap} {count : Nat}
    (h : PivotAccepted dimensions (.object fields) count) (hsorted : fields.Sorted) :
    (∃ value ∈ (Json.snakeToCamelJson (.object fields)).get (text "fieldNames"),
      RequestedNames dimensions value) ↔ NamesChecked dimensions fields := by
  obtain ⟨fields', heq, -, value, hvalue, hnames⟩ := h
  obtain rfl := Json.object.inj heq
  have hspelled : ∃ field, lastSpelled fields (text "fieldNames") = some field := by
    have hkey : Json.snakeKeyToCamel (checkedKey fields) = text "fieldNames" := by
      unfold checkedKey
      split <;> rfl
    exact lastSpelled_isSome (JsonMap.mem_of_get hvalue) hkey
  obtain ⟨field, hfield⟩ := hspelled
  rw [get_camelFields, NamesChecked, hfield]
  constructor
  · rintro ⟨posted, hposted, hrequested⟩ other hother
    obtain rfl := Option.some.inj hother
    obtain rfl := Option.some.inj hposted
    exact .inr (requestedNames_camel.mp hrequested)
  · intro hchecked
    refine ⟨_, rfl, requestedNames_camel.mpr ?_⟩
    rcases hchecked field rfl with hkey | hrequested
    · have hget := hsorted.get_of_mem (mem_of_lastSpelled hfield)
      rw [hkey, hvalue] at hget
      exact Option.some.inj hget ▸ hnames
    · exact hrequested

theorem digitsValue_eq_some {digits : Text} {value : Nat} (h : digitsValue digits = some value) :
    digits ≠ [] ∧ (∀ c ∈ digits, c.isDigit = true) ∧ Nat.ofDigitChars 10 digits 0 = value := by
  unfold digitsValue at h
  split at h
  case isTrue => cases h
  case isFalse hdigits =>
    rw [not_or, List.isEmpty_iff, not_not] at hdigits
    exact ⟨hdigits.1, List.all_eq_true.mp hdigits.2, Option.some.inj h⟩

theorem trim_of_digits {digits : Text} (h : ∀ c ∈ digits, c.isDigit = true) :
    Text.trim digits = digits := by
  refine Text.trim_of_not_isWhitespace fun c hc => Text.not_isWhitespace_of_isAlphanum ?_
  rw [Char.isAlphanum, h c hc, Bool.or_true]

/-- A decimal integer that the source reads as well is read alike. -/
theorem decimalInteger_of_parseU64 {raw : Text} {value : Int} {count : Nat}
    (hvalue : decimalInteger raw = some value)
    (hcount : parseU64 (Text.trim raw) = some count) : value = count := by
  unfold decimalInteger at hvalue
  split at hvalue
  · next digits =>
      obtain ⟨number, hnumber, -⟩ := Option.map_eq_some_iff.mp hvalue
      obtain ⟨-, hall, -⟩ := digitsValue_eq_some hnumber
      have htrim : Text.trim ('-' :: digits) = '-' :: digits := by
        refine Text.trim_of_not_isWhitespace (List.forall_mem_cons.mpr ⟨rfl, fun c hc => ?_⟩)
        refine Text.not_isWhitespace_of_isAlphanum ?_
        rw [Char.isAlphanum, hall c hc, Bool.or_true]
      rw [htrim, parseU64_of_head (by simp), if_pos (.inr (by simp))] at hcount
      cases hcount
  · obtain ⟨number, hnumber, rfl⟩ := Option.map_eq_some_iff.mp hvalue
    obtain ⟨hne, hall, rfl⟩ := digitsValue_eq_some hnumber
    rw [trim_of_digits hall, parseU64_of_digits hne hall] at hcount
    split at hcount
    · rw [Option.some.inj hcount]
    · cases hcount

theorem inInt64_eq_some {value limit : Int} (h : inInt64 value = some limit) : limit = value := by
  unfold inInt64 at h
  split at h
  · exact (Option.some.inj h).symm
  · cases h

/-- What both sides read, they read alike. -/
theorem readInt64_of_parsePositiveU64 {value : Json} {count : Nat} {limit : Int}
    (hcount : parsePositiveU64 value = some count) (hlimit : readInt64 value = some limit) :
    limit = count := by
  cases value with
  | number number =>
      cases number with
      | posInt n =>
          rw [inInt64_eq_some hlimit]
          have hread :
              (Json.number (.posInt n)).asU64.filter (fun raw => 0 < raw) = some count := by
            simpa [parsePositiveU64, Json.asStr] using hcount
          obtain ⟨hsome, -⟩ := Option.filter_eq_some_iff.mp hread
          have hvalue : (if n ≤ usizeMax then some n else none) = some count := hsome
          split at hvalue
          · rw [Option.some.inj hvalue]
          · cases hvalue
      | negInt m => cases hcount
      | float written => cases hcount
  | string raw =>
      have hparsed : (parseU64 (Text.trim raw)).filter (fun value => 0 < value) = some count := by
        simpa [parsePositiveU64, Json.asStr, Json.asU64] using hcount
      obtain ⟨hparsed, -⟩ := Option.filter_eq_some_iff.mp hparsed
      obtain ⟨number, hnumber, hrange⟩ := Option.bind_eq_some_iff.mp hlimit
      rw [inInt64_eq_some hrange]
      exact decimalInteger_of_parseU64 hnumber hparsed
  | _ => cases hlimit

/-- A limit that is counted is read as it is counted, if it can be read. -/
theorem LimitCounted.read {fields : JsonMap} (h : LimitCounted fields) (hsorted : fields.Sorted)
    {limit : Int} (hlimit : declaredLimit (.object fields) = some limit) :
    limit = countedLimit fields := by
  rw [declaredLimit] at hlimit
  cases hspelled : lastSpelled fields (text "limit") with
  | none =>
      have hget : JsonMap.get fields (text "limit") = none := by
        refine Option.eq_none_iff_forall_ne_some.mpr fun value hvalue => ?_
        obtain ⟨last, hlast⟩ : ∃ last, lastSpelled fields (text "limit") = some last :=
          lastSpelled_isSome (JsonMap.mem_of_get hvalue) rfl
        rw [hspelled] at hlast
        cases hlast
      rw [hspelled] at hlimit
      rw [countedLimit, hget]
      exact (Option.some.inj hlimit).symm
  | some field =>
      obtain ⟨hkey, hvalue⟩ := h field hspelled
      have hget := hsorted.get_of_mem (mem_of_lastSpelled hspelled)
      rw [hkey] at hget
      rw [hspelled] at hlimit
      rw [countedLimit, hget]
      rcases hvalue with hnull | hsome
      · rw [hnull]
        rw [Option.map_some, hnull] at hlimit
        exact (Option.some.inj hlimit).symm
      · obtain ⟨count, hcount⟩ := Option.isSome_iff_exists.mp hsome
        have hread : readInt64 field.2 = some limit := by
          rw [← hlimit]
          cases hvalue : field.2 with
          | null => rw [hvalue] at hcount; cases hcount
          | _ => simp only [Option.map_some, hvalue, readLimit]
        rw [Option.bind_some, hcount]
        exact readInt64_of_parsePositiveU64 hcount hread

/-! ## Posts -/

theorem PivotAccepted.isObject {dimensions : List Text} {pivot : Json} {count : Nat}
    (h : PivotAccepted dimensions pivot count) : ∃ fields, pivot = .object fields :=
  h.imp fun _ hfields => hfields.1

theorem exists_accepted {dimensions : List Text} {pivots : List Json} {counts : List Nat}
    (h : List.Forall₂ (PivotAccepted dimensions) pivots counts) {pivot : Json}
    (hpivot : pivot ∈ pivots) : ∃ count, PivotAccepted dimensions pivot count := by
  induction h with
  | nil => cases hpivot
  | cons haccepted _ ih =>
      rcases List.mem_cons.mp hpivot with rfl | hpivot
      · exact ⟨_, haccepted⟩
      · exact ih hpivot

/-- The limits that are posted are those that are declared. -/
theorem posted_limits_iff {dimensions : List Text} {pivots : List Json} {counts : List Nat}
    (h : List.Forall₂ (PivotAccepted dimensions) pivots counts) (limits : List Int) :
    List.Forall₂ (fun pivot limit => readLimit (pivot.get (text "limit")) = some limit)
        (pivots.map Json.snakeToCamelJson) limits ↔
      List.Forall₂ (fun pivot limit => declaredLimit pivot = some limit) pivots limits := by
  rw [List.forall₂_map_left_iff]
  induction h generalizing limits with
  | nil => rw [List.forall₂_nil_left_iff, List.forall₂_nil_left_iff]
  | cons haccepted _ ih =>
      obtain ⟨fields, rfl⟩ := haccepted.isObject
      rw [List.forall₂_cons_left_iff, List.forall₂_cons_left_iff]
      simp only [readLimit_posted, ih]

/-- Counted limits are read as they are counted. -/
theorem limits_eq_counts {dimensions : List Text} {pivots : List Json} {counts : List Nat}
    (h : List.Forall₂ (PivotAccepted dimensions) pivots counts)
    (hvalid : ∀ pivot ∈ pivots, pivot.Valid)
    (hcounted : ∀ fields, .object fields ∈ pivots → LimitCounted fields) {limits : List Int}
    (hlimits : List.Forall₂ (fun pivot limit => declaredLimit pivot = some limit) pivots limits) :
    limits = counts.map fun count : Nat => (count : Int) := by
  induction h generalizing limits with
  | nil => exact List.forall₂_nil_left_iff.mp hlimits
  | cons haccepted _ ih =>
      obtain ⟨limit, limits', hlimit, hrest, rfl⟩ := List.forall₂_cons_left_iff.mp hlimits
      obtain ⟨fields, rfl, rfl, -⟩ := haccepted
      have hsorted := (Json.valid_object.mp (hvalid _ List.mem_cons_self)).1
      rw [List.map_cons, (hcounted fields List.mem_cons_self).read hsorted hlimit,
        ih (fun pivot hpivot => hvalid pivot (List.mem_cons_of_mem _ hpivot))
          (fun fields hfields => hcounted fields (List.mem_cons_of_mem _ hfields)) hrest]

theorem get_pivots (request : RunPivotReportRequest) :
    JsonMap.get (buildRunPivotReportPayload request) (text "pivots") =
      some (camelArray request.pivots) := by
  simp +decide [buildRunPivotReportPayload]

/-- **Accepted pivots** are posted as they were checked exactly when they are plain. -/
theorem pivotsAsChecked_iff (request : RunPivotReportRequest)
    (hvalid : ∀ pivot ∈ request.pivots, pivot.Valid)
    (h : validatePivots request.pivots request.dimensions = .ok ()) :
    (∃ posted ∈ JsonMap.get (buildRunPivotReportPayload request) (text "pivots"),
        PivotsAsChecked request.dimensions posted) ↔
      PivotsPlain request.dimensions request.pivots := by
  obtain ⟨counts, hcounts, hproduct⟩ := validatePivots_ok h
  have hnames : ∀ fields, .object fields ∈ request.pivots →
      ((∃ value ∈ (Json.snakeToCamelJson (.object fields)).get (text "fieldNames"),
        RequestedNames request.dimensions value) ↔ NamesChecked request.dimensions fields) := by
    intro fields hfields
    obtain ⟨count, haccepted⟩ := exists_accepted hcounts hfields
    exact haccepted.names_posted_iff (Json.valid_object.mp (hvalid _ hfields)).1
  rw [get_pivots]
  constructor
  · rintro ⟨posted, hposted, pivots, rfl, hposts, hlimits⟩
    obtain rfl := Json.array.inj (Option.some.inj hposted)
    refine ⟨fun fields hfields => ?_, .inr fun limits hdeclared => ?_⟩
    · exact (hnames fields hfields).mp (hposts _ (List.mem_map_of_mem hfields))
    · exact hlimits limits ((posted_limits_iff hcounts limits).mpr hdeclared)
  · intro hplain
    refine ⟨_, rfl, _, rfl, fun posted hposted => ?_, fun limits hlimits => ?_⟩
    · obtain ⟨pivot, hpivot, rfl⟩ := List.mem_map.mp hposted
      obtain ⟨count, haccepted⟩ := exists_accepted hcounts hpivot
      obtain ⟨fields, rfl⟩ := haccepted.isObject
      exact (hnames fields hpivot).mpr (hplain.names fields hpivot)
    · have hdeclared := (posted_limits_iff hcounts limits).mp hlimits
      rcases hplain.limits with hcounted | hbound
      · rw [limits_eq_counts hcounts hvalid hcounted hdeclared, ← Nat.cast_list_prod]
        exact_mod_cast hproduct
      · exact hbound limits hdeclared

/-- A report with one pivot over `country`; `extra` is a field more. -/
def pivotRequest (extra : Text × Json) : RunPivotReportRequest where
  dateRanges := []
  dimensions := [text "country"]
  metrics := []
  dimensionFilter := none
  metricFilter := none
  orderBys := none
  propertyId := .number 7
  pivots := [.object [(text "field_names", .ofTexts [text "country"]), extra]]
  currencyCode := none
  keepEmptyRows := false
  returnPropertyQuota := false

theorem pivotRequest_valid {extra : Text × Json} (hkey : text "field_names" < extra.1)
    (hvalue : extra.2.Valid) : ∀ pivot ∈ (pivotRequest extra).pivots, pivot.Valid := by
  intro pivot hpivot
  obtain rfl := List.mem_singleton.mp hpivot
  refine Json.valid_object.mpr ⟨List.pairwise_pair.mpr hkey, List.forall_mem_cons.mpr ⟨?_, ?_⟩⟩
  · exact Json.valid_array.mpr (by simp [Json.Valid])
  · exact List.forall_mem_cons.mpr ⟨hvalue, by simp⟩

/-- A limit of 50 in the form of a text, which is counted and read as 50. -/
theorem pivotsAsChecked_iff_limit :
    (pivotRequest (text "limit", .string (text "50"))).pivots.map declaredLimit = [some 50] ∧
      ∃ posted ∈ JsonMap.get
        (buildRunPivotReportPayload (pivotRequest (text "limit", .string (text "50"))))
        (text "pivots"), PivotsAsChecked [text "country"] posted := by
  let fields := [(text "field_names", Json.ofTexts [text "country"]),
    (text "limit", .string (text "50"))]
  have hlast : lastSpelled fields (text "fieldNames") =
      some (text "field_names", .ofTexts [text "country"]) := by rfl
  have hlimit : lastSpelled fields (text "limit") = some (text "limit", .string (text "50")) := by
    rfl
  have hdeclared : declaredLimit (.object fields) = some 50 := by
    have hvalue : readInt64 (.string (text "50")) = some 50 := by decide
    rw [declaredLimit, hlimit]
    exact hvalue
  refine ⟨congrArg (· :: []) hdeclared,
    (pivotsAsChecked_iff (pivotRequest (text "limit", .string (text "50")))
      (pivotRequest_valid (by decide) trivial) (by rfl)).mpr ⟨fun found hfound => ?_, .inl ?_⟩⟩
  · obtain rfl := Json.object.inj (List.mem_singleton.mp hfound)
    intro field hfield
    obtain rfl := Option.some.inj (hlast.symm.trans hfield)
    exact .inl rfl
  · intro found hfound
    obtain rfl := Json.object.inj (List.mem_singleton.mp hfound)
    intro field hfield
    obtain rfl := Option.some.inj (hlimit.symm.trans hfield)
    exact ⟨rfl, .inr (by rfl)⟩

/-- A limit in the form of a float is counted as 10 and posted as it is; and a key that becomes
    `fieldNames` comes after the one that is checked. -/
theorem not_pivotsAsChecked :
    (validatePivots (pivotRequest (text "limit", .number (.float (text "1000000.0")))).pivots
        [text "country"] = .ok () ∧
      ¬ ∃ posted ∈ JsonMap.get (buildRunPivotReportPayload
          (pivotRequest (text "limit", .number (.float (text "1000000.0"))))) (text "pivots"),
        PivotsAsChecked [text "country"] posted) ∧
    (validatePivots (pivotRequest (text "field_names_", .ofTexts [text "city"])).pivots
        [text "country"] = .ok () ∧
      ¬ ∃ posted ∈ JsonMap.get (buildRunPivotReportPayload
          (pivotRequest (text "field_names_", .ofTexts [text "city"]))) (text "pivots"),
        PivotsAsChecked [text "country"] posted) := by
  refine ⟨⟨by rfl, ?_⟩, ⟨by rfl, ?_⟩⟩
  · rintro ⟨posted, hposted, pivots, rfl, -, hlimits⟩
    rw [get_pivots] at hposted
    obtain rfl := Json.array.inj (Option.some.inj hposted)
    let fields := [(text "field_names", Json.ofTexts [text "country"]),
      (text "limit", .number (.float (text "1000000.0")))]
    have hlimit : lastSpelled fields (text "limit") =
        some (text "limit", .number (.float (text "1000000.0"))) := by rfl
    have hvalue : readInt64 (.number (.float (text "1000000.0"))) = some 1000000 := by decide
    have hread : readLimit ((Json.snakeToCamelJson (.object fields)).get (text "limit")) =
        some 1000000 := by
      rw [readLimit_posted, declaredLimit, hlimit]
      exact hvalue
    exact absurd (hlimits [1000000] (.cons hread .nil)) (by simp)
  · rintro ⟨posted, hposted, pivots, rfl, hnames, -⟩
    rw [get_pivots] at hposted
    obtain rfl := Json.array.inj (Option.some.inj hposted)
    obtain ⟨value, hvalue, hrequested⟩ := hnames _ List.mem_cons_self
    have hposted : (Json.snakeToCamelJson (.object
        [(text "field_names", Json.ofTexts [text "country"]),
          (text "field_names_", .ofTexts [text "city"])])).get (text "fieldNames") =
        some (.ofTexts [text "city"]) := by rfl
    rw [← Option.some.inj (hposted.symm.trans hvalue)] at hrequested
    obtain ⟨name, hname, hmem⟩ := requestedNames_array.mp hrequested _ List.mem_cons_self
    obtain rfl := Json.string.inj hname
    exact absurd hmem (by decide)

end Ga4Mcp.Tools
