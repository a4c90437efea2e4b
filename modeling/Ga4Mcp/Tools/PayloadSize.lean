/-
  The size of a provider payload, of `src/tools.rs` and `src/ga_client.rs`.

  A JSON object is as long as its fields together (`JsonMap.weight`), in whatever order they
  are inserted (`weight_insert`). So the payload of a conversions report grows with its
  dimension filter and with the digits of its offset (`payloadSize_eq`), and the offset is
  all that changes from page to page.
-/
import Ga4Mcp.Tools.Reports

namespace Ga4Mcp.Tools

open Ga4Mcp.Lib

theorem len_append (a b : Text) : Text.len (a ++ b) = Text.len a + Text.len b := by
  unfold Text.len
  rw [Text.utf8_append, List.length_append]

/-! ## The weight of a map -/

namespace JsonMap

/-- The bytes of a field, with its colon and a comma. -/
def fieldWeight (field : Text × Json) : Nat :=
  Text.len (Json.renderString field.1) + Text.len field.2.render + 2

/-- The bytes of the fields. -/
def weight (fields : JsonMap) : Nat := (fields.map fieldWeight).sum

theorem weight_cons (field : Text × Json) (fields : JsonMap) :
    weight (field :: fields) = fieldWeight field + weight fields := by
  rw [weight, List.map_cons, List.sum_cons, ← weight]

/-- A new field adds its weight. -/
theorem weight_insert {key : Text} {fields : JsonMap} (h : get fields key = none) (value : Json) :
    weight (insert key value fields) = fieldWeight (key, value) + weight fields := by
  induction fields with
  | nil => exact weight_cons _ _
  | cons field fields ih =>
      have hne : field.1 ≠ key := by
        rintro rfl
        simp [get] at h
      have hrest : get fields key = none := by
        unfold get at h ⊢
        rwa [List.find?_cons_of_neg (by simpa using hne)] at h
      rw [insert, if_neg (Ne.symm hne)]
      split
      · exact weight_cons _ _
      · rw [weight_cons, weight_cons, ih hrest]
        omega

theorem weight_insertSome {key : Text} {fields : JsonMap} (h : get fields key = none)
    (value : Option Json) :
    weight (insertSome key value fields) =
      (value.elim 0 fun value => fieldWeight (key, value)) + weight fields := by
  cases value with
  | none => exact (Nat.zero_add _).symm
  | some value => exact weight_insert h value

end JsonMap

theorem len_renderFields (field : Text × Json) (fields : JsonMap) :
    Text.len (Json.renderFields (field :: fields)) + 1 = JsonMap.weight (field :: fields) := by
  have hcolon : Text.len [':'] = 1 := rfl
  have hcomma : Text.len [','] = 1 := rfl
  induction fields generalizing field with
  | nil =>
      rw [Json.renderFields, len_append, len_append, hcolon, JsonMap.weight_cons,
        JsonMap.fieldWeight]
      have hnil : JsonMap.weight [] = 0 := rfl
      omega
  | cons next fields ih =>
      have htail := ih next
      have hrender : Json.renderFields (field :: next :: fields) = Json.renderString field.1 ++
          [':'] ++ field.2.render ++ [','] ++ Json.renderFields (next :: fields) :=
        Json.renderFields.eq_3 _ _ _ (List.cons_ne_nil _ _)
      rw [hrender, len_append, len_append, len_append, len_append, hcolon, hcomma,
        JsonMap.weight_cons, JsonMap.fieldWeight]
      omega

theorem len_render_object {fields : JsonMap} (h : fields ≠ []) :
    Text.len (Json.render (.object fields)) = JsonMap.weight fields + 1 := by
  obtain ⟨field, fields, rfl⟩ := List.exists_cons_of_ne_nil h
  have hopen : Text.len ['{'] = 1 := rfl
  have hclose : Text.len ['}'] = 1 := rfl
  have hfields := len_renderFields field fields
  rw [Json.render, len_append, len_append]
  omega

/-- Letters and digits are written as they are. -/
theorem len_renderString {t : Text} (h : ∀ c ∈ t, c.isAlphanum) :
    Text.len (Json.renderString t) = Text.len t + 2 := by
  have hescape : t.flatMap Json.escapeChar = t := by
    have hsingle : ∀ c ∈ t, Json.escapeChar c = [c] := by
      intro c hc
      refine Text.forall_char_lt (p := fun c => c.isAlphanum → Json.escapeChar c = [c]) 123 ?_ c
        (Text.toNat_lt_of_isAlphanum (h c hc)) (h c hc)
      decide +kernel
    rw [List.flatMap_congr hsingle, List.flatMap_singleton']
  have hquote : Text.len ['"'] = 1 := rfl
  rw [Json.renderString, hescape, len_append, len_append, hquote]
  omega

/-! ## The payload of a conversions report -/

/-- The weight of a field that may be missing. -/
def optionalWeight (key : String) (value : Option Json) : Nat :=
  value.elim 0 fun value => JsonMap.fieldWeight (text key, value)

/-- The fields of the payload have different keys. -/
theorem weight_conversionsPayload (request : RunConversionsReportRequest) :
    JsonMap.weight (buildRunConversionsReportPayload request) =
      JsonMap.fieldWeight (text "conversionSpec", request.conversionSpec.snakeToCamelJson) +
      (optionalWeight "currencyCode" (request.currencyCode.map trimmedString) +
      (optionalWeight "offset" (request.offset.map decimalString) +
      (optionalWeight "limit" (request.limit.map decimalString) +
      (optionalWeight "orderBys" (request.orderBys.map camelArray) +
      (optionalWeight "metricFilter" (request.metricFilter.map .snakeToCamelJson) +
      (optionalWeight "dimensionFilter" (request.dimensionFilter.map .snakeToCamelJson) +
      (JsonMap.fieldWeight (text "returnPropertyQuota", .bool request.returnPropertyQuota) +
      (JsonMap.fieldWeight (text "dateRanges", camelArray request.dateRanges) +
      (JsonMap.fieldWeight (text "metrics", .array (asNamedEntries request.metrics)) +
      (JsonMap.fieldWeight (text "dimensions", .array (asNamedEntries request.dimensions)) +
      JsonMap.weight [])))))))))) := by
  unfold buildRunConversionsReportPayload buildRunReportPayload optionalWeight
  rw [JsonMap.weight_insert, JsonMap.weight_insertSome, JsonMap.weight_insertSome,
    JsonMap.weight_insertSome, JsonMap.weight_insertSome, JsonMap.weight_insertSome,
    JsonMap.weight_insertSome, JsonMap.weight_insert, JsonMap.weight_insert,
    JsonMap.weight_insert, JsonMap.weight_insert]
  all_goals simp +decide

/-- The size in terms of what changes: the offset, and the dimension filter. -/
theorem payloadSize_eq (args : RunConversionsReportArgs) (limit : Nat) (filter : Option Json)
    (offset : Nat) :
    Text.len (normalizedConversionsProviderBoundaryPayload
        { args with dimensionFilter := filter } limit offset).render + 1 =
      Text.len (normalizedConversionsProviderBoundaryPayload
        { args with dimensionFilter := none } limit 0).render +
      optionalWeight "dimensionFilter" (filter.map .snakeToCamelJson) +
      Text.len (Text.decimal offset) := by
  have hsize : ∀ filter offset, Text.len (normalizedConversionsProviderBoundaryPayload
      { args with dimensionFilter := filter } limit offset).render =
        JsonMap.weight (buildRunConversionsReportPayload (buildConversionsReportRequest
          { args with dimensionFilter := filter } limit offset)) + 1 := by
    intro filter offset
    refine len_render_object fun hnil => ?_
    have hget : JsonMap.get (buildRunConversionsReportPayload (buildConversionsReportRequest
        { args with dimensionFilter := filter } limit offset)) (text "conversionSpec") ≠ none := by
      unfold buildRunConversionsReportPayload
      simp
    rw [hnil] at hget
    exact hget rfl
  have hoffset : ∀ offset, optionalWeight "offset" ((some offset).map decimalString) =
      JsonMap.fieldWeight (text "offset", .string []) + Text.len (Text.decimal offset) := by
    intro offset
    have hdigits : ∀ c ∈ Text.decimal offset, c.isAlphanum := by
      intro c hc
      rw [Char.isAlphanum, Text.isDigit_of_mem_decimal hc, Bool.or_true]
    have hstring : Text.len (Json.render (.string (Text.decimal offset))) =
        Text.len (Text.decimal offset) + 2 := by
      rw [Json.render]
      exact len_renderString hdigits
    have hempty : Text.len (Json.render (.string [])) = 2 := by decide
    change JsonMap.fieldWeight (text "offset", .string (Text.decimal offset)) = _
    unfold JsonMap.fieldWeight
    dsimp only
    omega
  rw [hsize, hsize, weight_conversionsPayload, weight_conversionsPayload]
  unfold buildConversionsReportRequest BatchRunReportItemArgs.toRequest
  dsimp only
  rw [hoffset, hoffset]
  have hzero : Text.len (Text.decimal 0) = 1 := by decide
  have hnone : optionalWeight "dimensionFilter" ((none : Option Json).map .snakeToCamelJson) = 0 :=
    rfl
  omega

theorem checkConversionsPayload_eq_ok {args : RunConversionsReportArgs} {limit offset : Nat} :
    checkConversionsPayload args limit offset = .ok () ↔
      Text.len (normalizedConversionsProviderBoundaryPayload args limit offset).render ≤
        maxProviderBoundaryJsonBytes :=
  refuseIf_eq_ok.trans Nat.not_lt

/-- No offset makes a smaller payload than zero. -/
theorem checkConversionsPayload_zero {args : RunConversionsReportArgs} {limit offset : Nat}
    (h : checkConversionsPayload args limit offset = .ok ()) :
    checkConversionsPayload args limit 0 = .ok () := by
  rw [checkConversionsPayload_eq_ok] at h ⊢
  have hsize : ∀ offset,
      Text.len (normalizedConversionsProviderBoundaryPayload args limit offset).render + 1 = _ :=
    payloadSize_eq args limit args.dimensionFilter
  have hoffset := hsize offset
  have hstart := hsize 0
  have hzero : Text.len (Text.decimal 0) = 1 := by decide
  have hpos : 0 < Text.len (Text.decimal offset) :=
    Text.len_pos (List.ne_nil_of_length_pos Nat.length_toDigits_pos)
  omega

end Ga4Mcp.Tools
