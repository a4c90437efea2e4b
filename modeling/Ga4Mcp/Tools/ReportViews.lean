/-
  What a report asks the upstream for, and what its payload and its signature tell of it.

  * `ReportCall.signature_valid`: a signature of received arguments is a value as `serde_json`
    holds it.
  * `withoutWindow_buildRunReportPayload`, `ReportView.payload_injective`: apart from the
    window, a payload is what is asked for, written out.
  * `conversionsPayload_inj`, `conversionsSignature_inj`: the same of the conversions report,
    and of its signature with converted keys.
-/
import Ga4Mcp.Tools.QuerySignatures

namespace Ga4Mcp.Tools

open Ga4Mcp.Lib

/-! ## Received arguments -/

/-- The fields as deserialization hands them over: JSON values, and filters that were read by
    the two deserializers. -/
structure ReportFields.Received (parse : Text → Except Text Json) (fields : ReportFields) :
    Prop where
  dateRanges : ∀ value ∈ fields.dateRanges, value.Valid
  dimensionFilter : ∃ value,
    deserializeOptionalDimensionFilter parse value = .ok fields.dimensionFilter
  metricFilter : ∃ value, deserializeOptionalMetricFilter parse value = .ok fields.metricFilter
  validDimensionFilter : ∀ filter ∈ fields.dimensionFilter, filter.Valid
  validMetricFilter : ∀ filter ∈ fields.metricFilter, filter.Valid
  orderBys : ∀ values ∈ fields.orderBys, ∀ value ∈ values, value.Valid

/-- The arguments are ones that deserialization lets through. -/
def ReportCall.Received (parse : Text → Except Text Json) : ReportCall → Prop
  | report args => args.toReportFields.Received parse
  | conversions args => args.toReportFields.Received parse
  | pivot args => args.toReportFields.Received parse ∧ ∀ pivot ∈ args.pivots, pivot.Valid
  | propertyAccess args => args.toReportFields.Received parse
  | accountAccess args => args.toReportFields.Received parse
  | batchItem _ _ args => args.toReportFields.Received parse

section

variable {parse : Text → Except Text Json} {fields : ReportFields}

theorem ReportFields.Received.dimensionFilter_isObject (h : fields.Received parse) :
    ∀ filter ∈ fields.dimensionFilter, filter.isObject = true := by
  intro filter hfilter
  obtain ⟨value, hvalue⟩ := h.dimensionFilter
  rw [hfilter] at hvalue
  exact normalizeOptionalFilter_isObject hvalue

theorem ReportFields.Received.metricFilter_isObject (h : fields.Received parse) :
    ∀ filter ∈ fields.metricFilter, filter.isObject = true := by
  intro filter hfilter
  obtain ⟨value, hvalue⟩ := h.metricFilter
  rw [hfilter] at hvalue
  exact normalizeOptionalFilter_isObject hvalue

end

/-! ## Valid signatures -/

namespace Json

theorem valid_ofTexts (values : List Text) : Valid (ofTexts values) := by
  refine valid_array.mpr fun value hvalue => ?_
  obtain ⟨t, -, rfl⟩ := List.mem_map.mp hvalue
  trivial

theorem valid_ofOption {value : Option Json} (h : ∀ v ∈ value, Valid v) :
    Valid (ofOption value) := by
  cases value with
  | none => trivial
  | some v => exact h v rfl

theorem valid_optionalText (value : Option Text) : Valid (optionalText value) := by
  refine valid_ofOption fun v hv => ?_
  obtain ⟨t, -, rfl⟩ := Option.map_eq_some_iff.mp hv
  trivial

end Json

theorem ReportFields.signature_valid {parse : Text → Except Text Json} {fields : ReportFields}
    (h : fields.Received parse) (dimensions metrics : List Text) :
    ∀ field ∈ ReportFields.signature { fields with dimensions := dimensions, metrics := metrics },
      field.2.Valid := by
  have horder : ∀ v ∈ fields.orderBys.map Json.array, v.Valid := by
    intro v hv
    obtain ⟨values, hvalues, rfl⟩ := Option.map_eq_some_iff.mp hv
    exact Json.valid_array.mpr (h.orderBys values hvalues)
  simp only [ReportFields.signature, List.forall_mem_cons]
  exact ⟨Json.valid_array.mpr h.dateRanges, Json.valid_ofTexts _, Json.valid_ofTexts _,
    Json.valid_ofOption h.validDimensionFilter, Json.valid_ofOption h.validMetricFilter,
    Json.valid_ofOption horder, by simp⟩

theorem ConversionSpecArgs.toJson_valid (spec : ConversionSpecArgs) : spec.toJson.Valid := by
  refine Json.valid_ofFields ?_
  simp only [List.forall_mem_cons]
  exact ⟨Json.valid_ofTexts _, Json.valid_optionalText _, by simp⟩

theorem ReportCall.signature_valid {parse : Text → Except Text Json} {call : ReportCall}
    (h : call.Received parse) {signature : Json} (hsignature : call.signature = .ok signature) :
    signature.Valid := by
  cases call with
  | report args =>
      obtain ⟨property, -, rfl⟩ := map_eq_ok.mp hsignature
      refine Json.valid_ofFields ?_
      simp only [RunReportArgs.signature, List.forall_mem_append, List.forall_mem_cons]
      exact ⟨⟨⟨trivial, trivial, by simp⟩, ReportFields.signature_valid h _ _⟩,
        Json.valid_optionalText _, trivial, by simp⟩
  | conversions args =>
      obtain ⟨property, -, rfl⟩ := map_eq_ok.mp hsignature
      refine Json.valid_snakeToCamelJson _ (Json.valid_ofFields ?_)
      simp only [RunConversionsReportArgs.signature, List.forall_mem_append, List.forall_mem_cons]
      exact ⟨⟨⟨trivial, trivial, by simp⟩, ReportFields.signature_valid h _ _⟩,
        args.conversionSpec.toJson_valid, Json.valid_optionalText _, trivial, by simp⟩
  | pivot args =>
      obtain ⟨property, -, rfl⟩ := map_eq_ok.mp hsignature
      refine Json.valid_ofFields ?_
      simp only [RunPivotReportArgs.signature, List.forall_mem_append, List.forall_mem_cons]
      exact ⟨⟨⟨trivial, trivial, by simp⟩, ReportFields.signature_valid h.1 _ _⟩,
        Json.valid_array.mpr h.2, Json.valid_optionalText _, trivial, trivial, by simp⟩
  | propertyAccess args =>
      obtain ⟨property, -, rfl⟩ := map_eq_ok.mp hsignature
      refine Json.valid_ofFields ?_
      simp only [RunAccessReportArgs.signature, List.forall_mem_append, List.forall_mem_cons]
      exact ⟨⟨⟨trivial, trivial, by simp⟩, ReportFields.signature_valid h _ _⟩,
        Json.valid_optionalText _, by simp⟩
  | accountAccess args =>
      obtain ⟨account, -, rfl⟩ := map_eq_ok.mp hsignature
      refine Json.valid_ofFields ?_
      simp only [RunAccessReportArgs.signature, List.forall_mem_append, List.forall_mem_cons]
      exact ⟨⟨⟨trivial, trivial, by simp⟩, ReportFields.signature_valid h _ _⟩,
        Json.valid_optionalText _, by simp⟩
  | batchItem propertyId index args =>
      obtain ⟨property, -, rfl⟩ := map_eq_ok.mp hsignature
      refine Json.valid_ofFields ?_
      simp only [BatchRunReportItemArgs.signature, List.forall_mem_append, List.forall_mem_cons]
      exact ⟨⟨⟨trivial, trivial, trivial, by simp⟩, ReportFields.signature_valid h _ _⟩,
        Json.valid_optionalText _, trivial, by simp⟩

/-! ## What is asked for -/

/-- What a report asks the upstream for, apart from the window. -/
@[ext]
structure ReportView where
  dateRanges : Json
  dimensions : List Text
  metrics : List Text
  dimensionFilter : Option Json
  metricFilter : Option Json
  orderBys : Option Json
  currencyCode : Option Text
  returnPropertyQuota : Bool

/-- What the service is asked, of a request. -/
def BatchRunReportItemRequest.view (request : BatchRunReportItemRequest) : ReportView where
  dateRanges := camelArray request.dateRanges
  dimensions := request.dimensions.map Text.trim
  metrics := request.metrics.map Text.trim
  dimensionFilter := request.dimensionFilter.map .snakeToCamelJson
  metricFilter := request.metricFilter.map .snakeToCamelJson
  orderBys := request.orderBys.map camelArray
  currencyCode := request.currencyCode.map Text.trim
  returnPropertyQuota := request.returnPropertyQuota

/-- `{"name": …}` for each name, as it is. -/
def namedEntries (names : List Text) : Json :=
  .array (names.map fun name => .ofFields [("name", .string name)])

/-- The body that asks for the view. -/
def ReportView.payload (view : ReportView) : JsonMap :=
  []
  |> JsonMap.insert (text "dimensions") (namedEntries view.dimensions)
  |> JsonMap.insert (text "metrics") (namedEntries view.metrics)
  |> JsonMap.insert (text "dateRanges") view.dateRanges
  |> JsonMap.insert (text "returnPropertyQuota") (.bool view.returnPropertyQuota)
  |> JsonMap.insertSome (text "dimensionFilter") view.dimensionFilter
  |> JsonMap.insertSome (text "metricFilter") view.metricFilter
  |> JsonMap.insertSome (text "orderBys") view.orderBys
  |> JsonMap.insertSome (text "currencyCode") (view.currencyCode.map .string)

theorem text_inj {a b : String} : text a = text b ↔ a = b := text_injective.eq_iff

/-- A payload without its window. -/
def withoutWindow (payload : JsonMap) : JsonMap :=
  JsonMap.remove (text "limit") (JsonMap.remove (text "offset") payload)

theorem asNamedEntries_eq (names : List Text) :
    Json.array (asNamedEntries names) = namedEntries (names.map Text.trim) := by
  rw [asNamedEntries, namedEntries, List.map_map]
  rfl

theorem buildRunReportPayload_sorted (request : BatchRunReportItemRequest) :
    (buildRunReportPayload request).Sorted := by
  unfold buildRunReportPayload
  repeat' first
    | apply JsonMap.insertSome_sorted
    | apply JsonMap.insert_sorted
    | exact List.Pairwise.nil

theorem ReportView.payload_sorted (view : ReportView) : view.payload.Sorted := by
  unfold ReportView.payload
  repeat' first
    | apply JsonMap.insertSome_sorted
    | apply JsonMap.insert_sorted
    | exact List.Pairwise.nil

theorem withoutWindow_sorted {payload : JsonMap} (h : payload.Sorted) :
    (withoutWindow payload).Sorted :=
  JsonMap.remove_sorted _ (JsonMap.remove_sorted _ h)

theorem withoutWindow_buildRunReportPayload (request : BatchRunReportItemRequest) :
    withoutWindow (buildRunReportPayload request) = request.view.payload := by
  refine (withoutWindow_sorted (buildRunReportPayload_sorted request)).ext
    request.view.payload_sorted fun key => ?_
  have hcurrency : request.currencyCode.map trimmedString =
      (request.currencyCode.map Text.trim).map .string := (Option.map_map ..).symm
  simp only [withoutWindow, buildRunReportPayload, ReportView.payload,
    BatchRunReportItemRequest.view, JsonMap.get_remove, JsonMap.get_insertSome,
    JsonMap.get_insert, JsonMap.get_nil, asNamedEntries_eq, hcurrency]
  by_cases hlimit : text "limit" = key
  · subst hlimit
    simp [text_inj]
  · by_cases hoffset : text "offset" = key
    · subst hoffset
      simp [text_inj]
    · simp only [if_neg hlimit, if_neg hoffset]

/-! ## What a payload tells -/

theorem namedEntries_injective : Function.Injective namedEntries := by
  intro names others h
  refine List.map_injective_iff.mpr (fun a b hab => ?_) (Json.array.inj h)
  have hfields : [("name", Json.string a)] = [("name", Json.string b)] :=
    Json.ofFields_inj rfl (List.nodup_singleton "name") hab
  exact Json.string.inj (Prod.mk.inj (List.cons.inj hfields).1).2

theorem ReportView.payload_injective : Function.Injective ReportView.payload := by
  intro view other h
  have hget := fun key => congrArg (JsonMap.get · (text key)) h
  have hdimensions := hget "dimensions"
  have hmetrics := hget "metrics"
  have hdateRanges := hget "dateRanges"
  have hquota := hget "returnPropertyQuota"
  have hdimensionFilter := hget "dimensionFilter"
  have hmetricFilter := hget "metricFilter"
  have horderBys := hget "orderBys"
  have hcurrency := hget "currencyCode"
  simp only [payload, JsonMap.get_insertSome, JsonMap.get_insert, JsonMap.get_nil, text_inj,
    String.reduceEq, if_true, if_false, Option.or_none, Option.some.injEq, Json.bool.injEq]
    at hdimensions hmetrics hdateRanges hquota hdimensionFilter hmetricFilter horderBys hcurrency
  have hcode : view.currencyCode = other.currencyCode :=
    Option.map_injective (fun a b hab => Json.string.inj hab) hcurrency
  exact ReportView.ext hdateRanges (namedEntries_injective hdimensions)
    (namedEntries_injective hmetrics) hdimensionFilter hmetricFilter horderBys hcode hquota

/-! ## Conversions -/

/-- What the service is asked, of the arguments. -/
def BatchRunReportItemArgs.view (args : BatchRunReportItemArgs) : ReportView :=
  (args.toRequest 0 0).view

/-- The `conversion_spec` of a request. -/
def requestSpec (spec : ConversionSpecArgs) : Json :=
  .object (
    JsonMap.insert (text "conversion_actions") (.ofTexts spec.conversionActions) []
    |> JsonMap.insertSome (text "attribution_model")
      (spec.attributionModel.map fun model => .string model.asStr))

/-- The body of a conversions report that asks for the view. -/
def conversionsPayload (view : ReportView) (spec : ConversionSpecArgs) : JsonMap :=
  JsonMap.insert (text "conversionSpec") (requestSpec spec).snakeToCamelJson view.payload

theorem withoutWindow_conversions (args : RunConversionsReportArgs) (offset limit : Nat) :
    withoutWindow (buildRunConversionsReportPayload
        (buildConversionsReportRequest args limit offset)) =
      conversionsPayload args.view args.conversionSpec := by
  let request := args.toBatchRunReportItemArgs.toRequest offset limit
  have hsorted := buildRunReportPayload_sorted request
  have hview : withoutWindow (buildRunReportPayload request) = args.view.payload :=
    withoutWindow_buildRunReportPayload request
  change JsonMap.remove _ (JsonMap.remove _ (JsonMap.insert (text "conversionSpec")
    (requestSpec args.conversionSpec).snakeToCamelJson (buildRunReportPayload request))) = _
  rw [JsonMap.remove_insert (by rw [ne_eq, text_inj]; decide) _ hsorted,
    JsonMap.remove_insert (by rw [ne_eq, text_inj]; decide) _ (JsonMap.remove_sorted _ hsorted),
    conversionsPayload, ← hview]
  rfl

theorem AttributionModel.asStr_injective : Function.Injective AttributionModel.asStr := by
  intro model other h
  cases model <;> cases other <;> first | rfl | exact absurd h (by decide)

theorem requestSpec_camel (spec : ConversionSpecArgs) :
    (requestSpec spec).snakeToCamelJson = .object (
      JsonMap.insert (text "conversionActions") (.ofTexts spec.conversionActions) []
      |> JsonMap.insertSome (text "attributionModel")
        (spec.attributionModel.map fun model => .string model.asStr)) := by
  obtain ⟨actions, model⟩ := spec
  have htexts : (Json.ofTexts actions).snakeToCamelJson = .ofTexts actions := by
    rw [Json.ofTexts, Json.snakeToCamelJson_array, List.map_map]
    rfl
  cases model with
  | none =>
      change Json.object (JsonMap.ofFields [(Json.snakeKeyToCamel (text "conversion_actions"),
        (Json.ofTexts actions).snakeToCamelJson)]) = _
      rw [htexts]
      rfl
  | some model =>
      change Json.object (JsonMap.ofFields [(Json.snakeKeyToCamel (text "attribution_model"),
        .string model.asStr), (Json.snakeKeyToCamel (text "conversion_actions"),
          (Json.ofTexts actions).snakeToCamelJson)]) = _
      rw [htexts]
      rfl

theorem ofTexts_injective : Function.Injective Json.ofTexts := by
  intro texts others h
  exact List.map_injective_iff.mpr (fun a b hab => Json.string.inj hab) (Json.array.inj h)

theorem requestSpec_camel_inj {spec other : ConversionSpecArgs}
    (h : (requestSpec spec).snakeToCamelJson = (requestSpec other).snakeToCamelJson) :
    spec = other := by
  rw [requestSpec_camel, requestSpec_camel] at h
  have hget := fun key => congrArg (JsonMap.get · (text key)) (Json.object.inj h)
  have hactions := hget "conversionActions"
  have hmodel := hget "attributionModel"
  simp only [JsonMap.get_insertSome, JsonMap.get_insert, JsonMap.get_nil, text_inj,
    String.reduceEq, if_true, if_false, Option.or_none, Option.some.injEq] at hactions hmodel
  obtain ⟨actions, model⟩ := spec
  obtain ⟨actions', model'⟩ := other
  congr
  · exact ofTexts_injective hactions
  · exact Option.map_injective (fun a b hab => AttributionModel.asStr_injective
      (Json.string.inj hab)) hmodel

/-- The payload of the conversions report tells what is asked for. -/
theorem conversionsPayload_inj {view view' : ReportView} {spec spec' : ConversionSpecArgs}
    (h : conversionsPayload view spec = conversionsPayload view' spec') :
    view = view' ∧ spec = spec' := by
  have hget := fun key => congrArg (JsonMap.get · key) h
  have hspec := hget (text "conversionSpec")
  simp only [conversionsPayload, JsonMap.get_insert, if_true, Option.some.injEq] at hspec
  refine ⟨ReportView.payload_injective (view.payload_sorted.ext view'.payload_sorted fun key => ?_),
    requestSpec_camel_inj hspec⟩
  have hkey := hget key
  simp only [conversionsPayload, JsonMap.get_insert] at hkey
  by_cases hname : text "conversionSpec" = key
  · subst hname
    simp [ReportView.payload, text_inj]
  · rwa [if_neg hname, if_neg hname] at hkey

/-- The names of the fields that are converted: of the two signatures and of the
    `conversion_spec`. -/
theorem camelKeys_nodup :
    (["tool", "property", "date_ranges", "dimensions", "metrics", "dimension_filter",
      "metric_filter", "order_bys", "conversion_spec", "currency_code",
      "return_property_quota"].map fun key => Json.snakeKeyToCamel (text key)).Nodup ∧
    (["tool", "property", "funnel_steps", "is_open_funnel", "date_ranges", "funnel_breakdown",
      "funnel_next_action", "funnel_visualization_type", "segments", "dimension_filter",
      "return_property_quota"].map fun key => Json.snakeKeyToCamel (text key)).Nodup ∧
    (["conversion_actions", "attribution_model"].map fun key =>
      Json.snakeKeyToCamel (text key)).Nodup := by
  decide +kernel

theorem camel_ofOption (value : Option Json) :
    (Json.ofOption value).snakeToCamelJson = .ofOption (value.map .snakeToCamelJson) := by
  cases value <;> rfl

theorem camel_ofTexts (texts : List Text) :
    (Json.ofTexts texts).snakeToCamelJson = .ofTexts texts := by
  rw [Json.ofTexts, Json.snakeToCamelJson_array, List.map_map]
  rfl

theorem camel_optionalText (value : Option Text) :
    (optionalText value).snakeToCamelJson = optionalText value := by
  cases value <;> rfl

theorem camel_arrays (values : Option (List Json)) :
    (values.map Json.array).map .snakeToCamelJson = values.map camelArray := by
  rw [Option.map_map]
  refine congrFun (congrArg Option.map (funext fun values => ?_)) _
  exact Json.snakeToCamelJson_array values

/-- The converted values of the signature. -/
theorem conversionsSignature_values (args : RunConversionsReportArgs) (property : Text) :
    (args.signature property).map (Json.snakeToCamelJson ∘ Prod.snd) =
      [.string (text "run_conversions_report"), .string property, args.view.dateRanges,
        .ofTexts args.view.dimensions, .ofTexts args.view.metrics,
        .ofOption args.view.dimensionFilter, .ofOption args.view.metricFilter,
        .ofOption args.view.orderBys, args.conversionSpec.toJson.snakeToCamelJson,
        optionalText args.view.currencyCode, .bool args.view.returnPropertyQuota] := by
  simp only [RunConversionsReportArgs.signature, ReportFields.signature, List.cons_append,
    List.nil_append, List.map_cons, List.map_nil, Function.comp_apply, camel_ofOption,
    camel_ofTexts, camel_optionalText, camel_arrays, Json.snakeToCamelJson_array]
  rfl

theorem Json.ofOption_inj {value other : Option Json} (h : ∀ v ∈ value, v ≠ .null)
    (h' : ∀ v ∈ other, v ≠ .null) (heq : ofOption value = ofOption other) : value = other := by
  cases value with
  | none =>
      cases other with
      | none => rfl
      | some v => exact absurd heq.symm (h' v rfl)
  | some v =>
      cases other with
      | none => exact absurd heq (h v rfl)
      | some v' => exact congrArg some heq

theorem optionalText_injective : Function.Injective optionalText := by
  intro value other h
  have hstring : ∀ t : Option Text, ∀ v ∈ t.map Json.string, v ≠ .null := by
    intro t v hv
    obtain ⟨t, -, rfl⟩ := Option.map_eq_some_iff.mp hv
    exact Json.noConfusion
  exact Option.map_injective (fun a b hab => Json.string.inj hab)
    (Json.ofOption_inj (hstring value) (hstring other) h)

theorem Json.ne_null_of_isObject {value : Json} (h : value.isObject = true) : value ≠ .null := by
  rintro rfl
  cases h

theorem Json.isObject_snakeToCamelJson {value : Json} (h : value.isObject = true) :
    value.snakeToCamelJson ≠ .null := by
  cases value with
  | object fields => exact Json.noConfusion
  | _ => cases h

theorem camelArray_ne_null {values : Option (List Json)} :
    ∀ v ∈ values.map camelArray, v ≠ .null := by
  intro v hv
  obtain ⟨values, -, rfl⟩ := Option.map_eq_some_iff.mp hv
  exact Json.noConfusion

theorem ConversionSpecArgs.toJson_camel_inj {spec other : ConversionSpecArgs}
    (h : spec.toJson.snakeToCamelJson = other.toJson.snakeToCamelJson) : spec = other := by
  rw [toJson, toJson, Json.camelSignature_eq_iff] at h
  case hkeys => rfl
  case hnodup => exact camelKeys_nodup.2.2
  simp only [List.map_cons, List.map_nil, Function.comp_apply, camel_ofTexts, camel_optionalText,
    List.cons.injEq, and_true] at h
  obtain ⟨hactions, hmodel⟩ := h
  obtain ⟨actions, model⟩ := spec
  obtain ⟨actions', model'⟩ := other
  congr
  · exact ofTexts_injective hactions
  · exact Option.map_injective AttributionModel.asStr_injective (optionalText_injective hmodel)

theorem ReportFields.Received.view_ne_null {parse : Text → Except Text Json}
    {args : BatchRunReportItemArgs} (h : args.toReportFields.Received parse) :
    (∀ v ∈ args.view.dimensionFilter, v ≠ .null) ∧ ∀ v ∈ args.view.metricFilter, v ≠ .null := by
  constructor
  · intro v hv
    obtain ⟨filter, hfilter, rfl⟩ := Option.map_eq_some_iff.mp hv
    exact Json.isObject_snakeToCamelJson (h.dimensionFilter_isObject filter hfilter)
  · intro v hv
    obtain ⟨filter, hfilter, rfl⟩ := Option.map_eq_some_iff.mp hv
    exact Json.isObject_snakeToCamelJson (h.metricFilter_isObject filter hfilter)

theorem conversionsSignature_eq_iff {args args' : RunConversionsReportArgs}
    {property property' : Text} :
    Json.snakeToCamelJson (.ofFields (args.signature property)) =
        Json.snakeToCamelJson (.ofFields (args'.signature property')) ↔
      (args.signature property).map (Json.snakeToCamelJson ∘ Prod.snd) =
        (args'.signature property').map (Json.snakeToCamelJson ∘ Prod.snd) :=
  Json.camelSignature_eq_iff rfl camelKeys_nodup.1

/-- The signature of the conversions report tells what is asked for. -/
theorem conversionsSignature_inj {parse : Text → Except Text Json}
    {args args' : RunConversionsReportArgs} (h : args.toReportFields.Received parse)
    (h' : args'.toReportFields.Received parse) {property property' : Text}
    (heq : Json.snakeToCamelJson (.ofFields (args.signature property)) =
      Json.snakeToCamelJson (.ofFields (args'.signature property'))) :
    property = property' ∧ args.view = args'.view ∧
      args.conversionSpec = args'.conversionSpec := by
  have hvalues := conversionsSignature_eq_iff.mp heq
  rw [conversionsSignature_values, conversionsSignature_values] at hvalues
  simp only [List.cons.injEq, and_true, true_and, Json.string.injEq, Json.bool.injEq] at hvalues
  obtain ⟨hproperty, hdateRanges, hdimensions, hmetrics, hdimensionFilter, hmetricFilter,
    horderBys, hspec, hcurrency, hquota⟩ := hvalues
  refine ⟨hproperty, ?_, ConversionSpecArgs.toJson_camel_inj hspec⟩
  have hdimensionFilter := Json.ofOption_inj h.view_ne_null.1 h'.view_ne_null.1 hdimensionFilter
  have hmetricFilter := Json.ofOption_inj h.view_ne_null.2 h'.view_ne_null.2 hmetricFilter
  have horderBys := Json.ofOption_inj camelArray_ne_null camelArray_ne_null horderBys
  exact ReportView.ext hdateRanges (ofTexts_injective hdimensions) (ofTexts_injective hmetrics)
    hdimensionFilter hmetricFilter horderBys (optionalText_injective hcurrency) hquota

end Ga4Mcp.Tools
