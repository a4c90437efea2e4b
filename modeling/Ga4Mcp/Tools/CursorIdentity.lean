/-
  A cursor continues the query that made it.

  Equal query hashes mean equal signatures, as long as the hasher does not collide on them,
  and a signature tells what is posted. For the conversions and the funnel report the post
  tells the signature as well: both read the arguments through the same conversions.

  * `ReportCall.post_eq_of_signature`: a signature tells the post.
  * `conversionsSignature_eq_of_payload`, `funnelSignature_eq_of_payload`: and the other way
    round.
  * `cursorIdentity`: both, for query hashes.
-/
import Ga4Mcp.Tools.ReportViews

namespace Ga4Mcp.Tools

open Ga4Mcp.Lib

/-! ## Signatures tell the posts -/

attribute [ext] ReportFields

/-- The fields of a signature tell the fields of the report. -/
theorem ReportFields.signature_inj {parse : Text → Except Text Json} {fields fields' : ReportFields}
    (h : fields.Received parse) (h' : fields'.Received parse)
    (heq : fields.signature = fields'.signature) : fields = fields' := by
  simp only [signature, List.cons.injEq, Prod.mk.injEq, true_and, and_true,
    Json.array.injEq] at heq
  obtain ⟨hdateRanges, hdimensions, hmetrics, hdimensionFilter, hmetricFilter, horderBys⟩ := heq
  have hobject : ∀ filter : Option Json, (∀ v ∈ filter, v.isObject = true) →
      ∀ v ∈ filter, v ≠ .null :=
    fun filter hfilter v hv => Json.ne_null_of_isObject (hfilter v hv)
  have harrays : ∀ values : Option (List Json), ∀ v ∈ values.map Json.array, v ≠ .null := by
    intro values v hv
    obtain ⟨values, -, rfl⟩ := Option.map_eq_some_iff.mp hv
    exact Json.noConfusion
  exact ReportFields.ext hdateRanges (ofTexts_injective hdimensions) (ofTexts_injective hmetrics)
    (Json.ofOption_inj (hobject _ h.dimensionFilter_isObject)
      (hobject _ h'.dimensionFilter_isObject) hdimensionFilter)
    (Json.ofOption_inj (hobject _ h.metricFilter_isObject) (hobject _ h'.metricFilter_isObject)
      hmetricFilter)
    (Option.map_injective (fun a b hab => Json.array.inj hab)
      (Json.ofOption_inj (harrays _) (harrays _) horderBys))

/-- What a signature is of, between the first fields and the last ones. -/
theorem signature_parts {first first' last last' : Signature} {fields fields' : ReportFields}
    (h : first ++ fields.signature ++ last = first' ++ fields'.signature ++ last')
    (hlength : first.length = first'.length) :
    first = first' ∧ fields.signature = fields'.signature ∧ last = last' := by
  rw [List.append_assoc, List.append_assoc] at h
  obtain ⟨hfirst, h⟩ := List.append_inj h hlength
  obtain ⟨hfields, hlast⟩ := List.append_inj h rfl
  exact ⟨hfirst, hfields, hlast⟩

theorem withoutWindow_accessReport (request : RunAccessReportRequest) :
    withoutWindow (buildAccessReportPayload request) =
      buildAccessReportPayload { request with offset := none, limit := none } := by
  have hsorted : ∀ request, (buildAccessReportPayload request).Sorted := by
    intro request
    unfold buildAccessReportPayload
    repeat' first
      | apply JsonMap.insertSome_sorted
      | apply JsonMap.insert_sorted
      | exact List.Pairwise.nil
  refine (withoutWindow_sorted (hsorted request)).ext (hsorted _) fun key => ?_
  simp only [withoutWindow, buildAccessReportPayload, JsonMap.get_remove, JsonMap.get_insertSome,
    JsonMap.get_insert, JsonMap.get_nil]
  by_cases hlimit : text "limit" = key
  · subst hlimit
    simp [text_inj]
  · by_cases hoffset : text "offset" = key
    · subst hoffset
      simp [text_inj]
    · simp only [if_neg hlimit, if_neg hoffset]

theorem Json.get_ofFields {fields : Signature} (hnodup : (fields.map Prod.fst).Nodup)
    {field : String × Json} (h : field ∈ fields) :
    (Json.ofFields fields).get (text field.1) = some field.2 := by
  have hkeys : ((fields.map fun field => (text field.1, field.2)).map Prod.fst).Nodup := by
    have hmap := hnodup.map text_injective
    rw [List.map_map] at hmap ⊢
    exact hmap
  have hmem : (text field.1, field.2) ∈
      JsonMap.ofFields (fields.map fun field => (text field.1, field.2)) :=
    (JsonMap.mem_ofFields_iff hkeys).mpr (List.mem_map_of_mem h)
  exact (JsonMap.ofFields_sorted _).get_of_mem hmem

theorem Json.get_camelSignature {fields : Signature}
    (hnodup : ((fields.map Prod.fst).map fun key => snakeKeyToCamel (text key)).Nodup)
    {field : String × Json} (h : field ∈ fields) :
    (snakeToCamelJson (.ofFields fields)).get (snakeKeyToCamel (text field.1)) =
      some (snakeToCamelJson field.2) := by
  have hkeys : ((fields.map fun field => (text field.1, field.2)).map fun field =>
      snakeKeyToCamel field.1).Nodup := by
    rw [List.map_map] at hnodup ⊢
    exact hnodup
  rw [ofFields, snakeToCamelJson_ofFields hkeys]
  refine @JsonMap.Sorted.get_of_mem _ (JsonMap.ofFields_sorted _)
    (snakeKeyToCamel (text field.1), snakeToCamelJson field.2)
    ((JsonMap.mem_ofFields_iff ?_).mpr ?_)
  · rwa [List.map_map]
  · exact List.mem_map.mpr ⟨_, List.mem_map_of_mem h, rfl⟩

/-- The tool that a signature names. -/
theorem get_tool {tool : Json} {rest : Signature}
    (hnodup : ((("tool", tool) :: rest).map Prod.fst).Nodup) :
    (Json.ofFields (("tool", tool) :: rest)).get (text "tool") = some tool :=
  @Json.get_ofFields _ hnodup ("tool", tool) List.mem_cons_self

theorem RunReportArgs.signature_nodup (args : RunReportArgs) (property : Text) :
    ((args.signature property).map Prod.fst).Nodup := by
  simp [signature, ReportFields.signature]

theorem RunPivotReportArgs.signature_nodup (args : RunPivotReportArgs) (property : Text) :
    ((args.signature property).map Prod.fst).Nodup := by
  simp [signature, ReportFields.signature]

theorem RunAccessReportArgs.signature_nodup (args : RunAccessReportArgs) (tool : String)
    {key : String} (hkey : key ∈ ["property", "account"]) (resource : Text) :
    ((args.signature tool key resource).map Prod.fst).Nodup := by
  rcases List.mem_pair.mp hkey with rfl | rfl <;> simp [signature, ReportFields.signature]

theorem BatchRunReportItemArgs.signature_nodup (args : BatchRunReportItemArgs) (index : Nat)
    (property : Text) : ((args.signature index property).map Prod.fst).Nodup := by
  simp [signature, ReportFields.signature]

namespace ReportCall

/-- The name that a query hash begins with. -/
def toolName : ReportCall → String
  | report _ => "run_report"
  | conversions _ => "run_conversions_report"
  | pivot _ => "run_pivot_report"
  | propertyAccess _ => "run_property_access_report"
  | accountAccess _ => "run_account_access_report"
  | batchItem _ _ _ => "batch_run_reports"

theorem get_signature {call : ReportCall} {signature : Json} (h : call.signature = .ok signature) :
    signature.get (text "tool") = some (.string (text call.toolName)) := by
  cases call with
  | report args =>
      obtain ⟨property, -, rfl⟩ := map_eq_ok.mp h
      exact get_tool (RunReportArgs.signature_nodup args property)
  | conversions args =>
      obtain ⟨property, -, rfl⟩ := map_eq_ok.mp h
      exact @Json.get_camelSignature (args.signature property) camelKeys_nodup.1
        ("tool", .string (text "run_conversions_report")) List.mem_cons_self
  | pivot args =>
      obtain ⟨property, -, rfl⟩ := map_eq_ok.mp h
      exact get_tool (RunPivotReportArgs.signature_nodup args property)
  | propertyAccess args =>
      obtain ⟨property, -, rfl⟩ := map_eq_ok.mp h
      exact get_tool (RunAccessReportArgs.signature_nodup args _ (by simp) property)
  | accountAccess args =>
      obtain ⟨account, -, rfl⟩ := map_eq_ok.mp h
      exact get_tool (RunAccessReportArgs.signature_nodup args _ (by simp) account)
  | batchItem propertyId index args =>
      obtain ⟨property, -, rfl⟩ := map_eq_ok.mp h
      exact get_tool (BatchRunReportItemArgs.signature_nodup args index property)

end ReportCall

theorem BatchRunReportItemArgs.view_congr {args args' : BatchRunReportItemArgs}
    (hfields : args.toReportFields = args'.toReportFields)
    (hcurrency : args.currencyCode = args'.currencyCode)
    (hquota : args.returnPropertyQuota = args'.returnPropertyQuota) : args.view = args'.view := by
  simp only [view, toRequest, hfields, hcurrency, hquota]

theorem RunReportArgs.signature_inj {parse : Text → Except Text Json} {args args' : RunReportArgs}
    (h : args.toReportFields.Received parse) (h' : args'.toReportFields.Received parse)
    {property property' : Text} (heq : Json.ofFields (args.signature property) =
      Json.ofFields (args'.signature property')) :
    property = property' ∧ args.view = args'.view := by
  have hsignature : args.signature property = args'.signature property' :=
    Json.ofFields_inj rfl (args.signature_nodup property) heq
  obtain ⟨hfirst, hfields, hlast⟩ := signature_parts hsignature rfl
  simp only [List.cons.injEq, Prod.mk.injEq, true_and, and_true, Json.string.injEq,
    Json.bool.injEq] at hfirst hlast
  exact ⟨hfirst, BatchRunReportItemArgs.view_congr (ReportFields.signature_inj h h' hfields)
    (optionalText_injective hlast.1) hlast.2⟩

theorem BatchRunReportItemArgs.signature_inj {parse : Text → Except Text Json}
    {args args' : BatchRunReportItemArgs} (h : args.toReportFields.Received parse)
    (h' : args'.toReportFields.Received parse) {index index' : Nat} {property property' : Text}
    (heq : Json.ofFields (args.signature index property) =
      Json.ofFields (args'.signature index' property')) :
    property = property' ∧ args.view = args'.view := by
  have hsignature : args.signature index property = args'.signature index' property' :=
    Json.ofFields_inj rfl (args.signature_nodup index property) heq
  obtain ⟨hfirst, hfields, hlast⟩ := signature_parts hsignature rfl
  simp only [List.cons.injEq, Prod.mk.injEq, true_and, and_true, Json.string.injEq,
    Json.bool.injEq] at hfirst hlast
  exact ⟨hfirst.1, view_congr (ReportFields.signature_inj h h' hfields)
    (optionalText_injective hlast.1) hlast.2⟩

theorem RunPivotReportArgs.signature_inj {parse : Text → Except Text Json}
    {args args' : RunPivotReportArgs} (h : args.toReportFields.Received parse)
    (h' : args'.toReportFields.Received parse) {property property' : Text}
    (heq : Json.ofFields (args.signature property) = Json.ofFields (args'.signature property')) :
    property = property' ∧ args.toReportFields = args'.toReportFields ∧
      args.pivots = args'.pivots ∧ args.currencyCode = args'.currencyCode ∧
      args.keepEmptyRows = args'.keepEmptyRows ∧
      args.returnPropertyQuota = args'.returnPropertyQuota := by
  have hsignature : args.signature property = args'.signature property' :=
    Json.ofFields_inj rfl (args.signature_nodup property) heq
  obtain ⟨hfirst, hfields, hlast⟩ := signature_parts hsignature rfl
  simp only [List.cons.injEq, Prod.mk.injEq, true_and, and_true, Json.string.injEq,
    Json.bool.injEq, Json.array.injEq] at hfirst hlast
  obtain ⟨hpivots, hcurrency, hrest⟩ := hlast
  exact ⟨hfirst, ReportFields.signature_inj h h' hfields, hpivots,
    optionalText_injective hcurrency, hrest⟩

theorem RunAccessReportArgs.signature_inj {parse : Text → Except Text Json}
    {args args' : RunAccessReportArgs} (h : args.toReportFields.Received parse)
    (h' : args'.toReportFields.Received parse) {tool key : String}
    (hkey : key ∈ ["property", "account"]) {resource resource' : Text}
    (heq : Json.ofFields (args.signature tool key resource) =
      Json.ofFields (args'.signature tool key resource')) :
    resource = resource' ∧ args.toReportFields = args'.toReportFields ∧
      args.timeZone = args'.timeZone := by
  have hsignature : args.signature tool key resource = args'.signature tool key resource' :=
    Json.ofFields_inj rfl (args.signature_nodup tool hkey resource) heq
  obtain ⟨hfirst, hfields, hlast⟩ := signature_parts hsignature rfl
  simp only [List.cons.injEq, Prod.mk.injEq, true_and, and_true, Json.string.injEq] at hfirst hlast
  exact ⟨hfirst, ReportFields.signature_inj h h' hfields, optionalText_injective hlast⟩

theorem withoutWindow_accessReport_congr {args args' : RunAccessReportArgs}
    (hfields : args.toReportFields = args'.toReportFields) (hzone : args.timeZone = args'.timeZone)
    (offset limit offset' limit' : Nat) :
    withoutWindow (buildAccessReportPayload (args.toRequest offset limit)) =
      withoutWindow (buildAccessReportPayload (args'.toRequest offset' limit')) := by
  rw [withoutWindow_accessReport, withoutWindow_accessReport, RunAccessReportArgs.toRequest,
    RunAccessReportArgs.toRequest, hfields, hzone]

theorem withoutWindow_report_congr {args args' : BatchRunReportItemArgs}
    (hview : args.view = args'.view) (offset limit offset' limit' : Nat) :
    withoutWindow (buildRunReportPayload (args.toRequest offset limit)) =
      withoutWindow (buildRunReportPayload (args'.toRequest offset' limit')) :=
  calc withoutWindow (buildRunReportPayload (args.toRequest offset limit))
      = args.view.payload := withoutWindow_buildRunReportPayload _
    _ = args'.view.payload := congrArg ReportView.payload hview
    _ = withoutWindow (buildRunReportPayload (args'.toRequest offset' limit')) :=
        (withoutWindow_buildRunReportPayload (args'.toRequest offset' limit')).symm

theorem withoutWindow_conversions_congr {args args' : RunConversionsReportArgs}
    (hview : args.view = args'.view) (hspec : args.conversionSpec = args'.conversionSpec)
    (offset limit offset' limit' : Nat) :
    withoutWindow (buildRunConversionsReportPayload
        (buildConversionsReportRequest args limit offset)) =
      withoutWindow (buildRunConversionsReportPayload
        (buildConversionsReportRequest args' limit' offset')) := by
  rw [withoutWindow_conversions, withoutWindow_conversions, hview, hspec]

namespace ReportCall

/-- **A signature** tells the post, whatever the windows are. -/
theorem post_eq_of_signature {parse : Text → Except Text Json} {call call' : ReportCall}
    (h : call.Received parse) (h' : call'.Received parse) {signature : Json}
    (hsignature : call.signature = .ok signature) (hsignature' : call'.signature = .ok signature)
    (client : AnalyticsClient) (offset limit offset' limit' : Nat) :
    (call.post client offset limit).map Post.withoutWindow =
      (call'.post client offset' limit').map Post.withoutWindow := by
  have htool : call.toolName = call'.toolName := by
    have hget := (get_signature hsignature).symm.trans (get_signature hsignature')
    exact text_injective (Json.string.inj (Option.some.inj hget))
  have hpost : ∀ {url url' : Text} {payload payload' : JsonMap}, url = url' →
      withoutWindow payload = withoutWindow payload' →
        Except.map Post.withoutWindow (.ok ⟨url, payload⟩ : Except AnalyticsError Post) =
          Except.map Post.withoutWindow (.ok ⟨url', payload'⟩) := by
    rintro url _ payload payload' rfl hpayload
    exact congrArg Except.ok (congrArg (Post.mk url) hpayload)
  cases call with
  | report args =>
      cases call' with
      | report args' =>
          obtain ⟨property, hproperty, rfl⟩ := map_eq_ok.mp hsignature
          obtain ⟨property', hproperty', heq⟩ := map_eq_ok.mp hsignature'
          obtain ⟨rfl, hview⟩ := RunReportArgs.signature_inj h' h heq
          rw [post, post, hproperty, hproperty']
          exact hpost rfl (withoutWindow_report_congr hview.symm _ _ _ _)
      | _ => simp [toolName] at htool
  | conversions args =>
      cases call' with
      | conversions args' =>
          obtain ⟨property, hproperty, rfl⟩ := map_eq_ok.mp hsignature
          obtain ⟨property', hproperty', heq⟩ := map_eq_ok.mp hsignature'
          obtain ⟨rfl, hview, hspec⟩ := conversionsSignature_inj h' h heq
          rw [post, post, hproperty, hproperty']
          exact hpost rfl (withoutWindow_conversions_congr hview.symm hspec.symm _ _ _ _)
      | _ => simp [toolName] at htool
  | pivot args =>
      cases call' with
      | pivot args' =>
          obtain ⟨property, hproperty, rfl⟩ := map_eq_ok.mp hsignature
          obtain ⟨property', hproperty', heq⟩ := map_eq_ok.mp hsignature'
          obtain ⟨rfl, hfields, hpivots, hcurrency, hkeep, hquota⟩ :=
            RunPivotReportArgs.signature_inj h'.1 h.1 heq
          rw [post, post, hproperty, hproperty', hfields, hpivots, hcurrency, hkeep, hquota]
          rfl
      | _ => simp [toolName] at htool
  | propertyAccess args =>
      cases call' with
      | propertyAccess args' =>
          obtain ⟨property, hproperty, rfl⟩ := map_eq_ok.mp hsignature
          obtain ⟨property', hproperty', heq⟩ := map_eq_ok.mp hsignature'
          obtain ⟨rfl, hfields, hzone⟩ := RunAccessReportArgs.signature_inj h' h (by simp) heq
          rw [post, post, hproperty, hproperty']
          exact hpost rfl (withoutWindow_accessReport_congr hfields.symm hzone.symm _ _ _ _)
      | _ => simp [toolName] at htool
  | accountAccess args =>
      cases call' with
      | accountAccess args' =>
          obtain ⟨account, haccount, rfl⟩ := map_eq_ok.mp hsignature
          obtain ⟨account', haccount', heq⟩ := map_eq_ok.mp hsignature'
          obtain ⟨rfl, hfields, hzone⟩ := RunAccessReportArgs.signature_inj h' h (by simp) heq
          rw [post, post, haccount, haccount']
          exact hpost rfl (withoutWindow_accessReport_congr hfields.symm hzone.symm _ _ _ _)
      | _ => simp [toolName] at htool
  | batchItem propertyId index args =>
      cases call' with
      | batchItem propertyId' index' args' =>
          obtain ⟨property, hproperty, rfl⟩ := map_eq_ok.mp hsignature
          obtain ⟨property', hproperty', heq⟩ := map_eq_ok.mp hsignature'
          obtain ⟨rfl, hview⟩ := BatchRunReportItemArgs.signature_inj h' h heq
          rw [post, post, hproperty, hproperty']
          exact hpost rfl (withoutWindow_report_congr hview.symm _ _ _ _)
      | _ => simp [toolName] at htool

end ReportCall

/-! ## Posts tell the signatures -/

/-- A post of the conversions report tells the signature. -/
theorem conversionsSignature_eq_of_payload {args args' : RunConversionsReportArgs}
    {offset limit offset' limit' : Nat}
    (h : withoutWindow (buildRunConversionsReportPayload
        (buildConversionsReportRequest args limit offset)) =
      withoutWindow (buildRunConversionsReportPayload
        (buildConversionsReportRequest args' limit' offset'))) (property : Text) :
    Json.snakeToCamelJson (.ofFields (args.signature property)) =
      Json.snakeToCamelJson (.ofFields (args'.signature property)) := by
  rw [withoutWindow_conversions, withoutWindow_conversions] at h
  obtain ⟨hview, hspec⟩ := conversionsPayload_inj h
  rw [conversionsSignature_eq_iff, conversionsSignature_values, conversionsSignature_values,
    hview, hspec]

/-- The converted values of the signature. -/
theorem funnelSignature_values (args : RunFunnelReportArgs) (property : Text) :
    (args.signature property).map (Json.snakeToCamelJson ∘ Prod.snd) =
      [.string (text "run_funnel_report"), .string property,
        camelArray (normalizeFunnelSteps (args.funnelSteps.map FunnelStepArgs.toJson)),
        .bool args.isOpenFunnel, camelArray args.dateRanges,
        .ofOption ((args.funnelBreakdown.map FunnelBreakdownArgs.toJson).map .snakeToCamelJson),
        .ofOption ((args.funnelNextAction.map FunnelNextActionArgs.toJson).map .snakeToCamelJson),
        optionalText (args.funnelVisualizationType.map FunnelVisualizationType.asStr),
        .ofOption (args.segments.map camelArray),
        .ofOption (args.dimensionFilter.map .snakeToCamelJson),
        .bool args.returnPropertyQuota] := by
  simp only [RunFunnelReportArgs.signature, List.map_cons, List.map_nil, Function.comp_apply,
    camel_ofOption, camel_optionalText, camel_arrays, Json.snakeToCamelJson_array, camelArray]
  rfl

theorem camelArray_eq_of_ite {values others : List Json}
    (h : (if values.isEmpty then none else some (camelArray values)) =
      if others.isEmpty then none else some (camelArray others)) :
    camelArray values = camelArray others := by
  cases values <;> cases others <;> simp_all

/-- A post of the funnel report tells the signature. -/
theorem funnelSignature_eq_of_payload {args args' : RunFunnelReportArgs}
    (h : withoutWindow (buildRunFunnelReportPayload args.toRequest) =
      withoutWindow (buildRunFunnelReportPayload args'.toRequest)) (property : Text) :
    Json.snakeToCamelJson (.ofFields (args.signature property)) =
      Json.snakeToCamelJson (.ofFields (args'.signature property)) := by
  have hget := fun key => congrArg (JsonMap.get · (text key)) h
  have hfunnel := hget "funnel"
  have hquota := hget "returnPropertyQuota"
  have hdateRanges := hget "dateRanges"
  have hbreakdown := hget "funnelBreakdown"
  have hnextAction := hget "funnelNextAction"
  have hvisualization := hget "funnelVisualizationType"
  have hsegments := hget "segments"
  have hdimensionFilter := hget "dimensionFilter"
  simp only [withoutWindow, buildRunFunnelReportPayload, RunFunnelReportArgs.toRequest,
    JsonMap.get_remove, JsonMap.get_insertSome, JsonMap.get_insert, JsonMap.get_nil, text_inj,
    String.reduceEq, if_true, if_false, Option.or_none, Option.some.injEq, Json.bool.injEq]
    at hfunnel hquota hdateRanges hbreakdown hnextAction hvisualization hsegments hdimensionFilter
  have hparts := Json.ofFields_inj (by rfl) (by simp) hfunnel
  simp only [List.cons.injEq, Prod.mk.injEq, true_and, and_true, Json.bool.injEq,
    Json.array.injEq] at hparts
  obtain ⟨hopen, hsteps⟩ := hparts
  have hvisualization := Option.map_injective (fun a b hab => Json.string.inj hab) hvisualization
  rw [Json.camelSignature_eq_iff]
  case hkeys => rfl
  case hnodup => exact camelKeys_nodup.2.1
  rw [funnelSignature_values, funnelSignature_values, hopen, hsteps, hquota, hbreakdown,
    hnextAction, hvisualization, hsegments, hdimensionFilter,
    camelArray_eq_of_ite hdateRanges]

/-! ## Scratchpad queries -/

/-- A text is `core`, apart from spaces around it and semicolons after it. -/
def Surrounds (core sql : Text) : Prop :=
  ∃ before after, sql = before ++ core ++ after ∧ (∀ c ∈ before, Text.isWhitespace c) ∧
    ∀ c ∈ after, Text.isWhitespace c ∨ c = ';'

/-- Two texts with one core. -/
def SameQuery (sql sql' : Text) : Prop := ∃ core, Surrounds core sql ∧ Surrounds core sql'

theorem trimEnd_append (t : Text) :
    ∃ after, t = Text.trimEnd t ++ after ∧ ∀ c ∈ after, Text.isWhitespace c := by
  refine ⟨t.rtakeWhile Text.isWhitespace, (List.rdropWhile_append_rtakeWhile).symm, fun c hc => ?_⟩
  exact List.mem_rtakeWhile_imp hc

theorem Surrounds.append {core sql after : Text} (h : Surrounds core sql)
    (hafter : ∀ c ∈ after, Text.isWhitespace c ∨ c = ';') : Surrounds core (sql ++ after) := by
  obtain ⟨before, rest, rfl, hbefore, hrest⟩ := h
  refine ⟨before, rest ++ after, by simp only [List.append_assoc], hbefore, fun c hc => ?_⟩
  rcases List.mem_append.mp hc with hc | hc
  · exact hrest c hc
  · exact hafter c hc

theorem surrounds_trim (sql : Text) : Surrounds (Text.trim sql) sql := by
  obtain ⟨after, heq, hafter⟩ := trimEnd_append (Text.trimStart sql)
  refine ⟨sql.takeWhile Text.isWhitespace, after, ?_, fun c hc => List.mem_takeWhile_imp hc,
    fun c hc => .inl (hafter c hc)⟩
  rw [List.append_assoc, Text.trim, ← heq]
  exact List.takeWhile_append_dropWhile.symm

/-- A round of the loop takes a semicolon away, and the spaces before it. -/
theorem surrounds_stripSemicolons (fuel : Nat) (sql : Text) :
    Surrounds (stripSemicolons fuel sql) sql := by
  induction fuel generalizing sql with
  | zero => exact ⟨[], [], by simp [stripSemicolons], by simp, by simp⟩
  | succ fuel ih =>
      rw [stripSemicolons]
      split
      · next hlast =>
          have hsql : sql = sql.dropLast ++ [';'] := (List.dropLast_append_getLast? ';' hlast).symm
          obtain ⟨after, heq, hafter⟩ := trimEnd_append sql.dropLast
          have hrest : Surrounds (stripSemicolons fuel (Text.trimEnd sql.dropLast))
              (Text.trimEnd sql.dropLast ++ after ++ [';']) :=
            ((ih _).append fun c hc => .inl (hafter c hc)).append (by simp)
          rwa [← heq, ← hsql] at hrest
      · exact ⟨[], [], by simp, by simp, by simp⟩

theorem Surrounds.trans {core sql sql' : Text} (h : Surrounds core sql) (h' : Surrounds sql sql') :
    Surrounds core sql' := by
  obtain ⟨before, after, rfl, hbefore, hafter⟩ := h'
  obtain ⟨before', after', rfl, hbefore', hafter'⟩ := h
  refine ⟨before ++ before', after' ++ after, by simp only [List.append_assoc], fun c hc => ?_,
    fun c hc => ?_⟩
  · rcases List.mem_append.mp hc with hc | hc
    · exact hbefore c hc
    · exact hbefore' c hc
  · rcases List.mem_append.mp hc with hc | hc
    · exact hafter' c hc
    · exact hafter c hc

theorem surrounds_trimSqlForSubquery (sql : Text) : Surrounds (trimSqlForSubquery sql) sql :=
  (surrounds_stripSemicolons _ _).trans (surrounds_trim sql)

/-- What the hash of an accepted query is made of. -/
theorem prepareScratchpadQuery_hash {hasher : Text → UInt64} {query : ScratchpadQuery}
    {hash : Text} {window : Nat × Nat}
    (h : prepareScratchpadQuery hasher query = .ok (hash, window)) :
    hash = stableQueryHash hasher (.ofFields
      (scratchpadSignature query.toolName query.sessionId (Text.trim query.sql))) := by
  obtain ⟨⟨⟩, -, h⟩ := bind_eq_ok.mp h
  obtain ⟨⟨⟩, -, h⟩ := bind_eq_ok.mp h
  obtain ⟨window', -, h⟩ := bind_eq_ok.mp h
  exact (Prod.mk.inj (pure_eq_ok.mp h)).1.symm

theorem scratchpadSignature_valid (toolName sessionId sql : Text) :
    (Json.ofFields (scratchpadSignature toolName sessionId sql)).Valid := by
  refine Json.valid_ofFields ?_
  simp only [scratchpadSignature, List.forall_mem_cons]
  exact ⟨trivial, trivial, trivial, by simp⟩

theorem scratchpadSignature_inj {toolName toolName' sessionId sessionId' sql sql' : Text}
    (h : Json.ofFields (scratchpadSignature toolName sessionId sql) =
      Json.ofFields (scratchpadSignature toolName' sessionId' sql')) :
    toolName = toolName' ∧ Text.trim sessionId = Text.trim sessionId' ∧
      trimSqlForSubquery sql = trimSqlForSubquery sql' := by
  have hsignature : scratchpadSignature toolName sessionId sql =
      scratchpadSignature toolName' sessionId' sql' :=
    Json.ofFields_inj rfl (by simp [scratchpadSignature]) h
  simpa [scratchpadSignature] using hsignature

/-! ## Query hashes -/

/-- The text that the hash of a call is made of is one of `asked`. -/
def ReportCall.Asked (asked : Set Text) (call : ReportCall) : Prop :=
  ∀ signature, call.signature = .ok signature → canonicalText signature ∈ asked

/-- The text behind the query hash is among those asked. -/
def ScratchpadQuery.Asked (asked : Set Text) (query : ScratchpadQuery) : Prop :=
  canonicalText (.ofFields
    (scratchpadSignature query.toolName query.sessionId (Text.trim query.sql))) ∈ asked

theorem ReportCall.post_eq_of_queryHash {hasher : Text → UInt64} {asked : Set Text}
    (hcollision : Set.InjOn hasher asked) {parse : Text → Except Text Json}
    {call call' : ReportCall} (h : call.Received parse) (h' : call'.Received parse)
    (hasked : call.Asked asked) (hasked' : call'.Asked asked) {hash : Text}
    (hhash : call.queryHash hasher = .ok hash) (hhash' : call'.queryHash hasher = .ok hash)
    (client : AnalyticsClient) (offset limit offset' limit' : Nat) :
    (call.post client offset limit).map Post.withoutWindow =
      (call'.post client offset' limit').map Post.withoutWindow := by
  rw [queryHash_eq] at hhash hhash'
  obtain ⟨signature, hsignature, heq⟩ := map_eq_ok.mp hhash
  obtain ⟨signature', hsignature', heq'⟩ := map_eq_ok.mp hhash'
  have hsame : signature = signature' :=
    stableQueryHash_inj hcollision (signature_valid h hsignature) (signature_valid h' hsignature')
      (hasked signature hsignature) (hasked' signature' hsignature') (heq.trans heq'.symm)
  subst hsame
  exact post_eq_of_signature h h' hsignature hsignature' client offset limit offset' limit'

theorem sameQuery_of_queryHash {hasher : Text → UInt64} {asked : Set Text}
    (hcollision : Set.InjOn hasher asked) {query query' : ScratchpadQuery}
    (hasked : query.Asked asked) (hasked' : query'.Asked asked) {hash : Text}
    {window window' : Nat × Nat} (h : prepareScratchpadQuery hasher query = .ok (hash, window))
    (h' : prepareScratchpadQuery hasher query' = .ok (hash, window')) :
    query.toolName = query'.toolName ∧ Text.trim query.sessionId = Text.trim query'.sessionId ∧
      SameQuery query.sql query'.sql := by
  have hsignature := stableQueryHash_inj hcollision (scratchpadSignature_valid _ _ _)
    (scratchpadSignature_valid _ _ _) hasked hasked'
    ((prepareScratchpadQuery_hash h).symm.trans (prepareScratchpadQuery_hash h'))
  obtain ⟨htool, hsession, hsql⟩ := scratchpadSignature_inj hsignature
  refine ⟨htool, hsession, _, (surrounds_trimSqlForSubquery _).trans (surrounds_trim query.sql), ?_⟩
  rw [hsql]
  exact (surrounds_trimSqlForSubquery _).trans (surrounds_trim query'.sql)

/-- What a URL is of. -/
theorem url_inj {baseUrl version property property' method : Text}
    (h : baseUrl ++ version ++ property ++ method = baseUrl ++ version ++ property' ++ method) :
    property = property' :=
  List.append_cancel_left (List.append_cancel_right h)

theorem conversionsQueryHash_eq_of_post {hasher : Text → UInt64} {client : AnalyticsClient}
    {args args' : RunConversionsReportArgs} {offset limit offset' limit' : Nat} {post post' : Post}
    (h : (ReportCall.conversions args).post client offset limit = .ok post)
    (h' : (ReportCall.conversions args').post client offset' limit' = .ok post')
    (heq : post.withoutWindow = post'.withoutWindow) :
    (ReportCall.conversions args).queryHash hasher =
      (ReportCall.conversions args').queryHash hasher := by
  obtain ⟨property, hproperty, rfl⟩ := map_eq_ok.mp h
  obtain ⟨property', hproperty', rfl⟩ := map_eq_ok.mp h'
  obtain ⟨hurl, hpayload⟩ := Post.mk.inj heq
  obtain rfl := url_inj hurl
  rw [ReportCall.queryHash_eq, ReportCall.queryHash_eq, ReportCall.signature, ReportCall.signature,
    hproperty, hproperty']
  exact congrArg (fun signature => Except.ok (stableQueryHash hasher signature))
    (conversionsSignature_eq_of_payload hpayload property)

theorem funnelQueryHash_eq_of_post {hasher : Text → UInt64} {client : AnalyticsClient}
    {args args' : RunFunnelReportArgs} {post post' : Post} (h : args.post client = .ok post)
    (h' : args'.post client = .ok post') (heq : post.withoutWindow = post'.withoutWindow) :
    runFunnelReportQueryHash hasher args = runFunnelReportQueryHash hasher args' := by
  obtain ⟨property, hproperty, rfl⟩ := map_eq_ok.mp h
  obtain ⟨property', hproperty', rfl⟩ := map_eq_ok.mp h'
  obtain ⟨hurl, hpayload⟩ := Post.mk.inj heq
  obtain rfl := url_inj hurl
  rw [runFunnelReportQueryHash_eq, runFunnelReportQueryHash_eq, hproperty, hproperty']
  exact congrArg (fun signature => Except.ok (stableQueryHash hasher signature))
    (funnelSignature_eq_of_payload hpayload property)

/-- **A query hash tells the query**, as long as the hasher does not collide on the texts that
    are asked for; and the posts of the conversions and the funnel report tell the hash. -/
theorem cursorIdentity (hasher : Text → UInt64) (asked : Set Text)
    (hcollision : Set.InjOn hasher asked) (client : AnalyticsClient)
    (parse : Text → Except Text Json) :
    (∀ call call' : ReportCall, call.Received parse → call'.Received parse →
      call.Asked asked → call'.Asked asked →
      ∀ hash, call.queryHash hasher = .ok hash → call'.queryHash hasher = .ok hash →
      ∀ offset limit offset' limit', (call.post client offset limit).map Post.withoutWindow =
        (call'.post client offset' limit').map Post.withoutWindow) ∧
    (∀ query query' : ScratchpadQuery, query.Asked asked → query'.Asked asked →
      ∀ hash window window', prepareScratchpadQuery hasher query = .ok (hash, window) →
      prepareScratchpadQuery hasher query' = .ok (hash, window') →
      Text.trim query.sessionId = Text.trim query'.sessionId ∧ SameQuery query.sql query'.sql) ∧
    (∀ (args args' : RunConversionsReportArgs) (offset limit offset' limit' : Nat)
      (post post' : Post), (ReportCall.conversions args).post client offset limit = .ok post →
      (ReportCall.conversions args').post client offset' limit' = .ok post' →
      post.withoutWindow = post'.withoutWindow →
      (ReportCall.conversions args).queryHash hasher =
        (ReportCall.conversions args').queryHash hasher) ∧
    ∀ (args args' : RunFunnelReportArgs) (post post' : Post), args.post client = .ok post →
      args'.post client = .ok post' → post.withoutWindow = post'.withoutWindow →
      runFunnelReportQueryHash hasher args = runFunnelReportQueryHash hasher args' := by
  refine ⟨fun call call' h h' hasked hasked' hash hhash hhash' offset limit offset' limit' => ?_,
    fun query query' hasked hasked' hash window window' h h' => ?_,
    fun args args' offset limit offset' limit' post post' h h' heq => ?_,
    fun args args' post post' h h' heq => ?_⟩
  · exact ReportCall.post_eq_of_queryHash hcollision h h' hasked hasked' hhash hhash' client
      offset limit offset' limit'
  · exact (sameQuery_of_queryHash hcollision hasked hasked' h h').2
  · exact conversionsQueryHash_eq_of_post h h' heq
  · exact funnelQueryHash_eq_of_post h h' heq

/-- A report of the conversions of one day, with the keys of its date range and its currency
    spelled as given. -/
def spelledReport (startKey endKey currency : String) : RunConversionsReportArgs where
  dateRanges := [.ofFields [(startKey, .string (text "today")), (endKey, .string (text "today"))]]
  dimensions := [text "country"]
  metrics := [text "advertiserAdCost"]
  dimensionFilter := none
  metricFilter := none
  orderBys := none
  maxRows := none
  cursor := none
  outputMode := none
  summaryOnly := false
  maxCellChars := none
  limit := none
  offset := none
  currencyCode := some (text currency)
  returnPropertyQuota := false
  propertyId := .number 7
  conversionSpec := ⟨[], none⟩

theorem spelledReport_received (startKey endKey currency : String) :
    (ReportCall.conversions (spelledReport startKey endKey currency)).Received .error where
  dateRanges := by
    intro value hvalue
    obtain rfl := List.mem_singleton.mp hvalue
    exact Json.valid_ofFields (by simp [Json.Valid])
  dimensionFilter := ⟨none, rfl⟩
  metricFilter := ⟨none, rfl⟩
  validDimensionFilter := by simp [spelledReport]
  validMetricFilter := by simp [spelledReport]
  orderBys := by simp [spelledReport]

theorem spelledReport_view : (spelledReport "start_date" "end_date" " EUR ").view =
    (spelledReport "startDate" "endDate" "EUR").view := by
  have hview : ∀ startKey endKey currency : String,
      (spelledReport startKey endKey currency).view =
        { dateRanges := camelArray
            [.ofFields [(startKey, .string (text "today")), (endKey, .string (text "today"))]]
          dimensions := [text "country"].map Text.trim
          metrics := [text "advertiserAdCost"].map Text.trim
          dimensionFilter := none
          metricFilter := none
          orderBys := none
          currencyCode := some (Text.trim (text currency))
          returnPropertyQuota := false } :=
    fun _ _ _ => rfl
  have hrange : Json.snakeToCamelJson (.ofFields
      [("start_date", .string (text "today")), ("end_date", .string (text "today"))]) =
    Json.snakeToCamelJson (.ofFields
      [("startDate", .string (text "today")), ("endDate", .string (text "today"))]) := by
    rfl
  have hcurrency : Text.trim (text " EUR ") = Text.trim (text "EUR") := by rfl
  simp only [hview, camelArray, List.map_singleton, hrange, hcurrency]

/-- The spelling of a report changes neither its hash nor its post. -/
theorem cursorIdentity_spelledReport :
    let hasher : Text → UInt64 := fun t => UInt64.ofNat t.length
    let client : AnalyticsClient :=
      ⟨text "https://data", text "https://admin", fun _ _ => .ok .null⟩
    let snake := ReportCall.conversions (spelledReport "start_date" "end_date" " EUR ")
    let camel := ReportCall.conversions (spelledReport "startDate" "endDate" "EUR")
    snake.queryHash hasher = camel.queryHash hasher ∧
      (snake.post client 0 10).map Post.withoutWindow =
        (camel.post client 10 20).map Post.withoutWindow := by
  intro hasher client snake camel
  let signature := Json.snakeToCamelJson (.ofFields
    ((spelledReport "startDate" "endDate" "EUR").signature (text "properties/" ++ text "7")))
  have hproperty : propertyResourceName (.number 7) = .ok (text "properties/" ++ text "7") := by
    rfl
  have hcamel : camel.signature = .ok signature :=
    congrArg (Except.map fun property => Json.snakeToCamelJson (.ofFields
      ((spelledReport "startDate" "endDate" "EUR").signature property))) hproperty
  have hsnake : snake.signature = .ok signature := by
    have heq : Json.snakeToCamelJson (.ofFields
        ((spelledReport "start_date" "end_date" " EUR ").signature
          (text "properties/" ++ text "7"))) = signature := by
      rw [conversionsSignature_eq_iff, conversionsSignature_values, conversionsSignature_values,
        spelledReport_view]
      rfl
    rw [← heq]
    exact congrArg (Except.map fun property => Json.snakeToCamelJson (.ofFields
      ((spelledReport "start_date" "end_date" " EUR ").signature property))) hproperty
  have hidentity := cursorIdentity hasher {canonicalText signature} (Set.injOn_singleton _ _) client
    .error
  have hasked : ∀ call : ReportCall, call.signature = .ok signature →
      call.Asked {canonicalText signature} := by
    intro call hcall signature' h
    rw [Except.ok.inj (h.symm.trans hcall)]
    exact Set.mem_singleton _
  have hashed : ∀ call : ReportCall, call.signature = .ok signature →
      call.queryHash hasher = .ok (stableQueryHash hasher signature) := by
    intro call hcall
    rw [ReportCall.queryHash_eq, hcall]
    rfl
  have hpost := hidentity.1 snake camel (spelledReport_received _ _ _)
    (spelledReport_received _ _ _)
    (hasked snake hsnake) (hasked camel hcamel) _ (hashed snake hsnake) (hashed camel hcamel)
    0 10 10 20
  refine ⟨?_, hpost⟩
  have hsome : ∀ (startKey endKey currency : String) (offset limit : Nat), ∃ post,
      (ReportCall.conversions (spelledReport startKey endKey currency)).post client offset limit =
        .ok post := by
    intro startKey endKey currency offset limit
    have hreport : propertyResourceName (spelledReport startKey endKey currency).propertyId =
        .ok (text "properties/" ++ text "7") := hproperty
    rw [ReportCall.post, hreport]
    exact ⟨_, rfl⟩
  obtain ⟨post, hsent⟩ := hsome "start_date" "end_date" " EUR " 0 10
  obtain ⟨post', hsent'⟩ := hsome "startDate" "endDate" "EUR" 10 20
  rw [hsent, hsent'] at hpost
  exact hidentity.2.2.1 (spelledReport "start_date" "end_date" " EUR ")
    (spelledReport "startDate" "endDate" "EUR") 0 10 10 20 post post' hsent hsent'
    (Except.ok.inj hpost)

end Ga4Mcp.Tools
