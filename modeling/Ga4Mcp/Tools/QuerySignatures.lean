/-
  The signatures that the query hashes are made of, and what the same calls post.

  * `ReportCall.queryHash_eq`: a query hash is the hash of a signature.
  * `fetchRunReport_eq` and its siblings: what a handler posts.
  * `stableQueryHash_inj`: without a collision, the hash tells the signature.
-/
import Mathlib.Data.Set.Function
import Ga4Mcp.Tools.FilterArgs
import Ga4Mcp.Tools.FunnelReport
import Ga4Mcp.Tools.JsonText
import Ga4Mcp.Tools.ScratchpadQuery

namespace Ga4Mcp.Tools

open Ga4Mcp.Lib

/-! ## Signatures -/

/-- The fields that a query hash is over. -/
abbrev Signature := List (String × Json)

/-- Those of `run_report`. -/
def RunReportArgs.signature (args : RunReportArgs) (property : Text) : Signature :=
  [("tool", .string (text "run_report")), ("property", .string property)] ++
    args.toReportFields.signature ++
    [("currency_code", optionalText args.currencyCode),
      ("return_property_quota", .bool args.returnPropertyQuota)]

/-- The names of the fields before the keys are converted. -/
def RunConversionsReportArgs.signature (args : RunConversionsReportArgs) (property : Text) :
    Signature :=
  [("tool", .string (text "run_conversions_report")), ("property", .string property)] ++
    ReportFields.signature { args.toReportFields with
      dimensions := args.dimensions.map Text.trim
      metrics := args.metrics.map Text.trim } ++
    [("conversion_spec", args.conversionSpec.toJson),
      ("currency_code", optionalText (args.currencyCode.map Text.trim)),
      ("return_property_quota", .bool args.returnPropertyQuota)]

/-- Those of `run_pivot_report`. -/
def RunPivotReportArgs.signature (args : RunPivotReportArgs) (property : Text) : Signature :=
  [("tool", .string (text "run_pivot_report")), ("property", .string property)] ++
    args.toReportFields.signature ++
    [("pivots", .array args.pivots), ("currency_code", optionalText args.currencyCode),
      ("keep_empty_rows", .bool args.keepEmptyRows),
      ("return_property_quota", .bool args.returnPropertyQuota)]

/-- The signature of the two access reports; `key` is the kind of the resource. -/
def RunAccessReportArgs.signature (args : RunAccessReportArgs) (tool key : String)
    (resource : Text) : Signature :=
  [("tool", .string (text tool)), (key, .string resource)] ++ args.toReportFields.signature ++
    [("time_zone", optionalText args.timeZone)]

/-- Those of one report of a batch. -/
def BatchRunReportItemArgs.signature (args : BatchRunReportItemArgs) (index : Nat)
    (property : Text) : Signature :=
  [("tool", .string (text "batch_run_reports")), ("property", .string property),
      ("index", .ofNat index)] ++
    args.toReportFields.signature ++
    [("currency_code", optionalText args.currencyCode),
      ("return_property_quota", .bool args.returnPropertyQuota)]

/-- The names of the fields before the keys are converted. -/
def RunFunnelReportArgs.signature (args : RunFunnelReportArgs) (property : Text) : Signature :=
  [("tool", .string (text "run_funnel_report")),
    ("property", .string property),
    ("funnel_steps", .array (normalizeFunnelSteps (args.funnelSteps.map FunnelStepArgs.toJson))),
    ("is_open_funnel", .bool args.isOpenFunnel),
    ("date_ranges", .array args.dateRanges),
    ("funnel_breakdown", .ofOption (args.funnelBreakdown.map FunnelBreakdownArgs.toJson)),
    ("funnel_next_action", .ofOption (args.funnelNextAction.map FunnelNextActionArgs.toJson)),
    ("funnel_visualization_type",
      optionalText (args.funnelVisualizationType.map FunnelVisualizationType.asStr)),
    ("segments", .ofOption (args.segments.map .array)),
    ("dimension_filter", .ofOption args.dimensionFilter),
    ("return_property_quota", .bool args.returnPropertyQuota)]

/-- Those of a statement in a session. -/
def scratchpadSignature (toolName sessionId sql : Text) : Signature :=
  [("tool", .string toolName), ("session_id", .string (Text.trim sessionId)),
    ("sql", .string (trimSqlForSubquery sql))]

/-! ## Calls -/

/-- The calls whose cursors a query hash guards; an item of a batch is one of its own. -/
inductive ReportCall where
  | report (args : RunReportArgs)
  | conversions (args : RunConversionsReportArgs)
  | pivot (args : RunPivotReportArgs)
  | propertyAccess (args : RunAccessReportPropertyArgs)
  | accountAccess (args : RunAccessReportAccountArgs)
  | batchItem (propertyId : PropertyId) (index : Nat) (args : BatchRunReportItemArgs)

namespace ReportCall

/-- What is hashed. -/
def signature : ReportCall → Except AnalyticsError Json
  | report args => (propertyResourceName args.propertyId).map fun property =>
      .ofFields (args.signature property)
  | conversions args => (propertyResourceName args.propertyId).map fun property =>
      Json.snakeToCamelJson (.ofFields (args.signature property))
  | pivot args => (propertyResourceName args.propertyId).map fun property =>
      .ofFields (args.signature property)
  | propertyAccess args => (propertyResourceName args.resourceId).map fun property =>
      .ofFields (args.signature "run_property_access_report" "property" property)
  | accountAccess args => (accountResourceName args.resourceId).map fun account =>
      .ofFields (args.signature "run_account_access_report" "account" account)
  | batchItem propertyId index args => (propertyResourceName propertyId).map fun property =>
      .ofFields (args.signature index property)

/-- The query hash of any of the report calls. -/
def queryHash (hasher : Text → UInt64) : ReportCall → Except AnalyticsError Text
  | report args => runReportQueryHash hasher args
  | conversions args => runConversionsReportQueryHash hasher args
  | pivot args => runPivotQueryHash hasher args
  | propertyAccess args => runPropertyAccessQueryHash hasher args
  | accountAccess args => runAccountAccessQueryHash hasher args
  | batchItem propertyId index args => (propertyResourceName propertyId).map fun property =>
      batchRunReportQueryHash hasher property index args

/-- A query hash is the hash of the signature. -/
theorem queryHash_eq (hasher : Text → UInt64) (call : ReportCall) :
    call.queryHash hasher = call.signature.map (stableQueryHash hasher) := by
  cases call with
  | report args =>
      rw [queryHash, runReportQueryHash, signature]
      cases propertyResourceName args.propertyId <;> rfl
  | conversions args =>
      rw [queryHash, runConversionsReportQueryHash, signature]
      cases propertyResourceName args.propertyId <;> rfl
  | pivot args =>
      rw [queryHash, runPivotQueryHash, signature]
      cases propertyResourceName args.propertyId <;> rfl
  | propertyAccess args =>
      rw [queryHash, runPropertyAccessQueryHash, signature]
      cases propertyResourceName args.resourceId <;> rfl
  | accountAccess args =>
      rw [queryHash, runAccountAccessQueryHash, signature]
      cases accountResourceName args.resourceId <;> rfl
  | batchItem propertyId index args =>
      rw [queryHash, signature]
      cases propertyResourceName propertyId <;> rfl

end ReportCall

theorem runFunnelReportQueryHash_eq (hasher : Text → UInt64) (args : RunFunnelReportArgs) :
    runFunnelReportQueryHash hasher args =
      (propertyResourceName args.propertyId).map fun property =>
        stableQueryHash hasher (Json.snakeToCamelJson (.ofFields (args.signature property))) := by
  rw [runFunnelReportQueryHash]
  cases propertyResourceName args.propertyId <;> rfl

/-! ## Posts -/

/-- What is sent upstream. -/
structure Post where
  url : Text
  payload : JsonMap

namespace Post

/-- The request is sent. -/
def send (client : AnalyticsClient) (post : Post) : Except AnalyticsError Json :=
  client.postJson post.url (.object post.payload)

/-- The post apart from `limit` and `offset`. -/
def withoutWindow (post : Post) : Post where
  url := post.url
  payload := JsonMap.remove (text "limit") (JsonMap.remove (text "offset") post.payload)

end Post

/-- The post of a call with an effective window; of an item of a batch, its URL and the payload
    of the item. -/
def ReportCall.post (client : AnalyticsClient) (offset limit : Nat) :
    ReportCall → Except AnalyticsError Post
  | report args => (propertyResourceName args.propertyId).map fun property =>
      ⟨client.dataBaseUrl ++ text "/v1beta/" ++ property ++ text ":runReport",
        buildRunReportPayload (args.toBatchRunReportItemArgs.toRequest offset limit)⟩
  | conversions args => (propertyResourceName args.propertyId).map fun property =>
      ⟨client.dataBaseUrl ++ text "/v1alpha/" ++ property ++ text ":runReport",
        buildRunConversionsReportPayload (buildConversionsReportRequest args limit offset)⟩
  | pivot args => (propertyResourceName args.propertyId).map fun property =>
      ⟨client.dataBaseUrl ++ text "/v1beta/" ++ property ++ text ":runPivotReport",
        buildRunPivotReportPayload { args.toReportFields with
          propertyId := args.propertyId
          pivots := args.pivots
          currencyCode := args.currencyCode
          keepEmptyRows := args.keepEmptyRows
          returnPropertyQuota := args.returnPropertyQuota }⟩
  | propertyAccess args => (propertyResourceName args.resourceId).map fun property =>
      ⟨client.adminBaseUrl ++ text "/v1beta/" ++ property ++ text ":runAccessReport",
        buildAccessReportPayload (args.toRequest offset limit)⟩
  | accountAccess args => (accountResourceName args.resourceId).map fun account =>
      ⟨client.adminBaseUrl ++ text "/v1beta/" ++ account ++ text ":runAccessReport",
        buildAccessReportPayload (args.toRequest offset limit)⟩
  | batchItem propertyId _ args => (propertyResourceName propertyId).map fun property =>
      ⟨client.dataBaseUrl ++ text "/v1beta/" ++ property ++ text ":batchRunReports",
        buildRunReportPayload (args.toRequest offset limit)⟩

/-- The request of a funnel. -/
def RunFunnelReportArgs.post (client : AnalyticsClient) (args : RunFunnelReportArgs) :
    Except AnalyticsError Post :=
  (propertyResourceName args.propertyId).map fun property =>
    ⟨client.dataBaseUrl ++ text "/v1alpha/" ++ property ++ text ":runFunnelReport",
      buildRunFunnelReportPayload args.toRequest⟩

section

variable (server : ReportServer) (offset limit : Nat)

theorem fetchRunReport_eq (args : RunReportArgs) :
    fetchRunReport server args offset limit =
      (ReportCall.report args).post server.client offset limit >>= Post.send server.client := by
  rw [fetchRunReport, AnalyticsClient.runReport, ReportCall.post]
  cases propertyResourceName args.propertyId <;> rfl

theorem fetchRunConversionsReport_eq (args : RunConversionsReportArgs) :
    fetchRunConversionsReport server args offset limit =
      (ReportCall.conversions args).post server.client offset limit >>=
        Post.send server.client := by
  rw [fetchRunConversionsReport, AnalyticsClient.runConversionsReport, ReportCall.post]
  change (propertyResourceName args.propertyId).bind _ = _
  cases propertyResourceName args.propertyId <;> rfl

theorem fetchRunPivotReport_eq (args : RunPivotReportArgs) :
    fetchRunPivotReport server args =
      (ReportCall.pivot args).post server.client offset limit >>= Post.send server.client := by
  rw [fetchRunPivotReport, AnalyticsClient.runPivotReport, ReportCall.post]
  cases propertyResourceName args.propertyId <;> rfl

theorem fetchPropertyAccessReport_eq (args : RunAccessReportPropertyArgs) :
    fetchPropertyAccessReport server args offset limit =
      (ReportCall.propertyAccess args).post server.client offset limit >>=
        Post.send server.client := by
  rw [fetchPropertyAccessReport, AnalyticsClient.runPropertyAccessReport,
    AnalyticsClient.runAccessReport, ReportCall.post]
  cases propertyResourceName args.resourceId <;> rfl

theorem fetchAccountAccessReport_eq (args : RunAccessReportAccountArgs) :
    fetchAccountAccessReport server args offset limit =
      (ReportCall.accountAccess args).post server.client offset limit >>=
        Post.send server.client := by
  rw [fetchAccountAccessReport, AnalyticsClient.runAccountAccessReport,
    AnalyticsClient.runAccessReport, ReportCall.post]
  cases accountResourceName args.resourceId <;> rfl

theorem fetchRunFunnelReport_eq (args : RunFunnelReportArgs) :
    fetchRunFunnelReport server args = args.post server.client >>= Post.send server.client := by
  rw [fetchRunFunnelReport, AnalyticsClient.runFunnelReport, RunFunnelReportArgs.post]
  change (propertyResourceName args.propertyId).bind _ = _
  cases propertyResourceName args.propertyId <;> rfl

/-- A batch posts the payloads of its items. -/
theorem fetchBatch_eq (args : BatchRunReportsArgs)
    (prepared : List (TabularResponseOptions × Nat)) {property : Text}
    (hproperty : propertyResourceName args.propertyId = .ok property) :
    ∃ url, fetchBatch server args prepared = server.client.postJson url
        (.ofFields [("requests", .array (List.zipWith
          (fun request prepared => .object
            (buildRunReportPayload (request.toRequest prepared.1.cursorOffset prepared.2)))
          args.requests prepared))]) ∧
      ∀ index request, (ReportCall.batchItem args.propertyId index request).post server.client
        offset limit = .ok ⟨url, buildRunReportPayload (request.toRequest offset limit)⟩ := by
  refine ⟨server.client.dataBaseUrl ++ text "/v1beta/" ++ property ++ text ":batchRunReports",
    ?_, fun index request => ?_⟩
  · rw [fetchBatch, AnalyticsClient.batchRunReports, hproperty]
    dsimp only
    rw [List.map_zipWith]
    rfl
  · rw [ReportCall.post, hproperty]
    rfl

end

/-! ## What a hash tells -/

theorem text_injective : Function.Injective text := fun _ _ h => String.toList_injective h

theorem Json.ofFields_inj {fields others : Signature}
    (hkeys : fields.map Prod.fst = others.map Prod.fst) (hnodup : (fields.map Prod.fst).Nodup)
    (h : Json.ofFields fields = Json.ofFields others) : fields = others := by
  have hfst : ∀ fields : Signature,
      (fields.map fun field => (text field.1, field.2)).map Prod.fst =
        (fields.map Prod.fst).map text := by
    intro fields
    rw [List.map_map, List.map_map]
    rfl
  have hfields := JsonMap.ofFields_inj (by rw [hfst, hfst, hkeys])
    (by rw [hfst]; exact hnodup.map text_injective) (Json.object.inj h)
  refine List.map_injective_iff.mpr (fun a b hab => ?_) hfields
  rw [Prod.mk.injEq] at hab
  exact Prod.ext (text_injective hab.1) hab.2

/-- A signature whose keys are converted tells the converted values. -/
theorem Json.camelSignature_eq_iff {fields others : Signature}
    (hkeys : fields.map Prod.fst = others.map Prod.fst)
    (hnodup : ((fields.map Prod.fst).map fun key => snakeKeyToCamel (text key)).Nodup) :
    snakeToCamelJson (.ofFields fields) = snakeToCamelJson (.ofFields others) ↔
      fields.map (snakeToCamelJson ∘ Prod.snd) = others.map (snakeToCamelJson ∘ Prod.snd) := by
  have hcamel : ∀ fields : Signature,
      ((fields.map Prod.fst).map fun key => snakeKeyToCamel (text key)).Nodup →
      snakeToCamelJson (.ofFields fields) = .object (JsonMap.ofFields
        (List.zip ((fields.map Prod.fst).map fun key => snakeKeyToCamel (text key))
          (fields.map (snakeToCamelJson ∘ Prod.snd)))) := by
    intro fields hnodup
    rw [ofFields, snakeToCamelJson_ofFields (by rw [List.map_map] at hnodup ⊢; exact hnodup),
      List.map_map, List.map_map, List.zip_map']
    rfl
  rw [hcamel fields hnodup, hcamel others (hkeys ▸ hnodup), ← hkeys]
  have hlength : ∀ others : Signature, fields.map Prod.fst = others.map Prod.fst →
      ((fields.map Prod.fst).map fun key => snakeKeyToCamel (text key)).length =
        (others.map (snakeToCamelJson ∘ Prod.snd)).length := by
    intro others hkeys
    rw [hkeys, List.length_map, List.length_map, List.length_map]
  refine ⟨fun h => ?_, fun h => by rw [h]⟩
  have hzip := JsonMap.ofFields_inj
    (by rw [List.map_fst_zip (hlength fields rfl).le, List.map_fst_zip (hlength others hkeys).le])
    (by rw [List.map_fst_zip (hlength fields rfl).le]; exact hnodup) (Json.object.inj h)
  rw [← List.map_snd_zip (hlength fields rfl).ge, hzip,
    List.map_snd_zip (hlength others hkeys).ge]

/-- What is hashed of a signature. -/
def canonicalText (signature : Json) : Text := signature.sortObject.render

/-- **Without a collision** a query hash tells the signature. -/
theorem stableQueryHash_inj {hasher : Text → UInt64} {asked : Set Text}
    (hcollision : Set.InjOn hasher asked) {signature other : Json}
    (hvalid : signature.Valid) (hvalid' : other.Valid) (hasked : canonicalText signature ∈ asked)
    (hasked' : canonicalText other ∈ asked)
    (h : stableQueryHash hasher signature = stableQueryHash hasher other) : signature = other := by
  have htext := hcollision hasked hasked' (hex16_injective h)
  rw [canonicalText, canonicalText, Json.sortObject_of_valid _ hvalid,
    Json.sortObject_of_valid _ hvalid'] at htext
  exact Json.render_injective hvalid hvalid' htext

end Ga4Mcp.Tools
