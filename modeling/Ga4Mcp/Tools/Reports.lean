/-
  The paginated GA report tools, of `src/tools.rs`: query hashes and handlers.

  A handler checks its arguments, resolves the page window, asks the upstream and projects
  the answer; `gaProjectionPayloadAndMeta` writes the reply. The handlers are one pipeline
  (`prepareReport`, `reportPage`) with the parts of each tool put in. The envelope with the
  elapsed time and the log events are left out.
-/
import Ga4Mcp.Tools.Projection
import Ga4Mcp.Tools.ReportArgs

namespace Ga4Mcp.Tools

open Ga4Mcp.Lib

/-- What the report tools use of the server: the upstream client, `DefaultHasher` on one
    text, and the debug form of a string. -/
structure ReportServer where
  client : AnalyticsClient
  hasher : Text → UInt64
  debug : Text → Text

/-! ## Query hashes -/

/-- The fields of the signature that every report has. -/
def ReportFields.signature (fields : ReportFields) : List (String × Json) :=
  [("date_ranges", .array fields.dateRanges),
    ("dimensions", .ofTexts fields.dimensions),
    ("metrics", .ofTexts fields.metrics),
    ("dimension_filter", .ofOption fields.dimensionFilter),
    ("metric_filter", .ofOption fields.metricFilter),
    ("order_bys", .ofOption (fields.orderBys.map .array))]

/-- A text, or null. -/
def optionalText (value : Option Text) : Json := .ofOption (value.map .string)

section Hashes

variable (hasher : Text → UInt64)

/-- The query hash of `run_report`. -/
def runReportQueryHash (args : RunReportArgs) : Except AnalyticsError Text := do
  let property ← propertyResourceName args.propertyId
  return stableQueryHash hasher (.ofFields (
    [("tool", .string (text "run_report")), ("property", .string property)] ++
    args.toReportFields.signature ++
    [("currency_code", optionalText args.currencyCode),
      ("return_property_quota", .bool args.returnPropertyQuota)]))

/-- The serialised `conversion_spec`. -/
def ConversionSpecArgs.toJson (spec : ConversionSpecArgs) : Json :=
  .ofFields [("conversion_actions", .ofTexts spec.conversionActions),
    ("attribution_model", optionalText (spec.attributionModel.map AttributionModel.asStr))]

/-- The query hash of `run_conversions_report`, over trimmed names. -/
def runConversionsReportQueryHash (args : RunConversionsReportArgs) :
    Except AnalyticsError Text := do
  let property ← propertyResourceName args.propertyId
  let fields := { args.toReportFields with
    dimensions := args.dimensions.map Text.trim
    metrics := args.metrics.map Text.trim }
  return stableQueryHash hasher (Json.snakeToCamelJson (.ofFields (
    [("tool", .string (text "run_conversions_report")), ("property", .string property)] ++
    fields.signature ++
    [("conversion_spec", args.conversionSpec.toJson),
      ("currency_code", optionalText (args.currencyCode.map Text.trim)),
      ("return_property_quota", .bool args.returnPropertyQuota)])))

/-- The query hash of `run_pivot_report`. -/
def runPivotQueryHash (args : RunPivotReportArgs) : Except AnalyticsError Text := do
  let property ← propertyResourceName args.propertyId
  return stableQueryHash hasher (.ofFields (
    [("tool", .string (text "run_pivot_report")), ("property", .string property)] ++
    args.toReportFields.signature ++
    [("pivots", .array args.pivots), ("currency_code", optionalText args.currencyCode),
      ("keep_empty_rows", .bool args.keepEmptyRows),
      ("return_property_quota", .bool args.returnPropertyQuota)]))

/-- The query hash of `run_property_access_report`. -/
def runPropertyAccessQueryHash (args : RunAccessReportPropertyArgs) :
    Except AnalyticsError Text := do
  let property ← propertyResourceName args.resourceId
  return stableQueryHash hasher (.ofFields (
    [("tool", .string (text "run_property_access_report")), ("property", .string property)] ++
    args.toReportFields.signature ++ [("time_zone", optionalText args.timeZone)]))

/-- The query hash of `run_account_access_report`. -/
def runAccountAccessQueryHash (args : RunAccessReportAccountArgs) :
    Except AnalyticsError Text := do
  let account ← accountResourceName args.resourceId
  return stableQueryHash hasher (.ofFields (
    [("tool", .string (text "run_account_access_report")), ("account", .string account)] ++
    args.toReportFields.signature ++ [("time_zone", optionalText args.timeZone)]))

/-- The query hash of one report of a batch. -/
def batchRunReportQueryHash (property : Text) (index : Nat) (args : BatchRunReportItemArgs) :
    Text :=
  stableQueryHash hasher (.ofFields (
    [("tool", .string (text "batch_run_reports")), ("property", .string property),
      ("index", .ofNat index)] ++
    args.toReportFields.signature ++
    [("currency_code", optionalText args.currencyCode),
      ("return_property_quota", .bool args.returnPropertyQuota)]))

/-- Every query hash can be read back from a cursor. -/
theorem soundHash_of_signature {resource : Except AnalyticsError Text} {signature : Text → Json}
    {queryHash : Text}
    (h : (do
      let resource ← resource
      return stableQueryHash hasher (signature resource)) = Except.ok queryHash) :
    SoundHash queryHash := by
  obtain ⟨resource, -, h⟩ := bind_eq_ok.mp h
  rw [← pure_eq_ok.mp h]
  exact stableQueryHash_sound _ _

end Hashes

/-! ## The pipeline -/

/-- A page that a handler hands to the emitter. -/
structure ReportPage where
  projection : GaTabularProjection
  options : TabularResponseOptions

/-- The checks, the query hash and the page window: the response options, whose
    `cursorOffset` is the effective offset, and the effective limit. -/
def prepareReport (validated : Except AnalyticsError Unit) (controls : TabularControls)
    (queryHash : Except AnalyticsError Text) (requestedOffset requestedLimit : Option Nat) :
    Except AnalyticsError (TabularResponseOptions × Nat) := do
  validated
  validateTabularControls controls.maxRows controls.maxCellChars controls.cursor
  let queryHash ← queryHash
  let window ← resolveCursorWindow queryHash controls.cursor requestedOffset controls.maxRows
    requestedLimit
  return (⟨queryHash, controls.outputMode.getD .rows, controls.summaryOnly,
    controls.maxCellChars, window.1, true⟩, window.2)

/-- The page, from the effective offset and limit. -/
def reportPage (prepared : Except AnalyticsError (TabularResponseOptions × Nat))
    (project : Nat → Nat → Except AnalyticsError GaTabularProjection) :
    Except AnalyticsError ReportPage := do
  let prepared ← prepared
  let projection ← project prepared.1.cursorOffset prepared.2
  return ⟨projection, prepared.1⟩

/-- `contract_success_ga_projection`. -/
def reportReply (page : ReportPage) : Json × Json :=
  gaProjectionPayloadAndMeta page.projection page.options

/-! ## The handlers -/

section Handlers

variable (server : ReportServer)

/-- The request of an item, with the effective window. -/
def BatchRunReportItemArgs.toRequest (args : BatchRunReportItemArgs) (offset limit : Nat) :
    BatchRunReportItemRequest :=
  { args.toReportFields with
    limit := some limit
    offset := some offset
    currencyCode := args.currencyCode
    returnPropertyQuota := args.returnPropertyQuota }

/-- The call up to its request. -/
def prepareRunReport (args : RunReportArgs) :
    Except AnalyticsError (TabularResponseOptions × Nat) :=
  prepareReport (validateReportInputs args.toReportFields args.limit args.offset)
    args.toTabularControls (runReportQueryHash server.hasher args) args.offset args.limit

/-- The request for a window. -/
def fetchRunReport (args : RunReportArgs) (offset limit : Nat) : Except AnalyticsError Json :=
  server.client.runReport
    { args.toBatchRunReportItemArgs.toRequest offset limit with propertyId := args.propertyId }

/-- The page of a call. -/
def runReportPage (args : RunReportArgs) : Except AnalyticsError ReportPage :=
  reportPage (prepareRunReport server args) fun offset limit => do
    let data ← fetchRunReport server args offset limit
    return projectGaTabularResponse data (text "run_report")

def runReport (args : RunReportArgs) : Except AnalyticsError (Json × Json) :=
  (runReportPage server args).map reportReply

/-- The request of the two access reports. -/
def RunAccessReportArgs.toRequest (args : RunAccessReportArgs) (offset limit : Nat) :
    RunAccessReportRequest :=
  { args.toReportFields with
    offset := some offset
    limit := some limit
    timeZone := args.timeZone }

/-- The common part of the two access reports. -/
def prepareAccessReport (args : RunAccessReportArgs) (queryHash : Except AnalyticsError Text) :
    Except AnalyticsError (TabularResponseOptions × Nat) :=
  prepareReport (validateReportInputs args.toReportFields args.limit args.offset)
    args.toTabularControls queryHash args.offset args.limit

/-- The request for a window. -/
def fetchPropertyAccessReport (args : RunAccessReportPropertyArgs) (offset limit : Nat) :
    Except AnalyticsError Json :=
  server.client.runPropertyAccessReport args.resourceId (args.toRequest offset limit)

/-- The page of a call. -/
def runPropertyAccessReportPage (args : RunAccessReportPropertyArgs) :
    Except AnalyticsError ReportPage :=
  reportPage (prepareAccessReport args (runPropertyAccessQueryHash server.hasher args))
    fun offset limit => do
      let data ← fetchPropertyAccessReport server args offset limit
      return projectGaTabularResponse data (text "run_property_access_report")

def runPropertyAccessReport (args : RunAccessReportPropertyArgs) :
    Except AnalyticsError (Json × Json) :=
  (runPropertyAccessReportPage server args).map reportReply

/-- The request for a window. -/
def fetchAccountAccessReport (args : RunAccessReportAccountArgs) (offset limit : Nat) :
    Except AnalyticsError Json :=
  server.client.runAccountAccessReport args.resourceId (args.toRequest offset limit)

/-- The page of a call. -/
def runAccountAccessReportPage (args : RunAccessReportAccountArgs) :
    Except AnalyticsError ReportPage :=
  reportPage (prepareAccessReport args (runAccountAccessQueryHash server.hasher args))
    fun offset limit => do
      let data ← fetchAccountAccessReport server args offset limit
      return projectGaTabularResponse data (text "run_account_access_report")

def runAccountAccessReport (args : RunAccessReportAccountArgs) :
    Except AnalyticsError (Json × Json) :=
  (runAccountAccessReportPage server args).map reportReply

/-- The request of a conversions report with this window. -/
def buildConversionsReportRequest (args : RunConversionsReportArgs)
    (effectiveLimit effectiveOffset : Nat) : RunConversionsReportRequest :=
  { args.toBatchRunReportItemArgs.toRequest effectiveOffset effectiveLimit with
    propertyId := args.propertyId
    conversionSpec := .object (
      JsonMap.insert (text "conversion_actions") (.ofTexts args.conversionSpec.conversionActions) []
      |> JsonMap.insertSome (text "attribution_model")
        (args.conversionSpec.attributionModel.map fun model => .string model.asStr)) }

/-- The payload that the size bound is about. -/
def normalizedConversionsProviderBoundaryPayload (args : RunConversionsReportArgs)
    (effectiveLimit effectiveOffset : Nat) : Json :=
  .object (buildRunConversionsReportPayload
    (buildConversionsReportRequest args effectiveLimit effectiveOffset))

/-- The offset and the limit. -/
def conversionsReportFallbackWindow (args : RunConversionsReportArgs) : Nat × Nat :=
  let responseLimit := min (max (args.maxRows.getD defaultTabularMaxRows) 1) maxTabularMaxRows
  let effectiveLimit := max (min (args.limit.getD responseLimit) responseLimit) 1
  let effectiveOffset :=
    if args.cursor.isSome then 0 else min (args.offset.getD 0) (maxReportLimit * 10)
  (effectiveOffset, effectiveLimit)

/-- The check of the payload with one window. -/
def checkConversionsPayload (args : RunConversionsReportArgs)
    (effectiveLimit effectiveOffset : Nat) : Except AnalyticsError Unit :=
  validateProviderBoundaryJsonSize (text "provider_payload")
    (normalizedConversionsProviderBoundaryPayload args effectiveLimit effectiveOffset)

/-- The call up to its request. -/
def prepareRunConversionsReport (args : RunConversionsReportArgs) :
    Except AnalyticsError (TabularResponseOptions × Nat) :=
  prepareReport (validateConversionsReportInputs server.debug args) args.toTabularControls
    (do
      -- checked with the fallback window, before the cursor is read
      let fallback := conversionsReportFallbackWindow args
      checkConversionsPayload args fallback.2 fallback.1
      runConversionsReportQueryHash server.hasher args)
    args.offset args.limit

/-- The request for a window. -/
def fetchRunConversionsReport (args : RunConversionsReportArgs) (offset limit : Nat) :
    Except AnalyticsError Json :=
  server.client.runConversionsReport (buildConversionsReportRequest args limit offset)

/-- The page of a call. -/
def runConversionsReportPage (args : RunConversionsReportArgs) :
    Except AnalyticsError ReportPage :=
  reportPage (prepareRunConversionsReport server args) fun offset limit => do
    -- and again with the effective one
    checkConversionsPayload args limit offset
    let data ← fetchRunConversionsReport server args offset limit
    validateGaTabularResponseShape data (text "run_conversions_report")
    return truncateRows (projectGaTabularResponse data (text "run_conversions_report")) limit

def runConversionsReport (args : RunConversionsReportArgs) :
    Except AnalyticsError (Json × Json) :=
  (runConversionsReportPage server args).map reportReply

/-- The call up to its request. -/
def prepareRunPivotReport (args : RunPivotReportArgs) :
    Except AnalyticsError (TabularResponseOptions × Nat) :=
  prepareReport (validatePivotInputs args.toReportFields args.pivots) args.toTabularControls
    (runPivotQueryHash server.hasher args) none none

/-- The one request; it has no window. -/
def fetchRunPivotReport (args : RunPivotReportArgs) : Except AnalyticsError Json :=
  server.client.runPivotReport
    { args.toReportFields with
      propertyId := args.propertyId
      pivots := args.pivots
      currencyCode := args.currencyCode
      keepEmptyRows := args.keepEmptyRows
      returnPropertyQuota := args.returnPropertyQuota }

/-- The upstream has no window here; it is cut locally. -/
def runPivotReportPage (args : RunPivotReportArgs) : Except AnalyticsError ReportPage :=
  reportPage (prepareRunPivotReport server args) fun offset limit => do
    let data ← fetchRunPivotReport server args
    return applyLocalWindowToProjection (projectGaTabularResponse data (text "run_pivot_report"))
      offset limit (text "run_pivot_report")

def runPivotReport (args : RunPivotReportArgs) : Except AnalyticsError (Json × Json) :=
  (runPivotReportPage server args).map reportReply

/-! ## Batches -/

/-- One report of a batch, up to the request. -/
def prepareBatchItem (property : Text) (request : BatchRunReportItemArgs) (index : Nat) :
    Except AnalyticsError (TabularResponseOptions × Nat) :=
  prepareReport (validateReportInputs request.toReportFields request.limit request.offset)
    request.toTabularControls (.ok (batchRunReportQueryHash server.hasher property index request))
    request.offset request.limit

/-- All the reports of a batch, up to the request. -/
def prepareBatch (args : BatchRunReportsArgs) :
    Except AnalyticsError (Text × List (TabularResponseOptions × Nat)) := do
  validateBatchRunReportsInputs args.requests
  let property ← propertyResourceName args.propertyId
  let prepared ← args.requests.zipIdx.mapM fun request =>
    prepareBatchItem server property request.1 request.2
  return (property, prepared)

/-- The one request, with a window for each report. -/
def fetchBatch (args : BatchRunReportsArgs) (prepared : List (TabularResponseOptions × Nat)) :
    Except AnalyticsError Json :=
  server.client.batchRunReports
    ⟨args.propertyId, List.zipWith
      (fun request prepared => request.toRequest prepared.1.cursorOffset prepared.2)
      args.requests prepared⟩

/-- The property and the page of each item. -/
def batchRunReportsPages (args : BatchRunReportsArgs) :
    Except AnalyticsError (Text × List ReportPage) := do
  let prepared ← prepareBatch server args
  let data ← fetchBatch server args prepared.2
  let reports ← okOr ((data.get (text "reports")).bind Json.asArray)
    (.internal (text "batch_run_reports response missing 'reports' array"))
  refuseIf (reports.length ≠ prepared.2.length)
    (.internal (text "batch_run_reports response count mismatch: expected " ++
      Text.decimal prepared.2.length ++ text ", got " ++ Text.decimal reports.length))
  return (prepared.1, List.zipWith
    (fun report prepared =>
      ⟨projectGaTabularResponse report (text "batch_run_reports"), prepared.1⟩)
    reports prepared.2)

/-- The reply about one item. -/
def batchItemReply (page : ReportPage) (index : Nat) : Json × Json :=
  let reply := reportReply page
  (reply.1, reply.2.insertField (text "batch_index") (.ofNat index))

def batchRunReports (args : BatchRunReportsArgs) : Except AnalyticsError (Json × Json) := do
  let pages ← batchRunReportsPages server args
  let reportPayloads := pages.2.zipIdx.map fun page =>
    let reply := batchItemReply page.1 page.2
    Json.ofFields [("index", .ofNat page.2), ("data", reply.1), ("meta", reply.2)]
  return (.ofFields [("reports", .array reportPayloads)],
    .ofFields [("batch", .ofFields [
      ("property", .string pages.1),
      ("request_count", .ofNat args.requests.length),
      ("response_count", .ofNat pages.2.length)])])

end Handlers

/-! ## What a page tells -/

theorem prepareReport_eq_ok {validated : Except AnalyticsError Unit} {controls : TabularControls}
    {queryHash : Except AnalyticsError Text} {requestedOffset requestedLimit : Option Nat}
    {prepared : TabularResponseOptions × Nat} :
    prepareReport validated controls queryHash requestedOffset requestedLimit = .ok prepared ↔
      validated = .ok () ∧
      validateTabularControls controls.maxRows controls.maxCellChars controls.cursor = .ok () ∧
      queryHash = .ok prepared.1.queryHash ∧
      resolveCursorOffset prepared.1.queryHash controls.cursor requestedOffset =
        .ok prepared.1.cursorOffset ∧
      prepared = (⟨prepared.1.queryHash, controls.outputMode.getD .rows, controls.summaryOnly,
        controls.maxCellChars, prepared.1.cursorOffset, true⟩,
        resolvePageSize controls.maxRows requestedLimit) := by
  unfold prepareReport
  constructor
  · intro h
    obtain ⟨⟨⟩, hvalidated, h⟩ := bind_eq_ok.mp h
    obtain ⟨⟨⟩, hcontrols, h⟩ := bind_eq_ok.mp h
    obtain ⟨hash, hhash, h⟩ := bind_eq_ok.mp h
    obtain ⟨window, hwindow, h⟩ := bind_eq_ok.mp h
    obtain ⟨hoffset, hlimit⟩ := resolveCursorWindow_eq_ok.mp hwindow
    rw [← pure_eq_ok.mp h]
    exact ⟨hvalidated, hcontrols, hhash, hoffset, by rw [hlimit]⟩
  · rintro ⟨hvalidated, hcontrols, hhash, hoffset, hprepared⟩
    have hwindow : resolveCursorWindow prepared.1.queryHash controls.cursor requestedOffset
        controls.maxRows requestedLimit =
          .ok (prepared.1.cursorOffset, resolvePageSize controls.maxRows requestedLimit) :=
      resolveCursorWindow_eq_ok.mpr ⟨hoffset, rfl⟩
    rw [hvalidated, hcontrols, hhash]
    refine bind_eq_ok.mpr ⟨(), rfl, bind_eq_ok.mpr ⟨(), rfl, bind_eq_ok.mpr ⟨_, rfl,
      bind_eq_ok.mpr ⟨_, hwindow, ?_⟩⟩⟩⟩
    exact congrArg Except.ok hprepared.symm

theorem reportPage_eq_ok {prepared : Except AnalyticsError (TabularResponseOptions × Nat)}
    {project : Nat → Nat → Except AnalyticsError GaTabularProjection} {page : ReportPage} :
    reportPage prepared project = .ok page ↔
      ∃ limit, prepared = .ok (page.options, limit) ∧
        project page.options.cursorOffset limit = .ok page.projection := by
  unfold reportPage
  constructor
  · intro h
    obtain ⟨⟨options, limit⟩, hprepared, h⟩ := bind_eq_ok.mp h
    obtain ⟨projection, hprojection, h⟩ := bind_eq_ok.mp h
    rw [← pure_eq_ok.mp h]
    exact ⟨limit, hprepared, hprojection⟩
  · rintro ⟨limit, hprepared, hprojection⟩
    rw [hprepared]
    exact bind_eq_ok.mpr ⟨_, rfl, bind_eq_ok.mpr ⟨_, hprojection, rfl⟩⟩

end Ga4Mcp.Tools
