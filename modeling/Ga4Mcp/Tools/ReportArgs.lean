/-
  The arguments of the report tools and their checks, of `src/tools.rs`.

  A request fails with the first check that fails; every error names the field it is
  about. The debug form of a string, which two messages show, is a parameter.
-/
import Ga4Mcp.Tools.Client
import Ga4Mcp.Tools.Contract
import Ga4Mcp.Tools.Cursor

namespace Ga4Mcp.Tools

open Ga4Mcp.Lib

/-! ## Arguments -/

/-- The arguments about the shape of the response, which every tabular tool has. -/
structure TabularControls where
  maxRows : Option Nat
  cursor : Option Text
  outputMode : Option OutputMode
  summaryOnly : Bool
  maxCellChars : Option Nat

/-- The arguments of one report of a batch. -/
structure BatchRunReportItemArgs extends ReportFields, TabularControls where
  limit : Option Nat
  offset : Option Nat
  currencyCode : Option Text
  returnPropertyQuota : Bool

/-- The arguments of `batch_run_reports`. -/
structure BatchRunReportsArgs where
  propertyId : PropertyId
  requests : List BatchRunReportItemArgs

/-- The arguments of `run_report`: those of a report in a batch, with a property. -/
structure RunReportArgs extends BatchRunReportItemArgs where
  propertyId : PropertyId

/-- How a conversion is attributed. -/
inductive AttributionModel where
  | dataDriven
  | lastClick
deriving DecidableEq, Repr

/-- The upstream name of a model. -/
def AttributionModel.asStr : AttributionModel → Text
  | dataDriven => text "DATA_DRIVEN"
  | lastClick => text "LAST_CLICK"

/-- Which conversions are counted. -/
structure ConversionSpecArgs where
  conversionActions : List Text
  attributionModel : Option AttributionModel

/-- The arguments of `run_conversions_report`. -/
structure RunConversionsReportArgs extends RunReportArgs where
  conversionSpec : ConversionSpecArgs

/-- `RunAccessReportPropertyArgs` and `RunAccessReportAccountArgs`: `resourceId` is the
    property or the account. -/
structure RunAccessReportArgs extends ReportFields, TabularControls where
  resourceId : ResourceId
  offset : Option Nat
  limit : Option Nat
  timeZone : Option Text

/-- The arguments of `run_property_access_report`. -/
abbrev RunAccessReportPropertyArgs := RunAccessReportArgs

/-- The arguments of `run_account_access_report`. -/
abbrev RunAccessReportAccountArgs := RunAccessReportArgs

/-- The arguments of `run_pivot_report`; it has no window. -/
structure RunPivotReportArgs extends ReportFields, TabularControls where
  propertyId : PropertyId
  pivots : List Json
  currencyCode : Option Text
  keepEmptyRows : Bool
  returnPropertyQuota : Bool

/-! ## Lists of names and dates -/

def maxDimensions : Nat := 50

def maxMetrics : Nat := 50

/-- Whether a name is blank. -/
def hasBlank (values : List Text) : Bool := values.any fun value => (Text.trim value).isEmpty

/-- Both lists are there, not too long, and without blanks. -/
def validateMetricLists (dimensions metrics : List Text) : Except AnalyticsError Unit := do
  refuseIf dimensions.isEmpty
    (.invalidArgument (text "dimensions") (text "must include at least one dimension"))
  refuseIf metrics.isEmpty
    (.invalidArgument (text "metrics") (text "must include at least one metric"))
  refuseIf (dimensions.length > maxDimensions) (.invalidArgument (text "dimensions")
    (text "must include at most " ++ Text.decimal maxDimensions ++ text " entries"))
  refuseIf (metrics.length > maxMetrics) (.invalidArgument (text "metrics")
    (text "must include at most " ++ Text.decimal maxMetrics ++ text " entries"))
  refuseIf (hasBlank dimensions)
    (.invalidArgument (text "dimensions") (text "contains an empty entry"))
  refuseIf (hasBlank metrics) (.invalidArgument (text "metrics") (text "contains an empty entry"))

/-- A value under either of two keys, if it is a string that is not blank. -/
def nonBlankString (fields : JsonMap) (key camelKey : Text) : Option Text :=
  (((JsonMap.get fields key <|> JsonMap.get fields camelKey).bind Json.asStr).map
    Text.trim).filter fun value => ¬ value.isEmpty

/-- A date range is an object with both of its dates. -/
def validateDateRange (dateRange : Json) (idx : Nat) : Except AnalyticsError Unit := do
  let label := text "date_ranges[" ++ Text.decimal idx ++ text "]"
  let fields ← okOr dateRange.asObject (.invalidArgument (text "date_ranges") (label ++
    text (" must be an object like " ++
      "\x7b\"start_date\":\"2026-02-01\",\"end_date\":\"2026-02-07\"\x7d")))
  refuseIf ((nonBlankString fields (text "start_date") (text "startDate")).isNone ∨
      (nonBlankString fields (text "end_date") (text "endDate")).isNone)
    (.invalidArgument (text "date_ranges") (label ++
      text " must include non-empty start_date/startDate and end_date/endDate strings"))

/-- Each date range, with its index in the error. -/
def validateDateRangesShape (dateRanges : List Json) : Except AnalyticsError Unit :=
  dateRanges.zipIdx.forM fun dateRange => validateDateRange dateRange.1 dateRange.2

/-- The checks that the report tools share. -/
def validateReportInputs (fields : ReportFields) (limit offset : Option Nat) :
    Except AnalyticsError Unit := do
  validateMetricLists fields.dimensions fields.metrics
  refuseIf fields.dateRanges.isEmpty
    (.invalidArgument (text "date_ranges") (text "must include at least one date range"))
  validateDateRangesShape fields.dateRanges
  validateLimitOffset limit offset

/-- The window of an accepted request. -/
theorem validateReportInputs_ok {fields : ReportFields} {limit offset : Option Nat}
    (h : validateReportInputs fields limit offset = .ok ()) :
    (∀ value ∈ limit, 0 < value ∧ value ≤ maxReportLimit) ∧
      ∀ value ∈ offset, value ≤ maxReportLimit * 10 := by
  obtain ⟨⟨⟩, -, h⟩ := bind_eq_ok.mp h
  obtain ⟨⟨⟩, -, h⟩ := bind_eq_ok.mp h
  obtain ⟨⟨⟩, -, h⟩ := bind_eq_ok.mp h
  exact validateLimitOffset_eq_ok.mp h

/-- An offset may be left out. -/
theorem validateReportInputs_noOffset {fields : ReportFields} {limit offset : Option Nat}
    (h : validateReportInputs fields limit offset = .ok ()) :
    validateReportInputs fields limit none = .ok () := by
  have hlimit := (validateReportInputs_ok h).1
  obtain ⟨⟨⟩, hlists, h⟩ := bind_eq_ok.mp h
  obtain ⟨⟨⟩, hranges, h⟩ := bind_eq_ok.mp h
  obtain ⟨⟨⟩, hshape, -⟩ := bind_eq_ok.mp h
  exact bind_eq_ok.mpr ⟨(), hlists, bind_eq_ok.mpr ⟨(), hranges, bind_eq_ok.mpr ⟨(), hshape,
    validateLimitOffset_eq_ok.mpr ⟨hlimit, by simp⟩⟩⟩⟩

/-! ## Conversions -/

/-- The dimensions of conversions reports. -/
def conversionDimensions : List Text :=
  ["campaignName", "continent", "country", "defaultChannelGroup", "deviceCategory", "medium",
    "platform", "primaryChannelGroup", "source", "sourceMedium", "sourcePlatform",
    "subcontinent"].map text

/-- The metrics of conversions reports. -/
def conversionMetrics : List Text :=
  ["advertiserAdClicks", "advertiserAdCost", "advertiserAdCostPerAllConversionsByConversionDate",
    "advertiserAdCostPerAllConversionsByInteractionDate", "advertiserAdCostPerClick",
    "advertiserAdImpressions", "allConversionsByConversionDate",
    "allConversionsByInteractionDate", "returnOnAdSpendByConversionDate",
    "returnOnAdSpendByInteractionDate", "totalRevenueByConversionDate",
    "totalRevenueByInteractionDate"].map text

def maxConversionActions : Nat := 50

def maxProviderBoundaryJsonBytes : Nat := 64 * 1024

/-- The common check of the two lists of supported names. -/
def validateSupportedNames (debug : Text → Text) (field kind : Text) (supported names : List Text) :
    Except AnalyticsError Unit :=
  names.forM fun name =>
    refuseIf (name ∉ supported) (.invalidArgument field
      (text "unsupported conversion-report " ++ kind ++ text " " ++ debug name ++
        text "; allowed values: " ++ (text ", ").intercalate supported))

/-- `conversionActions/` before a number. -/
def validConversionAction (action : Text) : Bool :=
  match Text.stripPrefix action (text "conversionActions/") with
  | some id => ¬ id.isEmpty && id.all Char.isDigit
  | none => false

/-- The checks of `run_conversions_report`, those of a report first. -/
def validateConversionsReportInputs (debug : Text → Text) (args : RunConversionsReportArgs) :
    Except AnalyticsError Unit := do
  validateReportInputs args.toReportFields args.limit args.offset
  validateSupportedNames debug (text "dimensions") (text "dimension") conversionDimensions
    args.dimensions
  validateSupportedNames debug (text "metrics") (text "metric") conversionMetrics args.metrics
  refuseIf (args.conversionSpec.conversionActions.length > maxConversionActions)
    (.invalidArgument (text "conversion_spec") (text "conversion_actions must include at most " ++
      Text.decimal maxConversionActions ++ text " entries"))
  args.conversionSpec.conversionActions.zipIdx.forM fun action =>
    refuseIf (¬ validConversionAction action.1) (.invalidArgument (text "conversion_spec")
      (text "conversion_actions[" ++ Text.decimal action.2 ++
        text "] must use conversionActions/<numeric-id>"))

theorem validateConversionsReportInputs_ok {debug : Text → Text} {args : RunConversionsReportArgs}
    (h : validateConversionsReportInputs debug args = .ok ()) :
    validateReportInputs args.toReportFields args.limit args.offset = .ok () := by
  obtain ⟨⟨⟩, hinputs, -⟩ := bind_eq_ok.mp h
  exact hinputs

theorem validateConversionsReportInputs_noOffset {debug : Text → Text}
    {args : RunConversionsReportArgs} (h : validateConversionsReportInputs debug args = .ok ())
    (cursor : Text) :
    validateConversionsReportInputs debug { args with offset := none, cursor := some cursor } =
      .ok () := by
  obtain ⟨⟨⟩, hinputs, hrest⟩ := bind_eq_ok.mp h
  exact bind_eq_ok.mpr ⟨(), validateReportInputs_noOffset hinputs, hrest⟩

/-- The rendered payload is within the bound. -/
def validateProviderBoundaryJsonSize (field : Text) (payload : Json) :
    Except AnalyticsError Unit :=
  let size := Text.len payload.render
  refuseIf (size > maxProviderBoundaryJsonBytes) (.invalidArgument field
    (text "combined provider-boundary JSON must be <= " ++
      Text.decimal maxProviderBoundaryJsonBytes ++ text " bytes (received " ++
      Text.decimal size ++ text ")"))

/-! ## Pivots -/

/-- A positive number, or a text of one. -/
def parsePositiveU64 (value : Json) : Option Nat :=
  (value.asU64.filter fun raw => 0 < raw) <|>
    ((value.asStr.bind fun raw => parseU64 (Text.trim raw)).filter fun value => 0 < value)

/-- An error about the pivot with this index. -/
def pivotError (idx : Nat) (message : Text) : AnalyticsError :=
  .invalidArgument (text "pivots") (text "pivot[" ++ Text.decimal idx ++ text "]" ++ message)

/-- A field name is a text, not blank, and among the dimensions. -/
def validatePivotFieldName (dimensionNames : List Text) (idx : Nat) (fieldName : Json) :
    Except AnalyticsError Unit := do
  let fieldName ← okOr (fieldName.asStr.map Text.trim)
    (pivotError idx (text ".field_names entries must be strings"))
  refuseIf fieldName.isEmpty
    (pivotError idx (text ".field_names must not include empty entries"))
  refuseIf (fieldName ∉ dimensionNames) (pivotError idx
    (text " field '" ++ fieldName ++ text "' must also be present in dimensions"))

/-- One round of the loop of `validate_pivots`: the limit of the pivot. -/
def validatePivot (dimensionNames : List Text) (idx : Nat) (pivot : Json) :
    Except AnalyticsError Nat := do
  let fields ← okOr pivot.asObject (pivotError idx (text " must be an object"))
  let fieldNamesValue ← okOr
    (JsonMap.get fields (text "field_names") <|> JsonMap.get fields (text "fieldNames"))
    (pivotError idx (text " must include field_names"))
  let fieldNames ← okOr fieldNamesValue.asArray
    (pivotError idx (text ".field_names must be an array"))
  refuseIf fieldNames.isEmpty (pivotError idx (text ".field_names must not be empty"))
  fieldNames.forM (validatePivotFieldName dimensionNames idx)
  return ((JsonMap.get fields (text "limit")).bind parsePositiveU64).getD 10

/-- The loop, with the product of the limits so far. The product is refused before it can
    leave `u128`. -/
def validatePivotsFrom (dimensionNames : List Text) :
    Nat → List (Json × Nat) → Except AnalyticsError Unit
  | _, [] => .ok ()
  | pivotLimitProduct, pivot :: pivots => do
      let pivotLimit ← validatePivot dimensionNames pivot.2 pivot.1
      refuseIf (pivotLimitProduct * pivotLimit > 100000)
        (.invalidArgument (text "pivots") (text "pivot limit product must be <= 100000"))
      validatePivotsFrom dimensionNames (pivotLimitProduct * pivotLimit) pivots

/-- There are pivots, and each is right. -/
def validatePivots (pivots : List Json) (dimensions : List Text) : Except AnalyticsError Unit := do
  refuseIf pivots.isEmpty
    (.invalidArgument (text "pivots") (text "must include at least one pivot definition"))
  let dimensionNames := (dimensions.map Text.trim).filter fun value => ¬ value.isEmpty
  validatePivotsFrom dimensionNames 1 pivots.zipIdx

/-- The checks of `run_pivot_report`. -/
def validatePivotInputs (fields : ReportFields) (pivots : List Json) :
    Except AnalyticsError Unit := do
  validateReportInputs fields none none
  validatePivots pivots fields.dimensions

/-! ## Batches -/

def maxBatchReportRequests : Nat := 5

/-- The number of reports in a batch. -/
def validateBatchRunReportsInputs (requests : List BatchRunReportItemArgs) :
    Except AnalyticsError Unit := do
  refuseIf requests.isEmpty
    (.invalidArgument (text "requests") (text "must include at least one report request"))
  refuseIf (requests.length > maxBatchReportRequests) (.invalidArgument (text "requests")
    (text "must include <= " ++ Text.decimal maxBatchReportRequests ++ text " report requests"))

theorem validateBatchRunReportsInputs_eq_ok {requests : List BatchRunReportItemArgs} :
    validateBatchRunReportsInputs requests = .ok () ↔
      0 < requests.length ∧ requests.length ≤ maxBatchReportRequests := by
  have hempty : ¬ requests.isEmpty = true ↔ 0 < requests.length := by
    rw [List.isEmpty_iff, List.length_pos_iff]
  unfold validateBatchRunReportsInputs
  rw [← hempty]
  constructor
  · intro h
    obtain ⟨⟨⟩, hsome, h⟩ := bind_eq_ok.mp h
    exact ⟨refuseIf_eq_ok.mp hsome, Nat.not_lt.mp (refuseIf_eq_ok.mp h)⟩
  · rintro ⟨hsome, hfew⟩
    exact bind_eq_ok.mpr ⟨(), refuseIf_eq_ok.mpr hsome, refuseIf_eq_ok.mpr (Nat.not_lt.mpr hfew)⟩

/-! ## The shape of an upstream response -/

/-- An error about an answer of this kind of report. -/
def responseError (reportKind message : Text) : AnalyticsError :=
  .internal (text "Google " ++ reportKind ++ text " response " ++ message)

/-- An array of objects; `label` names the array and `entry` its entries. -/
def validateObjectArray (reportKind label entry : Text) (value : Json) :
    Except AnalyticsError Unit := do
  let values ← okOr value.asArray (responseError reportKind (label ++ text " must be an array"))
  values.zipIdx.forM fun value =>
    refuseIf (¬ value.1.isObject) (responseError reportKind
      (entry ++ text "[" ++ Text.decimal value.2 ++ text "] must be an object"))

/-- The two lists of values of a row, where they are there. -/
def validateResponseRow (reportKind : Text) (row : Json) (rowIndex : Nat) :
    Except AnalyticsError Unit := do
  let label := text "rows[" ++ Text.decimal rowIndex ++ text "]"
  let fields ← okOr row.asObject (responseError reportKind (label ++ text " must be an object"))
  ["dimensionValues", "metricValues"].forM fun fieldName =>
    ifSome (JsonMap.get fields (text fieldName)) (validateObjectArray reportKind
      (label ++ text "." ++ text fieldName) (label ++ text "." ++ text fieldName))

/-- The parts of an answer that a projection reads have their types. -/
def validateGaTabularResponseShape (response : Json) (reportKind : Text) :
    Except AnalyticsError Unit := do
  let fields ← okOr response.asObject (responseError reportKind (text "must be an object"))
  ifSome (JsonMap.get fields (text "rowCount")) fun rowCount =>
    refuseIf rowCount.asU64.isNone
      (responseError reportKind (text "field rowCount must be a non-negative integer"))
  ["dimensionHeaders", "metricHeaders"].forM fun fieldName =>
    ifSome (JsonMap.get fields (text fieldName))
      (validateObjectArray reportKind (text "field " ++ text fieldName) (text fieldName))
  ifSome (JsonMap.get fields (text "rows")) fun rawRows => do
    let rows ← okOr rawRows.asArray
      (responseError reportKind (text "field rows must be an array"))
    ifSome ((JsonMap.get fields (text "rowCount")).bind Json.asU64) fun rowCount =>
      refuseIf (rowCount < rows.length) (responseError reportKind
        (text "field rowCount must be at least the number of returned rows"))
    rows.zipIdx.forM fun row => validateResponseRow reportKind row.1 row.2

end Ga4Mcp.Tools
