/-
  From an upstream report to `data` and `meta`, of `src/tools.rs`: the projection of a GA
  response to rows and columns, its local windows, and the emitter of the GA tools.

  * `nextCursor_gaProjection`, `queryHints_gaProjection`: which cursor and which hints the
    emitter hands out, and for what totals and pages.
  * `gaProjection_data`: what its `data` shows.
-/
import Ga4Mcp.Tools.Contract
import Ga4Mcp.Tools.Cursor

namespace Ga4Mcp.Tools

open Ga4Mcp.Lib

/-- A report as rows and columns. -/
structure GaTabularProjection where
  rows : List JsonMap
  rowCountTotal : Nat
  columns : List ColumnMeta
  gaMeta : Json

/-- What a reply needs to know of its call. -/
structure TabularResponseOptions where
  queryHash : Text
  outputMode : OutputMode
  summaryOnly : Bool
  maxCellChars : Option Nat
  cursorOffset : Nat
  supportsPagination : Bool

/-! ## Columns -/

/-- The name of a column whose header has none. -/
def fallbackColumnName (pref : Text) (idx : Nat) : Text := pref ++ Text.decimal idx

/-- The logical type of a metric. -/
def metricHeaderLogicalType (metricType : Text) : Text :=
  if metricType ∈ ["TYPE_INTEGER", "TYPE_STANDARD", "TYPE_HOURS", "TYPE_SECONDS",
      "TYPE_MILLISECONDS"].map text then text "integer"
  else if metricType = text "TYPE_FLOAT" then text "number"
  else if metricType = text "TYPE_CURRENCY" then text "currency"
  else if metricType ∈ ["TYPE_FEET", "TYPE_MILES", "TYPE_METERS", "TYPE_KILOMETERS"].map text then
    text "distance"
  else if metricType = text "TYPE_MINUTES" then text "duration_minutes"
  else text "number"

/-- The common part of `extract_dimension_columns` and `extract_metric_columns`. -/
def extractColumns (headersField nameField fallback : Text) (logicalType : Json → Text)
    (response : Json) : List ColumnMeta :=
  let column := fun header : Json × Nat =>
    let name := ((header.1.get (text "name") <|> header.1.get nameField).bind Json.asStr).filter
      fun value => ¬ (Text.trim value).isEmpty
    ((ColumnMeta.new (name.getD (fallbackColumnName fallback header.2))).withLogicalType
      (logicalType header.1)).withNullable true
  match (response.get headersField).bind Json.asArray with
  | some headers => headers.zipIdx.map column
  | none => []

/-- The columns of the dimension headers. -/
def extractDimensionColumns (response : Json) : List ColumnMeta :=
  extractColumns (text "dimensionHeaders") (text "dimensionName") (text "dimension_")
    (fun header => ((header.get (text "type")).bind Json.asStr).getD (text "string")) response

/-- The columns of the metric headers. -/
def extractMetricColumns (response : Json) : List ColumnMeta :=
  extractColumns (text "metricHeaders") (text "metricName") (text "metric_")
    (fun header => (((header.get (text "type")).bind Json.asStr).map
      metricHeaderLogicalType).getD (text "number")) response

/-! ## Rows -/

/-- The loop over the columns of one kind; a missing value is null. -/
def insertCells (columns : List ColumnMeta) (values : List Json) (projected : JsonMap) : JsonMap :=
  columns.zipIdx.foldl
    (fun projected column => JsonMap.insert column.1.name
      ((values[column.2]?.bind fun entry => entry.get (text "value")).getD .null) projected)
    projected

/-- A row as an object, dimensions first. -/
def projectGaRow (dimensionColumns metricColumns : List ColumnMeta) (row : Json) : JsonMap :=
  let dimensionValues := ((row.get (text "dimensionValues")).bind Json.asArray).getD []
  let metricValues := ((row.get (text "metricValues")).bind Json.asArray).getD []
  insertCells metricColumns metricValues (insertCells dimensionColumns dimensionValues [])

/-- All the rows of an answer. -/
def projectGaRowsToObjects (response : Json) (dimensionColumns metricColumns : List ColumnMeta) :
    List JsonMap :=
  match (response.get (text "rows")).bind Json.asArray with
  | some rows => rows.map (projectGaRow dimensionColumns metricColumns)
  | none => []

/-- The row count of an answer, as a number or a text. -/
def extractRowCount (response : Json) : Option Nat :=
  (response.get (text "rowCount")).bind fun value =>
    value.asU64 <|> value.asStr.bind fun raw => parseU64 (Text.trim raw)

def projectGaTabularResponse (response : Json) (reportKind : Text) : GaTabularProjection :=
  let dimensionColumns := extractDimensionColumns response
  let metricColumns := extractMetricColumns response
  let rows := projectGaRowsToObjects response dimensionColumns metricColumns
  { rows := rows
    rowCountTotal := (extractRowCount response).getD rows.length
    columns := dimensionColumns ++ metricColumns
    gaMeta := .ofFields [
      ("report_kind", .string reportKind),
      ("kind", .ofOption (response.get (text "kind"))),
      ("metadata", .ofOption (response.get (text "metadata"))),
      ("property_quota", .ofOption (response.get (text "propertyQuota"))),
      ("quota", .ofOption (response.get (text "quota"))),
      ("totals", .ofOption (response.get (text "totals"))),
      ("maximums", .ofOption (response.get (text "maximums"))),
      ("minimums", .ofOption (response.get (text "minimums"))),
      ("aggregates", .ofOption (response.get (text "aggregates"))),
      ("pivot_headers", .ofOption (response.get (text "pivotHeaders"))),
      ("comparisons", .ofOption (response.get (text "comparisons")))] }

/-- The cut of `contract_success_ga_tabular_with_local_cap`. -/
def truncateRows (projection : GaTabularProjection) (localResponseCap : Nat) :
    GaTabularProjection :=
  { projection with rows := projection.rows.take localResponseCap }

/-- A window of the rows, for answers that come whole. -/
def applyLocalWindowToProjection (projection : GaTabularProjection) (offset pageSize : Nat)
    (paginationMode : Text) : GaTabularProjection :=
  let availableRowCount := projection.rows.length
  { projection with
    rows := (projection.rows.drop offset).take pageSize
    rowCountTotal := availableRowCount
    gaMeta := ((projection.gaMeta.insertField (text "pagination_mode") (.string paginationMode)
      ).insertField (text "available_row_count") (.ofNat availableRowCount)
      ).insertField (text "upstream_row_count_total") (.ofNat projection.rowCountTotal) }

/-! ## Payloads -/

/-- A long text cut off, and whether it was. -/
def clipValue (value : Json) (maxChars : Nat) : Json × Bool :=
  match value with
  | .string raw =>
      if raw.length ≤ maxChars then (.string raw, false)
      else (.string (raw.take maxChars ++ text "..."), true)
  | other => (other, false)

/-- A row with its long texts cut off. -/
def clipRow (maxChars : Nat) (row : JsonMap) : JsonMap :=
  JsonMap.ofFields (row.map fun field => (field.1, (clipValue field.2 maxChars).1))

/-- The rows, and how many cells were clipped. -/
def clipRows (rows : List JsonMap) (maxChars : Nat) : List JsonMap × Nat :=
  (rows.map (clipRow maxChars),
    (rows.map fun row => row.countP fun field => (clipValue field.2 maxChars).2).sum)

/-- The rows as arrays, in the order of the columns. -/
def rowsToTuples (rows : List JsonMap) (columns : List ColumnMeta) : Json :=
  .array (rows.map fun row =>
    .array (columns.map fun column => .ofOption (JsonMap.get row column.name)))

/-- The first cell of the first row. -/
def firstScalar (rows : List JsonMap) (columns : List ColumnMeta) : Json :=
  match columns.head? with
  | none => .null
  | some firstColumn => .ofOption (rows.head?.bind fun row => JsonMap.get row firstColumn.name)

/-- The payload of an output mode. -/
def payloadByMode (rows : List JsonMap) (columns : List ColumnMeta) : OutputMode → Json
  | .rows => .array (rows.map .object)
  | .tuples => rowsToTuples rows columns
  | .scalar => firstScalar rows columns
  | .compact => .ofFields [
      ("columns", .ofTexts (columns.map fun column => column.name)),
      ("tuples", rowsToTuples rows columns),
      ("row_count", .ofNat rows.length)]

/-- The hint that a client should go on with `meta.next_cursor`. -/
def continuationHint : Text :=
  text "additional rows are available; continue with meta.next_cursor"

/-- The rows that the payload shows, after the clipping of their cells. -/
def shownRows (rows : List JsonMap) (maxCellChars : Option Nat) : List JsonMap :=
  match maxCellChars with
  | some maxChars => (clipRows rows maxChars).1
  | none => rows

/-- `project_payload_for_mode`: what is shown, and its meta. -/
def projectPayloadForMode (projection : GaTabularProjection) (outputMode : OutputMode)
    (summaryOnly : Bool) (maxCellChars : Option Nat) : Json × TabularMeta :=
  let rows := shownRows projection.rows maxCellChars
  let cellClipping := maxCellChars.map fun maxChars =>
    let clippedCells := (clipRows projection.rows maxChars).2
    Json.ofFields [
      ("enabled", .bool true),
      ("max_cell_chars", .ofNat maxChars),
      ("clipped_cells", .ofNat clippedCells),
      ("applied", .bool (clippedCells > 0))]
  let tabularMeta := TabularMeta.rows projection.rowCountTotal rows.length projection.columns
  let tabularMeta := { tabularMeta with
    outputMode := outputMode
    summaryOnly := summaryOnly
    cellClipping := cellClipping
    queryHints :=
      if projection.rowCountTotal > rows.length then some [continuationHint] else none }
  (if summaryOnly then .null else payloadByMode rows projection.columns outputMode, tabularMeta)

/-! ## The emitter of the GA tools -/

/-- What a realtime report says about its rows that are not shown. -/
def realtimeHint : Text :=
  text "Realtime reports do not support offset pagination; narrow the query or raise its limit"

/-- The meta of a report, with its cursor and hint. -/
def gaTabularMeta (projection : GaTabularProjection) (options : TabularResponseOptions) :
    TabularMeta :=
  let tabularMeta := (projectPayloadForMode projection options.outputMode options.summaryOnly
    options.maxCellChars).2
  let tabularMeta := { tabularMeta with queryHash := some options.queryHash }
  if options.supportsPagination then
    let nextOffset := saturatingAdd options.cursorOffset tabularMeta.rowCountReturned
    { tabularMeta with
      nextCursor :=
        if tabularMeta.rowCountReturned > 0 ∧ nextOffset < projection.rowCountTotal then
          some (encodeCursor options.queryHash nextOffset)
        else none }
  else
    { tabularMeta with
      nextCursor := none
      queryHints := if tabularMeta.truncated then some [realtimeHint] else none }

/-- `data` and `meta`. -/
def gaProjectionPayloadAndMeta (projection : GaTabularProjection)
    (options : TabularResponseOptions) : Json × Json :=
  ((projectPayloadForMode projection options.outputMode options.summaryOnly
      options.maxCellChars).1,
    (gaTabularMeta projection options).toJson.insertField (text "ga4") projection.gaMeta)

/-! ## What the emitter hands out -/

theorem length_shownRows (rows : List JsonMap) (maxCellChars : Option Nat) :
    (shownRows rows maxCellChars).length = rows.length := by
  cases maxCellChars with
  | none => rfl
  | some maxChars => exact List.length_map _

section Emitter

variable (projection : GaTabularProjection) (options : TabularResponseOptions)

theorem queryHints_projectPayload (outputMode : OutputMode) (summaryOnly : Bool)
    (maxCellChars : Option Nat) :
    (projectPayloadForMode projection outputMode summaryOnly maxCellChars).2.queryHints =
      if projection.rowCountTotal > projection.rows.length then some [continuationHint]
      else none := by
  unfold projectPayloadForMode
  dsimp only
  rw [length_shownRows]

theorem rowCountReturned_projectPayload (outputMode : OutputMode) (summaryOnly : Bool)
    (maxCellChars : Option Nat) :
    (projectPayloadForMode projection outputMode summaryOnly maxCellChars).2.rowCountReturned =
      projection.rows.length :=
  length_shownRows projection.rows maxCellChars

/-- The cursor of a tool that supports pagination. -/
theorem nextCursor_gaProjection (h : options.supportsPagination = true) :
    nextCursor (gaProjectionPayloadAndMeta projection options).2 =
      if 0 < projection.rows.length ∧
          saturatingAdd options.cursorOffset projection.rows.length < projection.rowCountTotal then
        some (encodeCursor options.queryHash
          (saturatingAdd options.cursorOffset projection.rows.length))
      else none := by
  rw [gaProjectionPayloadAndMeta, nextCursor, get_insertField (by decide), ← nextCursor,
    nextCursor_toJson, gaTabularMeta, if_pos h]
  dsimp only
  rw [rowCountReturned_projectPayload]

/-- Its hints; they do not look at the offset. -/
theorem queryHints_gaProjection (h : options.supportsPagination = true) :
    queryHints (gaProjectionPayloadAndMeta projection options).2 =
      if projection.rows.length < projection.rowCountTotal then [continuationHint] else [] := by
  rw [gaProjectionPayloadAndMeta, queryHints, get_insertField (by decide), ← queryHints,
    queryHints_toJson, gaTabularMeta, if_pos h]
  dsimp only
  rw [queryHints_projectPayload]
  split <;> rfl

theorem rowCountReturned_gaProjection (h : options.supportsPagination = true)
    (hfits : projection.rows.length ≤ usizeMax) :
    rowCountReturned (gaProjectionPayloadAndMeta projection options).2 =
      some projection.rows.length := by
  have hcount : (gaTabularMeta projection options).rowCountReturned = projection.rows.length := by
    rw [gaTabularMeta, if_pos h]
    exact rowCountReturned_projectPayload projection options.outputMode options.summaryOnly
      options.maxCellChars
  rw [gaProjectionPayloadAndMeta, rowCountReturned, get_insertField (by decide),
    ← rowCountReturned, rowCountReturned_toJson (by rwa [hcount]), hcount]

theorem gaProjection_data :
    (gaProjectionPayloadAndMeta projection options).1 =
      if options.summaryOnly then .null
      else payloadByMode (shownRows projection.rows options.maxCellChars) projection.columns
        options.outputMode :=
  rfl

end Emitter

end Ga4Mcp.Tools
