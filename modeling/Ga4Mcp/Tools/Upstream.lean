/-
  An upstream that keeps one report and an engine that keeps one query result: what they
  answer when they honour the offset and the limit of a request.

  * `AnswersWindow.projection`: an answer is projected to the window of the projected rows,
    with the total of the report.
  * `AnswersWindow.shape`: it passes the shape check.
  * `EngineHolds.projection`: the same of the two pagination modes of a scratchpad query.
-/
import Ga4Mcp.Tools.Projection
import Ga4Mcp.Tools.ScratchpadQuery

namespace Ga4Mcp.Tools

open Ga4Mcp.Lib

/-! ## Reports -/

/-- A row of a report: an object whose cells are objects. -/
def RowShaped (row : Json) : Prop :=
  row.isObject = true ∧ ∀ key ∈ ["dimensionValues", "metricValues"],
    ∀ value ∈ row.get (text key), ∃ cells, value = .array cells ∧
      ∀ cell ∈ cells, cell.isObject = true

/-- A report as the upstream keeps it. -/
structure ReportTable where
  dimensionHeaders : List Json
  metricHeaders : List Json
  rows : List Json
  headersShaped : ∀ header ∈ dimensionHeaders ++ metricHeaders, header.isObject = true
  rowsShaped : ∀ row ∈ rows, RowShaped row

/-- An array under a key. The upstream leaves empty ones out. -/
def HoldsArray (response : Json) (key : Text) (values : List Json) : Prop :=
  response.get key = some (.array values) ∨ values = [] ∧ response.get key = none

namespace ReportTable

/-- The report in one answer. -/
def whole (table : ReportTable) : Json :=
  .ofFields [("dimensionHeaders", .array table.dimensionHeaders),
    ("metricHeaders", .array table.metricHeaders), ("rows", .array table.rows)]

/-- The columns of the table. -/
def columns (table : ReportTable) : List ColumnMeta :=
  extractDimensionColumns table.whole ++ extractMetricColumns table.whole

/-- The rows that clients see. -/
def projectedRows (table : ReportTable) : List JsonMap :=
  table.rows.map
    (projectGaRow (extractDimensionColumns table.whole) (extractMetricColumns table.whole))

/-- An answer with these rows of the report. -/
structure HoldsRows (table : ReportTable) (rows : List Json) (response : Json) : Prop where
  isObject : response.isObject = true
  dimensionHeaders : HoldsArray response (text "dimensionHeaders") table.dimensionHeaders
  metricHeaders : HoldsArray response (text "metricHeaders") table.metricHeaders
  rows : HoldsArray response (text "rows") rows

/-- An answer to a request with this offset and limit. A zero may be left out, too. -/
structure AnswersWindow (table : ReportTable) (offset limit : Nat) (response : Json) : Prop
    extends HoldsRows table ((table.rows.drop offset).take limit) response where
  rowCount : response.get (text "rowCount") = some (.ofNat table.rows.length) ∨
    table.rows.length = 0 ∧ response.get (text "rowCount") = none

/-- The upstream honours offset and limit, within the bounds of the tools. -/
def AnsweredBy (table : ReportTable) (fetch : Nat → Nat → Except AnalyticsError Json) : Prop :=
  ∀ offset limit, offset ≤ maxReportLimit * 10 → limit ≤ maxTabularMaxRows →
    ∃ response, fetch offset limit = .ok response ∧ table.AnswersWindow offset limit response

end ReportTable

/-! ## Projections of answers -/

/-- What the source reads of an array. -/
theorem HoldsArray.getD {response : Json} {key : Text} {values : List Json}
    (h : HoldsArray response key values) :
    ((response.get key).bind Json.asArray).getD [] = values := by
  rcases h with h | ⟨rfl, h⟩
  · rw [h]
    rfl
  · rw [h]
    rfl

theorem extractColumns_congr {headersField : Text} {response response' : Json}
    (h : ((response.get headersField).bind Json.asArray).getD [] =
      ((response'.get headersField).bind Json.asArray).getD [])
    (nameField fallback : Text) (logicalType : Json → Text) :
    extractColumns headersField nameField fallback logicalType response =
      extractColumns headersField nameField fallback logicalType response' := by
  have hcolumns : ∀ response : Json,
      extractColumns headersField nameField fallback logicalType response =
        extractColumns headersField nameField fallback logicalType
          (.object [(headersField, .array
            (((response.get headersField).bind Json.asArray).getD []))]) := by
    intro response
    unfold extractColumns
    have hget : ∀ value, (Json.object [(headersField, value)]).get headersField = some value := by
      intro value
      simp [Json.get, JsonMap.get]
    rw [hget]
    cases (response.get headersField).bind Json.asArray <;> rfl
  rw [hcolumns response, hcolumns response', h]

theorem projectGaRowsToObjects_eq (response : Json)
    (dimensionColumns metricColumns : List ColumnMeta) :
    projectGaRowsToObjects response dimensionColumns metricColumns =
      (((response.get (text "rows")).bind Json.asArray).getD []).map
        (projectGaRow dimensionColumns metricColumns) := by
  unfold projectGaRowsToObjects
  cases (response.get (text "rows")).bind Json.asArray <;> rfl

namespace ReportTable

variable {table : ReportTable} {response : Json}

theorem get_whole (table : ReportTable) :
    table.whole.get (text "dimensionHeaders") = some (.array table.dimensionHeaders) ∧
    table.whole.get (text "metricHeaders") = some (.array table.metricHeaders) := by
  constructor
  all_goals
    simp only [whole, Json.ofFields, Json.get, JsonMap.ofFields, List.map, List.foldl,
      JsonMap.get_insert]
    simp +decide

theorem HoldsRows.projection {rows : List Json} (h : table.HoldsRows rows response)
    (reportKind : Text) :
    (projectGaTabularResponse response reportKind).columns = table.columns ∧
    (projectGaTabularResponse response reportKind).rows = rows.map (projectGaRow
      (extractDimensionColumns table.whole) (extractMetricColumns table.whole)) := by
  obtain ⟨hdimensions, hmetrics⟩ := get_whole table
  have hdimension : extractDimensionColumns response = extractDimensionColumns table.whole :=
    extractColumns_congr (by rw [h.dimensionHeaders.getD, hdimensions]; rfl) _ _ _
  have hmetric : extractMetricColumns response = extractMetricColumns table.whole :=
    extractColumns_congr (by rw [h.metricHeaders.getD, hmetrics]; rfl) _ _ _
  unfold projectGaTabularResponse
  dsimp only
  rw [hdimension, hmetric, projectGaRowsToObjects_eq, h.rows.getD]
  exact ⟨rfl, rfl⟩

theorem length_projectedRows (table : ReportTable) :
    table.projectedRows.length = table.rows.length :=
  List.length_map _

/-- **The projection of an answer** is the window of the projected rows. -/
theorem AnswersWindow.projection {offset limit : Nat}
    (h : table.AnswersWindow offset limit response)
    (hfits : table.rows.length ≤ usizeMax) (reportKind : Text) :
    (projectGaTabularResponse response reportKind).columns = table.columns ∧
    (projectGaTabularResponse response reportKind).rows =
      (table.projectedRows.drop offset).take limit ∧
    (projectGaTabularResponse response reportKind).rowCountTotal = table.projectedRows.length := by
  obtain ⟨hcolumns, hrows⟩ := h.toHoldsRows.projection reportKind
  rw [List.map_take, List.map_drop] at hrows
  refine ⟨hcolumns, hrows, ?_⟩
  rw [length_projectedRows]
  have htotal : (projectGaTabularResponse response reportKind).rowCountTotal =
      (extractRowCount response).getD (projectGaTabularResponse response reportKind).rows.length :=
    rfl
  rw [htotal, extractRowCount]
  rcases h.rowCount with hcount | ⟨hzero, hcount⟩
  · rw [hcount]
    have hread : (Json.ofNat table.rows.length).asU64 = some table.rows.length := if_pos hfits
    rw [Option.bind_some, hread]
    rfl
  · have hnil : table.rows = [] := List.length_eq_zero_iff.mp hzero
    rw [hcount, hrows, hzero, List.map_drop.symm]
    simp [hnil]

end ReportTable

/-! ## The shape of answers -/

theorem validateObjectArray_array {values : List Json} (h : ∀ value ∈ values, value.isObject = true)
    (reportKind label entry : Text) :
    validateObjectArray reportKind label entry (.array values) = .ok () := by
  refine bind_eq_ok.mpr ⟨values, rfl, forM_eq_ok.mpr fun value hvalue => refuseIf_eq_ok.mpr ?_⟩
  exact not_not_intro (h _ (List.fst_mem_of_mem_zipIdx hvalue))

theorem HoldsArray.ifSome {response : Json} {key : Text} {values : List Json}
    {check : Json → Except AnalyticsError Unit} (h : HoldsArray response key values)
    (hcheck : check (.array values) = .ok ()) : ifSome (response.get key) check = .ok () := by
  rcases h with h | ⟨-, h⟩
  · rw [h]
    exact hcheck
  · rw [h]
    rfl

theorem RowShaped.validateResponseRow {row : Json} (h : RowShaped row) (reportKind : Text)
    (rowIndex : Nat) : validateResponseRow reportKind row rowIndex = .ok () := by
  obtain ⟨hobject, hcells⟩ := h
  obtain ⟨fields, hfields⟩ := Option.isSome_iff_exists.mp hobject
  refine bind_eq_ok.mpr ⟨fields, okOr_eq_ok.mpr hfields, forM_eq_ok.mpr fun key hkey => ?_⟩
  refine ifSome_eq_ok.mpr fun value hvalue => ?_
  have hget : row.get (text key) = some value := by
    cases row with
    | object fields' =>
        cases hfields
        exact hvalue
    | _ => cases hfields
  obtain ⟨cells, rfl, hall⟩ := hcells key hkey value hget
  exact validateObjectArray_array hall _ _ _

namespace ReportTable

/-- **The shape check accepts an answer** that keeps to offset and limit. -/
theorem AnswersWindow.shape {table : ReportTable} {offset limit : Nat} {response : Json}
    (h : table.AnswersWindow offset limit response) (hfits : table.rows.length ≤ usizeMax)
    (reportKind : Text) : validateGaTabularResponseShape response reportKind = .ok () := by
  obtain ⟨fields, hfields⟩ := Option.isSome_iff_exists.mp h.isObject
  have hget : ∀ key, response.get key = JsonMap.get fields key := by
    intro key
    cases response with
    | object fields' =>
        cases hfields
        rfl
    | _ => cases hfields
  have hread : (Json.ofNat table.rows.length).asU64 = some table.rows.length := if_pos hfits
  have hheaders : ∀ key ∈ ["dimensionHeaders", "metricHeaders"],
      ∃ values, HoldsArray response (text key) values ∧
        ∀ value ∈ values, value.isObject = true := by
    intro key hkey
    rcases List.mem_pair.mp hkey with rfl | rfl
    · exact ⟨_, h.dimensionHeaders, fun value hvalue =>
        table.headersShaped value (List.mem_append_left _ hvalue)⟩
    · exact ⟨_, h.metricHeaders, fun value hvalue =>
        table.headersShaped value (List.mem_append_right _ hvalue)⟩
  refine bind_eq_ok.mpr ⟨fields, okOr_eq_ok.mpr hfields, bind_eq_ok.mpr ⟨(), ?_,
    bind_eq_ok.mpr ⟨(), forM_eq_ok.mpr fun key hkey => ?_, ?_⟩⟩⟩
  · rw [← hget]
    refine ifSome_eq_ok.mpr fun rowCount hrowCount => refuseIf_eq_ok.mpr ?_
    rcases h.rowCount with hcount | ⟨-, hcount⟩
    · rw [hcount] at hrowCount
      cases hrowCount
      rw [hread]
      exact Bool.false_ne_true
    · rw [hcount] at hrowCount
      cases hrowCount
  · obtain ⟨values, hvalues, hall⟩ := hheaders key hkey
    rw [← hget]
    exact hvalues.ifSome (validateObjectArray_array hall _ _ _)
  · rw [← hget, ← hget]
    refine h.rows.ifSome (bind_eq_ok.mpr ⟨_, rfl, bind_eq_ok.mpr ⟨(), ?_, ?_⟩⟩)
    · refine ifSome_eq_ok.mpr fun rowCount hrowCount => refuseIf_eq_ok.mpr ?_
      rcases h.rowCount with hcount | ⟨-, hcount⟩
      · rw [hcount, Option.bind_some, hread] at hrowCount
        cases hrowCount
        rw [List.length_take, List.length_drop]
        omega
      · rw [hcount] at hrowCount
        cases hrowCount
    · refine forM_eq_ok.mpr fun row hrow => ?_
      have hmem : row.1 ∈ table.rows :=
        List.mem_of_mem_drop (List.mem_of_mem_take (List.fst_mem_of_mem_zipIdx hrow))
      exact (table.rowsShaped _ hmem).validateResponseRow _ _

end ReportTable

/-! ## Query results -/

/-- The engine answers the queries about `sql` from one result set, which the wrapped
    queries count and cut. -/
structure EngineHolds (conn : Connection) (sql : Text) (table : ResultSet) : Prop where
  count : supportsWrappedPagination sql = true → ∃ result row rest,
    conn.prepare (wrapQueryForRowCount sql) = .ok ⟨.ok result⟩ ∧ result.rows = row :: rest ∧
      row 0 = .ok (.bigInt table.rows.length)
  page : supportsWrappedPagination sql = true → ∀ offset limit,
    offset ≤ maxReportLimit * 10 → limit ≤ maxTabularMaxRows →
      conn.prepare (wrapQueryForPage sql offset limit) = .ok ⟨.ok (table.window offset limit)⟩
  whole : supportsWrappedPagination sql = false → conn.prepare sql = .ok ⟨.ok table⟩

theorem queryRowCount_eq {conn : Connection} {sql : Text} {result : ResultSet} {row : DuckRow}
    {rest : List DuckRow} {count : Nat} (hprepare : conn.prepare sql = .ok ⟨.ok result⟩)
    (hrows : result.rows = row :: rest) (hcount : row 0 = .ok (.bigInt count)) :
    queryRowCount conn sql = .ok count := by
  unfold queryRowCount
  refine bind_eq_ok.mpr ⟨_, mapError_eq_ok.mpr hprepare, bind_eq_ok.mpr ⟨_, rfl, ?_⟩⟩
  rw [hrows]
  exact bind_eq_ok.mpr ⟨_, mapError_eq_ok.mpr hcount, rfl⟩

theorem length_projectResultSet {table : ResultSet} {columns : List ColumnMeta}
    {rows : List JsonMap} (h : projectResultSet table = .ok (columns, rows)) :
    rows.length = table.rows.length := by
  unfold projectResultSet at h
  cases hcolumns : table.columns with
  | none =>
      rw [hcolumns] at h
      cases h
  | some metadata =>
      rw [hcolumns] at h
      obtain ⟨projected, hprojected, h⟩ := bind_eq_ok.mp h
      have hlength := (mapM_eq_ok.mp hprojected).length_eq
      cases hfailure : table.failure with
      | some err =>
          rw [hfailure] at h
          cases h
      | none =>
          rw [hfailure] at h
          obtain ⟨-, rfl⟩ := Prod.mk.inj (pure_eq_ok.mp h)
          exact hlength.symm

/-- **Both pagination modes** project the window of the projected rows. -/
theorem EngineHolds.projection {server : ScratchpadServer} {sessionId sql : Text}
    {conn : Connection} {table : ResultSet} {columns : List ColumnMeta} {rows : List JsonMap}
    (h : EngineHolds conn sql table)
    (hconn : runGuarded server sessionId sql .ok = .ok conn)
    (htable : projectResultSet table = .ok (columns, rows)) {offset limit : Nat}
    (hoffset : offset ≤ maxReportLimit * 10) (hlimit : limit ≤ maxTabularMaxRows) :
    ∃ projection, executeScratchpadProjection server sessionId sql offset limit = .ok projection ∧
      projection.columns = columns ∧ projection.rows = (rows.drop offset).take limit ∧
        projection.rowCountTotal = rows.length := by
  cases hmode : supportsWrappedPagination sql with
  | true =>
      obtain ⟨result, row, rest, hprepare, hrows, hcount⟩ := h.count hmode
      have hpage : executeDuckdbQueryRows conn (wrapQueryForPage sql offset limit) =
          .ok (columns, (rows.drop offset).take limit) := by
        rw [executeDuckdbQueryRows_eq (h.page hmode offset limit hoffset hlimit)]
        exact projectResultSet_window htable offset limit
      refine ⟨⟨(rows.drop offset).take limit, rows.length, columns, [], text "wrapped_sql"⟩,
        runGuarded_eq_ok.mpr ⟨conn, hconn, ?_⟩, rfl, rfl, rfl⟩
      rw [if_pos hmode, length_projectResultSet htable]
      exact bind_eq_ok.mpr ⟨_, queryRowCount_eq hprepare hrows hcount, bind_eq_ok.mpr
        ⟨_, hpage, rfl⟩⟩
  | false =>
      have hwhole : executeDuckdbQueryRows conn sql = .ok (columns, rows) := by
        rw [executeDuckdbQueryRows_eq (h.whole hmode)]
        exact htable
      obtain ⟨projection, hprojection, hshape⟩ : ∃ projection,
          inMemoryProjection sql offset limit conn = .ok projection ∧
            projection.columns = columns ∧ projection.rows = (rows.drop offset).take limit ∧
              projection.rowCountTotal = rows.length :=
        ⟨_, bind_eq_ok.mpr ⟨_, hwhole, rfl⟩, rfl, rfl, rfl⟩
      refine ⟨projection, runGuarded_eq_ok.mpr ⟨conn, hconn, ?_⟩, hshape⟩
      rw [if_neg (by rw [hmode]; exact Bool.false_ne_true)]
      exact hprojection

end Ga4Mcp.Tools
