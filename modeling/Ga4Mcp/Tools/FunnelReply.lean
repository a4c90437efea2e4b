/-
  The reply of the funnel tool, of `src/tools.rs`: two subreports in one answer, each with its
  own shape check, its own cut and its own metadata.

  * `runFunnelReport_isOk_iff`: the tool replies exactly to an answer with two well shaped
    subreports.
  * `runFunnelReport_shows`: of two tables that the upstream keeps it shows the first rows, and
    it calls the reply truncated exactly if one of the tables fills the limit.
-/
import Ga4Mcp.Tools.CursorIdentity
import Ga4Mcp.Tools.CursorWalk
import Ga4Mcp.Tools.FunnelChecks

namespace Ga4Mcp.Tools

open Ga4Mcp.Lib

/-! ## The shape of a subreport -/

/-- The two lists of values of a row. -/
def validateFunnelRow (subreportName : Text) (row : Json) (rowIndex : Nat) :
    Except AnalyticsError Unit := do
  let label := subreportName ++ text ".rows[" ++ Text.decimal rowIndex ++ text "]"
  let fields ← okOr row.asObject
    (responseError (text "funnel") (label ++ text " must be an object"))
  ["dimensionValues", "metricValues"].forM fun fieldName =>
    ifSome (JsonMap.get fields (text fieldName)) (validateObjectArray (text "funnel")
      (label ++ text "." ++ text fieldName) (label ++ text "." ++ text fieldName))

/-- The headers and rows of a table have their types. -/
def validateFunnelSubreportShape (subreport : Json) (subreportName : Text) :
    Except AnalyticsError Unit := do
  let fields ← okOr subreport.asObject (responseError (text "funnel")
    (text "included a non-object " ++ subreportName ++ text " subreport"))
  ["dimensionHeaders", "metricHeaders"].forM fun fieldName =>
    ifSome (JsonMap.get fields (text fieldName)) (validateObjectArray (text "funnel")
      (subreportName ++ text "." ++ text fieldName) (subreportName ++ text "." ++ text fieldName))
  ifSome (JsonMap.get fields (text "rows")) fun rawRows => do
    let rows ← okOr rawRows.asArray
      (responseError (text "funnel") (subreportName ++ text ".rows must be an array"))
    rows.zipIdx.forM fun row => validateFunnelRow subreportName row.1 row.2

/-! ## Its projection -/

/-- A projected subreport: its part of `data`, its part of `meta`, and if rows may be missing. -/
structure FunnelSubreport where
  payload : Json
  subMeta : Json
  truncated : Bool

/-- Why a table is called truncated, or not. -/
def truncationBasis (locallyTruncated possiblyTruncated : Bool) : Text :=
  if locallyTruncated then text "local_response_cap"
  else if possiblyTruncated then text "response_filled_effective_limit"
  else text "response_below_effective_limit"

/-- One of the two tables, cut to the limit. -/
def projectFunnelSubreport (subreport : Json) (reportKind : Text) (options : FunnelResponseOptions) :
    FunnelSubreport :=
  let whole := projectGaTabularResponse subreport reportKind
  let projection := truncateRows whole options.effectiveLimit
  let rowCountReturned := projection.rows.length
  let (payload, tabularMeta) := projectPayloadForMode projection options.outputMode
    options.summaryOnly options.maxCellChars
  let locallyTruncated : Bool := rowCountReturned < whole.rows.length
  let possiblyTruncated : Bool := locallyTruncated || options.effectiveLimit ≤ rowCountReturned
  { payload := payload
    subMeta := .ofFields [
      ("output_mode", .string tabularMeta.outputMode.asStr),
      ("summary_only", .bool tabularMeta.summaryOnly),
      ("row_count_returned", .ofNat rowCountReturned),
      ("upstream_row_count_returned", .ofNat whole.rows.length),
      ("row_count_total_known", .bool false),
      ("truncated", .bool possiblyTruncated),
      ("truncation_basis", .string (truncationBasis locallyTruncated possiblyTruncated)),
      ("columns", .array (tabularMeta.columns.map ColumnMeta.toJson)),
      ("cell_clipping", .ofOption tabularMeta.cellClipping),
      ("ga4", projection.gaMeta)]
    truncated := possiblyTruncated }

/-! ## The reply -/

/-- A subreport of the answer, checked. -/
def takeFunnelSubreport (data : Json) (subreportName : Text) : Except AnalyticsError Json := do
  let subreport ← okOr ((data.get subreportName).filter Json.isObject)
    (responseError (text "funnel")
      (text "did not include an object-valued " ++ subreportName ++ text " subreport"))
  validateFunnelSubreportShape subreport subreportName
  return subreport

/-- The meta of a funnel, for both tables. -/
def funnelMeta (data : Json) (table visualization : FunnelSubreport)
    (options : FunnelResponseOptions) : Json :=
  .ofFields [
    ("output_mode", .string options.outputMode.asStr),
    ("summary_only", .bool options.summaryOnly),
    ("query_hash", .string options.queryHash),
    ("requested_limit", .ofOption (options.requestedLimit.map .ofNat)),
    ("effective_limit", .ofNat options.effectiveLimit),
    ("truncated", .bool (table.truncated || visualization.truncated)),
    ("row_count_total_known", .bool false),
    ("subreports", .ofFields [
      ("funnel_table", table.subMeta),
      ("funnel_visualization", visualization.subMeta)]),
    ("ga4", .ofFields [
      ("report_kind", .string (text "run_funnel_report")),
      ("kind", .ofOption (data.get (text "kind"))),
      ("property_quota", .ofOption (data.get (text "propertyQuota")))])]

/-- `data` and `meta` of the reply. -/
def contractSuccessGaFunnel (data : Json) (options : FunnelResponseOptions) :
    Except AnalyticsError (Json × Json) := do
  let funnelTable ← takeFunnelSubreport data (text "funnelTable")
  let funnelVisualization ← takeFunnelSubreport data (text "funnelVisualization")
  let table := projectFunnelSubreport funnelTable (text "funnel_table") options
  let visualization :=
    projectFunnelSubreport funnelVisualization (text "funnel_visualization") options
  let payload :=
    if options.summaryOnly then .null
    else .ofFields [
      ("funnel_table", table.payload), ("funnel_visualization", visualization.payload)]
  return (payload, funnelMeta data table visualization options)

def runFunnelReport (server : ReportServer) (args : RunFunnelReportArgs) :
    Except AnalyticsError (Json × Json) := do
  let answer ← runFunnelReportAnswer server args
  contractSuccessGaFunnel answer.1 answer.2

/-! ## What passes the checks -/

/-- An array of objects. -/
def ObjectArray (value : Json) : Prop :=
  ∃ entries, value = .array entries ∧ ∀ entry ∈ entries, entry.isObject = true

/-- A subreport that can be projected: whatever it has of headers and rows is well shaped. -/
structure SubreportShaped (subreport : Json) : Prop where
  isObject : subreport.isObject = true
  headers : ∀ key ∈ ["dimensionHeaders", "metricHeaders"],
    ∀ value ∈ subreport.get (text key), ObjectArray value
  rows : ∀ value ∈ subreport.get (text "rows"),
    ∃ rows, value = .array rows ∧ ∀ row ∈ rows, RowShaped row

theorem asArray_eq_some {value : Json} {entries : List Json} :
    value.asArray = some entries ↔ value = .array entries := by
  cases value <;> simp [Json.asArray]

theorem get_of_asObject {value : Json} {fields : JsonMap} (h : value.asObject = some fields)
    (key : Text) : value.get key = JsonMap.get fields key := by
  cases value with
  | object fields' =>
      cases h
      rfl
  | _ => cases h

theorem asObject_of_isObject {value : Json} (h : value.isObject = true) :
    ∃ fields, value.asObject = some fields :=
  Option.isSome_iff_exists.mp h

theorem forall_mem_zipIdx {α : Type} {xs : List α} {p : α → Prop} :
    (∀ x ∈ xs.zipIdx, p x.1) ↔ ∀ x ∈ xs, p x := by
  constructor
  · intro h x hx
    obtain ⟨i, hi⟩ := List.getElem?_of_mem hx
    exact h (x, i) (List.mem_zipIdx_iff_getElem?.mpr hi)
  · exact fun h x hx => h x.1 (List.fst_mem_of_mem_zipIdx hx)

theorem validateObjectArray_eq_ok {reportKind label entry : Text} {value : Json} :
    validateObjectArray reportKind label entry value = .ok () ↔ ObjectArray value := by
  constructor
  · intro h
    obtain ⟨entries, hentries, h⟩ := bind_eq_ok.mp h
    refine ⟨entries, asArray_eq_some.mp (okOr_eq_ok.mp hentries), ?_⟩
    refine forall_mem_zipIdx.mp fun value hvalue => ?_
    exact not_not.mp (refuseIf_eq_ok.mp (forM_eq_ok.mp h value hvalue))
  · rintro ⟨entries, rfl, hentries⟩
    exact validateObjectArray_array hentries _ _ _

theorem validateFunnelRow_eq_ok {subreportName : Text} {row : Json} {rowIndex : Nat} :
    validateFunnelRow subreportName row rowIndex = .ok () ↔ RowShaped row := by
  constructor
  · intro h
    obtain ⟨fields, hfields, h⟩ := bind_eq_ok.mp h
    have hobject := okOr_eq_ok.mp hfields
    refine ⟨Option.isSome_iff_exists.mpr ⟨fields, hobject⟩, fun key hkey value hvalue => ?_⟩
    rw [get_of_asObject hobject] at hvalue
    exact validateObjectArray_eq_ok.mp (ifSome_eq_ok.mp (forM_eq_ok.mp h key hkey) value hvalue)
  · rintro ⟨hobject, hcells⟩
    obtain ⟨fields, hfields⟩ := asObject_of_isObject hobject
    refine bind_eq_ok.mpr ⟨fields, okOr_eq_ok.mpr hfields, forM_eq_ok.mpr fun key hkey => ?_⟩
    refine ifSome_eq_ok.mpr fun value hvalue => validateObjectArray_eq_ok.mpr ?_
    rw [← get_of_asObject hfields] at hvalue
    exact hcells key hkey value hvalue

/-- **The shape check** is exact. -/
theorem validateFunnelSubreportShape_eq_ok {subreport : Json} {subreportName : Text} :
    validateFunnelSubreportShape subreport subreportName = .ok () ↔ SubreportShaped subreport := by
  constructor
  · intro h
    obtain ⟨fields, hfields, h⟩ := bind_eq_ok.mp h
    obtain ⟨⟨⟩, hheaders, hrows⟩ := bind_eq_ok.mp h
    have hobject := okOr_eq_ok.mp hfields
    have hget := get_of_asObject hobject
    refine ⟨Option.isSome_iff_exists.mpr ⟨fields, hobject⟩, fun key hkey value hvalue => ?_,
      fun value hvalue => ?_⟩
    · rw [hget] at hvalue
      exact validateObjectArray_eq_ok.mp
        (ifSome_eq_ok.mp (forM_eq_ok.mp hheaders key hkey) value hvalue)
    · rw [hget] at hvalue
      obtain ⟨rows, hvalue, h⟩ := bind_eq_ok.mp (ifSome_eq_ok.mp hrows value hvalue)
      refine ⟨rows, asArray_eq_some.mp (okOr_eq_ok.mp hvalue), ?_⟩
      exact forall_mem_zipIdx.mp fun row hrow =>
        validateFunnelRow_eq_ok.mp (forM_eq_ok.mp h row hrow)
  · rintro ⟨hobject, hheaders, hrows⟩
    obtain ⟨fields, hfields⟩ := asObject_of_isObject hobject
    have hget := get_of_asObject hfields
    refine bind_eq_ok.mpr ⟨fields, okOr_eq_ok.mpr hfields, bind_eq_ok.mpr ⟨(),
      forM_eq_ok.mpr fun key hkey => ifSome_eq_ok.mpr fun value hvalue => ?_,
      ifSome_eq_ok.mpr fun value hvalue => ?_⟩⟩
    · exact validateObjectArray_eq_ok.mpr (hheaders key hkey value ((hget _).trans hvalue))
    · obtain ⟨rows, rfl, hshaped⟩ := hrows value ((hget _).trans hvalue)
      exact bind_eq_ok.mpr ⟨rows, rfl, forM_eq_ok.mpr fun row hrow =>
        validateFunnelRow_eq_ok.mpr (hshaped _ (List.fst_mem_of_mem_zipIdx hrow))⟩

theorem takeFunnelSubreport_eq_ok {data subreport : Json} {subreportName : Text} :
    takeFunnelSubreport data subreportName = .ok subreport ↔
      data.get subreportName = some subreport ∧ SubreportShaped subreport := by
  constructor
  · intro h
    obtain ⟨subreport', hget, h⟩ := bind_eq_ok.mp h
    obtain ⟨⟨⟩, hshape, h⟩ := bind_eq_ok.mp h
    cases pure_eq_ok.mp h
    exact ⟨(Option.filter_eq_some_iff.mp (okOr_eq_ok.mp hget)).1,
      validateFunnelSubreportShape_eq_ok.mp hshape⟩
  · rintro ⟨hget, hshape⟩
    exact bind_eq_ok.mpr ⟨subreport,
      okOr_eq_ok.mpr (Option.filter_eq_some_iff.mpr ⟨hget, hshape.isObject⟩),
      bind_eq_ok.mpr ⟨(), validateFunnelSubreportShape_eq_ok.mpr hshape, rfl⟩⟩

/-! ## The reply -/

section Reply

variable {server : ReportServer} {args : RunFunnelReportArgs}

theorem contractSuccessGaFunnel_isOk_iff {data : Json} {options : FunnelResponseOptions} :
    (∃ reply, contractSuccessGaFunnel data options = .ok reply) ↔
      ∀ subreportName ∈ ["funnelTable", "funnelVisualization"],
        ∃ subreport, data.get (text subreportName) = some subreport ∧
          SubreportShaped subreport := by
  constructor
  · rintro ⟨reply, h⟩ subreportName hname
    obtain ⟨table, htable, h⟩ := bind_eq_ok.mp h
    obtain ⟨visualization, hvisualization, -⟩ := bind_eq_ok.mp h
    rcases List.mem_pair.mp hname with rfl | rfl
    · exact ⟨table, takeFunnelSubreport_eq_ok.mp htable⟩
    · exact ⟨visualization, takeFunnelSubreport_eq_ok.mp hvisualization⟩
  · intro h
    obtain ⟨table, htable⟩ := h "funnelTable" (List.mem_pair.mpr (.inl rfl))
    obtain ⟨visualization, hvisualization⟩ := h "funnelVisualization" (List.mem_pair.mpr (.inr rfl))
    exact ⟨_, bind_eq_ok.mpr ⟨table, takeFunnelSubreport_eq_ok.mpr htable,
      bind_eq_ok.mpr ⟨visualization, takeFunnelSubreport_eq_ok.mpr hvisualization, rfl⟩⟩⟩

/-- **The tool replies** exactly to an answer with two well shaped subreports. -/
theorem runFunnelReport_isOk_iff : (∃ reply, runFunnelReport server args = .ok reply) ↔
    ∃ data options, runFunnelReportAnswer server args = .ok (data, options) ∧
      ∀ subreportName ∈ ["funnelTable", "funnelVisualization"],
        ∃ subreport, data.get (text subreportName) = some subreport ∧
          SubreportShaped subreport := by
  constructor
  · rintro ⟨reply, h⟩
    obtain ⟨⟨data, options⟩, hanswer, hreply⟩ := bind_eq_ok.mp h
    exact ⟨data, options, hanswer, contractSuccessGaFunnel_isOk_iff.mp ⟨reply, hreply⟩⟩
  · rintro ⟨data, options, hanswer, hshaped⟩
    obtain ⟨reply, hreply⟩ := contractSuccessGaFunnel_isOk_iff.mpr hshaped
    exact ⟨reply, bind_eq_ok.mpr ⟨(data, options), hanswer, hreply⟩⟩

end Reply

/-! ## What a subreport shows -/

section Subreport

variable (response : Json) (reportKind : Text) (options : FunnelResponseOptions)

/-- The rows that are there before the cut. -/
def upstreamRows : List JsonMap := (projectGaTabularResponse response reportKind).rows

theorem projectFunnelSubreport_payload :
    (projectFunnelSubreport response reportKind options).payload =
      if options.summaryOnly then .null
      else payloadByMode
        (shownRows ((upstreamRows response reportKind).take options.effectiveLimit)
          options.maxCellChars)
        (projectGaTabularResponse response reportKind).columns options.outputMode := rfl

theorem length_truncateRows (projection : GaTabularProjection) (localResponseCap : Nat) :
    (truncateRows projection localResponseCap).rows.length =
      min localResponseCap projection.rows.length :=
  List.length_take

/-- A cut shows as fewer rows; a limit that is just filled as `limit` rows. -/
theorem filled_iff (limit total : Nat) :
    (decide (min limit total < total) || decide (limit ≤ min limit total)) =
      decide (limit ≤ total) := by
  rw [← Bool.decide_or]
  exact decide_eq_decide.mpr (by omega)

theorem projectFunnelSubreport_truncated :
    (projectFunnelSubreport response reportKind options).truncated =
      decide (options.effectiveLimit ≤ (upstreamRows response reportKind).length) := by
  rw [← filled_iff, upstreamRows, ← length_truncateRows]
  rfl

/-- What the metadata of a subreport says of its rows; a cut and a filled limit have two names. -/
def rowFields (limit total : Nat) : List (String × Json) :=
  [("row_count_returned", .ofNat (min limit total)),
    ("upstream_row_count_returned", .ofNat total),
    ("row_count_total_known", .bool false),
    ("truncated", .bool (decide (limit ≤ total))),
    ("truncation_basis", .string (truncationBasis (limit < total) (limit ≤ total)))]

theorem projectFunnelSubreport_subMeta :
    ∀ field ∈ rowFields options.effectiveLimit (upstreamRows response reportKind).length,
      (projectFunnelSubreport response reportKind options).subMeta.get (text field.1) =
        some field.2 := by
  have hlocal : ∀ limit total : Nat, decide (min limit total < total) = decide (limit < total) :=
    fun limit total => decide_eq_decide.mpr (by omega)
  intro field hfield
  refine Json.get_ofFields (by simp) ?_
  rw [rowFields, ← hlocal, ← filled_iff, upstreamRows] at hfield
  simp only [← length_truncateRows (projectGaTabularResponse response reportKind)] at hfield
  refine List.mem_cons_of_mem _ (List.mem_cons_of_mem _ ?_)
  exact List.mem_append_left _ hfield

end Subreport

/-! ## What the reply shows -/

/-- A funnel as the upstream keeps it. -/
structure FunnelTables where
  table : ReportTable
  visualization : ReportTable

/-- A subreport with the first rows of a table, as many as were asked for or more. -/
def AnswersFirst (table : ReportTable) (limit : Nat) (subreport : Option Json) : Prop :=
  ∃ response count, subreport = some response ∧ limit ≤ count ∧
    table.HoldsRows (table.rows.take count) response

namespace FunnelTables

/-- An upstream that gives the first rows of both tables. -/
structure Answers (tables : FunnelTables) (limit : Nat) (data : Json) : Prop where
  table : AnswersFirst tables.table limit (data.get (text "funnelTable"))
  visualization :
    AnswersFirst tables.visualization limit (data.get (text "funnelVisualization"))

/-- The labels of the tables in the reply. -/
def labelled (tables : FunnelTables) : List (String × ReportTable) :=
  [("funnel_table", tables.table), ("funnel_visualization", tables.visualization)]

/-- `data` with the first rows of both tables. -/
def shown (tables : FunnelTables) (args : RunFunnelReportArgs) (limit : Nat) : Json :=
  if args.summaryOnly then .null
  else .ofFields (tables.labelled.map fun table =>
    (table.1, payloadByMode (shownRows (table.2.projectedRows.take limit) args.maxCellChars)
      table.2.columns (args.outputMode.getD .rows)))

end FunnelTables

theorem HoldsArray.eq_array {response value : Json} {key : Text} {values : List Json}
    (h : HoldsArray response key values) (hvalue : value ∈ response.get key) :
    value = .array values := by
  rcases h with h | ⟨-, h⟩
  · exact (Option.some.inj (h.symm.trans hvalue)).symm
  · cases h.symm.trans hvalue

theorem ReportTable.HoldsRows.shaped {table : ReportTable} {count : Nat} {response : Json}
    (h : table.HoldsRows (table.rows.take count) response) : SubreportShaped response := by
  refine ⟨h.isObject, fun key hkey value hvalue => ?_, fun value hvalue => ?_⟩
  · rcases List.mem_pair.mp hkey with rfl | rfl
    · exact ⟨_, h.dimensionHeaders.eq_array hvalue, fun header hheader =>
        table.headersShaped header (List.mem_append_left _ hheader)⟩
    · exact ⟨_, h.metricHeaders.eq_array hvalue, fun header hheader =>
        table.headersShaped header (List.mem_append_right _ hheader)⟩
  · exact ⟨_, h.rows.eq_array hvalue, fun row hrow =>
      table.rowsShaped row (List.mem_of_mem_take hrow)⟩

/-- The rows that a subreport holds of its table. -/
theorem ReportTable.HoldsRows.upstreamRows_eq {table : ReportTable} {count : Nat} {response : Json}
    (h : table.HoldsRows (table.rows.take count) response) (reportKind : Text) :
    upstreamRows response reportKind = table.projectedRows.take count := by
  rw [upstreamRows, (h.projection reportKind).2, List.map_take]
  rfl

/-- At least the asked rows are enough to fill a limit, or not to. -/
theorem le_min_iff_of_le {limit count total : Nat} (h : limit ≤ count) :
    limit ≤ min count total ↔ limit ≤ total := by
  omega

/-- What a client reads of the metadata. -/
theorem get_funnelMeta (data : Json) (table visualization : FunnelSubreport)
    (options : FunnelResponseOptions) :
    (funnelMeta data table visualization options).get (text "truncated") =
      some (.bool (table.truncated || visualization.truncated)) ∧
    ((funnelMeta data table visualization options).get (text "subreports")).bind
      (·.get (text "funnel_table")) = some table.subMeta ∧
    ((funnelMeta data table visualization options).get (text "subreports")).bind
      (·.get (text "funnel_visualization")) = some visualization.subMeta := by
  have hget : ∀ field ∈ [("truncated", Json.bool (table.truncated || visualization.truncated)),
      ("subreports", .ofFields [("funnel_table", table.subMeta),
        ("funnel_visualization", visualization.subMeta)])],
      (funnelMeta data table visualization options).get (text field.1) = some field.2 := by
    intro field hfield
    refine Json.get_ofFields (by simp) ?_
    rcases List.mem_pair.mp hfield with rfl | rfl <;> simp
  have hsubreports := hget _ (List.mem_pair.mpr (.inr rfl))
  refine ⟨hget _ (List.mem_pair.mpr (.inl rfl)), ?_, ?_⟩
  · rw [hsubreports, Option.bind_some]
    exact Json.get_ofFields (by simp) (List.mem_pair.mpr (.inl rfl))
  · rw [hsubreports, Option.bind_some]
    exact Json.get_ofFields (by simp) (List.mem_pair.mpr (.inr rfl))

section Shows

variable {server : ReportServer} {args : RunFunnelReportArgs} {options : FunnelResponseOptions}

theorem prepareRunFunnelReport_ok (h : prepareRunFunnelReport server args = .ok options) :
    options.outputMode = args.outputMode.getD .rows ∧ options.summaryOnly = args.summaryOnly ∧
      options.maxCellChars = args.maxCellChars ∧
      options.effectiveLimit = resolveFunnelReportLimit args.maxRows args.limit := by
  obtain ⟨⟨⟩, -, h⟩ := bind_eq_ok.mp h
  obtain ⟨⟨⟩, -, h⟩ := bind_eq_ok.mp h
  obtain ⟨queryHash, -, h⟩ := bind_eq_ok.mp h
  cases pure_eq_ok.mp h
  exact ⟨rfl, rfl, rfl, rfl⟩

/-- One subreport of the reply. -/
theorem projectFunnelSubreport_shows {table : ReportTable} {count : Nat} {response : Json}
    (h : table.HoldsRows (table.rows.take count) response)
    (hlimit : options.effectiveLimit ≤ count) (reportKind : Text) :
    let subreport := projectFunnelSubreport response reportKind options
    subreport.payload = (if options.summaryOnly then .null
      else payloadByMode
        (shownRows (table.projectedRows.take options.effectiveLimit) options.maxCellChars)
        table.columns options.outputMode) ∧
    subreport.truncated = decide (options.effectiveLimit ≤ table.rows.length) ∧
    subreport.subMeta.get (text "row_count_returned") =
      some (.ofNat (min options.effectiveLimit table.rows.length)) ∧
    subreport.subMeta.get (text "truncated") =
      some (.bool (decide (options.effectiveLimit ≤ table.rows.length))) := by
  have hrows := h.upstreamRows_eq reportKind
  have hlength : (upstreamRows response reportKind).length = min count table.rows.length := by
    rw [hrows, List.length_take, ReportTable.length_projectedRows]
  have hfields := projectFunnelSubreport_subMeta response reportKind options
  rw [hlength] at hfields
  refine ⟨?_, ?_, ?_, ?_⟩
  · rw [projectFunnelSubreport_payload, hrows, List.take_take, min_eq_left hlimit,
      (h.projection reportKind).1]
  · rw [projectFunnelSubreport_truncated, hlength]
    exact decide_eq_decide.mpr (le_min_iff_of_le hlimit)
  · have hreturned := hfields _ List.mem_cons_self
    rwa [← min_assoc, min_eq_left hlimit] at hreturned
  · have htruncated := hfields ("truncated", .bool (decide (options.effectiveLimit ≤
      min count table.rows.length))) (by simp [rowFields])
    rwa [decide_eq_decide.mpr (le_min_iff_of_le hlimit)] at htruncated

/-- **The reply** shows the first rows of both tables. It is called truncated if one of them
    fills the limit, so a reply that is not shows all there is. -/
theorem runFunnelReport_shows (tables : FunnelTables) {data : Json}
    (hprepared : prepareRunFunnelReport server args = .ok options)
    (hfetch : fetchRunFunnelReport server args = .ok data)
    (hanswers : tables.Answers (resolveFunnelReportLimit args.maxRows args.limit) data) :
    let limit := resolveFunnelReportLimit args.maxRows args.limit
    ∃ reply, runFunnelReport server args = .ok (tables.shown args limit, reply) ∧
      reply.get (text "truncated") =
        some (.bool (tables.labelled.any fun table => limit ≤ table.2.rows.length)) ∧
      ∀ table ∈ tables.labelled, ∃ subMeta,
        (reply.get (text "subreports")).bind (·.get (text table.1)) = some subMeta ∧
        subMeta.get (text "row_count_returned") =
          some (.ofNat (table.2.projectedRows.take limit).length) ∧
        ∃ truncated, subMeta.get (text "truncated") = some (.bool truncated) ∧
          (truncated = false → table.2.projectedRows.take limit = table.2.projectedRows) := by
  intro limit
  obtain ⟨hmode, hsummary, hclip, hlimit⟩ := prepareRunFunnelReport_ok hprepared
  obtain ⟨tableResponse, tableCount, htable, htableCount, htableRows⟩ := hanswers.table
  obtain ⟨otherResponse, otherCount, hother, hotherCount, hotherRows⟩ := hanswers.visualization
  -- the request and the projection have the same limit
  rw [← hlimit] at htableCount hotherCount
  obtain ⟨htablePayload, htableTruncated, htableMeta⟩ :=
    projectFunnelSubreport_shows htableRows htableCount (text "funnel_table")
  obtain ⟨hotherPayload, hotherTruncated, hotherMeta⟩ :=
    projectFunnelSubreport_shows hotherRows hotherCount (text "funnel_visualization")
  have hreply : runFunnelReport server args = contractSuccessGaFunnel data options := by
    rw [runFunnelReport, runFunnelReportAnswer, hprepared, hfetch]
    rfl
  have htaken := takeFunnelSubreport_eq_ok.mpr ⟨htable, htableRows.shaped⟩
  have hotherTaken := takeFunnelSubreport_eq_ok.mpr ⟨hother, hotherRows.shaped⟩
  rw [hreply, contractSuccessGaFunnel, htaken, hotherTaken]
  have htakeAll : ∀ table : ReportTable, decide (options.effectiveLimit ≤ table.rows.length) =
      false → table.projectedRows.take limit = table.projectedRows := by
    intro table hwhole
    rw [hlimit] at hwhole
    have hshort := of_decide_eq_false hwhole
    exact List.take_of_length_le (by rw [ReportTable.length_projectedRows]; omega)
  have hreturned : ∀ table : ReportTable, min options.effectiveLimit table.rows.length =
      (table.projectedRows.take limit).length := by
    intro table
    rw [List.length_take, ReportTable.length_projectedRows, hlimit]
  refine ⟨_, congrArg Except.ok (Prod.ext ?_ rfl), ?_, ?_⟩
  · dsimp only
    rw [FunnelTables.shown, ← hsummary, ← hmode, ← hclip, htablePayload, hotherPayload, hlimit]
    cases options.summaryOnly <;> rfl
  · rw [(get_funnelMeta ..).1, htableTruncated, hotherTruncated, hlimit]
    simp only [FunnelTables.labelled, List.any_cons, List.any_nil, Bool.or_false]
    rfl
  · intro table hlabelled
    rcases List.mem_pair.mp hlabelled with rfl | rfl
    · refine ⟨_, (get_funnelMeta ..).2.1, ?_, _, htableMeta.2, htakeAll _⟩
      rw [htableMeta.1, hreturned]
    · refine ⟨_, (get_funnelMeta ..).2.2, ?_, _, hotherMeta.2, htakeAll _⟩
      rw [hotherMeta.1, hreturned]

end Shows

/-- An answer with all rows, whatever the limit. -/
def wholeFunnel (tables : FunnelTables) : Json :=
  .ofFields [("funnelTable", tables.table.whole), ("funnelVisualization", tables.visualization.whole)]

theorem answersFirst_whole (table : ReportTable) (limit : Nat) :
    AnswersFirst table limit (some table.whole) := by
  have hrows : table.whole.get (text "rows") = some (.array table.rows) :=
    @Json.get_ofFields _ (by simp) ("rows", .array table.rows) (by simp)
  refine ⟨_, max limit table.rows.length, rfl, le_max_left _ _, rfl, .inl table.get_whole.1,
    .inl table.get_whole.2, .inl ?_⟩
  rw [List.take_of_length_le (le_max_right _ _), hrows]

theorem answers_wholeFunnel (tables : FunnelTables) (limit : Nat) :
    tables.Answers limit (wholeFunnel tables) := by
  have hget : ∀ field ∈ [("funnelTable", tables.table.whole),
      ("funnelVisualization", tables.visualization.whole)],
      (wholeFunnel tables).get (text field.1) = some field.2 :=
    fun field hfield => Json.get_ofFields (by simp) hfield
  constructor
  · rw [hget _ (List.mem_pair.mpr (.inl rfl))]
    exact answersFirst_whole _ _
  · rw [hget _ (List.mem_pair.mpr (.inr rfl))]
    exact answersFirst_whole _ _

/-- Two of three steps are shown. -/
theorem runFunnelReport_shows_two :
    let tables : FunnelTables := ⟨numberedReport 3, numberedReport 0⟩
    let server : ReportServer :=
      ⟨⟨text "https://data", text "https://admin", fun _ _ => .ok (wholeFunnel tables)⟩,
        fun t => UInt64.ofNat t.length, id⟩
    let args := { oneStepFunnel with maxRows := some 2 }
    ∃ reply, runFunnelReport server args = .ok (tables.shown args 2, reply) ∧
      reply.get (text "truncated") = some (.bool true) := by
  intro tables server args
  have hprepared : (prepareRunFunnelReport server args).isOk = true := by decide +kernel
  cases hoptions : prepareRunFunnelReport server args with
  | error err => rw [hoptions] at hprepared; cases hprepared
  | ok options =>
      obtain ⟨reply, hreply, htruncated, -⟩ :=
        runFunnelReport_shows tables hoptions rfl (answers_wholeFunnel tables _)
      exact ⟨reply, hreply, htruncated⟩

end Ga4Mcp.Tools
