/-
  The realtime report of `src/tools.rs` and `src/ga_client.rs`: one request, with a limit and
  without an offset.

  `runRealtimeReport_shows`: its reply has no cursor, whatever the upstream answers; of a
  report that the upstream keeps it has the first rows, and says if there are more.
-/
import Ga4Mcp.Tools.CursorWalk

namespace Ga4Mcp.Tools

open Ga4Mcp.Lib

/-! ## The request -/

/-- A request of `runRealtimeReport`; it has no dates. -/
structure RunRealtimeReportRequest where
  propertyId : PropertyId
  dimensions : List Text
  metrics : List Text
  dimensionFilter : Option Json
  metricFilter : Option Json
  orderBys : Option (List Json)
  limit : Option Nat
  returnPropertyQuota : Bool

/-- The arguments of the tool; only they have an offset. -/
structure RunRealtimeReportArgs extends RunRealtimeReportRequest, TabularControls where
  offset : Option Nat

/-- The payload of `build_run_realtime_report_request`. -/
def buildRunRealtimeReportPayload (request : RunRealtimeReportRequest) : JsonMap :=
  []
  |> JsonMap.insert (text "dimensions") (.array (asNamedEntries request.dimensions))
  |> JsonMap.insert (text "metrics") (.array (asNamedEntries request.metrics))
  |> JsonMap.insert (text "returnPropertyQuota") (.bool request.returnPropertyQuota)
  |> JsonMap.insertSome (text "dimensionFilter") (request.dimensionFilter.map .snakeToCamelJson)
  |> JsonMap.insertSome (text "metricFilter") (request.metricFilter.map .snakeToCamelJson)
  |> JsonMap.insertSome (text "orderBys") (request.orderBys.map camelArray)
  |> JsonMap.insertSome (text "limit") (request.limit.map decimalString)

/-- One post of a realtime report. -/
def AnalyticsClient.runRealtimeReport (client : AnalyticsClient)
    (request : RunRealtimeReportRequest) : Except AnalyticsError Json := do
  let property ← propertyResourceName request.propertyId
  client.postJson (client.dataBaseUrl ++ text "/v1beta/" ++ property ++ text ":runRealtimeReport")
    (.object (buildRunRealtimeReportPayload request))

/-! ## The tool -/

/-- The checks of a realtime report; only offset zero is fine. -/
def validateRealtimeInputs (dimensions metrics : List Text) (limit offset : Option Nat) :
    Except AnalyticsError Unit := do
  validateMetricLists dimensions metrics
  refuseIf (offset.getD 0 > 0) (.invalidArgument (text "offset") (text
    "the Google Analytics Realtime API does not support offset pagination; request offset 0"))
  validateLimitOffset limit (some 0)

/-- A cursor is refused. -/
def validateRealtimeCursor (cursor : Option Text) : Except AnalyticsError Unit :=
  refuseIf cursor.isSome (.invalidArgument (text "cursor") (text
    "the Google Analytics Realtime API does not support cursor pagination; run a new bounded report"))

/-- The query hash of a realtime report. -/
def runRealtimeQueryHash (hasher : Text → UInt64) (args : RunRealtimeReportArgs) :
    Except AnalyticsError Text := do
  let property ← propertyResourceName args.propertyId
  return stableQueryHash hasher (.ofFields [
    ("tool", .string (text "run_realtime_report")), ("property", .string property),
    ("dimensions", .ofTexts args.dimensions), ("metrics", .ofTexts args.metrics),
    ("dimension_filter", .ofOption args.dimensionFilter),
    ("metric_filter", .ofOption args.metricFilter),
    ("order_bys", .ofOption (args.orderBys.map .array)),
    ("return_property_quota", .bool args.returnPropertyQuota)])

section Tool

variable (server : ReportServer) (args : RunRealtimeReportArgs)

/-- A call up to its request. -/
def prepareRunRealtimeReport : Except AnalyticsError (TabularResponseOptions × Nat) := do
  let validated : Except AnalyticsError Unit := do
    validateRealtimeCursor args.cursor
    validateRealtimeInputs args.dimensions args.metrics args.limit args.offset
  let prepared ← prepareReport validated args.toTabularControls
    (runRealtimeQueryHash server.hasher args) args.offset args.limit
  return ({ prepared.1 with supportsPagination := false }, prepared.2)

/-- The request for so many rows. -/
def fetchRunRealtimeReport (limit : Nat) : Except AnalyticsError Json :=
  server.client.runRealtimeReport { args.toRunRealtimeReportRequest with limit := some limit }

/-- The page of a call. -/
def runRealtimeReportPage : Except AnalyticsError ReportPage :=
  reportPage (prepareRunRealtimeReport server args) fun _ limit => do
    let data ← fetchRunRealtimeReport server args limit
    return projectGaTabularResponse data (text "run_realtime_report")

def runRealtimeReport : Except AnalyticsError (Json × Json) :=
  (runRealtimeReportPage server args).map reportReply

end Tool

/-! ## The reply -/

section Unpaged

variable {options : TabularResponseOptions} (projection : GaTabularProjection)

theorem nextCursor_unpaged (h : options.supportsPagination = false) :
    nextCursor (gaProjectionPayloadAndMeta projection options).2 = none := by
  rw [gaProjectionPayloadAndMeta, nextCursor, get_insertField (by decide), ← nextCursor,
    nextCursor_toJson, gaTabularMeta, if_neg (by rw [h]; decide)]

theorem queryHints_unpaged (h : options.supportsPagination = false) :
    queryHints (gaProjectionPayloadAndMeta projection options).2 =
      if projection.rows.length < projection.rowCountTotal then [realtimeHint] else [] := by
  rw [gaProjectionPayloadAndMeta, queryHints, get_insertField (by decide), ← queryHints,
    queryHints_toJson, gaTabularMeta, if_neg (by rw [h]; decide)]
  have htruncated : (projectPayloadForMode projection options.outputMode options.summaryOnly
      options.maxCellChars).2.truncated =
        decide (projection.rows.length < projection.rowCountTotal) := by
    rw [← length_shownRows projection.rows options.maxCellChars]
    rfl
  dsimp only
  rw [htruncated]
  by_cases hmore : projection.rows.length < projection.rowCountTotal
  · rw [if_pos (decide_eq_true hmore), if_pos hmore]
    rfl
  · rw [if_neg (by rw [decide_eq_false hmore]; decide), if_neg hmore]
    rfl

end Unpaged

section Reply

variable {server : ReportServer} {args : RunRealtimeReportArgs}

theorem prepareRunRealtimeReport_ok {prepared : TabularResponseOptions × Nat}
    (h : prepareRunRealtimeReport server args = .ok prepared) :
    prepared.1.supportsPagination = false ∧ prepared.1.summaryOnly = args.summaryOnly ∧
      prepared.1.maxCellChars = args.maxCellChars ∧
      prepared.1.outputMode = args.outputMode.getD .rows ∧
      prepared.2 = resolvePageSize args.maxRows args.limit := by
  obtain ⟨prepared', hprepared, h⟩ := bind_eq_ok.mp h
  obtain ⟨-, -, -, -, heq⟩ := prepareReport_eq_ok.mp hprepared
  rw [← pure_eq_ok.mp h, heq]
  exact ⟨rfl, rfl, rfl, rfl, rfl⟩

/-- **A realtime report** is one page: the first rows of the report, up to the limit. It never
    has a cursor, and the hint says if there are more rows. -/
theorem runRealtimeReport_shows {reply : Json × Json}
    (h : runRealtimeReport server args = .ok reply) :
    nextCursor reply.2 = none ∧ ∀ table : ReportTable, table.rows.length ≤ usizeMax →
      (∀ response, fetchRunRealtimeReport server args (resolvePageSize args.maxRows args.limit) =
        .ok response → table.AnswersWindow 0 (resolvePageSize args.maxRows args.limit) response) →
      (reply.1 = if args.summaryOnly then .null
        else payloadByMode (shownRows
            (table.projectedRows.take (resolvePageSize args.maxRows args.limit)) args.maxCellChars)
          table.columns (args.outputMode.getD .rows)) ∧
      queryHints reply.2 =
        if resolvePageSize args.maxRows args.limit < table.projectedRows.length then
          [realtimeHint]
        else [] := by
  obtain ⟨page, hpage, rfl⟩ := map_eq_ok.mp h
  obtain ⟨limit, hprepared, hproject⟩ := reportPage_eq_ok.mp hpage
  obtain ⟨hunpaged, hsummary, hclip, hmode, hlimit⟩ := prepareRunRealtimeReport_ok hprepared
  obtain ⟨response, hfetch, hprojection⟩ := bind_eq_ok.mp hproject
  dsimp only at hunpaged hsummary hclip hmode hlimit
  refine ⟨nextCursor_unpaged _ hunpaged, fun table hfits hanswers => ?_⟩
  rw [hlimit] at hfetch
  obtain ⟨hcolumns, hrows, htotal⟩ := (hanswers response hfetch).projection hfits
    (text "run_realtime_report")
  rw [pure_eq_ok.mp hprojection, List.drop_zero] at hrows
  rw [pure_eq_ok.mp hprojection] at hcolumns htotal
  constructor
  · rw [reportReply, gaProjection_data, hsummary, hclip, hmode, hrows, hcolumns]
  · rw [reportReply, queryHints_unpaged _ hunpaged, hrows, htotal, List.length_take]
    simp only [min_lt_iff, lt_irrefl, or_false]

end Reply

/-- The three first countries. -/
def liveCountries : RunRealtimeReportArgs where
  propertyId := .number 1
  dimensions := [text "country"]
  metrics := [text "activeUsers"]
  dimensionFilter := none
  metricFilter := none
  orderBys := none
  limit := some 3
  returnPropertyQuota := false
  maxRows := none
  cursor := none
  outputMode := none
  summaryOnly := false
  maxCellChars := none
  offset := none

theorem liveCountries_answered (count : Nat) : ∃ response,
    fetchRunRealtimeReport (windowServer (numberedReport count)).toReportServer liveCountries 3 =
      .ok response ∧ (numberedReport count).AnswersWindow 0 3 response :=
  windowClient_answers (numberedReport count) [] (by decide +kernel) (by decide +kernel)

/-- Three of seven, and the hint. -/
theorem liveCountries_shown : ∃ reply,
    runRealtimeReport (windowServer (numberedReport 7)).toReportServer liveCountries = .ok reply ∧
      nextCursor reply.2 = none ∧ queryHints reply.2 = [realtimeHint] := by
  have hlength := length_numberedReport 7
  obtain ⟨response, hfetch, hanswers⟩ := liveCountries_answered 7
  have hok : (runRealtimeReport (windowServer (numberedReport 7)).toReportServer
      liveCountries).isOk = true := by
    decide +kernel
  cases hreply : runRealtimeReport (windowServer (numberedReport 7)).toReportServer
      liveCountries with
  | error err => rw [hreply] at hok; cases hok
  | ok reply =>
      obtain ⟨hcursor, hshows⟩ := runRealtimeReport_shows hreply
      refine ⟨reply, rfl, hcursor, ?_⟩
      have hfits : (numberedReport 7).rows.length ≤ usizeMax := by decide
      have hkept : ∀ response', fetchRunRealtimeReport
          (windowServer (numberedReport 7)).toReportServer liveCountries 3 = .ok response' →
            (numberedReport 7).AnswersWindow 0 3 response' := by
        intro response' hresponse'
        cases hfetch.symm.trans hresponse'
        exact hanswers
      rw [(hshows (numberedReport 7) hfits hkept).2, hlength]
      rfl

end Ga4Mcp.Tools
