/-
  The scope of the regression report: `daily` groups by a column that `windowed` does not
  export.

  * `ReleaseRegressionParams.runCtes_eq`: where binding the text stops.
  * `releaseReport_unbound`: so the report answers nothing, for every table.
-/
import Ga4Mcp.Tools.ReleaseWindows

namespace Ga4Mcp.Tools

open Ga4Mcp.Lib.Sql

/-! ## What the report is meant to say -/

/-- The number in a column, with nothing for `NULL`. -/
def numberAt (row : Row) (name : String) : ℚ :=
  match row (text name) with
  | .number q => q
  | _ => 0

section

variable (e : Engine) (p : ReleaseRegressionParams)

/-- The day of a row of `normalized` is in a window, as the text has it. -/
def inWindow (period : String) (row : Row) : Bool :=
  match row (text "event_date") with
  | .date day => periodOf e (buildReleaseRegressionSql p) day = some (.text (text period))
  | _ => false

/-- The sum of `metric_value` over the rows of an event. -/
def metricSum (rows : List Row) (event : Text) : ℚ :=
  ((rows.filter fun row => row (text "event_name") = .text event).map
    (numberAt · "metric_value")).sum

/-- The rows of a date. -/
def onDate (rows : List Row) (date : Value) : List Row :=
  rows.filter fun row => row (text "event_date") = date

/-- The dates of a window on which the comparison event has a positive sum. -/
def ratioDates (rows : List Row) (period : String) : List Value :=
  (((rows.filter (inWindow e p period)).map (· (text "event_date"))).dedup).filter fun date =>
    0 < metricSum (onDate rows date) p.comparisonEvent

/-- The mean of the daily ratios in a period. -/
def ratioMean (rows : List Row) (period : String) : Value :=
  let ratios := (ratioDates e p rows period).map fun date =>
    metricSum (onDate rows date) p.anchorEvent / metricSum (onDate rows date) p.comparisonEvent
  if ratios = [] then .null else .number (ratios.sum / ratios.length)

/-- The sum over the rows of an event in a period. -/
def windowSum (rows : List Row) (period : String) (event : Text) : Value :=
  .number (metricSum (rows.filter (inWindow e p period)) event)

/-- The row of the report, from the rows of `normalized`. -/
structure StatisticsAsDocumented (rows : List Row) (report : Row) : Prop where
  ratioNPre : report (text "ratio_n_pre") = .number (ratioDates e p rows "pre").length
  ratioNPost : report (text "ratio_n_post") = .number (ratioDates e p rows "post").length
  ratioMeanPre : report (text "ratio_mean_pre") = ratioMean e p rows "pre"
  ratioMeanPost : report (text "ratio_mean_post") = ratioMean e p rows "post"
  anchorPre : report (text "anchor_pre") = windowSum e p rows "pre" p.anchorEvent
  anchorTransition :
    report (text "anchor_transition") = windowSum e p rows "transition" p.anchorEvent
  anchorPost : report (text "anchor_post") = windowSum e p rows "post" p.anchorEvent
  comparisonPre : report (text "comparison_pre") = windowSum e p rows "pre" p.comparisonEvent
  comparisonTransition :
    report (text "comparison_transition") = windowSum e p rows "transition" p.comparisonEvent
  comparisonPost : report (text "comparison_post") = windowSum e p rows "post" p.comparisonEvent

/-- What the text answers. -/
def runText (tables : Tables) (sql : Text) : Option (Except ScopeError Relation) :=
  (readQuery sql).map (·.run e tables)

/-- The text is well scoped, and its one row says what it should. -/
def ReportAsDocumented (tables : Tables) : Prop :=
  ∃ normalized relation report, p.slots.normalized.run e tables = .ok normalized ∧
    runText e tables (buildReleaseRegressionSql p) = some (.ok relation) ∧
    relation.rows = [report] ∧ StatisticsAsDocumented e p normalized.rows report

end

/-! ## Where binding stops -/

/-- The table has the columns that the arguments name. -/
structure HasColumns (p : ReleaseRegressionParams) (table : Relation) : Prop where
  date : p.dateColumn ∈ table.columns
  event : p.eventColumn ∈ table.columns
  metric : ∀ column, p.metricColumn = some column → column ∈ table.columns

namespace ReleaseRegressionParams

variable {e : Engine} {tables : Tables} {p : ReleaseRegressionParams} {table : Relation}

theorem run_normalized (htable : tables p.normalizedTableName = some table)
    (hcolumns : HasColumns p table) :
    p.slots.normalized.run e tables = .ok (p.slots.normalized.eval e table) := by
  refine Select.run_ok (Select.source_table rfl htable) fun name hname => ?_
  obtain ⟨tableName, release, anchor, comparison, date, event, metric, pre, transition, post⟩ := p
  cases metric with
  | none =>
      have hnames : name = date ∨ name = event := by
        change name ∈ [date, date, date, event] at hname
        simpa using hname
      obtain rfl | rfl := hnames
      · exact hcolumns.date
      · exact hcolumns.event
  | some column =>
      have hnames : name = date ∨ name = event ∨ name = column := by
        change name ∈ [date, date, date, event, column] at hname
        simpa using hname
      obtain rfl | rfl | rfl := hnames
      · exact hcolumns.date
      · exact hcolumns.event
      · exact hcolumns.metric _ rfl

/-- What `normalized` and `windowed` export. -/
def normalizedColumns : List Name := [text "event_date", text "event_name", text "metric_value"]

/-- The columns of `windowed`. -/
def windowedColumns : List Name := [text "period", text "event_name", text "metric_value"]

theorem run_windowed {normalized : Relation} (hcolumns : normalized.columns = normalizedColumns)
    (htable : tables (text "normalized") = some normalized) :
    p.slots.windowed.run e tables = .ok (p.slots.windowed.eval e normalized) := by
  refine Select.run_ok (Select.source_table rfl htable) ?_
  rw [hcolumns]
  change ∀ name ∈ [text "event_date", text "event_date", text "event_date", text "event_date",
    text "event_date", text "event_date", text "event_name", text "metric_value",
    text "event_date"], name ∈ normalizedColumns
  decide +kernel

/-- `event_date` is asked of `windowed`. -/
theorem run_daily {windowed : Relation} (hcolumns : windowed.columns = windowedColumns)
    (htable : tables (text "windowed") = some windowed) :
    p.slots.daily.run e tables = .error (.unknownColumn (text "event_date")) := by
  refine Select.run_unknownColumn (Select.source_table rfl htable) ?_
  rw [hcolumns]
  change [text "period", text "event_date", text "event_name", text "metric_value",
    text "event_name", text "metric_value", text "period", text "period", text "event_date"].find?
      (· ∉ windowedColumns) = some (text "event_date")
  decide +kernel

/-- **Binding the text** stops at `daily`. -/
theorem runCtes_eq (htable : tables p.normalizedTableName = some table)
    (hcolumns : HasColumns p table) (ctes : List (Name × Select Text)) :
    runCtes e tables (p.slots.ctes ++ ctes) [] =
      .error (.unknownColumn (text "event_date")) := by
  have hnormalized := run_normalized (e := e) htable hcolumns
  change runCtes e tables ((text "normalized", p.slots.normalized) ::
    (text "windowed", p.slots.windowed) :: (text "daily", p.slots.daily) :: ctes) [] = _
  rw [runCtes_cons_ok hnormalized, runCtes_cons_ok (run_windowed rfl rfl)]
  exact runCtes_cons_error (run_daily rfl rfl)

end ReleaseRegressionParams

theorem runText_eq {e : Engine} {tables : Tables} {p : ReleaseRegressionParams} {table : Relation}
    (htable : tables p.normalizedTableName = some table) (hcolumns : HasColumns p table) :
    runText e tables (buildReleaseRegressionSql p) =
      some (.error (.unknownColumn (text "event_date"))) := by
  obtain ⟨ctes, body, hread⟩ := p.readQuery_eq
  rw [runText, hread, Option.map_some, Query.run,
    ReleaseRegressionParams.runCtes_eq htable hcolumns ctes]
  rfl

theorem not_reportAsDocumented_of_error {e : Engine} {tables : Tables}
    {p : ReleaseRegressionParams} {error : ScopeError}
    (h : runText e tables (buildReleaseRegressionSql p) = some (.error error)) :
    ¬ ReportAsDocumented e p tables := by
  rintro ⟨normalized, relation, report, -, hanswer, -⟩
  rw [h] at hanswer
  cases hanswer

/-- **The report is never answered**: for every table with the named columns, the text names
    `event_date` where nothing exports it. -/
theorem releaseReport_unbound (e : Engine) (tables : Tables) (p : ReleaseRegressionParams)
    (table : Relation) (htable : tables p.normalizedTableName = some table)
    (hcolumns : HasColumns p table) :
    runText e tables (buildReleaseRegressionSql p) =
        some (.error (.unknownColumn (text "event_date"))) ∧
      ¬ ReportAsDocumented e p tables :=
  ⟨runText_eq htable hcolumns, not_reportAsDocumented_of_error (runText_eq htable hcolumns)⟩

/-! ## A sample -/

/-- Two events on the day before the release. -/
def sampleEvents : Relation where
  columns := [text "date", text "event_name"]
  rows := ["begin_checkout", "purchase"].map fun event name =>
    if name = text "date" then .date 20453
    else if name = text "event_name" then .text (text event) else .null

/-- A session with one table. -/
def sampleTables : Tables := fun name => if name = text "events" then some sampleEvents else none

theorem sampleEvents_columns : HasColumns sampleReleaseParams sampleEvents where
  date := List.mem_cons_self
  event := List.mem_cons_of_mem _ List.mem_cons_self
  metric _ h := by cases h

theorem sampleTables_events :
    sampleTables sampleReleaseParams.normalizedTableName = some sampleEvents :=
  if_pos rfl

theorem releaseReport_unbound_sample :
    runText sampleEngine sampleTables (buildReleaseRegressionSql sampleReleaseParams) =
        some (.error (.unknownColumn (text "event_date"))) ∧
      ¬ ReportAsDocumented sampleEngine sampleReleaseParams sampleTables :=
  releaseReport_unbound sampleEngine sampleTables sampleReleaseParams sampleEvents
    sampleTables_events sampleEvents_columns

/-- Accepted arguments and a table with their columns, and no report. -/
theorem not_reportAsDocumented :
    (releaseRegressionParams sampleReleaseArgs).toOption = some sampleReleaseParams ∧
      ¬ ReportAsDocumented sampleEngine sampleReleaseParams sampleTables := by
  constructor
  · decide +kernel
  · exact not_reportAsDocumented_of_error (runText_eq sampleTables_events sampleEvents_columns)

end Ga4Mcp.Tools
