/-
  `scratchpad_ingest_report` and `scratchpad_ingest_realtime_report` of `src/tools.rs`: a
  report is read from the upstream, its columns get names, its rows are rewritten and go to a
  table of a session.

  * `bindRow_remapRow`: a cell of the table is bound to the value of its own source column.
  * `ingestTools_settle`: a tool that fails leaves no trace; one that succeeds has stored the
    rows that it read, and its reply counts them.
  * `scratchpadIngestReport_isOk_iff`, `scratchpadIngestRealtimeReport_isOk_iff`: when the tools
    succeed, and with which rows of a report.

  The events that the tools emit are left out.
-/
import Ga4Mcp.Scratchpad.IngestAnswers
import Ga4Mcp.Tools.DuckCells
import Ga4Mcp.Tools.IngestColumns
import Ga4Mcp.Tools.RealtimeReport
import Ga4Mcp.Tools.ReportIngest

namespace Ga4Mcp.Tools

open Ga4Mcp.Lib Ga4Mcp.Scratchpad

/-! ## From a projection to a table -/

/-- A value of the engine for each column. -/
abbrev BoundRow := List DuckValue

/-- The row that `persist_ingest_table` binds. -/
def bindRow (f64 : F64) (columns : List ScratchpadIngestColumn) (row : JsonMap) : BoundRow :=
  columns.map fun column =>
    jsonValueToDuckValue f64 (JsonMap.get row column.name) column.logicalType

/-- What an ingest depends on, beside the store. -/
structure IngestSide where
  config : ScratchpadSessionConfig
  reserveClock : Clock
  rollbackClock : Clock
  answer : EngineAnswer BoundRow
  incarnation : Text → Nat
  f64 : F64

/-- Where the rows of a report go. -/
structure IngestDestination where
  sessionId : Text
  requestedTableName : Text
  normalizedTableName : Text
  reportKind : Text
  mode : ScratchpadIngestMode

def maxScratchpadIngestColumns : Nat := 256

/-- The name of a mode in a reply. -/
def ingestModeLabel : ScratchpadIngestMode → Text
  | .create => text "create"
  | .append => text "append"

/-- The checks of `ingest_projection_into_scratchpad`. -/
def checkIngestProjection (projection : GaTabularProjection) : Except AnalyticsError Unit := do
  let mappings := buildIngestColumnMappings projection.columns
  refuseIf mappings.isEmpty (.invalidArgument (text "columns")
    (text "ingest projection must include at least one column"))
  refuseIf (mappings.length > maxScratchpadIngestColumns) (.invalidArgument (text "columns")
    (text "must include <= " ++ Text.decimal maxScratchpadIngestColumns ++ text " columns"))
  refuseIf ((remapRowsForIngest projection.rows mappings).length > maxScratchpadIngestRows)
    (.invalidArgument (text "rows") (text "must include <= " ++
      Text.decimal maxScratchpadIngestRows ++ text " rows per ingest call"))

/-- The call of the session manager with the rows of a projection. -/
def IngestDestination.call (destination : IngestDestination) (f64 : F64)
    (projection : GaTabularProjection) : IngestCall BoundRow :=
  let mappings := buildIngestColumnMappings projection.columns
  { sessionId := destination.sessionId
    tableName := destination.normalizedTableName
    columns := ingestColumns mappings
    rows := (remapRowsForIngest projection.rows mappings).map (bindRow f64 (ingestColumns mappings))
    mode := destination.mode }

/-- What a reply says about the pages. -/
def IngestPaginationStats.fields (pagination : IngestPaginationStats) : List (String × Json) :=
  [("pages_fetched", .ofNat pagination.pagesFetched),
    ("page_size", .ofNat pagination.pageSize),
    ("initial_offset", .ofNat pagination.initialOffset),
    ("final_offset", .ofNat pagination.finalOffset),
    ("requested_limit", .ofOption (pagination.requestedLimit.map .ofNat)),
    ("complete", .bool pagination.complete)]

/-- The reply of an ingest. -/
def ingestReply (destination : IngestDestination) (projection : GaTabularProjection)
    (pagination : IngestPaginationStats) (stats : ScratchpadIngestStats) : Json := .ofFields [
  ("session_id", .string (Text.trim destination.sessionId)),
  ("table_name", .ofFields [
    ("requested", .string destination.requestedTableName),
    ("normalized", .string destination.normalizedTableName)]),
  ("ingest", .ofFields [
    ("rows_inserted", .ofNat stats.rowsInserted),
    ("columns_inserted", .ofNat stats.columnsInserted)]),
  ("session_usage", .ofFields [
    ("tables_used", .ofNat stats.sessionSnapshot.tablesUsed),
    ("tables_remaining", .ofNat stats.sessionSnapshot.tablesRemaining),
    ("rows_used", .ofNat stats.sessionSnapshot.rowsUsed),
    ("rows_remaining", .ofNat stats.sessionSnapshot.rowsRemaining)]),
  ("source", .ofFields [
    ("report_kind", .string destination.reportKind),
    ("ingest_mode", .string (ingestModeLabel destination.mode)),
    ("row_count_total", .ofNat projection.rowCountTotal),
    ("row_count_returned", .ofNat projection.rows.length),
    ("truncated", .bool (projection.rowCountTotal > projection.rows.length)),
    ("pagination", .ofFields (("enabled", .bool true) :: pagination.fields))]),
  ("column_mapping", .array ((buildIngestColumnMappings projection.columns).map fun mapping =>
    .ofFields [
      ("source_name", .string mapping.sourceName),
      ("target_name", .string mapping.targetName),
      ("logical_type", .string mapping.logicalType)])),
  ("ga4", projection.gaMeta)]

section Tools

variable (side : IngestSide) (s : Store BoundRow)

/-- A projection goes into the session, checked first. -/
def ingestProjectionIntoScratchpad (destination : IngestDestination)
    (projection : GaTabularProjection) (pagination : IngestPaginationStats) :
    Store BoundRow × Except AnalyticsError Json :=
  match checkIngestProjection projection with
  | .error err => (s, .error err)
  | .ok () =>
      let outcome := ingestRowsWithMode side.config side.reserveClock side.rollbackClock
        side.answer side.incarnation s (destination.call side.f64 projection)
      (outcome.1, outcome.2.map (ingestReply destination projection pagination))

/-- The common part of the two tools. -/
def ingestProjected (destination : Except AnalyticsError IngestDestination)
    (collected : Except AnalyticsError (GaTabularProjection × IngestPaginationStats)) :
    Store BoundRow × Except AnalyticsError Json :=
  match destination, collected with
  | .error err, _ => (s, .error err)
  | .ok _, .error err => (s, .error err)
  | .ok destination, .ok (projection, pagination) =>
      ingestProjectionIntoScratchpad side s destination projection pagination

/-! ## The tools -/

/-- The arguments of `scratchpad_ingest_report`. -/
structure ScratchpadIngestReportArgs where
  sessionId : Text
  tableName : Text
  report : RunReportArgs
  append : Bool

/-- The arguments of `scratchpad_ingest_realtime_report`. -/
structure ScratchpadIngestRealtimeArgs where
  sessionId : Text
  tableName : Text
  realtime : RunRealtimeReportArgs
  append : Bool

/-- The mode that `append` asks for. -/
def ingestMode (append : Bool) : ScratchpadIngestMode := if append then .append else .create

/-- Where a report goes, checked first. -/
def ScratchpadIngestReportArgs.destination (args : ScratchpadIngestReportArgs) :
    Except AnalyticsError IngestDestination := do
  checkIngestReport args.report
  let tableName ← normalizeTableIdentifier args.tableName
  return ⟨args.sessionId, args.tableName, tableName, text "run_report", ingestMode args.append⟩

def scratchpadIngestReport (server : ReportServer) (args : ScratchpadIngestReportArgs) :
    Store BoundRow × Except AnalyticsError Json :=
  ingestProjected side s args.destination
    (collectRunReportProjectionForIngest server args.report).2

/-- The checks of `scratchpad_ingest_realtime_report` on the report that it is given. -/
def checkIngestRealtime (realtime : RunRealtimeReportArgs) : Except AnalyticsError Unit := do
  validateRealtimeCursor realtime.cursor
  refuseIf realtime.summaryOnly (.invalidArgument (text "summary_only")
    (text "summary_only=true is not supported for scratchpad_ingest_realtime_report"))
  validateRealtimeInputs realtime.dimensions realtime.metrics realtime.limit realtime.offset
  validateTabularControls realtime.maxRows none none

/-- Where a realtime report goes, checked first. -/
def ScratchpadIngestRealtimeArgs.destination (args : ScratchpadIngestRealtimeArgs) :
    Except AnalyticsError IngestDestination := do
  checkIngestRealtime args.realtime
  let tableName ← normalizeTableIdentifier args.tableName
  return ⟨args.sessionId, args.tableName, tableName, text "run_realtime_report",
    ingestMode args.append⟩

/-- The rows that the one request asks for. -/
def RunRealtimeReportArgs.ingestLimit (realtime : RunRealtimeReportArgs) : Nat :=
  let pageSize := resolveIngestPageSize realtime.maxRows realtime.limit
  (realtime.limit.map fun value => min value pageSize).getD pageSize

/-- The one request of a realtime ingest. -/
def collectRunRealtimeProjectionForIngest (server : ReportServer)
    (realtime : RunRealtimeReportArgs) :
    Except AnalyticsError (GaTabularProjection × IngestPaginationStats) := do
  let data ← fetchRunRealtimeReport server realtime realtime.ingestLimit
  let projection := projectGaTabularResponse data (text "run_realtime_report")
  refuseIf (projection.rows.length > maxScratchpadIngestRows)
    (.scratchpadLimitExceeded (text "rows") (text "ingest would exceed " ++
      Text.decimal maxScratchpadIngestRows ++
      text " rows; narrow dimensions/filters or set a lower limit"))
  let pagination : IngestPaginationStats := {
    pagesFetched := 1
    pageSize := resolveIngestPageSize realtime.maxRows realtime.limit
    initialOffset := 0
    finalOffset := projection.rows.length
    requestedLimit := realtime.limit
    complete := projection.rows.length ≥ projection.rowCountTotal }
  return ({ projection with
    gaMeta := projection.gaMeta.insertField (text "ingest_pagination")
      (.ofFields pagination.fields) }, pagination)

def scratchpadIngestRealtimeReport (server : ReportServer) (args : ScratchpadIngestRealtimeArgs) :
    Store BoundRow × Except AnalyticsError Json :=
  ingestProjected side s args.destination (collectRunRealtimeProjectionForIngest server args.realtime)

end Tools

/-! ## Cells -/

/-- A row of the table: each cell is the value of its own source column, rewritten and bound. -/
def storedRow (f64 : F64) (mappings : List IngestColumnMapping) (row : JsonMap) : BoundRow :=
  mappings.map fun mapping => jsonValueToDuckValue f64
    (some (remapValueForIngestMapping (JsonMap.get row mapping.sourceName) mapping.transform))
    mapping.logicalType

theorem bindRow_remapRow {mappings : List IngestColumnMapping}
    (h : (mappings.map IngestColumnMapping.targetName).Nodup) (f64 : F64) (row : JsonMap) :
    bindRow f64 (ingestColumns mappings) (remapRowForIngest mappings row) =
      storedRow f64 mappings row := by
  rw [bindRow, ingestColumns, List.map_map, storedRow]
  refine List.map_congr_left fun mapping hmapping => ?_
  have hget : JsonMap.get (remapRowForIngest mappings row) mapping.targetName =
      some (remapValueForIngestMapping (JsonMap.get row mapping.sourceName)
        mapping.transform) := by
    refine JsonMap.get_ofFields ?_ (List.mem_map.mpr ⟨mapping, hmapping, rfl⟩)
    rw [List.map_map]
    exact h
  rw [Function.comp_apply, hget]

theorem buildIngestColumnMappings_eq_nil {columns : List ColumnMeta} :
    buildIngestColumnMappings columns = [] ↔ columns = [] := by
  cases columns with
  | nil => exact iff_of_true rfl rfl
  | cons column columns =>
      refine iff_of_false (fun hnil => ?_) (List.cons_ne_nil _ _)
      rw [buildIngestColumnMappings, List.zipIdx_cons, ingestMappingsFrom] at hnil
      dsimp only at hnil
      split at hnil
      · cases hnil
      · cases hnil

/-! ## The call of a projection -/

section Projection

variable {side : IngestSide} {s : Store BoundRow} {destination : IngestDestination}
  {projection : GaTabularProjection} {pagination : IngestPaginationStats}

theorem checkIngestProjection_eq_ok :
    checkIngestProjection projection = .ok () ↔
      projection.columns ≠ [] ∧
      (buildIngestColumnMappings projection.columns).length ≤ maxScratchpadIngestColumns ∧
      projection.rows.length ≤ maxScratchpadIngestRows := by
  have hlength : (remapRowsForIngest projection.rows
      (buildIngestColumnMappings projection.columns)).length = projection.rows.length :=
    List.length_map _
  unfold checkIngestProjection
  dsimp only
  rw [hlength]
  constructor
  · intro h
    obtain ⟨_, hsome, h⟩ := bind_eq_ok.mp h
    obtain ⟨_, hcolumns, hrows⟩ := bind_eq_ok.mp h
    rw [refuseIf_eq_ok, List.isEmpty_iff, buildIngestColumnMappings_eq_nil] at hsome
    exact ⟨hsome, not_lt.mp (refuseIf_eq_ok.mp hcolumns), not_lt.mp (refuseIf_eq_ok.mp hrows)⟩
  · rintro ⟨hsome, hcolumns, hrows⟩
    rw [ne_eq, ← buildIngestColumnMappings_eq_nil, ← List.isEmpty_iff] at hsome
    exact bind_eq_ok.mpr ⟨(), refuseIf_eq_ok.mpr hsome, bind_eq_ok.mpr ⟨(),
      refuseIf_eq_ok.mpr (not_lt.mpr hcolumns), refuseIf_eq_ok.mpr (not_lt.mpr hrows)⟩⟩

theorem validateIngestColumns_mappings (columns : List ColumnMeta) :
    validateIngestColumns [] (ingestColumns (buildIngestColumnMappings columns)) = .ok () ↔
      TargetsApart columns := by
  rw [validateIngestColumns_eq_ok, ← nodup_targets_iff, ingestColumns, List.map_map]
  constructor
  · exact fun h => h.2.1
  · refine fun h => ⟨fun column hcolumn => ?_, h, by simp⟩
    obtain ⟨mapping, hmapping, rfl⟩ := List.mem_map.mp hcolumn
    exact (isIdentifier_target hmapping).accepted _

theorem call_arguments_eq_ok (hname : IsIdentifier destination.normalizedTableName) {id : Text} :
    (destination.call side.f64 projection).arguments = .ok id ↔
      projection.columns ≠ [] ∧ normalizeSessionId destination.sessionId = .ok id ∧
        TargetsApart projection.columns := by
  have hempty : (ingestColumns (buildIngestColumnMappings projection.columns)).isEmpty = true ↔
      projection.columns = [] := by
    rw [List.isEmpty_iff, ingestColumns, List.map_eq_nil_iff, buildIngestColumnMappings_eq_nil]
  change ingestArguments destination.sessionId destination.normalizedTableName
    (ingestColumns (buildIngestColumnMappings projection.columns)) = .ok id ↔ _
  rw [ingestArguments, ← validateIngestColumns_mappings, ne_eq, ← hempty]
  constructor
  · intro h
    obtain ⟨_, hsome, h⟩ := bind_eq_ok.mp h
    obtain ⟨id', hid, h⟩ := bind_eq_ok.mp h
    obtain ⟨_, -, h⟩ := bind_eq_ok.mp h
    obtain ⟨⟨⟩, hcolumns, h⟩ := bind_eq_ok.mp h
    exact ⟨refuseIf_eq_ok.mp hsome, by rw [hid, pure_eq_ok.mp h], hcolumns⟩
  · rintro ⟨hsome, hid, hcolumns⟩
    exact bind_eq_ok.mpr ⟨(), refuseIf_eq_ok.mpr hsome, bind_eq_ok.mpr ⟨id, hid,
      bind_eq_ok.mpr ⟨(), hname.accepted _, bind_eq_ok.mpr ⟨(), hcolumns, rfl⟩⟩⟩⟩

/-- The job of a call, with the rows that it stores. -/
def IngestDestination.job (destination : IngestDestination) (side : IngestSide)
    (columns : List ColumnMeta) (rows : List JsonMap) (id : Text) : IngestJob BoundRow where
  sessionId := id
  incarnation := side.incarnation id
  tableName := destination.normalizedTableName
  columns := ingestColumns (buildIngestColumnMappings columns)
  rows := rows.map (storedRow side.f64 (buildIngestColumnMappings columns))
  mode := destination.mode

theorem call_job (h : TargetsApart projection.columns) (id : Text) :
    (destination.call side.f64 projection).job side.incarnation id =
      destination.job side projection.columns projection.rows id := by
  have hrows : (destination.call side.f64 projection).rows = projection.rows.map
      (storedRow side.f64 (buildIngestColumnMappings projection.columns)) := by
    change (projection.rows.map _).map _ = _
    rw [List.map_map]
    refine List.map_congr_left fun row _ => ?_
    exact bindRow_remapRow ((nodup_targets_iff _).mpr h) side.f64 row
  rw [IngestCall.job, hrows]
  rfl

/-- The rows are in the table of the session and are counted, and the reply says so. -/
structure Written (side : IngestSide) (s s' : Store BoundRow) (destination : IngestDestination)
    (projection : GaTabularProjection) (pagination : IngestPaginationStats) (reply : Json)
    (id : Text) : Prop where
  session : normalizeSessionId destination.sessionId = .ok id
  done : IngestDone s s' (destination.job side projection.columns projection.rows id)
  counted : ∃ snapshot, reply = ingestReply destination projection pagination
      ⟨projection.rows.length, (buildIngestColumnMappings projection.columns).length, snapshot⟩ ∧
    usedIn s'.manager.sessions id = some (snapshot.tablesUsed, snapshot.rowsUsed)

/-- No session expires before a call about this one has ended. -/
def IngestSide.LiveThrough (side : IngestSide) (s : Store BoundRow) (sessionId : Text) : Prop :=
  ∀ id, normalizeSessionId sessionId = .ok id →
    Scratchpad.LiveThrough side.config side.reserveClock side.rollbackClock s.manager id

/-- The session has not expired when the call reserves, and has its file for itself. -/
def IngestSide.Lives (side : IngestSide) (s : Store BoundRow) (sessionId : Text) : Prop :=
  ∀ id, normalizeSessionId sessionId = .ok id →
    Scratchpad.Lives side.config side.reserveClock s.manager id

/-- What is left of a call: nothing, or all of it. -/
def IngestSettles (side : IngestSide) (s : Store BoundRow) (destination : IngestDestination)
    (projection : GaTabularProjection) (pagination : IngestPaginationStats)
    (outcome : Store BoundRow × Except AnalyticsError Json) : Prop :=
  match outcome.2 with
  | .error _ => SameContents s outcome.1
  | .ok reply => ∃ id, Written side s outcome.1 destination projection pagination reply id

theorem length_call_rows :
    (destination.call side.f64 projection).rows.length = projection.rows.length := by
  change ((projection.rows.map _).map _).length = _
  rw [List.length_map, List.length_map]

theorem ingestProjection_settles (hname : IsIdentifier destination.normalizedTableName)
    (hlive : side.LiveThrough s destination.sessionId)
    (hcounter : side.config.maxRowsPerSession < usizeMax) :
    IngestSettles side s destination projection pagination
      (ingestProjectionIntoScratchpad side s destination projection pagination) := by
  unfold ingestProjectionIntoScratchpad
  cases checkIngestProjection projection with
  | error err => exact ⟨rfl, fun _ => rfl⟩
  | ok done =>
      have hend : IngestEnd side.config side.answer side.incarnation s
          (destination.call side.f64 projection) (ingestRowsWithMode side.config side.reserveClock
            side.rollbackClock side.answer side.incarnation s
            (destination.call side.f64 projection)) :=
        ingest_ends (staysLive_of_liveThrough fun id hargs =>
          hlive id ((call_arguments_eq_ok hname).mp hargs).2.1)
      -- the limit is below the largest count, so the counter does not saturate
      have hfits : ∀ id entry, Counted side.config s.manager
          (destination.call side.f64 projection) id entry →
          NoOverflow (destination.call side.f64 projection) entry :=
        rowCounterFits_iff.mp fun _ _ _ _ _ => .inl hcounter
      have hsettled := settled_of_noOverflow hend hfits
      dsimp only
      cases hcase : (ingestRowsWithMode side.config side.reserveClock side.rollbackClock
          side.answer side.incarnation s (destination.call side.f64 projection)).2 with
      | error err =>
          rw [IngestSettled, hcase] at hsettled
          exact hsettled
      | ok stats =>
          obtain ⟨id, entry, hcounted, rfl, -⟩ := counted_of_ok (fun id hargs => lives_of_liveAt
            (hlive id ((call_arguments_eq_ok hname).mp hargs).2.1).reserve id) hcase
          rw [IngestSettled, hcase] at hsettled
          obtain ⟨id', hargs, hdone⟩ := hsettled
          obtain rfl : id = id' := Except.ok.inj (hcounted.1.symm.trans hargs)
          obtain ⟨-, hid, hapart⟩ := (call_arguments_eq_ok hname).mp hargs
          rw [call_job hapart] at hdone
          have ⟨entry', hentry', hused, _⟩ := hdone
          obtain rfl : entry = entry' := Option.some.inj (hcounted.2.1.symm.trans hentry')
          have hcolumns : (destination.call side.f64 projection).columns.length =
              (buildIngestColumnMappings projection.columns).length := List.length_map _
          have hsum : entry.rowsUsed + projection.rows.length ≤ usizeMax := by
            rw [← length_call_rows]
            exact hfits id entry hcounted
          refine ⟨id, hid, hdone, snapshotOf side.config s.manager
            (entry.reserve side.reserveClock projection.rows.length destination.mode), ?_, ?_⟩
          · rw [length_call_rows, hcolumns]
            rfl
          · have hjob : (destination.job side projection.columns projection.rows id).rows.length =
                projection.rows.length := List.length_map _
            have hreserved : (entry.reserve side.reserveClock projection.rows.length
                destination.mode).used =
                entry.used + ingestCost projection.rows.length destination.mode := by
              rw [used_reserve, saturatingAdd, Nat.min_eq_left hsum]
              rfl
            dsimp only
            rw [hused, hjob]
            exact (Function.update_self ..).trans (congrArg some hreserved.symm)

/-- There is room for these rows, and the database takes them. -/
structure Ingestible (side : IngestSide) (s : Store BoundRow) (destination : IngestDestination)
    (columns : List ColumnMeta) (rows : List JsonMap) : Prop where
  someColumn : columns ≠ []
  columnsFit : (buildIngestColumnMappings columns).length ≤ maxScratchpadIngestColumns
  rowsFit : rows.length ≤ maxScratchpadIngestRows
  apart : TargetsApart columns
  room : ∃ id entry, normalizeSessionId destination.sessionId = .ok id ∧
    s.manager.sessions.lookup id = some entry ∧ TableRoom s.manager destination.mode entry ∧
    entry.rowsUsed + rows.length ≤ side.config.maxRowsPerSession ∧
    Takes (s.disk.tables entry.dbPath) (destination.job side columns rows id)

theorem saturatingAdd_le_iff {a b limit : Nat} (h : limit < usizeMax) :
    saturatingAdd a b ≤ limit ↔ a + b ≤ limit := by
  unfold saturatingAdd
  omega

theorem counted_call_iff (hname : IsIdentifier destination.normalizedTableName)
    (hcounter : side.config.maxRowsPerSession < usizeMax) {id : Text} {entry : SessionEntry} :
    Counted side.config s.manager (destination.call side.f64 projection) id entry ↔
      (projection.columns ≠ [] ∧ normalizeSessionId destination.sessionId = .ok id ∧
        TargetsApart projection.columns) ∧
      s.manager.sessions.lookup id = some entry ∧ TableRoom s.manager destination.mode entry ∧
      entry.rowsUsed + projection.rows.length ≤ side.config.maxRowsPerSession := by
  rw [Counted, call_arguments_eq_ok hname, length_call_rows, saturatingAdd_le_iff hcounter]
  exact Iff.rfl

/-- **When a projection is ingested**, by an engine that carries everything out. -/
theorem ingestProjection_isOk_iff (hname : IsIdentifier destination.normalizedTableName)
    (hlive : side.Lives s destination.sessionId)
    (hcounter : side.config.maxRowsPerSession < usizeMax) (hanswer : side.answer.CarriesOut) :
    (∃ reply, (ingestProjectionIntoScratchpad side s destination projection pagination).2 =
        .ok reply) ↔
      Ingestible side s destination projection.columns projection.rows := by
  have hcall := @ingestRowsWithMode_isOk_iff side.config side.reserveClock side.rollbackClock
    BoundRow side.answer side.incarnation s (destination.call side.f64 projection)
    (fun id hargs => hlive id ((call_arguments_eq_ok hname).mp hargs).2.1) hanswer
  unfold ingestProjectionIntoScratchpad
  cases hcheck : checkIngestProjection projection with
  | error err =>
      refine iff_of_false (fun ⟨reply, hok⟩ => (by cases hok)) fun h => ?_
      rw [checkIngestProjection_eq_ok.mpr ⟨h.someColumn, h.columnsFit, h.rowsFit⟩] at hcheck
      cases hcheck
  | ok done =>
      obtain ⟨hsome, hcolumns, hrows⟩ := checkIngestProjection_eq_ok.mp hcheck
      dsimp only
      simp only [map_eq_ok]
      constructor
      · rintro ⟨reply, stats, hok, -⟩
        obtain ⟨id, entry, hcounted, htakes⟩ := hcall.mp ⟨stats, hok⟩
        obtain ⟨⟨-, hid, hapart⟩, hentry, htables, hroom⟩ :=
          (counted_call_iff hname hcounter).mp hcounted
        rw [call_job hapart] at htakes
        exact ⟨hsome, hcolumns, hrows, hapart, id, entry, hid, hentry, htables, hroom, htakes⟩
      · rintro ⟨-, -, -, hapart, id, entry, hid, hentry, htables, hroom, htakes⟩
        rw [← call_job hapart] at htakes
        obtain ⟨stats, hok⟩ := hcall.mpr ⟨id, entry,
          (counted_call_iff hname hcounter).mpr ⟨⟨hsome, hid, hapart⟩, hentry, htables, hroom⟩,
          htakes⟩
        exact ⟨_, stats, hok, rfl⟩

end Projection

/-! ## What is collected -/

section Collected

variable {fetch : Nat → Nat → Except AnalyticsError Json} {pageSize : Nat}

/-- Whatever the upstream answers, its columns are of a kind. -/
def ColumnsAre (P : List ColumnMeta → Prop) (fetch : Nat → Nat → Except AnalyticsError Json) :
    Prop :=
  ∀ offset ≤ usizeMax, ∀ limit ≤ usizeMax, ∀ data, fetch offset limit = .ok data →
    P (projectGaTabularResponse data (text "run_report")).columns

/-- The columns that are collected are those of the first page. -/
theorem fetchPages_columns {P : List ColumnMeta → Prop} (hcolumns : ColumnsAre P fetch)
    (hpageSize : pageSize ≤ usizeMax) {pagesLeft : Nat} {s s' : IngestState}
    (hoffset : s.nextOffset ≤ usizeMax)
    (hs : (∃ columns, s.columns = some columns ∧ P columns) ∨
      s.columns = none ∧ s.requestLimit pageSize ≠ 0)
    (hok : (fetchPages fetch pageSize pagesLeft s).2 = .ok s') :
    ∃ columns, s'.columns = some columns ∧ P columns := by
  induction pagesLeft generalizing s with
  | zero => cases hok
  | succ pagesLeft ih =>
      have hlimit : s.requestLimit pageSize ≤ usizeMax := by
        unfold IngestState.requestLimit
        split
        · exact le_trans (Nat.min_le_right ..) hpageSize
        · exact hpageSize
      rw [fetchPages] at hok
      dsimp only at hok
      split at hok
      · next hzero =>
          obtain rfl := Except.ok.inj hok
          exact hs.resolve_right fun h => h.2 hzero
      split at hok
      · cases hok
      next data hfetch =>
        have hpage := hcolumns _ hoffset _ hlimit data hfetch
        have hadded : ∃ columns,
            (s.addPage (projectGaTabularResponse data (text "run_report"))).columns =
              some columns ∧ P columns := by
          -- only the first page sets them
          change ∃ columns, (s.columns <|> some _) = some columns ∧ P columns
          rcases hs with ⟨columns, hsome, hP⟩ | ⟨hnone, -⟩
          · rw [hsome]
            exact ⟨columns, rfl, hP⟩
          · rw [hnone]
            exact ⟨_, rfl, hpage⟩
        split at hok
        · cases hok
        split at hok
        · obtain rfl := Except.ok.inj hok
          exact hadded
        · exact ih (saturatingAdd_le ..) (.inl hadded) hok

variable {server : ReportServer}

/-- So what is ingested has columns of the kind that the upstream answers with. -/
theorem collectRunReport_columns {P : List ColumnMeta → Prop} {report : RunReportArgs}
    (haccepted : checkIngestReport report = .ok ())
    (hcolumns : ColumnsAre P (fetchRunReport server report))
    {projection : GaTabularProjection} {pagination : IngestPaginationStats}
    (hok : (collectRunReportProjectionForIngest server report).2 = .ok (projection, pagination)) :
    P projection.columns := by
  obtain ⟨hlimit, hoffset⟩ := checkIngestReport_ok haccepted
  have hpos := resolveIngestPageSize_pos report.maxRows report.limit
  have hpageSize := resolveIngestPageSize_le report.maxRows report.limit
  have hrequest : (IngestState.start report.offset report.limit).requestLimit
      (resolveIngestPageSize report.maxRows report.limit) ≠ 0 := by
    unfold IngestState.requestLimit
    split
    · next value hvalue =>
        have hvaluePos := hlimit value hvalue
        omega
    · omega
  obtain ⟨s, hrun, hresult⟩ := map_eq_ok.mp hok
  obtain ⟨columns, hsome, hP⟩ := fetchPages_columns hcolumns (hpageSize.trans (by decide))
    (hoffset.trans (by decide)) (.inr ⟨rfl, hrequest⟩) hrun
  have hprojection := congrArg Prod.fst hresult
  rw [ingestResult] at hprojection
  dsimp only at hprojection
  rw [← hprojection, hsome]
  exact hP

/-- A report that is kept has its columns in every answer. -/
theorem ReportTable.HonouredBy.columnsAre {table : ReportTable}
    (hhonoured : table.HonouredBy fetch) (hfits : table.rows.length ≤ usizeMax) :
    ColumnsAre (· = table.columns) fetch := by
  intro offset hoffset limit hlimit data hfetch
  obtain ⟨data', hfetch', hanswers⟩ := hhonoured offset hoffset limit hlimit
  obtain rfl : data = data' := Except.ok.inj (hfetch.symm.trans hfetch')
  exact (hanswers.projection hfits _).1

/-- The window of a report that the upstream keeps, if it takes no more than the pages and
    rows that are allowed. -/
theorem collectRunReport_fixed {report : RunReportArgs} {table : ReportTable}
    (haccepted : checkIngestReport report = .ok ()) (hfits : table.rows.length ≤ usizeMax)
    (hhonoured : table.HonouredBy (fetchRunReport server report)) :
    ((∃ collected, (collectRunReportProjectionForIngest server report).2 = .ok collected) ↔
      (windowRows table.projectedRows (report.offset.getD 0) report.limit).length ≤
          maxScratchpadIngestRows ∧
        pagesNeeded (windowRows table.projectedRows (report.offset.getD 0) report.limit).length
          (resolveIngestPageSize report.maxRows report.limit) ≤ maxScratchpadIngestPages) ∧
    ∀ projection pagination,
      (collectRunReportProjectionForIngest server report).2 = .ok (projection, pagination) →
      projection.columns = table.columns ∧
      projection.rows = windowRows table.projectedRows (report.offset.getD 0) report.limit := by
  obtain ⟨hlimit, hoffset⟩ := checkIngestReport_ok haccepted
  have hpos := resolveIngestPageSize_pos report.maxRows report.limit
  have hpageSize := resolveIngestPageSize_le report.maxRows report.limit
  have hmore : (IngestState.start report.offset report.limit).remaining ≠ some 0 := by
    intro hzero
    exact absurd (hlimit 0 hzero) (lt_irrefl 0)
  have hread := fetchPages_fixed hhonoured hfits hoffset hpos hpageSize maxScratchpadIngestPages
    ⟨countsRows_start report.offset report.limit, List.nil_prefix, Nat.zero_le _⟩ hmore
  have hnone : (IngestState.start report.offset report.limit).collectedRows.length = 0 := rfl
  rw [hnone, Nat.sub_zero] at hread
  have hcolumns : ∀ projection pagination,
      (collectRunReportProjectionForIngest server report).2 = .ok (projection, pagination) →
      projection.columns = table.columns :=
    fun _ _ => collectRunReport_columns haccepted (hhonoured.columnsAre hfits)
  rw [collectRunReportProjectionForIngest] at hcolumns ⊢
  dsimp only at hcolumns ⊢
  simp only [map_eq_ok] at hcolumns ⊢
  -- `fetchPages_fixed` decides by the room alone whether the pages are read
  split at hread
  · next hroom =>
      obtain ⟨s, hrun, -, -, hrows⟩ := hread
      refine ⟨iff_of_true ⟨_, s, hrun, rfl⟩ hroom, ?_⟩
      rintro projection pagination ⟨s', hrun', hresult⟩
      obtain rfl : s = s' := Except.ok.inj (hrun.symm.trans hrun')
      refine ⟨hcolumns projection pagination ⟨s, hrun, hresult⟩, ?_⟩
      rw [ingestResult] at hresult
      have hprojection := congrArg Prod.fst hresult
      dsimp only at hprojection
      rw [← hprojection]
      exact hrows
  · next hroom =>
      have herror : ∀ s, (fetchPages (fetchRunReport server report)
          (resolveIngestPageSize report.maxRows report.limit) maxScratchpadIngestPages
          (.start report.offset report.limit)).2 ≠ .ok s := by
        intro s hrun
        rw [hrun] at hread
        rcases hread with h | h <;> cases h
      refine ⟨iff_of_false ?_ hroom, ?_⟩
      · rintro ⟨collected, s, hrun, -⟩
        exact herror s hrun
      · rintro projection pagination ⟨s, hrun, -⟩
        exact absurd hrun (herror s)

/-- The rows of a realtime report that the upstream keeps, up to the limit. -/
theorem collectRunRealtime_fixed {realtime : RunRealtimeReportArgs} {table : ReportTable}
    (hfits : table.rows.length ≤ usizeMax)
    (hanswers : ∃ response, fetchRunRealtimeReport server realtime realtime.ingestLimit =
      .ok response ∧ table.AnswersWindow 0 realtime.ingestLimit response) :
    ∃ projection pagination,
      collectRunRealtimeProjectionForIngest server realtime = .ok (projection, pagination) ∧
      projection.columns = table.columns ∧
      projection.rows = table.projectedRows.take realtime.ingestLimit ∧
      (pagination.complete = true ↔ table.projectedRows.length ≤ realtime.ingestLimit) := by
  obtain ⟨response, hfetch, hanswer⟩ := hanswers
  obtain ⟨hcolumns, hrows, htotal⟩ := hanswer.projection hfits (text "run_realtime_report")
  rw [List.drop_zero] at hrows
  have hlimit : realtime.ingestLimit ≤ maxTabularMaxRows := by
    have hpageSize := resolveIngestPageSize_le realtime.maxRows realtime.limit
    unfold RunRealtimeReportArgs.ingestLimit
    dsimp only
    cases realtime.limit with
    | none => exact resolveIngestPageSize_le realtime.maxRows none
    | some value =>
        exact le_trans (Nat.min_le_right ..) (resolveIngestPageSize_le realtime.maxRows _)
  have hcap : ¬ (projectGaTabularResponse response (text "run_realtime_report")).rows.length >
      maxScratchpadIngestRows := by
    rw [hrows, List.length_take]
    unfold maxTabularMaxRows at hlimit
    unfold maxScratchpadIngestRows
    omega
  refine ⟨_, _, bind_eq_ok.mpr ⟨response, hfetch, bind_eq_ok.mpr ⟨(), refuseIf_eq_ok.mpr hcap,
    rfl⟩⟩, hcolumns, hrows, ?_⟩
  dsimp only
  rw [decide_eq_true_iff, hrows, htotal, List.length_take]
  omega

end Collected

/-! ## The two tools -/

theorem isIdentifier_normalizeTableIdentifier {raw name : Text}
    (h : normalizeTableIdentifier raw = .ok name) : IsIdentifier name := by
  obtain ⟨_, -, h⟩ := bind_eq_ok.mp h
  rw [← pure_eq_ok.mp h]
  exact isIdentifier_normalizeSqlIdentifier ⟨⟨'t', rfl, rfl⟩, List.all_eq_true.mp rfl⟩ raw

section Settled

variable {side : IngestSide} {s : Store BoundRow}

/-- What an ingest tool leaves behind: nothing, or the rows that it has read. -/
def LeavesAllOrNothing (side : IngestSide) (s : Store BoundRow)
    (destination : Except AnalyticsError IngestDestination)
    (collected : Except AnalyticsError (GaTabularProjection × IngestPaginationStats))
    (outcome : Store BoundRow × Except AnalyticsError Json) : Prop :=
  match outcome.2 with
  | .error _ => SameContents s outcome.1
  | .ok reply => ∃ destination' projection pagination id,
      destination = .ok destination' ∧ collected = .ok (projection, pagination) ∧
        Written side s outcome.1 destination' projection pagination reply id

theorem ingestProjected_settles {destination : Except AnalyticsError IngestDestination}
    {collected : Except AnalyticsError (GaTabularProjection × IngestPaginationStats)}
    {sessionId : Text} (hdestination : ∀ destination', destination = .ok destination' →
      IsIdentifier destination'.normalizedTableName ∧ destination'.sessionId = sessionId)
    (hlive : side.LiveThrough s sessionId)
    (hcounter : side.config.maxRowsPerSession < usizeMax) :
    LeavesAllOrNothing side s destination collected (ingestProjected side s destination collected) := by
  unfold ingestProjected
  split
  · exact ⟨rfl, fun _ => rfl⟩
  · exact ⟨rfl, fun _ => rfl⟩
  · next destination' projection pagination =>
      obtain ⟨hname, rfl⟩ := hdestination _ rfl
      have hsettles := @ingestProjection_settles side s destination' projection pagination
        hname hlive hcounter
      unfold IngestSettles at hsettles
      unfold LeavesAllOrNothing
      cases houtcome : (ingestProjectionIntoScratchpad side s destination' projection
          pagination).2 with
      | error err =>
          rw [houtcome] at hsettles
          exact hsettles
      | ok reply =>
          rw [houtcome] at hsettles
          obtain ⟨id, hwritten⟩ := hsettles
          exact ⟨destination', projection, pagination, id, rfl, rfl, hwritten⟩

theorem destination_of_make {checks : Except AnalyticsError Unit} {raw : Text}
    {destination : IngestDestination} {make : Text → IngestDestination} {sessionId : Text}
    (hmake : ∀ name, (make name).normalizedTableName = name ∧ (make name).sessionId = sessionId)
    (h : (do
      checks
      let name ← normalizeTableIdentifier raw
      return make name) = Except.ok destination) :
    IsIdentifier destination.normalizedTableName ∧ destination.sessionId = sessionId := by
  obtain ⟨_, -, h⟩ := bind_eq_ok.mp h
  obtain ⟨name, hname, h⟩ := bind_eq_ok.mp h
  rw [← pure_eq_ok.mp h, (hmake name).1, (hmake name).2]
  exact ⟨isIdentifier_normalizeTableIdentifier hname, rfl⟩

/-- Either tool writes to an identifier, in the session it is told. -/
theorem ScratchpadIngestReportArgs.destination_ok {args : ScratchpadIngestReportArgs}
    (destination : IngestDestination) (h : args.destination = .ok destination) :
    IsIdentifier destination.normalizedTableName ∧ destination.sessionId = args.sessionId :=
  destination_of_make (fun _ => ⟨rfl, rfl⟩) h

theorem ScratchpadIngestRealtimeArgs.destination_ok {args : ScratchpadIngestRealtimeArgs}
    (destination : IngestDestination) (h : args.destination = .ok destination) :
    IsIdentifier destination.normalizedTableName ∧ destination.sessionId = args.sessionId :=
  destination_of_make (fun _ => ⟨rfl, rfl⟩) h

/-- **All or nothing**, whatever the upstream and the engine answer: a tool that fails leaves
    counters and tables as they were; one that succeeds has added the rows that it read to the
    table it was told, each cell the bound value of its own source column, and counted them. -/
theorem ingestTools_settle {args : ScratchpadIngestReportArgs}
    {realtime : ScratchpadIngestRealtimeArgs} (hargs : side.LiveThrough s args.sessionId)
    (hrealtime : side.LiveThrough s realtime.sessionId)
    (hcounter : side.config.maxRowsPerSession < usizeMax) (server : ReportServer) :
    LeavesAllOrNothing side s args.destination
      (collectRunReportProjectionForIngest server args.report).2
      (scratchpadIngestReport side s server args) ∧
    LeavesAllOrNothing side s realtime.destination
      (collectRunRealtimeProjectionForIngest server realtime.realtime)
      (scratchpadIngestRealtimeReport side s server realtime) :=
  ⟨ingestProjected_settles args.destination_ok hargs hcounter,
    ingestProjected_settles realtime.destination_ok hrealtime hcounter⟩

theorem ingestProjected_isOk_iff {destination : Except AnalyticsError IngestDestination}
    {collected : Except AnalyticsError (GaTabularProjection × IngestPaginationStats)}
    {sessionId : Text} (hdestination : ∀ destination', destination = .ok destination' →
      IsIdentifier destination'.normalizedTableName ∧ destination'.sessionId = sessionId)
    (hlive : side.Lives s sessionId)
    (hcounter : side.config.maxRowsPerSession < usizeMax) (hanswer : side.answer.CarriesOut) :
    (∃ reply, (ingestProjected side s destination collected).2 = .ok reply) ↔
      ∃ destination' projection pagination, destination = .ok destination' ∧
        collected = .ok (projection, pagination) ∧
        Ingestible side s destination' projection.columns projection.rows := by
  cases destination with
  | error err =>
      refine iff_of_false (fun ⟨reply, hok⟩ => ?_) fun ⟨_, _, _, hok, _⟩ => by cases hok
      cases collected <;> cases hok
  | ok destination' =>
      cases collected with
      | error err =>
          exact iff_of_false (fun ⟨reply, hok⟩ => (by cases hok))
            fun ⟨_, _, _, _, hok, _⟩ => by cases hok
      | ok collected =>
          obtain ⟨hname, rfl⟩ := hdestination _ rfl
          have hprojection := @ingestProjection_isOk_iff side s destination' collected.1
            collected.2 hname hlive hcounter hanswer
          refine hprojection.trans ⟨fun h => ⟨_, _, _, rfl, rfl, h⟩, ?_⟩
          rintro ⟨_, _, _, hdestination, hcollected, h⟩
          cases hdestination
          cases hcollected
          exact h

/-- **When a report is ingested** and what of it, if the upstream keeps it and the engine
    carries everything out: its window, in at most so many pages, where there is room. -/
theorem scratchpadIngestReport_isOk_iff {server : ReportServer}
    {args : ScratchpadIngestReportArgs} {table : ReportTable}
    (hlive : side.Lives s args.sessionId) (hcounter : side.config.maxRowsPerSession < usizeMax)
    (hanswer : side.answer.CarriesOut)
    (hfits : table.rows.length ≤ usizeMax)
    (hhonoured : table.HonouredBy (fetchRunReport server args.report)) :
    (∃ reply, (scratchpadIngestReport side s server args).2 = .ok reply) ↔
      ∃ destination, args.destination = .ok destination ∧
        pagesNeeded (windowRows table.projectedRows (args.report.offset.getD 0)
          args.report.limit).length (resolveIngestPageSize args.report.maxRows args.report.limit) ≤
            maxScratchpadIngestPages ∧
        Ingestible side s destination table.columns (windowRows table.projectedRows
          (args.report.offset.getD 0) args.report.limit) := by
  rw [scratchpadIngestReport,
    ingestProjected_isOk_iff args.destination_ok hlive hcounter hanswer]
  constructor
  · rintro ⟨destination, projection, pagination, hdestination, hcollected, h⟩
    obtain ⟨⟨⟩, haccepted, -⟩ := bind_eq_ok.mp hdestination
    obtain ⟨hroom, hread⟩ := collectRunReport_fixed haccepted hfits hhonoured
    obtain ⟨hcolumns, hrows⟩ := hread _ _ hcollected
    rw [hcolumns, hrows] at h
    exact ⟨destination, hdestination, (hroom.mp ⟨_, hcollected⟩).2, h⟩
  · rintro ⟨destination, hdestination, hpages, h⟩
    obtain ⟨⟨⟩, haccepted, -⟩ := bind_eq_ok.mp hdestination
    obtain ⟨hroom, hread⟩ := collectRunReport_fixed haccepted hfits hhonoured
    obtain ⟨⟨projection, pagination⟩, hcollected⟩ := hroom.mpr ⟨h.rowsFit, hpages⟩
    obtain ⟨hcolumns, hrows⟩ := hread _ _ hcollected
    rw [← hcolumns, ← hrows] at h
    exact ⟨destination, projection, pagination, hdestination, hcollected, h⟩

/-- **When a realtime report is ingested**, likewise: its first rows, in one page. -/
theorem scratchpadIngestRealtimeReport_isOk_iff {server : ReportServer}
    {args : ScratchpadIngestRealtimeArgs} {table : ReportTable}
    (hlive : side.Lives s args.sessionId) (hcounter : side.config.maxRowsPerSession < usizeMax)
    (hanswer : side.answer.CarriesOut)
    (hfits : table.rows.length ≤ usizeMax)
    (hanswers : ∃ response,
      fetchRunRealtimeReport server args.realtime args.realtime.ingestLimit = .ok response ∧
        table.AnswersWindow 0 args.realtime.ingestLimit response) :
    (∃ reply, (scratchpadIngestRealtimeReport side s server args).2 = .ok reply) ↔
      ∃ destination, args.destination = .ok destination ∧
        Ingestible side s destination table.columns
          (table.projectedRows.take args.realtime.ingestLimit) := by
  rw [scratchpadIngestRealtimeReport,
    ingestProjected_isOk_iff args.destination_ok hlive hcounter hanswer]
  obtain ⟨projection, pagination, hcollected, hcolumns, hrows, -⟩ :=
    collectRunRealtime_fixed hfits hanswers
  rw [hcollected, ← hcolumns, ← hrows]
  constructor
  · rintro ⟨destination, _, _, hdestination, hsame, h⟩
    cases hsame
    exact ⟨destination, hdestination, h⟩
  · rintro ⟨destination, hdestination, h⟩
    exact ⟨destination, projection, pagination, hdestination, rfl, h⟩

end Settled

/-! ## A report of countries -/

/-- How `f64` writes the number one. -/
def oneF64 : F64 where
  number _ := text "1.0"
  display _ := text "1"

/-- A session side whose engine carries out every statement. -/
def fineSide : IngestSide := ⟨defaultConfig, .at 1, .at 2, .fine, fun _ => 1, oneF64⟩

/-- The session `s`, just opened. -/
def openStore : Store BoundRow := ⟨opened.manager, .empty⟩

theorem liveThrough_openStore : fineSide.LiveThrough openStore (text "s") := by
  intro id hid
  obtain rfl : text "s" = id := Except.ok.inj hid
  have hrollback : LiveAt fineSide.config fineSide.rollbackClock openStore.manager := by
    decide +kernel
  exact ⟨by decide +kernel, fun j _ => hrollback.not_expired j, by decide⟩

theorem lives_openStore : fineSide.Lives openStore (text "s") :=
  fun id hid => lives_of_liveAt (liveThrough_openStore id hid).reserve id

/-- The paged report into the table `Countries`. -/
def countries : ScratchpadIngestReportArgs := ⟨text "s", text "Countries", pagedReport, false⟩

/-- The realtime report into that table. -/
def realtimeCountries : ScratchpadIngestRealtimeArgs :=
  ⟨text "s", text "Countries", liveCountries, false⟩

theorem ingestTools_settle_countries :
    LeavesAllOrNothing fineSide openStore countries.destination
      (collectRunReportProjectionForIngest (windowServer (numberedReport 7)).toReportServer
        countries.report).2
      (scratchpadIngestReport fineSide openStore (windowServer (numberedReport 7)).toReportServer
        countries) ∧
    LeavesAllOrNothing fineSide openStore realtimeCountries.destination
      (collectRunRealtimeProjectionForIngest (windowServer (numberedReport 7)).toReportServer
        realtimeCountries.realtime)
      (scratchpadIngestRealtimeReport fineSide openStore
        (windowServer (numberedReport 7)).toReportServer realtimeCountries) :=
  ingestTools_settle liveThrough_openStore liveThrough_openStore (by decide) _

theorem ingestible_countries {rows : List JsonMap} (hrows : rows.length ≤ 7) {reportKind : Text} :
    Ingestible fineSide openStore ⟨text "s", text "Countries", text "countries", reportKind, .create⟩
      (numberedReport 7).columns rows where
  someColumn := by decide +kernel
  columnsFit := by decide +kernel
  rowsFit := hrows.trans (by decide)
  apart := by decide +kernel
  room := by
    have hid : normalizeSessionId (text "s") = .ok (text "s") := by decide
    have hroom : 0 + rows.length ≤ defaultConfig.maxRowsPerSession :=
      le_trans (Nat.add_le_add_left hrows 0) (by decide)
    exact ⟨text "s", ⟨text "session-s.duckdb", 0, 0, 0⟩, hid, by decide +kernel,
      fun _ => by decide +kernel, hroom, Bool.false_ne_true⟩

/-- Five of seven rows, in three pages. -/
theorem countries_ingested : ∃ reply, (scratchpadIngestReport fineSide openStore
    (windowServer (numberedReport 7)).toReportServer countries).2 = .ok reply := by
  have hlength := length_numberedReport 7
  have hwindow : windowRows (numberedReport 7).projectedRows (countries.report.offset.getD 0)
      countries.report.limit = (numberedReport 7).projectedRows.drop 2 := rfl
  have hcount : ((numberedReport 7).projectedRows.drop 2).length = 5 := by
    rw [List.length_drop, hlength]
  have hiff := @scratchpadIngestReport_isOk_iff fineSide openStore
    (windowServer (numberedReport 7)).toReportServer countries (numberedReport 7)
    lives_openStore (by decide) (fun _ => rfl) (by decide) (honouredBy_windowServer _)
  refine hiff.mpr ⟨_, rfl, ?_, ?_⟩
  · rw [hwindow, hcount]
    decide
  · rw [hwindow]
    exact ingestible_countries (by rw [hcount]; decide)

/-- The three first of seven rows. -/
theorem realtimeCountries_ingested : ∃ reply, (scratchpadIngestRealtimeReport fineSide openStore
    (windowServer (numberedReport 7)).toReportServer realtimeCountries).2 = .ok reply := by
  have hlimit : realtimeCountries.realtime.ingestLimit = 3 := rfl
  have hanswers := liveCountries_answered 7
  rw [← hlimit] at hanswers
  have hiff := @scratchpadIngestRealtimeReport_isOk_iff fineSide openStore
    (windowServer (numberedReport 7)).toReportServer realtimeCountries (numberedReport 7)
    lives_openStore (by decide) (fun _ => rfl) (by decide) hanswers
  refine hiff.mpr ⟨_, rfl, ingestible_countries ?_⟩
  rw [List.length_take, hlimit]
  exact le_trans (Nat.min_le_left ..) (by decide)

end Ga4Mcp.Tools
